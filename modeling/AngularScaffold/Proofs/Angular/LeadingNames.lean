import AngularScaffold.Angular.Resolution
import AngularScaffold.Proofs.Expression.Fillers
import AngularScaffold.Proofs.TypeScript.PlainText

namespace AngularScaffold

namespace Expression

open Naming TypeScript Unicode

/-- Behind white space an expression begins with `id`, which goes no further and does not start with a digit. -/
structure BeginsWith (expression id : String) (rest : List Char) : Prop where
  whole : ∃ blank, expression.toList = blank ++ (id.toList ++ rest) ∧ ∀ c ∈ blank, isWhitespace c = true
  start : ∃ c cs, id.toList = c :: cs ∧ c.isDigit = false
  letters : ∀ c ∈ id.toList, inIdentifier c = true
  ends : EndsName rest

variable {expression id : String} {rest : List Char}

theorem trimStart_blanks {blank : List Char} (hblank : ∀ c ∈ blank, isWhitespace c = true) (cs : List Char) :
    trimStart (blank ++ cs) = trimStart cs := by
  rw [trimStart, List.dropWhile_append_of_pos hblank]
  rfl

theorem trimStart_eq_self {c : Char} {cs : List Char} (h : isWhitespace c = false) : trimStart (c :: cs) = c :: cs :=
  List.dropWhile_cons_of_neg (Bool.not_eq_true _ ▸ h)

theorem exists_blank (cs : List Char) : ∃ blank, cs = blank ++ trimStart cs ∧ ∀ c ∈ blank, isWhitespace c = true :=
  ⟨cs.takeWhile isWhitespace, List.takeWhile_append_dropWhile.symm, List.all_eq_true.mp List.all_takeWhile⟩

theorem BeginsWith.trimStart_eq (h : BeginsWith expression id rest) :
    trimStart expression.toList = id.toList ++ rest := by
  obtain ⟨blank, hwhole, hblank⟩ := h.whole
  obtain ⟨c, cs, hid, -⟩ := h.start
  have hletter := isWhitespace_eq_false (h.letters c (hid ▸ List.mem_cons_self))
  rw [hwhole, trimStart_blanks hblank, hid, List.cons_append, trimStart_eq_self hletter]

theorem leadingIdentifier?_eq_some :
    leadingIdentifier? expression = some id ↔ ∃ rest, BeginsWith expression id rest := by
  constructor
  · intro h
    unfold leadingIdentifier? at h
    split at h
    · cases h
    · rename_i c cs hword
      split at h
      · cases h
      · rename_i hdigit
        cases h
        have hletters : ∀ x ∈ c :: cs, inIdentifier x = true := by
          rw [← hword]
          exact List.all_eq_true.mp List.all_takeWhile
        obtain ⟨blank, hwhole, hblank⟩ := exists_blank expression.toList
        rw [← word_append_afterWord (trimStart expression.toList), hword] at hwhole
        refine ⟨afterWord (trimStart expression.toList), ?_⟩
        constructor
        · exact ⟨blank, by rwa [String.toList_ofList], hblank⟩
        · exact ⟨c, cs, String.toList_ofList, Bool.not_eq_true _ ▸ hdigit⟩
        · rwa [String.toList_ofList]
        · exact endsName_afterWord _
  · rintro ⟨rest, h⟩
    obtain ⟨c, cs, hid, hdigit⟩ := h.start
    have hword := (word_append_of_forall h.letters h.ends).1
    rw [leadingIdentifier?, h.trimStart_eq, hword, hid]
    simp only [hdigit, Bool.false_eq_true, if_false]
    rw [← hid, String.ofList_toList]

theorem leadingIdentifier?_isSome : (leadingIdentifier? expression).isSome = true ↔
    ∃ c ∈ (trimStart expression.toList).head?, inIdentifier c = true ∧ c.isDigit = false := by
  rw [Option.isSome_iff_exists]
  constructor
  · rintro ⟨id, hid⟩
    obtain ⟨rest, h⟩ := leadingIdentifier?_eq_some.mp hid
    obtain ⟨c, cs, hchars, hdigit⟩ := h.start
    refine ⟨c, ?_, h.letters c (hchars ▸ List.mem_cons_self), hdigit⟩
    rw [h.trimStart_eq, hchars]
    rfl
  · rintro ⟨c, hc, hletter, hdigit⟩
    obtain ⟨cs, hcs⟩ := List.head?_eq_some_iff.mp hc
    refine ⟨String.ofList (c :: word cs), ?_⟩
    have hword : word (c :: cs) = c :: word cs := List.takeWhile_cons_of_pos hletter
    rw [leadingIdentifier?, hcs, hword]
    simp only [hdigit, Bool.false_eq_true, if_false]

theorem BeginsWith.identifiers_eq (h : BeginsWith expression id rest) (hkeyword : id ∉ keywords)
    (hcolon : (trimStart rest).head? ≠ some ':') : ∃ others, identifiers expression = id :: others := by
  obtain ⟨blank, hwhole, hblank⟩ := h.whole
  obtain ⟨c, cs, hid, hdigit⟩ := h.start
  obtain ⟨hletter, hletters⟩ := List.forall_mem_cons.mp (hid ▸ h.letters)
  obtain ⟨hword, hafter⟩ := word_append_of_forall hletters h.ends
  have hfree : Context.isFree {} c id rest = true := by
    simp [Context.isFree, Context.isMember, Context.isKey, hcolon, hdigit, hkeyword]
  rw [identifiers, hwhole, (interchangeable_blanks hblank _).words, hid, List.cons_append,
    identifiersFrom_word hletter, hword, hafter, ← hid, String.ofList_toList, if_pos hfree]
  exact ⟨_, rfl⟩

end Expression

namespace Angular

open Expression Naming TypeScript

/-- An expression has a leading identifier exactly if an identifier character other than a digit comes first behind
white space, and it is then the whole run of such characters. It is the first free identifier unless it is a keyword
or a colon follows it; and if it is neither declared by the file nor found anywhere, the file gets a warning of it. -/
theorem leading_names (m : Manifest) (binding expression : String) :
    ((leadingIdentifier? expression).isSome = true ↔
      ∃ c ∈ (trimStart expression.toList).head?, inIdentifier c = true ∧ c.isDigit = false) ∧
    (∀ id, leadingIdentifier? expression = some id ↔ ∃ rest, BeginsWith expression id rest) ∧
    ∀ id rest, BeginsWith expression id rest → id ∉ keywords → (trimStart rest).head? ≠ some ':' →
      (identifiers expression).head? = some id ∧
      (id ≠ binding → sourceOf? m id = none → ⟨id, binding⟩ ∈ warningsFor m binding expression) := by
  refine ⟨leadingIdentifier?_isSome, fun id => leadingIdentifier?_eq_some, ?_⟩
  intro id rest h hkeyword hcolon
  obtain ⟨others, hids⟩ := h.identifiers_eq hkeyword hcolon
  refine ⟨by rw [hids]; rfl, ?_⟩
  intro hbinding hsource
  have hleading := leadingIdentifier?_eq_some.mpr ⟨rest, h⟩
  have hmem : id ∈ foreignNames binding expression := by
    rw [foreignNames, hids]
    exact List.mem_filter.mpr ⟨List.mem_cons_self, by simpa using hbinding⟩
  refine List.mem_map.mpr ⟨id, List.mem_filter.mpr ⟨hmem, ?_⟩, rfl⟩
  rw [hsource, hleading]
  simp

def lonely : Manifest where
  project := ⟨"lonely", none⟩
  symbols := .empty
  components := .empty
  directives := .empty
  modules := .empty
  application := some (.ofList [("providers", .list [.text " provideStore(reducers)"])])
  routes := []

theorem store_warned : BeginsWith " provideStore(reducers)" "provideStore" "(reducers)".toList ∧
    "provideStore" ∉ keywords ∧ (trimStart "(reducers)".toList).head? ≠ some ':' ∧ "provideStore" ≠ configName ∧
    sourceOf? lonely "provideStore" = none ∧
    (identifiers " provideStore(reducers)").head? = some "provideStore" ∧
    ⟨"provideStore", configName⟩ ∈ warningsFor lonely configName " provideStore(reducers)" := by
  have hbegins : BeginsWith " provideStore(reducers)" "provideStore" "(reducers)".toList := by
    refine ⟨⟨[' '], by decide +kernel, List.forall_mem_singleton.mpr (by decide)⟩,
      ⟨'p', "rovideStore".toList, by decide +kernel, by decide⟩, List.all_eq_true.mp (by decide +kernel), ?_⟩
    exact endsName_cons "reducers)".toList (by decide)
  have hkeyword : "provideStore" ∉ keywords := by decide +kernel
  have hcolon : (trimStart "(reducers)".toList).head? ≠ some ':' := by decide +kernel
  have hbinding : "provideStore" ≠ configName := by decide +kernel
  have hsource : sourceOf? lonely "provideStore" = none := by decide +kernel
  obtain ⟨-, -, hfound⟩ := leading_names lonely configName " provideStore(reducers)"
  obtain ⟨hfirst, hwarned⟩ := hfound _ _ hbegins hkeyword hcolon
  exact ⟨hbegins, hkeyword, hcolon, hbinding, hsource, hfirst, hwarned hbinding hsource⟩

end Angular

end AngularScaffold
