import AngularScaffold.Proofs.Naming.StemCharacters
import Mathlib.Data.List.Chain

/-!
Where the dashes of a kebab name stand. Main statement: a kebab name is made of the lower-case forms of the letters
of a name, in their order, and between those of two neighbours stands one dash or none, one exactly if a word begins
at the second.
-/

namespace AngularScaffold.Naming

open Unicode

def expansion (name : List Char) : List Char :=
  (name.filter fun c => !isSeparator c).flatMap lowercase

def withoutDashes (text : List Char) : List Char :=
  text.filter fun x => x != '-'

/-- A word begins at the letter `d`, which `gap` separates from the letter `c` and which `after` follows. -/
inductive Begins (c : Char) (gap : List Char) (d : Char) (after : List Char) : Prop
  | separated : gap ≠ [] → Begins c gap d after
  | behindSmall : isUppercase d = true → isLowercase c = true → Begins c gap d after
  | behindDigit : isUppercase d = true → c.isDigit = true → Begins c gap d after
  | lastCapital {e : Char} {more : List Char} : isUppercase d = true → isUppercase c = true →
      after = e :: more → isLowercase e = true → Begins c gap d after

variable {fits : Bool} {previous : Option Char} {c d : Char} {name rest gap after : List Char}

theorem lowercase_ne_nil (c : Char) : lowercase c ≠ [] := by
  rw [lowercase]
  split
  · exact List.cons_ne_nil _ _
  · split
    · exact List.cons_ne_nil _ _
    · exact List.cons_ne_nil _ _

theorem dash_notMem_lowercase (h : isSeparator c = false) : '-' ∉ lowercase c := by
  intro hdash
  rcases small_of_mem_lowercase hdash with rfl | hsmall
  · cases h
  · exact absurd hsmall (by decide)

theorem withoutDashes_append (a b : List Char) :
    withoutDashes (a ++ b) = withoutDashes a ++ withoutDashes b :=
  List.filter_append a b

theorem withoutDashes_lowercase (h : isSeparator c = false) : withoutDashes (lowercase c) = lowercase c := by
  apply List.filter_eq_self.mpr
  intro x hx
  rw [bne_iff_ne]
  rintro rfl
  exact dash_notMem_lowercase h hx

theorem expansion_separator (h : isSeparator c = true) (rest : List Char) :
    expansion (c :: rest) = expansion rest := by
  rw [expansion, List.filter_cons_of_neg (by simp [h])]
  rfl

theorem expansion_letter (h : isSeparator c = false) (rest : List Char) :
    expansion (c :: rest) = lowercase c ++ expansion rest := by
  rw [expansion, List.filter_cons_of_pos (by simp [h]), List.flatMap_cons]
  rfl

def dashIf (b : Bool) : List Char :=
  if b then ['-'] else []

theorem withoutDashes_dashIf (b : Bool) : withoutDashes (dashIf b) = [] := by
  cases b <;> rfl

theorem kebabFrom_separator (h : isSeparator c = true) :
    kebabFrom fits previous (c :: rest) = dashIf fits ++ kebabFrom false (some c) rest := by
  rw [kebabFrom, if_pos h]
  cases fits <;> rfl

theorem kebabFrom_letter (h : isSeparator c = false) : kebabFrom fits previous (c :: rest) =
    dashIf (fits && previous.any (startsWord · c rest)) ++ (lowercase c ++ kebabFrom true (some c) rest) := by
  rw [kebabFrom, if_neg (Bool.not_eq_true _ ▸ h)]
  cases fits && previous.any (startsWord · c rest) <;> rfl

theorem withoutDashes_kebabFrom : withoutDashes (kebabFrom fits previous name) = expansion name := by
  induction name generalizing fits previous with
  | nil => rfl
  | cons c rest ih =>
    by_cases h : isSeparator c = true
    · rw [kebabFrom_separator h, withoutDashes_append, withoutDashes_dashIf, ih, expansion_separator h,
        List.nil_append]
    · rw [Bool.not_eq_true] at h
      rw [kebabFrom_letter h, withoutDashes_append, withoutDashes_append, withoutDashes_dashIf,
        withoutDashes_lowercase h, ih, expansion_letter h, List.nil_append]

theorem exists_front (front back : List Char) (fits : Bool) (previous : Option Char) :
    ∃ left fits' previous', kebabFrom fits previous (front ++ back) = left ++ kebabFrom fits' previous' back ∧
      withoutDashes left = expansion front := by
  induction front generalizing fits previous with
  | nil => exact ⟨[], fits, previous, rfl, rfl⟩
  | cons c front ih =>
    by_cases h : isSeparator c = true
    · obtain ⟨left, fits', previous', hrun, hleft⟩ := ih false (some c)
      refine ⟨dashIf fits ++ left, fits', previous', ?_, ?_⟩
      · rw [List.cons_append, kebabFrom_separator h, hrun, List.append_assoc]
      · rw [withoutDashes_append, withoutDashes_dashIf, hleft, expansion_separator h, List.nil_append]
    · rw [Bool.not_eq_true] at h
      obtain ⟨left, fits', previous', hrun, hleft⟩ := ih true (some c)
      refine ⟨dashIf (fits && previous.any (startsWord · c (front ++ back))) ++ (lowercase c ++ left),
        fits', previous', ?_, ?_⟩
      · rw [List.cons_append, kebabFrom_letter h, hrun, List.append_assoc, List.append_assoc]
      · rw [withoutDashes_append, withoutDashes_append, withoutDashes_dashIf, withoutDashes_lowercase h, hleft,
          expansion_letter h, List.nil_append]

theorem kebabFrom_gap (hgap : ∀ s ∈ gap, isSeparator s = true) (hd : isSeparator d = false) :
    kebabFrom false previous (gap ++ d :: after) = lowercase d ++ kebabFrom true (some d) after := by
  induction gap generalizing previous with
  | nil =>
    rw [List.nil_append, kebabFrom_letter hd]
    rfl
  | cons s gap ih =>
    obtain ⟨hs, hgap⟩ := List.forall_mem_cons.mp hgap
    rw [List.cons_append, kebabFrom_separator hs, ih hgap]
    rfl

theorem startsWord_iff : startsWord c d after = true ↔ Begins c [] d after := by
  simp only [startsWord, Bool.and_eq_true, Bool.or_eq_true, Option.any_eq_true]
  constructor
  · rintro ⟨hd, (hc | hc) | ⟨hc, e, hhead, he⟩⟩
    · exact .behindSmall hd hc
    · exact .behindDigit hd hc
    · obtain ⟨more, hmore⟩ := List.head?_eq_some_iff.mp hhead
      exact .lastCapital hd hc hmore he
  · intro h
    cases h with
    | separated h => exact absurd rfl h
    | behindSmall hd hc => exact ⟨hd, .inl (.inl hc)⟩
    | behindDigit hd hc => exact ⟨hd, .inl (.inr hc)⟩
    | lastCapital hd hc hafter he => exact ⟨hd, .inr ⟨hc, _, by rw [hafter, List.head?_cons], he⟩⟩

theorem exists_dash (c : Char) (after : List Char) (hgap : ∀ s ∈ gap, isSeparator s = true) (hd : isSeparator d = false) :
    ∃ b, kebabFrom true (some c) (gap ++ d :: after) =
        dashIf b ++ (lowercase d ++ kebabFrom true (some d) after) ∧
      (b = true ↔ Begins c gap d after) := by
  cases gap with
  | nil =>
    refine ⟨startsWord c d after, ?_, startsWord_iff⟩
    rw [List.nil_append, kebabFrom_letter hd]
    rfl
  | cons s gap =>
    obtain ⟨hs, hgap⟩ := List.forall_mem_cons.mp hgap
    refine ⟨true, ?_, iff_of_true rfl (.separated (List.cons_ne_nil s gap))⟩
    rw [List.cons_append, kebabFrom_separator hs, kebabFrom_gap hgap hd]

theorem head?_kebabFrom (previous : Option Char) (name : List Char) :
    (kebabFrom false previous name).head? ≠ some '-' := by
  induction name generalizing previous with
  | nil => exact nofun
  | cons c rest ih =>
    by_cases h : isSeparator c = true
    · rw [kebabFrom_separator h]
      exact ih (some c)
    · rw [Bool.not_eq_true] at h
      obtain ⟨x, xs, hx⟩ := List.exists_cons_of_ne_nil (lowercase_ne_nil c)
      rw [kebabFrom_letter h, hx]
      intro hhead
      apply dash_notMem_lowercase h
      rw [hx, Option.some.inj hhead]
      exact List.mem_cons_self

def Spaced (text : List Char) : Prop :=
  text.IsChain fun x y => ¬(x = '-' ∧ y = '-')

theorem Spaced.of_notMem {text : List Char} (h : '-' ∉ text) : Spaced text := by
  unfold Spaced
  apply List.Pairwise.isChain
  apply List.Pairwise.imp_of_mem (R := fun _ _ => True)
  · rintro x y hx - - ⟨rfl, -⟩
    exact h hx
  · exact List.pairwise_of_forall fun _ _ => trivial

theorem Spaced.append {a b : List Char} (ha : Spaced a) (hb : Spaced b)
    (h : a.getLast? ≠ some '-' ∨ b.head? ≠ some '-') : Spaced (a ++ b) := by
  refine List.isChain_append.mpr ⟨ha, hb, ?_⟩
  rintro x hx y hy ⟨rfl, rfl⟩
  rcases h with h | h
  · exact h hx
  · exact h hy

theorem Spaced.no_double {text : List Char} (h : Spaced text) : ¬['-', '-'] <:+: text := by
  intro hin
  have hpair := List.IsChain.infix h hin
  simp at hpair

theorem spaced_kebabFrom : Spaced (kebabFrom fits previous name) := by
  induction name generalizing fits previous with
  | nil => exact .nil
  | cons c rest ih =>
    have hdash (b : Bool) : Spaced (dashIf b) := by
      cases b
      · exact .nil
      · exact .singleton _
    by_cases h : isSeparator c = true
    · rw [kebabFrom_separator h]
      exact (hdash fits).append ih (.inr (head?_kebabFrom _ _))
    · rw [Bool.not_eq_true] at h
      have hfree := dash_notMem_lowercase h
      rw [kebabFrom_letter h]
      refine (hdash _).append ((Spaced.of_notMem hfree).append ih (.inl ?_)) (.inr ?_)
      · intro hlast
        exact hfree (List.mem_of_getLast? hlast)
      · obtain ⟨x, xs, hx⟩ := List.exists_cons_of_ne_nil (lowercase_ne_nil c)
        rw [hx] at hfree ⊢
        intro hhead
        rw [List.cons_append, List.head?_cons, Option.some_inj] at hhead
        exact hfree (hhead ▸ List.mem_cons_self)

theorem kebabFrom_true_ne_nil : kebabFrom true previous (c :: rest) ≠ [] := by
  by_cases h : isSeparator c = true
  · rw [kebabFrom_separator h]
    exact List.cons_ne_nil _ _
  · rw [kebabFrom_letter (Bool.not_eq_true _ ▸ h)]
    exact List.append_ne_nil_of_right_ne_nil _ (List.append_ne_nil_of_left_ne_nil (lowercase_ne_nil c) _)

theorem kebabFrom_false_eq_nil : kebabFrom false previous name = [] ↔ ∀ c ∈ name, isSeparator c = true := by
  induction name generalizing previous with
  | nil => exact iff_of_true rfl nofun
  | cons c rest ih =>
    rw [List.forall_mem_cons, ← @ih (some c)]
    by_cases h : isSeparator c = true
    · rw [kebabFrom_separator h]
      exact (and_iff_right h).symm
    · rw [Bool.not_eq_true] at h
      rw [kebabFrom_letter h, h]
      simp [lowercase_ne_nil]

def Trails (name : List Char) : Prop :=
  ∃ s ∈ name.getLast?, isSeparator s = true

theorem trails_cons (h : rest ≠ []) : Trails (c :: rest) ↔ Trails rest := by
  rw [Trails, ← List.singleton_append, List.getLast?_append_of_ne_nil _ h]
  rfl

theorem trails_of_all (h : ∀ s ∈ c :: rest, isSeparator s = true) : Trails (c :: rest) :=
  ⟨_, List.getLast?_eq_some_getLast (List.cons_ne_nil c rest), h _ (List.getLast_mem _)⟩

theorem getLast?_kebabFrom : (kebabFrom fits previous name).getLast? = some '-' ↔
    Trails name ∧ (fits = true ∨ ∃ c ∈ name, isSeparator c = false) := by
  induction name generalizing fits previous with
  | nil => exact iff_of_false nofun fun h => nomatch h.1
  | cons c rest ih =>
    by_cases h : isSeparator c = true
    · rw [kebabFrom_separator h]
      by_cases hall : ∀ s ∈ rest, isSeparator s = true
      · have htrails := trails_of_all (List.forall_mem_cons.mpr ⟨h, hall⟩)
        have hletters : ¬∃ s ∈ c :: rest, isSeparator s = false := by simpa [h] using hall
        rw [kebabFrom_false_eq_nil.mpr hall, List.append_nil, and_iff_right htrails, or_iff_left hletters]
        cases fits <;> decide
      · have hne : kebabFrom false (some c) rest ≠ [] := fun hnil => hall (kebabFrom_false_eq_nil.mp hnil)
        have hrest : rest ≠ [] := by
          rintro rfl
          exact hall nofun
        have hletter : ∃ s ∈ rest, isSeparator s = false := by simpa using hall
        have hmore : ∃ s ∈ c :: rest, isSeparator s = false :=
          hletter.imp fun s hs => ⟨List.mem_cons_of_mem c hs.1, hs.2⟩
        rw [List.getLast?_append_of_ne_nil _ hne, ih, trails_cons hrest]
        exact and_congr_right fun _ => iff_of_true (.inr hletter) (.inr hmore)
    · rw [Bool.not_eq_true] at h
      have hletter : ∃ s ∈ c :: rest, isSeparator s = false := ⟨c, List.mem_cons_self, h⟩
      rw [kebabFrom_letter h, and_iff_left (.inr hletter)]
      cases rest with
      | nil =>
        rw [kebabFrom, List.append_nil, List.getLast?_append_of_ne_nil _ (lowercase_ne_nil c)]
        refine iff_of_false (fun hlast => dash_notMem_lowercase h (List.mem_of_getLast? hlast)) ?_
        rintro ⟨s, hs, hsep⟩
        obtain rfl : c = s := Option.some.inj hs
        rw [h] at hsep
        cases hsep
      | cons d rest =>
        have hne : kebabFrom true (some c) (d :: rest) ≠ [] := kebabFrom_true_ne_nil
        rw [List.getLast?_append_of_ne_nil _ (List.append_ne_nil_of_right_ne_nil _ hne),
          List.getLast?_append_of_ne_nil _ hne, ih, trails_cons (List.cons_ne_nil d rest)]
        exact and_iff_left (.inl rfl)

/-- A kebab name says the lower-case forms of the letters of a name in their order. One dash stands between those of
two neighbours if a word begins at the second, and none if not; none stands within a form or in front, and one stands
at the end exactly if separators follow the last letter. -/
theorem kebab_dashes (name : String) :
    withoutDashes (kebab name).toList = expansion name.toList ∧
    (kebab name).toList.head? ≠ some '-' ∧ ¬['-', '-'] <:+: (kebab name).toList ∧
    (∀ c, isSeparator c = false → lowercase c ≠ [] ∧ '-' ∉ lowercase c) ∧
    (∀ before c gap d after, name.toList = before ++ c :: (gap ++ d :: after) → isSeparator c = false →
      (∀ s ∈ gap, isSeparator s = true) → isSeparator d = false →
      ∃ left dash right, (kebab name).toList = left ++ lowercase c ++ dash ++ lowercase d ++ right ∧
        withoutDashes left = expansion before ∧ withoutDashes right = expansion after ∧
        (Begins c gap d after → dash = ['-']) ∧ (¬Begins c gap d after → dash = [])) ∧
    ((kebab name).toList.getLast? = some '-' ↔ Trails name.toList ∧ ∃ c ∈ name.toList, isSeparator c = false) := by
  have hchars : (kebab name).toList = kebabFrom false none name.toList := String.toList_ofList
  rw [hchars]
  refine ⟨withoutDashes_kebabFrom, head?_kebabFrom _ _, spaced_kebabFrom.no_double,
    fun c hc => ⟨lowercase_ne_nil c, dash_notMem_lowercase hc⟩, ?between, ?last⟩
  case between =>
    intro before c gap d after hname hc hgap hd
    obtain ⟨left, fits, previous, hrun, hleft⟩ := exists_front before (c :: (gap ++ d :: after)) false none
    obtain ⟨b, hdash, hb⟩ := exists_dash c after hgap hd
    refine ⟨left ++ dashIf (fits && previous.any (startsWord · c (gap ++ d :: after))), dashIf b,
      kebabFrom true (some d) after, ?_, ?_, withoutDashes_kebabFrom, ?_, ?_⟩
    · rw [hname, hrun, kebabFrom_letter hc, hdash]
      simp only [List.append_assoc]
    · rw [withoutDashes_append, withoutDashes_dashIf, hleft, List.append_nil]
    · intro h
      rw [hb.mpr h]
      rfl
    · intro h
      rw [Bool.eq_false_iff.mpr fun htrue => h (hb.mp htrue)]
      rfl
  case last =>
    rw [getLast?_kebabFrom, or_iff_right Bool.false_ne_true]

theorem client_dashes :
    "HTTPClient2Go-_x ".toList = "HTTPClient2G".toList ++ 'o' :: (['-', '_'] ++ 'x' :: [' ']) ∧
    isSeparator 'o' = false ∧ (∀ s ∈ ['-', '_'], isSeparator s = true) ∧ isSeparator 'x' = false ∧
    (∃ left right, (kebab "HTTPClient2Go-_x ").toList = left ++ ['o'] ++ ['-'] ++ ['x'] ++ right ∧
      withoutDashes left = "httpclient2g".toList ∧ withoutDashes right = []) ∧
    kebab "HTTPClient2Go-_x " = "http-client2-go-x-" := by
  have hname : "HTTPClient2Go-_x ".toList = "HTTPClient2G".toList ++ 'o' :: (['-', '_'] ++ 'x' :: [' ']) := by
    decide +kernel
  have hgap : ∀ s ∈ ['-', '_'], isSeparator s = true := List.all_eq_true.mp (by decide)
  obtain ⟨left, dash, right, hkebab, hleft, hright, hdash, -⟩ :=
    (kebab_dashes "HTTPClient2Go-_x ").2.2.2.2.1 _ 'o' ['-', '_'] 'x' [' '] hname (by decide) hgap (by decide)
  have ho : lowercase 'o' = ['o'] := by decide +kernel
  have hx : lowercase 'x' = ['x'] := by decide +kernel
  rw [hdash (.separated (List.cons_ne_nil _ _)), ho, hx] at hkebab
  refine ⟨hname, by decide, hgap, by decide, ⟨left, right, hkebab, ?_, ?_⟩, by decide +kernel⟩
  · rw [hleft]
    decide +kernel
  · rw [hright]
    decide

end AngularScaffold.Naming
