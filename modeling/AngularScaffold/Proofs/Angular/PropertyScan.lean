import AngularScaffold.Proofs.Angular.EnumMembers
import AngularScaffold.Proofs.Angular.PropertyLines
import AngularScaffold.Proofs.Angular.PropertyText
import AngularScaffold.Proofs.Expression.Scan

/-!
The free identifiers in the text of properties. Main statement: entry by entry they are those that the imports
of a file are made of, namely the enumeration that a member belongs to, the free identifiers of the items of a
list of expressions, and none anywhere else.
-/

namespace AngularScaffold.Angular

open Expression TypeScript

theorem separates_bracket : Separates "]".toList :=
  separates_mark (by decide) (by decide) (by decide) (by decide) (by decide) []

theorem toList_array (items : List String) :
    (array items).toList = '[' :: ((", ".intercalate items).toList ++ "]".toList) := by
  rw [array, String.toList_append, String.toList_append]
  rfl

theorem identifiers_array {items : List String} (hclosed : ∀ item ∈ items, Closed item)
    (hfirst : ∀ first ∈ items.head?, startsWithKey first = false) :
    identifiers (array items) = items.flatMap identifiers := by
  rw [identifiers, toList_array, identifiersFrom_mark (by decide) (by decide)]
  show identifiersFrom ⟨some '[', 0⟩ _ = _
  have hclose : identifiersFrom {} "]".toList = [] := by
    show identifiersFrom {} (']' :: []) = []
    rw [identifiersFrom_mark (by decide) (by decide), identifiersFrom_nil]
  cases items with
  | nil =>
    rw [String.intercalate_nil, String.toList_empty, List.nil_append, separates_bracket.fresh _ {}, hclose]
    rfl
  | cons first rest =>
    rw [identifiersFrom_intercalate separates_comma_space separates_bracket _ _ _ hclosed, hclose, List.append_nil,
      identifiersFrom_inside (hfirst first rfl) rfl, List.flatMap_cons]

theorem closed_quote (text : String) : Closed (quote text) := by
  have h := openQuote?_literal text.toList []
  rwa [List.append_nil, ← toList_quote] at h

theorem identifiers_quote (text : String) : identifiers (quote text) = [] := by
  have h := identifiersFrom_literal {} text.toList []
  rwa [List.append_nil, ← toList_quote, identifiersFrom_nil] at h

theorem startsWithKey_quote (text : String) : startsWithKey (quote text) = false := by
  rw [startsWithKey, toList_quote, quoteChars]
  rfl

theorem identifiers_arrayOfTexts (texts : List String) : identifiers (arrayOfTexts texts) = [] := by
  rw [arrayOfTexts, identifiers_array]
  · simp [identifiers_quote]
  · simp [closed_quote]
  · intro first hfirst
    obtain ⟨text, -, rfl⟩ := List.mem_map.mp (List.mem_of_mem_head? hfirst)
    exact startsWithKey_quote text

theorem toList_pair (e : String × String) (rest : List Char) : (quote e.1 ++ ": " ++ quote e.2).toList ++ rest =
    quoteChars e.1.toList ++ ':' :: ' ' :: (quoteChars e.2.toList ++ rest) := by
  simp [toList_quote]

theorem closed_pair (e : String × String) : Closed (quote e.1 ++ ": " ++ quote e.2) := by
  rw [Closed, ← List.append_nil (String.toList _), toList_pair, openQuote?_literal, openQuote?_mark (by decide),
    openQuote?_mark (by decide), openQuote?_literal]
  rfl

theorem identifiersFrom_pair (k : Context) (e : String × String) :
    identifiersFrom k (quote e.1 ++ ": " ++ quote e.2).toList = [] := by
  rw [← List.append_nil (String.toList _), toList_pair, identifiersFrom_literal,
    identifiersFrom_mark (by decide) (by decide), identifiersFrom_space, identifiersFrom_literal,
    identifiersFrom_nil]

theorem identifiers_objectOfTexts (entries : List (String × String)) : identifiers (objectOfTexts entries) = [] := by
  cases entries with
  | nil => decide +kernel
  | cons e es =>
    have hshape : (objectOfTexts (e :: es)).toList = '{' :: ' ' ::
        ((", ".intercalate ((e :: es).map fun e => quote e.1 ++ ": " ++ quote e.2)).toList ++ " \x7d".toList) := by
      rw [objectOfTexts, List.isEmpty_cons, if_neg Bool.false_ne_true, String.toList_append, String.toList_append]
      rfl
    have hclose : Separates " \x7d".toList :=
      separates_space (separates_mark (by decide) (by decide) (by decide) (by decide) (by decide) [])
    have hnone : identifiersFrom {} " \x7d".toList = [] := by decide +kernel
    have hclosed : ∀ t ∈ (e :: es).map fun e => quote e.1 ++ ": " ++ quote e.2, Closed t := by
      intro t ht
      obtain ⟨f, -, rfl⟩ := List.mem_map.mp ht
      exact closed_pair f
    rw [List.map_cons] at hclosed hshape
    rw [identifiers, hshape, identifiersFrom_mark (by decide) (by decide), identifiersFrom_space,
      identifiersFrom_intercalate separates_comma_space hclose _ _ _ hclosed, identifiersFrom_pair, hnone,
      List.nil_append, List.append_nil, List.flatMap_map]
    exact List.flatMap_eq_nil_iff.mpr fun f _ => identifiersFrom_pair {} f

theorem identifiers_content (c : Content) : identifiers c.write = [] := by
  cases c with
  | truth b => cases b <;> decide +kernel
  | text t => exact identifiers_quote t
  | texts ts => exact identifiers_arrayOfTexts ts
  | entries es => exact identifiers_objectOfTexts es

theorem identifiers_qualify {s : Shape} {key : String} {table : EnumTable} (h : (key, .member table) ∈ s.rules) :
    ∀ member ∈ table.members, identifiers (table.qualify member) = [table.name] := by
  have hkey := enumKey_iff.mpr h
  cases hkey <;> decide +kernel

namespace Shape

structure Scanned (s : Shape) (key : String) (value : Value) (text : String) : Prop where
  member : ∀ table, (key, .member table) ∈ s.rules → identifiers text = [table.name]
  references : ∀ items, (key, .references) ∈ s.rules → value = .list items →
    (∀ item ∈ items, Closed item.write) → (∀ first ∈ items.head?, startsWithKey first.write = false) →
    identifiers text = items.flatMap fun item => identifiers item.write
  literal : s.IsLiteral key value → identifiers text = []

theorem scanned_of_write {s : Shape} {key text : String} {value : Value} (h : s.write key value = .ok text) :
    s.Scanned key value text := by
  refine ⟨?_, ?_, ?_⟩
  · intro table hrule
    rw [write_member hrule] at h
    have hkey := enumKey_iff.mpr hrule
    obtain ⟨member, hselects, rfl⟩ := (EnumTable.render_eq_ok_iff hkey.unambiguous).mp h
    exact identifiers_qualify hrule member hselects.mem
  · rintro items hrule rfl hclosed hfirst
    rw [write_references hrule] at h
    rw [← Except.ok.inj h, identifiers_array, List.flatMap_map]
    · simpa using hclosed
    · simpa using hfirst
  · intro hliteral
    rw [write_of_isLiteral hliteral] at h
    rw [← Except.ok.inj h, identifiers_content]

end Shape

namespace Shape

variable {s : Shape} {key : String}

def tableOf? (s : Shape) (key : String) : Option EnumTable :=
  match s.rule? key with
  | some (.member table) => some table
  | _ => none

theorem tableOf?_eq_some {table : EnumTable} : s.tableOf? key = some table ↔ (key, .member table) ∈ s.rules := by
  rw [← rule?_eq_some, tableOf?]
  constructor
  · intro h
    split at h
    · rename_i found hrule
      rw [hrule, Option.some.inj h]
    · cases h
  · intro h
    rw [h]

def hasReferences (s : Shape) (key : String) : Bool :=
  s.rule? key == some .references

theorem hasReferences_iff : s.hasReferences key = true ↔ (key, .references) ∈ s.rules := by
  rw [← rule?_eq_some, hasReferences, beq_iff_eq]

theorem referencesIn_eq_nil {value : Value} (h : s.hasReferences key = false) : s.referencesIn key value = [] := by
  rw [List.eq_nil_iff_forall_not_mem]
  intro item hitem
  obtain ⟨items, -, hrule, -⟩ := mem_referencesIn.mp hitem
  rw [hasReferences_iff.mpr hrule] at h
  cases h

def Scannable (s : Shape) (entries : List (String × Value)) : Prop :=
  ∀ key items, (key, .list items) ∈ entries → (key, .references) ∈ s.rules →
    (∀ item ∈ items, Closed item.write) ∧ ∀ first ∈ items.head?, startsWithKey first.write = false

theorem isLiteral_of_hasReferences {value : Value} (h : s.hasReferences key = true)
    (hvalue : ∀ items, value ≠ .list items) : s.IsLiteral key value := by
  refine ⟨fun table hmember => ?_, fun _ => hvalue⟩
  have hrule := rule?_eq_some.mpr (hasReferences_iff.mp h)
  rw [rule?_eq_some.mpr hmember] at hrule
  cases hrule

theorem Scanned.identifiers_references {value : Value} {text : String} (h : s.Scanned key value text)
    (hrule : s.hasReferences key = true) (hitems : ∀ items, value = .list items →
      (∀ item ∈ items, Closed item.write) ∧ ∀ first ∈ items.head?, startsWithKey first.write = false) :
    identifiers text = (s.referencesIn key value).flatMap fun item => identifiers item.write := by
  have hmem := hasReferences_iff.mp hrule
  by_cases hlist : ∃ items, value = .list items
  · obtain ⟨items, rfl⟩ := hlist
    obtain ⟨hclosed, hfirst⟩ := hitems items rfl
    have hin : s.referencesIn key (.list items) = items := by
      unfold referencesIn
      rw [rule?_eq_some.mpr hmem]
    rw [hin]
    exact h.references items hmem rfl hclosed hfirst
  · rw [not_exists] at hlist
    have hin : s.referencesIn key value = [] := by
      rw [List.eq_nil_iff_forall_not_mem]
      intro item hitem
      obtain ⟨items, hvalue, -, -⟩ := mem_referencesIn.mp hitem
      exact hlist items hvalue
    rw [hin, h.literal (isLiteral_of_hasReferences hrule hlist), List.flatMap_nil]

end Shape

section Configurations

variable {s : Shape} {entries : List (String × Value)} {ps : List Property}

theorem identifiers_members (h : List.Forall₂ (fun e p => p.key = e.1 ∧ s.Scanned e.1 e.2 p.text) entries ps) :
    (ps.filter fun p => (s.tableOf? p.key).isSome).flatMap (fun p => identifiers p.text) =
      ((entries.map Prod.fst).filterMap s.tableOf?).map (·.name) := by
  induction h with
  | nil => rfl
  | @cons e p entries ps hp _ ih =>
    obtain ⟨hkey, hscanned⟩ := hp
    rw [List.map_cons, List.filter_cons, List.filterMap_cons, hkey]
    cases htable : s.tableOf? e.1 with
    | none => exact ih
    | some table =>
      have hname := hscanned.member table (Shape.tableOf?_eq_some.mp htable)
      rw [Option.isSome_some, if_pos rfl, List.flatMap_cons, ih, hname]
      rfl

theorem identifiers_references
    (h : List.Forall₂ (fun e p => p.key = e.1 ∧ s.Scanned e.1 e.2 p.text) entries ps) (hs : s.Scannable entries) :
    (ps.filter fun p => s.hasReferences p.key).flatMap (fun p => identifiers p.text) =
      (entries.flatMap fun e => s.referencesIn e.1 e.2).flatMap fun item => identifiers item.write := by
  induction h with
  | nil => rfl
  | @cons e p entries ps hp _ ih =>
    obtain ⟨hkey, hscanned⟩ := hp
    have hmore := ih fun key items hmem => hs key items (List.mem_cons_of_mem _ hmem)
    rw [List.filter_cons, hkey, List.flatMap_cons, List.flatMap_append, ← hmore]
    cases hrule : s.hasReferences e.1 with
    | false => rw [Shape.referencesIn_eq_nil hrule, if_neg Bool.false_ne_true, List.flatMap_nil, List.nil_append]
    | true =>
      have hids := hscanned.identifiers_references hrule fun items hvalue =>
        hs e.1 items (hvalue ▸ List.mem_cons_self) (Shape.hasReferences_iff.mp hrule)
      rw [if_pos rfl, List.flatMap_cons, hids]

end Configurations

/-- The text of every entry has the free identifiers that the rule of its key stands for, and so the texts of
a configuration have those that imports are looked for. -/
theorem properties_scanned {s : Shape} {config : Config} {ps : List Property} (h : s.properties config = .ok ps) :
    List.Forall₂ (fun e p => p.key = e.1 ∧ s.Scanned e.1 e.2 p.text) config.entries ps ∧
    (ps.filter fun p => (s.tableOf? p.key).isSome).flatMap (fun p => identifiers p.text) =
      (s.enumTables config).map (·.name) ∧
    (s.Scannable config.entries →
      (ps.filter fun p => s.hasReferences p.key).flatMap (fun p => identifiers p.text) =
        (s.references config).flatMap fun item => identifiers item.write) := by
  have hscanned : List.Forall₂ (fun e p => p.key = e.1 ∧ s.Scanned e.1 e.2 p.text) config.entries ps :=
    (Shape.forall₂_of_writeEntries h).imp fun e p hp => ⟨hp.1, Shape.scanned_of_write hp.2⟩
  exact ⟨hscanned, identifiers_members hscanned, identifiers_references hscanned⟩

def providerItems : List Value :=
  [.text "\x7b provide: Theme, useValue: 'Dark]' \x7d", .text "Router.of(pages)"]

def panel : Config where
  entries :=
    [("selector", .text "Panel, 'x'"), ("encapsulation", .text "None"), ("providers", .list providerItems)]
  distinct := by decide

theorem panel_scanned : ∃ ps, (Shape.ofClass .component).properties panel = .ok ps ∧
    (ps.filter fun p => ((Shape.ofClass .component).tableOf? p.key).isSome).flatMap (fun p => identifiers p.text) =
      ["ViewEncapsulation"] ∧
    (Shape.ofClass .component).Scannable panel.entries ∧
    (ps.filter fun p => (Shape.ofClass .component).hasReferences p.key).flatMap (fun p => identifiers p.text) =
      ["Theme", "Router", "pages"] := by
  have hscannable : (Shape.ofClass .component).Scannable panel.entries := by
    intro key items hmem _
    have hitems : items = providerItems := by
      simp only [panel, List.mem_cons, Prod.mk.injEq, Value.list.injEq, reduceCtorEq, and_false, false_or,
        List.not_mem_nil, or_false] at hmem
      exact hmem.2
    rw [hitems]
    decide +kernel
  obtain ⟨ps, hps⟩ := isOk_iff.mp (show ((Shape.ofClass .component).properties panel).isOk = true by decide +kernel)
  obtain ⟨-, hmembers, hreferences⟩ := properties_scanned hps
  refine ⟨ps, hps, ?_, hscannable, ?_⟩
  · rw [hmembers]
    decide +kernel
  · rw [hreferences hscannable]
    decide +kernel

end AngularScaffold.Angular
