import AngularScaffold.Proofs.Angular.Imports
import AngularScaffold.Proofs.TypeScript.ReadBack

namespace AngularScaffold.Angular

open TypeScript

namespace Shape

structure IsLiteral (s : Shape) (key : String) (value : Value) : Prop where
  noMember : ∀ table, (key, .member table) ∉ s.rules
  noReferences : (key, .references) ∈ s.rules → ∀ items, value ≠ .list items

def content (s : Shape) (key : String) : Value → Content
  | .bool b => .truth b
  | .list items => .texts (items.map Value.write)
  | .map entries =>
    if (key, .textMap) ∈ s.rules then .entries (entries.map fun e => (e.1, e.2.write))
    else .text (Value.map entries).write
  | other => .text other.write

variable {s : Shape} {key : String} {value : Value}

theorem write_member {table : EnumTable} (h : (key, .member table) ∈ s.rules) :
    s.write key value = table.render key value := by
  unfold write
  rw [rule?_eq_some.mpr h]

theorem write_references {items : List Value} (h : (key, .references) ∈ s.rules) :
    s.write key (.list items) = .ok (array (items.map Value.write)) := by
  unfold write
  rw [rule?_eq_some.mpr h]

theorem write_of_isLiteral (h : s.IsLiteral key value) : s.write key value = .ok (s.content key value).write := by
  unfold write
  cases hrule : s.rule? key with
  | none =>
    have hmap : (key, KeyRule.textMap) ∉ s.rules := by
      rw [← rule?_eq_some, hrule]
      simp
    cases value <;> simp [content, Content.write, literalOf, hmap]
  | some rule =>
    have hmem := rule?_eq_some.mp hrule
    cases rule with
    | member table => exact absurd hmem (h.noMember table)
    | textMap => cases value <;> simp [content, Content.write, literalOf, hmem]
    | references =>
      have hmap : (key, KeyRule.textMap) ∉ s.rules := by
        rw [← rule?_eq_some, hrule]
        simp
      cases value with
      | list items => exact absurd rfl (h.noReferences hmem items)
      | _ => simp [content, Content.write, literalOf, hmap]

end Shape

/-- Literals, arrays and objects of literals read back as what they were made of, and so does the text of
every property that is no expression. -/
theorem literals_read_back :
    (∀ (text : String) (rest : List Char), readLiteral? ((quote text).toList ++ rest) = some (text.toList, rest)) ∧
    (∀ (texts : List String) (rest : List Char),
      readArray? ((arrayOfTexts texts).toList ++ rest) = some (texts, rest)) ∧
    (∀ (entries : List (String × String)) (rest : List Char),
      readObject? ((objectOfTexts entries).toList ++ rest) = some (entries, rest)) ∧
    ∀ (s : Shape) (key : String) (value : Value), s.IsLiteral key value →
      ∃ text, s.write key value = .ok text ∧ OneLine text ∧
        (∀ rest, Content.read? (text.toList ++ rest) = some (s.content key value, rest)) ∧
        ∀ (t : Shape) (other : String) (value' : Value), t.IsLiteral other value' →
          t.write other value' = .ok text → t.content other value' = s.content key value := by
  refine ⟨fun text rest => ?_, readArray?_arrayOfTexts, readObject?_objectOfTexts, ?_⟩
  · rw [toList_quote]
    exact readLiteral?_quoteChars text.toList rest
  · intro s key value h
    refine ⟨_, Shape.write_of_isLiteral h, Content.oneLine_write _, Content.read?_write _, ?_⟩
    intro t other value' h' hwrite
    rw [Shape.write_of_isLiteral h'] at hwrite
    exact Content.write_injective (Except.ok.inj hwrite)

def hostEntries : List (String × Value) :=
  [("(click)", .text "say('\\')\n"), ("", .list [.text "', '", .int 1])]

theorem host_read_back : (Shape.ofClass .component).IsLiteral "host" (.map hostEntries) ∧
    ∃ text, (Shape.ofClass .component).write "host" (.map hostEntries) = .ok text ∧ OneLine text ∧
      ∀ rest, Content.read? (text.toList ++ rest) =
        some (.entries [("(click)", "say('\\')\n"), ("", "', ',1")], rest) := by
  have h : (Shape.ofClass .component).IsLiteral "host" (.map hostEntries) := by
    refine ⟨fun table => ?_, fun _ _ => Value.noConfusion⟩
    simp [Shape.rules]
  obtain ⟨text, hwrite, hline, hread, -⟩ := literals_read_back.2.2.2 _ _ _ h
  have hcontent : (Shape.ofClass .component).content "host" (.map hostEntries) =
      .entries [("(click)", "say('\\')\n"), ("", "', ',1")] := by
    decide +kernel
  exact ⟨h, text, hwrite, hline, hcontent ▸ hread⟩

end AngularScaffold.Angular
