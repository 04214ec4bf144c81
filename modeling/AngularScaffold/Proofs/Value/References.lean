import AngularScaffold.Proofs.Expression.Scan
import AngularScaffold.Proofs.Value.Nested
import Mathlib.Data.List.Basic

namespace AngularScaffold

namespace Expression

open Naming

/-- A text that is an expression by itself: it closes its literals and is not taken for a key and a value. -/
structure Standalone (expression : String) : Prop where
  closed : Closed expression
  noKey : startsWithKey expression = false

instance (expression : String) : Decidable (Standalone expression) :=
  decidable_of_iff (Closed expression ∧ startsWithKey expression = false)
    ⟨fun h => ⟨h.1, h.2⟩, fun h => ⟨h.closed, h.noKey⟩⟩

def IsWord (name : String) : Prop :=
  name ≠ "" ∧ ∀ c ∈ name.toList, inIdentifier c = true

instance (name : String) : Decidable (IsWord name) :=
  have := List.decidableBAll (fun c => inIdentifier c = true) name.toList
  inferInstanceAs (Decidable (_ ∧ _))

theorem openQuote?_word {cs : List Char} (h : ∀ c ∈ cs, inIdentifier c = true) (e : List Char) :
    openQuote? none (cs ++ e) = openQuote? none e := by
  induction cs with
  | nil => rfl
  | cons c cs ih =>
    obtain ⟨hc, hcs⟩ := List.forall_mem_cons.mp h
    rw [List.cons_append, openQuote?_mark (isQuote_eq_false hc), ih hcs]

theorem closed_key {name : String} (h : IsWord name) : Closed (name ++ ": ") := by
  rw [Closed, String.toList_append, openQuote?_word h.2]
  rfl

theorem identifiersFrom_key {k : Context} (hk : k = {} ∨ k = ⟨some '{', 0⟩) {name : String} (h : IsWord name)
    (e : List Char) : identifiersFrom k ((name ++ ": ").toList ++ e) = identifiersFrom ⟨some ':', 0⟩ e := by
  obtain ⟨hne, hall⟩ := h
  obtain ⟨c, cs, hname⟩ := List.exists_cons_of_ne_nil fun hnil => hne (String.toList_eq_nil_iff.mp hnil)
  have hchars : (name ++ ": ").toList ++ e = c :: (cs ++ ':' :: ' ' :: e) := by
    rw [String.toList_append, hname]
    simp
  obtain ⟨hc, hcs⟩ := List.forall_mem_cons.mp (hname ▸ hall)
  have hend : afterWord cs = [] → ∀ d ∈ (':' :: ' ' :: e).head?, inIdentifier d = false := by
    intro _ d hd
    rw [← Option.some.inj hd]
    decide
  have hafter : afterWord cs = [] := List.dropWhile_eq_nil_iff.mpr hcs
  have hkey : k.isKey (':' :: ' ' :: e) = true := by
    rcases hk with rfl | rfl <;> rfl
  have hnot : k.isFree c (String.ofList (c :: word cs)) (':' :: ' ' :: e) = false := by
    simp [Context.isFree, hkey]
  rw [hchars, identifiersFrom_word hc, word_append hend, afterWord_append hend, hafter, List.nil_append, hnot,
    identifiersFrom_mark (by decide) (by decide)]
  exact identifiersFrom_space _ e

end Expression

namespace Value

open Expression

mutual

def leaves : Value → List Value
  | list items => itemLeaves items
  | map entries => entryLeaves entries
  | v => [v]

def itemLeaves : List Value → List Value
  | [] => []
  | v :: vs => v.leaves ++ itemLeaves vs

def entryLeaves : List (String × Value) → List Value
  | [] => []
  | (_, v) :: es => v.leaves ++ entryLeaves es

end

@[simp] theorem itemLeaves_eq_flatMap (items : List Value) : itemLeaves items = items.flatMap leaves := by
  induction items with
  | nil => rfl
  | cons v vs ih => rw [itemLeaves, ih, List.flatMap_cons]

@[simp] theorem entryLeaves_eq_flatMap (entries : List (String × Value)) :
    entryLeaves entries = entries.flatMap fun e => e.2.leaves := by
  induction entries with
  | nil => rfl
  | cons e es ih => rw [entryLeaves, ih, List.flatMap_cons]

def WordKeys : Value → Prop
  | map entries => ∀ e ∈ entries, IsWord e.1
  | _ => True

structure Compositional (v : Value) : Prop where
  closed : Closed v.write
  identifiers : ∀ k : Context, k.dots = 0 →
    identifiersFrom k v.write.toList = v.leaves.flatMap fun leaf => Expression.identifiers leaf.write

theorem Compositional.of_leaf {v : Value} (hv : v.leaves = [v]) (h : Standalone v.write) : v.Compositional := by
  refine ⟨h.closed, fun k hk => ?_⟩
  rw [identifiersFrom_inside h.noKey hk, hv, List.flatMap_singleton]

theorem Compositional.list {items : List Value} (h : ∀ v ∈ items, v.Compositional) : (list items).Compositional := by
  have hclosed : ∀ t ∈ items.map write, Closed t := List.forall_mem_map.mpr fun v hv => (h v hv).closed
  have hwrite : (Value.list items).write = ",".intercalate (items.map write) := by
    rw [write, writeItems_eq_map]
  have hcomma : Closed "," := rfl
  refine ⟨hwrite ▸ hcomma.intercalate hclosed, fun k hk => ?_⟩
  rw [hwrite, leaves, itemLeaves_eq_flatMap, List.flatMap_assoc]
  cases items with
  | nil => exact identifiersFrom_nil k
  | cons first rest =>
    have hrest : rest.flatMap (fun v => Expression.identifiers v.write) =
        rest.flatMap fun v => v.leaves.flatMap fun leaf => Expression.identifiers leaf.write :=
      List.flatMap_congr fun v hv => (h v (List.mem_cons_of_mem _ hv)).identifiers {} rfl
    have hscan := identifiersFrom_intercalate separates_comma separates_nil k first.write (rest.map write) hclosed
    rw [List.append_nil] at hscan
    rw [List.map_cons, hscan, (h first List.mem_cons_self).identifiers k hk, List.flatMap_map, hrest,
      identifiersFrom_nil, List.append_nil, List.flatMap_cons]

theorem Compositional.map {entries : List (String × Value)} (hkeys : WordKeys (.map entries))
    (h : ∀ e ∈ entries, e.2.Compositional) : (map entries).Compositional := by
  let text (e : String × Value) : String := e.1 ++ ": " ++ e.2.write
  have htext : ∀ e ∈ entries, ∀ k : Context, k = {} ∨ k = ⟨some '{', 0⟩ → identifiersFrom k (text e).toList =
      e.2.leaves.flatMap fun leaf => Expression.identifiers leaf.write := by
    intro e he k hk
    rw [String.toList_append, identifiersFrom_key hk (hkeys e he)]
    exact (h e he).identifiers _ rfl
  have hclosed : ∀ t ∈ entries.map text, Closed t :=
    List.forall_mem_map.mpr fun e he => (closed_key (hkeys e he)).append (h e he).closed
  have hwrite : (Value.map entries).write = "\x7b" ++ ", ".intercalate (entries.map text) ++ "\x7d" := by
    rw [write, writeEntries_eq_map]
  have hchars : (Value.map entries).write.toList = '{' :: ((", ".intercalate (entries.map text)).toList ++ ['}']) := by
    rw [hwrite, String.toList_append, String.toList_append]
    rfl
  have hclose : Separates ['}'] :=
    separates_mark (by decide) (by decide) (by decide) (by decide) (by decide) []
  have hnone : identifiersFrom {} ['}'] = [] := by
    rw [identifiersFrom_mark (by decide) (by decide), identifiersFrom_nil]
  refine ⟨?_, fun k _ => ?_⟩
  · have hopen : Closed "\x7b" := rfl
    have hcomma : Closed ", " := rfl
    rw [hwrite]
    exact (hopen.append (hcomma.intercalate hclosed)).append rfl
  · rw [hchars, identifiersFrom_mark (by decide) (by decide), leaves, entryLeaves_eq_flatMap, List.flatMap_assoc]
    show identifiersFrom ⟨some '{', 0⟩ _ = _
    cases entries with
    | nil => exact (hclose.fresh _ {}).trans hnone
    | cons first rest =>
      have hrest : rest.flatMap (fun e => Expression.identifiers (text e)) =
          rest.flatMap fun e => e.2.leaves.flatMap fun leaf => Expression.identifiers leaf.write :=
        List.flatMap_congr fun e he => htext e (List.mem_cons_of_mem _ he) {} (.inl rfl)
      rw [List.map_cons, identifiersFrom_intercalate separates_comma_space hclose _ _ _ hclosed,
        htext first List.mem_cons_self _ (.inr rfl), List.flatMap_map, hrest, hnone, List.append_nil,
        List.flatMap_cons]

/-- The text of a value has the free identifiers of the texts it is made of, if these are expressions by themselves:
keys add none, and parts do not run into each other. -/
theorem identifiers_write (v : Value) (hkeys : v.Throughout WordKeys)
    (hleaves : ∀ leaf ∈ v.leaves, Standalone leaf.write) :
    Expression.identifiers v.write = v.leaves.flatMap fun leaf => Expression.identifiers leaf.write := by
  -- a part stands behind a colon, a comma or a brace, so the induction is for all contexts that have no dots
  have hv : v.Compositional := by
    induction v with
    | bool b => exact .of_leaf rfl (hleaves _ List.mem_cons_self)
    | int i => exact .of_leaf rfl (hleaves _ List.mem_cons_self)
    | float x => exact .of_leaf rfl (hleaves _ List.mem_cons_self)
    | text s => exact .of_leaf rfl (hleaves _ List.mem_cons_self)
    | list items ih =>
      obtain ⟨-, hitems⟩ := throughout_list.mp hkeys
      rw [leaves, itemLeaves_eq_flatMap] at hleaves
      refine .list fun v hv => ih v hv (hitems v hv) fun leaf hleaf => hleaves leaf ?_
      exact List.mem_flatMap.mpr ⟨v, hv, hleaf⟩
    | map entries ih =>
      obtain ⟨hwords, hentries⟩ := throughout_map.mp hkeys
      rw [leaves, entryLeaves_eq_flatMap] at hleaves
      refine .map hwords fun e he => ih e he (hentries e he) fun leaf hleaf => hleaves leaf ?_
      exact List.mem_flatMap.mpr ⟨e, he, hleaf⟩
  exact hv.identifiers {} rfl

def themeProvider : Value :=
  .map [("provide", .text "Theme.of"),
    ("deps", .list [.text "...shared", .map [("new", .text ""), ("0", .list [.text "dark ? 'a, b: c' : day", .int 3])],
      .bool true])]

theorem themeProvider_identifiers : themeProvider.Throughout WordKeys ∧
    (∀ leaf ∈ themeProvider.leaves, Standalone leaf.write) ∧
    themeProvider.write = "\x7bprovide: Theme.of, deps: ...shared,\x7bnew: , 0: dark ? 'a, b: c' : day,3\x7d,true\x7d" ∧
    Expression.identifiers themeProvider.write = ["Theme", "shared", "dark", "day"] := by
  have hkeys : themeProvider.Throughout WordKeys := by
    simp only [themeProvider, throughout_map, throughout_list, throughout_text, throughout_int, throughout_bool,
      List.forall_mem_cons, List.not_mem_nil, false_implies, implies_true, and_true, true_and, WordKeys]
    decide +kernel
  have hleaves : ∀ leaf ∈ themeProvider.leaves, Standalone leaf.write := by decide +kernel
  refine ⟨hkeys, hleaves, by decide +kernel, ?_⟩
  rw [identifiers_write themeProvider hkeys hleaves]
  decide +kernel

end Value

end AngularScaffold
