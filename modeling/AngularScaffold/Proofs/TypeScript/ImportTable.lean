import AngularScaffold.Proofs.KeyedList
import AngularScaffold.Proofs.OrderedMap
import AngularScaffold.Proofs.Text.ByteOrder
import AngularScaffold.TypeScript.ImportTable
import Mathlib.Data.List.Induction

namespace AngularScaffold

theorem eraseDups_concat {α : Type} [DecidableEq α] (xs : List α) (x : α) :
    (xs ++ [x]).eraseDups = if x ∈ xs then xs.eraseDups else xs.eraseDups ++ [x] := by
  rw [List.eraseDups_append]
  by_cases h : x ∈ xs <;> simp [List.removeAll, List.eraseDups_cons, h]

namespace TypeScript

open Text

theorem ascending_insertSymbol {s : String} {ts : List String} (h : Ascending ts) :
    Ascending (insertSymbol s ts) := by
  induction ts with
  | nil => exact List.pairwise_singleton _ _
  | cons t ts ih =>
    obtain ⟨ht, hts⟩ := List.pairwise_cons.mp h
    rw [insertSymbol]
    split
    · exact h
    · rename_i hne
      split
      · rename_i hb
        rw [before_iff] at hb
        refine List.pairwise_cons.mpr ⟨?_, h⟩
        intro u hu
        rcases List.mem_cons.mp hu with rfl | hu
        · exact hb
        · exact List.lt_trans hb (ht u hu)
      · rename_i hb
        refine List.pairwise_cons.mpr ⟨?_, ih hts⟩
        intro u hu
        rcases mem_insertSymbol.mp hu with rfl | hu
        · exact bytes_lt_of_not_before hb hne
        · exact ht u hu

namespace ImportTable

structure WellFormed (t : ImportTable) : Prop where
  distinct : (Pairs.keys t.modules).Nodup
  used : ∀ p ∈ t.modules, p.2 ≠ []
  ascending : ∀ p ∈ t.modules, Ascending p.2

theorem wellFormed_empty : empty.WellFormed :=
  ⟨List.nodup_nil, by simp [empty], by simp [empty]⟩

theorem ascending_symbols {t : ImportTable} (h : t.WellFormed) (module : String) :
    Ascending (t.symbols module) := by
  unfold symbols
  cases hg : Pairs.get? module t.modules with
  | none => exact List.Pairwise.nil
  | some ts => exact h.ascending _ ((Pairs.get?_eq_some h.distinct).mp hg)

theorem wellFormed_add {t : ImportTable} (h : t.WellFormed) (module symbol : String) :
    (t.add module symbol).WellFormed := by
  refine ⟨Pairs.nodup_keys_put h.distinct, ?_, ?_⟩
  · intro p hp
    rcases Pairs.mem_put hp with rfl | hp
    · exact List.ne_nil_of_mem (mem_insertSymbol.mpr (Or.inl rfl))
    · exact h.used p hp
  · intro p hp
    rcases Pairs.mem_put hp with rfl | hp
    · exact ascending_insertSymbol (ascending_symbols h module)
    · exact h.ascending p hp

theorem wellFormed_addAll {t : ImportTable} (h : t.WellFormed) (uses : List (String × String)) :
    (t.addAll uses).WellFormed := by
  induction uses generalizing t with
  | nil => exact h
  | cons u rest ih => exact ih (wellFormed_add h u.1 u.2)

theorem keys_add (t : ImportTable) (module symbol : String) : Pairs.keys (t.add module symbol).modules =
    if module ∈ Pairs.keys t.modules then Pairs.keys t.modules else Pairs.keys t.modules ++ [module] :=
  Pairs.keys_put _ _ _

theorem keys_addAll (uses : List (String × String)) :
    Pairs.keys (empty.addAll uses).modules = (uses.map Prod.fst).eraseDups := by
  induction uses using List.reverseRecOn with
  | nil => rfl
  | append_singleton seen u ih =>
    have hstep : empty.addAll (seen ++ [u]) = (empty.addAll seen).add u.1 u.2 := by
      simp [addAll]
    rw [hstep, keys_add, ih, List.map_append, List.map_singleton, eraseDups_concat]
    simp only [List.mem_eraseDups]

theorem has_addAll {t : ImportTable} {uses : List (String × String)} {module symbol : String} :
    (t.addAll uses).has module symbol = true ↔ (module, symbol) ∈ uses ∨ t.has module symbol = true := by
  induction uses generalizing t with
  | nil => simp [addAll]
  | cons u rest ih =>
    change ((t.add u.1 u.2).addAll rest).has module symbol = true ↔ _
    rw [ih, has_add, List.mem_cons, Prod.ext_iff]
    grind

theorem has_collected {uses : List (String × String)} {module symbol : String} :
    (empty.addAll uses).has module symbol = true ↔ (module, symbol) ∈ uses := by
  rw [has_addAll]
  simp [has, symbols, empty, Pairs.get?]

theorem has_iff_mem {t : ImportTable} (h : t.WellFormed) {module symbol : String} :
    t.has module symbol = true ↔ ∃ ts, (module, ts) ∈ t.modules ∧ symbol ∈ ts := by
  simp only [has, symbols, List.contains_iff_mem]
  cases hg : Pairs.get? module t.modules with
  | none =>
    have hk := Pairs.get?_eq_none.mp hg
    simp only [Option.getD_none, List.not_mem_nil, false_iff]
    rintro ⟨ts, hts, -⟩
    exact hk (List.mem_map_of_mem hts)
  | some ts =>
    have hts := (Pairs.get?_eq_some h.distinct).mp hg
    simp only [Option.getD_some]
    constructor
    · exact fun hs => ⟨ts, hts, hs⟩
    · rintro ⟨us, hus, hs⟩
      rw [(Pairs.get?_eq_some h.distinct).mpr hus] at hg
      cases hg
      exact hs

end ImportTable

def importsOf (uses : List (String × String)) : List Import :=
  (ImportTable.empty.addAll uses).imports

theorem wellFormed_uses (uses : List (String × String)) : (ImportTable.empty.addAll uses).WellFormed :=
  ImportTable.wellFormed_addAll ImportTable.wellFormed_empty uses

theorem modules_importsOf (uses : List (String × String)) :
    (importsOf uses).map Import.module = (uses.map Prod.fst).eraseDups := by
  rw [← ImportTable.keys_addAll]
  simp [importsOf, ImportTable.imports, Pairs.keys, Function.comp_def]

theorem nodup_modules_importsOf (uses : List (String × String)) :
    ((importsOf uses).map Import.module).Nodup := by
  have h := (wellFormed_uses uses).distinct
  simpa [importsOf, ImportTable.imports, Pairs.keys, Function.comp_def] using h

theorem symbols_importsOf {uses : List (String × String)} {i : Import} (h : i ∈ importsOf uses) :
    i.symbols ≠ [] ∧ Ascending i.symbols := by
  obtain ⟨p, hp, rfl⟩ := List.mem_map.mp h
  exact ⟨(wellFormed_uses uses).used p hp, (wellFormed_uses uses).ascending p hp⟩

theorem mem_importsOf {uses : List (String × String)} {module symbol : String} :
    (∃ i ∈ importsOf uses, i.module = module ∧ symbol ∈ i.symbols) ↔ (module, symbol) ∈ uses := by
  rw [← ImportTable.has_collected, ImportTable.has_iff_mem (wellFormed_uses uses)]
  constructor
  · rintro ⟨i, hi, rfl, hs⟩
    obtain ⟨p, hp, rfl⟩ := List.mem_map.mp hi
    exact ⟨p.2, hp, hs⟩
  · rintro ⟨ts, hts, hs⟩
    exact ⟨⟨module, ts⟩, List.mem_map.mpr ⟨_, hts, rfl⟩, rfl, hs⟩

theorem nodup_symbols_importsOf {uses : List (String × String)} :
    ((importsOf uses).flatMap (·.symbols)).Nodup ↔
      ∀ module other symbol, (module, symbol) ∈ uses → (other, symbol) ∈ uses → module = other := by
  rw [nodup_flatMap_iff (nodup_modules_importsOf uses).of_map]
  constructor
  · rintro ⟨-, howner⟩ module other symbol hm ho
    obtain ⟨i, hi, rfl, his⟩ := mem_importsOf.mpr hm
    obtain ⟨j, hj, rfl, hjs⟩ := mem_importsOf.mpr ho
    exact congrArg Import.module (howner i hi j hj symbol his hjs)
  · intro h
    refine ⟨fun i hi => (symbols_importsOf hi).2.nodup, fun i hi j hj symbol his hjs => ?_⟩
    have hmodule := h _ _ symbol (mem_importsOf.mp ⟨i, hi, rfl, his⟩) (mem_importsOf.mp ⟨j, hj, rfl, hjs⟩)
    exact List.inj_on_of_nodup_map (nodup_modules_importsOf uses) hi hj hmodule

end TypeScript

end AngularScaffold
