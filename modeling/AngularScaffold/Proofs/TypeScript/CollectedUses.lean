import AngularScaffold.Proofs.TypeScript.ImportTable

namespace AngularScaffold

namespace TypeScript

open Text

theorem insertSymbol_of_mem {s : String} {ts : List String} (hts : Ascending ts) (h : s ∈ ts) :
    insertSymbol s ts = ts := by
  induction ts with
  | nil => cases h
  | cons t ts ih =>
    obtain ⟨ht, hrest⟩ := List.pairwise_cons.mp hts
    rw [insertSymbol]
    rcases List.mem_cons.mp h with rfl | h
    · rw [if_pos rfl]
    · have hlt := ht s h
      have hne : s ≠ t := by
        rintro rfl
        exact List.lt_irrefl _ hlt
      have hlater : ¬before s t = true := by
        rw [before_iff]
        exact List.lt_asymm hlt
      rw [if_neg hne, if_neg hlater, ih hrest h]

namespace ImportTable

variable {t u : ImportTable} {module symbol : String}

theorem symbols_of_mem (ht : t.WellFormed) {p : String × List String} (hp : p ∈ t.modules) : t.symbols p.1 = p.2 := by
  rw [symbols, (Pairs.get?_eq_some ht.distinct).mpr hp]
  rfl

theorem add_of_has (ht : t.WellFormed) (h : t.has module symbol = true) : t.add module symbol = t := by
  obtain ⟨ts, hts, hs⟩ := (has_iff_mem ht).mp h
  have hget := (Pairs.get?_eq_some ht.distinct).mpr hts
  rw [add, symbols_of_mem ht hts, insertSymbol_of_mem (ht.ascending _ hts) hs, Pairs.put_of_get? hget]

theorem provides_iff (ht : t.WellFormed) : t.provides symbol = true ↔ ∃ module, t.has module symbol = true := by
  simp only [has_iff_mem ht, provides, List.any_eq_true, List.contains_iff_mem]
  constructor
  · rintro ⟨m, hm, hs⟩
    exact ⟨m.1, m.2, hm, hs⟩
  · rintro ⟨module, ts, hts, hs⟩
    exact ⟨_, hts, hs⟩

theorem modules_eq (ht : t.WellFormed) :
    t.modules = (Pairs.keys t.modules).map fun module => (module, t.symbols module) := by
  rw [Pairs.keys, List.map_map]
  refine (List.map_id t.modules).symm.trans (List.map_congr_left fun p hp => ?_)
  rw [Function.comp_apply, symbols_of_mem ht hp]
  rfl

theorem symbols_eq_of_has (ht : t.WellFormed) (hu : u.WellFormed)
    (hhas : ∀ symbol, t.has module symbol = true ↔ u.has module symbol = true) :
    t.symbols module = u.symbols module := by
  have hts := ascending_symbols ht module
  have hus := ascending_symbols hu module
  simp only [has, List.contains_iff_mem] at hhas
  have hperm : (t.symbols module).Perm (u.symbols module) :=
    (List.perm_ext_iff_of_nodup hts.nodup hus.nodup).mpr hhas
  rw [← List.map_id (t.symbols module)] at hts
  rw [← List.map_id (u.symbols module)] at hus
  exact eq_of_ascending hts hus hperm

theorem eq_of_has (ht : t.WellFormed) (hu : u.WellFormed) (hkeys : Pairs.keys t.modules = Pairs.keys u.modules)
    (hhas : ∀ module symbol, t.has module symbol = true ↔ u.has module symbol = true) : t = u := by
  have hmodules : t.modules = u.modules := by
    rw [modules_eq ht, modules_eq hu, hkeys]
    exact List.map_congr_left fun module _ => by rw [symbols_eq_of_has ht hu (hhas module)]
  cases t
  cases u
  exact congrArg ImportTable.mk hmodules

/-- A table tells which pairs were added and from which module a symbol comes. Its modules stand in the order of their
first addition, each once, with the symbols that were added for it in ascending order. A pair that is added again
changes nothing, and additions of the same pairs that use the modules first in the same order lead to the same table. -/
theorem table_of_uses (uses : List (String × String)) :
    (∀ module symbol, (empty.addAll uses).has module symbol = true ↔ (module, symbol) ∈ uses) ∧
    (∀ symbol, (empty.addAll uses).provides symbol = true ↔ ∃ module, (module, symbol) ∈ uses) ∧
    (Pairs.keys (empty.addAll uses).modules = (uses.map Prod.fst).eraseDups ∧
      (Pairs.keys (empty.addAll uses).modules).Nodup) ∧
    (∀ m ∈ (empty.addAll uses).modules, m.2 ≠ [] ∧ Ascending m.2 ∧ ∀ symbol, symbol ∈ m.2 ↔ (m.1, symbol) ∈ uses) ∧
    (∀ u ∈ uses, (empty.addAll uses).add u.1 u.2 = empty.addAll uses) ∧
    ∀ others, (∀ u, u ∈ others ↔ u ∈ uses) → (others.map Prod.fst).eraseDups = (uses.map Prod.fst).eraseDups →
      empty.addAll others = empty.addAll uses ∧
        (importsOf others).map Import.line = (importsOf uses).map Import.line := by
  have hwell := wellFormed_uses uses
  refine ⟨fun module symbol => has_collected, fun symbol => ?provides, ⟨keys_addAll uses, hwell.distinct⟩,
    fun m hm => ⟨hwell.used m hm, hwell.ascending m hm, fun symbol => ?symbols⟩, fun u hu => ?again,
    fun others hsame hfirst => ?same⟩
  case provides => simp only [provides_iff hwell, has_collected]
  case symbols =>
    rw [← has_collected, has, List.contains_iff_mem, symbols_of_mem hwell hm]
  case again => exact add_of_has hwell (has_collected.mpr hu)
  case same =>
    have htable : empty.addAll others = empty.addAll uses := by
      refine eq_of_has (wellFormed_uses others) hwell ?_ fun module symbol => ?_
      · rw [keys_addAll, keys_addAll, hfirst]
      · rw [has_collected, has_collected, hsame]
    exact ⟨htable, by rw [importsOf, htable, importsOf]⟩

def drawnUses : List (String × String) :=
  [("@angular/core", "NgModule"), ("./hero", "Hero"), ("@angular/core", "Component")]

def redrawnUses : List (String × String) :=
  [("@angular/core", "Component"), ("./hero", "Hero"), ("@angular/core", "NgModule"), ("./hero", "Hero")]

theorem redrawn_table : (∀ u, u ∈ redrawnUses ↔ u ∈ drawnUses) ∧
    (redrawnUses.map Prod.fst).eraseDups = (drawnUses.map Prod.fst).eraseDups ∧
    empty.addAll redrawnUses = empty.addAll drawnUses ∧
    (("./hero", "Hero") ∈ drawnUses ∧ (empty.addAll drawnUses).add "./hero" "Hero" = empty.addAll drawnUses) ∧
    ("@angular/core", ["Component", "NgModule"]) ∈ (empty.addAll drawnUses).modules ∧
    Ascending ["Component", "NgModule"] := by
  obtain ⟨-, -, -, hmodules, hagain, hsame⟩ := table_of_uses drawnUses
  have hpairs : ∀ u, u ∈ redrawnUses ↔ u ∈ drawnUses := by
    intro u
    simp only [redrawnUses, drawnUses, List.mem_cons, List.not_mem_nil, or_false]
    tauto
  have hfirst : (redrawnUses.map Prod.fst).eraseDups = (drawnUses.map Prod.fst).eraseDups := by decide +kernel
  have hmem : ("./hero", "Hero") ∈ drawnUses := .tail _ (.head _)
  have hcore : ("@angular/core", ["Component", "NgModule"]) ∈ (empty.addAll drawnUses).modules := by decide +kernel
  exact ⟨hpairs, hfirst, (hsame redrawnUses hpairs hfirst).1, ⟨hmem, hagain _ hmem⟩, hcore, (hmodules _ hcore).2.1⟩

end ImportTable

end TypeScript

end AngularScaffold
