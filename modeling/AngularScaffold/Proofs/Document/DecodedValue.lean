import AngularScaffold.Document.Decode
import AngularScaffold.Proofs.Except
import AngularScaffold.Proofs.OrderedMap
import AngularScaffold.Proofs.Value.Nested

namespace AngularScaffold.Document

open Value (Throughout throughout_flat throughout_list throughout_map)

def Dated : Value → Prop
  | .map ((k, _) :: _) => k = dateKey
  | _ => False

theorem undated_putAll {k : String} (hk : k ≠ dateKey) (v : Value) (es : List (String × Value)) :
    ¬Dated (.map (Pairs.putAll ((k, v) :: es) [])) := by
  obtain ⟨others, hothers⟩ := Pairs.keys_prefix_putAll es [(k, v)]
  have hentries : Pairs.putAll ((k, v) :: es) [] = Pairs.putAll es [(k, v)] := rfl
  rw [hentries]
  cases hput : Pairs.putAll es [(k, v)] with
  | nil => exact id
  | cons e rest =>
    rw [hput] at hothers
    obtain rfl : k = e.1 := (List.cons.inj hothers).1
    exact hk

theorem undated_wholeNumber? {i : Int} {v : Value} (h : wholeNumber? i = some v) : v.Throughout (¬Dated ·) := by
  rw [wholeNumber?] at h
  split at h
  · cases h
    exact (throughout_flat rfl).mpr id
  split at h
  · cases h
    exact (throughout_flat rfl).mpr id
  · cases h

mutual

theorem value_undated {f : Format} {v : Value} : (n : Node) → value f n = .ok v → v.Throughout (¬Dated ·)
  | .scalar s span, h => by
    cases s with
    | int i =>
      rw [value] at h
      split at h
      · next hi =>
        cases h
        exact undated_wholeNumber? hi
      · cases h
    | null => cases h
    | bool _ | float _ | text _ =>
      cases h
      exact (throughout_flat rfl).mpr id
  | .list items _, h => by
    rw [value, map_eq_ok] at h
    obtain ⟨vs, hvs, rfl⟩ := h
    exact throughout_list.mpr ⟨id, itemValues_undated items hvs⟩
  | .table .nil _, h => by
    rw [value] at h
    cases h
    exact throughout_map.mpr ⟨id, nofun⟩
  | .table (.broken _ _) _, h => by
    rw [value] at h
    cases h
  | .table (.cons k _ n rest) _, h => by
    rw [value] at h
    split at h
    · obtain ⟨s, -, h⟩ := bind_eq_ok.mp h
      split at h
      · cases h
        exact (throughout_flat rfl).mpr id
      · cases h
    · next hk =>
      obtain ⟨first, hfirst, h⟩ := bind_eq_ok.mp h
      obtain ⟨others, hothers, h⟩ := bind_eq_ok.mp h
      cases h
      refine throughout_map.mpr ⟨undated_putAll hk first others, fun e he => ?_⟩
      rcases Pairs.mem_putAll he with he | he
      · rcases List.mem_cons.mp he with rfl | he
        · exact value_undated n hfirst
        · exact entryValues_undated rest hothers e he
      · cases he
  | .broken _ _, h => by
    rw [value] at h
    cases h

theorem itemValues_undated {f : Format} {vs : List Value} :
    (items : Items) → itemValues f items = .ok vs → ∀ v ∈ vs, v.Throughout (¬Dated ·)
  | .nil, h => by
    rw [itemValues] at h
    cases h
    nofun
  | .cons n rest, h => by
    rw [itemValues] at h
    obtain ⟨v, hv, h⟩ := bind_eq_ok.mp h
    obtain ⟨others, hothers, h⟩ := bind_eq_ok.mp h
    cases h
    exact List.forall_mem_cons.mpr ⟨value_undated n hv, itemValues_undated rest hothers⟩
  | .broken _ _, h => by
    rw [itemValues] at h
    cases h

theorem entryValues_undated {f : Format} {es : List (String × Value)} :
    (entries : Entries) → entryValues f entries = .ok es → ∀ e ∈ es, e.2.Throughout (¬Dated ·)
  | .nil, h => by
    rw [entryValues] at h
    cases h
    nofun
  | .cons k _ n rest, h => by
    rw [entryValues] at h
    obtain ⟨v, hv, h⟩ := bind_eq_ok.mp h
    obtain ⟨others, hothers, h⟩ := bind_eq_ok.mp h
    cases h
    exact List.forall_mem_cons.mpr ⟨value_undated n hv, entryValues_undated rest hothers⟩
  | .broken _ _, h => by
    rw [entryValues] at h
    cases h

end

theorem eachEntry_value (f : Format) : (entries : Entries) → eachEntry (value f) entries = entryValues f entries
  | .nil => by rw [eachEntry, entryValues]
  | .cons _ _ _ rest => by rw [eachEntry, entryValues, eachEntry_value f rest]
  | .broken _ _ => by rw [eachEntry, entryValues]

theorem config_undated {f : Format} {n : Node} {c : Config} (h : config f n = .ok c) : c.Throughout (¬Dated ·) := by
  cases n with
  | table entries span =>
    rw [config, mapOf, eachEntry_value, map_eq_ok] at h
    obtain ⟨es, hes, rfl⟩ := h
    intro e he
    rcases Pairs.mem_putAll he with he | he
    · exact entryValues_undated entries hes e he
    · cases he
  | scalar _ _ => cases h
  | list _ _ => cases h
  | broken _ _ => cases h

end AngularScaffold.Document
