import AngularScaffold.OrderedMap

namespace AngularScaffold

namespace Pairs

variable {κ α : Type} [DecidableEq κ]

theorem get?_eq_some {pairs : List (κ × α)} (h : (keys pairs).Nodup) {k : κ} {v : α} :
    get? k pairs = some v ↔ (k, v) ∈ pairs := by
  induction pairs with
  | nil => simp [get?]
  | cons p rest ih =>
    obtain ⟨j, w⟩ := p
    rw [keys_cons, List.nodup_cons] at h
    obtain ⟨hj, hrest⟩ := h
    by_cases he : j = k
    · subst he
      have hv : (j, v) ∉ rest := fun hm => hj (List.mem_map.mpr ⟨_, hm, rfl⟩)
      simp [get?, hv, eq_comm]
    · have hk : k ≠ j := fun hk => he hk.symm
      simp [get?, he, hk, ih hrest]

theorem get?_eq_none {pairs : List (κ × α)} {k : κ} : get? k pairs = none ↔ k ∉ keys pairs := by
  induction pairs with
  | nil => simp [get?]
  | cons p rest ih =>
    obtain ⟨j, w⟩ := p
    by_cases he : j = k
    · simp [get?, he]
    · have hk : k ≠ j := fun hk => he hk.symm
      simp [get?, he, hk, ih]

theorem mem_put {k : κ} {v : α} {pairs : List (κ × α)} {p : κ × α} (h : p ∈ put k v pairs) :
    p = (k, v) ∨ p ∈ pairs := by
  induction pairs with
  | nil => exact Or.inl (by simpa [put] using h)
  | cons q rest ih =>
    obtain ⟨j, w⟩ := q
    rw [put] at h
    split at h
    · rcases List.mem_cons.mp h with h | h
      · exact Or.inl h
      · exact Or.inr (List.mem_cons_of_mem _ h)
    · rcases List.mem_cons.mp h with h | h
      · exact Or.inr (h ▸ List.mem_cons_self)
      · exact (ih h).imp_right (List.mem_cons_of_mem _)

theorem get?_perm {xs ys : List (κ × α)} (h : xs.Perm ys) (hx : (keys xs).Nodup) (k : κ) :
    get? k xs = get? k ys := by
  have hy : (keys ys).Nodup := (h.map Prod.fst).nodup_iff.mp hx
  apply Option.ext
  intro v
  rw [get?_eq_some hx, get?_eq_some hy, h.mem_iff]

theorem mem_putAll {pairs start : List (κ × α)} {p : κ × α} (h : p ∈ putAll pairs start) : p ∈ pairs ∨ p ∈ start := by
  induction pairs generalizing start with
  | nil => exact .inr h
  | cons q rest ih =>
    rcases ih h with h | h
    · exact .inl (List.mem_cons_of_mem _ h)
    · rcases mem_put h with rfl | h
      · exact .inl List.mem_cons_self
      · exact .inr h

theorem keys_prefix_putAll (pairs start : List (κ × α)) : keys start <+: keys (putAll pairs start) := by
  induction pairs generalizing start with
  | nil => exact List.prefix_refl _
  | cons p rest ih =>
    refine List.IsPrefix.trans ?_ (ih (put p.1 p.2 start))
    rw [keys_put]
    split
    · exact List.prefix_refl _
    · exact List.prefix_append _ _

theorem put_of_notMem {k : κ} {pairs : List (κ × α)} (h : k ∉ keys pairs) (v : α) :
    put k v pairs = pairs ++ [(k, v)] := by
  induction pairs with
  | nil => rfl
  | cons p rest ih =>
    obtain ⟨j, w⟩ := p
    rw [keys_cons, List.mem_cons, not_or] at h
    rw [put, if_neg (Ne.symm h.1), ih h.2, List.cons_append]

theorem put_of_get? {pairs : List (κ × α)} {k : κ} {v : α} (h : get? k pairs = some v) : put k v pairs = pairs := by
  induction pairs with
  | nil => cases h
  | cons p rest ih =>
    obtain ⟨j, w⟩ := p
    rw [get?] at h
    rw [put]
    split at h
    · rename_i hj
      cases h
      rw [if_pos hj, hj]
    · rename_i hj
      rw [if_neg hj, ih h]

theorem putAll_of_nodup {pairs start : List (κ × α)} (h : (keys (start ++ pairs)).Nodup) :
    putAll pairs start = start ++ pairs := by
  induction pairs generalizing start with
  | nil => exact (List.append_nil start).symm
  | cons p rest ih =>
    have hp : p.1 ∉ keys start := by
      rw [keys, List.map_append, List.map_cons, List.nodup_append] at h
      exact fun hmem => h.2.2 _ hmem _ List.mem_cons_self rfl
    rw [List.append_cons] at h ⊢
    rw [putAll, List.foldl_cons, put_of_notMem hp]
    exact ih h

end Pairs

theorem OrderedMap.ofList_entries {α : Type} (m : OrderedMap α) : ofList m.entries = m := by
  have h : Pairs.putAll m.entries [] = m.entries := Pairs.putAll_of_nodup m.distinct
  obtain ⟨entries, distinct⟩ := m
  simp only [ofList, h]

end AngularScaffold
