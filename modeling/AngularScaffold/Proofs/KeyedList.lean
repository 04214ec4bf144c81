import Mathlib.Data.List.Nodup
import Mathlib.Data.List.Pairwise

namespace AngularScaffold

variable {α β : Type}

theorem find?_key_eq_some {key : α → String} {xs : List α} (h : (xs.map key).Nodup) {k : String} {x : α} :
    xs.find? (key · == k) = some x ↔ x ∈ xs ∧ key x = k := by
  constructor
  · intro hf
    exact ⟨List.mem_of_find?_eq_some hf, by simpa using List.find?_some hf⟩
  · rintro ⟨hmem, rfl⟩
    cases hf : xs.find? (key · == key x) with
    | none => exact absurd (List.find?_eq_none.mp hf x hmem) (by simp)
    | some found =>
      have hkey : key found = key x := by simpa using List.find?_some hf
      rw [List.inj_on_of_nodup_map h (List.mem_of_find?_eq_some hf) hmem hkey]

theorem find?_perm {key : α → String} {xs ys : List α} (h : xs.Perm ys) (hx : (xs.map key).Nodup)
    (k : String) : xs.find? (key · == k) = ys.find? (key · == k) := by
  have hy : (ys.map key).Nodup := (h.map key).nodup_iff.mp hx
  apply Option.ext
  intro x
  rw [find?_key_eq_some hx, find?_key_eq_some hy, h.mem_iff]

theorem nodup_flatMap_iff {xs : List α} (h : xs.Nodup) {f : α → List β} : (xs.flatMap f).Nodup ↔
    (∀ a ∈ xs, (f a).Nodup) ∧ ∀ a ∈ xs, ∀ b ∈ xs, ∀ x, x ∈ f a → x ∈ f b → a = b := by
  rw [List.nodup_flatMap]
  refine and_congr_right fun _ => ?_
  constructor
  · intro hdisjoint a ha b hb x hxa hxb
    have hsymm : Std.Symm (Function.onFun List.Disjoint f) := ⟨fun _ _ h _ hx hy => h hy hx⟩
    by_contra hne
    exact hdisjoint.forall ha hb hne hxa hxb
  · intro howner
    exact h.imp_of_mem fun ha hb hne x hxa hxb => hne (howner _ ha _ hb x hxa hxb)

end AngularScaffold
