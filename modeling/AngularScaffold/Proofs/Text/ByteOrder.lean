import AngularScaffold.Text.Bytes

namespace AngularScaffold.Text

theorem noLater_iff {s t : String} : noLater s t = true ↔ bytes s ≤ bytes t := by
  simp [noLater]

theorem before_iff {s t : String} : before s t = true ↔ bytes s < bytes t := by
  simp [before]

theorem noLater_total (s t : String) : (noLater s t || noLater t s) = true := by
  rw [Bool.or_eq_true, noLater_iff, noLater_iff]
  exact List.le_total _ _

theorem noLater_trans {s t u : String} (hst : noLater s t = true) (htu : noLater t u = true) :
    noLater s u = true := by
  rw [noLater_iff] at *
  exact List.le_trans hst htu

theorem bytes_lt_of_noLater {s t : String} (h : noLater s t = true) (hne : s ≠ t) : bytes s < bytes t := by
  rw [noLater_iff] at h
  have hb : bytes s ≠ bytes t := fun he => hne (bytes_injective he)
  exact Std.lt_of_le_of_ne h hb

theorem bytes_lt_of_not_before {s t : String} (h : ¬before s t = true) (hne : s ≠ t) : bytes t < bytes s := by
  rw [before_iff, List.not_lt] at h
  exact bytes_lt_of_noLater (noLater_iff.mpr h) hne.symm

def Ascending (texts : List String) : Prop :=
  texts.Pairwise fun s t => bytes s < bytes t

theorem Ascending.nodup {texts : List String} (h : Ascending texts) : texts.Nodup := by
  refine List.Pairwise.imp ?_ h
  intro s t hlt he
  exact List.lt_irrefl _ (he ▸ hlt)

theorem ascending_mergeSort {α : Type} {key : α → String} {xs : List α} (h : (xs.map key).Nodup) :
    Ascending ((xs.mergeSort fun a b => noLater (key a) (key b)).map key) := by
  have hsorted : (xs.mergeSort fun a b => noLater (key a) (key b)).Pairwise
      fun a b => noLater (key a) (key b) = true := by
    apply List.pairwise_mergeSort
    · intro a b c
      exact noLater_trans
    · intro a b
      exact noLater_total _ _
  have hperm := (List.mergeSort_perm xs fun a b => noLater (key a) (key b)).map key
  have hdistinct := List.pairwise_map.mp (hperm.nodup_iff.mpr h)
  apply List.pairwise_map.mpr
  exact hsorted.imp₂ (fun _ _ => bytes_lt_of_noLater) hdistinct

theorem eq_of_ascending {α : Type} {key : α → String} {xs ys : List α} (hx : Ascending (xs.map key))
    (hy : Ascending (ys.map key)) (h : xs.Perm ys) : xs = ys := by
  have hxs := List.pairwise_map.mp hx
  have hys := List.pairwise_map.mp hy
  apply List.Perm.eq_of_pairwise _ hxs hys h
  intro a b _ _ hab hba
  exact absurd hba (List.lt_asymm hab)

theorem mergeSort_insert {α : Type} {key : α → String} {front back : List α} {x : α}
    (h : ((front ++ x :: back).map key).Nodup) : ∃ before after,
      ((front ++ x :: back).mergeSort fun a b => noLater (key a) (key b)) = before ++ x :: after ∧
      ((front ++ back).mergeSort fun a b => noLater (key a) (key b)) = before ++ after := by
  have hsub : (front ++ back).Sublist (front ++ x :: back) :=
    (List.Sublist.refl front).append (List.sublist_cons_self x back)
  have hall := ascending_mergeSort h
  have hothers := ascending_mergeSort (h.sublist (hsub.map key))
  have hperm := List.mergeSort_perm (front ++ x :: back) fun a b => noLater (key a) (key b)
  obtain ⟨before, after, hsplit⟩ :=
    List.append_of_mem (hperm.mem_iff.mpr (List.mem_append_right front List.mem_cons_self))
  rw [hsplit] at hall hperm
  refine ⟨before, after, hsplit, ?_⟩
  have hrest : (before ++ after).Sublist (before ++ x :: after) :=
    (List.Sublist.refl before).append (List.sublist_cons_self x after)
  have hsame : (x :: (front ++ back)).Perm (x :: (before ++ after)) :=
    List.perm_middle.symm.trans (hperm.symm.trans List.perm_middle)
  exact eq_of_ascending hothers (hall.sublist (hrest.map key)) ((List.mergeSort_perm _ _).trans hsame.cons_inv)

end AngularScaffold.Text
