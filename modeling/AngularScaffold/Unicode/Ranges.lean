/-!
Sets of code points given by ascending runs, the form in which the tables of character properties
are written.
-/

namespace AngularScaffold.Unicode

/-- Code points `first`, `first + stride`, ... up to `last`. -/
structure Run where
  first : Nat
  last : Nat
  stride : Nat := 1

namespace Run

def covers (r : Run) (n : Nat) : Bool :=
  r.first ≤ n && n ≤ r.last && (n - r.first) % r.stride == 0

end Run

def covered : List Run → Nat → Bool
  -- the runs ascend
  | [], _ => false
  | r :: rs, n => if n < r.first then false else r.covers n || covered rs n

theorem exists_of_covered {rs : List Run} {n : Nat} (h : covered rs n = true) :
    ∃ r ∈ rs, r.covers n = true := by
  induction rs with
  | nil => simp [covered] at h
  | cons s rs ih =>
    rw [covered] at h
    split at h
    · simp at h
    · rcases Bool.or_eq_true _ _ |>.mp h with h | h
      · exact ⟨s, by simp, h⟩
      · obtain ⟨r, hr, hn⟩ := ih h
        exact ⟨r, List.mem_cons_of_mem _ hr, hn⟩

end AngularScaffold.Unicode
