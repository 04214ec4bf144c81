namespace AngularScaffold

variable {ε ε' α β γ : Type}

theorem bind_eq_ok {x : Except ε α} {f : α → Except ε β} {b : β} :
    (x >>= f) = .ok b ↔ ∃ a, x = .ok a ∧ f a = .ok b := by
  cases x <;> simp [bind, Except.bind]

theorem bind_unit_eq_ok {x : Except ε Unit} {f : Unit → Except ε β} {b : β} :
    (x >>= f) = .ok b ↔ x = .ok () ∧ f () = .ok b := by
  cases x <;> simp [bind, Except.bind]

theorem bind_unit_eq_error {x : Except ε Unit} {f : Unit → Except ε β} {e : ε} :
    (x >>= f) = .error e ↔ x = .error e ∨ x = .ok () ∧ f () = .error e := by
  cases x <;> simp [bind, Except.bind]

theorem bind_eq_error {x : Except ε α} {f : α → Except ε β} {e : ε} :
    (x >>= f) = .error e ↔ x = .error e ∨ ∃ a, x = .ok a ∧ f a = .error e := by
  cases x <;> simp [bind, Except.bind]

theorem map_eq_ok {x : Except ε α} {f : α → β} {b : β} : x.map f = .ok b ↔ ∃ a, x = .ok a ∧ f a = b := by
  cases x <;> simp [Except.map]

theorem mapError_eq_ok {x : Except ε α} {f : ε → ε'} {a : α} : x.mapError f = .ok a ↔ x = .ok a := by
  cases x with
  | error e =>
    show Except.error (f e) = .ok a ↔ _
    simp
  | ok b =>
    show Except.ok b = .ok a ↔ _
    simp

theorem map_eq_error {x : Except ε α} {f : α → β} {e : ε} : x.map f = .error e ↔ x = .error e := by
  cases x <;> simp [Except.map]

theorem mapError_eq_error {x : Except ε α} {f : ε → ε'} {e' : ε'} :
    x.mapError f = .error e' ↔ ∃ e, x = .error e ∧ f e = e' := by
  cases x with
  | error e =>
    show Except.error (f e) = .error e' ↔ _
    simp
  | ok a =>
    show Except.ok a = .error e' ↔ _
    simp

theorem isOk_iff {x : Except ε α} : x.isOk = true ↔ ∃ a, x = .ok a := by
  cases x <;> simp [Except.isOk, Except.toBool]

instance decidableExistsOk {x : Except ε α} {p : α → Prop} [DecidablePred p] : Decidable (∃ a, x = .ok a ∧ p a) :=
  match x with
  | .ok a => decidable_of_iff (p a) ⟨fun h => ⟨a, rfl, h⟩, fun ⟨_, rfl, h⟩ => h⟩
  | .error _ => .isFalse nofun

def checkInTurn (check : List α → α → Except ε Unit) (before : List α) : List α → Except ε Unit
  | [] => .ok ()
  | x :: rest => do
    check before x
    checkInTurn check (before ++ [x]) rest

theorem checkInTurn_eq_error {check : List α → α → Except ε Unit} {before rest : List α} {e : ε} :
    checkInTurn check before rest = .error e ↔ ∃ front x back, rest = front ++ x :: back ∧
      checkInTurn check before front = .ok () ∧ check (before ++ front) x = .error e := by
  induction rest generalizing before with
  | nil => simp [checkInTurn]
  | cons y rest ih =>
    -- either the first item fails, or it joins those before and the failure is further back
    rw [checkInTurn, bind_unit_eq_error, ih]
    constructor
    · rintro (hy | ⟨hy, front, x, back, rfl, hfront, hx⟩)
      · exact ⟨[], y, rest, rfl, rfl, by rwa [List.append_nil]⟩
      · rw [List.append_assoc] at hx
        refine ⟨y :: front, x, back, rfl, ?_, hx⟩
        rw [checkInTurn, bind_unit_eq_ok]
        exact ⟨hy, hfront⟩
    · rintro ⟨front, x, back, hsplit, hfront, hx⟩
      cases front with
      | nil =>
        obtain ⟨rfl, -⟩ := List.cons.inj hsplit
        rw [List.append_nil] at hx
        exact .inl hx
      | cons z front =>
        obtain ⟨rfl, hrest⟩ := List.cons.inj hsplit
        rw [checkInTurn, bind_unit_eq_ok] at hfront
        refine .inr ⟨hfront.1, front, x, back, hrest, hfront.2, ?_⟩
        rwa [List.append_assoc]

def FirstFailure (fails : α → ε → Prop) (items : List α) (e : ε) : Prop :=
  ∃ front x back, items = front ++ x :: back ∧ (∀ y ∈ front, ∀ e, ¬ fails y e) ∧ fails x e

section FirstFailure

variable {fails : α → ε → Prop} {items rest more : List α} {x : α} {e : ε}

theorem not_firstFailure_nil : ¬ FirstFailure fails [] e := by
  rintro ⟨front, x, back, hsplit, -, -⟩
  exact List.append_ne_nil_of_right_ne_nil front (List.cons_ne_nil x back) hsplit.symm

theorem firstFailure_cons :
    FirstFailure fails (x :: rest) e ↔ fails x e ∨ (∀ e, ¬ fails x e) ∧ FirstFailure fails rest e := by
  constructor
  · rintro ⟨front, y, back, hsplit, hfront, hy⟩
    cases front with
    | nil =>
      obtain ⟨rfl, -⟩ := List.cons.inj hsplit
      exact .inl hy
    | cons z front =>
      obtain ⟨rfl, hrest⟩ := List.cons.inj hsplit
      rw [List.forall_mem_cons] at hfront
      exact .inr ⟨hfront.1, front, y, back, hrest, hfront.2, hy⟩
  · rintro (hx | ⟨hx, front, y, back, rfl, hfront, hy⟩)
    · exact ⟨[], x, rest, rfl, nofun, hx⟩
    · exact ⟨x :: front, y, back, rfl, List.forall_mem_cons.mpr ⟨hx, hfront⟩, hy⟩

theorem firstFailure_append (h : ∀ y ∈ more, ∀ e, ¬ fails y e) :
    FirstFailure fails (items ++ more) e ↔ FirstFailure fails items e := by
  induction items with
  | nil =>
    refine iff_of_false ?_ not_firstFailure_nil
    rintro ⟨front, y, back, rfl, -, hy⟩
    exact h y (List.mem_append_right front List.mem_cons_self) e hy
  | cons x rest ih => rw [List.cons_append, firstFailure_cons, firstFailure_cons, ih]

theorem exists_firstFailure : (∃ e, FirstFailure fails items e) ↔ ∃ x ∈ items, ∃ e, fails x e := by
  constructor
  · rintro ⟨e, front, x, back, rfl, -, hx⟩
    exact ⟨x, List.mem_append_right front List.mem_cons_self, e, hx⟩
  · rintro ⟨x, hmem, hx⟩
    induction items with
    | nil => exact absurd hmem List.not_mem_nil
    | cons y rest ih =>
      by_cases hy : ∃ e, fails y e
      · obtain ⟨e, hy⟩ := hy
        exact ⟨e, firstFailure_cons.mpr (.inl hy)⟩
      · rcases List.mem_cons.mp hmem with rfl | hmem
        · exact absurd hx hy
        · obtain ⟨e, he⟩ := ih hmem
          exact ⟨e, firstFailure_cons.mpr (.inr ⟨not_exists.mp hy, he⟩)⟩

theorem eq_error_iff_firstFailure {each : α → Except ε β} {pack : α → β → γ} {all : List α → Except ε (List γ)}
    (hfails : ∀ x e, each x = .error e ↔ fails x e) (hnil : all [] = .ok [])
    (hcons : ∀ x rest, all (x :: rest) = do
      let y ← each x
      let ys ← all rest
      .ok (pack x y :: ys)) :
    all items = .error e ↔ FirstFailure fails items e := by
  induction items with
  | nil =>
    rw [hnil]
    exact iff_of_false nofun not_firstFailure_nil
  | cons x rest ih =>
    rw [hcons, bind_eq_error, firstFailure_cons, ← ih]
    simp only [← hfails]
    cases each x with
    | error e => simp
    | ok y => simp [bind_eq_error]

end FirstFailure

end AngularScaffold
