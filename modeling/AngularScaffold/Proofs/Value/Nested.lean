import AngularScaffold.Value.Basic

namespace AngularScaffold

namespace Value

@[elab_as_elim, induction_eliminator]
theorem inductionOnParts {motive : Value → Prop} (bool : ∀ b, motive (.bool b)) (int : ∀ i, motive (.int i))
    (float : ∀ x, motive (.float x)) (text : ∀ s, motive (.text s))
    (list : ∀ items, (∀ v ∈ items, motive v) → motive (.list items))
    (map : ∀ entries, (∀ e ∈ entries, motive e.2) → motive (.map entries)) (v : Value) : motive v := by
  refine @Value.rec motive (fun items => ∀ v ∈ items, motive v) (fun entries => ∀ e ∈ entries, motive e.2)
    (fun e => motive e.2) bool int float text list map ?_ ?_ ?_ ?_ ?_ v
  · exact fun _ h => nomatch h
  · exact fun v vs hv hvs => List.forall_mem_cons.mpr ⟨hv, hvs⟩
  · exact fun _ h => nomatch h
  · exact fun e es he hes => List.forall_mem_cons.mpr ⟨he, hes⟩
  · exact fun _ _ hv => hv

inductive Occurs (v : Value) : Value → Prop
  | here : Occurs v v
  | inList {w items} : w ∈ items → Occurs v w → Occurs v (.list items)
  | inMap {e entries} : e ∈ entries → Occurs v e.2 → Occurs v (.map entries)

def Throughout (p : Value → Prop) (v : Value) : Prop :=
  ∀ w, Occurs w v → p w

variable {p : Value → Prop}

theorem Throughout.self {v : Value} (h : v.Throughout p) : p v :=
  h v .here

@[simp] theorem throughout_list {items : List Value} :
    (list items).Throughout p ↔ p (.list items) ∧ ∀ v ∈ items, v.Throughout p := by
  refine ⟨fun h => ⟨h.self, fun v hv w hw => h w (.inList hv hw)⟩, fun h w hw => ?_⟩
  cases hw with
  | here => exact h.1
  | inList hv hw => exact h.2 _ hv w hw

@[simp] theorem throughout_map {entries : List (String × Value)} :
    (map entries).Throughout p ↔ p (.map entries) ∧ ∀ e ∈ entries, e.2.Throughout p := by
  refine ⟨fun h => ⟨h.self, fun e he w hw => h w (.inMap he hw)⟩, fun h w hw => ?_⟩
  cases hw with
  | here => exact h.1
  | inMap he hw => exact h.2 _ he w hw

mutual

def nesting : Value → Nat
  | bool _ | int _ | float _ | text _ => 0
  | list items => itemsNesting items + 1
  | map entries => entriesNesting entries + 1

def itemsNesting : List Value → Nat
  | [] => 0
  | v :: vs => max v.nesting (itemsNesting vs)

def entriesNesting : List (String × Value) → Nat
  | [] => 0
  | (_, v) :: es => max v.nesting (entriesNesting es)

end

theorem throughout_flat {v : Value} (h : v.nesting = 0) : v.Throughout p ↔ p v := by
  refine ⟨Throughout.self, fun hp w hw => ?_⟩
  cases hw with
  | here => exact hp
  | inList _ _ => simp [nesting] at h
  | inMap _ _ => simp [nesting] at h

@[simp] theorem throughout_bool {b : Bool} : (bool b).Throughout p ↔ p (.bool b) := throughout_flat rfl

@[simp] theorem throughout_int {i : Int64} : (int i).Throughout p ↔ p (.int i) := throughout_flat rfl

@[simp] theorem throughout_text {s : String} : (text s).Throughout p ↔ p (.text s) := throughout_flat rfl

theorem nesting_le_of_mem_items {items : List Value} {v : Value} (h : v ∈ items) : v.nesting ≤ itemsNesting items := by
  induction items with
  | nil => cases h
  | cons w ws ih =>
    rw [itemsNesting]
    rcases List.mem_cons.mp h with rfl | h
    · exact Nat.le_max_left _ _
    · exact Nat.le_trans (ih h) (Nat.le_max_right _ _)

theorem nesting_le_of_mem_entries {entries : List (String × Value)} {e : String × Value} (h : e ∈ entries) :
    e.2.nesting ≤ entriesNesting entries := by
  induction entries with
  | nil => cases h
  | cons f es ih =>
    rw [entriesNesting]
    rcases List.mem_cons.mp h with rfl | h
    · exact Nat.le_max_left _ _
    · exact Nat.le_trans (ih h) (Nat.le_max_right _ _)

def IsFloat : Value → Prop
  | float _ => True
  | _ => False

def Keyed : Value → Prop
  | map entries => (Pairs.keys entries).Nodup
  | _ => True

end Value

def Config.Throughout (p : Value → Prop) (c : Config) : Prop :=
  ∀ e ∈ c.entries, e.2.Throughout p

end AngularScaffold
