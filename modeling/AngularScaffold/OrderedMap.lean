namespace AngularScaffold

namespace Pairs

variable {κ α : Type} [DecidableEq κ]

def put (k : κ) (v : α) : List (κ × α) → List (κ × α)
  | [] => [(k, v)]
  | (j, w) :: rest => if j = k then (k, v) :: rest else (j, w) :: put k v rest

def get? (k : κ) : List (κ × α) → Option α
  | [] => none
  | (j, w) :: rest => if j = k then some w else get? k rest

def keys (pairs : List (κ × α)) : List κ :=
  pairs.map Prod.fst

def putAll (pairs : List (κ × α)) (start : List (κ × α)) : List (κ × α) :=
  pairs.foldl (fun acc p => put p.1 p.2 acc) start

omit [DecidableEq κ] in
@[simp] theorem keys_nil : keys ([] : List (κ × α)) = [] := rfl

omit [DecidableEq κ] in
@[simp] theorem keys_cons (p : κ × α) (rest : List (κ × α)) : keys (p :: rest) = p.1 :: keys rest := rfl

theorem keys_put (k : κ) (v : α) (pairs : List (κ × α)) :
    keys (put k v pairs) = if k ∈ keys pairs then keys pairs else keys pairs ++ [k] := by
  induction pairs with
  | nil => simp [put]
  | cons p rest ih =>
    obtain ⟨j, w⟩ := p
    rw [put]
    by_cases h : j = k
    · simp [h]
    · have hk : k ≠ j := fun e => h e.symm
      simp only [h, if_false, keys_cons, ih, List.mem_cons, hk, false_or]
      split <;> simp

theorem get?_put (k j : κ) (v : α) (pairs : List (κ × α)) :
    get? j (put k v pairs) = if k = j then some v else get? j pairs := by
  induction pairs with
  | nil => simp [put, get?]
  | cons p rest ih =>
    obtain ⟨i, w⟩ := p
    rw [put]
    by_cases h : i = k
    · subst h
      simp only [if_true, get?]
      split <;> rfl
    · simp only [h, if_false, get?, ih]
      by_cases hj : i = j
      · subst hj
        have hk : k ≠ i := fun e => h e.symm
        simp [hk]
      · simp [hj]

theorem nodup_keys_put {k : κ} {v : α} {pairs : List (κ × α)} (h : (keys pairs).Nodup) :
    (keys (put k v pairs)).Nodup := by
  rw [keys_put]
  split
  · exact h
  · rename_i hk
    refine List.nodup_append.mpr ⟨h, by simp, ?_⟩
    intro a ha b hb
    rw [List.mem_singleton] at hb
    rintro rfl
    exact hk (hb ▸ ha)

theorem nodup_keys_putAll {pairs start : List (κ × α)} (h : (keys start).Nodup) :
    (keys (putAll pairs start)).Nodup := by
  induction pairs generalizing start with
  | nil => exact h
  | cons p rest ih => exact ih (nodup_keys_put h)

end Pairs

structure OrderedMap (α : Type) where
  entries : List (String × α)
  distinct : (Pairs.keys entries).Nodup

namespace OrderedMap

variable {α : Type}

def empty : OrderedMap α := ⟨[], List.nodup_nil⟩

instance : Inhabited (OrderedMap α) := ⟨empty⟩

def insert (m : OrderedMap α) (k : String) (v : α) : OrderedMap α :=
  ⟨Pairs.put k v m.entries, Pairs.nodup_keys_put m.distinct⟩

def ofList (pairs : List (String × α)) : OrderedMap α :=
  ⟨Pairs.putAll pairs [], Pairs.nodup_keys_putAll List.nodup_nil⟩

def get? (m : OrderedMap α) (k : String) : Option α :=
  Pairs.get? k m.entries

def contains (m : OrderedMap α) (k : String) : Bool :=
  (m.get? k).isSome

def keys (m : OrderedMap α) : List String :=
  Pairs.keys m.entries

def size (m : OrderedMap α) : Nat :=
  m.entries.length

def isEmpty (m : OrderedMap α) : Bool :=
  m.entries.isEmpty

end OrderedMap

end AngularScaffold
