import AngularScaffold.Text.Bytes

namespace AngularScaffold.Text

def splitAtByte? : Nat → List Char → Option (List Char × List Char)
  | 0, cs => some ([], cs)
  | _ + 1, [] => none
  | n + 1, c :: cs =>
    if c.utf8Size ≤ n + 1 then (splitAtByte? (n + 1 - c.utf8Size) cs).map fun p => (c :: p.1, p.2) else none

def isBoundary (n : Nat) (cs : List Char) : Bool :=
  (splitAtByte? n cs).isSome

def upToByte? (n : Nat) (cs : List Char) : Option (List Char) :=
  (splitAtByte? n cs).map Prod.fst

def fromByte? (n : Nat) (cs : List Char) : Option (List Char) :=
  (splitAtByte? n cs).map Prod.snd

theorem byteLength_pos {cs : List Char} (h : cs ≠ []) : 0 < byteLength cs :=
  Nat.lt_of_lt_of_le (List.length_pos_iff.mpr h) (length_le_byteLength cs)

theorem splitAtByte?_append (a b : List Char) : splitAtByte? (byteLength a) (a ++ b) = some (a, b) := by
  induction a with
  | nil => cases b <;> rfl
  | cons c a ih =>
    have hpos := c.utf8Size_pos
    obtain ⟨n, hn⟩ : ∃ n, byteLength (c :: a) = n + 1 := ⟨byteLength (c :: a) - 1, by simp; omega⟩
    have hrest : n + 1 - c.utf8Size = byteLength a := by simp at hn; omega
    have hfits : c.utf8Size ≤ n + 1 := by simp at hn; omega
    rw [hn, List.cons_append, splitAtByte?, if_pos hfits, hrest, ih]
    rfl

theorem eq_append_of_splitAtByte? {n : Nat} {cs a b : List Char} (h : splitAtByte? n cs = some (a, b)) :
    cs = a ++ b ∧ byteLength a = n := by
  fun_induction splitAtByte? n cs generalizing a b with
  | case1 cs =>
    cases h
    exact ⟨rfl, rfl⟩
  | case2 => cases h
  | case3 n c cs hfits ih =>
    obtain ⟨⟨a', b'⟩, hsplit, hpair⟩ := Option.map_eq_some_iff.mp h
    cases hpair
    obtain ⟨rfl, hlen⟩ := ih hsplit
    exact ⟨rfl, by rw [byteLength_cons, hlen]; omega⟩
  | case4 => cases h

theorem append_inj_of_byteLength {a b c d : List Char} (h : a ++ b = c ++ d) (hlen : byteLength a = byteLength c) :
    a = c ∧ b = d := by
  have hsplit : some (a, b) = some (c, d) := by
    rw [← splitAtByte?_append, ← splitAtByte?_append, h, hlen]
  cases hsplit
  exact ⟨rfl, rfl⟩

end AngularScaffold.Text
