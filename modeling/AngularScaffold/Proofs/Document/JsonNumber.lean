import AngularScaffold.Document.Json.Number

namespace AngularScaffold.Document.Json

open Decimal (digitValue)

def Ends (rest : List Char) : Prop :=
  ∀ c ∈ rest.head?, c = ',' ∨ c = ']' ∨ c = '}'

theorem ends_nil : Ends [] := nofun

theorem ends_comma (rest : List Char) : Ends (',' :: rest) := by simp [Ends]

theorem ends_bracket (rest : List Char) : Ends (']' :: rest) := by simp [Ends]

theorem ends_brace (rest : List Char) : Ends ('}' :: rest) := by simp [Ends]

theorem le_ofDigitChars (ds : List Char) (n : Nat) : n ≤ Nat.ofDigitChars 10 ds n := by
  induction ds generalizing n with
  | nil => simp
  | cons d ds ih =>
    rw [Nat.ofDigitChars_cons]
    have := ih (10 * n + (d.toNat - '0'.toNat))
    omega

theorem Significand.append_of_le {ds : List Char} (hds : ∀ d ∈ ds, d.isDigit) (s : Significand)
    (h : Nat.ofDigitChars 10 ds s.value ≤ significandLimit) :
    (s.append ds).value = Nat.ofDigitChars 10 ds s.value ∧ (s.append ds).dropped = s.dropped := by
  induction ds generalizing s with
  | nil => simp [append]
  | cons d ds ih =>
    rw [List.forall_mem_cons] at hds
    have hnext : s.value * 10 + digitValue d = 10 * s.value + (d.toNat - '0'.toNat) := by
      rw [digitValue, if_pos hds.1, Nat.mul_comm]
    rw [Nat.ofDigitChars_cons] at h ⊢
    -- digits that are still to come never make a number smaller
    have hle := Nat.le_trans (le_ofDigitChars ds _) h
    rw [append, hnext, if_neg (by omega)]
    exact ih hds.2 _ h

theorem toDigits_pos {n : Nat} (h : 0 < n) : ∃ c cs, Nat.toDigits 10 n = c :: cs ∧ c ≠ '0' := by
  induction n using Nat.strongRecOn with
  | ind n ih =>
    by_cases hn : n < 10
    · rw [Nat.toDigits_of_lt_base hn]
      refine ⟨n.digitChar, [], rfl, ?_⟩
      rw [Ne, Nat.digitChar_eq_zero]
      omega
    · obtain ⟨c, cs, hcs, hc⟩ := ih (n / 10) (by omega) (by omega)
      rw [Nat.toDigits_of_base_le (by decide) (by omega), hcs]
      exact ⟨c, _, rfl, hc⟩

theorem isDigit_of_mem_toDigits {n : Nat} : ∀ c ∈ Nat.toDigits 10 n, c.isDigit := fun _ h =>
  Nat.isDigit_of_mem_toDigits (by decide) (by decide) h

variable {rest : List Char}

theorem Ends.not_digit (h : Ends rest) : ∀ c ∈ rest.head?, c.isDigit = false := by
  intro c hc
  rcases h c hc with rfl | rfl | rfl <;> decide

theorem takeWhile_digits (h : Ends rest) {ds : List Char} (hds : ∀ d ∈ ds, d.isDigit) (offset : Nat) :
    ∃ k, Cursor.takeWhile Char.isDigit ⟨offset, ds ++ rest⟩ = (ds, k) ∧ k.rest = rest := by
  have hnone : rest.takeWhile Char.isDigit = [] ∧ rest.dropWhile Char.isDigit = rest := by
    cases rest with
    | nil => exact ⟨rfl, rfl⟩
    | cons c cs =>
      have hc : c.isDigit = false := h.not_digit c rfl
      simp [hc]
  refine ⟨_, Prod.ext ?_ rfl, ?_⟩
  · rw [Cursor.takeWhile, Cursor.takeWhile_go_fst, List.takeWhile_append_of_pos hds, hnone.1, List.append_nil]
  · rw [Cursor.takeWhile, Cursor.takeWhile_go_rest, List.dropWhile_append_of_pos hds, hnone.2]

theorem readAfterWhole_of_ends (start : Nat) (negative : Bool) {s : Significand} (hs : s.dropped = 0) {k : Cursor}
    (h : Ends k.rest) :
    readAfterWhole start negative s k = (.scalar (wholeNumber negative s.value) ⟨start, k.offset⟩, some k) := by
  obtain ⟨offset, rest⟩ := k
  cases rest with
  | nil => simp [readAfterWhole, hs]
  | cons c cs =>
    rcases h c rfl with rfl | rfl | rfl <;> simp [readAfterWhole, isExponentMark, hs]

theorem readUnsigned_toDigits (start : Nat) (negative : Bool) (offset : Nat) {n : Nat} (hn : n ≤ significandLimit)
    (h : Ends rest) : ∃ span k, readUnsigned start negative ⟨offset, Nat.toDigits 10 n ++ rest⟩ =
      (.scalar (wholeNumber negative n) span, some k) ∧ k.rest = rest := by
  rcases Nat.eq_zero_or_pos n with rfl | hpos
  · have hnone : rest.head?.any Char.isDigit = false := by
      rw [Option.any_eq_false]
      exact fun c hc => by simp [h.not_digit c hc]
    refine ⟨⟨start, offset + 1⟩, ⟨offset + 1, rest⟩, ?_, rfl⟩
    rw [Nat.toDigits_zero, List.singleton_append, readUnsigned]
    simp only [hnone, Bool.false_eq_true, if_false]
    exact readAfterWhole_of_ends start negative rfl h
  · obtain ⟨c, cs, hcs, hc⟩ := toDigits_pos hpos
    have hdigits := isDigit_of_mem_toDigits (n := n)
    obtain ⟨k, htake, hk⟩ := takeWhile_digits h hdigits offset
    have hvalue : Nat.ofDigitChars 10 (Nat.toDigits 10 n) 0 = n := Nat.ofDigitChars_toDigits (by decide) (by decide)
    obtain ⟨hsig, hdropped⟩ := Significand.append_of_le hdigits ⟨0, 0, 0⟩ (by rwa [hvalue])
    rw [hvalue] at hsig
    refine ⟨⟨start, k.offset⟩, k, ?_, hk⟩
    have hd : c.isDigit := hdigits c (hcs ▸ List.mem_cons_self)
    rw [hcs, List.cons_append] at htake
    rw [hcs, List.cons_append, readUnsigned.eq_def]
    simp only [hd, if_true, htake]
    rw [← hcs, readAfterWhole_of_ends start negative hdropped (hk ▸ h), hsig]

theorem toList_toString (i : Int) :
    (toString i).toList = if 0 ≤ i then Nat.toDigits 10 i.natAbs else '-' :: Nat.toDigits 10 i.natAbs := by
  rw [Int.toString_eq_repr, Int.repr_eq_if]
  split
  · have : i.toNat = i.natAbs := by omega
    rw [Nat.toList_repr, this]
  · have : (-i).toNat = i.natAbs := by omega
    rw [String.toList_append, Nat.toList_repr, this]
    rfl

theorem toString_starts (i : Int) : ∃ c cs, (toString i).toList = c :: cs ∧ (c = '-' ∨ c.isDigit) := by
  rw [toList_toString]
  split
  · cases hcs : Nat.toDigits 10 i.natAbs with
    | nil => exact absurd hcs Nat.toDigits_ne_nil
    | cons c cs => exact ⟨c, cs, rfl, .inr (isDigit_of_mem_toDigits c (hcs ▸ List.mem_cons_self))⟩
  · exact ⟨'-', _, rfl, .inl rfl⟩

theorem wholeNumber_of_nonneg {i : Int} (h : 0 ≤ i) : wholeNumber false i.natAbs = .int i := by
  have : (i.natAbs : Int) = i := by omega
  simp [wholeNumber, this]

theorem wholeNumber_of_neg {i : Int} (h : i < 0) (hle : i.natAbs ≤ Nat.pow 2 63) :
    wholeNumber true i.natAbs = .int i := by
  have hnonzero : i.natAbs ≠ 0 := by omega
  have hfits : ¬Nat.pow 2 63 < i.natAbs := by omega
  have hneg : -(i.natAbs : Int) = i := by omega
  simp only [wholeNumber, hnonzero, hfits, hneg, Bool.not_true, Bool.false_eq_true, decide_false, Bool.or_self,
    if_false]

theorem readNumber_toString (i : Int64) (offset : Nat) (h : Ends rest) :
    ∃ span k, readNumber ⟨offset, (toString i.toInt).toList ++ rest⟩ =
      (.scalar (.int i.toInt) span, some k) ∧ k.rest = rest := by
  have hlt := i.toInt_lt
  have hle := i.le_toInt
  have hnegative : i.toInt.natAbs ≤ Nat.pow 2 63 := by
    have hpow : Nat.pow 2 63 = 9223372036854775808 := rfl
    omega
  have hfits : i.toInt.natAbs ≤ significandLimit := Nat.le_trans hnegative (by decide)
  rw [toList_toString]
  split
  · next hi =>
    obtain ⟨span, k, hread, hk⟩ := readUnsigned_toDigits offset false offset hfits h
    refine ⟨span, k, ?_, hk⟩
    rw [← wholeNumber_of_nonneg hi, ← hread, readNumber.eq_def]
    cases hcs : Nat.toDigits 10 i.toInt.natAbs with
    | nil => exact absurd hcs Nat.toDigits_ne_nil
    | cons c cs =>
      have hc : c.isDigit := isDigit_of_mem_toDigits c (hcs ▸ List.mem_cons_self)
      have hminus : c ≠ '-' := by
        rintro rfl
        cases hc
      simp [hminus]
  · next hi =>
    obtain ⟨span, k, hread, hk⟩ := readUnsigned_toDigits offset true (offset + 1) hfits h
    refine ⟨span, k, ?_, hk⟩
    rw [← wholeNumber_of_neg (by omega) hnegative, ← hread]
    rfl

end AngularScaffold.Document.Json
