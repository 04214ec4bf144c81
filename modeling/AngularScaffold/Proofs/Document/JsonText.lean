import AngularScaffold.Document.Json.Text
import AngularScaffold.Value.Json

namespace AngularScaffold.Document.Json

open Value (escapeJson hexDigit quoteJson)

def Yields (offset : Nat) (cs : List Char) (c : Char) (rest : List Char) : Prop :=
  ∃ offset', readTextFrom offset cs = prepend c (readTextFrom offset' rest)

theorem yields_short {e c : Char} (hu : e ≠ 'u') (he : shortEscape? e = some c) (offset : Nat) (rest : List Char) :
    Yields offset ('\\' :: e :: rest) c rest := by
  refine ⟨offset + 2, ?_⟩
  rw [readTextFrom.eq_def]
  simp [hu, he]

theorem hexValue4?_control : ∀ n < 0x20, hexValue4? '0' '0' (hexDigit (n / 16)) (hexDigit n) = some n := by
  decide

theorem yields_control {c : Char} (hc : c.toNat < 0x20) (offset : Nat) (rest : List Char) :
    Yields offset ('\\' :: 'u' :: '0' :: '0' :: hexDigit (c.toNat / 16) :: hexDigit c.toNat :: rest) c rest := by
  have htrailing : isTrailing c.toNat = false := by
    simp only [isTrailing, Bool.and_eq_false_iff, decide_eq_false_iff_not]
    omega
  have hleading : isLeading c.toNat = false := by
    simp only [isLeading, Bool.and_eq_false_iff, decide_eq_false_iff_not]
    omega
  refine ⟨offset + 6, ?_⟩
  rw [readTextFrom.eq_def]
  simp [hexValue4?_control _ hc, htrailing, hleading]

theorem yields_plain {c : Char} (hq : c ≠ '"') (hb : c ≠ '\\') (hc : ¬c.toNat < 0x20) (offset : Nat)
    (rest : List Char) : Yields offset (c :: rest) c rest := by
  refine ⟨offset + c.utf8Size, ?_⟩
  rw [readTextFrom.eq_def]
  simp [hq, hb, hc]

theorem yields_escapeJson (c : Char) (offset : Nat) (rest : List Char) :
    Yields offset (escapeJson c ++ rest) c rest := by
  rw [escapeJson]
  -- one letter, four digits, or the character itself
  iterate 7
    split
    · next h =>
      subst h
      exact yields_short (by decide) (by decide) offset rest
  split
  · next h => exact yields_control h offset rest
  · next hq hb _ _ _ _ _ hc => exact yields_plain hq hb hc offset rest

theorem readTextFrom_escaped (text : List Char) (offset : Nat) (rest : List Char) :
    ∃ offset', readTextFrom offset (text.flatMap escapeJson ++ '"' :: rest) = .ok (text, ⟨offset', rest⟩) := by
  induction text generalizing offset with
  | nil =>
    refine ⟨offset + 1, ?_⟩
    rw [List.flatMap_nil, List.nil_append, readTextFrom.eq_def]
    rfl
  | cons c cs ih =>
    rw [List.flatMap_cons, List.append_assoc]
    obtain ⟨next, hc⟩ := yields_escapeJson c offset (cs.flatMap escapeJson ++ '"' :: rest)
    obtain ⟨offset', hcs⟩ := ih next
    exact ⟨offset', by rw [hc, hcs, prepend]⟩

theorem toList_quoteJson (s : String) :
    ∃ inner, (quoteJson s).toList = '"' :: inner ∧ ∀ offset rest,
      ∃ offset', readTextFrom offset (inner ++ rest) = .ok (s.toList, ⟨offset', rest⟩) := by
  refine ⟨s.toList.flatMap escapeJson ++ ['"'], String.toList_ofList, fun offset rest => ?_⟩
  rw [List.append_assoc, List.singleton_append]
  exact readTextFrom_escaped s.toList offset rest

end AngularScaffold.Document.Json
