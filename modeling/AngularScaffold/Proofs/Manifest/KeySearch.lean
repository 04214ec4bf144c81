import AngularScaffold.Proofs.Document.CoveredBytes
import AngularScaffold.Proofs.Manifest.KeyPlaces
import Mathlib.Data.List.TakeWhile

namespace AngularScaffold.Manifest

open Document Naming Text

/-- A name between these texts is a part of a header or of a key with dots, or a key of its own. -/
inductive InKeyPosition (front back : List Char) : Prop
  | header (hfront : front.getLast? = some '.' ∨ front.getLast? = some '[')
      (hback : back.head? = some ']' ∨ back.head? = some '.') : InKeyPosition front back
  | entry {quote blanks rest : List Char} {mark : Char}
      (hfront : ∀ c ∈ front.getLast?, c ∈ ['"', '\'', '\n', ' ', '\t'])
      (hquote : quote ∈ [[], ['"'], ['\'']]) (hblanks : ∀ c ∈ blanks, c = ' ' ∨ c = '\t')
      (hmark : mark = '=' ∨ mark = ':') (hback : back = quote ++ (blanks ++ mark :: rest)) : InKeyPosition front back

theorem head?_dropWhile_eq_some {α : Type} {p : α → Bool} {xs : List α} {x : α} :
    (xs.dropWhile p).head? = some x ↔ p x = false ∧ ∃ run rest, xs = run ++ x :: rest ∧ ∀ y ∈ run, p y = true := by
  constructor
  · intro h
    obtain ⟨rest, hrest⟩ := List.head?_eq_some_iff.mp h
    have hx := List.head?_dropWhile_not p xs
    rw [h] at hx
    refine ⟨hx, xs.takeWhile p, rest, ?_, fun y hy => List.mem_takeWhile_imp hy⟩
    rw [← hrest, List.takeWhile_append_dropWhile]
  · rintro ⟨hx, run, rest, rfl, hrun⟩
    rw [List.dropWhile_append_of_pos hrun, List.dropWhile_cons_of_neg (by simpa using hx), List.head?_cons]

variable {front back : List Char} {offset : Nat} {before : Option Char}

theorem Occurrence.inHeader_iff : Occurrence.inHeader ⟨offset, before, back⟩ = true ↔
    (before = some '.' ∨ before = some '[') ∧ (back.head? = some ']' ∨ back.head? = some '.') := by
  simp [inHeader]

theorem Occurrence.opensKey_iff : Occurrence.opensKey ⟨offset, before, back⟩ = true ↔
    ∀ c ∈ before, c ∈ ['"', '\'', '\n', ' ', '\t'] := by
  cases before <;> simp [opensKey, or_assoc]

theorem Occurrence.head?_behindKey {mark : Char} (hmark : mark = '=' ∨ mark = ':') :
    (Occurrence.behindKey ⟨offset, before, back⟩).head? = some mark ↔
      ∃ quote blanks rest, quote ∈ [[], ['"'], ['\'']] ∧ (∀ c ∈ blanks, c = ' ' ∨ c = '\t') ∧
        back = quote ++ (blanks ++ mark :: rest) := by
  have hunquoted (cs : List Char) : (cs.dropWhile fun c => c == ' ' || c == '\t').head? = some mark ↔
      ∃ blanks rest, (∀ c ∈ blanks, c = ' ' ∨ c = '\t') ∧ cs = blanks ++ mark :: rest := by
    have hnot : (mark == ' ' || mark == '\t') = false := by
      rcases hmark with rfl | rfl <;> rfl
    rw [head?_dropWhile_eq_some]
    simp [hnot, and_comm]
  rw [behindKey]
  constructor
  · intro h
    split at h
    · rename_i cs hcs
      obtain ⟨blanks, rest, hblanks, rfl⟩ := (hunquoted cs).mp h
      exact ⟨['"'], blanks, rest, by simp, hblanks, hcs⟩
    · rename_i cs hcs
      obtain ⟨blanks, rest, hblanks, rfl⟩ := (hunquoted cs).mp h
      exact ⟨['\''], blanks, rest, by simp, hblanks, hcs⟩
    · obtain ⟨blanks, rest, hblanks, hcs⟩ := (hunquoted _).mp h
      exact ⟨[], blanks, rest, by simp, hblanks, hcs⟩
  · rintro ⟨quote, blanks, rest, hquote, hblanks, rfl⟩
    have hrest := (hunquoted (blanks ++ mark :: rest)).mpr ⟨blanks, rest, hblanks, rfl⟩
    simp only [List.mem_cons, List.not_mem_nil, or_false] at hquote
    rcases hquote with rfl | rfl | rfl
    · -- without a quote the text behind the name begins with a blank or with the mark
      obtain ⟨c, cs, hcs, hc⟩ : ∃ c cs, blanks ++ mark :: rest = c :: cs ∧ c ∈ [' ', '\t', '=', ':'] := by
        cases blanks with
        | nil => exact ⟨mark, rest, rfl, by rcases hmark with rfl | rfl <;> simp⟩
        | cons c blanks => exact ⟨c, _, rfl, by rcases hblanks c List.mem_cons_self with rfl | rfl <;> simp⟩
      rw [List.nil_append]
      rw [hcs] at hrest ⊢
      simp only [List.mem_cons, List.not_mem_nil, or_false] at hc
      rcases hc with rfl | rfl | rfl | rfl <;> exact hrest
    · exact hrest
    · exact hrest

theorem Occurrence.isKey_iff :
    Occurrence.isKey ⟨offset, front.getLast?, back⟩ = true ↔ InKeyPosition front back := by
  rw [isKey, Bool.or_eq_true, Bool.and_eq_true, Bool.or_eq_true, beq_iff_eq, beq_iff_eq, inHeader_iff, opensKey_iff,
    head?_behindKey (.inl rfl), head?_behindKey (.inr rfl)]
  constructor
  · rintro (⟨hfront, hback⟩ | ⟨hfront, ⟨quote, blanks, rest, hquote, hblanks, hback⟩ |
      ⟨quote, blanks, rest, hquote, hblanks, hback⟩⟩)
    · exact .header hfront hback
    · exact .entry hfront hquote hblanks (.inl rfl) hback
    · exact .entry hfront hquote hblanks (.inr rfl) hback
  · intro h
    cases h with
    | header hfront hback => exact .inl ⟨hfront, hback⟩
    | entry hfront hquote hblanks hmark hback =>
      refine .inr ⟨hfront, ?_⟩
      rcases hmark with rfl | rfl
      · exact .inl ⟨_, _, _, hquote, hblanks, hback⟩
      · exact .inr ⟨_, _, _, hquote, hblanks, hback⟩

variable {source name : String} {span : Span}

theorem upToByte?_append (a b : List Char) : upToByte? (byteLength a) (a ++ b) = some a := by
  rw [upToByte?, splitAtByte?_append, Option.map_some]

theorem fromByte?_append (a b : List Char) : fromByte? (byteLength a) (a ++ b) = some b := by
  rw [fromByte?, splitAtByte?_append, Option.map_some]

theorem standsAsKey_iff (hne : name ≠ "") : StandsAsKey source.toList name span ↔
    span.Covers source name ∧ ∃ front back, upToByte? span.start source.toList = some front ∧
      fromByte? span.stop source.toList = some back ∧ InKeyPosition front back := by
  have hcut (a b : List Char) (hsource : source.toList = a ++ (name.toList ++ b)) :
      upToByte? (byteLength a) source.toList = some a ∧
        fromByte? (byteLength a + byteLength name.toList) source.toList = some b := by
    refine ⟨by rw [hsource, upToByte?_append], ?_⟩
    rw [hsource, ← List.append_assoc, ← byteLength_append, fromByte?_append]
  constructor
  · rintro ⟨a, b, hsource, rfl, hkey⟩
    obtain ⟨hfront, hback⟩ := hcut a b hsource
    exact ⟨covers_of_append hsource, a, b, hfront, hback, Occurrence.isKey_iff.mp hkey⟩
  · rintro ⟨hcovers, front, back, hfront, hback, hkey⟩
    obtain ⟨a, b, hsource, rfl⟩ := hcovers.exists_append hne
    obtain ⟨ha, hb⟩ := hcut a b hsource
    cases ha.symm.trans hfront
    cases hb.symm.trans hback
    exact ⟨front, back, hsource, rfl, Occurrence.isKey_iff.mpr hkey⟩

/-- The search for a name made of identifier characters lists, from left to right, the spans that cover the name where
it is a key. Places that overlap are no exception. -/
theorem keys_found (source : String) (hne : name ≠ "") (hletters : ∀ c ∈ name.toList, inIdentifier c = true) :
    (keySpans source.toList name).Pairwise (fun s t => s.start < t.start) ∧
    ∀ span, span ∈ keySpans source.toList name ↔
      span.Covers source name ∧ ∃ front back, upToByte? span.start source.toList = some front ∧
        fromByte? span.stop source.toList = some back ∧ InKeyPosition front back := by
  refine ⟨keySpans_ascending, fun span => ?_⟩
  rw [mem_keySpans hne hletters, standsAsKey_iff hne]

def sceneText : String := "ééé.éé] \"éé\" = 1"

theorem scene_keys_found : "éé" ≠ "" ∧ (∀ c ∈ "éé".toList, inIdentifier c = true) ∧
    keySpans sceneText.toList "éé" = [⟨7, 11⟩, ⟨14, 18⟩] ∧
    Span.Covers ⟨7, 11⟩ sceneText "éé" ∧ Span.Covers ⟨14, 18⟩ sceneText "éé" := by
  have hne : "éé" ≠ "" := by decide
  have hletters : ∀ c ∈ "éé".toList, inIdentifier c = true := List.all_eq_true.mp (by decide +kernel)
  have hspans : keySpans sceneText.toList "éé" = [⟨7, 11⟩, ⟨14, 18⟩] := by decide +kernel
  have hfound := (keys_found sceneText hne hletters).2
  rw [hspans] at hfound
  exact ⟨hne, hletters, hspans, ((hfound _).mp (by simp)).1, ((hfound _).mp (by simp)).1⟩

end AngularScaffold.Manifest
