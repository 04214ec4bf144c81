import AngularScaffold.Proofs.Expression.Scan
import AngularScaffold.Proofs.TypeScript.ReadBack

namespace AngularScaffold.Expression

open Naming TypeScript Unicode

/-- What stands in front of them cannot tell two texts apart: both start with a colon or neither does, and they have
the same free identifiers in every context. -/
structure Interchangeable (e e' : List Char) : Prop where
  colon : startsWithColon e = startsWithColon e'
  words : ∀ k : Context, identifiersFrom k e = identifiersFrom k e'

theorem Interchangeable.behind {e e' : List Char} (h : Interchangeable e e') {a : String} (ha : Closed a)
    (he : Apart a.toList e) (he' : Apart a.toList e') :
    identifiersFrom {} (a.toList ++ e) = identifiersFrom {} (a.toList ++ e') := by
  obtain ⟨words, k, hrun⟩ := exists_run ha {} (startsWithColon e)
  rw [hrun e he rfl, hrun e' he' h.colon.symm, h.words k]

theorem interchangeable_blanks {w : List Char} (hw : ∀ c ∈ w, isWhitespace c = true) (b : List Char) :
    Interchangeable (w ++ b) b := by
  induction w with
  | nil => exact ⟨rfl, fun _ => rfl⟩
  | cons c w ih =>
    obtain ⟨hc, hw⟩ := List.forall_mem_cons.mp hw
    have hmore := ih hw
    refine ⟨?_, fun k => ?_⟩
    · rw [← hmore.colon, startsWithColon, trimStart, List.cons_append, List.dropWhile_cons_of_pos hc]
      rfl
    · rw [List.cons_append, identifiersFrom_mark (isQuote_of_isWhitespace hc) (inIdentifier_of_isWhitespace hc),
        after_of_isWhitespace hc, hmore.words]

theorem apart_blanks {a w b : List Char} (hw : ∀ c ∈ w, isWhitespace c = true) (hab : Apart a b) :
    Apart a (w ++ b) := by
  cases w with
  | nil => exact hab
  | cons c w =>
    apply Apart.of_head
    intro d hd
    rw [← Option.some.inj hd]
    exact inIdentifier_of_isWhitespace (hw c List.mem_cons_self)

theorem interchangeable_literals (text other b : List Char) :
    Interchangeable (quoteChars text ++ b) (quoteChars other ++ b) := by
  refine ⟨?_, fun k => ?_⟩
  · rw [quoteChars_append, quoteChars_append]
    rfl
  · rw [identifiersFrom_literal, identifiersFrom_literal]

theorem apart_literal (a text b : List Char) : Apart a (quoteChars text ++ b) := by
  rw [quoteChars_append]
  apply Apart.of_head
  intro d hd
  rw [← Option.some.inj hd]
  decide

/-- Behind a text that ends outside its literals, white space can be put in or left out where it keeps no two words
apart, and a literal may have any text. -/
theorem fillers_ignored {a : String} (ha : Closed a) (b : String) :
    (∀ w : String, (∀ c ∈ w.toList, isWhitespace c = true) → Apart a.toList b.toList →
      identifiers (a ++ w ++ b) = identifiers (a ++ b)) ∧
    ∀ text : String, identifiers (a ++ quote text ++ b) = identifiers (a ++ "''" ++ b) := by
  constructor
  · intro w hw hab
    have hsame := (interchangeable_blanks hw b.toList).behind ha (apart_blanks hw hab) hab
    rw [identifiers, identifiers, String.toList_append, String.toList_append, String.toList_append, List.append_assoc]
    exact hsame
  · intro text
    have hsame := (interchangeable_literals text.toList [] b.toList).behind ha (apart_literal _ _ _)
      (apart_literal _ _ _)
    have hempty : "''".toList = quoteChars [] := rfl
    rw [identifiers, identifiers, String.toList_append, String.toList_append, String.toList_append,
      String.toList_append, toList_quote, hempty, List.append_assoc, List.append_assoc]
    exact hsame

theorem spread_out : Closed "f('(', ." ∧ (∀ c ∈ " \n".toList, isWhitespace c = true) ∧
    Apart "f('(', .".toList "..rest, it.x)".toList ∧
    identifiers ("f('(', ." ++ " \n" ++ "..rest, it.x)") = ["f", "rest", "it"] ∧
    identifiers ("f('(', ." ++ quote "it's \\" ++ "..rest, it.x)") = ["f", "rest", "it"] := by
  have hclosed : Closed "f('(', ." := by decide +kernel
  have hblank : ∀ c ∈ " \n".toList, isWhitespace c = true := List.all_eq_true.mp (by decide +kernel)
  have hapart : Apart "f('(', .".toList "..rest, it.x)".toList :=
    .of_head fun d hd => Option.some.inj hd ▸ (by decide)
  obtain ⟨hspace, hliteral⟩ := fillers_ignored hclosed "..rest, it.x)"
  refine ⟨hclosed, hblank, hapart, ?_, ?_⟩
  · rw [hspace _ hblank hapart]
    decide +kernel
  · rw [hliteral]
    decide +kernel

end AngularScaffold.Expression
