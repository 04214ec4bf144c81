import AngularScaffold.Document.Problem
import Mathlib.Data.List.DropRight

namespace AngularScaffold.Document

open Text

def lineOf (source : List UInt8) (place : Nat) : Nat :=
  1 + (source.take place).count newline

def columnOf (source : List UInt8) (place : Nat) : Nat :=
  1 + ((source.take place).rtakeWhile (· ≠ newline)).length

variable {source : List UInt8}

theorem lineStart_zero (source : List UInt8) : lineStart 0 source = 0 := by
  cases source <;> rfl

theorem lineStart_ended (body rest : List UInt8) :
    lineStart (body.count newline + 1) (body ++ newline :: rest) = body.length + 1 := by
  induction body with
  | nil => simp [lineStart, lineStart_zero]
  | cons b body ih =>
    -- the line of the last newline is still to come, whether or not one ends here
    by_cases hb : b = newline
    · rw [hb, List.count_cons_self, List.cons_append, lineStart, if_pos rfl, ih, List.length_cons]
      omega
    · rw [List.count_cons_of_ne hb, List.cons_append, lineStart, if_neg hb, ih, List.length_cons]
      omega

theorem lineStart_front (front back : List UInt8) :
    lineStart (front.count newline) (front ++ back) + (front.rtakeWhile (· ≠ newline)).length = front.length := by
  -- in front of a place are the lines that have ended there and a part of one line more
  have hsplit := List.rdropWhile_append_rtakeWhile (p := (· ≠ newline)) (l := front)
  have htail : (front.rtakeWhile (· ≠ newline)).count newline = 0 := by
    refine List.count_eq_zero.mpr fun hmem => ?_
    simpa using List.mem_rtakeWhile_imp hmem
  have hcount := congrArg (List.count newline) hsplit
  have hlength := congrArg List.length hsplit
  rw [List.count_append, htail, Nat.add_zero] at hcount
  rw [List.length_append] at hlength
  rw [← hcount, ← hlength]
  congr 1
  by_cases hne : front.rdropWhile (· ≠ newline) = []
  · rw [hne, List.count_nil, lineStart_zero, List.length_nil]
  · have hlast := List.rdropWhile_last_not (· ≠ newline) front hne
    have hlines := List.dropLast_append_getLast hne
    rw [show (front.rdropWhile (· ≠ newline)).getLast hne = newline by simpa using hlast] at hlines
    nth_rewrite 2 [← hsplit]
    rw [← hlines, List.count_append, List.count_singleton_self, List.append_assoc, List.append_assoc,
      List.singleton_append, lineStart_ended, List.length_append, List.length_singleton]

theorem lineStart_place {place : Nat} (h : place ≤ source.length) :
    lineStart (lineOf source place - 1) source + (columnOf source place - 1) = place := by
  have hfront := lineStart_front (source.take place) (source.drop place)
  rw [List.take_append_drop, List.length_take, Nat.min_eq_left h] at hfront
  rwa [lineOf, columnOf, Nat.add_sub_cancel_left, Nat.add_sub_cancel_left]

theorem offsetOf?_eq_some {line column place : Nat} (hline : 0 < line)
    (h : lineStart (line - 1) source + (column - 1) = place) (hle : place ≤ source.length) :
    offsetOf? source line column = some place := by
  rw [offsetOf?, if_neg (Nat.ne_of_gt hline), h, if_pos hle]

theorem lineOf_pos (source : List UInt8) (place : Nat) : 0 < lineOf source place :=
  Nat.lt_add_right _ Nat.one_pos

theorem columnOf_pos (source : List UInt8) (place : Nat) : 0 < columnOf source place :=
  Nat.lt_add_right _ Nat.one_pos

/-- A place of a text is found again from its line and its column, and no line and column lead out of the text. -/
theorem places_found (source : List UInt8) :
    (∀ place ≤ source.length, offsetOf? source (lineOf source place) (columnOf source place) = some place) ∧
    ∀ line column place, offsetOf? source line column = some place → place ≤ source.length := by
  refine ⟨?_, fun line column place => offsetOf?_le⟩
  intro place h
  exact offsetOf?_eq_some (lineOf_pos source place) (lineStart_place h) h

def verseText : String := "ä\n\n[é"

theorem verse_places_found :
    (3 ≤ (bytes verseText).length ∧ offsetOf? (bytes verseText) 2 1 = some 3) ∧
    7 ≤ (bytes verseText).length ∧ offsetOf? (bytes verseText) 3 4 = some 7 := by
  have hlength : (bytes verseText).length = 7 := by decide +kernel
  have hempty := (places_found (bytes verseText)).1 3 (by omega)
  have hend := (places_found (bytes verseText)).1 7 (by omega)
  have hlines : lineOf (bytes verseText) 3 = 2 ∧ columnOf (bytes verseText) 3 = 1 ∧
      lineOf (bytes verseText) 7 = 3 ∧ columnOf (bytes verseText) 7 = 4 := by decide +kernel
  obtain ⟨hline₃, hcolumn₃, hline₇, hcolumn₇⟩ := hlines
  rw [hline₃, hcolumn₃] at hempty
  rw [hline₇, hcolumn₇] at hend
  exact ⟨⟨by omega, hempty⟩, by omega, hend⟩

theorem lineAndColumn_eq (source : List UInt8) (place : Nat) :
    lineAndColumn source place = (lineOf source place, columnOf source place - 1) := by
  rw [lineAndColumn, lineOf, columnOf, Nat.add_sub_cancel_left]
  induction source.take place using List.reverseRecOn with
  | nil => rfl
  | append_singleton front b ih =>
    rw [List.foldl_append, ih, List.foldl_cons, List.foldl_nil, List.rtakeWhile_concat, List.count_append]
    by_cases hb : b = newline
    · simp [hb, Nat.add_assoc]
    · simp [hb]

def Problem.place (p : Problem) (text : String) : Nat :=
  min (p.offset (bytes text)) (bytes text).length

theorem offsetOf?_lineAndColumn {place : Nat} (h : place ≤ source.length) :
    offsetOf? source (lineAndColumn source place).1 (lineAndColumn source place).2 =
      some (if columnOf source place = 1 then place else place - 1) := by
  have hplace := lineStart_place h
  have hcolumn := columnOf_pos source place
  rw [lineAndColumn_eq]
  apply offsetOf?_eq_some (lineOf_pos source place)
  · dsimp only
    split <;> omega
  · split <;> omega

theorem Problem.label_refusal (p : Problem) (text : String) : (p.refusal .json text).label =
    some (.point (if columnOf (bytes text) (p.place text) = 1 then p.place text else p.place text - 1)) := by
  have hread : lineAndColumn (bytes text) (p.offset (bytes text)) = lineAndColumn (bytes text) (p.place text) := by
    rw [lineAndColumn, List.take_eq_take_min, lineAndColumn, place]
  have hle : p.place text ≤ (bytes text).length := Nat.min_le_right _ _
  have hplace := offsetOf?_lineAndColumn hle
  simp only [refusal, hread, hplace, Option.map_some]

end AngularScaffold.Document
