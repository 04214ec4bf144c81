import AngularScaffold.Document.Node
import AngularScaffold.Text.Bytes

namespace AngularScaffold.Document

structure Cursor where
  offset : Nat
  rest : List Char

namespace Cursor

def start (s : String) : Cursor := ⟨0, s.toList⟩

def peeked (c : Cursor) : Nat :=
  if c.rest.isEmpty then c.offset else c.offset + 1

def takeWhile (p : Char → Bool) : Cursor → List Char × Cursor
  | ⟨offset, rest⟩ => go offset rest
where
  go (offset : Nat) : List Char → List Char × Cursor
    | [] => ([], ⟨offset, []⟩)
    | c :: cs =>
      if p c then
        let (run, k) := go (offset + c.utf8Size) cs
        (c :: run, k)
      else ([], ⟨offset, c :: cs⟩)

def skipWhile (p : Char → Bool) (c : Cursor) : Cursor :=
  (c.takeWhile p).2

theorem takeWhile_go_fst (p : Char → Bool) (offset : Nat) (cs : List Char) :
    (takeWhile.go p offset cs).1 = cs.takeWhile p := by
  induction cs generalizing offset with
  | nil => rfl
  | cons c cs ih =>
    rw [takeWhile.go, List.takeWhile_cons]
    split
    · simp [ih]
    · rfl

theorem takeWhile_go_rest (p : Char → Bool) (offset : Nat) (cs : List Char) :
    (takeWhile.go p offset cs).2.rest = cs.dropWhile p := by
  induction cs generalizing offset with
  | nil => rfl
  | cons c cs ih =>
    rw [takeWhile.go, List.dropWhile_cons]
    split
    · simp [ih]
    · rfl

def expect? : List Char → Cursor → Option Cursor
  | [], k => some k
  | c :: cs, ⟨offset, d :: ds⟩ => if c = d then expect? cs ⟨offset + 1, ds⟩ else none
  | _ :: _, ⟨_, []⟩ => none

end Cursor

end AngularScaffold.Document
