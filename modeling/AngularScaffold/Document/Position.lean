import AngularScaffold.Text.Bytes

namespace AngularScaffold.Document

def newline : UInt8 := 10

def lineAndColumn (source : List UInt8) (offset : Nat) : Nat × Nat :=
  (source.take offset).foldl
    (fun at_ b => if b = newline then (at_.1 + 1, 0) else (at_.1, at_.2 + 1)) (1, 0)

def lineStart : Nat → List UInt8 → Nat
  | 0, _ => 0
  | _ + 1, [] => 0
  | count + 1, b :: bs => 1 + (if b = newline then lineStart count bs else lineStart (count + 1) bs)

def offsetOf? (source : List UInt8) (line column : Nat) : Option Nat :=
  if line = 0 then none
  else
    let offset := lineStart (line - 1) source + (column - 1)
    if offset ≤ source.length then some offset else none

theorem offsetOf?_le {source : List UInt8} {line column offset : Nat}
    (h : offsetOf? source line column = some offset) : offset ≤ source.length := by
  simp only [offsetOf?] at h
  split at h
  · simp at h
  · split at h
    · rename_i hle
      exact (Option.some.inj h) ▸ hle
    · simp at h

end AngularScaffold.Document
