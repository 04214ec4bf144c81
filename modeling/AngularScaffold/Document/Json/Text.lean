import AngularScaffold.Document.Cursor

namespace AngularScaffold.Document.Json

def hexValue? (c : Char) : Option Nat :=
  if c.isDigit then some (c.toNat - '0'.toNat)
  else if 'a' ≤ c && c ≤ 'f' then some (c.toNat - 'a'.toNat + 10)
  else if 'A' ≤ c && c ≤ 'F' then some (c.toNat - 'A'.toNat + 10)
  else none

def hexValue4? (a b c d : Char) : Option Nat := do
  let a ← hexValue? a
  let b ← hexValue? b
  let c ← hexValue? c
  let d ← hexValue? d
  pure (((a * 16 + b) * 16 + c) * 16 + d)

def shortEscape? (c : Char) : Option Char :=
  if c = '"' then some '"'
  else if c = '\\' then some '\\'
  else if c = '/' then some '/'
  else if c = 'b' then some '\x08'
  else if c = 'f' then some '\x0c'
  else if c = 'n' then some '\n'
  else if c = 'r' then some '\r'
  else if c = 't' then some '\t'
  else none

def isLeading (n : Nat) : Bool := 0xD800 ≤ n && n < 0xDC00
def isTrailing (n : Nat) : Bool := 0xDC00 ≤ n && n < 0xE000

def joinHalves (leading trailing : Nat) : Char :=
  Char.ofNat ((leading - 0xD800) * 0x400 + (trailing - 0xDC00) + 0x10000)

def badHex (offset : Nat) (rest : List Char) : Fault × Nat :=
  let size := Text.byteLength rest
  if size < 4 then (.endOfString, offset + size) else (.badEscape, offset + 4)

def noTrailing (offset : Nat) : List Char → Fault × Nat
  | [] => (.endOfString, offset)
  | '\\' :: rest =>
    match rest with
    | [] => (.endOfString, offset + 1)
    | 'u' :: rest => badHex (offset + 2) rest
    | _ => (.hexEscapeEnd, offset + 2)
  | _ => (.hexEscapeEnd, offset + 1)

def prepend (c : Char) :
    Except (Fault × Nat) (List Char × Cursor) → Except (Fault × Nat) (List Char × Cursor)
  | .ok (text, k) => .ok (c :: text, k)
  | .error e => .error e

def readTextFrom (offset : Nat) : List Char → Except (Fault × Nat) (List Char × Cursor)
  | [] => .error (.endOfString, offset)
  | c :: cs =>
    if c = '"' then .ok ([], ⟨offset + 1, cs⟩)
    else if c = '\\' then
      match cs with
      | [] => .error (.endOfString, offset + 1)
      | e :: cs =>
        if e = 'u' then
          match cs with
          | h₁ :: h₂ :: h₃ :: h₄ :: cs' =>
            match hexValue4? h₁ h₂ h₃ h₄ with
            | none => .error (badHex (offset + 2) cs)
            | some n =>
              if isTrailing n then .error (.loneSurrogate, offset + 6)
              else if isLeading n then
                match cs' with
                | b :: u :: k₁ :: k₂ :: k₃ :: k₄ :: cs'' =>
                  if b = '\\' && u = 'u' then
                    match hexValue4? k₁ k₂ k₃ k₄ with
                    | none => .error (badHex (offset + 8) (k₁ :: k₂ :: k₃ :: k₄ :: cs''))
                    | some m =>
                      if isTrailing m then prepend (joinHalves n m) (readTextFrom (offset + 12) cs'')
                      else .error (.loneSurrogate, offset + 12)
                  else .error (noTrailing (offset + 6) cs')
                | _ => .error (noTrailing (offset + 6) cs')
              else prepend (Char.ofNat n) (readTextFrom (offset + 6) cs')
          | _ => .error (badHex (offset + 2) cs)
        else
          match shortEscape? e with
          | some d => prepend d (readTextFrom (offset + 2) cs)
          | none => .error (.badEscape, offset + 2)
    else if c.toNat < 0x20 then .error (.controlCharacter, offset + 1)
    else prepend c (readTextFrom (offset + c.utf8Size) cs)

end AngularScaffold.Document.Json
