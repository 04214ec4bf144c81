import AngularScaffold.Decimal.Text
import AngularScaffold.Document.Cursor

namespace AngularScaffold.Document.Json

open Decimal (digitValue)

def significandLimit : Nat := Nat.pow 2 64 - 1

def exponentLimit : Nat := Nat.pow 2 31 - 1

structure Significand where
  value : Nat
  taken : Nat := 0
  dropped : Nat := 0

def Significand.append (s : Significand) : List Char → Significand
  -- digits beyond the limit are only counted
  | [] => s
  | d :: ds =>
    let next := s.value * 10 + digitValue d
    if significandLimit < next then ⟨s.value, s.taken, s.dropped + (ds.length + 1)⟩
    else Significand.append ⟨next, s.taken + 1, s.dropped⟩ ds

def powerOfTen (n : Nat) : Float :=
  Decimal.ofRatio false (Nat.pow 10 n) 1

def scale? (f : Float) (exponent : Int) : Option Float :=
  -- there is no answer if the result is too large for a double
  if exponent < -308 then
    if f == 0 then some f else scale? (f / powerOfTen 308) (exponent + 308)
  else if exponent < 0 then some (f / powerOfTen exponent.natAbs)
  else if exponent ≤ 308 then
    let g := f * powerOfTen exponent.natAbs
    if g.isInf then none else some g
  else if f == 0 then some f
  else none
termination_by exponent.natAbs
decreasing_by omega

def assemble? (negative : Bool) (significand : Nat) (exponent : Int) : Option Float :=
  (scale? (Decimal.ofRatio false significand 1) exponent).map fun f => if negative then -f else f

def wholeNumber (negative : Bool) (significand : Nat) : Scalar :=
  -- only minus zero and numbers below the 64-bit range are doubles
  if !negative then .int significand
  else if significand = 0 || Nat.pow 2 63 < significand then
    .float (-(Decimal.ofRatio false significand 1))
  else .int (-significand)

def exponentOverflow? (acc count : Nat) : List Char → Option Nat
  -- the number of digits up to the one that takes the exponent over the limit
  | [] => none
  | d :: ds =>
    let next := acc * 10 + digitValue d
    if exponentLimit < next then some (count + 1) else exponentOverflow? next (count + 1) ds

def stopAt (fault : Fault) (offset : Nat) : Node × Option Cursor :=
  (.broken fault (.point offset), none)

def finishFloat (start : Nat) (negative : Bool) (significand : Nat) (exponent : Int) (k : Cursor) :
    Node × Option Cursor :=
  match assemble? negative significand exponent with
  | some x => (.scalar (.float x) ⟨start, k.offset⟩, some k)
  | none => stopAt .numberRange k.offset

def readExponent (start : Nat) (negative : Bool) (significand : Nat) (exponent : Int) (k : Cursor) :
    Node × Option Cursor :=
  let (down, k) : Bool × Cursor := match k.rest with
    | '+' :: cs => (false, ⟨k.offset + 1, cs⟩)
    | '-' :: cs => (true, ⟨k.offset + 1, cs⟩)
    | _ => (false, k)
  let (digits, after) := k.takeWhile Char.isDigit
  if digits.isEmpty then stopAt (if k.rest.isEmpty then .endOfValue else .badNumber) k.peeked
  else match exponentOverflow? 0 0 digits with
    | none =>
      let e : Int := Decimal.value 10 digits
      finishFloat start negative significand (if down then exponent - e else exponent + e) after
    | some count =>
      if significand != 0 && !down then stopAt .numberRange (k.offset + count)
      else (.scalar (.float (if negative then -0.0 else 0.0)) ⟨start, after.offset⟩, some after)

def isExponentMark (c : Char) : Bool :=
  c == 'e' || c == 'E'

def readAfterWhole (start : Nat) (negative : Bool) (s : Significand) (k : Cursor) : Node × Option Cursor :=
  match k.rest with
  | '.' :: cs =>
    let (digits, after) := Cursor.takeWhile Char.isDigit ⟨k.offset + 1, cs⟩
    if digits.isEmpty then
      stopAt (if after.rest.isEmpty then .endOfValue else .badNumber) after.peeked
    else
      let t := Significand.append ⟨s.value, 0, 0⟩ digits
      let exponent : Int := s.dropped - t.taken
      match after.rest with
      | c :: cs =>
        if isExponentMark c then readExponent start negative t.value exponent ⟨after.offset + 1, cs⟩
        else finishFloat start negative t.value exponent after
      | [] => finishFloat start negative t.value exponent after
  | c :: cs =>
    if isExponentMark c then readExponent start negative s.value s.dropped ⟨k.offset + 1, cs⟩
    else if s.dropped = 0 then (.scalar (wholeNumber negative s.value) ⟨start, k.offset⟩, some k)
    else finishFloat start negative s.value s.dropped k
  | [] =>
    if s.dropped = 0 then (.scalar (wholeNumber negative s.value) ⟨start, k.offset⟩, some k)
    else finishFloat start negative s.value s.dropped k

def readUnsigned (start : Nat) (negative : Bool) (k : Cursor) : Node × Option Cursor :=
  match k.rest with
  | [] => stopAt .endOfValue k.offset
  | '0' :: cs =>
    if cs.head?.any Char.isDigit then stopAt .badNumber (k.offset + 2)
    else readAfterWhole start negative ⟨0, 1, 0⟩ ⟨k.offset + 1, cs⟩
  | c :: _ =>
    if c.isDigit then
      let (digits, after) := k.takeWhile Char.isDigit
      readAfterWhole start negative (Significand.append ⟨0, 0, 0⟩ digits) after
    else stopAt .badNumber (k.offset + 1)

def readNumber (k : Cursor) : Node × Option Cursor :=
  match k.rest with
  | '-' :: cs => readUnsigned k.offset true ⟨k.offset + 1, cs⟩
  | _ => readUnsigned k.offset false k

end AngularScaffold.Document.Json
