namespace AngularScaffold.Decimal

/-- The number `mantissa * 2 ^ exponent`. The gap below it is half the gap above it when `narrow`. -/
structure Magnitude where
  mantissa : Nat
  exponent : Int
  narrow : Bool := false

inductive Reading where
  | nan
  | infinite (negative : Bool)
  | finite (negative : Bool) (magnitude : Magnitude)

def read (x : Float) : Reading :=
  let bits := x.toBits.toNat
  let negative : Bool := Nat.pow 2 63 ≤ bits
  let biased : Nat := bits / Nat.pow 2 52 % Nat.pow 2 11
  let fraction : Nat := bits % Nat.pow 2 52
  if biased = 2047 then
    if fraction = 0 then .infinite negative else .nan
  else if biased = 0 then .finite negative ⟨fraction, -1074, false⟩
  else .finite negative ⟨fraction + Nat.pow 2 52, (biased : Int) - 1075, fraction == 0 && biased != 1⟩

def roundHalfEven (num den : Nat) : Nat :=
  -- a half goes to the even neighbour
  let q := num / den
  let r := num % den
  if den < 2 * r || (2 * r == den && q % 2 == 1) then q + 1 else q

def descale (num den : Nat) (e : Int) : Nat × Nat :=
  (num * Nat.pow 2 (-e).toNat, den * Nat.pow 2 e.toNat)

def lastPlace (num den : Nat) : Int :=
  let guess : Int := (Nat.log2 num : Int) - Nat.log2 den - 52
  let (n, d) := descale num den guess
  max (if n / d < Nat.pow 2 52 then guess - 1 else guess) (-1074)

def ofRatio (negative : Bool) (num den : Nat) : Float :=
  let sign := if negative then Nat.pow 2 63 else 0
  if num = 0 then Float.ofBits (UInt64.ofNat sign)
  else
    let e := lastPlace num den
    let (n, d) := descale num den e
    let m := roundHalfEven n d
    let bits := if m < Nat.pow 2 52 then m else (e + 1075).toNat * Nat.pow 2 52 + (m - Nat.pow 2 52)
    Float.ofBits (UInt64.ofNat (sign + min bits (2047 * Nat.pow 2 52)))

def width (n : Nat) : Nat :=
  (Nat.toDigits 10 n).length

def ofDecimal (negative : Bool) (coefficient : Nat) (exponent : Int) : Float :=
  -- far outside the range of doubles the number of digits tells the answer
  let places := (width coefficient : Int) + exponent
  if coefficient = 0 || places < -330 then ofRatio negative 0 1
  else if 320 < places then ofRatio negative (Nat.pow 2 1024) 1
  else ofRatio negative (coefficient * Nat.pow 10 exponent.toNat) (Nat.pow 10 (-exponent).toNat)

end AngularScaffold.Decimal
