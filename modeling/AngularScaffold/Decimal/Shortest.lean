import AngularScaffold.Decimal.Binary

/-!
The shortest decimal that reads back as a given double: of the fewest digits that do, the decimal
nearest to the double.
-/

namespace AngularScaffold.Decimal

structure Digits where
  coefficient : Nat
  exponent : Int
  deriving DecidableEq

inductive Tie where
  | up
  | even
  deriving DecidableEq

def leadingPlace (num den : Nat) : Int :=
  if den ≤ num then width (num / den)
  else 1 - (width ((den + num - 1) / num - 1) : Int)

def Digits.trimmed : Nat → Digits → Digits
  | 0, d => d
  | bound + 1, d =>
    if d.coefficient % 10 = 0 && d.coefficient ≠ 0 then
      Digits.trimmed bound ⟨d.coefficient / 10, d.exponent + 1⟩
    else d

namespace Magnitude

def lowerEnd (x : Magnitude) : Nat :=
  4 * x.mantissa - (if x.narrow then 1 else 2)

def upperEnd (x : Magnitude) : Nat :=
  4 * x.mantissa + 2

def quarterOver (x : Magnitude) (e : Int) : Nat × Nat :=
  let q := x.exponent - 2
  (Nat.pow 2 q.toNat * Nat.pow 10 (-e).toNat, Nat.pow 2 (-q).toNat * Nat.pow 10 e.toNat)

/-- Whether `c * 10 ^ e` rounds to `x`, where `quarter` is a quarter of the last place over `10 ^ e`. -/
def catches (x : Magnitude) (quarter : Nat × Nat) (c : Nat) : Bool :=
  let low := x.lowerEnd * quarter.1
  let high := x.upperEnd * quarter.1
  let here := c * quarter.2
  if x.mantissa % 2 = 0 then low ≤ here && here ≤ high else low < here && here < high

def onGrid? (x : Magnitude) (tie : Tie) (e : Int) : Option Nat :=
  -- the multiple of `10 ^ e` that rounds to `x` and is nearest to it
  let quarter := x.quarterOver e
  let exact := 4 * x.mantissa * quarter.1
  let c := exact / quarter.2
  match x.catches quarter c, x.catches quarter (c + 1) with
  | false, false => none
  | true, false => some c
  | false, true => some (c + 1)
  | true, true =>
    let below := exact - c * quarter.2
    let above := (c + 1) * quarter.2 - exact
    if below < above then some c
    else if above < below then some (c + 1)
    else match tie with
      | .up => some (c + 1)
      | .even => if c % 2 = 0 then some c else some (c + 1)

def search (x : Magnitude) (tie : Tie) : Nat → Int → Digits
  -- grids of growing fineness, beginning with `10 ^ e`
  | 0, e => ⟨4 * x.mantissa * (x.quarterOver e).1 / (x.quarterOver e).2, e⟩
  | fuel + 1, e =>
    match x.onGrid? tie e with
    | some c => ⟨c, e⟩
    | none => search x tie fuel (e - 1)

def shortest (x : Magnitude) (tie : Tie) : Digits :=
  if x.mantissa = 0 then ⟨0, 0⟩
  else
    let (num, den) := descale x.mantissa 1 (-x.exponent)
    (x.search tie 17 (leadingPlace num den - 1)).trimmed 20

end Magnitude

end AngularScaffold.Decimal
