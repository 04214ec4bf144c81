import AngularScaffold.Decimal.Binary

namespace AngularScaffold.Decimal

def digitValue (c : Char) : Nat :=
  if c.isDigit then c.toNat - '0'.toNat
  else if 'a' ≤ c && c ≤ 'z' then c.toNat - 'a'.toNat + 10
  else if 'A' ≤ c && c ≤ 'Z' then c.toNat - 'A'.toNat + 10
  else 0

def value (base : Nat) (digits : List Char) : Nat :=
  digits.foldl (fun n c => n * base + digitValue c) 0

def splitSign : List Char → Bool × List Char
  | '-' :: cs => (true, cs)
  | '+' :: cs => (false, cs)
  | cs => (false, cs)

structure Written where
  negative : Bool
  whole : List Char
  fraction : List Char
  exponent : Int

def splitFraction : List Char → List Char × List Char
  | '.' :: cs => (cs.takeWhile Char.isDigit, cs.dropWhile Char.isDigit)
  | cs => ([], cs)

def exponent? : List Char → Option Int
  | [] => some 0
  | c :: cs =>
    let (negative, digits) := splitSign cs
    if (c == 'e' || c == 'E') && !digits.isEmpty && digits.all Char.isDigit then
      some (if negative then -(value 10 digits : Int) else value 10 digits)
    else none

def written? (cs : List Char) : Option Written :=
  -- at least one digit must stand around the point
  let (negative, cs) := splitSign cs
  let whole := cs.takeWhile Char.isDigit
  let (fraction, rest) := splitFraction (cs.dropWhile Char.isDigit)
  if whole.isEmpty && fraction.isEmpty then none
  else (exponent? rest).map fun e => ⟨negative, whole, fraction, e⟩

def Written.nearest (w : Written) : Float :=
  ofDecimal w.negative (value 10 (w.whole ++ w.fraction)) (w.exponent - w.fraction.length)

def parse? (s : String) : Option Float :=
  match s with
  | "NaN" => some (Float.ofBits 0x7FF8000000000000)
  | "inf" => some (Float.ofBits 0x7FF0000000000000)
  | "-inf" => some (Float.ofBits 0xFFF0000000000000)
  | s => (written? s.toList).map Written.nearest

end AngularScaffold.Decimal
