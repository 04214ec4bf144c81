import AngularScaffold.Decimal.Shortest

namespace AngularScaffold.Decimal

structure Layout where
  positional : Int → Bool
  keepsPoint : Bool
  tie : Tie
  nan : String
  infinity : String
  negativeInfinity : String

def pointed (keepsPoint : Bool) (d : Digits) : List Char :=
  let digits := Nat.toDigits 10 d.coefficient
  if 0 ≤ d.exponent then
    digits ++ List.replicate d.exponent.toNat '0' ++ (if keepsPoint then ['.', '0'] else [])
  else
    let places := (-d.exponent).toNat
    if places < digits.length then
      digits.take (digits.length - places) ++ '.' :: digits.drop (digits.length - places)
    else '0' :: '.' :: List.replicate (places - digits.length) '0' ++ digits

def scientific (d : Digits) : List Char :=
  let digits := Nat.toDigits 10 d.coefficient
  let power := d.exponent + digits.length - 1
  let mantissa := match digits with
    | c :: [] => [c]
    | c :: cs => c :: '.' :: cs
    | [] => []
  mantissa ++ 'e' :: (if power < 0 then '-' else '+') :: Nat.toDigits 10 power.natAbs

def Layout.arrange (l : Layout) (d : Digits) : List Char :=
  if l.positional (d.exponent + width d.coefficient - 1) then pointed l.keepsPoint d else scientific d

def Layout.write (l : Layout) (x : Float) : String :=
  match read x with
  | .nan => l.nan
  | .infinite negative => if negative then l.negativeInfinity else l.infinity
  | .finite negative m =>
    String.ofList ((if negative then ['-'] else []) ++ l.arrange (m.shortest l.tie))

def plain : Layout where
  -- never an exponent, and no point in a whole number
  positional _ := true
  keepsPoint := false
  tie := .up
  nan := "NaN"
  infinity := "inf"
  negativeInfinity := "-inf"

def json : Layout where
  -- a point or an exponent tells that the number may have a fraction
  positional e := -5 ≤ e && e ≤ 15
  keepsPoint := true
  tie := .even
  nan := "null"
  infinity := "null"
  negativeInfinity := "null"

end AngularScaffold.Decimal
