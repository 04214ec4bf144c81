import AngularScaffold.Decimal.Text
import AngularScaffold.Document.Toml.Text

namespace AngularScaffold.Document.Toml

inductive Meaning where
  | scalar (s : Scalar)
  | date (text : List Char)
  | unknown (fault : Fault)

def joined? (isDigit : Char → Bool) (behindDigit : Bool) : List Char → Option (List Char)
  -- underscores stand between digits only; `behindDigit` tells that a digit stands in front of the text
  | [] => some []
  | '_' :: c :: cs => if behindDigit && isDigit c then joined? isDigit true (c :: cs) else none
  | ['_'] => none
  | c :: cs => (joined? isDigit (isDigit c) cs).map (c :: ·)

def isHexDigit (c : Char) : Bool :=
  c.isDigit || ('a' ≤ c && c ≤ 'f') || ('A' ≤ c && c ≤ 'F')

def isOctalDigit (c : Char) : Bool := '0' ≤ c && c ≤ '7'

def isBinaryDigit (c : Char) : Bool := c == '0' || c == '1'

def base? (c : Char) : Option (Nat × (Char → Bool)) :=
  if c = 'x' then some (16, isHexDigit)
  else if c = 'o' then some (8, isOctalDigit)
  else if c = 'b' then some (2, isBinaryDigit)
  else none

def wholeMeaning (negative : Bool) (base : Nat) (isDigit : Char → Bool) (digits : List Char) : Meaning :=
  let n := Decimal.value base digits
  let i : Int := if negative then -(n : Int) else n
  if !digits.isEmpty && digits.all isDigit && -Int.pow 2 127 ≤ i && i < Int.pow 2 128 then .scalar (.int i)
  else .unknown .wideInteger

def based? (base : Nat) (isDigit : Char → Bool) (cs : List Char) : Option Meaning :=
  if cs.all fun c => isDigit c || c == '_' then
    (joined? isHexDigit false cs).map (wholeMeaning false base isDigit)
  else none

def whole? (negative : Bool) (cs : List Char) : Option Meaning :=
  -- behind an underscore any letters may follow, beginning with a digit of base sixteen, but they have no value
  if cs.head? == some '0' && cs.length != 1 then none
  else (joined? isHexDigit false cs).map (wholeMeaning negative 10 Char.isDigit)

def inDigits (c : Char) : Bool :=
  c.isDigit || c == '_'

def digits? (cs : List Char) : Option (List Char × List Char) :=
  let run := cs.takeWhile inDigits
  if run.any Char.isDigit then some (run.filter Char.isDigit, cs.dropWhile inDigits) else none

def fraction? (cs : List Char) : Option (List Char × List Char) :=
  match cs with
  | '.' :: cs => digits? cs
  | cs => some ([], cs)

def exponent? (cs : List Char) : Option Int :=
  match cs with
  | [] => some 0
  | c :: cs =>
    if c = 'e' || c = 'E' then
      let (negative, cs) := Decimal.splitSign cs
      match digits? cs with
      | some (ds, []) =>
        some (if negative then -(Decimal.value 10 ds : Int) else Decimal.value 10 ds)
      | _ => none
    else none

def float? (negative : Bool) (cs : List Char) : Option Meaning := do
  -- the number has to be finite
  let _ ← joined? Char.isDigit false cs
  let (whole, rest) ← digits? cs
  if cs.head? == some '0' && whole.length != 1 then none
  else
    let (fraction, rest) ← fraction? rest
    let exponent ← exponent? rest
    let x := Decimal.Written.nearest ⟨negative, whole, fraction, exponent⟩
    pure (if x.isInf then .unknown .wideFloat else .scalar (.float x))

def word? (cs : List Char) : Option Scalar :=
  match String.ofList cs with
  | "true" => some (.bool true)
  | "false" => some (.bool false)
  | "inf" => some (.float (1.0 / 0.0))
  | "+inf" => some (.float (1.0 / 0.0))
  | "-inf" => some (.float (-1.0 / 0.0))
  | "nan" => some (.float (0.0 / 0.0))
  | "+nan" => some (.float (0.0 / 0.0))
  | "-nan" => some (.float (0.0 / 0.0))
  | _ => none

def field? (n least greatest : Nat) (cs : List Char) : Option (Nat × List Char) :=
  let digits := cs.takeWhile Char.isDigit
  let x := Decimal.value 10 digits
  if digits.length = n && least ≤ x && x ≤ greatest then some (x, cs.dropWhile Char.isDigit) else none

def after? (c : Char) (cs : List Char) : Option (List Char) :=
  match cs with
  | d :: cs => if d = c then some cs else none
  | [] => none

def isLeap (year : Nat) : Bool :=
  year % 4 == 0 && (year % 100 != 0 || year % 400 == 0)

def daysIn (year month : Nat) : Nat :=
  if month = 2 then (if isLeap year then 29 else 28)
  else if month = 4 || month = 6 || month = 9 || month = 11 then 30
  else 31

def padded (n x : Nat) : List Char :=
  let digits := Nat.toDigits 10 x
  List.replicate (n - digits.length) '0' ++ digits

def date? (cs : List Char) : Option (List Char × List Char) := do
  let (year, cs) ← field? 4 0 9999 cs
  let cs ← after? '-' cs
  let (month, cs) ← field? 2 1 12 cs
  let cs ← after? '-' cs
  let (day, cs) ← field? 2 1 (daysIn year month) cs
  pure (padded 4 year ++ '-' :: padded 2 month ++ '-' :: padded 2 day, cs)

def shortFraction (digits : List Char) : List Char :=
  let kept := ((digits.take 9).reverse.dropWhile (· == '0')).reverse
  if kept.isEmpty then [] else '.' :: kept

def seconds? (cs : List Char) : Option (List Char × List Char) :=
  match cs with
  | ':' :: cs => do
    let (second, cs) ← field? 2 0 60 cs
    match cs with
    | '.' :: cs =>
      let digits := cs.takeWhile Char.isDigit
      if digits.isEmpty then none
      else pure (padded 2 second ++ shortFraction digits, cs.dropWhile Char.isDigit)
    | cs => pure (padded 2 second, cs)
  | cs => some (['0', '0'], cs)

def time? (cs : List Char) : Option (List Char × List Char) := do
  let (hour, cs) ← field? 2 0 23 cs
  let cs ← after? ':' cs
  let (minute, cs) ← field? 2 0 59 cs
  let (seconds, cs) ← seconds? cs
  pure (padded 2 hour ++ ':' :: padded 2 minute ++ ':' :: seconds, cs)

def offset? (cs : List Char) : Option (List Char) :=
  match cs with
  | [] => some []
  | ['Z'] => some ['Z']
  | ['z'] => some ['Z']
  | sign :: cs =>
    if sign = '+' || sign = '-' then do
      let (hour, cs) ← field? 2 0 23 cs
      let cs ← after? ':' cs
      let (minute, cs) ← field? 2 0 59 cs
      if cs.isEmpty then
        let sign := if hour = 0 && minute = 0 then '+' else sign
        pure (sign :: padded 2 hour ++ ':' :: padded 2 minute)
      else none
    else none

def dateTime? (cs : List Char) : Option (List Char) :=
  match date? cs with
  | some (date, []) => some date
  | some (date, sep :: cs) =>
    if sep = 'T' || sep = 't' || sep = ' ' then do
      let (time, cs) ← time? cs
      let offset ← offset? cs
      pure (date ++ 'T' :: time ++ offset)
    else none
  | none =>
    match time? cs with
    | some (time, []) => some time
    | _ => none

def inScalar (c : Char) : Bool :=
  !(c == '=' || c == ',' || c == '[' || c == ']' || c == '{' || c == '}' || isSpace c || c == '#' ||
    c == '\r' || c == '\n')

def scalarRun (k : Cursor) : List Char × Cursor :=
  -- a time may follow a date behind one space
  let (run, k) := k.takeWhile inScalar
  match k.rest with
  | ' ' :: c :: cs =>
    if c.isDigit && (date? run).any (fun p => p.2.isEmpty) then
      let (more, k) := Cursor.takeWhile inScalar ⟨k.offset + 1, c :: cs⟩
      (run ++ ' ' :: more, k)
    else (run, k)
  | _ => (run, k)

def numberOrDate? (signed negative : Bool) (cs : List Char) : Option Meaning :=
  -- what follows the first digits tells a number from a date
  let rest := cs.dropWhile Char.isDigit
  match rest with
  | [] => if cs.isEmpty then none else whole? negative cs
  | c :: _ =>
    if c = '-' || c = ':' then (if signed then none else (dateTime? cs).map .date)
    else if rest.any fun c => c == '.' || c == 'e' || c == 'E' then float? negative cs
    else if c = '_' then whole? negative cs
    else none

def meaning? (cs : List Char) : Option Meaning :=
  match word? cs with
  | some s => some (.scalar s)
  | none =>
    match cs with
    | '0' :: c :: digits =>
      match base? c with
      | some base => based? base.1 base.2 digits
      | none => numberOrDate? false false cs
    | '+' :: cs => numberOrDate? true false cs
    | '-' :: cs => numberOrDate? true true cs
    | cs => numberOrDate? false false cs

end AngularScaffold.Document.Toml
