import AngularScaffold.Decimal.Layout
import AngularScaffold.Document.Node
import AngularScaffold.Document.Position
import AngularScaffold.Text.Quoted

namespace AngularScaffold.Document

inductive Found where
  | null
  | bool (b : Bool)
  | int (i : Int)
  | float (x : Float)
  | text (s : String)
  | list
  | table

def Node.found : Node → Found
  | scalar .null _ => .null
  | scalar (.bool b) _ => .bool b
  | scalar (.int i) _ => .int i
  | scalar (.float x) _ => .float x
  | scalar (.text s) _ => .text s
  | list _ _ => .list
  | table _ _ => .table
  | broken _ _ => .null

inductive Problem where
  | fault (fault : Fault) (span : Span)
  | unexpected (found : Found) (expected : String) (node : Node)
  | tooShort (length : Nat) (expected : String) (list : Span)
  | unknownField (name : String) (known : List String) (key : Span)
  | duplicateField (name : String) (key table : Span)
  | missingField (name : String) (table : Span)
  | leftover (inList : Bool) (after : Nat)

namespace Problem

def showFloat (f : Format) (x : Float) : String :=
  match f with
  | .json => Decimal.json.write x
  | .toml =>
    let text := Decimal.plain.write x
    if x.isFinite && !text.toList.contains '.' then text ++ ".0" else text

def showInt (i : Int) : String :=
  let width :=
    if -Int.pow 2 63 ≤ i && i < Int.pow 2 64 then ""
    else if -Int.pow 2 127 ≤ i && i < Int.pow 2 127 then " as i128"
    else " as u128"
  "integer \x60" ++ toString i ++ "\x60" ++ width

def showFound (f : Format) : Found → String
  | .null => "null"
  | .bool b => "boolean \x60" ++ (if b then "true" else "false") ++ "\x60"
  | .int i => showInt i
  | .float x => "floating point \x60" ++ showFloat f x ++ "\x60"
  | .text s => "string " ++ Text.quoted s
  | .list => "sequence"
  | .table => "map"

def tick (s : String) : String :=
  "\x60" ++ s ++ "\x60"

def showKnown : List String → String
  | [] => "there are no fields"
  | [a] => "expected " ++ tick a
  | [a, b] => "expected " ++ tick a ++ " or " ++ tick b
  | names => "expected one of " ++ ", ".intercalate (names.map tick)

def isBlankByte (b : UInt8) : Bool := b == 32 || b == 10 || b == 9 || b == 13
def comma : UInt8 := 44
def closingBracket : UInt8 := 93
def closingBrace : UInt8 := 125

def skipBlankBytes (source : List UInt8) (offset : Nat) : Nat × List UInt8 :=
  let rest := source.drop offset
  let blank := rest.takeWhile isBlankByte
  (offset + blank.length, rest.drop blank.length)

def leftoverFault (source : List UInt8) (inList : Bool) (after : Nat) : Fault × Nat :=
  match skipBlankBytes source after with
  | (offset, []) => (if inList then .endOfList else .endOfObject, offset)
  | (offset, b :: _) =>
    if b != comma then (.trailingCharacters, offset + 1)
    else if !inList then (.trailingComma, offset + 1)
    else match skipBlankBytes source (offset + 1) with
      | (offset, []) => (.trailingCharacters, offset)
      | (offset, c :: _) =>
        (if c == closingBracket then .trailingComma else .trailingCharacters, offset + 1)

def afterKey (source : List UInt8) (key : Span) : Nat :=
  -- a refused key has been read with the white space behind it and a brace that closes the object
  match skipBlankBytes source key.stop with
  | (offset, b :: _) => if b == closingBrace then offset + 1 else offset
  | (offset, []) => offset

def message (f : Format) (source : List UInt8) : Problem → String
  | fault c _ => c.message
  | unexpected found expected _ => "invalid type: " ++ showFound f found ++ ", expected " ++ expected
  | tooShort n expected _ => "invalid length " ++ toString n ++ ", expected " ++ expected
  | unknownField name known _ => "unknown field " ++ tick name ++ ", " ++ showKnown known
  | duplicateField name _ _ => "duplicate field " ++ tick name
  | missingField name _ => "missing field " ++ tick name
  | leftover inList after => (leftoverFault source inList after).1.message

def offset (source : List UInt8) : Problem → Nat
  | fault _ span => span.stop
  | unexpected _ _ node => if node.isContainer then node.span.start else node.span.stop
  | tooShort _ _ list => list.stop
  | unknownField _ _ key => afterKey source key
  | duplicateField _ key _ => afterKey source key
  | missingField _ table => table.stop
  | leftover inList after => (leftoverFault source inList after).2

def label : Problem → Span
  | fault _ span => span
  | unexpected _ _ node => node.span
  | tooShort _ _ list => list
  | unknownField _ _ key => key
  | duplicateField _ _ table => table
  | missingField _ table => table
  | leftover _ after => .point after

end Problem

structure Refusal where
  format : Format
  cause : Option String
  label : Option Span

def Refusal.unread (f : Format) : Refusal := ⟨f, none, none⟩

def Problem.refusal (f : Format) (text : String) (p : Problem) : Refusal :=
  let source := Text.bytes text
  match f with
  | .toml => ⟨.toml, some (p.message .toml source), some p.label⟩
  | .json =>
    let (line, column) := lineAndColumn source (p.offset source)
    ⟨.json,
      some (p.message .json source ++ " at line " ++ toString line ++ " column " ++ toString column),
      (offsetOf? source line column).map .point⟩

end AngularScaffold.Document
