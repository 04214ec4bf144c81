namespace AngularScaffold.Document

structure Span where
  start : Nat
  stop : Nat
  deriving DecidableEq

def Span.point (offset : Nat) : Span := ⟨offset, offset⟩

inductive Fault where
  | endOfList
  | endOfObject
  | endOfString
  | endOfValue
  | expectedColon
  | expectedListEnd
  | expectedObjectEnd
  | expectedIdent
  | expectedValue
  | badEscape
  | badNumber
  | numberRange
  | badCodePoint
  | controlCharacter
  | keyNotText
  | loneSurrogate
  | trailingComma
  | trailingCharacters
  | hexEscapeEnd
  | tooDeep
  | wideInteger
  | wideFloat
  deriving DecidableEq

def Fault.message : Fault → String
  | endOfList => "EOF while parsing a list"
  | endOfObject => "EOF while parsing an object"
  | endOfString => "EOF while parsing a string"
  | endOfValue => "EOF while parsing a value"
  | expectedColon => "expected \x60:\x60"
  | expectedListEnd => "expected \x60,\x60 or \x60]\x60"
  | expectedObjectEnd => "expected \x60,\x60 or \x60\x7d\x60"
  | expectedIdent => "expected ident"
  | expectedValue => "expected value"
  | badEscape => "invalid escape"
  | badNumber => "invalid number"
  | numberRange => "number out of range"
  | badCodePoint => "invalid unicode code point"
  | controlCharacter => "control character (\\u0000-\\u001F) found while parsing a string"
  | keyNotText => "key must be a string"
  | loneSurrogate => "lone leading surrogate in hex escape"
  | trailingComma => "trailing comma"
  | trailingCharacters => "trailing characters"
  | hexEscapeEnd => "unexpected end of hex escape"
  | tooDeep => "recursion limit exceeded"
  | wideInteger => "integer number overflowed"
  | wideFloat => "floating-point number overflowed"

inductive Scalar where
  | null
  | bool (b : Bool)
  | int (i : Int)
  | float (x : Float)
  | text (s : String)

mutual

inductive Node where
  | scalar (value : Scalar) (span : Span)
  | list (items : Items) (span : Span)
  | table (entries : Entries) (span : Span)
  | broken (fault : Fault) (span : Span)

inductive Items where
  | nil
  | cons (head : Node) (tail : Items)
  | broken (fault : Fault) (span : Span)

inductive Entries where
  | nil
  | cons (key : String) (keySpan : Span) (value : Node) (tail : Entries)
  | broken (fault : Fault) (span : Span)

end

namespace Node

def span : Node → Span
  | scalar _ s => s
  | list _ s => s
  | table _ s => s
  | broken _ s => s

def isContainer : Node → Bool
  | list _ _ => true
  | table _ _ => true
  | _ => false

end Node

def Items.ofList : List Node → Items
  | [] => nil
  | n :: ns => cons n (ofList ns)

inductive Format where
  | toml
  | json
  deriving DecidableEq

structure Source where
  format : Format
  root : Node
  rest : Option (Fault × Span) := none

end AngularScaffold.Document
