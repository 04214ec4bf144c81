import AngularScaffold.Document.Node
import AngularScaffold.Text.Bytes

namespace AngularScaffold.Manifest

open Document

structure Occurrence where
  offset : Nat
  before : Option Char
  after : List Char

def occurrencesFrom (name : List Char) (skip offset : Nat) (before : Option Char) :
    List Char → List Occurrence
  -- the next `skip` characters belong to the place before
  | [] => []
  | c :: cs =>
    match skip with
    | skip + 1 => occurrencesFrom name skip (offset + c.utf8Size) (some c) cs
    | 0 =>
      match name.isPrefixOf? (c :: cs) with
      | some after =>
        ⟨offset, before, after⟩ ::
          occurrencesFrom name (name.length - 1) (offset + c.utf8Size) (some c) cs
      | none => occurrencesFrom name 0 (offset + c.utf8Size) (some c) cs

def Occurrence.inHeader (o : Occurrence) : Bool :=
  (o.before == some '.' || o.before == some '[') &&
    (o.after.head? == some ']' || o.after.head? == some '.')

def Occurrence.behindKey (o : Occurrence) : List Char :=
  let rest := match o.after with
    | '"' :: cs => cs
    | '\'' :: cs => cs
    | cs => cs
  rest.dropWhile fun c => c == ' ' || c == '\t'

def Occurrence.opensKey (o : Occurrence) : Bool :=
  match o.before with
  | none => true
  | some c => c == '"' || c == '\'' || c == '\n' || c == ' ' || c == '\t'

def Occurrence.isKey (o : Occurrence) : Bool :=
  o.inHeader ||
    (o.opensKey && (o.behindKey.head? == some '=' || o.behindKey.head? == some ':'))

def spanAt (offset length : Nat) : Span :=
  ⟨offset, offset + length⟩

def keySpans (source : List Char) (name : String) : List Span :=
  if name.isEmpty then []
  else ((occurrencesFrom name.toList 0 0 none source).filter Occurrence.isKey).map fun o =>
    spanAt o.offset (Text.byteLength name.toList)

def find? (pattern : List Char) (offset : Nat) : List Char → Option Nat
  | [] => if pattern.isEmpty then some offset else none
  | c :: cs => if pattern.isPrefixOf (c :: cs) then some offset else find? pattern (offset + c.utf8Size) cs

def earlier? : Option Nat → Option Nat → Option Nat
  | some a, some b => some (min a b)
  | some a, none => some a
  | none, b => b

def valueSpan? (source : List Char) (value : String) : Option Span :=
  let quoted (q : Char) := find? (q :: (value.toList ++ [q])) 0 source
  (earlier? (quoted '"') (quoted '\'')).map fun offset =>
    spanAt (offset + 1) (Text.byteLength value.toList)

end AngularScaffold.Manifest
