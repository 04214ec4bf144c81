import AngularScaffold.Document.Problem
import AngularScaffold.Value.Basic

/-!
Taking values out of a document tree. Parts are looked at in the order in which they stand, and the
first problem is the one that is reported. A record is written as a table of its fields or as a list
of them in their own order.
-/

namespace AngularScaffold.Document

abbrev Decoder (α : Type) := Node → Except Problem α

def refuse {α : Type} (expected : String) : Decoder α
  | .broken f s => .error (.fault f s)
  | n => .error (.unexpected n.found expected n)

def text : Decoder String
  | .scalar (.text s) _ => .ok s
  | n => refuse "a string" n

def dateKey : String := "$__toml_private_datetime"

def anyValue : String := "a boolean, number, string, list or table"

def wholeNumber? (i : Int) : Option Value :=
  -- what needs 64 bits without a sign becomes a double
  if -Int.pow 2 63 ≤ i && i < Int.pow 2 63 then some (.int (Int64.ofInt i))
  else if 0 ≤ i && i < Int.pow 2 64 then some (.float (Decimal.ofRatio false i.toNat 1))
  else none

/-- Whether nothing more stands in a table whose meaning is already known. Only a text that is looked
at while it is read has to end there. -/
def endsHere (f : Format) : Entries → Bool
  | .nil => true
  | _ => f == .toml

mutual

def value (f : Format) : Node → Except Problem Value
  -- a table that begins with the key for dates is the text under it
  | .scalar s span =>
    match s with
    | .bool b => .ok (.bool b)
    | .int i =>
      match wholeNumber? i with
      | some v => .ok v
      | none => refuse anyValue (.scalar (.int i) span)
    | .float x => .ok (.float x)
    | .text s => .ok (.text s)
    | .null => refuse anyValue (.scalar .null span)
  | .list items _ => (itemValues f items).map .list
  | .table .nil _ => .ok (.map [])
  | .table (.broken c s) _ => .error (.fault c s)
  | .table (.cons k _ v rest) _ =>
    if k = dateKey then do
      let s ← text v
      if endsHere f rest then .ok (.text s) else .error (.leftover false v.span.stop)
    else do
      let first ← value f v
      let others ← entryValues f rest
      .ok (.map (Pairs.putAll ((k, first) :: others) []))
  | .broken c s => .error (.fault c s)

def itemValues (f : Format) : Items → Except Problem (List Value)
  | .nil => .ok []
  | .cons n rest => do
    let v ← value f n
    let vs ← itemValues f rest
    .ok (v :: vs)
  | .broken c s => .error (.fault c s)

def entryValues (f : Format) : Entries → Except Problem (List (String × Value))
  | .nil => .ok []
  | .cons k _ n rest => do
    let v ← value f n
    let vs ← entryValues f rest
    .ok ((k, v) :: vs)
  | .broken c s => .error (.fault c s)

end

def eachItem {α : Type} (item : Decoder α) : Items → Except Problem (List α)
  | .nil => .ok []
  | .cons n rest => do
    let x ← item n
    let xs ← eachItem item rest
    .ok (x :: xs)
  | .broken c s => .error (.fault c s)

def listOf {α : Type} (item : Decoder α) : Decoder (List α)
  | .list items _ => eachItem item items
  | n => refuse "a sequence" n

def eachEntry {α : Type} (item : Decoder α) : Entries → Except Problem (List (String × α))
  | .nil => .ok []
  | .cons k _ n rest => do
    let x ← item n
    let xs ← eachEntry item rest
    .ok ((k, x) :: xs)
  | .broken c s => .error (.fault c s)

def mapOf {α : Type} (item : Decoder α) : Decoder (OrderedMap α)
  -- a key that is repeated keeps its first place and takes its last value
  | .table entries _ => (eachEntry item entries).map OrderedMap.ofList
  | n => refuse "a map" n

def optional {α : Type} (item : Decoder α) : Decoder (Option α)
  | .scalar .null _ => .ok none
  | n => (item n).map some

def config (f : Format) : Decoder Config :=
  mapOf (value f)

/-- How a record with fields `φ` is taken out of a node. It is filled field by field. -/
structure Schema (φ σ ρ : Type) where
  title : String
  fields : List φ
  keys : List (String × φ)
  name : φ → String
  empty : σ
  put : φ → Node → σ → Except Problem σ
  finish : σ → Except φ ρ

namespace Schema

variable {φ σ ρ : Type} [DecidableEq φ]

def fill (s : Schema φ σ ρ) (table : Span) (seen : List φ) (record : σ) : Entries → Except Problem σ
  | .nil => .ok record
  | .broken c p => .error (.fault c p)
  | .cons k ks n rest =>
    match Pairs.get? k s.keys with
    | none => .error (.unknownField k (s.keys.map Prod.fst) ks)
    | some field =>
      if field ∈ seen then .error (.duplicateField (s.name field) ks table)
      else do
        let record ← s.put field n record
        s.fill table (field :: seen) record rest

def fillInOrder (f : Format) (s : Schema φ σ ρ) (last : Nat) (record : σ) :
    List φ → Items → Except Problem σ
  | [], items =>
    match items with
    | .nil => .ok record
    | _ => if f = .toml then .ok record else .error (.leftover true last)
  | _ :: _, .nil => .ok record
  | _ :: _, .broken c p => .error (.fault c p)
  | field :: fields, .cons n rest => do
    let record ← s.put field n record
    s.fillInOrder f n.span.stop record fields rest

def decode (f : Format) (s : Schema φ σ ρ) : Decoder ρ
  | .table entries span => do
    let record ← s.fill span [] s.empty entries
    match s.finish record with
    | .ok r => .ok r
    | .error field => .error (.missingField (s.name field) span)
  | .list items span => do
    let record ← s.fillInOrder f span.start s.empty s.fields items
    match s.finish record with
    | .ok r => .ok r
    | .error field =>
      let count := s.fields.length
      let elements := if count = 1 then " element" else " elements"
      .error (.tooShort (s.fields.idxOf field)
        (s.title ++ " with " ++ toString count ++ elements) span)
  | n => refuse s.title n

end Schema

def Source.decode {α : Type} (s : Source) (item : Decoder α) : Except Problem α := do
  let x ← item s.root
  match s.rest with
  | none => .ok x
  | some (c, p) => .error (.fault c p)

end AngularScaffold.Document
