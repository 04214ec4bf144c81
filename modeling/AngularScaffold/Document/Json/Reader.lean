import AngularScaffold.Document.Json.Number
import AngularScaffold.Document.Json.Text

/-!
Reading JSON. The answer is always a tree: where the text is no JSON, the tree ends in the fault. Lists
and objects may be nested 127 deep.
-/

namespace AngularScaffold.Document.Json

def isBlank (c : Char) : Bool :=
  c == ' ' || c == '\n' || c == '\t' || c == '\r'

def skipBlanks (k : Cursor) : Cursor :=
  k.skipWhile isBlank

abbrev ValueReader := Cursor → Node × Option Cursor

def readWord (start offset : Nat) (value : Scalar) : List Char → List Char → Node × Option Cursor
  | [], rest => (.scalar value ⟨start, offset⟩, some ⟨offset, rest⟩)
  | _ :: _, [] => stopAt .endOfValue offset
  | c :: cs, d :: rest =>
    if c = d then readWord start (offset + 1) value cs rest else stopAt .expectedIdent (offset + 1)

def readString (start : Nat) (rest : List Char) : Node × Option Cursor :=
  match readTextFrom (start + 1) rest with
  | .ok (text, k) => (.scalar (.text (String.ofList text)) ⟨start, k.offset⟩, some k)
  | .error (fault, offset) => stopAt fault offset

def readItems (element : ValueReader) : Nat → Bool → Cursor → Items × Option Cursor
  | 0, _, k => (.broken .endOfList (.point k.offset), none)
  | bound + 1, first, k =>
    let k := skipBlanks k
    let item (k : Cursor) : Items × Option Cursor :=
      match element k with
      | (v, none) => (.cons v .nil, none)
      | (v, some k) =>
        let (vs, after) := readItems element bound false k
        (.cons v vs, after)
    match k.rest with
    | [] => (.broken .endOfList (.point k.offset), none)
    | c :: cs =>
      if c = ']' then (.nil, some ⟨k.offset + 1, cs⟩)
      else if first then item k
      else if c = ',' then
        let k := skipBlanks ⟨k.offset + 1, cs⟩
        match k.rest with
        | [] => (.broken .endOfValue (.point k.offset), none)
        | c :: _ => if c = ']' then (.broken .trailingComma (.point k.peeked), none) else item k
      else (.broken .expectedListEnd (.point k.peeked), none)

def readEntries (element : ValueReader) : Nat → Bool → Cursor → Entries × Option Cursor
  | 0, _, k => (.broken .endOfObject (.point k.offset), none)
  | bound + 1, first, k =>
    let k := skipBlanks k
    let entry (start : Nat) (rest : List Char) : Entries × Option Cursor :=
      match readTextFrom (start + 1) rest with
      | .error (fault, offset) => (.broken fault (.point offset), none)
      | .ok (key, k) =>
        let key := String.ofList key
        let span : Span := ⟨start, k.offset⟩
        let k := skipBlanks k
        match k.rest with
        | ':' :: cs =>
          match element ⟨k.offset + 1, cs⟩ with
          | (v, none) => (.cons key span v .nil, none)
          | (v, some k) =>
            let (es, after) := readEntries element bound false k
            (.cons key span v es, after)
        | [] => (.cons key span (.broken .endOfObject (.point k.offset)) .nil, none)
        | _ => (.cons key span (.broken .expectedColon (.point k.peeked)) .nil, none)
    match k.rest with
    | [] => (.broken .endOfObject (.point k.offset), none)
    | c :: cs =>
      if c = '}' then (.nil, some ⟨k.offset + 1, cs⟩)
      else if first then
        if c = '"' then entry k.offset cs else (.broken .keyNotText (.point k.peeked), none)
      else if c = ',' then
        let k := skipBlanks ⟨k.offset + 1, cs⟩
        match k.rest with
        | [] => (.broken .endOfValue (.point k.offset), none)
        | c :: cs =>
          if c = '"' then entry k.offset cs
          else if c = '}' then (.broken .trailingComma (.point k.peeked), none)
          else (.broken .keyNotText (.point k.peeked), none)
      else (.broken .expectedObjectEnd (.point k.peeked), none)

def closeList (start : Nat) : Items × Option Cursor → Node × Option Cursor
  | (items, some k) => (.list items ⟨start, k.offset⟩, some k)
  | (items, none) => (.list items (.point start), none)

def closeTable (start : Nat) : Entries × Option Cursor → Node × Option Cursor
  | (entries, some k) => (.table entries ⟨start, k.offset⟩, some k)
  | (entries, none) => (.table entries (.point start), none)

def readValueWith (part : Option ValueReader) : ValueReader := fun k =>
  let k := skipBlanks k
  match k.rest with
  | [] => stopAt .endOfValue k.offset
  | c :: cs =>
    if c = 'n' then readWord k.offset (k.offset + 1) .null ['u', 'l', 'l'] cs
    else if c = 't' then readWord k.offset (k.offset + 1) (.bool true) ['r', 'u', 'e'] cs
    else if c = 'f' then readWord k.offset (k.offset + 1) (.bool false) ['a', 'l', 's', 'e'] cs
    else if c = '"' then readString k.offset cs
    else if c = '-' || c.isDigit then readNumber k
    else if c = '[' then
      match part with
      | none => (.list (.broken .tooDeep (.point k.peeked)) (.point k.offset), none)
      | some element => closeList k.offset (readItems element (cs.length + 1) true ⟨k.offset + 1, cs⟩)
    else if c = '{' then
      match part with
      | none => (.table (.broken .tooDeep (.point k.peeked)) (.point k.offset), none)
      | some element => closeTable k.offset (readEntries element (cs.length + 1) true ⟨k.offset + 1, cs⟩)
    else stopAt .expectedValue k.peeked

def readValue : Nat → ValueReader
  | 0 => readValueWith none
  | depth + 1 => readValueWith (some (readValue depth))

def maxDepth : Nat := 127

def read (text : String) : Source :=
  match readValue maxDepth (Cursor.start text) with
  | (root, none) => ⟨.json, root, none⟩
  | (root, some k) =>
    let k := skipBlanks k
    ⟨.json, root, if k.rest.isEmpty then none else some (.trailingCharacters, .point k.peeked)⟩

end AngularScaffold.Document.Json
