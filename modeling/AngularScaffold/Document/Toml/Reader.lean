import AngularScaffold.Document.Decode
import AngularScaffold.Document.Toml.Scalar
import AngularScaffold.Document.Toml.Table
import AngularScaffold.Document.Toml.Text

namespace AngularScaffold.Document.Toml

def inBareKey (c : Char) : Bool :=
  c.isAlphanum || c == '_' || c == '-'

def readKey? (k : Cursor) : Option (Key × Cursor) :=
  match k.rest with
  | '"' :: cs =>
    (readBasic false .text (k.offset + 1) cs).map fun (text, after) =>
      (⟨String.ofList text, ⟨k.offset, after.offset⟩⟩, after)
  | '\'' :: cs =>
    (readLiteral false (k.offset + 1) cs).map fun (text, after) =>
      (⟨String.ofList text, ⟨k.offset, after.offset⟩⟩, after)
  | _ =>
    let (text, after) := k.takeWhile inBareKey
    if text.isEmpty then none
    else some (⟨String.ofList text, ⟨k.offset, after.offset⟩⟩, after)

def readKeys? : Nat → Cursor → Option (List Key × Key × Cursor)
  | 0, _ => none
  | bound + 1, k => do
    let (key, k) ← readKey? (skipSpaces k)
    let k := skipSpaces k
    match k.rest with
    | '.' :: cs =>
      let (path, last, after) ← readKeys? bound ⟨k.offset + 1, cs⟩
      pure (key :: path, last, after)
    | _ => pure ([], key, k)

abbrev ValueReader := Cursor → Option (Node × Cursor)

def maxDepth : Nat := 80

def readAssignment? (gap : Cursor → Cursor) (element : ValueReader) (k : Cursor) :
    Option (Assignment × Cursor) := do
  let (path, key, k) ← readKeys? maxDepth k
  let k := gap k
  match k.rest with
  | '=' :: cs =>
    let (v, k) ← element (gap ⟨k.offset + 1, cs⟩)
    pure (⟨path, key, v⟩, k)
  | _ => none

def readItems? (element : ValueReader) : Nat → Cursor → Option (Items × Cursor)
  | 0, _ => none
  | bound + 1, k =>
    let k := skipBreaks k
    match k.rest with
    | ']' :: cs => some (.nil, ⟨k.offset + 1, cs⟩)
    | _ => do
      let (v, k) ← element k
      let k := skipBreaks k
      match k.rest with
      | ',' :: cs =>
        let (vs, after) ← readItems? element bound ⟨k.offset + 1, cs⟩
        pure (.cons v vs, after)
      | ']' :: cs => pure (.cons v .nil, ⟨k.offset + 1, cs⟩)
      | _ => none

def readEntries? (element : ValueReader) : Nat → Cursor → Option (List Assignment × Cursor)
  | 0, _ => none
  | bound + 1, k =>
    let k := skipBreaks k
    match k.rest with
    | '}' :: cs => some ([], ⟨k.offset + 1, cs⟩)
    | _ => do
      let (a, k) ← readAssignment? skipBreaks element k
      let k := skipBreaks k
      match k.rest with
      | ',' :: cs =>
        let (as, after) ← readEntries? element bound ⟨k.offset + 1, cs⟩
        pure (a :: as, after)
      | '}' :: cs => pure ([a], ⟨k.offset + 1, cs⟩)
      | _ => none

def dateNode (text : List Char) (span : Span) : Node :=
  .table (.cons dateKey span (.scalar (.text (String.ofList text)) span) .nil) span

def readScalar? (k : Cursor) : Option (Node × Cursor) :=
  let (run, after) := scalarRun k
  let span : Span := ⟨k.offset, after.offset⟩
  (meaning? run).map fun
    | .scalar s => (.scalar s span, after)
    | .date text => (dateNode text span, after)
    | .unknown fault => (.broken fault span, after)

def readValueWith? (part : Option ValueReader) : ValueReader := fun k =>
  match k.rest with
  | [] => none
  | c :: cs =>
    if c = '"' || c = '\'' then
      (readString k).map fun (text, after) =>
        (.scalar (.text (String.ofList text)) ⟨k.offset, after.offset⟩, after)
    else if c = '[' then do
      let element ← part
      let (items, after) ← readItems? element (cs.length + 1) ⟨k.offset + 1, cs⟩
      pure (.list items ⟨k.offset, after.offset⟩, after)
    else if c = '{' then do
      let element ← part
      let (entries, after) ← readEntries? element (cs.length + 1) ⟨k.offset + 1, cs⟩
      let fields ← assignAll entries []
      pure (.table (toEntries fields) ⟨k.offset, after.offset⟩, after)
    else readScalar? k

def readValue? : Nat → ValueReader
  | 0 => readValueWith? none
  | depth + 1 => readValueWith? (some (readValue? depth))

inductive Statement where
  | header (h : Header)
  | assignment (a : Assignment)

def readHeader? (k : Cursor) : Option (Header × Cursor) :=
  match k.rest with
  | '[' :: '[' :: cs => do
    let (path, key, after) ← readKeys? maxDepth ⟨k.offset + 2, cs⟩
    match after.rest with
    | ']' :: ']' :: cs =>
      let after : Cursor := ⟨after.offset + 2, cs⟩
      pure (⟨true, path, key, ⟨k.offset, after.offset⟩⟩, after)
    | _ => none
  | '[' :: cs => do
    let (path, key, after) ← readKeys? maxDepth ⟨k.offset + 1, cs⟩
    match after.rest with
    | ']' :: cs =>
      let after : Cursor := ⟨after.offset + 1, cs⟩
      pure (⟨false, path, key, ⟨k.offset, after.offset⟩⟩, after)
    | _ => none
  | _ => none

def readStatements? : Nat → Cursor → Option (List Statement)
  | 0, _ => none
  | bound + 1, k =>
    let k := skipBreaks k
    match k.rest with
    | [] => some []
    | c :: _ => do
      let (s, k) ←
        if c = '[' then (readHeader? k).map fun (h, k) => (Statement.header h, k)
        else (readAssignment? skipSpaces (readValue? maxDepth) k).map fun (a, k) => (Statement.assignment a, k)
      let k ← finishLine? k
      let rest ← readStatements? bound k
      pure (s :: rest)

def sections : List Statement → List Assignment × List Section
  | [] => ([], [])
  | .assignment a :: rest =>
    let (as, ss) := sections rest
    (a :: as, ss)
  | .header h :: rest =>
    let (as, ss) := sections rest
    ([], (h, as) :: ss)

def skipMark (k : Cursor) : Cursor :=
  match k.rest with
  | c :: cs => if c.toNat = 0xFEFF then ⟨k.offset + 3, cs⟩ else k
  | [] => k

def read? (text : String) : Option Source := do
  let k := skipMark (Cursor.start text)
  let statements ← readStatements? (k.rest.length + 1) k
  let (top, sections) := sections statements
  let fields ← assignAll top []
  let fields ← addSections sections fields
  pure ⟨.toml, .table (toEntries fields) (.point 0), none⟩

end AngularScaffold.Document.Toml
