import AngularScaffold.Document.Cursor
import AngularScaffold.Document.Json.Text

namespace AngularScaffold.Document.Toml

def isSpace (c : Char) : Bool :=
  c == ' ' || c == '\t'

def isPlain (c : Char) : Bool :=
  c == '\t' || (0x20 ≤ c.toNat && c.toNat != 0x7F)

def skipSpaces (k : Cursor) : Cursor :=
  k.skipWhile isSpace

def skipComment (k : Cursor) : Cursor :=
  -- a comment runs up to the first character that may not stand in it
  match k.rest with
  | '#' :: cs => Cursor.skipWhile isPlain ⟨k.offset + 1, cs⟩
  | _ => k

def newline? (k : Cursor) : Option Cursor :=
  -- a carriage return counts only in front of a line feed
  match k.rest with
  | '\n' :: cs => some ⟨k.offset + 1, cs⟩
  | '\r' :: cs =>
    match cs with
    | '\n' :: cs => some ⟨k.offset + 2, cs⟩
    | _ => none
  | _ => none

def finishLine? (k : Cursor) : Option Cursor :=
  let k := skipComment (skipSpaces k)
  if k.rest.isEmpty then some k else newline? k

def skipLines : Nat → Cursor → Cursor
  | 0, k => k
  | bound + 1, k =>
    let k := skipComment (skipSpaces k)
    match newline? k with
    | some k => skipLines bound k
    | none => k

def skipBreaks (k : Cursor) : Cursor :=
  skipLines k.rest.length k

def scalar? (n : Nat) : Option Char :=
  if n.isValidChar then some (Char.ofNat n) else none

def hexNumber? (digits : List Char) : Option Nat :=
  digits.foldl (fun n? c => n?.bind fun n => (Json.hexValue? c).map fun d => n * 16 + d) (some 0)

def shortEscape? (c : Char) : Option Char :=
  if c = 'b' then some '\x08'
  else if c = 't' then some '\t'
  else if c = 'n' then some '\n'
  else if c = 'f' then some '\x0c'
  else if c = 'r' then some '\r'
  else if c = 'e' then some '\x1b'
  else if c = '"' then some '"'
  else if c = '\\' then some '\\'
  else none

abbrev Read := Option (List Char × Cursor)

def prepend (cs : List Char) (r : Read) : Read :=
  r.map fun p => (cs ++ p.1, p.2)

inductive Mode where
  | text
  | lineEnd
  | swallow
  deriving DecidableEq

def closing? (quote : Char) : List Char → Option (List Char × List Char)
  -- up to two quotes in front of the closing ones belong to the text
  | a :: b :: rest =>
    if a = quote && b = quote then
      match rest with
      | c :: d :: rest' =>
        if c = quote && d = quote then some ([quote, quote], rest')
        else if c = quote then some ([quote], d :: rest')
        else some ([], rest)
      | [c] => if c = quote then some ([quote], []) else some ([], rest)
      | [] => some ([], rest)
    else none
  | _ => none

def closeAt (offset : Nat) (p : List Char × List Char) : Read :=
  some (p.1, ⟨offset + 3 + p.1.length, p.2⟩)

def readBasic (lines : Bool) (mode : Mode) (offset : Nat) : List Char → Read
  | [] => none
  | c :: cs =>
    if mode = .lineEnd && isSpace c then readBasic lines .lineEnd (offset + 1) cs
    else if mode != .text && c = '\n' then readBasic lines .swallow (offset + 1) cs
    else if mode != .text && c = '\r' then
      match cs with
      | '\n' :: cs => readBasic lines .swallow (offset + 2) cs
      | _ => none
    else if mode = .lineEnd then none
    else if mode = .swallow && isSpace c then readBasic lines .swallow (offset + 1) cs
    else if c = '"' then
      if lines then
        match closing? '"' cs with
        | some p => closeAt offset p
        | none => prepend ['"'] (readBasic lines .text (offset + 1) cs)
      else some ([], ⟨offset + 1, cs⟩)
    else if c = '\\' then
      match cs with
      | [] => none
      | e :: cs =>
        if e = 'x' then
          match cs with
          | a :: b :: cs =>
            match (hexNumber? [a, b]).bind scalar? with
            | some d => prepend [d] (readBasic lines .text (offset + 4) cs)
            | none => none
          | _ => none
        else if e = 'u' then
          match cs with
          | a :: b :: c :: d :: cs =>
            match (hexNumber? [a, b, c, d]).bind scalar? with
            | some x => prepend [x] (readBasic lines .text (offset + 6) cs)
            | none => none
          | _ => none
        else if e = 'U' then
          match cs with
          | a :: b :: c :: d :: e :: f :: g :: h :: cs =>
            match (hexNumber? [a, b, c, d, e, f, g, h]).bind scalar? with
            | some x => prepend [x] (readBasic lines .text (offset + 10) cs)
            | none => none
          | _ => none
        else match shortEscape? e with
          | some d => prepend [d] (readBasic lines .text (offset + 2) cs)
          | none =>
            if !lines then none
            else if isSpace e then readBasic lines .lineEnd (offset + 2) cs
            else if e = '\n' then readBasic lines .swallow (offset + 2) cs
            else if e = '\r' then
              match cs with
              | '\n' :: cs => readBasic lines .swallow (offset + 3) cs
              | _ => none
            else none
    else if lines && c = '\n' then prepend ['\n'] (readBasic lines .text (offset + 1) cs)
    else if lines && c = '\r' then
      match cs with
      | '\n' :: cs => prepend ['\r', '\n'] (readBasic lines .text (offset + 2) cs)
      | _ => none
    else if isPlain c then prepend [c] (readBasic lines .text (offset + c.utf8Size) cs)
    else none

def readLiteral (lines : Bool) (offset : Nat) : List Char → Read
  | [] => none
  | c :: cs =>
    if c = '\'' then
      if lines then
        match closing? '\'' cs with
        | some p => closeAt offset p
        | none => prepend ['\''] (readLiteral lines (offset + 1) cs)
      else some ([], ⟨offset + 1, cs⟩)
    else if lines && c = '\n' then prepend ['\n'] (readLiteral lines (offset + 1) cs)
    else if lines && c = '\r' then
      match cs with
      | '\n' :: cs => prepend ['\r', '\n'] (readLiteral lines (offset + 2) cs)
      | _ => none
    else if isPlain c then prepend [c] (readLiteral lines (offset + c.utf8Size) cs)
    else none

def skipFirstNewline (k : Cursor) : Cursor :=
  (newline? k).getD k

def readString (k : Cursor) : Read :=
  match k.rest with
  | '"' :: cs =>
    match cs with
    | '"' :: '"' :: cs =>
      let k := skipFirstNewline ⟨k.offset + 3, cs⟩
      readBasic true .text k.offset k.rest
    | _ => readBasic false .text (k.offset + 1) cs
  | '\'' :: cs =>
    match cs with
    | '\'' :: '\'' :: cs =>
      let k := skipFirstNewline ⟨k.offset + 3, cs⟩
      readLiteral true k.offset k.rest
    | _ => readLiteral false (k.offset + 1) cs
  | _ => none

end AngularScaffold.Document.Toml
