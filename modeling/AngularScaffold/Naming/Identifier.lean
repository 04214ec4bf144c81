import AngularScaffold.Unicode.Alphabetic
import AngularScaffold.Unicode.Numeric
import AngularScaffold.Unicode.Whitespace

namespace AngularScaffold.Naming

open Unicode

def startsIdentifier (c : Char) : Bool :=
  isAlphabetic c || c == '_' || c == '$'

def inIdentifier (c : Char) : Bool :=
  isAlphabetic c || isNumeric c || c == '_' || c == '$'

theorem inIdentifier_of_starts {c : Char} (h : startsIdentifier c = true) : inIdentifier c = true := by
  simp only [startsIdentifier, inIdentifier, Bool.or_eq_true] at h ⊢
  rcases h with (h | h) | h <;> simp [h]

def word (cs : List Char) : List Char :=
  cs.takeWhile inIdentifier

def afterWord (cs : List Char) : List Char :=
  cs.dropWhile inIdentifier

theorem word_append_afterWord (cs : List Char) : word cs ++ afterWord cs = cs :=
  List.takeWhile_append_dropWhile

def trimStart (cs : List Char) : List Char :=
  cs.dropWhile isWhitespace

def leadingIdentifier? (expression : String) : Option String :=
  match word (trimStart expression.toList) with
  | [] => none
  | c :: cs => if c.isDigit then none else some (String.ofList (c :: cs))

inductive NameFault where
  | empty
  | badStart
  | badCharacter
  deriving DecidableEq

def nameFault? (name : String) : Option NameFault :=
  match name.toList with
  | [] => some .empty
  | c :: cs =>
    if !startsIdentifier c then some .badStart
    else if cs.all inIdentifier then none else some .badCharacter

def NameFault.reason : NameFault → String
  | .empty => "name cannot be empty"
  | .badStart => "name must start with a letter, '_' or '$'"
  | .badCharacter => "name contains invalid characters"

def reservedWords : List String :=
  ["break", "case", "catch", "class", "const", "continue", "debugger", "default", "delete", "do",
   "else", "enum", "export", "extends", "false", "finally", "for", "function", "if", "import",
   "in", "instanceof", "new", "null", "return", "super", "switch", "this", "throw", "true", "try",
   "typeof", "var", "void", "while", "with",
   "implements", "interface", "let", "package", "private", "protected", "public", "static", "yield",
   "await"]

def isReserved (name : String) : Bool :=
  reservedWords.contains name

end AngularScaffold.Naming
