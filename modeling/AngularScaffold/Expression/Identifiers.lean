import AngularScaffold.Naming.Identifier

/-!
The free identifiers of an expression, found in one pass from left to right. Member names, object
keys, numbers, keywords and whatever stands in quotes are passed over; nothing else is parsed.
-/

namespace AngularScaffold.Expression

open Naming Unicode

def isQuote (c : Char) : Bool :=
  c == '\'' || c == '"' || c == Char.ofNat 0x60

def afterQuoted (quote : Char) : List Char → List Char
  -- a backslash hides the character after it, and a literal that nothing closes reaches to the end
  | [] => []
  | c :: cs =>
    if c = quote then cs
    else if c = '\\' then
      match cs with
      | [] => []
      | _ :: cs => afterQuoted quote cs
    else afterQuoted quote cs

theorem length_afterQuoted_le (quote : Char) (cs : List Char) :
    (afterQuoted quote cs).length ≤ cs.length := by
  fun_induction afterQuoted quote cs with
  | case1 => simp
  | case2 => simp
  | case3 => simp
  | case4 => simp only [List.length_cons]; omega
  | case5 => simp only [List.length_cons]; omega

def keywords : List String :=
  ["true", "false", "null", "undefined", "new", "this", "typeof", "void"]

/-- The last character that is no white space, and the number of dots since the last character that
is neither a dot nor white space. -/
structure Context where
  last : Option Char := none
  dots : Nat := 0

def Context.after (k : Context) (c : Char) : Context :=
  if c = '.' then ⟨some c, k.dots + 1⟩
  else if isWhitespace c then k
  else ⟨some c, 0⟩

def Context.isMember (k : Context) : Bool :=
  k.last == some '.' && k.dots == 1

def Context.isKey (k : Context) (rest : List Char) : Bool :=
  (k.last == none || k.last == some '{' || k.last == some ',') &&
    (trimStart rest).head? == some ':'

def Context.isFree (k : Context) (c : Char) (w : String) (rest : List Char) : Bool :=
  !(k.isMember || k.isKey rest || c.isDigit || keywords.contains w)

theorem length_afterWord_le (cs : List Char) : (afterWord cs).length ≤ cs.length :=
  (List.dropWhile_sublist _).length_le

def identifiersFrom (k : Context) : List Char → List String
  | [] => []
  | c :: cs =>
    if isQuote c then identifiersFrom ⟨some c, 0⟩ (afterQuoted c cs)
    else if inIdentifier c then
      let w := String.ofList (c :: word cs)
      let more := identifiersFrom ⟨some ((word cs).getLastD c), 0⟩ (afterWord cs)
      if k.isFree c w (afterWord cs) then w :: more else more
    else identifiersFrom (k.after c) cs
termination_by cs => cs.length
decreasing_by
  · have := length_afterQuoted_le c cs
    simp only [List.length_cons]
    omega
  · have := length_afterWord_le cs
    simp only [List.length_cons]
    omega
  · simp

def identifiers (expression : String) : List String :=
  identifiersFrom {} expression.toList

end AngularScaffold.Expression
