namespace AngularScaffold.TypeScript

def escape (c : Char) : List Char :=
  if c = '\\' then ['\\', '\\']
  else if c = '\'' then ['\\', '\'']
  else if c = '\n' then ['\\', 'n']
  else if c = '\r' then ['\\', 'r']
  else [c]

def quoteChars (text : List Char) : List Char :=
  '\'' :: (text.flatMap escape ++ ['\''])

def quote (text : String) : String :=
  String.ofList (quoteChars text.toList)

def unescape? (c : Char) : Option Char :=
  if c = '\\' then some '\\'
  else if c = '\'' then some '\''
  else if c = 'n' then some '\n'
  else if c = 'r' then some '\r'
  else none

def readBody? : List Char → Option (List Char × List Char)
  -- line breaks must be escaped
  | [] => none
  | c :: cs =>
    if c = '\'' then some ([], cs)
    else if c = '\n' || c = '\r' then none
    else if c = '\\' then
      match cs with
      | [] => none
      | d :: cs =>
        (unescape? d).bind fun e => (readBody? cs).map fun p => (e :: p.1, p.2)
    else (readBody? cs).map fun p => (c :: p.1, p.2)

def readLiteral? : List Char → Option (List Char × List Char)
  | [] => none
  | c :: cs => if c = '\'' then readBody? cs else none

theorem readBody?_escape (c : Char) (cs : List Char) :
    readBody? (escape c ++ cs) = (readBody? cs).map fun p => (c :: p.1, p.2) := by
  unfold escape
  split
  · subst_vars; simp [readBody?, unescape?]
  · split
    · subst_vars; simp [readBody?, unescape?]
    · split
      · subst_vars; simp [readBody?, unescape?]
      · split
        · subst_vars; simp [readBody?, unescape?]
        · rename_i h₁ h₂ h₃ h₄
          rw [List.singleton_append, readBody?.eq_def]
          simp [h₁, h₂, h₃, h₄]

theorem readBody?_flatMap_escape (text rest : List Char) :
    readBody? (text.flatMap escape ++ '\'' :: rest) = some (text, rest) := by
  induction text with
  | nil => rw [List.flatMap_nil, List.nil_append, readBody?.eq_def]; rfl
  | cons c text ih =>
    rw [List.flatMap_cons, List.append_assoc, readBody?_escape, ih]
    rfl

theorem readLiteral?_quoteChars (text rest : List Char) :
    readLiteral? (quoteChars text ++ rest) = some (text, rest) := by
  simp [quoteChars, readLiteral?, readBody?_flatMap_escape]

def array (items : List String) : String :=
  "[" ++ ", ".intercalate items ++ "]"

def arrayOfTexts (texts : List String) : String :=
  array (texts.map quote)

def objectOfTexts (entries : List (String × String)) : String :=
  if entries.isEmpty then "\x7b\x7d"
  else "\x7b " ++ ", ".intercalate (entries.map fun e => quote e.1 ++ ": " ++ quote e.2) ++ " \x7d"

end AngularScaffold.TypeScript
