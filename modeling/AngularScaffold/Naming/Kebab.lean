import AngularScaffold.Unicode.Case

namespace AngularScaffold.Naming

open Unicode

def isSeparator (c : Char) : Bool :=
  c == '_' || c == '-' || c == ' '

def startsWord (previous c : Char) (rest : List Char) : Bool :=
  isUppercase c &&
    (isLowercase previous || previous.isDigit ||
      (isUppercase previous && rest.head?.any isLowercase))

def kebabFrom (dashFits : Bool) (previous : Option Char) : List Char → List Char
  -- `dashFits` says that a letter was written last, `previous` is the character read last
  | [] => []
  | c :: rest =>
    if isSeparator c then
      if dashFits then '-' :: kebabFrom false (some c) rest else kebabFrom false (some c) rest
    else if dashFits && previous.any (startsWord · c rest) then
      '-' :: (lowercase c ++ kebabFrom true (some c) rest)
    else
      lowercase c ++ kebabFrom true (some c) rest

def kebabChars (name : List Char) : List Char :=
  kebabFrom false none name

def kebab (name : String) : String :=
  String.ofList (kebabChars name.toList)

end AngularScaffold.Naming
