namespace AngularScaffold.Files

def splitSlashes : List Char → List (List Char)
  | [] => [[]]
  | c :: cs =>
    if c = '/' then [] :: splitSlashes cs
    else match splitSlashes cs with
      | [] => [[c]]
      | part :: rest => (c :: part) :: rest

def parts (path : String) : List String :=
  (splitSlashes path.toList).map String.ofList

def isStay (part : String) : Bool :=
  part == "" || part == "."

def isAbsolute (path : String) : Bool :=
  path.toList.head? == some '/'

def join (directory path : String) : String :=
  if isAbsolute path then path
  else if directory == "" || directory.toList.getLast? == some '/' then directory ++ path
  else directory ++ "/" ++ path

def parent (path : String) : String :=
  "/".intercalate (((parts path).reverse.dropWhile isStay |>.drop 1).dropWhile isStay).reverse

def fileName? (path : String) : Option String :=
  -- a path to a parent directory names no file
  match ((parts path).filter (!isStay ·)).getLast? with
  | some ".." => none
  | name? => name?

def extensionOf? (name : List Char) : Option (List Char) :=
  -- a dot in front of everything else begins no extension
  let extension := (name.reverse.takeWhile (· != '.')).reverse
  if extension.length + 1 < name.length then some extension else none

def extension? (path : String) : Option String :=
  (fileName? path).bind fun name => (extensionOf? name.toList).map String.ofList

end AngularScaffold.Files
