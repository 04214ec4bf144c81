import AngularScaffold.Layout.Draft
import AngularScaffold.TypeScript.ImportTable

namespace AngularScaffold.TypeScript

open Layout

def classLine (name : String) : String :=
  "export class " ++ name ++ " \x7b\x7d"

structure CodeFile where
  imports : List Import := []
  body : List (List Piece) := []

namespace CodeFile

def separated : List (List Piece) → List Piece
  | [] => []
  | [ps] => ps
  | ps :: rest => ps ++ blank :: separated rest

def pieces (f : CodeFile) : List Piece :=
  f.imports.map (fun i => line 0 i.line) ++
    (if f.imports.isEmpty || f.body.isEmpty then [] else [blank]) ++ separated f.body

def isEmpty (f : CodeFile) : Bool :=
  f.imports.isEmpty && f.body.isEmpty

end CodeFile

end AngularScaffold.TypeScript
