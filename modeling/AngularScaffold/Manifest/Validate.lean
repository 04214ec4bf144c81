import AngularScaffold.Manifest.Error
import AngularScaffold.Manifest.Locate
import AngularScaffold.Naming.FileStem

/-!
Checking the names of a manifest: the project has one, every name that ends up in a source file is an
identifier, no class is declared twice, and no two classes share a file. The first violation in the
order of the declarations is the one that is reported; the text of the manifest only tells where it is.
-/

namespace AngularScaffold.Manifest

open Document Naming

def checkName (name : String) (site : NameSite) (span : Option Span) : Except Error Unit :=
  if isReserved name then .error (.reservedWord name site span)
  else match nameFault? name with
    | some fault => .error (.invalidName name site fault span)
    | none => .ok ()

def checkClass (source : List Char) (before : List Declaration) (d : Declaration) : Except Error Unit := do
  let spans := keySpans source d.name
  checkName d.name (.ofClass d.kind) spans.head?
  match before.find? (·.name == d.name) with
  | some first => .error (.duplicateClass d.name first.kind d.kind spans[0]? spans[1]?)
  | none =>
    match before.find? (·.stem == d.stem) with
    | some first =>
      .error (.fileCollision first.name d.name (d.stem ++ ".ts") (keySpans source first.name).head?
        spans.head?)
    | none => .ok ()

def checkClasses (source : List Char) (before : List Declaration) : List Declaration → Except Error Unit
  | [] => .ok ()
  | d :: rest => do
    checkClass source before d
    checkClasses source (before ++ [d]) rest

def checkSymbols (source : List Char) : List String → Except Error Unit
  | [] => .ok ()
  | name :: rest => do
    checkName name .ofSymbol (keySpans source name).head?
    checkSymbols source rest

def checkRoutes (source : List Char) (index : Nat) : List Route → Except Error Unit
  | [] => .ok ()
  | r :: rest => do
    checkName r.component (.ofRoute index) (valueSpan? source r.component)
    checkRoutes source (index + 1) rest

def validate (source : String) (m : Manifest) : Except Error Unit := do
  if (trimStart m.project.name.toList).isEmpty then throw .namelessProject
  let chars := source.toList
  checkClasses chars [] m.classes
  checkSymbols chars m.symbols.keys
  checkRoutes chars 0 m.routes

end AngularScaffold.Manifest
