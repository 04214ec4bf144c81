import AngularScaffold.Document.Problem
import AngularScaffold.Manifest.Basic
import AngularScaffold.Naming.Identifier

namespace AngularScaffold

open Document Naming

structure Label where
  text : String
  span : Span

namespace Manifest

inductive NameSite where
  | ofClass (kind : ClassKind)
  | ofSymbol
  | ofRoute (index : Nat)
  deriving DecidableEq

def NameSite.describe : NameSite → String
  | ofClass kind => kind.name
  | ofSymbol => "symbol in 'symbols'"
  | ofRoute index => "route component in 'routes[" ++ toString index ++ "]'"

inductive Error where
  | unreadable (path : String)
  | refused (why : Refusal)
  | namelessProject
  | reservedWord (name : String) (site : NameSite) (span : Option Span)
  | invalidName (name : String) (site : NameSite) (fault : NameFault) (span : Option Span)
  | duplicateClass (name : String) (first second : ClassKind) (firstSpan secondSpan : Option Span)
  | fileCollision (first second path : String) (firstSpan secondSpan : Option Span)

namespace Error

def message : Error → String
  | unreadable path => "failed to read '" ++ path ++ "'"
  | refused ⟨.toml, _, _⟩ => "failed to parse manifest"
  | refused ⟨.json, _, _⟩ => "failed to parse JSON manifest"
  | namelessProject => "project name cannot be empty"
  | reservedWord name _ _ => "'" ++ name ++ "' is a TypeScript reserved word"
  | invalidName name site _ _ => "invalid " ++ site.describe ++ " name '" ++ name ++ "'"
  | duplicateClass name _ _ _ _ => "class '" ++ name ++ "' is declared more than once"
  | fileCollision first second path _ _ =>
    "'" ++ first ++ "' and '" ++ second ++ "' would both be generated as " ++ path

def code? : Error → Option String
  | unreadable _ => none
  | refused ⟨.toml, _, _⟩ => some "ngwrite::parse_error"
  | refused ⟨.json, _, _⟩ => some "ngwrite::json_error"
  | namelessProject => some "ngwrite::validation_error"
  | reservedWord _ _ _ => some "ngwrite::reserved_keyword"
  | invalidName _ _ _ _ => some "ngwrite::invalid_identifier"
  | duplicateClass _ _ _ _ _ => some "ngwrite::duplicate_class"
  | fileCollision _ _ _ _ _ => some "ngwrite::file_collision"

def help? : Error → Option String
  | unreadable _ => some "run 'ngwrite init' to create a starter manifest"
  | refused _ => none
  | namelessProject => none
  | reservedWord name site _ =>
    some ("rename the " ++ site.describe ++ " '" ++ name ++ "' to something else")
  | invalidName _ _ fault _ =>
    some (fault.reason ++
      ". Use only letters, digits, '_' and '$', starting with a letter, '_' or '$'.")
  | duplicateClass _ _ _ _ _ =>
    some "every generated class needs a unique name across components, directives and modules"
  | fileCollision _ _ _ _ _ => some "rename one of the classes so their file names differ"

def label? (text : String) (span : Option Span) : List Label :=
  span.toList.map (⟨text, ·⟩)

def labels : Error → List Label
  | unreadable _ => []
  | refused why => label? "parse error here" why.label
  | namelessProject => []
  | reservedWord _ _ span => label? "reserved word used here" span
  | invalidName _ _ _ span => label? "invalid identifier" span
  | duplicateClass _ first second firstSpan secondSpan =>
    label? ("first declared here as a " ++ first.name) firstSpan ++
      label? ("declared again as a " ++ second.name) secondSpan
  | fileCollision _ _ path firstSpan secondSpan =>
    label? ("generated as " ++ path) firstSpan ++ label? ("also generated as " ++ path) secondSpan

end Error

end Manifest

end AngularScaffold
