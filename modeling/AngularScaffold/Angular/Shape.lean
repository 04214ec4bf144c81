import AngularScaffold.Angular.EnumTable
import AngularScaffold.Manifest.Basic

namespace AngularScaffold

def ClassKind.decorator : ClassKind → String
  | component => "Component"
  | directive => "Directive"
  | module => "NgModule"

namespace Angular

inductive Shape where
  | ofClass (kind : ClassKind)
  | application
  deriving DecidableEq

inductive KeyRule where
  | member (table : EnumTable)
  | textMap
  | references
  deriving DecidableEq

namespace Shape

def name : Shape → String
  | ofClass kind => kind.name
  | application => "application"

def decorator? : Shape → Option String
  | ofClass kind => some kind.decorator
  | application => none

def rules : Shape → List (String × KeyRule)
  | ofClass .component =>
    [("changeDetection", .member changeDetectionStrategy), ("encapsulation", .member viewEncapsulation),
     ("host", .textMap), ("entryComponents", .references), ("providers", .references),
     ("viewProviders", .references)]
  | ofClass .directive => [("host", .textMap), ("providers", .references)]
  | ofClass .module =>
    [("bootstrap", .references), ("declarations", .references), ("entryComponents", .references),
     ("imports", .references), ("exports", .references), ("providers", .references),
     ("schemas", .references)]
  | application => [("providers", .references)]

def rule? (s : Shape) (key : String) : Option KeyRule :=
  Pairs.get? key s.rules

def enumTables (s : Shape) (config : Config) : List EnumTable :=
  config.keys.filterMap fun key => match s.rule? key with
    | some (.member table) => some table
    | _ => none

def referencesIn (s : Shape) (key : String) (value : Value) : List Value :=
  match s.rule? key, value with
  | some .references, .list items => items
  | _, _ => []

def references (s : Shape) (config : Config) : List Value :=
  config.entries.flatMap fun e => s.referencesIn e.1 e.2

end Shape

end Angular

end AngularScaffold
