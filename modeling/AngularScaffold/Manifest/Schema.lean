import AngularScaffold.Document.Json.Reader
import AngularScaffold.Document.Toml.Reader
import AngularScaffold.Manifest.Basic
import AngularScaffold.Value.Json

namespace AngularScaffold

open Document

namespace Project

inductive Field where
  | name
  | description
  deriving DecidableEq

structure Partial where
  name : Option String := none
  description : Option String := none

def schema : Schema Field Partial Project where
  title := "struct ProjectConfig"
  fields := [.name, .description]
  keys := [("name", .name), ("description", .description)]
  name
    | .name => "name"
    | .description => "description"
  empty := {}
  put
    | .name, n, p => (text n).map fun s => { p with name := some s }
    | .description, n, p => (optional text n).map fun s => { p with description := s }
  finish p := match p.name with
    | some name => .ok ⟨name, p.description⟩
    | none => .error .name

end Project

namespace Route

inductive Field where
  | path
  | component
  deriving DecidableEq

structure Partial where
  path : Option String := none
  component : Option String := none

def schema : Schema Field Partial Route where
  title := "struct Route"
  fields := [.path, .component]
  keys := [("path", .path), ("component", .component), ("componentName", .component)]
  name
    | .path => "path"
    | .component => "component"
  empty := {}
  put
    | .path, n, r => (text n).map fun s => { r with path := some s }
    | .component, n, r => (text n).map fun s => { r with component := some s }
  finish r := match r.path, r.component with
    | some path, some component => .ok ⟨path, component⟩
    | none, _ => .error .path
    | some _, none => .error .component

def toJson (r : Route) : String :=
  Value.toJson (.map [("path", .text r.path), ("component", .text r.component)])

end Route

namespace Manifest

inductive Field where
  | project
  | symbols
  | components
  | directives
  | modules
  | application
  | routes
  deriving DecidableEq

structure Partial where
  project : Option Project := none
  symbols : OrderedMap String := .empty
  components : OrderedMap Config := .empty
  directives : OrderedMap Config := .empty
  modules : OrderedMap Config := .empty
  application : Option Config := none
  routes : List Route := []

def schema (f : Format) : Schema Field Partial Manifest where
  title := "struct Manifest"
  fields := [.project, .symbols, .components, .directives, .modules, .application, .routes]
  keys := [("project", .project), ("symbols", .symbols), ("components", .components),
    ("directives", .directives), ("modules", .modules), ("application", .application),
    ("routes", .routes)]
  name
    | .project => "project"
    | .symbols => "symbols"
    | .components => "components"
    | .directives => "directives"
    | .modules => "modules"
    | .application => "application"
    | .routes => "routes"
  empty := {}
  put
    | .project, n, m => (Project.schema.decode f n).map fun x => { m with project := some x }
    | .symbols, n, m => (mapOf text n).map fun x => { m with symbols := x }
    | .components, n, m => (mapOf (config f) n).map fun x => { m with components := x }
    | .directives, n, m => (mapOf (config f) n).map fun x => { m with directives := x }
    | .modules, n, m => (mapOf (config f) n).map fun x => { m with modules := x }
    | .application, n, m => (optional (config f) n).map fun x => { m with application := x }
    | .routes, n, m => (listOf (Route.schema.decode f) n).map fun x => { m with routes := x }
  finish m := match m.project with
    | some project => .ok
        ⟨project, m.symbols, m.components, m.directives, m.modules, m.application, m.routes⟩
    | none => .error .project

end Manifest

namespace Document

def decodeText {α : Type} (f : Format) (item : Decoder α) (source : String) : Except Refusal α :=
  let source? := match f with
    | .json => some (Json.read source)
    | .toml => Toml.read? source
  match source? with
  | none => .error (.unread f)
  | some s => (s.decode item).mapError (Problem.refusal f source)

end Document

end AngularScaffold
