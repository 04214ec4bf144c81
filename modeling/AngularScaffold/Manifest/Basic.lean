import AngularScaffold.Naming.FileStem
import AngularScaffold.Value.Basic

namespace AngularScaffold

inductive ClassKind where
  | component
  | directive
  | module
  deriving DecidableEq

def ClassKind.name : ClassKind → String
  | component => "component"
  | directive => "directive"
  | module => "module"

structure Project where
  name : String
  description : Option String

structure Route where
  path : String
  component : String
  deriving DecidableEq

structure Declaration where
  kind : ClassKind
  name : String
  config : Config

def Declaration.stem (d : Declaration) : String :=
  Naming.fileStem d.name d.kind.name

structure Manifest where
  project : Project
  symbols : OrderedMap String
  components : OrderedMap Config
  directives : OrderedMap Config
  modules : OrderedMap Config
  application : Option Config
  routes : List Route

namespace Manifest

def declared (kind : ClassKind) (classes : OrderedMap Config) : List Declaration :=
  classes.entries.map fun e => ⟨kind, e.1, e.2⟩

def classes (m : Manifest) : List Declaration :=
  declared .component m.components ++ declared .directive m.directives ++ declared .module m.modules

def classKind? (m : Manifest) (name : String) : Option ClassKind :=
  (m.classes.find? (·.name == name)).map (·.kind)

end Manifest

def Manifest.defaultPath : String := "ngwrite.toml"

end AngularScaffold
