import AngularScaffold.Angular.WellKnown
import AngularScaffold.Expression.Identifiers
import AngularScaffold.Manifest.Basic

namespace AngularScaffold.Angular

def routesStem : String := "app.routes"
def routesName : String := "routes"

def configStem : String := "app.config"
def configName : String := "appConfig"

def besides (stem : String) : String :=
  "./" ++ stem

def sourceOf? (m : Manifest) (name : String) : Option String :=
  match m.classes.find? (·.name == name) with
  | some d => some (besides d.stem)
  | none =>
    if name == routesName && !m.routes.isEmpty then some (besides routesStem)
    else match m.symbols.get? name with
      | some module => some module
      | none => wellKnown? name

def foreignNames (binding expression : String) : List String :=
  (Expression.identifiers expression).filter (· != binding)

def importsFor (m : Manifest) (binding expression : String) : List (String × String) :=
  (foreignNames binding expression).filterMap fun name => (sourceOf? m name).map (·, name)

structure Warning where
  symbol : String
  binding : String
  deriving DecidableEq

def warningsFor (m : Manifest) (binding expression : String) : List Warning :=
  -- only the name that the expression starts with is warned about
  ((foreignNames binding expression).filter fun name =>
    (sourceOf? m name).isNone && Naming.leadingIdentifier? expression == some name).map (⟨·, binding⟩)

theorem mem_importsFor {m : Manifest} {binding expression module name : String} :
    (module, name) ∈ importsFor m binding expression ↔
      name ∈ Expression.identifiers expression ∧ name ≠ binding ∧ sourceOf? m name = some module := by
  simp only [importsFor, foreignNames, List.mem_filterMap, List.mem_filter, Option.map_eq_some_iff]
  constructor
  · rintro ⟨n, ⟨hn, hb⟩, module', hs, he⟩
    cases he
    exact ⟨hn, by simpa using hb, hs⟩
  · rintro ⟨hn, hb, hs⟩
    exact ⟨name, ⟨hn, by simpa using hb⟩, module, hs, rfl⟩

end AngularScaffold.Angular
