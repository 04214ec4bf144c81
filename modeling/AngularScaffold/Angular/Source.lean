import AngularScaffold.Angular.Property
import AngularScaffold.Layout.Draft

namespace AngularScaffold.Angular

open Layout TypeScript

def propertyLines : List Property → List String
  | [] => []
  | [p] => [p.key ++ ": " ++ p.text]
  | p :: rest => (p.key ++ ": " ++ p.text ++ ",") :: propertyLines rest

def propertyPieces (level : Nat) (properties : List Property) : List Piece :=
  (propertyLines properties).map (line level)

def configPieces (s : Shape) (config : Config) (level : Nat) : Except PropertyError (List Piece) :=
  (s.properties config).map (propertyPieces level)

def decorated (name : String) (level : Nat) (inner : List Piece) : List Piece :=
  line level ("@" ++ name ++ "(\x7b") :: (inner ++ [line level "\x7d)"])

def decoratorPieces (kind : ClassKind) (config : Config) (level : Nat) :
    Except PropertyError (List Piece) :=
  (configPieces (.ofClass kind) config (level + 1)).map (decorated kind.decorator level)

def routePieces (level : Nat) (r : Route) : List Piece :=
  [line level "\x7b",
   line (level + 1) ("path: " ++ quote r.path ++ ","),
   line (level + 1) ("component: " ++ r.component),
   line level "\x7d,"]

def routeTable (level : Nat) (routes : List Route) : List Piece :=
  line level "export const routes: Routes = [" ::
    (routes.flatMap (routePieces (level + 1)) ++ [line level "];"])

@[simp] theorem length_propertyLines (ps : List Property) : (propertyLines ps).length = ps.length := by
  fun_induction propertyLines ps with
  | case1 => rfl
  | case2 => rfl
  | case3 p rest _ ih => simp [ih]

theorem length_routeTable (level : Nat) (routes : List Route) :
    (routeTable level routes).length = 4 * routes.length + 2 := by
  have h : (routes.flatMap (routePieces (level + 1))).length = 4 * routes.length := by
    induction routes with
    | nil => rfl
    | cons r rest ih =>
      simp only [List.flatMap_cons, List.length_append, ih, routePieces, List.length_cons,
        List.length_nil]
      omega
  simp [routeTable, h]

end AngularScaffold.Angular
