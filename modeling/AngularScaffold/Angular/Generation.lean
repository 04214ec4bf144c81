import AngularScaffold.Angular.Resolution
import AngularScaffold.Angular.Source
import AngularScaffold.TypeScript.CodeFile

namespace AngularScaffold.Angular

open Layout TypeScript

structure SourceFile where
  stem : String
  binding : String
  uses : List (String × String)
  body : List Piece

namespace SourceFile

def path (f : SourceFile) : String :=
  f.stem ++ ".ts"

def pieces (f : SourceFile) : List Piece :=
  CodeFile.pieces ⟨(ImportTable.empty.addAll f.uses).imports, [f.body]⟩

end SourceFile

def expressions (s : Shape) (config : Config) : List String :=
  (s.references config).map Value.write

def classExpressions (d : Declaration) : List String :=
  expressions (.ofClass d.kind) d.config

def routeExpressions (m : Manifest) : List String :=
  m.routes.map (·.component)

def importsForAll (m : Manifest) (binding : String) (es : List String) : List (String × String) :=
  es.flatMap (importsFor m binding)

def classFile (m : Manifest) (d : Declaration) : Except PropertyError SourceFile := do
  let decorator ← decoratorPieces d.kind d.config 0
  let tables := (Shape.enumTables (.ofClass d.kind) d.config).map (·.name)
  .ok {
    stem := d.stem
    binding := d.name
    uses := (d.kind.decorator :: tables).map (coreModule, ·) ++
      importsForAll m d.name (classExpressions d)
    body := decorator ++ [line 0 (classLine d.name)] }

def routesFile (m : Manifest) : SourceFile where
  stem := routesStem
  binding := routesName
  uses := (routerModule, "Routes") :: importsForAll m routesName (routeExpressions m)
  body := routeTable 0 m.routes

def configFile (m : Manifest) (config : Config) : Except PropertyError SourceFile := do
  let properties ← configPieces .application config 1
  .ok {
    stem := configStem
    binding := configName
    uses := (coreModule, "ApplicationConfig") ::
      importsForAll m configName (expressions .application config)
    body := line 0 "export const appConfig: ApplicationConfig = \x7b" ::
      (properties ++ [line 0 "\x7d;"]) }

structure GenerationError where
  subject : String
  name : String
  cause : PropertyError
  deriving DecidableEq

namespace GenerationError

def message (e : GenerationError) : String :=
  "cannot generate " ++ e.subject ++ " '" ++ e.name ++ "'"

def code (_ : GenerationError) : String :=
  "ngwrite::class_config"

end GenerationError

def classFiles (m : Manifest) : List Declaration → Except GenerationError (List SourceFile)
  | [] => .ok []
  | d :: rest => do
    let file ← (classFile m d).mapError (⟨d.kind.name, d.name, ·⟩)
    let files ← classFiles m rest
    .ok (file :: files)

def routesFiles (m : Manifest) : List SourceFile :=
  if m.routes.isEmpty then [] else [routesFile m]

def configFiles (m : Manifest) : Except GenerationError (List SourceFile) :=
  match m.application with
  | none => .ok []
  | some config => do
    let file ← (configFile m config).mapError (⟨"application config", configName, ·⟩)
    .ok [file]

def sourceFiles (m : Manifest) : Except GenerationError (List SourceFile) := do
  let classes ← classFiles m m.classes
  let config ← configFiles m
  .ok ((classes ++ routesFiles m ++ config).mergeSort fun a b => Text.noLater a.path b.path)

structure GeneratedFile where
  path : String
  content : String
  deriving DecidableEq

def SourceFile.generate (i : Indent) (f : SourceFile) : GeneratedFile :=
  ⟨f.path, render i f.pieces⟩

def preview (i : Indent) (m : Manifest) : Except GenerationError (List GeneratedFile) :=
  (sourceFiles m).map (·.map (·.generate i))

def warnings (m : Manifest) : List Warning :=
  (m.classes.flatMap fun d => (classExpressions d).flatMap (warningsFor m d.name)) ++
    (routeExpressions m).flatMap (warningsFor m routesName) ++
    (m.application.toList.flatMap fun config =>
      (expressions .application config).flatMap (warningsFor m configName))

end AngularScaffold.Angular
