import AngularScaffold.Angular.Delivery

namespace AngularScaffold.Command

open Angular

def unlines (ls : List String) : String :=
  String.join (ls.map (· ++ "\n"))

def plural (n : Nat) : String :=
  if n = 1 then "" else "s"

def counted (n : Nat) (noun : String) : String :=
  toString n ++ " " ++ noun ++ plural n

def createdReport (path : String) : String :=
  unlines ["Created " ++ path, "", "Next steps:", "  ngwrite check --config " ++ path,
    "  ngwrite bake --config " ++ path]

def classesLine (noun : String) (names : List String) : List String :=
  if names.isEmpty then [] else [counted names.length noun ++ ": " ++ ", ".intercalate names]

def summary (m : Manifest) : List String :=
  classesLine "component" m.components.keys ++ classesLine "directive" m.directives.keys ++
    classesLine "module" m.modules.keys ++
    (if m.routes.isEmpty then [] else [counted m.routes.length "route"]) ++
    (if m.application.isSome then ["application config"] else [])

def checkReport (path : String) (m : Manifest) (files : Nat) : String :=
  unlines (["✓ " ++ path ++ " is valid", "", "  " ++ m.project.name] ++
    m.project.description.toList.map ("  " ++ ·) ++ [""] ++ (summary m).map ("  " ++ ·) ++
    ["", "  " ++ counted files "file" ++ " would be generated"])

def fileReport (directory : String) (f : GeneratedFile) : String :=
  unlines ["── " ++ Files.join directory f.path ++ " ──", f.content]

def dryReport (directory : String) (files : List GeneratedFile) : String :=
  String.join (files.map (fileReport directory)) ++
    unlines ["── Summary ──", toString files.length ++ " files would be generated"]

def deliveryReport (project directory : String) (d : Delivery) : String :=
  unlines ([project, "", "Generated: " ++ directory ++ "/"] ++ d.written.map ("  + " ++ ·) ++
    (if d.skipped.isEmpty then []
      else ["", "Unchanged (already exist, use --force to overwrite):"] ++ d.skipped.map ("  = " ++ ·)))

end AngularScaffold.Command
