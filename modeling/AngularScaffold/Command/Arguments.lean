import AngularScaffold.Manifest.Basic

namespace AngularScaffold.Command

inductive SwitchKind where
  | flag
  | count
  | value
  | version
  deriving DecidableEq

structure Switch where
  name : String
  letter : Option Char
  kind : SwitchKind

abbrev Given := List (String × String)

inductive Stop where
  | misuse
  | version
  deriving DecidableEq

def Switch.note (s : Switch) (value : String) (given : Given) : Except Stop Given :=
  -- only a count may be given twice
  if s.kind != .count && given.any (·.1 == s.name) then .error .misuse
  else .ok (given ++ [(s.name, value)])

def Switch.noteValue (s : Switch) (value : String) (given : Given) : Except Stop Given :=
  if value.isEmpty then .error .misuse else s.note value given

def withoutEquals : List Char → List Char
  | '=' :: cs => cs
  | cs => cs

def readLetters (switches : List Switch) (given : Given) : List Char → Except Stop (Given × Option Switch)
  -- the switch in the answer is one that still needs a value
  | [] => .ok (given, none)
  | c :: cs =>
    match switches.find? (·.letter == some c) with
    | none => .error .misuse
    | some s =>
      match s.kind with
      | .version => .error .version
      | .value =>
        if cs.isEmpty then .ok (given, some s)
        else (s.noteValue (String.ofList (withoutEquals cs)) given).map (·, none)
      | _ => (s.note "" given).bind fun given => readLetters switches given cs

def readName (switches : List Switch) (given : Given) (cs : List Char) :
    Except Stop (Given × Option Switch) :=
  let name := String.ofList (cs.takeWhile (· != '='))
  let attached := cs.dropWhile (· != '=')
  match switches.find? (·.name == name) with
  | none => .error .misuse
  | some s =>
    if s.kind = .value then
      if attached.isEmpty then .ok (given, some s)
      else (s.noteValue (String.ofList (attached.drop 1)) given).map (·, none)
    else if !attached.isEmpty then .error .misuse
    else if s.kind = .version then .error .version
    else (s.note "" given).map (·, none)

def isSwitch (arg : String) : Bool :=
  arg.toList.head? == some '-' && arg != "-"

def readSwitch (switches : List Switch) (given : Given) (arg : String) :
    Except Stop (Given × Option Switch) :=
  match arg.toList with
  | '-' :: '-' :: cs => readName switches given cs
  | _ :: cs => readLetters switches given cs
  | [] => .error .misuse

def readSwitches (switches : List Switch) (given : Given) : List String →
    Except Stop (Given × List String)
  -- up to the first argument that is no switch, or up to two dashes alone
  | [] => .ok (given, [])
  | arg :: rest =>
    if !isSwitch arg || arg == "--" then .ok (given, arg :: rest)
    else
      match readSwitch switches given arg with
      | .error stop => .error stop
      | .ok (given, none) => readSwitches switches given rest
      | .ok (given, some s) =>
        match rest with
        | [] => .error .misuse
        | value :: rest =>
          if isSwitch value then .error .misuse
          else match s.noteValue value given with
            | .error stop => .error stop
            | .ok given => readSwitches switches given rest

def readAll (switches : List Switch) (args : List String) : Except Stop Given :=
  match readSwitches switches [] args with
  | .error stop => .error stop
  | .ok (given, rest) => if rest = [] ∨ rest = ["--"] then .ok given else .error .misuse

def Given.value (given : Given) (name default : String) : String :=
  (Pairs.get? name given).getD default

def Given.has (given : Given) (name : String) : Bool :=
  (Pairs.get? name given).isSome

def verbose : Switch := ⟨"verbose", some 'v', .count⟩

end Command

inductive Command where
  | init (path : String)
  | check (config : String)
  | bake (config output : String) (dryRun force : Bool)
  deriving DecidableEq

namespace Command

def read (args : List String) : Except Stop Command :=
  match readSwitches [verbose, ⟨"version", some 'V', .version⟩] [] args with
  | .error stop => .error stop
  | .ok (_, "init" :: args) =>
    (readAll [verbose, ⟨"path", some 'p', .value⟩] args).map fun given =>
      .init (given.value "path" Manifest.defaultPath)
  | .ok (_, "check" :: args) =>
    (readAll [verbose, ⟨"config", some 'c', .value⟩] args).map fun given =>
      .check (given.value "config" Manifest.defaultPath)
  | .ok (_, "bake" :: args) =>
    (readAll [verbose, ⟨"config", some 'c', .value⟩, ⟨"output", some 'o', .value⟩,
        ⟨"dry-run", none, .flag⟩, ⟨"force", some 'f', .flag⟩] args).map fun given =>
      .bake (given.value "config" Manifest.defaultPath) (given.value "output" "src/app")
        (given.has "dry-run") (given.has "force")
  -- help and completions are left out: their texts are not made by the program itself
  | .ok _ => .error .misuse

end Command

end AngularScaffold
