import AngularScaffold.Command.Arguments
import AngularScaffold.Command.Report
import AngularScaffold.Manifest.Load

namespace AngularScaffold.Command

open Angular Files

inductive Failure where
  | misuse
  | manifest (why : Manifest.Error)
  | delivery (why : DeliveryError)
  | taken (path : String)

def Failure.message : Failure → String
  | misuse => "unknown, incomplete or superfluous arguments"
  | manifest why => why.message
  | delivery why => why.message
  | taken path => path ++ " already exists"

/-- What a command printed, unless it failed. A command that fails prints nothing. -/
abbrev Outcome := Except Failure String

namespace Outcome

def output : Outcome → String
  | .ok text => text
  | .error _ => ""

def exitCode : Outcome → UInt32
  | .ok _ => 0
  | .error .misuse => 2
  | .error _ => 1

end Outcome

variable {m : Type → Type} [Monad m]

def runInit (disk : Disk m) (path : String) : m Outcome := do
  match ← disk.save .ifMissing path Manifest.starter with
  | .written => return .ok (createdReport path)
  | .skipped => return .error (.taken path)
  | .failed => return .error (.delivery (.unwritable path))

def withManifest (disk : Disk m) (config : String) (next : Manifest → m Outcome) : m Outcome := do
  match ← Manifest.load disk config with
  | .error why => return .error (.manifest why)
  | .ok manifest => next manifest

def withFiles (manifest : Manifest) (next : List GeneratedFile → String) : Outcome :=
  match preview default manifest with
  | .error why => .error (.delivery (.ungenerated why))
  | .ok files => .ok (next files)

def run (disk : Disk m) : Command → m Outcome
  | .init path => runInit disk path
  | .check config => withManifest disk config fun manifest =>
    return withFiles manifest fun files => checkReport config manifest files.length
  | .bake config output true _ => withManifest disk config fun manifest =>
    return withFiles manifest (dryReport output)
  | .bake config output false force => withManifest disk config fun manifest => do
    match ← deliver disk (if force then .always else .ifMissing) output default manifest with
    | .error why => return .error (.delivery why)
    | .ok delivery => return .ok (deliveryReport manifest.project.name output delivery)

def versionReport : String := unlines ["ngwrite 0.3.0"]

def runArguments (disk : Disk m) (args : List String) : m Outcome :=
  match read args with
  | .ok command => run disk command
  | .error .version => return .ok versionReport
  | .error .misuse => return .error .misuse

end AngularScaffold.Command
