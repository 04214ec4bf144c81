import AngularScaffold.Angular.Generation
import AngularScaffold.Files.Disk

namespace AngularScaffold.Angular

open Files Layout

structure Delivery where
  written : List String := []
  skipped : List String := []
  deriving DecidableEq

namespace Delivery

def after (d : Delivery) (path : String) (kept : Bool) : Delivery :=
  if kept then ⟨d.written, path :: d.skipped⟩ else ⟨path :: d.written, d.skipped⟩

end Delivery

inductive DeliveryError where
  | ungenerated (why : GenerationError)
  | unwritable (path : String)
  deriving DecidableEq

def DeliveryError.message : DeliveryError → String
  | ungenerated why => why.message
  | unwritable path => "failed to write " ++ path

def saveAll {m : Type → Type} [Monad m] (disk : Disk m) (mode : Overwrite) (directory : String) :
    List GeneratedFile → m (Except DeliveryError Delivery)
  | [] => return .ok {}
  | f :: rest => do
    let path := join directory f.path
    match ← disk.save mode path f.content with
    | .failed => return .error (.unwritable path)
    | saved =>
      let others ← saveAll disk mode directory rest
      return others.map (·.after f.path (saved == .skipped))

def deliver {m : Type → Type} [Monad m] (disk : Disk m) (mode : Overwrite) (directory : String)
    (i : Indent) (manifest : Manifest) : m (Except DeliveryError Delivery) :=
  -- nothing is saved unless all files could be generated
  match preview i manifest with
  | .error why => return .error (.ungenerated why)
  | .ok files => saveAll disk mode directory files

end AngularScaffold.Angular
