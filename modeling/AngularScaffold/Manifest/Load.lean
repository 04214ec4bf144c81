import AngularScaffold.Files.Disk
import AngularScaffold.Manifest.Read

namespace AngularScaffold.Manifest

open Files

def load {m : Type → Type} [Monad m] (disk : Disk m) (path : String) : m (Except Error Manifest) := do
  match (← disk.read? path).bind String.fromUTF8? with
  | some source => return read path source
  | none => return .error (.unreadable path)

end AngularScaffold.Manifest
