import AngularScaffold.Proofs.Angular.Deliveries
import AngularScaffold.Proofs.Command.Invocations

namespace AngularScaffold.Command

open Angular Files

variable {config directory : String} {t : FileTree} {m : Manifest} {files : List GeneratedFile}

theorem invoke_check {args : List String} (hread : read args = .ok (.check config)) (hm : loaded t config = .ok m) :
    invoke args t = (withFiles m fun files => checkReport config m files.length, t) := by
  rw [invoke_eq hread, run, run_withManifest hm]
  rfl

def study : FileTree :=
  .ofFiles ["work"] [("diary.toml", diary.toUTF8), ("out/entry.component.ts", "by hand".toUTF8)]

end AngularScaffold.Command
