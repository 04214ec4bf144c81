import AngularScaffold.Files.Tree

namespace AngularScaffold.Files

structure Disk (m : Type → Type) where
  contains : String → m Bool
  read? : String → m (Option ByteArray)
  write : String → String → m Bool

inductive Overwrite where
  | always
  | ifMissing
  deriving DecidableEq

inductive Saved where
  | written
  | skipped
  | failed
  deriving DecidableEq

def Disk.save {m : Type → Type} [Monad m] (disk : Disk m) (mode : Overwrite) (path content : String) :
    m Saved := do
  let keep ← match mode with
    | .always => pure false
    | .ifMissing => disk.contains path
  if keep then return .skipped
  let done ← disk.write path content
  return if done then .written else .failed

def FileTree.disk : Disk (StateM FileTree) where
  contains path := fun t => (t.contains path, t)
  read? path := fun t => (t.read? path, t)
  write path content := fun t => ((t.write path content.toUTF8).2, (t.write path content.toUTF8).1)

end AngularScaffold.Files
