import AngularScaffold.Command.Run

namespace AngularScaffold

def succeeds {α : Type} (action : IO α) : IO Bool :=
  try
    let _ ← action
    return true
  catch _ => return false

def createDirectories (path : String) : IO Unit := do
  let directory := Files.parent path
  unless directory.isEmpty do
    IO.FS.createDirAll directory

def realDisk : Files.Disk IO where
  contains path := succeeds (IO.FS.realPath path)
  read? path := try return some (← IO.FS.readBinFile path) catch _ => return none
  write path content := succeeds do
    createDirectories path
    IO.FS.writeFile path content

end AngularScaffold

def main (args : List String) : IO UInt32 := do
  let outcome ← AngularScaffold.Command.runArguments AngularScaffold.realDisk args
  IO.print outcome.output
  if let .error why := outcome then
    IO.eprintln why.message
  return outcome.exitCode
