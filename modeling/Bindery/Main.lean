import Bindery.CommandLine

/-!
# The program

The command line on the real file system. Failures are reported on standard error.
-/

namespace Bindery

def succeeds (operation : IO Unit) : IO Bool := do
  try
    operation
    pure true
  catch _ => pure false

/-- Whether there is a file that is no directory, readable or not. -/
def isFileOnDisk (p : Path) : IO Bool := do
  try
    let handle ← IO.FS.Handle.mk p .read
    let _ ← handle.read 1
    pure true
  catch
    | .permissionDenied .. => pure true
    | _ => pure false

instance : FileSystem IO where
  isFile := isFileOnDisk
  read? p := do
    try pure (some (← IO.FS.readFile p))
    catch _ => pure none
  makeDirectories p := succeeds (IO.FS.createDirAll p)
  write p content := succeeds (IO.FS.writeFile p content)
  print := IO.print

end Bindery

def main (args : List String) : IO UInt32 := do
  let directory := (← IO.currentDir).toString
  let ending ← (Bindery.invoke directory args : IO Bindery.Ending)
  match ending with
  | .failure e => IO.eprintln ("error: " ++ e.message)
  | .misuse => IO.eprint Bindery.helpText
  | .success => pure ()
  return ending.code.toUInt32
