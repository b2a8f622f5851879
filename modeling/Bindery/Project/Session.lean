import Bindery.Project.Command
import Bindery.Project.FileTree

/-!
# Sessions

A file system as a value: a file tree, the current directory, and what has been printed.
On a session a command is a plain function from one value to the next.
-/

namespace Bindery

structure Session where
  tree : FileTree
  currentDirectory : Path
  output : String := ""
  deriving Inhabited

namespace Session

def absolute (s : Session) (p : Path) : Path := s.currentDirectory.join p

def pathLimit : Nat := 4095

def isPath (p : Path) : Bool := !p.isEmpty && p.utf8ByteSize ≤ pathLimit

def isFile (s : Session) (p : Path) : Bool := isPath p && s.tree.isFile (s.absolute p)

def read? (s : Session) (p : Path) : Option String :=
  if isPath p then s.tree.read? (s.absolute p) else none

def write? (s : Session) (p : Path) (content : String) : Option Session :=
  if isPath p then (s.tree.write? (s.absolute p) content).map fun tree => { s with tree }
  else none

/-- The empty path stands for the current directory here. -/
def makeDirectories (s : Session) (p : Path) : Bool × Session :=
  if p.isEmpty || isPath p then
    let (done, tree) := s.tree.makeDirectories (s.absolute p)
    (done, { s with tree })
  else (false, s)

end Session

instance : FileSystem (StateM Session) where
  isFile p := do return (← get).isFile p
  read? p := do return (← get).read? p
  makeDirectories p s := pure (s.makeDirectories p)
  write p content := do
    match (← get).write? p content with
    | some s =>
      set s
      return true
    | none => return false
  print text := modify fun s => { s with output := s.output ++ text }

end Bindery
