import Bindery.Dict
import Bindery.Project.Path

/-!
# File trees

The files and directories that a command sees, as a value. An entry stands under its
location, the names on the way from the root; the root itself is always a directory.
-/

namespace Bindery

inductive FileEntry where
  | directory
  | file (content : String)
  deriving DecidableEq, Repr

abbrev Location := List String

def Location.text (l : Location) : String := String.join (l.map ("/" ++ ·))

structure FileTree where
  entries : Dict FileEntry := {}
  deriving Inhabited

namespace FileTree

def entry? (t : FileTree) (l : Location) : Option FileEntry :=
  if l.isEmpty then some .directory else t.entries.get? l.text

def isName (name : String) : Bool := name.utf8ByteSize ≤ 255 && !name.toList.contains '\x00'

def step (t : FileTree) (l : Location) (name : String) : Option Location :=
  match t.entry? l with
  | some .directory =>
    if Path.isIdle name then some l
    else if name == ".." then some l.dropLast
    else if isName name then some (l ++ [name])
    else none
  | _ => none

def locate? (t : FileTree) (p : Path) : Option Location := p.names.foldlM t.step []

def read? (t : FileTree) (p : Path) : Option String := do
  match ← t.entry? (← t.locate? p) with
  | .file content => some content
  | .directory => none

def isFile (t : FileTree) (p : Path) : Bool := (t.read? p).isSome

def write? (t : FileTree) (p : Path) (content : String) : Option FileTree := do
  let l ← t.locate? p
  if t.entry? l = some .directory then none
  else some { t with entries := t.entries.insert l.text (.file content) }

def enter? (t : FileTree) (l : Location) (name : String) : Option (FileTree × Location) := do
  let l ← t.step l name
  match t.entry? l with
  | some .directory => some (t, l)
  | some (.file _) => none
  | none => some ({ t with entries := t.entries.insert l.text .directory }, l)

/-- Makes the directories along some names, from a location on. The first result tells
whether all of them are directories now; those before a failure stay. -/
def enterAll (t : FileTree) (l : Location) : List String → Bool × FileTree
  | [] => (true, t)
  | name :: names =>
    match t.enter? l name with
    | some (t, l) => enterAll t l names
    | none => (false, t)

def makeDirectories (t : FileTree) (p : Path) : Bool × FileTree := t.enterAll [] p.names

def files (t : FileTree) : List (String × String) :=
  t.entries.entries.filterMap fun (l, e) =>
    match e with
    | .file content => some (l, content)
    | .directory => none

end FileTree

end Bindery
