import Bindery.Project.Error
import Bindery.Render.Stub

/-!
# Output of a generation

What a generation does once the packages are prepared: an ordered list of actions on the
file system and the terminal. Performing it stops at the first action that fails.
-/

namespace Bindery

inductive Action where
  | makeDirectories (path : Path)
  | write (path : Path) (content : String)
  | print (text : String)
  | fail (e : CommandError)
  deriving DecidableEq, Repr

structure OutputFiles where
  go : String
  c : String
  h : String
  deriving DecidableEq, Repr

/-- The names that the package asks for, by default the architecture with each ending. -/
def PackageSettings.outputFiles (s : PackageSettings) (architecture : String) : OutputFiles :=
  let name (ending : String) : String := "auto_" ++ architecture ++ "." ++ ending
  { go := s.goFile.getD (name "go"), c := s.cFile.getD (name "c"), h := s.hFile.getD (name "h") }

namespace Emission

variable (e : Emission)

def writeOr (path : Path) (text : Except BindingError String)
    (failure : BindingError → CommandError) : Action :=
  match text with
  | .ok text => .write path text
  | .error e => .fail (failure e)

/-- The C files, which only a package with trampolines has. -/
def stubActions (directory : Path) (files : OutputFiles) : List Action :=
  if e.trampolines.isEmpty then []
  else
    [writeOr (directory.join files.c) e.cSource (.renderingStubs e.package.name),
     writeOr (directory.join files.h) e.cHeader (.renderingHeader e.package.name)]

def writtenPaths (directory : Path) (files : OutputFiles) : List Path :=
  directory.join files.go
    :: (if e.trampolines.isEmpty then [] else [directory.join files.c, directory.join files.h])

def writeActions (directory : Path) (files : OutputFiles) : List Action :=
  [.makeDirectories directory, .write (directory.join files.go) (e.goSource (some files.h))]
    ++ e.stubActions directory files
    ++ (e.writtenPaths directory files).map (fun path => .print ("  wrote " ++ path ++ "\n"))
    ++ [.print (e.package.name ++ ": " ++ e.statistics.summary ++ "\n")]

end Emission

def generation (packages : List Package) (architecture : String) (root : Path) : List Action :=
  let emissions := packages.map Emission.ofPackage
  let total := (emissions.map (·.statistics)).sum
  emissions.flatMap (fun e =>
      e.writeActions (root.join e.package.name) (e.package.settings.outputFiles architecture))
    ++ [.print
      ("Generated " ++ toString packages.length ++ " package(s): " ++ total.summary ++ "\n")]

def dryGeneration (packages : List Package) (architecture : String) : List Action :=
  (packages.map Emission.ofPackage).map fun e =>
    .print (e.goSource (some (e.package.settings.outputFiles architecture).h))

end Bindery
