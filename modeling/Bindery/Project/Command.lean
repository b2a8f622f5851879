import Bindery.Native.Loading
import Bindery.Project.Listing
import Bindery.Project.Output
import Bindery.Workspace

/-!
# Commands

The commands of a project over any file system. A command reads the manifest and the
document first, does all of its work on values, and then performs its actions.
-/

namespace Bindery

open Native (Document)

class FileSystem (m : Type → Type) where
  isFile : Path → m Bool
  read? : Path → m (Option String)
  makeDirectories : Path → m Bool
  write : Path → String → m Bool
  print : String → m Unit

inductive Command where
  | generate (manifest : Option Path) (packages : List String) (outputDirectory : Option Path)
      (dryRun : Bool)
  | inspect (manifest : Option Path) (package : String) (format : Option String)
  | decls (input : Path)
  deriving DecidableEq, Repr

section

variable {m : Type → Type} [Monad m] [FileSystem m]

def requireDone (possible : m Bool) (e : CommandError) : ExceptT CommandError m Unit := do
  if !(← possible) then throw e

def Action.perform : Action → ExceptT CommandError m Unit
  | .makeDirectories path => requireDone (FileSystem.makeDirectories path) (.creating path)
  | .write path content => requireDone (FileSystem.write path content) (.writing path)
  | .print text => (FileSystem.print text : m Unit)
  | .fail e => throw e

/-! ## Manifests -/

def loadManifest (path : Path) : ExceptT CommandError m Manifest := do
  match ← (FileSystem.read? path : m (Option String)) with
  | none => throw (.readingManifest path)
  | some text =>
    match Manifest.read text with
    | .ok manifest => pure manifest
    | .error e => throw (.manifest path e)

def findManifest? : List Path → ExceptT CommandError m (Option (Manifest × Path))
  | [] => pure none
  | directory :: rest => do
    let candidate := directory.join Manifest.fileName
    if ← (FileSystem.isFile candidate : m Bool) then
      pure (some (← loadManifest candidate, directory))
    else findManifest? rest

/-- The manifest of a project and the directory of the project. Without a path the manifest
is looked for in the current directory and upward. -/
def locateManifest (path : Option Path) (currentDirectory : Path) :
    ExceptT CommandError m (Manifest × Path) := do
  match path with
  | some path => do
    let manifest ← loadManifest path
    pure (manifest, path.parent?.getD currentDirectory)
  | none =>
    match ← findManifest? currentDirectory.upward with
    | some found => pure found
    | none => throw (.manifestNotFound currentDirectory)

/-! ## Documents and packages -/

def loadDocument (path : Path) : m (Except Native.DocumentError Document) := do
  match ← FileSystem.read? path with
  | none => pure (.error .unreadable)
  | some text => pure (Document.read text)

def preparePackages (manifest : Manifest) (directory : Path) (names : List String) :
    ExceptT CommandError m (List Package) := do
  let path := manifest.declarationsPath directory
  let document ← match ← (loadDocument path : m _) with
    | .ok document => pure document
    | .error e => throw (.loadingDeclarations path e)
  let w : Workspace :=
    { document, packages := manifest.packages, pointerWidth := manifest.project.pointerWidth }
  match if names.isEmpty then w.prepare else w.prepareOnly names with
  | .ok packages => pure packages
  | .error e => throw (.preparing e)

/-! ## The commands -/

def generate (manifest : Manifest) (directory : Path) (names : List String)
    (outputDirectory : Option Path) (dryRun : Bool) : ExceptT CommandError m Unit := do
  let packages ← preparePackages manifest directory names
  let architecture := manifest.project.architecture
  let actions :=
    if dryRun then dryGeneration packages architecture
    else generation packages architecture (manifest.outputRoot directory outputDirectory)
  actions.forM Action.perform

def Emission.export (e : Emission) (format : Option String) : Except CommandError String :=
  match format.getD "text" with
  | "json" => pure e.jsonListing
  | "text" => pure e.listing
  | other => throw (.unknownFormat other)

def inspect (manifest : Manifest) (directory : Path) (package : String) (format : Option String) :
    ExceptT CommandError m Unit := do
  match ← preparePackages manifest directory [package] with
  | [] => throw (.notPrepared package)
  | p :: _ =>
    match (Emission.ofPackage p).export format with
    | .ok text => (FileSystem.print text : m Unit)
    | .error e => throw e

def summarize (input : Path) : ExceptT CommandError m Unit := do
  match ← (loadDocument input : m _) with
  | .ok document => (FileSystem.print (document.listing input) : m Unit)
  | .error e => throw (.loadingDocument input e)

def Command.run (currentDirectory : Path) : Command → ExceptT CommandError m Unit
  | .generate manifest packages outputDirectory dryRun => do
    let (manifest, directory) ← locateManifest manifest currentDirectory
    Bindery.generate manifest directory packages outputDirectory dryRun
  | .inspect manifest package format => do
    let (manifest, directory) ← locateManifest manifest currentDirectory
    Bindery.inspect manifest directory package format
  | .decls input => summarize input

end

end Bindery
