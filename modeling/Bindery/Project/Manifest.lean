import Bindery.Package.Settings
import Bindery.Project.Path
import Bindery.Toml.Reader

/-!
# Manifests

The settings file of a project: where its document is, where its output goes, and which
packages it has.
-/

namespace Bindery

structure ProjectSettings where
  declarations : Path
  outputDirectory : Path := "."
  pointerWidth : Nat := 8
  /-- Ending of the names of generated files. -/
  architecture : String := "amd64"

structure Manifest where
  project : ProjectSettings
  packages : List PackageSettings := []

inductive ManifestError where
  | malformed
  | pointerWidthZero
  | unnamedPackage
  deriving DecidableEq, Repr

namespace Manifest

def fileName : String := "cbridge.toml"

/-! ## From TOML -/

abbrev Members := List (String × Toml)

def optional? {α : Type} (m : Members) (name : String) (default : α) (read : Toml → Option α) :
    Option α :=
  match m.lookup name with
  | some value => read value
  | none => some default

def projectOfToml? (v : Toml) : Option ProjectSettings := do
  let m ← v.record? ["declarations", "output-dir", "pointer-width", "arch"]
  pure {
    declarations := ← (← m.lookup "declarations").text?
    outputDirectory := ← optional? m "output-dir" "." Toml.text?
    pointerWidth := ← optional? m "pointer-width" 8 Toml.size?
    architecture := ← optional? m "arch" "amd64" Toml.text? }

def texts? : Toml → Option (List String) := Toml.array? Toml.text?

def someText? (v : Toml) : Option (Option String) := v.text?.map some

def packageMembers : List String :=
  ["name", "path", "headers", "pattern", "prefix", "excluded", "bool-types", "type-rules",
   "include", "cgo-directives", "go-file", "c-file", "h-file"]

def packageOfToml? (v : Toml) : Option PackageSettings := do
  let m ← v.record? packageMembers
  pure {
    name := ← optional? m "name" "" Toml.text?
    path := ← optional? m "path" "" Toml.text?
    headers := ← optional? m "headers" [] texts?
    pattern := ← optional? m "pattern" none someText?
    namePrefix := ← optional? m "prefix" none someText?
    excluded := ← optional? m "excluded" [] texts?
    truthTypes := ← optional? m "bool-types" [] texts?
    overrides := Dict.ofList (← optional? m "type-rules" [] (Toml.members? Toml.text?))
    includes := ← optional? m "include" [] texts?
    cgoDirectives := ← optional? m "cgo-directives" [] texts?
    goFile := ← optional? m "go-file" none someText?
    cFile := ← optional? m "c-file" none someText?
    hFile := ← optional? m "h-file" none someText? }

def ofToml? (v : Toml) : Option Manifest := do
  let m ← v.record? ["project", "package"]
  pure {
    project := ← (m.lookup "project").bind projectOfToml?
    packages := ← optional? m "package" [] (Toml.array? packageOfToml?) }

/-! ## Validity -/

def check (m : Manifest) : Except ManifestError Unit := do
  if m.project.pointerWidth = 0 then throw .pointerWidthZero
  if m.packages.any (·.name.isEmpty) then throw .unnamedPackage

def read (text : String) : Except ManifestError Manifest :=
  match (Toml.read? text).bind ofToml? with
  | some m => do
    m.check
    pure m
  | none => throw .malformed

/-! ## Paths -/

def declarationsPath (m : Manifest) (directory : Path) : Path :=
  directory.join m.project.declarations

def outputRoot (m : Manifest) (directory : Path) (override : Option Path) : Path :=
  override.getD (directory.join m.project.outputDirectory)

def package? (m : Manifest) (name : String) : Option PackageSettings :=
  m.packages.find? (·.name == name)

end Manifest

end Bindery
