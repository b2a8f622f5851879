import Bindery.Callback.Trampoline
import Bindery.Managed.Method
import Bindery.Package.Settings

/-!
# Packages

A package with its share of the document and, once it is prepared, all that it declares.
-/

namespace Bindery

open Native (Identity Document)

structure ImportedPackage where
  name : String
  path : String
  deriving DecidableEq, Repr

structure Package where
  settings : PackageSettings
  document : Document
  filter : NameFilter
  rules : LoweringRules
  ownedFiles : List Identity
  scope : Scope := {}
  types : Registry := {}
  functions : List Wrapper := []
  globals : List GlobalVariable := []
  trampolines : List Trampoline := []
  imports : List ImportedPackage := []

namespace Package

def ofSettings (s : PackageSettings) (document : Document) (pointerWidth : Nat) :
    Except BindingError Package := do
  pure {
    settings := s
    document
    filter := ← s.filter
    rules := { overrides := s.overrides, truthTypes := s.truthTypes, pointerWidth }
    ownedFiles :=
      if s.headers.isEmpty then document.files.map (·.id) else document.filesMatching s.headers }

def name (p : Package) : String := p.settings.name

def context (p : Package) : LoweringContext := { document := p.document, rules := p.rules }

def owns (p : Package) (file : Identity) : Bool := p.ownedFiles.contains file

def excludes (p : Package) (native : String) : Bool := p.settings.excluded.contains native

def exports (p : Package) (native : String) (file : Identity) : Bool :=
  !native.isEmpty && !p.excludes native && p.owns file && p.filter.accepts native

/-- The name under which the package declares the type that an identity refers to. -/
def globalName? (p : Package) (id : Identity) : Option String :=
  ((p.types.target? id).filter (·.isEmitted)).map (·.managed)

end Package

end Bindery
