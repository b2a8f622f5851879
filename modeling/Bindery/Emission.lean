import Bindery.Package.Basic

/-!
# What a package declares

The declarations of a prepared package that go into its files, each kind sorted by name,
and their numbers.
-/

namespace Bindery

structure Statistics where
  globals : Nat := 0
  types : Nat := 0
  functions : Nat := 0
  methods : Nat := 0
  trampolines : Nat := 0
  deriving DecidableEq, Repr

namespace Statistics

def total (s : Statistics) : Nat := s.globals + s.types + s.functions + s.methods + s.trampolines

def summary (s : Statistics) : String := toString s.total ++ " declarations wrapped"

def add (s t : Statistics) : Statistics :=
  { globals := s.globals + t.globals
    types := s.types + t.types
    functions := s.functions + t.functions
    methods := s.methods + t.methods
    trampolines := s.trampolines + t.trampolines }

instance : Zero Statistics := ⟨{}⟩
instance : Add Statistics := ⟨add⟩

end Statistics

/-- Sorts by a text; items of one text keep their order. -/
def sortByText {α : Type} (key : α → String) (l : List α) : List α :=
  l.mergeSort fun a b => decide (key a ≤ key b)

/-- What a declaration is sorted by: its name, or its native name if it has none. -/
def sortKey (managed native : String) : String := if managed.isEmpty then native else managed

structure Emission where
  package : Package
  globals : List GlobalVariable
  types : List Declaration
  functions : List Wrapper
  trampolines : List Trampoline

namespace Emission

def keeps (p : Package) (managed native : String) : Bool :=
  !managed.isEmpty && !Declaration.isQualified managed && !p.excludes native

/-- The declarations of a prepared package. A variable is left out if no single statement
can initialise it. -/
def ofPackage (p : Package) : Emission where
  package := p
  globals := sortByText (fun v => sortKey v.managed v.native) <|
    p.globals.filter fun v => keeps p v.managed v.native && (v.initializer? p.types).isSome
  types := sortByText (fun d => sortKey d.managed d.native) <|
    p.types.values.filter fun d => d.isEmitted && !p.excludes d.native
  functions := sortByText (fun w => sortKey w.managed w.native) <|
    p.functions.filter fun w => keeps p w.managed w.native
  trampolines := sortByText (·.name) p.trampolines

end Emission

def Declaration.sortedMethods (d : Declaration) : List Wrapper := sortByText (·.managed) d.methods

namespace Emission

def statistics (e : Emission) : Statistics where
  globals := e.globals.length
  types := e.types.length
  functions := e.functions.length
  methods := (e.types.flatMap fun d => d.methods).length
  trampolines := e.trampolines.length

end Emission

end Bindery
