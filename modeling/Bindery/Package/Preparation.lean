import Bindery.Lowering.Members
import Bindery.Package.Naming
import Bindery.Package.Supersession

/-!
# Preparation of packages

First everything that the package exports is lowered: functions with their callbacks,
variables, the enumerations it owns, and all members. Then typedefs take their places,
names are given, and functions become methods.
-/

namespace Bindery

open Native (Identity)

/-! ## Lowering -/

/-- The trampolines of a package so far, and their names by signature key. -/
structure TrampolinePool where
  trampolines : List Trampoline := []
  names : Scope := {}

namespace Package

variable (p : Package)

def wantedFunctions : List Native.Function :=
  p.document.functions.filter fun f => !f.variadic && p.exports f.name f.file

def wantedVariables : List Native.Variable :=
  p.document.globals.filter fun v => p.exports v.name v.file

/-- The enumerations that the package declares whether or not anything refers to them. -/
def wantedEnumerations : List Identity :=
  (p.document.enumerations.filter fun (_, e) => p.owns e.file && !p.excludes e.name).map (·.1)

/-- The trampoline for a site, a new one if no earlier one has its signature key. -/
def trampolineFor (f : Native.Function) (site : CallbackSite) (pool : TrampolinePool) :
    Lowering (Trampoline × TrampolinePool) := do
  let key ← site.signatureKey p.document
  match pool.trampolines.find? (·.key == key) with
  | some t => pure (t, pool)
  | none =>
    let (name, names) := pool.names.resolve key (site.trampolineName p.filter f.name)
    let t ← p.context.buildTrampoline site name
    pure (t, { trampolines := pool.trampolines ++ [t], names })

def lowerWanted (f : Native.Function) (pool : TrampolinePool) :
    Lowering (Wrapper × TrampolinePool) := do
  let w ← p.context.lowerFunction f
  match ← CallbackSite.detect p.document f with
  | some site =>
    let (t, pool) ← p.trampolineFor f site pool
    pure (w.attach site t, pool)
  | none => pure (w, pool)

def lowerAllWanted :
    List Native.Function → TrampolinePool → Lowering (List Wrapper × TrampolinePool)
  | [], pool => pure ([], pool)
  | f :: rest, pool => do
    let (w, pool) ← p.lowerWanted f pool
    let (ws, pool) ← lowerAllWanted rest pool
    pure (w :: ws, pool)

structure Lowered where
  wrappers : List Wrapper
  globals : List GlobalVariable
  trampolines : List Trampoline

def lowerShare : Lowering Lowered := do
  let (wrappers, pool) ← p.lowerAllWanted p.wantedFunctions {}
  let globals ← p.wantedVariables.mapM p.context.lowerVariable
  p.wantedEnumerations.forM fun id => do
    let _ ← p.context.declare id
  let _ ← p.context.populate
  pure { wrappers, globals, trampolines := pool.trampolines }

/-! ## Names -/

def assignNames (included : List Package) (lowered : Lowered) (r : Registry) : Package :=
  let r := p.supersede r
  let (r, scope) := p.nameTypes included r.keys r {}
  let (r, scope) := p.nameAllConstants r.keys r scope
  let (functions, r, scope) := p.bindFunctions lowered.wrappers r scope
  let r := r.mapValues fun _ d => d.shortenMethodNames
  let (globals, scope) := p.nameVariables lowered.globals scope
  { p with
    scope, functions, globals, types := r, trampolines := lowered.trampolines
    imports := included.map fun q => { name := q.name, path := q.settings.path } }

/-- Prepares the package. It may refer to the types of the included packages, which have
been prepared before. -/
def prepare (included : List Package) : Except BindingError Package := do
  let (lowered, r) ← p.lowerShare.run {}
  pure (p.assignNames included lowered r)

end Package

end Bindery
