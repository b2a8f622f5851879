import Bindery.Lowering.Error
import Bindery.Managed.Spelling
import Bindery.Native.Query

/-!
# Lowering of types

From type nodes to descriptors. Structs, unions, enumerations and typedefs are added to
the registry when they are first met, and from then on a reference is enough. Between two
such types there are only arrays, pointers and qualifiers, so one lowering passes through
each node of the document at most once; this bounds its depth.
-/

namespace Bindery

open Native (Identity Document TypeNode PointerKind Fundamental)

structure LoweringRules where
  /-- Native type names with the managed number types that replace them. -/
  overrides : Dict String := {}
  /-- Native type names whose values are truth values. -/
  truthTypes : List String := []
  pointerWidth : Nat := 8

structure LoweringContext where
  document : Document
  rules : LoweringRules

/-- A computation that may add declarations to the registry. -/
abbrev Lowering := StateT Registry (Except BindingError)

namespace LoweringContext

variable (c : LoweringContext)

def override? (node : TypeNode) : Option Descriptor := do
  let name ← node.name?
  let managed ← c.rules.overrides.get? name
  let native := (node.fundamental?.map Fundamental.cgoName).getD ("C." ++ name)
  pure (.number managed native node.size)

def lowerFundamental (id : Identity) (name : String) (size : Nat) :
    Except BindingError Descriptor :=
  match Fundamental.ofName? name with
  | none => throw (.unsupportedType id (.unknownFundamental name))
  | some .void => pure .void
  | some .bool => pure (.number "bool" Fundamental.bool.cgoName size)
  | some f =>
    match f.numberClass?.bind fun k => managedNumber? k (size * 8) with
    | some managed => pure (.number managed f.cgoName size)
    | none => throw (.unsupportedType id (.noNumberType name size))

def register (standalone : Bool) (d : Declaration) : Lowering Descriptor := do
  modify fun r => (r.add { d with standalone }).2
  pure (.declared d.id)

def requireValue (place : String) (d : Descriptor) : Except BindingError Descriptor :=
  if d.isVoid then throw (.voidValue place) else pure d

def constantsOf (id : Identity) (e : Native.Enumeration) : List Constant :=
  e.values.map fun v =>
    { id := id ++ "::" ++ v.name, native := v.name, managed := "", value := v.value }

def synonymStrategy : TypeNode → Strategy
  | .fundamental .. => .cast
  | .enumeration _ => .cast
  | .pointer .. => .pointerReinterpret
  | _ => .valueReinterpret

/-- Whether a typedef with this root declares what it stands for. -/
def declaresLiteral : TypeNode → Bool
  | .enumeration _ => true
  | _ => false

/-- Lowers a node that is met for the first time; `inner` lowers the types within it. -/
def lowerNode (inner : Identity → Bool → Lowering Descriptor) (id : Identity) (standalone : Bool) :
    TypeNode → Lowering Descriptor
  | .fundamental name size => lowerFundamental id name size
  | .enumeration e =>
    match managedNumber? .signed (e.size * 8) with
    | some base =>
      register standalone
        { id, native := e.name, file := e.file, size := e.size
          shape := .enumeration base (constantsOf id e) }
    | none => throw (.unsupportedType id (.enumerationSize e.size))
  | .array element length _ => do
    let elem ← requireValue ("array '" ++ id ++ "'") (← inner element true)
    pure (.array elem length)
  | .struct s =>
    register standalone
      { id, native := s.name, file := s.file, size := s.size, shape := .struct none }
  | .union s =>
    register standalone
      { id, native := s.name, file := s.file, size := s.size, shape := .union none }
  | .pointer pointee _ => do pure (.pointer (← inner pointee true))
  | .typedef t => do
    let root := t.root.getD t.base
    let rootNode ← c.document.node root
    let literal ← inner t.base (declaresLiteral rootNode)
    if literal.isVoid then
      return .void
    let r ← get
    let size := if t.size == 0 then literal.size r c.rules.pointerWidth else t.size
    register standalone
      { id, native := t.name, file := t.file, size
        shape := .synonym literal root (synonymStrategy rootNode) }
  | .function _ => pure .opaqueFunction
  | .qualified base => inner base true
  | .unimplemented _ => pure .void
  | .unsupported => throw (.unsupportedType id .nodeKind)

/-- Lowers a type through at most `depth` nodes. A declared type is marked as standalone
unless it only serves as what a typedef stands for. -/
def lowerWithin : (depth : Nat) → Identity → (standalone : Bool) → Lowering Descriptor
  | 0, id, _ => throw (.document (.endlessType id))
  | depth + 1, id, standalone => do
    let known := (← get).contains id
    if known then
      modify fun r => r.modify id fun d => { d with standalone := d.standalone || standalone }
      return .declared id
    let node ← c.document.node id
    match c.override? node with
    | some d => pure d
    | none => c.lowerNode (lowerWithin depth) id standalone node

def lower (id : Identity) (standalone : Bool) : Lowering Descriptor :=
  c.lowerWithin (c.document.types.size + 1) id standalone

def declare (id : Identity) : Lowering Descriptor := c.lower id true

def value (id : Identity) (place : String) : Lowering Descriptor := do
  requireValue place (← c.declare id)

/-! ## Types of arguments and results -/

def isTruthType (node : TypeNode) : Bool := node.name?.any c.rules.truthTypes.contains

def lowerPlain (id : Identity) : Lowering Descriptor := do
  let node ← c.document.node id
  if c.isTruthType node then
    let d ← c.declare id
    let r ← get
    pure (.boolean (d.nativeName r) (d.size r c.rules.pointerWidth))
  else c.declare id

/-- Lowers a pointer to `pointee` as a pointer of one of the kinds that keep a target type. -/
def lowerTarget (pointee : Identity) (kind : PointerKind) : Lowering Descriptor := do
  let target ← c.declare pointee
  if target.isVoid then pure (.pointer .void)
  else
    match kind with
    | .array => pure (.slice target)
    | .output => pure (.outPointer target)
    | _ => pure (.pointer target)

/-- Lowers a pointer to an array of arrays; without a second pointer it is an array. -/
def lowerNested (id pointee : Identity) : Lowering Descriptor := do
  let (_, target) ← c.document.strip pointee
  match target with
  | .pointer inner _ => do pure (.sliceOfSlice (← c.value inner id))
  | _ => do pure (.slice (← c.value pointee id))

/-- Lowers the type of an argument as its pointer kind says. A kind on a type that is no
pointer has no effect. -/
def resolve (id : Identity) (kind : PointerKind) : Lowering Descriptor := do
  if kind = .unset then
    c.lowerPlain id
  else
    let (_, node) ← c.document.strip id
    match node with
    | .pointer pointee _ =>
      match kind with
      | .string => pure .string
      | .stringArray => pure .stringArray
      | .typedef => c.declare id
      | .arrayArray => c.lowerNested id pointee
      | kind => c.lowerTarget pointee kind
    | _ => c.declare id

/-- Lowers the type of a result; there is none for `void`, and C strings become strings. -/
def resolveReturn (id : Identity) : Lowering (Option Descriptor) := do
  if ← c.document.isVoid id then
    return none
  if ← c.document.isCString id then
    return some .string
  let d ← c.resolve id .unset
  pure (if d.isVoid then none else some d)

end LoweringContext

end Bindery
