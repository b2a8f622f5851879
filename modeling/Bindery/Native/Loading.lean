import Bindery.Json.Reader
import Bindery.Native.Chain
import Bindery.Native.Decoder

/-!
# Loading documents

A document is accepted when it is closed: every identity it refers to is one of its own,
function identities differ, and callback hints fit their functions. Loading then fills in
the roots that typedefs leave out, which fails on an endless chain.
-/

namespace Bindery.Native

/-- The type nodes that a node refers to, in the order in which they are checked. -/
def TypeNode.references : TypeNode → List Identity
  | .array element .. => [element]
  | .struct c => c.fields.map (·.type)
  | .union c => c.fields.map (·.type)
  | .pointer pointee _ => [pointee]
  | .typedef t => t.base :: t.root.toList
  | .function f => f.returns :: f.arguments.map (·.type)
  | .qualified base => [base]
  | _ => []

namespace Document

variable (d : Document)

/-! ## Closedness -/

def checkType (place : Place) (id : Identity) : Except DocumentError Unit :=
  if d.types.contains id then pure () else throw (.unknownType id place)

/-- A declaration may be without a file; the file it names must be listed. -/
def checkFile (place : Place) (id : Identity) : Except DocumentError Unit :=
  if id.isEmpty || d.files.any (·.id == id) then pure () else throw (.unknownFile id place)

def checkNode (id : Identity) (node : TypeNode) : Except DocumentError Unit := do
  node.file?.toList.forM (d.checkFile (.type id))
  node.references.forM (d.checkType (.type id))

def CallbackHint.fits (h : CallbackHint) (arity : Nat) : Bool :=
  h.argIndex < arity && h.dataIndex < arity && h.argIndex != h.dataIndex

def checkHint (f : Function) : Except DocumentError Unit :=
  match f.callback with
  | some h =>
    if CallbackHint.fits h f.arguments.length then pure ()
    else throw (.callbackIndices f.name h.argIndex h.dataIndex f.arguments.length)
  | none => pure ()

def checkFunction (f : Function) : Except DocumentError Unit := do
  let place := Place.function f.name
  d.checkFile place f.file
  d.checkType place f.returns
  f.arguments.forM fun a => d.checkType place a.type
  checkHint f

/-- Checks functions one by one; `seen` are the identities of those before. -/
def checkFunctions (seen : List Identity) : List Function → Except DocumentError Unit
  | [] => pure ()
  | f :: rest => do
    if seen.contains f.id then throw (.duplicateFunction f.id)
    d.checkFunction f
    checkFunctions (f.id :: seen) rest

def checkVariable (v : Variable) : Except DocumentError Unit := do
  d.checkFile (.global v.name) v.file
  d.checkType (.global v.name) v.type

def checkClosed : Except DocumentError Unit := do
  d.types.entries.forM fun (id, node) => d.checkNode id node
  d.checkFunctions [] d.functions
  d.globals.forM d.checkVariable

/-! ## Roots of typedefs -/

def checkChain (id : Identity) (node : TypeNode) : Except DocumentError Unit :=
  match node with
  | .typedef { root := none, .. } => do let _ ← d.strip id; pure ()
  | _ => pure ()

def rooted (id : Identity) : TypeNode → TypeNode
  | .typedef t =>
    .typedef { t with root := t.root <|> (d.strip id).toOption.map (·.1) }
  | node => node

def resolveRoots : Except DocumentError Document := do
  d.types.entries.forM fun (id, node) => d.checkChain id node
  pure { d with types := d.types.mapValues d.rooted }

/-- Checks a decoded document and fills in its roots. -/
def accept : Except DocumentError Document := do
  d.checkClosed
  d.resolveRoots

end Document

def Document.read (text : String) : Except DocumentError Document :=
  match (Json.read? text).bind Document.ofJson? with
  | some d => d.accept
  | none => throw .malformed

end Bindery.Native
