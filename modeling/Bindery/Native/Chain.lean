import Bindery.Native.Error

/-!
# Chains of typedefs and qualifiers

A typedef stands for its base, a qualified node for the node it qualifies. `strip`
follows both kinds of step and `stripQualifiers` only the second. A chain that visits
no node twice has at most as many nodes as the document, so a walk that is longer never
ends; this is how an endless chain is told.
-/

namespace Bindery.Native.Document

variable (d : Document)

def node (id : Identity) : Except DocumentError TypeNode :=
  match d.types.get? id with
  | some node => .ok node
  | none => .error (.unknownType id .lookup)

def follow (next : TypeNode → Option Identity) (endless : DocumentError) :
    (steps : Nat) → Identity → Except DocumentError (Identity × TypeNode)
  | 0, _ => .error endless
  | steps + 1, id => do
    let node ← d.node id
    match next node with
    | some id => follow next endless steps id
    | none => pure (id, node)

/-- The first node behind `id` that is neither a typedef nor qualified. -/
def strip (id : Identity) : Except DocumentError (Identity × TypeNode) :=
  d.follow TypeNode.underlying? (.endlessTypedef id) (d.types.size + 1) id

def stripQualifiers (id : Identity) : Except DocumentError (Identity × TypeNode) :=
  d.follow TypeNode.unqualified? (.endlessType id) (d.types.size + 1) id

end Bindery.Native.Document
