import Bindery.Native.Chain
import Bindery.Native.Fundamental

/-!
# Questions about a document

What a type is once typedefs and qualifiers are looked through, how C spells it, and
which files and enumerations a document has.
-/

namespace Bindery.Native

namespace TypeNode

def fundamental? : TypeNode → Option Fundamental
  | fundamental name _ => Fundamental.ofName? name
  | _ => none

end TypeNode

namespace Document

variable (d : Document)

/-! ## Types behind typedefs and qualifiers -/

def isVoid (id : Identity) : Except DocumentError Bool := do
  let (_, node) ← d.strip id
  pure (node.fundamental? == some .void)

def isVoidPointer (id : Identity) : Except DocumentError Bool := do
  let (_, node) ← d.strip id
  match node with
  | .pointer pointee _ => d.isVoid pointee
  | _ => pure false

def isCString (id : Identity) : Except DocumentError Bool := do
  let (_, node) ← d.strip id
  match node with
  | .pointer pointee _ =>
    let (_, target) ← d.strip pointee
    pure (target.fundamental? == some .char)
  | _ => pure false

/-- For a pointer to a function type, the function type and the name of the typedef
through which the pointer is declared, if it is declared through one. -/
def functionPointer? (id : Identity) :
    Except DocumentError (Option (Identity × Option String)) := do
  let (_, outer) ← d.stripQualifiers id
  let typedefName := match outer with
    | .typedef t => some t.name
    | _ => none
  let (_, node) ← d.strip id
  match node with
  | .pointer pointee _ =>
    let (target, node) ← d.strip pointee
    match node with
    | .function _ => pure (some (target, typedefName))
    | _ => pure none
  | _ => pure none

def functionType (id : Identity) : Except DocumentError FunctionType := do
  match ← d.node id with
  | .function f => pure f
  | node => throw (.notFunctionType id node.kindName)

/-! ## Spelling in C -/

def cSpellingWithin : (depth : Nat) → Identity → Except DocumentError String
  | 0, id => .error (.endlessType id)
  | depth + 1, id => do
    match ← d.node id with
    | .fundamental name _ => pure ((Fundamental.ofName? name).elim name Fundamental.cName)
    | .enumeration e => pure ("enum " ++ e.name)
    | .struct c => pure ("struct " ++ c.name)
    | .union c => pure ("union " ++ c.name)
    | .typedef t => pure t.name
    | .pointer pointee _ =>
      match ← d.node pointee with
      | .function _ => pure "void*"
      | _ => pure ((← cSpellingWithin depth pointee) ++ "*")
    | .array element .. => pure ((← cSpellingWithin depth element) ++ "*")
    | .qualified base => cSpellingWithin depth base
    | .function _ => pure "void*"
    | .unimplemented _ => pure "void*"
    | .unsupported => pure "void*"

/-- The C spelling of a type in a prototype. Arrays decay to pointers, and pointers to
functions are spelled as pointers to nothing. -/
def cSpelling (id : Identity) : Except DocumentError String :=
  d.cSpellingWithin (d.types.size + 1) id

/-! ## Files, enumerations, counts -/

/-- Whether a header as a manifest names it is the file `name`: the whole path or its
last components. -/
def headerNames (header name : String) : Bool :=
  name == header || ('/' :: header.toList.dropWhile (· == '/')).isSuffixOf name.toList

def filesMatching (headers : List String) : List Identity :=
  let files := d.files.filter fun f => headers.any fun h => headerNames h f.name
  (Dict.ofList (files.map fun f => (f.id, ()))).keys

def enumerations : List (Identity × Enumeration) :=
  d.types.entries.filterMap fun (id, node) =>
    match node with
    | .enumeration e => some (id, e)
    | _ => none

def kindCounts : Dict Nat :=
  d.types.values.foldl (fun counts node =>
    counts.insert node.kindName ((counts.get? node.kindName).getD 0 + 1)) {}

end Document

end Bindery.Native
