import Bindery.Json.Magnitude
import Bindery.Json.Record
import Bindery.Native.Document

/-!
# Documents from JSON

The schema of declaration documents. A member with a default may be missing, every other
member must be there, and an unknown kind of type node is an unsupported node.
-/

namespace Bindery.Native

open Json

def PointerKind.ofName? : String → Option PointerKind
  | "unset" => some .unset
  | "plain" => some .plain
  | "array" => some .array
  | "array_array" => some .arrayArray
  | "string" => some .string
  | "string_array" => some .stringArray
  | "return" => some .output
  | "reference" => some .reference
  | "typedef" => some .typedef
  | _ => none

def SourceFile.ofJson? (v : Json) : Option SourceFile := do
  let r ← v.record? ["id", "name"]
  pure { id := ← r.required? "id" text?, name := ← r.required? "name" text? }

def Enumerator.ofJson? (v : Json) : Option Enumerator := do
  let r ← v.record? ["name", "value"]
  pure { name := ← r.required? "name" text?, value := ← r.required? "value" integer? }

def Enumeration.ofJson? (v : Json) : Option Enumeration := do
  let r ← v.record? ["name", "file", "size", "values"]
  pure {
    name := ← r.optional? "name" "" text?
    file := ← r.optional? "file" "" text?
    size := ← r.required? "size" size?
    values := ← r.optional? "values" [] (list? Enumerator.ofJson?) }

def Field.ofJson? (v : Json) : Option Field := do
  let r ← v.record? ["name", "type"]
  pure { name := ← r.optional? "name" "" text?, type := ← r.required? "type" text? }

def Composite.ofJson? (v : Json) : Option Composite := do
  let r ← v.record? ["name", "file", "size", "fields"]
  pure {
    name := ← r.optional? "name" "" text?
    file := ← r.optional? "file" "" text?
    size := ← r.required? "size" size?
    fields := ← r.optional? "fields" [] (list? Field.ofJson?) }

def Typedef.ofJson? (v : Json) : Option Typedef := do
  let r ← v.record? ["name", "file", "base", "root", "size"]
  pure {
    name := ← r.required? "name" text?
    file := ← r.optional? "file" "" text?
    base := ← r.required? "base" text?
    root := ← r.optional? "root" none (nullable? text?)
    size := ← r.optional? "size" 0 size? }

def Argument.ofJson? (isTypeNode : Bool) (v : Json) : Option Argument := do
  let r ← v.record? ["name", "type", "ptr_kind"]
  pure {
    name := ← r.optional? "name" "" text?
    type := ← r.required? "type" text?
    kind := ← r.optional? "ptr_kind" .unset (choice? isTypeNode PointerKind.ofName?) }

def FunctionType.ofJson? (v : Json) : Option FunctionType := do
  let r ← v.record? ["returns", "arguments"]
  pure {
    returns := ← r.required? "returns" text?
    arguments := ← r.optional? "arguments" [] (list? (Argument.ofJson? true)) }

def TypeNode.ofMembers? (kind : String) (v : Json) : Option TypeNode :=
  match kind with
  | "fundamental" => do
    let r ← v.record? ["name", "size"]
    pure (.fundamental (← r.required? "name" text?) (← r.optional? "size" 0 size?))
  | "enumeration" => (Enumeration.ofJson? v).map .enumeration
  | "array" => do
    let r ← v.record? ["element", "length", "size"]
    pure (.array (← r.required? "element" text?) (← r.required? "length" size?)
      (← r.optional? "size" 0 size?))
  | "struct" => (Composite.ofJson? v).map .struct
  | "union" => (Composite.ofJson? v).map .union
  | "pointer" => do
    let r ← v.record? ["pointee", "size"]
    pure (.pointer (← r.required? "pointee" text?) (← r.optional? "size" 0 size?))
  | "typedef" => (Typedef.ofJson? v).map .typedef
  | "function_type" => (FunctionType.ofJson? v).map .function
  | "cv_qualified" => do
    let r ← v.record? ["base"]
    pure (.qualified (← r.required? "base" text?))
  | "unimplemented" => do
    let r ← v.record? ["name"]
    pure (.unimplemented (← r.optional? "name" "" text?))
  | _ => (v.record? []).map fun _ => .unsupported

/-- How many lists and objects may stand inside one another in a type node. -/
def nodeDepth : Nat := 125

/-- A type node, all of which has to be sound because its kind may be its last member. -/
def TypeNode.ofJson? (v : Json) : Option TypeNode := do
  let (kind, members) ← v.tagged? "kind"
  if v.isSound nodeDepth then ofMembers? kind members else none

def CallbackHint.ofJson? (v : Json) : Option CallbackHint := do
  let r ← v.record? ["arg_index", "data_index", "callback_data_index"]
  pure {
    argIndex := ← r.required? "arg_index" size?
    dataIndex := ← r.required? "data_index" size?
    callbackDataIndex := ← r.required? "callback_data_index" size? }

def Function.ofJson? (v : Json) : Option Function := do
  let r ← v.record? ["id", "name", "file", "returns", "arguments", "variadic", "callback"]
  pure {
    id := ← r.required? "id" text?
    name := ← r.required? "name" text?
    file := ← r.optional? "file" "" text?
    returns := ← r.required? "returns" text?
    arguments := ← r.optional? "arguments" [] (list? (Argument.ofJson? false))
    variadic := ← r.optional? "variadic" false bool?
    callback := ← r.optional? "callback" none (nullable? CallbackHint.ofJson?) }

def Variable.ofJson? (v : Json) : Option Variable := do
  let r ← v.record? ["id", "name", "file", "type"]
  pure {
    id := ← r.required? "id" text?
    name := ← r.required? "name" text?
    file := ← r.optional? "file" "" text?
    type := ← r.required? "type" text? }

/-- Type nodes by identity; of two nodes of one identity the later counts. -/
def typesOfJson? : Json → Option (Dict TypeNode)
  | .object members =>
    (members.mapM fun m => (TypeNode.ofJson? m.2).map fun node => (m.1, node)).map Dict.ofList
  | _ => none

def Document.ofJson? (v : Json) : Option Document := do
  let r ← v.record? ["files", "types", "functions", "variables"]
  pure {
    files := ← r.optional? "files" [] (list? SourceFile.ofJson?)
    types := ← r.optional? "types" {} typesOfJson?
    functions := ← r.optional? "functions" [] (list? Function.ofJson?)
    globals := ← r.optional? "variables" [] (list? Variable.ofJson?) }

end Bindery.Native
