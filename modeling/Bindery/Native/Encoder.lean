import Bindery.Json.Basic
import Bindery.Native.Document

/-!
# Documents as JSON

The full form of a document: every default is written out, an absent callback or root
is null, and a node of an unknown kind is written as `unsupported`.
-/

namespace Bindery.Native

def PointerKind.name : PointerKind → String
  | unset => "unset"
  | plain => "plain"
  | array => "array"
  | arrayArray => "array_array"
  | string => "string"
  | stringArray => "string_array"
  | output => "return"
  | reference => "reference"
  | typedef => "typedef"

def sizeJson (n : Nat) : Json := .whole n

def SourceFile.toJson (f : SourceFile) : Json :=
  .object [("id", .text f.id), ("name", .text f.name)]

def Enumerator.toJson (v : Enumerator) : Json :=
  .object [("name", .text v.name), ("value", .whole v.value)]

def Enumeration.members (e : Enumeration) : List (String × Json) :=
  [("name", .text e.name), ("file", .text e.file), ("size", sizeJson e.size),
   ("values", .list (e.values.map Enumerator.toJson))]

def Field.toJson (f : Field) : Json := .object [("name", .text f.name), ("type", .text f.type)]

def Composite.members (c : Composite) : List (String × Json) :=
  [("name", .text c.name), ("file", .text c.file), ("size", sizeJson c.size),
   ("fields", .list (c.fields.map Field.toJson))]

def Typedef.members (t : Typedef) : List (String × Json) :=
  [("name", .text t.name), ("file", .text t.file), ("base", .text t.base),
   ("root", t.root.elim .null .text), ("size", sizeJson t.size)]

def Argument.toJson (a : Argument) : Json :=
  .object [("name", .text a.name), ("type", .text a.type), ("ptr_kind", .text a.kind.name)]

def FunctionType.members (f : FunctionType) : List (String × Json) :=
  [("returns", .text f.returns), ("arguments", .list (f.arguments.map Argument.toJson))]

def TypeNode.members : TypeNode → List (String × Json)
  | .fundamental name size => [("name", .text name), ("size", sizeJson size)]
  | .enumeration e => e.members
  | .array element length size =>
    [("element", .text element), ("length", sizeJson length), ("size", sizeJson size)]
  | .struct c => c.members
  | .union c => c.members
  | .pointer pointee size => [("pointee", .text pointee), ("size", sizeJson size)]
  | .typedef t => t.members
  | .function f => f.members
  | .qualified base => [("base", .text base)]
  | .unimplemented name => [("name", .text name)]
  | .unsupported => []

def TypeNode.toJson (node : TypeNode) : Json :=
  .object (("kind", .text node.kindName) :: node.members)

def CallbackHint.toJson (h : CallbackHint) : Json :=
  .object [("arg_index", sizeJson h.argIndex), ("data_index", sizeJson h.dataIndex),
    ("callback_data_index", sizeJson h.callbackDataIndex)]

def Function.toJson (f : Function) : Json :=
  .object [("id", .text f.id), ("name", .text f.name), ("file", .text f.file),
    ("returns", .text f.returns), ("arguments", .list (f.arguments.map Argument.toJson)),
    ("variadic", .bool f.variadic), ("callback", f.callback.elim .null CallbackHint.toJson)]

def Variable.toJson (v : Variable) : Json :=
  .object [
    ("id", .text v.id),
    ("name", .text v.name),
    ("file", .text v.file),
    ("type", .text v.type)]

def Document.toJson (d : Document) : Json :=
  .object [("files", .list (d.files.map SourceFile.toJson)),
    ("types", .object (d.types.entries.map fun (id, node) => (id, node.toJson))),
    ("functions", .list (d.functions.map Function.toJson)),
    ("variables", .list (d.globals.map Variable.toJson))]

end Bindery.Native
