import Bindery.Toml.Basic

/-!
# Tables under construction

A settings file builds its tables piece by piece: headers open tables, dotted keys go
through tables, and no table may be defined twice. A table that is only implied by the
names of others may still be defined once.
-/

namespace Bindery.Toml

inductive Node where
  | value (v : Toml)
  /-- A table; `implied` if nothing has defined it, `dotted` if a dotted key has made it. -/
  | table (implied dotted : Bool) (items : List (String × Node))
  /-- An array of tables, of which the last is open. -/
  | tables (done : List (List (String × Node))) (last : List (String × Node))
  deriving Inhabited

structure OpenTable where
  implied : Bool
  dotted : Bool
  items : List (String × Node)

def emptyRoot : OpenTable := { implied := false, dotted := false, items := [] }

def setItem (key : String) (node : Node) : List (String × Node) → List (String × Node)
  | [] => [(key, node)]
  | (k, n) :: rest => if k = key then (key, node) :: rest else (k, n) :: setItem key node rest

def OpenTable.set (t : OpenTable) (key : String) (node : Node) : OpenTable :=
  { t with items := setItem key node t.items }

def OpenTable.node (t : OpenTable) : Node := .table t.implied t.dotted t.items

/-- Changes the table at the end of a path. Missing tables are made on the way; a path of a
dotted key (`dotted`) does not go through defined tables. -/
def descend (dotted : Bool) : List String → (OpenTable → Option OpenTable) → OpenTable →
    Option OpenTable
  | [], change, t => change t
  | key :: path, change, t =>
    match t.items.lookup key with
    | none => do
      let inner ← descend dotted path change { implied := true, dotted, items := [] }
      pure (t.set key inner.node)
    | some (.value _) => none
    | some (.tables done last) => do
      let inner ← descend dotted path change { implied := false, dotted := false, items := last }
      pure (t.set key (.tables done inner.items))
    | some (.table implied made items) =>
      if dotted && !implied then none
      else do
        let inner ← descend dotted path change { implied, dotted := made, items }
        pure (t.set key inner.node)

def openTable (path : List String) (root : OpenTable) : Option OpenTable := do
  let key ← path.getLast?
  descend false path.dropLast (fun t =>
    match t.items.lookup key with
    | none => some (t.set key (.table false false []))
    | some (.table true false items) => some (t.set key (.table false false items))
    | _ => none) root

def openArray (path : List String) (root : OpenTable) : Option OpenTable := do
  let key ← path.getLast?
  descend false path.dropLast (fun t =>
    match t.items.lookup key with
    | none => some (t.set key (.tables [] []))
    | some (.tables done last) => some (t.set key (.tables (done ++ [last]) []))
    | _ => none) root

def putValue (path : List String) (v : Toml) (t : OpenTable) : Option OpenTable := do
  let key ← path.getLast?
  let way := path.dropLast
  descend true way (fun t =>
    if t.dotted == way.isEmpty || (t.items.lookup key).isSome then none
    else some (t.set key (.value v))) t

mutual

def Node.toToml : Node → Toml
  | .value v => v
  | .table _ _ items => .table (itemsToToml items)
  | .tables done last => .array (tablesToToml done ++ [.table (itemsToToml last)])

def itemsToToml : List (String × Node) → List (String × Toml)
  | [] => []
  | (key, node) :: rest => (key, node.toToml) :: itemsToToml rest

def tablesToToml : List (List (String × Node)) → List Toml
  | [] => []
  | items :: rest => .table (itemsToToml items) :: tablesToToml rest

end

def OpenTable.toToml (t : OpenTable) : Toml := t.node.toToml

end Bindery.Toml
