import Bindery.Json.Basic

/-!
# Records in JSON

How plain data is read off a JSON value. A record is an object with named members, of
which unknown ones are ignored and known ones must not be repeated, or a list that gives
the members by position and may leave out the last ones.
-/

namespace Bindery.Json

abbrev Record := List (String × Json)

def record? (names : List String) : Json → Option Record
  | .object members =>
    let known := members.filter fun m => names.contains m.1
    if (known.map (·.1)).Nodup then some known else none
  | .list items => if items.length ≤ names.length then some (names.zip items) else none
  | _ => none

def Record.required? {α : Type} (r : Record) (name : String) (read : Json → Option α) : Option α :=
  (r.lookup name).bind read

def Record.optional? {α : Type} (r : Record) (name : String) (default : α)
    (read : Json → Option α) : Option α :=
  match r.lookup name with
  | some value => read value
  | none => some default

/-- Takes the text member `tag` off a record; in a list it comes first. -/
def tagged? (tag : String) : Json → Option (String × Json)
  | .object members =>
    match members.filter (·.1 == tag) with
    | [(_, .text kind)] => some (kind, .object (members.filter (·.1 != tag)))
    | _ => none
  | .list (.text kind :: rest) => some (kind, .list rest)
  | _ => none

/-! ## Plain values -/

def text? : Json → Option String
  | .text s => some s
  | _ => none

def bool? : Json → Option Bool
  | .bool b => some b
  | _ => none

def size? : Json → Option Nat
  | .whole i => if 0 ≤ i ∧ i < 0x10000000000000000 then some i.toNat else none
  | _ => none

def integer? : Json → Option Int
  | .whole i => if -0x8000000000000000 ≤ i ∧ i < 0x8000000000000000 then some i else none
  | _ => none

def list? {α : Type} (read : Json → Option α) : Json → Option (List α)
  | .list items => items.mapM read
  | _ => none

def nullable? {α : Type} (read : Json → Option α) : Json → Option (Option α)
  | .null => some none
  | value => (read value).map some

/-- A name out of a fixed set, by itself or as the only member of an object. The member is
null, and with `orEmpty` it may be an object without members. -/
def choice? {α : Type} (orEmpty : Bool) (read : String → Option α) : Json → Option α
  | .text s => read s
  | .object [(s, .null)] => read s
  | .object [(s, .object [])] => if orEmpty then read s else none
  | _ => none

end Bindery.Json
