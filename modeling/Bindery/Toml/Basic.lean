/-!
# TOML values

Settings files are TOML. Numbers with a fraction have no use in settings, so only their
form is kept. Where a record is asked for, a point in time is one with a single member.
-/

namespace Bindery

inductive Toml where
  | text (s : String)
  | whole (i : Int)
  | bool (b : Bool)
  | float (digits : String)
  /-- A date, a time of day, or both, in the one form that each of them has. -/
  | time (form : String)
  | array (items : List Toml)
  | table (members : List (String × Toml))
  deriving Inhabited

namespace Toml

/-- The member of a point in time that has its form. -/
def timeMember : String := "$__toml_private_datetime"

def table? : Toml → Option (List (String × Toml))
  | .table members => some members
  | .time form => some [(timeMember, .text form)]
  | _ => none

/-- The values of a record with the given member names, which is a table or a list of its
first members. -/
def record? (names : List String) : Toml → Option (List (String × Toml))
  | .array items => some (names.zip items)
  | v => v.table?

def text? : Toml → Option String
  | .text s => some s
  | _ => none

def size? : Toml → Option Nat
  | .whole i => if 0 ≤ i then some i.toNat else none
  | _ => none

def array? {α : Type} (read : Toml → Option α) : Toml → Option (List α)
  | .array items => items.mapM read
  | _ => none

def members? {α : Type} (read : Toml → Option α) (v : Toml) : Option (List (String × α)) := do
  (← v.table?).mapM fun m => (read m.2).map fun v => (m.1, v)

end Toml

end Bindery
