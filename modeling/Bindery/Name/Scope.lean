/-!
# Scopes

A scope binds identities to names, each identity to at most one name and each name to at
most one identity. A name that is taken is made free by underscores at its end.
-/

namespace Bindery

structure Scope where
  bindings : List (String × String) := []
  deriving DecidableEq, Repr, Inhabited

namespace Scope

def empty : Scope := {}

def nameOf? (s : Scope) (id : String) : Option String := s.bindings.lookup id

def owner? (s : Scope) (name : String) : Option String :=
  (s.bindings.find? (·.2 == name)).map (·.1)

def hasName (s : Scope) (name : String) : Bool := (s.owner? name).isSome

def size (s : Scope) : Nat := s.bindings.length

def isEmpty (s : Scope) : Bool := s.bindings.isEmpty

/-- The first free name among `name`, `name_`, `name__`, … with at most `more` underscores. -/
def freshWithin (s : Scope) : (more : Nat) → (name : String) → String
  | 0, name => name
  | more + 1, name => if s.hasName name then freshWithin s more (name ++ "_") else name

/-- As many underscores as there are bindings always suffice. -/
def fresh (s : Scope) (name : String) : String := s.freshWithin s.size name

/-- Binds an identity to a free form of `candidate` and returns the name. An identity that
is bound keeps its name, and an empty candidate binds nothing. -/
def resolve (s : Scope) (id candidate : String) : String × Scope :=
  match s.nameOf? id with
  | some name => (name, s)
  | none =>
    if candidate.isEmpty then ("", s)
    else
      let name := s.fresh candidate
      (name, ⟨s.bindings ++ [(id, name)]⟩)

/-- Binds an identity to a name in place of its earlier one. Fails on a name that belongs
to another identity. -/
def rename (s : Scope) (id name : String) : Bool × Scope :=
  match s.owner? name with
  | some owner => (owner == id, s)
  | none => (true, ⟨s.bindings.filter (·.1 != id) ++ [(id, name)]⟩)

end Scope

end Bindery
