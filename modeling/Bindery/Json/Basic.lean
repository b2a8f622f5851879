/-!
# JSON values

A value keeps the members of an object as they were written, repeated names and all,
and tells whole numbers from those with a fraction or an exponent. The readers of
records depend on both.
-/

namespace Bindery

inductive Json where
  | null
  | bool (b : Bool)
  /-- A number written with digits alone, after at most a sign. -/
  | whole (i : Int)
  | decimal (digits : String)
  | text (s : String)
  | list (items : List Json)
  | object (members : List (String × Json))
  /-- A text with half of a surrogate pair, or an object with a member of such a name. It may
  stand where nothing is read. -/
  | illFormed
  deriving Inhabited

end Bindery
