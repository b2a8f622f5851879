/-!
# Literals of enumerators

Values that are not negative are written in hexadecimal with as many digits as the
largest of them needs, negative values in decimal.
-/

namespace Bindery

def hexDigits (n : Nat) : List Char := (Nat.toDigits 16 n).map Char.toUpper

def literalDigits? (v : Int) : Option (List Char) :=
  if v < 0 then none else some (hexDigits v.toNat)

def literalWidth (values : List Int) : Nat :=
  (values.filterMap fun v => (literalDigits? v).map List.length).max?.getD 1

def literal (width : Nat) (v : Int) : String :=
  match literalDigits? v with
  | some ds => "0x" ++ String.ofList (List.replicate (width - ds.length) '0' ++ ds)
  | none => toString v

/-- One literal for each value, all of one width. -/
def enumLiterals (values : List Int) : List String := values.map (literal (literalWidth values))

end Bindery
