import Bindery.Json.Basic

/-!
# Magnitude of numbers

Where every part of a value is read, its numbers must be finite as floating-point numbers
of 64 bits. The digits of a number make a significand of at most 64 bits, later digits
only count as a power of ten, and significand and power are rounded before they are
multiplied.
-/

namespace Bindery.Json

def natOfDigits (ds : List Char) : Nat := ds.foldl (fun n d => 10 * n + (d.toNat - '0'.toNat)) 0

structure Magnitude where
  significand : Nat := 0
  exponent : Int := 0

namespace Magnitude

/-- Adds digits to the significand as long as they fit in 64 bits. The result has the digits
that are left. -/
def fill (significand : Nat) : List Char → Nat × List Char
  | [] => (significand, [])
  | d :: ds =>
    let more := 10 * significand + (d.toNat - '0'.toNat)
    if more < 0x10000000000000000 then fill more ds else (significand, d :: ds)

def ofDigits (before after : List Char) (exponent : Int) : Magnitude :=
  let (significand, skipped) := fill 0 before
  let (significand, left) := fill significand after
  { significand
    exponent := exponent + skipped.length - (after.length - left.length : Nat) }

/-- A number rounded to 53 binary digits, a half to the even neighbour. -/
def rounded (n : Nat) : Nat :=
  if n < 0x20000000000000 then n
  else
    let unit := Nat.pow 2 (n.log2 - 52)
    let (q, r) := (n / unit, n % unit)
    (if 2 * r < unit || (2 * r == unit && q % 2 == 0) then q else q + 1) * unit

/-- The least number that is rounded to infinity. -/
def infinite : Nat := Nat.pow 2 1024 - Nat.pow 2 970

def isFinite (m : Magnitude) : Bool :=
  if m.significand == 0 || m.exponent < 0 then true
  else if 308 < m.exponent then false
  else rounded m.significand * rounded (Nat.pow 10 m.exponent.toNat) < infinite

def intOfDigits : List Char → Int
  | '-' :: ds => -(natOfDigits ds : Int)
  | '+' :: ds => natOfDigits ds
  | ds => natOfDigits ds

def ofText (cs : List Char) : Magnitude :=
  let cs := cs.dropWhile (· == '-')
  let (before, rest) := (cs.takeWhile Char.isDigit, cs.dropWhile Char.isDigit)
  let rest := rest.dropWhile (· == '.')
  let (after, rest) := (rest.takeWhile Char.isDigit, rest.dropWhile Char.isDigit)
  ofDigits before after (intOfDigits (rest.drop 1))

end Magnitude

mutual

/-- Whether all of a value can be read: its texts are well formed, its numbers are finite,
and it has at most `depth` lists and objects inside one another. -/
def isSound (depth : Nat) : Json → Bool
  | .null => true
  | .bool _ => true
  | .whole i =>
    i.natAbs < 0x10000000000000000
      || (Magnitude.ofDigits (Nat.toDigits 10 i.natAbs) [] 0).isFinite
  | .decimal digits => (Magnitude.ofText digits.toList).isFinite
  | .text _ => true
  | .list items => 0 < depth && allSound (depth - 1) items
  | .object members => 0 < depth && allMembersSound (depth - 1) members
  | .illFormed => false

def allSound (depth : Nat) : List Json → Bool
  | [] => true
  | item :: items => item.isSound depth && allSound depth items

def allMembersSound (depth : Nat) : List (String × Json) → Bool
  | [] => true
  | (_, value) :: members => value.isSound depth && allMembersSound depth members

end

end Bindery.Json
