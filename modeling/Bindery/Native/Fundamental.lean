import Bindery.Text.Blank

/-!
# Fundamental types

The built-in types of C. Extractors spell them in many ways (`long unsigned int`,
`unsigned long`); `Fundamental.ofName?` reads a spelling as a collection of words, so
neither their order nor an implied `int` matters.
-/

namespace Bindery.Native

inductive NumberClass where
  | signed
  | unsigned
  | float
  | complex
  deriving DecidableEq, Repr

inductive Fundamental where
  | void
  | bool
  | char
  | signedChar
  | unsignedChar
  | short
  | unsignedShort
  | int
  | unsignedInt
  | long
  | unsignedLong
  | longLong
  | unsignedLongLong
  | int128
  | unsignedInt128
  | float
  | double
  | longDouble
  | complexFloat
  | complexDouble
  | complexLongDouble
  deriving DecidableEq, Repr

namespace Fundamental

inductive Base where
  | int
  | char
  | float
  | double
  | void
  | bool
  | int128
  deriving DecidableEq, Repr

def Base.ofWord? : String → Option Base
  | "int" => some .int
  | "char" => some .char
  | "float" => some .float
  | "double" => some .double
  | "void" => some .void
  | "_Bool" => some .bool
  | "bool" => some .bool
  | "__int128" => some .int128
  | _ => none

structure Spelling where
  unsigned : Bool := false
  signed : Bool := false
  short : Bool := false
  complex : Bool := false
  longs : Nat := 0
  base : Option Base := none
  deriving DecidableEq, Repr

/-- Adds one word. A second base word and an unknown word are refused. -/
def Spelling.addWord? (s : Spelling) (word : String) : Option Spelling :=
  match word with
  | "unsigned" => some { s with unsigned := true }
  | "signed" => some { s with signed := true }
  | "long" => some { s with longs := s.longs + 1 }
  | "short" => some { s with short := true }
  | "complex" => some { s with complex := true }
  | "_Complex" => some { s with complex := true }
  | word =>
    match s.base, Base.ofWord? word with
    | none, some base => some { s with base := some base }
    | _, _ => none

/-- The type that a spelling names; without a base word it is an `int`. -/
def Spelling.denoted (s : Spelling) : Fundamental :=
  match s.base.getD .int with
  | .void => .void
  | .bool => .bool
  | .char => if s.unsigned then .unsignedChar else if s.signed then .signedChar else .char
  | .int128 => if s.unsigned then .unsignedInt128 else .int128
  | .float => if s.complex then .complexFloat else .float
  | .double =>
    match s.complex, decide (0 < s.longs) with
    | true, true => .complexLongDouble
    | true, false => .complexDouble
    | false, true => .longDouble
    | false, false => .double
  | .int =>
    if s.short then
      if s.unsigned then .unsignedShort else .short
    else
      match s.longs with
      | 0 => if s.unsigned then .unsignedInt else .int
      | 1 => if s.unsigned then .unsignedLong else .long
      | _ => if s.unsigned then .unsignedLongLong else .longLong

def ofWords? (words : List String) : Option Fundamental :=
  (words.foldlM Spelling.addWord? {}).map Spelling.denoted

def ofName? (name : String) : Option Fundamental := ofWords? (words name)

def isVoid (f : Fundamental) : Bool := f == .void

def numberClass? : Fundamental → Option NumberClass
  | .void => none
  | .char | .signedChar | .short | .int | .long | .longLong | .int128 => some .signed
  | .bool | .unsignedChar | .unsignedShort | .unsignedInt | .unsignedLong | .unsignedLongLong
  | .unsignedInt128 => some .unsigned
  | .float | .double | .longDouble => some .float
  | .complexFloat | .complexDouble | .complexLongDouble => some .complex

def cgoName : Fundamental → String
  | .void => "unsafe.Pointer"
  | .bool => "C._Bool"
  | .char => "C.char"
  | .signedChar => "C.schar"
  | .unsignedChar => "C.uchar"
  | .short => "C.short"
  | .unsignedShort => "C.ushort"
  | .int => "C.int"
  | .unsignedInt => "C.uint"
  | .long => "C.long"
  | .unsignedLong => "C.ulong"
  | .longLong => "C.longlong"
  | .unsignedLongLong => "C.ulonglong"
  | .int128 => "C.__int128"
  | .unsignedInt128 => "C.__uint128"
  | .float => "C.float"
  | .double => "C.double"
  | .longDouble => "C.longdouble"
  | .complexFloat => "C.complexfloat"
  | .complexDouble => "C.complexdouble"
  | .complexLongDouble => "C.complexlongdouble"

def cName : Fundamental → String
  | .void => "void"
  | .bool => "_Bool"
  | .char => "char"
  | .signedChar => "signed char"
  | .unsignedChar => "unsigned char"
  | .short => "short"
  | .unsignedShort => "unsigned short"
  | .int => "int"
  | .unsignedInt => "unsigned int"
  | .long => "long"
  | .unsignedLong => "unsigned long"
  | .longLong => "long long"
  | .unsignedLongLong => "unsigned long long"
  | .int128 => "__int128"
  | .unsignedInt128 => "unsigned __int128"
  | .float => "float"
  | .double => "double"
  | .longDouble => "long double"
  | .complexFloat => "float _Complex"
  | .complexDouble => "double _Complex"
  | .complexLongDouble => "long double _Complex"

end Fundamental

end Bindery.Native
