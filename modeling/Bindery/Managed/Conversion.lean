import Bindery.Managed.Spelling

/-!
# Conversion statements

The Go statements that move a value across the boundary. `Descriptor.toNative` converts
the managed expression `g` into the native variable `c`, `Descriptor.toManaged` goes the
other way; each statement is one line.
-/

namespace Bindery

inductive Binding where
  | define
  | set
  deriving DecidableEq, Repr

def Binding.operator : Binding → String
  | define => ":="
  | set => "="

def Binding.assign (b : Binding) (target value : String) : String :=
  target ++ " " ++ b.operator ++ " " ++ value

def Strategy.convert (s : Strategy) (type source : String) : String :=
  match s with
  | .pointerReinterpret => "(" ++ type ++ ")(unsafe.Pointer(" ++ source ++ "))"
  | .valueReinterpret => "*(*" ++ type ++ ")(unsafe.Pointer(&" ++ source ++ "))"
  | .cast => "(" ++ type ++ ")(" ++ source ++ ")"
  | .special => "(" ++ type ++ ")(" ++ source ++ ")"

/-- Lets `c` point to the first element of `g`, or to nothing if `g` is empty. -/
def sliceLines (b : Binding) (g c elem : String) : List String :=
  [match b with
    | .define => "var " ++ c ++ " *" ++ elem
    | .set => c ++ " = nil",
   "if len(" ++ g ++ ") > 0 \x7b",
   "\t" ++ c ++ " = (*" ++ elem ++ ")(unsafe.Pointer(&" ++ g ++ "[0]))",
   "\x7d"]

namespace Descriptor

def toNative (r : Registry) (b : Binding) (g c : String) : Descriptor → List String
  | .void => []
  | .boolean type _ =>
    [match b with
      | .define => "var " ++ c ++ " " ++ type
      | .set => c ++ " = (" ++ type ++ ")(0)",
     "if " ++ g ++ " \x7b",
     "\t" ++ c ++ " = (" ++ type ++ ")(1)",
     "\x7d"]
  | .string =>
    [b.assign c ("C.CString(" ++ g ++ ")"), "defer C.free(unsafe.Pointer(" ++ c ++ "))"]
  | .slice elem => sliceLines b g c (elem.nativeName r)
  | .sliceOfSlice elem =>
    let type := elem.nativeName r
    let inner := c ++ "_"
    [inner ++ " := make([]*" ++ type ++ ", len(" ++ g ++ "))",
     "for i := range " ++ g ++ " \x7b",
     "\tif len(" ++ g ++ "[i]) > 0 \x7b",
     "\t\t" ++ inner ++ "[i] = (*" ++ type ++ ")(unsafe.Pointer(&" ++ g ++ "[i][0]))",
     "\t\x7d",
     "\x7d"] ++ sliceLines b inner c ("*" ++ type)
  | .stringArray =>
    let inner := c ++ "_"
    [inner ++ " := make([]*C.char, len(" ++ g ++ "))",
     "for i := range " ++ g ++ " \x7b",
     "\t" ++ inner ++ "[i] = C.CString(" ++ g ++ "[i])",
     "\tdefer C.free(unsafe.Pointer(" ++ inner ++ "[i]))",
     "\x7d"] ++ sliceLines b inner c "*C.char"
  | .outPointer target =>
    [b.assign c (Strategy.pointerReinterpret.convert ((outPointer target).nativeName r) ("&" ++ g))]
  | .callbackOutPointer target =>
    let value := c ++ "_v"
    target.toNative r .define g value
      ++ ["*(*" ++ target.nativeName r ++ ")(" ++ c ++ ") = " ++ value]
  | .callable .. => [b.assign c ("unsafe.Pointer(&" ++ g ++ ")")]
  | d => [b.assign c ((d.strategy r).convert (d.nativeName r) g)]

def unconverted (managed : String) : String := "// no managed conversion for " ++ managed

/-- Converts native `c` into managed `g`. Arrays behind pointers have no known length, so
they are not converted back. -/
def toManaged (r : Registry) (b : Binding) (g c : String) (d : Descriptor) : List String :=
  match d with
  | .void => []
  | .outPointer _ => []
  | .callbackOutPointer _ => []
  | .boolean .. => [b.assign g ("(bool)(" ++ c ++ " == 1)")]
  | .string => [b.assign g ("C.GoString(" ++ c ++ ")")]
  | .slice _ => [unconverted (d.managedName r)]
  | .sliceOfSlice _ => [unconverted (d.managedName r)]
  | .stringArray => [unconverted (d.managedName r)]
  | .callable .. => [b.assign g ("*(*" ++ d.managedName r ++ ")(" ++ c ++ ")")]
  | d => [b.assign g ((d.strategy r).convert (d.managedName r) c)]

end Descriptor

end Bindery
