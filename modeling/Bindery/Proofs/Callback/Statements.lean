import Bindery.Render.Trampoline

/-!
# Statements of exported functions

The lines of an exported function, read as the statements that they are. They tell what the function
stores for its native caller, and which native memory it releases when it returns.
-/

namespace Bindery

inductive Statement where
  | declare (name type : String)
  | assign (b : Binding) (target value : String)
  /-- Stores a value through a pointer to the given type. -/
  | store (type pointer value : String)
  /-- Releases what a pointer points to when the function returns. -/
  | release (pointer : String)
  | call (function : String) (arguments : List String)
  | opening (head : String)
  | closing
  /-- Remarks that there is no conversion to a managed type. -/
  | unconverted (managed : String)
  | leave
  | inner (s : Statement)

namespace Statement

def deferredFree (pointer : String) : String := "defer C.free(unsafe.Pointer(" ++ pointer ++ "))"

theorem deferredFree_eq (pointer : String) :
    deferredFree pointer = "defer C.free(unsafe.Pointer(" ++ pointer ++ "))" := rfl

def line : Statement → String
  | declare name type => "var " ++ name ++ " " ++ type
  | assign b target value => b.assign target value
  | store type pointer value => "*(*" ++ type ++ ")(" ++ pointer ++ ") = " ++ value
  | release pointer => deferredFree pointer
  | call function arguments => function ++ "(" ++ commaSeparated arguments ++ ")"
  | opening head => head ++ " \x7b"
  | closing => "\x7d"
  | unconverted managed => Descriptor.unconverted managed
  | leave => "return"
  | inner s => "\t" ++ s.line

def released : Statement → List String
  | release pointer => [pointer]
  | inner s => s.released
  | _ => []

/-- What a statement hands back to the native caller: what it assigns to the native result, which
has the given name, and what it stores through a pointer. -/
def handedBack (result : Option String) : Statement → List String
  | assign _ target value => if result = some target then [target, value] else []
  | store _ _ value => [value]
  | inner s => s.handedBack result
  | _ => []

end Statement

/-! ## Conversions -/

def sliceStatements (b : Binding) (g c elem : String) : List Statement :=
  [match b with
    | .define => .declare c ("*" ++ elem)
    | .set => .assign .set c "nil",
   .opening ("if len(" ++ g ++ ") > 0"),
   .inner (.assign .set c ("(*" ++ elem ++ ")(unsafe.Pointer(&" ++ g ++ "[0]))")),
   .closing]

theorem sliceStatements_line (b : Binding) (g c elem : String) :
    (sliceStatements b g c elem).map Statement.line = sliceLines b g c elem := by
  cases b <;>
    simp [sliceStatements, sliceLines, Statement.line, Binding.assign, Binding.operator, ← String.toList_inj]

namespace Descriptor

def nativeStatements (r : Registry) (b : Binding) (g c : String) : Descriptor → List Statement
  | .void => []
  | .boolean type _ =>
    [match b with
      | .define => .declare c type
      | .set => .assign .set c ("(" ++ type ++ ")(0)"),
     .opening ("if " ++ g),
     .inner (.assign .set c ("(" ++ type ++ ")(1)")),
     .closing]
  | .string => [.assign b c ("C.CString(" ++ g ++ ")"), .release c]
  | .slice elem => sliceStatements b g c (elem.nativeName r)
  | .sliceOfSlice elem =>
    let type := elem.nativeName r
    let inner := c ++ "_"
    [.assign .define inner ("make([]*" ++ type ++ ", len(" ++ g ++ "))"),
     .opening ("for i := range " ++ g),
     .inner (.opening ("if len(" ++ g ++ "[i]) > 0")),
     .inner (.inner (.assign .set (inner ++ "[i]") ("(*" ++ type ++ ")(unsafe.Pointer(&" ++ g ++ "[i][0]))"))),
     .inner .closing,
     .closing] ++ sliceStatements b inner c ("*" ++ type)
  | .stringArray =>
    let inner := c ++ "_"
    [.assign .define inner ("make([]*C.char, len(" ++ g ++ "))"),
     .opening ("for i := range " ++ g),
     .inner (.assign .set (inner ++ "[i]") ("C.CString(" ++ g ++ "[i])")),
     .inner (.release (inner ++ "[i]")),
     .closing] ++ sliceStatements b inner c "*C.char"
  | .outPointer target =>
    [.assign b c (Strategy.pointerReinterpret.convert ((outPointer target).nativeName r) ("&" ++ g))]
  | .callbackOutPointer target =>
    let value := c ++ "_v"
    target.nativeStatements r .define g value ++ [.store (target.nativeName r) c value]
  | .callable .. => [.assign b c ("unsafe.Pointer(&" ++ g ++ ")")]
  | d => [.assign b c ((d.strategy r).convert (d.nativeName r) g)]

theorem nativeStatements_line (r : Registry) (b : Binding) (g c : String) (d : Descriptor) :
    (d.nativeStatements r b g c).map Statement.line = d.toNative r b g c := by
  fun_induction toNative r b g c d with
  | case2 b c type =>
    cases b <;> simp [nativeStatements, Statement.line, Binding.assign, Binding.operator, ← String.toList_inj]
  | case4 b c elem => exact sliceStatements_line b g c (elem.nativeName r)
  | case5 b c elem type inner =>
    simp +zetaDelta [nativeStatements, sliceStatements_line, Statement.line, Binding.assign,
      Binding.operator, ← String.toList_inj]
  | case6 b c inner =>
    simp +zetaDelta [nativeStatements, sliceStatements_line, Statement.line,
      Statement.deferredFree_eq, Binding.assign, Binding.operator, ← String.toList_inj]
  | case8 b c target value ih =>
    simp +zetaDelta [nativeStatements, Statement.line, ih]
  | case10 b c d =>
    cases d <;> first | rfl | simp_all
  | _ => rfl

def managedStatements (r : Registry) (b : Binding) (g c : String) (d : Descriptor) : List Statement :=
  match d with
  | .void => []
  | .outPointer _ => []
  | .callbackOutPointer _ => []
  | .boolean .. => [.assign b g ("(bool)(" ++ c ++ " == 1)")]
  | .string => [.assign b g ("C.GoString(" ++ c ++ ")")]
  | .slice _ => [.unconverted (d.managedName r)]
  | .sliceOfSlice _ => [.unconverted (d.managedName r)]
  | .stringArray => [.unconverted (d.managedName r)]
  | .callable .. => [.assign b g ("*(*" ++ d.managedName r ++ ")(" ++ c ++ ")")]
  | d => [.assign b g ((d.strategy r).convert (d.managedName r) c)]

theorem managedStatements_line (r : Registry) (b : Binding) (g c : String) (d : Descriptor) :
    (d.managedStatements r b g c).map Statement.line = d.toManaged r b g c := by
  cases d <;> rfl

end Descriptor

/-! ## Exported functions -/

namespace Trampoline

variable (t : Trampoline) (r : Registry)

def dataStatements : List Statement :=
  t.dataParameter.type.managedStatements r .define t.dataParameter.name
    (((t.arguments[t.dataIndex]?).map (·.native)).getD "")

def inputStatements (p : Parameter) (native : String) : List Statement :=
  let statements := p.type.managedStatements r .define p.name native
  if (statements.map Statement.line).all (hasStart "//") then
    statements ++ [.declare p.name (p.type.managedName r)]
  else statements

def callStatement : Statement :=
  let call := Statement.call t.dataParameter.name (t.callInputs.map (·.name))
  if t.callOutputs.isEmpty then call
  else .assign .define (commaSeparated (t.callOutputs.map (·.name))) call.line

def resultStatements : List Statement :=
  match t.result with
  | some p => p.type.nativeStatements r .set p.name ("_" ++ p.name) ++ [.leave]
  | none => []

def statements : List Statement :=
  t.dataStatements r
    ++ (t.crossing.filter (!·.1.isOutput)).flatMap (fun x => inputStatements r x.1 x.2)
    ++ [t.callStatement]
    ++ (t.crossing.filter (·.1.isOutput)).flatMap (fun x =>
      x.1.type.nativeStatements r .set x.1.name x.2)
    ++ t.resultStatements r

theorem inputStatements_line (p : Parameter) (native : String) :
    (inputStatements r p native).map Statement.line = inputLines r p native := by
  unfold inputStatements inputLines
  simp only [Descriptor.managedStatements_line]
  split
  · rw [List.map_append, Descriptor.managedStatements_line]
    rfl
  · exact Descriptor.managedStatements_line ..

theorem callStatement_line : t.callStatement.line = t.callLine := by
  unfold callStatement callLine
  split
  · rfl
  · simp [Statement.line, Binding.assign, Binding.operator, ← String.toList_inj]

theorem resultStatements_line : (t.resultStatements r).map Statement.line = t.resultLines r := by
  unfold resultStatements resultLines
  cases t.result with
  | none => rfl
  | some p =>
    dsimp only
    rw [List.map_append, Descriptor.nativeStatements_line]
    rfl

theorem dataStatements_line : (t.dataStatements r).map Statement.line = t.dataLines r :=
  Descriptor.managedStatements_line ..

/-- The statements are those of the lines that are written. -/
theorem statements_line : (t.statements r).map Statement.line = t.body r := by
  simp only [statements, body, List.map_append, List.map_flatMap, dataStatements_line, inputStatements_line,
    Descriptor.nativeStatements_line, resultStatements_line, List.map_singleton, callStatement_line]

def released : List String := (t.statements r).flatMap Statement.released

def handedBack : List String :=
  (t.statements r).flatMap (Statement.handedBack (t.result.map fun p => "_" ++ p.name))

end Trampoline

end Bindery
