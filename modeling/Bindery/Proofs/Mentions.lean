import Bindery.Proofs.QualifiedNames
import Mathlib.Logic.Basic
import Mathlib.Tactic.Tauto

/-!
# What lines mention

The lines of a file consist of fixed words, managed types and other texts: native spellings, names and
literals. A name is qualified in the lines just where it is in one of those types or texts.
-/

namespace Bindery

/-! ## Mentions -/

/-- What a line has besides fixed words. -/
inductive Mention
  /-- A type in its managed spelling. -/
  | type (d : Descriptor)
  /-- A native spelling, a name or a literal. -/
  | text (s : String)

def Mention.spelling (r : Registry) : Mention → String
  | type d => d.managedName r
  | text s => s

def Mention.isTypeOf (r : Registry) (q : String) : Mention → Bool
  | type d => (qualifiers (d.managedName r)).contains q.toList
  | text _ => false

def Qualifies (q : String) (lines : List String) : Prop := ∃ l ∈ lines, QualifiedBy q l

def Mentioned (q : String) (r : Registry) (ms : List Mention) : Prop := ∃ m ∈ ms, QualifiedBy q (m.spelling r)

section
variable {q : String} {r : Registry} {lines lines' : List String} {ms ms' : List Mention}

@[simp] theorem qualifies_nil : Qualifies q [] ↔ False := by simp [Qualifies]

@[simp] theorem qualifies_cons {l : String} : Qualifies q (l :: lines) ↔ QualifiedBy q l ∨ Qualifies q lines := by
  simp [Qualifies]

@[simp] theorem qualifies_append : Qualifies q (lines ++ lines') ↔ Qualifies q lines ∨ Qualifies q lines' := by
  simp [Qualifies, or_and_right, exists_or]

@[simp] theorem mentioned_nil : Mentioned q r [] ↔ False := by simp [Mentioned]

@[simp] theorem mentioned_cons {m : Mention} :
    Mentioned q r (m :: ms) ↔ QualifiedBy q (m.spelling r) ∨ Mentioned q r ms := by
  simp [Mentioned]

@[simp] theorem mentioned_append : Mentioned q r (ms ++ ms') ↔ Mentioned q r ms ∨ Mentioned q r ms' := by
  simp [Mentioned, or_and_right, exists_or]

@[simp] theorem spelling_type {d : Descriptor} : (Mention.type d).spelling r = d.managedName r := rfl

@[simp] theorem spelling_text {s : String} : (Mention.text s).spelling r = s := rfl

variable (q r) in
def Mentions (lines : List String) (ms : List Mention) : Prop := Qualifies q lines ↔ Mentioned q r ms

theorem Mentions.append (h : Mentions q r lines ms) (h' : Mentions q r lines' ms') :
    Mentions q r (lines ++ lines') (ms ++ ms') := by
  unfold Mentions at *
  rw [qualifies_append, mentioned_append, h, h']

theorem Mentions.flatMap {α : Type} {l : List α} {lines : α → List String} {ms : α → List Mention}
    (h : ∀ a ∈ l, Mentions q r (lines a) (ms a)) : Mentions q r (l.flatMap lines) (l.flatMap ms) := by
  induction l with
  | nil => simp [Mentions]
  | cons a l ih => exact (h a List.mem_cons_self).append (ih fun b hb => h b (List.mem_cons_of_mem a hb))

theorem Mentions.map {α : Type} {l : List α} {line : α → String} {ms : α → List Mention}
    (h : ∀ a ∈ l, QualifiedBy q (line a) ↔ Mentioned q r (ms a)) : Mentions q r (l.map line) (l.flatMap ms) := by
  rw [List.map_eq_flatMap]
  exact .flatMap fun a ha => by rw [Mentions, qualifies_cons, qualifies_nil, or_false, h a ha]

end

namespace Descriptor

def nativeMentions (r : Registry) (g c : String) : Descriptor → List Mention
  | .void => []
  | .boolean type _ => [.text c, .text type, .text g]
  | .string => [.text c, .text g]
  | .slice elem => [.text c, .text (elem.nativeName r), .text g]
  | .sliceOfSlice elem => [.text c, .text (c ++ "_"), .text (elem.nativeName r), .text g]
  | .stringArray => [.text c, .text (c ++ "_"), .text g]
  | .outPointer target => [.text c, .text ((outPointer target).nativeName r), .text g]
  | .callbackOutPointer target =>
    target.nativeMentions r g (c ++ "_v") ++ [.text (target.nativeName r), .text c, .text (c ++ "_v")]
  | .callable .. => [.text c, .text g]
  | d => [.text c, .text (d.nativeName r), .text g]

def managedMentions (g c : String) (d : Descriptor) : List Mention :=
  match d with
  | .void => []
  | .outPointer _ => []
  | .callbackOutPointer _ => []
  | .boolean .. => [.text g, .text c]
  | .string => [.text g, .text c]
  | .slice _ => [.type d]
  | .sliceOfSlice _ => [.type d]
  | .stringArray => [.type d]
  | d => [.text g, .type d, .text c]

end Descriptor

section
variable {q : String} {r : Registry} (hq : IsPackageName q)
include hq

theorem mentions_fixed {lines : List String} (h : ∀ l ∈ lines, IsFixed l) : Mentions q r lines [] := by
  rw [Mentions, mentioned_nil, iff_false]
  rintro ⟨l, hl, hm⟩
  exact hq.not_qualifiedBy (h l hl) hm

/-- Fixed lines around others. -/
theorem mentions_between (before after : List String) {lines : List String} {ms : List Mention}
    (hbefore : ∀ l ∈ before, IsFixed l) (hafter : ∀ l ∈ after, IsFixed l) (h : Mentions q r lines ms) :
    Mentions q r (before ++ lines ++ after) ms := by
  have hall := ((mentions_fixed hq hbefore).append h).append (mentions_fixed hq hafter)
  rwa [List.nil_append, List.append_nil] at hall

theorem mentions_indented {lines : List String} {ms : List Mention} (h : Mentions q r lines ms) :
    Mentions q r (indented lines) ms := by
  unfold Mentions at *
  rw [← h]
  simp (disch := decide) only [Qualifies, indented, List.mem_map, exists_exists_and_eq_and, hq.qualifiedBy_after]

theorem qualifiedBy_convert (s : Strategy) (type source : String) :
    QualifiedBy q (s.convert type source) ↔ QualifiedBy q type ∨ QualifiedBy q source := by
  cases s <;> simp (disch := decide) only [Strategy.convert, String.append_assoc, hq.qualifiedBy_after,
    hq.qualifiedBy_between, hq.qualifiedBy_before]

theorem qualifiedBy_assign (b : Binding) (target value : String) :
    QualifiedBy q (b.assign target value) ↔ QualifiedBy q target ∨ QualifiedBy q value := by
  cases b <;> simp (disch := decide) only [Binding.assign, Binding.operator, String.append_assoc,
    hq.qualifiedBy_after, hq.qualifiedBy_between]

theorem qualifiedBy_unconverted (managed : String) :
    QualifiedBy q (Descriptor.unconverted managed) ↔ QualifiedBy q managed :=
  hq.qualifiedBy_after (a := "// no managed conversion for ") (by decide +kernel) (by decide +kernel)

theorem mentions_sliceLines (b : Binding) (g c elem : String) :
    Mentions q r (sliceLines b g c elem) [.text c, .text elem, .text g] := by
  unfold Mentions sliceLines
  cases b <;>
  · simp (disch := decide) [String.append_assoc, hq.qualifiedBy_after, hq.qualifiedBy_between,
      hq.qualifiedBy_before, hq.not_qualifiedBy]
    tauto

theorem mentions_toNative (b : Binding) (g c : String) (d : Descriptor) :
    Mentions q r (d.toNative r b g c) (d.nativeMentions r g c) := by
  cases d with
  | void => simp [Mentions, Descriptor.toNative, Descriptor.nativeMentions]
  | boolean type =>
    unfold Mentions Descriptor.toNative Descriptor.nativeMentions
    cases b <;>
    · simp (disch := decide) [String.append_assoc, hq.qualifiedBy_after, hq.qualifiedBy_between,
        hq.qualifiedBy_before, hq.not_qualifiedBy]
      tauto
  | string =>
    unfold Mentions Descriptor.toNative Descriptor.nativeMentions
    simp (disch := decide) [qualifiedBy_assign hq, String.append_assoc, hq.qualifiedBy_after, hq.qualifiedBy_before]
    tauto
  | slice elem => exact mentions_sliceLines hq b g c (elem.nativeName r)
  | sliceOfSlice elem =>
    have hslice : Qualifies q (sliceLines b (c ++ "_") c ("*" ++ elem.nativeName r)) ↔ _ :=
      mentions_sliceLines (r := r) hq b _ c _
    unfold Mentions Descriptor.toNative Descriptor.nativeMentions
    dsimp only
    -- the name of the inner slice is one text, not `c` and a fixed underscore
    generalize c ++ "_" = inner at *
    simp (disch := decide) [hslice, String.append_assoc, hq.qualifiedBy_after, hq.qualifiedBy_between,
      hq.qualifiedBy_before, hq.not_qualifiedBy]
    tauto
  | stringArray =>
    have hslice : Qualifies q (sliceLines b (c ++ "_") c "*C.char") ↔ _ := mentions_sliceLines (r := r) hq b _ c _
    unfold Mentions Descriptor.toNative Descriptor.nativeMentions
    dsimp only
    generalize c ++ "_" = inner at *
    simp (disch := decide) [hslice, String.append_assoc, hq.qualifiedBy_after, hq.qualifiedBy_between,
      hq.qualifiedBy_before, hq.not_qualifiedBy]
    tauto
  | outPointer target =>
    unfold Mentions Descriptor.toNative Descriptor.nativeMentions
    simp (disch := decide) [qualifiedBy_assign hq, qualifiedBy_convert hq, hq.qualifiedBy_after]
  | callbackOutPointer target =>
    -- what the pointer is to receive is converted before, under a name of its own
    refine (mentions_toNative .define g (c ++ "_v") target).append ?_
    unfold Mentions
    simp (disch := decide) [String.append_assoc, hq.qualifiedBy_after, hq.qualifiedBy_between]
  | callable =>
    unfold Mentions Descriptor.toNative Descriptor.nativeMentions
    simp (disch := decide) [qualifiedBy_assign hq, String.append_assoc, hq.qualifiedBy_after, hq.qualifiedBy_before]
  | number | array | pointer | opaqueFunction | declared =>
    simp [Mentions, Descriptor.toNative, Descriptor.nativeMentions, qualifiedBy_assign hq, qualifiedBy_convert hq]

theorem mentions_toManaged (b : Binding) (g c : String) (d : Descriptor) :
    Mentions q r (d.toManaged r b g c) (d.managedMentions g c) := by
  cases d with
  | void | outPointer | callbackOutPointer => simp [Mentions, Descriptor.toManaged, Descriptor.managedMentions]
  | boolean | string =>
    unfold Mentions Descriptor.managedMentions Descriptor.toManaged
    simp (disch := decide) [qualifiedBy_assign hq, String.append_assoc, hq.qualifiedBy_after, hq.qualifiedBy_before]
  | slice | sliceOfSlice | stringArray =>
    simp [Mentions, Descriptor.toManaged, Descriptor.managedMentions, qualifiedBy_unconverted hq]
  | callable =>
    unfold Mentions Descriptor.managedMentions Descriptor.toManaged
    simp (disch := decide) [qualifiedBy_assign hq, String.append_assoc, hq.qualifiedBy_after, hq.qualifiedBy_between,
      hq.qualifiedBy_before]
  | number | array | pointer | opaqueFunction | declared =>
    simp [Mentions, Descriptor.toManaged, Descriptor.managedMentions, qualifiedBy_assign hq, qualifiedBy_convert hq]

end

/-! ## Functions -/

def parameterMentions (ps : List Parameter) : List Mention := ps.flatMap fun p => [.text p.name, .type p.type]

theorem parameterMentions_nil : parameterMentions [] = [] := rfl

theorem parameterMentions_singleton (p : Parameter) : parameterMentions [p] = [.text p.name, .type p.type] := rfl

namespace Wrapper

variable (w : Wrapper) (r : Registry)

def headingMentions : List Mention :=
  parameterMentions w.receiver.toList ++ .text w.managed :: parameterMentions w.inputs ++ parameterMentions w.outputs

def callMentions : List Mention :=
  .text w.native :: w.arguments.map (fun a => .text a.native) ++
    match w.result with
    | some p => .text ("_" ++ p.name) :: p.type.managedMentions p.name ("_" ++ p.name)
    | none => []

def mentions : List Mention :=
  w.headingMentions ++ (w.arguments.flatMap (fun a => a.type.nativeMentions r a.managed a.native) ++ w.callMentions)

end Wrapper

section
variable {q : String} {r : Registry} (hq : IsPackageName q)
include hq

theorem qualifiedBy_parameterList (ps : List Parameter) :
    QualifiedBy q (parameterList r ps) ↔ Mentioned q r (parameterMentions ps) := by
  have hitems : Mentions q r (ps.map fun p => p.name ++ " " ++ p.type.managedName r) (parameterMentions ps) :=
    .map fun p _ => by simp (disch := decide) [String.append_assoc, hq.qualifiedBy_between]
  rw [parameterList, hq.qualifiedBy_commaSeparated]
  exact hitems

theorem qualifiedBy_function (name parameters results : String) :
    QualifiedBy q ("func " ++ name ++ "(" ++ parameters ++ ")" ++ results ++ " \x7b") ↔
      QualifiedBy q name ∨ QualifiedBy q parameters ∨ QualifiedBy q results := by
  simp (disch := decide) only [String.append_assoc, hq.qualifiedBy_after, hq.qualifiedBy_between, hq.qualifiedBy_before]

theorem mentions_heading (w : Wrapper) : Mentions q r [w.heading r] w.headingMentions := by
  have hname : QualifiedBy q ((match w.receiver with
      | some p => "(" ++ p.name ++ " " ++ p.type.managedName r ++ ") "
      | none => "") ++ w.managed) ↔ Mentioned q r (parameterMentions w.receiver.toList ++ [.text w.managed]) := by
    cases w.receiver with
    | none => simp [parameterMentions_nil]
    | some p =>
      simp (disch := decide) [parameterMentions_singleton, String.append_assoc, hq.qualifiedBy_after,
        hq.qualifiedBy_between]
  have hresults : QualifiedBy q (if w.outputs.isEmpty then "" else " (" ++ parameterList r w.outputs ++ ")") ↔
      Mentioned q r (parameterMentions w.outputs) := by
    split
    · rename_i hnone
      rw [List.isEmpty_iff.1 hnone]
      exact iff_of_false (hq.not_qualifiedBy (by decide)) (by simp [parameterMentions_nil])
    · simp (disch := decide) only [String.append_assoc, hq.qualifiedBy_after, hq.qualifiedBy_before,
        qualifiedBy_parameterList hq]
  have hheading := qualifiedBy_function hq _ (parameterList r w.inputs) _ |>.trans
    (or_congr hname (or_congr (qualifiedBy_parameterList hq w.inputs) hresults))
  rw [← String.append_assoc] at hheading
  unfold Mentions Wrapper.headingMentions
  rw [qualifies_cons, qualifies_nil, or_false]
  refine hheading.trans ?_
  simp [or_assoc]

theorem mentions_callLines (w : Wrapper) : Mentions q r (w.callLines r) w.callMentions := by
  have hcall : QualifiedBy q w.call ↔ Mentioned q r (.text w.native :: w.arguments.map fun a => .text a.native) := by
    unfold Wrapper.call
    simp (disch := decide) only [String.append_assoc, hq.qualifiedBy_after, hq.qualifiedBy_between,
      hq.qualifiedBy_before, hq.qualifiedBy_commaSeparated]
    simp [Mentioned]
  unfold Wrapper.callLines Wrapper.callMentions
  cases w.result with
  | none => simp only [Mentions, qualifies_cons, qualifies_nil, or_false, hcall, List.append_nil]
  | some p =>
    have hresult := mentions_toManaged (r := r) hq .set p.name ("_" ++ p.name) p.type
    unfold Mentions at hresult
    simp only [Mentions, qualifies_cons, mentioned_append, mentioned_cons]
    rw [hresult, String.append_assoc, hq.qualifiedBy_between (by decide) (by decide) (by decide) (by decide), hcall,
      mentioned_cons, spelling_text]
    tauto

theorem mentions_wrapper (w : Wrapper) : Mentions q r (w.lines r) (w.mentions r) := by
  have hbody : Mentions q r (w.body r)
      (w.arguments.flatMap (fun a => a.type.nativeMentions r a.managed a.native) ++ w.callMentions) := by
    have hreturn : ∀ l ∈ if w.outputs.isEmpty then [] else ["return"], IsFixed l := by
      split <;> decide
    have harguments : Mentions q r (w.argumentLines r)
        (w.arguments.flatMap fun a => a.type.nativeMentions r a.managed a.native) :=
      .flatMap fun a _ => mentions_toNative hq .define a.managed a.native a.type
    exact mentions_between hq [] _ (by simp) hreturn (harguments.append (mentions_callLines hq w))
  exact mentions_between hq [] ["\x7d", ""] (by simp) (by decide)
    ((mentions_heading hq w).append (mentions_indented hq hbody))

end

/-! ## Types -/

namespace Declaration

def definitionMentionsWithin (r : Registry) : (depth : Nat) → Declaration → List Mention
  | 0, _ => []
  | depth + 1, d =>
    match d.shape with
    | .struct _ => d.members.flatMap fun m => [.text m.managed, .type m.type]
    | .union _ => [.text d.byteBlock]
    | .enumeration base _ => [.text base]
    | .synonym literal .. =>
      match literal with
      | .declared id =>
        match r.get? id with
        | some l => if l.isEmitted then [.text l.managed] else definitionMentionsWithin r depth l
        | none => []
      | literal => [.type literal]

variable (d : Declaration) (r : Registry)

def constantMentions : List Mention :=
  let values := d.constants r
  ((values.zip (enumLiterals (values.map (·.value)))).filter (!·.1.managed.isEmpty)).flatMap fun (v, text) =>
    [.text v.managed, .text d.managed, .text text]

/-- What is mentioned by the lines of a declared type. The remark above it ends with its native name. -/
def mentions : List Mention :=
  ([.text d.managed, .text (d.nativeName ++ ".")] ++ d.definitionMentionsWithin r (r.size + 1)) ++ d.constantMentions r
    ++ (d.unionMembers r).flatMap (fun m => [.text d.managed, .text m.managed, .type m.type])
    ++ d.sortedMethods.flatMap (·.mentions r)

end Declaration

section
variable {q : String} {r : Registry} (hq : IsPackageName q)
include hq

theorem qualifiedBy_definitionWithin (depth : Nat) (d : Declaration) :
    QualifiedBy q (d.definitionWithin r depth) ↔ Mentioned q r (d.definitionMentionsWithin r depth) := by
  have hempty : ¬ QualifiedBy q "" := hq.not_qualifiedBy (by decide)
  induction depth generalizing d with
  | zero => simpa [Declaration.definitionWithin, Declaration.definitionMentionsWithin] using hempty
  | succ depth ih =>
    rw [Declaration.definitionWithin, Declaration.definitionMentionsWithin]
    cases d.shape with
    | struct =>
      dsimp only
      split
      · rename_i hnone
        rw [List.isEmpty_iff.1 hnone]
        exact iff_of_false (hq.not_qualifiedBy (by decide)) (by simp)
      · have hmembers : Mentions q r (d.members.map fun m => "\t" ++ m.managed ++ " " ++ m.type.managedName r)
            (d.members.flatMap fun m => [.text m.managed, .type m.type]) :=
          .map fun m _ => by simp (disch := decide) [String.append_assoc, hq.qualifiedBy_after, hq.qualifiedBy_between]
        have hlines : String.join (d.members.map fun m => "\t" ++ m.managed ++ " " ++ m.type.managedName r ++ "\n") =
            unlines (d.members.map fun m => "\t" ++ m.managed ++ " " ++ m.type.managedName r) := by
          rw [unlines, List.map_map]
          rfl
        rw [hlines, hq.qualifiedBy_before (by decide) (by decide), hq.qualifiedBy_after (by decide) (by decide),
          hq.qualifiedBy_unlines]
        exact hmembers
    | union => simp
    | enumeration => simp
    | synonym literal =>
      cases literal with
      | declared id =>
        cases hl : r.get? id with
        | none => simpa [hl] using hempty
        | some l =>
          simp only [hl]
          split
          · simp
          · exact ih l
      | _ => simp

theorem mentions_constantLines (d : Declaration) : Mentions q r (d.constantLines r) (d.constantMentions r) := by
  unfold Declaration.constantLines Declaration.constantMentions
  dsimp only
  split
  · rename_i hnone
    rw [List.isEmpty_iff.1 hnone]
    exact mentions_fixed hq (by simp)
  · refine mentions_between hq ["const ("] [")", ""] (by decide) (by decide) (.map fun x _ => ?_)
    simp (disch := decide) [String.append_assoc, hq.qualifiedBy_after, hq.qualifiedBy_between]

theorem mentions_accessorLines (d : Declaration) (pointerWidth : Nat) (m : Member) :
    Mentions q r (d.accessorLines r pointerWidth m) [.text d.managed, .text m.managed, .type m.type] := by
  unfold Mentions Declaration.accessorLines
  dsimp only
  split <;>
  · simp (disch := decide) [String.append_assoc, hq.qualifiedBy_after, hq.qualifiedBy_between,
      hq.qualifiedBy_before, hq.not_qualifiedBy]
    tauto

theorem mentions_type (d : Declaration) (pointerWidth : Nat) :
    Mentions q r (d.lines r pointerWidth) (d.mentions r) := by
  have hdefinition : Mentions q r ["// " ++ d.managed ++ " wraps " ++ d.nativeName ++ ".",
      "type " ++ d.managed ++ " " ++ d.definition r, ""]
      ([.text d.managed, .text (d.nativeName ++ ".")] ++ d.definitionMentionsWithin r (r.size + 1)) := by
    have hspelt : QualifiedBy q (d.definition r) ↔ _ := qualifiedBy_definitionWithin hq (r.size + 1) d
    unfold Mentions
    simp (disch := decide) [String.append_assoc, hq.qualifiedBy_after, hq.qualifiedBy_between, hq.not_qualifiedBy,
      hspelt]
    tauto
  exact ((hdefinition.append (mentions_constantLines hq d)).append
    (.flatMap fun m _ => mentions_accessorLines hq d pointerWidth m)).append (.flatMap fun w _ => mentions_wrapper hq w)

end

/-! ## Exported functions -/

namespace Trampoline

variable (t : Trampoline) (r : Registry)

def headingMentions : List Mention :=
  .text t.goName :: t.arguments.flatMap (fun a => [.text a.native, .text (a.type.exportedName r)]) ++
    match t.result with
    | some p => [.text ("_" ++ p.name), .text (p.type.nativeName r)]
    | none => []

def dataMentions : List Mention :=
  t.dataParameter.type.managedMentions t.dataParameter.name
    (((t.arguments[t.dataIndex]?).map (·.native)).getD "")

def inputMentions (p : Parameter) (native : String) : List Mention :=
  let ms := p.type.managedMentions p.name native
  if (p.type.toManaged r .define p.name native).all (hasStart "//") then ms ++ [.text p.name, .type p.type] else ms

def callMentions : List Mention :=
  t.callOutputs.map (fun p => .text p.name) ++ .text t.dataParameter.name :: t.callInputs.map fun p => .text p.name

def resultMentions : List Mention :=
  match t.result with
  | some p => p.type.nativeMentions r p.name ("_" ++ p.name)
  | none => []

def mentions : List Mention :=
  .text t.goName :: t.headingMentions r ++ (t.dataMentions
    ++ (t.crossing.filter (!·.1.isOutput)).flatMap (fun x => inputMentions r x.1 x.2) ++ t.callMentions
    ++ (t.crossing.filter (·.1.isOutput)).flatMap (fun x => x.1.type.nativeMentions r x.1.name x.2)
    ++ t.resultMentions r)

end Trampoline

section
variable {q : String} {r : Registry} (hq : IsPackageName q)
include hq

theorem mentions_trampolineHeading (t : Trampoline) : Mentions q r [t.heading r] (t.headingMentions r) := by
  have hparameters : QualifiedBy q (commaSeparated (t.arguments.map fun a => a.native ++ " " ++ a.type.exportedName r)) ↔
      Mentioned q r (t.arguments.flatMap fun a => [.text a.native, .text (a.type.exportedName r)]) := by
    rw [hq.qualifiedBy_commaSeparated]
    exact Mentions.map fun a _ => by simp (disch := decide) [String.append_assoc, hq.qualifiedBy_between]
  unfold Mentions Trampoline.heading Trampoline.headingMentions
  cases t.result with
  | none =>
    rw [qualifies_cons, qualifies_nil, or_false]
    refine (qualifiedBy_function hq _ _ _).trans ?_
    simp [hparameters, hq.not_qualifiedBy (s := "") (by decide)]
  | some p =>
    have hresult : QualifiedBy q (" (_" ++ p.name ++ " " ++ p.type.nativeName r ++ ")") ↔
        QualifiedBy q ("_" ++ p.name) ∨ QualifiedBy q (p.type.nativeName r) := by
      have hlocal : " (_" ++ p.name ++ " " ++ p.type.nativeName r ++ ")" =
          " (" ++ (("_" ++ p.name) ++ (" " ++ (p.type.nativeName r ++ ")"))) := by simp [← String.toList_inj]
      rw [hlocal, hq.qualifiedBy_after (by decide) (by decide),
        hq.qualifiedBy_between (by decide) (by decide) (by decide) (by decide),
        hq.qualifiedBy_before (b := ")") (by decide) (by decide)]
    rw [qualifies_cons, qualifies_nil, or_false]
    refine (qualifiedBy_function hq _ _ _).trans ?_
    simp [hparameters, hresult]

theorem mentions_callLine (t : Trampoline) : Mentions q r [t.callLine] t.callMentions := by
  have hnames (ps : List Parameter) : QualifiedBy q (commaSeparated (ps.map (·.name))) ↔
      Mentioned q r (ps.map fun p => .text p.name) := by
    rw [hq.qualifiedBy_commaSeparated]
    simp [Mentioned]
  unfold Mentions Trampoline.callLine Trampoline.callMentions
  dsimp only
  split
  · rename_i hnone
    rw [List.isEmpty_iff.1 hnone]
    simp (disch := decide) [String.append_assoc, hq.qualifiedBy_between, hq.qualifiedBy_before, hnames]
  · simp (disch := decide) only [qualifies_cons, qualifies_nil, mentioned_append, mentioned_cons, spelling_text,
      or_false, String.append_assoc, hq.qualifiedBy_between, hq.qualifiedBy_before, hnames]

theorem mentions_inputLines (p : Parameter) (native : String) :
    Mentions q r (Trampoline.inputLines r p native) (Trampoline.inputMentions r p native) := by
  have hconverted := mentions_toManaged (r := r) hq .define p.name native p.type
  unfold Trampoline.inputLines Trampoline.inputMentions
  dsimp only
  split
  · refine hconverted.append ?_
    unfold Mentions
    simp (disch := decide) [String.append_assoc, hq.qualifiedBy_after, hq.qualifiedBy_between]
  · exact hconverted

theorem mentions_resultLines (t : Trampoline) : Mentions q r (t.resultLines r) (t.resultMentions r) := by
  unfold Trampoline.resultLines Trampoline.resultMentions
  cases t.result with
  | none => simp [Mentions]
  | some p =>
    exact mentions_between hq [] ["return"] (by simp) (by decide)
      (mentions_toNative hq .set p.name ("_" ++ p.name) p.type)

theorem mentions_trampoline (t : Trampoline) : Mentions q r (t.lines r) (t.mentions r) := by
  have hexport : Mentions q r ["//export " ++ t.goName] [.text t.goName] := by
    unfold Mentions
    simp (disch := decide) [hq.qualifiedBy_after]
  have hbody : Mentions q r (t.body r) _ :=
    ((((mentions_toManaged hq .define t.dataParameter.name _ t.dataParameter.type).append
      (.flatMap fun x _ => mentions_inputLines hq x.1 x.2)).append (mentions_callLine hq t)).append
      (.flatMap fun x _ => mentions_toNative hq .set x.1.name x.2 x.1.type)).append (mentions_resultLines hq t)
  exact mentions_between hq [] ["\x7d", ""] (by simp) (by decide)
    ((hexport.append (mentions_trampolineHeading hq t)).append (mentions_indented hq hbody))

end

end Bindery
