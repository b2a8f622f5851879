import Bindery.Proofs.Lowering.Results
import Bindery.Proofs.Package.Stubs
import Bindery.Render.Trampoline

/-!
# Stubs and the entries that they call

The stub of a trampoline has the parameters of the exported function. Whether it returns what that
does is decided by the C type of the callback, and whether there is a result by what that type lowers
to. Both agree but where a type lowers to nothing that is not `void`, and where a typedef calls itself
`void` although it is not.
-/

namespace Bindery

open Native (Identity Document Fundamental TypeNode)
open Native.Document (bind_ok lift_ok)

/-! ## Types that are spelled `void` -/

namespace Native.Document

variable {d : Document} {id : Identity} {s : String}

variable (d) in
inductive NamedVoid : Identity → Prop
  | typedef {id t} (hn : d.types.get? id = some (.typedef t)) (h : t.name = "void") : NamedVoid id
  | qualified {id base} (hn : d.types.get? id = some (.qualified base)) (h : NamedVoid base) : NamedVoid id

theorem NamedVoid.spelling (h : d.NamedVoid id) {depth : Nat} (hs : d.cSpellingWithin depth id = .ok s) :
    s = "void" := by
  induction h generalizing depth with
  | typedef hn h =>
    cases depth with
    | zero => cases hs
    | succ depth => exact (cSpellingWithin_named hn rfl hs).trans h
  | qualified hn _ ih =>
    cases depth with
    | zero => cases hs
    | succ depth => exact ih (cSpellingWithin_qualified hn hs)

theorem eq_void_of_cName {f : Fundamental} (h : f.cName = "void") : f = .void := by
  cases f <;> first | rfl | exact absurd h (by decide)

theorem fundamental?_of_spelled {name : String} {size : Nat}
    (h : (TypeNode.fundamental name size).spelled? = some "void") :
    (TypeNode.fundamental name size).fundamental? = some .void := by
  have h : (Fundamental.ofName? name).elim name Fundamental.cName = "void" := Option.some.inj h
  show Fundamental.ofName? name = some .void
  cases hf : Fundamental.ofName? name with
  | none =>
    rw [hf] at h
    obtain rfl : name = "void" := h
    cases hf
  | some f =>
    rw [hf] at h
    rw [eq_void_of_cName h]

theorem starred_ne_void (s : String) : s ++ "*" ≠ "void" := by
  intro h
  have := congrArg (fun s => s.toList.getLast?) h
  simp [String.toList_append] at this

/-- Nothing else is spelled `void`. -/
theorem isVoid_or_named_of_spelling {depth : Nat} (hs : d.cSpellingWithin depth id = .ok "void") :
    d.isVoid id = .ok true ∨ d.NamedVoid id := by
  induction depth generalizing id with
  | zero => cases hs
  | succ depth ih =>
    obtain ⟨node, hn, h⟩ := bind_ok.1 hs
    rw [node_ok] at hn
    cases node with
    | fundamental =>
      have hspelled := cSpellingWithin_named hn rfl hs
      exact .inl (isVoid_ok.2 ⟨id, _, strip_here hn rfl, fundamental?_of_spelled (congrArg some hspelled.symm)⟩)
    | typedef t => exact .inr (.typedef hn (cSpellingWithin_named hn rfl hs).symm)
    | qualified => exact (ih (cSpellingWithin_qualified hn hs)).imp (isVoid_step hn rfl).2 (.qualified hn)
    | pointer =>
      rcases cSpellingWithin_pointer hn hs with ⟨-, h⟩ | ⟨t, -, h⟩
      · exact (starred_ne_void "void" h.symm).elim
      · exact (starred_ne_void t h.symm).elim
    | array =>
      obtain ⟨t, -, h⟩ := bind_ok.1 h
      exact (starred_ne_void t (Except.ok.inj h)).elim
    | enumeration | struct | union =>
      have h := congrArg String.toList (cSpellingWithin_named hn rfl hs)
      simp [String.toList_append] at h
    | function | unimplemented | unsupported => exact (starred_ne_void "void" (Except.ok.inj h)).elim

theorem spelling_eq_void_iff (hv : d.isVoid id = .ok false) (hs : d.cSpelling id = .ok s) :
    s = "void" ↔ d.NamedVoid id := by
  refine ⟨fun h => ?_, fun h => h.spelling hs⟩
  subst h
  refine (isVoid_or_named_of_spelling hs).resolve_left fun hvoid => ?_
  cases hv.symm.trans hvoid

end Native.Document

/-! ## Prototypes -/

namespace Emission

variable {e : Emission} {t : Trampoline} {f : Native.FunctionType} {result : String}
  {parameters : List String} {q : Prototype}

variable (e t) in
structure WritesStub (f : Native.FunctionType) (result : String) (parameters : List String)
    (q : Prototype) : Prop where
  prototype : e.prototype t = .ok q
  type : e.package.document.functionType t.functionType = .ok f
  isVoid : e.package.document.isVoid f.returns = .ok q.returnsVoid
  spelling : if q.returnsVoid then result = "void" else e.package.document.cSpelling f.returns = .ok result
  declared : List.Forall₂ (fun x a => ∃ s, e.package.document.cSpelling a.1.type = .ok s ∧
    s ++ " " ++ stubParameterName a.2 a.1.name = x) parameters f.arguments.zipIdx
  names : q.argumentNames = f.arguments.zipIdx.map fun a => stubParameterName a.2 a.1.name
  text : q.text = result ++ " " ++ t.cName ++ "(" ++
    (if parameters.isEmpty then "void" else commaSeparated parameters) ++ ")"
  lines : e.stubLines t = .ok ["", q.text ++ " \x7b",
    "\t" ++ (if q.returnsVoid then "" else "return ") ++
      (t.goName ++ "(" ++ commaSeparated q.argumentNames ++ ");"), "\x7d"]

theorem writesStub (h : e.package.document.Declares t.functionType f) :
    ∃ result parameters q, e.WritesStub t f result parameters q := by
  obtain ⟨ps, hps⟩ := stubParameters_ok h
  obtain ⟨spelling, hspelling⟩ := h.returns
  obtain ⟨returnsVoid, hvoid⟩ := h.isVoid
  have hq := prototype_eq h.type hvoid hspelling hps
  have hall := (mapM_ok hps).imp fun x a hx => stubParameter_ok.1 hx
  have hnames : ps.map (·.2) = f.arguments.zipIdx.map fun a => stubParameterName a.2 a.1.name := by
    rw [← List.forall₂_eq_eq_eq, List.forall₂_map_left_iff, List.forall₂_map_right_iff]
    exact hall.imp fun x a ⟨s, _, hx⟩ => hx ▸ rfl
  refine ⟨if returnsVoid then "void" else spelling, ps.map (·.1), _, hq, h.type, hvoid, ?_, ?_, hnames, ?_, ?_⟩
  · cases returnsVoid with
    | true => rfl
    | false => exact hspelling
  · exact List.forall₂_map_left_iff.2 (hall.imp fun x a ⟨s, hs, hx⟩ => ⟨s, hs, hx ▸ rfl⟩)
  · simp only [List.isEmpty_map]
  · refine bind_ok.2 ⟨_, hq, ?_⟩
    cases returnsVoid <;> rfl

end Emission

/-! ## Entries -/

namespace Trampoline

variable (t : Trampoline) (r : Registry)

def entryParameters : List String := t.arguments.map fun a => a.native ++ " " ++ a.type.exportedName r

def entryResult : String :=
  match t.result with
  | some p => " (_" ++ p.name ++ " " ++ p.type.nativeName r ++ ")"
  | none => ""

theorem heading_eq : t.heading r =
    "func " ++ t.goName ++ "(" ++ commaSeparated (t.entryParameters r) ++ ")" ++ t.entryResult r ++ " \x7b" := rfl

variable {t r}

theorem entryResult_eq_empty_iff : t.entryResult r = "" ↔ t.result = none := by
  unfold entryResult
  cases t.result with
  | none => exact iff_of_true rfl rfl
  | some p =>
    refine iff_of_false (fun h => ?_) nofun
    have := congrArg String.toList h
    simp [String.toList_append] at this

theorem Coherent.entryParameters_length {d : Document} (h : t.Coherent d) {f : Native.FunctionType}
    (hf : d.functionType t.functionType = .ok f) : (t.entryParameters r).length = f.arguments.length := by
  obtain ⟨g, hg, harity⟩ := h.arity
  obtain rfl := Except.ok.inj (hf.symm.trans hg)
  rw [entryParameters, h.arguments, List.length_map, List.length_map, harity]

variable (t r) in
structure StubAgrees (result : String) (parameters : List String) (q : Prototype) : Prop where
  arity : parameters.length = (t.entryParameters r).length
  result : result ≠ "void" ↔ t.entryResult r ≠ ""
  body : q.returnsVoid = false ↔ t.entryResult r ≠ ""

section
variable {result : String} {parameters : List String} {q : Prototype}
  (harity : parameters.length = (t.entryParameters r).length)
include harity

theorem stubAgrees_of_void (hvoid : q.returnsVoid = true) (hresult : result = "void")
    (hentry : t.entryResult r = "") : t.StubAgrees r result parameters q where
  arity := harity
  result := iff_of_false (not_not_intro hresult) (not_not_intro hentry)
  body := iff_of_false (by simp [hvoid]) (not_not_intro hentry)

theorem stubAgrees_iff (hvoid : q.returnsVoid = false) :
    t.StubAgrees r result parameters q ↔ t.entryResult r ≠ "" ∧ result ≠ "void" := by
  constructor
  · intro h
    have hentry := h.body.1 hvoid
    exact ⟨hentry, h.result.2 hentry⟩
  · intro h
    exact ⟨harity, iff_of_true h.2 h.1, iff_of_true hvoid h.1⟩

end

end Trampoline

namespace LoweringContext

variable {c : LoweringContext} {r r' : Registry}

/-- The result of a trampoline is what the type of the callback's result gives. -/
theorem returns_of_buildTrampoline {site : CallbackSite} {name : String} {t : Trampoline} (hr : c.Requested r)
    (h : (c.buildTrampoline site name).run r = .ok (t, r')) {f : Native.FunctionType}
    (hf : c.document.functionType t.functionType = .ok f) : c.Returns f.returns (t.result.map (·.type)) := by
  obtain ⟨g, ps, xs, r₁, returned, key, hg, -, hargs, hreturned, -, rfl⟩ := buildTrampoline_ok.1 h
  obtain rfl := Except.ok.inj (hg.symm.trans hf)
  have hr₁ := preserves_lowerArguments c.preserves_requested _ _ _ _ _ hr hargs
  have hreturns := returns_of_resolveReturn hr₁.tidy.consistent hreturned
  cases returned <;> exact hreturns

end LoweringContext

namespace Package

variable {p p' : Package} {included : List Package}

theorem returns_of_built {t : Trampoline} (ht : p.Built t) {f : Native.FunctionType}
    (hf : p.document.functionType t.functionType = .ok f) :
    p.context.Returns f.returns (t.result.map (·.type)) := by
  obtain ⟨site, name, r, r', hr, hbuilt⟩ := ht
  exact LoweringContext.returns_of_buildTrampoline hr hbuilt hf

/-- A stub has as many parameters as the exported function. Both agree about the result if the callback
returns `void`. If it returns something else, they agree unless that lowers to nothing or is a typedef
with the name of `void`. -/
theorem stub_agrees_iff (h : p.prepare included = .ok p') {t : Trampoline} (ht : t ∈ p'.trampolines) :
    ∃ f result parameters q, (Emission.ofPackage p').WritesStub t f result parameters q ∧
      parameters.length = (t.entryParameters p'.types).length ∧
      (t.StubAgrees p'.types result parameters q ↔ p.document.isVoid f.returns = .ok true ∨
        ¬ (p.context.Collapses f.returns ∧ ¬ p.context.Truth f.returns) ∧
          ¬ p.document.NamedVoid f.returns) := by
  obtain ⟨f, hf⟩ := prepare_declares h t ht
  obtain ⟨result, parameters, q, hq⟩ := Emission.writesStub (e := Emission.ofPackage p') hf
  have hdocument := prepare_document h
  have htype : p.document.functionType t.functionType = .ok f := hdocument ▸ hf.type
  have hvoid : p.document.isVoid f.returns = .ok q.returnsVoid := hdocument ▸ hq.isVoid
  have hlength : parameters.length = (t.entryParameters p'.types).length := by
    rw [((prepare_wraps h).1 t ht).entryParameters_length htype, hq.declared.length_eq, List.length_zipIdx]
  have hnone : t.entryResult p'.types = "" ↔ p.document.isVoid f.returns = .ok true ∨
      p.context.Collapses f.returns ∧ ¬ p.context.Truth f.returns := by
    rw [Trampoline.entryResult_eq_empty_iff, ← Option.map_eq_none_iff (f := (·.type))]
    exact (returns_of_built (prepare_built h t ht) htype).none_iff
  refine ⟨f, result, parameters, q, hq, hlength, ?_⟩
  have hspelling := hq.spelling
  cases hreturnsVoid : q.returnsVoid with
  | true =>
    rw [hreturnsVoid] at hvoid hspelling
    exact iff_of_true (Trampoline.stubAgrees_of_void hlength hreturnsVoid hspelling (hnone.2 (.inl hvoid)))
      (.inl hvoid)
  | false =>
    rw [hreturnsVoid] at hvoid hspelling
    have hnotVoid : p.document.isVoid f.returns ≠ .ok true := by rw [hvoid]; nofun
    have hspelled := Native.Document.spelling_eq_void_iff hvoid (hdocument ▸ hspelling)
    rw [or_iff_right hnotVoid] at hnone
    rw [Trampoline.stubAgrees_iff hlength hreturnsVoid, or_iff_right hnotVoid, ← hnone, ← hspelled]

/-- Two callbacks with a result. The document does not describe the type that one of them returns. -/
def sensor : Package where
  settings := { name := "sensor" }
  filter := .all
  rules := {}
  ownedFiles := ["f"]
  document := {
    files := [⟨"f", "sensor.h"⟩]
    types := Dict.ofList [
      ("i", .fundamental "int" 4),
      ("level", .function { returns := "i", arguments := [⟨"user", "vp", .unset⟩] }),
      ("levelp", .pointer "level" 8),
      ("m", .unimplemented "__vector"),
      ("sample", .function { returns := "m", arguments := [⟨"channel", "i", .unset⟩, ⟨"user", "vp", .unset⟩] }),
      ("samplep", .pointer "sample" 8),
      ("v", .fundamental "void" 0),
      ("vp", .pointer "v" 8)]
    functions := [
      { id := "f1", name := "on_level", file := "f", returns := "v", variadic := false, callback := none
        arguments := [⟨"fn", "levelp", .unset⟩, ⟨"user", "vp", .unset⟩] },
      { id := "f2", name := "on_sample", file := "f", returns := "v", variadic := false, callback := none
        arguments := [⟨"fn", "samplep", .unset⟩, ⟨"user", "vp", .unset⟩] }]
    globals := [] }

theorem sensor_trampolines : ∃ p level sample, sensor.prepare [] = .ok p ∧ p.trampolines = [level, sample] ∧
    level.functionType = "level" ∧ sample.functionType = "sample" ∧ sample.result = none := by
  obtain ⟨p, hp, hall⟩ := Native.Document.ok_of_any (x := sensor.prepare [])
    (f := fun p => decide (p.trampolines.map (fun t => (t.functionType, t.result.isSome)) =
      [("level", true), ("sample", false)])) (by decide +kernel)
  obtain ⟨level, sample, htrampolines, hlevel, hsample⟩ := eq_pair_of_map (of_decide_eq_true hall)
  exact ⟨p, level, sample, hp, htrampolines, congrArg Prod.fst hlevel, congrArg Prod.fst hsample,
    by simpa using congrArg Prod.snd hsample⟩

theorem sensor_level_agrees : ∃ p t, sensor.prepare [] = .ok p ∧ t ∈ p.trampolines ∧
    ∃ f result parameters q, (Emission.ofPackage p).WritesStub t f result parameters q ∧ f.returns = "i" ∧
      t.StubAgrees p.types result parameters q := by
  obtain ⟨p, level, sample, hp, htrampolines, hlevel, -⟩ := sensor_trampolines
  have ht : level ∈ p.trampolines := by rw [htrampolines]; exact List.mem_cons_self
  obtain ⟨f, result, parameters, q, hq, -, hagrees⟩ := stub_agrees_iff hp ht
  have htype : p.document.functionType level.functionType = .ok f := hq.type
  rw [prepare_document hp, hlevel] at htype
  obtain rfl := Except.ok.inj htype.symm
  refine ⟨p, level, hp, ht, _, result, parameters, q, hq, rfl, hagrees.2 (.inr ⟨fun h => ?_, fun h => ?_⟩)⟩
  · obtain ⟨x, name, hs⟩ := h.1.strip
    cases hs
  · have hspelling : sensor.document.cSpellingWithin 1 "i" = .ok "int" := rfl
    exact absurd (h.spelling hspelling) (by decide)

/-- The stub returns what the exported function does not give. -/
theorem sensor_sample_disagrees : sensor.document.accept = .ok sensor.document ∧
    ∃ p t f parameters q, sensor.prepare [] = .ok p ∧ t ∈ p.trampolines ∧
      (Emission.ofPackage p).WritesStub t f "void*" parameters q ∧ q.returnsVoid = false ∧
      t.entryResult p.types = "" ∧ ¬ t.StubAgrees p.types "void*" parameters q := by
  obtain ⟨p, level, sample, hp, htrampolines, -, hsample, hresult⟩ := sensor_trampolines
  have ht : sample ∈ p.trampolines := by
    rw [htrampolines]
    exact List.mem_cons_of_mem _ List.mem_cons_self
  obtain ⟨f, hf⟩ := prepare_declares hp sample ht
  obtain ⟨result, parameters, q, hq⟩ := Emission.writesStub (e := Emission.ofPackage p) hf
  have hdocument := prepare_document hp
  have htype := hf.type
  rw [hdocument, hsample] at htype
  obtain rfl := Except.ok.inj htype.symm
  have hvoid : sensor.document.isVoid "m" = .ok q.returnsVoid := hdocument ▸ hq.isVoid
  have hreturns : q.returnsVoid = false := Except.ok.inj hvoid.symm
  have hspelling := hq.spelling
  rw [hreturns] at hspelling
  have hspelled : sensor.document.cSpelling "m" = .ok result := hdocument ▸ hspelling
  obtain rfl : result = "void*" := Except.ok.inj hspelled.symm
  have hempty := Trampoline.entryResult_eq_empty_iff (r := p.types).2 hresult
  exact ⟨rfl, p, sample, _, parameters, q, hp, ht, hq, hreturns, hempty, fun h => h.body.1 hreturns hempty⟩

end Package

end Bindery
