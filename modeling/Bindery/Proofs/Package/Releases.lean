import Bindery.Proofs.Callback.Statements
import Bindery.Proofs.Package.Entries

/-!
# What exported functions release

A C string is converted with a deferred release of its memory, which suits the arguments of a call.
The exported function of a trampoline converts its result in the same way, so it releases the string
that it returns. It releases nothing else: no output of a callback has a type with a release.
-/

namespace Bindery

open Native (Identity)

/-! ## Conversions -/

namespace Descriptor

variable {d : Descriptor} (r : Registry) (b : Binding) (g c : String)

theorem released_managedStatements : (d.managedStatements r b g c).flatMap Statement.released = [] := by
  cases d <;> rfl

theorem released_of_isSingle (h : d.isSingle = true) :
    (d.nativeStatements r b g c).flatMap Statement.released = [] := by
  cases d <;> first | rfl | cases h

/-- Whether a callback stores a value of the type with a single statement, or through a pointer to
a type of which that is true. -/
def isStored : Descriptor → Bool
  | .callbackOutPointer target => target.isSingle
  | d => d.isSingle

theorem released_of_isStored (h : d.isStored = true) :
    (d.nativeStatements r b g c).flatMap Statement.released = [] := by
  cases d with
  | callbackOutPointer target =>
    rw [nativeStatements, List.flatMap_append, released_of_isSingle _ _ _ _ h]
    rfl
  | _ => exact released_of_isSingle _ _ _ _ h

end Descriptor

namespace Trampoline

variable {t : Trampoline} {r : Registry}

theorem mem_parameters_of_crossing {x : Parameter × String} (h : x ∈ t.crossing) : x.1 ∈ t.parameters :=
  (List.of_mem_zip (List.mem_of_mem_eraseIdx h)).1

theorem released_inputStatements (p : Parameter) (native : String) :
    (inputStatements r p native).flatMap Statement.released = [] := by
  unfold inputStatements
  dsimp only
  split
  · rw [List.flatMap_append, Descriptor.released_managedStatements]
    rfl
  · exact Descriptor.released_managedStatements _ _ _ _

theorem released_callStatement : t.callStatement.released = [] := by
  unfold callStatement
  dsimp only
  split <;> rfl

theorem released_flatMap {α : Type} {l : List α} {f : α → List Statement}
    (h : ∀ a ∈ l, (f a).flatMap Statement.released = []) : (l.flatMap f).flatMap Statement.released = [] := by
  rw [List.flatMap_assoc, List.flatMap_eq_nil_iff]
  exact h

/-- With outputs that are stored, only the conversion of the result releases anything. -/
theorem released_eq (h : ∀ p ∈ t.parameters, p.isOutput = true → p.type.isStored = true) :
    t.released r = (t.resultStatements r).flatMap Statement.released := by
  have data : (t.dataStatements r).flatMap Statement.released = [] :=
    Descriptor.released_managedStatements _ _ _ _
  have inputs : ((t.crossing.filter (!·.1.isOutput)).flatMap fun x =>
      inputStatements r x.1 x.2).flatMap Statement.released = [] :=
    released_flatMap fun x _ => released_inputStatements x.1 x.2
  have outputs : ((t.crossing.filter (·.1.isOutput)).flatMap fun x =>
      x.1.type.nativeStatements r .set x.1.name x.2).flatMap Statement.released = [] :=
    released_flatMap fun x hx => by
      obtain ⟨hcrossing, houtput⟩ := List.mem_filter.1 hx
      exact Descriptor.released_of_isStored _ _ _ _ (h x.1 (mem_parameters_of_crossing hcrossing) houtput)
  unfold released statements
  simp only [List.flatMap_append, data, inputs, outputs, List.flatMap_singleton, released_callStatement,
    List.nil_append]

/-- A result that is a C string is released when it is handed back. -/
theorem resultStatements_of_text {q : Parameter} (hq : t.result = some q) (h : q.type = .string) :
    t.resultStatements r =
      [.assign .set ("_" ++ q.name) ("C.CString(" ++ q.name ++ ")"), .release ("_" ++ q.name), .leave] := by
  unfold resultStatements
  rw [hq]
  dsimp only
  rw [h]
  rfl

theorem mem_handedBack_of_text {q : Parameter} (hq : t.result = some q) (h : q.type = .string) :
    "_" ++ q.name ∈ t.handedBack r := by
  unfold handedBack statements
  rw [resultStatements_of_text hq h, List.flatMap_append, hq]
  exact List.mem_append_right _ (by simp [Statement.handedBack])

end Trampoline

/-! ## Outputs -/

/-- The parameter of the user data is no output, and no other is changed. -/
theorem Trampoline.mem_of_output {site : CallbackSite} {name key : String} {ps : List Parameter}
    {returned : Option Descriptor} {q : Parameter}
    (hq : q ∈ (ofParameters site name key ps returned).parameters) (ho : q.isOutput = true) : q ∈ ps := by
  obtain ⟨i, hi⟩ := List.mem_iff_getElem?.1 hq
  have hi : (ps.modify site.callbackDataIndex _)[i]? = some q := hi
  rw [List.getElem?_modify] at hi
  by_cases hslot : site.callbackDataIndex = i
  · simp only [hslot, if_true, Option.map_eq_map, Option.map_eq_some_iff] at hi
    obtain ⟨a, -, rfl⟩ := hi
    cases ho
  · simp only [hslot, if_false, id_map'] at hi
    exact List.mem_iff_getElem?.2 ⟨i, hi⟩

namespace LoweringContext

variable {c : LoweringContext} {r r' : Registry} {id : Identity} {d : Descriptor}

theorem isStored_fromCallback_of_isSingle (h : d.isSingle = true) : d.fromCallback.isStored = true := by
  cases d <;> first | exact h | cases h

/-- An output that is no pointer is stored like a value. -/
theorem isStored_of_resolve (hc : c.Consistent r) (h : (c.resolve id .output).run r = .ok (d, r'))
    (hv : d.isVoid = false) : d.fromCallback.isStored = true := by
  have lowered {s : Bool} {x : Identity} {e : Descriptor} {r₁ r₂ : Registry} (hc : c.Consistent r₁)
      (he : (c.lower x s).run r₁ = .ok (e, r₂)) (hv : e.isVoid = false) : e.isSingle = true := by
    obtain ⟨n, M, hM⟩ := lowers_of_lower hc he
    exact hM.isSingle.resolve_left (by simp [hv])
  unfold resolve at h
  rw [if_neg nofun] at h
  obtain ⟨⟨x, node⟩, _, hask, h⟩ := Lowering.run_bind_ok.1 h
  obtain ⟨-, rfl⟩ := Lowering.run_ask_ok.1 hask
  dsimp only at h
  split at h
  · obtain ⟨target, r₁, htarget, h⟩ := Lowering.run_bind_ok.1 h
    split at h
    · obtain ⟨rfl, -⟩ := Lowering.run_pure_ok.1 h
      rfl
    · rename_i htargetVoid
      obtain ⟨rfl, -⟩ := Lowering.run_pure_ok.1 h
      exact lowered hc htarget (by simpa using htargetVoid)
  · exact isStored_fromCallback_of_isSingle (lowered hc h hv)

theorem isStored_of_standFor {q : Parameter} {a : Native.Argument × Nat} (h : c.StandsFor q a)
    (ho : q.isOutput = true) : q.fromCallback.type.isStored = true := by
  have hkind : a.1.kind = .output := by simpa [h.output] using ho
  obtain ⟨r, hr, -⟩ := h.type.run .empty
  rw [hkind] at hr
  exact isStored_of_resolve .empty hr h.value

theorem isStored_of_buildTrampoline {site : CallbackSite} {name : String} {t : Trampoline}
    (hr : c.Requested r) (h : (c.buildTrampoline site name).run r = .ok (t, r')) :
    ∀ q ∈ t.parameters, q.isOutput = true → q.type.isStored = true := by
  obtain ⟨f, ps, xs, r₁, returned, key, -, -, hargs, -, -, rfl⟩ := buildTrampoline_ok.1 h
  have hstands := lowerArguments_standFor hr.tidy.consistent hargs
  intro q hq ho
  obtain ⟨q₀, hq₀, rfl⟩ := List.mem_map.1 (Trampoline.mem_of_output hq ho)
  obtain ⟨_, -, hstandsFor⟩ := exists_partner hstands hq₀
  exact isStored_of_standFor hstandsFor ho

/-! ## Results -/

theorem isCString_of_isVoid (h : c.document.isVoid id = .ok true) : c.document.isCString id = .ok false := by
  obtain ⟨x, n, hs, hn⟩ := Native.Document.isVoid_ok.1 h
  cases n with
  | fundamental => exact Native.Document.bind_ok.2 ⟨_, hs, rfl⟩
  | _ => cases hn

theorem Returns.text_iff {returned : Option Descriptor} (h : c.Returns id returned) :
    returned = some .string ↔ c.document.isCString id = .ok true := by
  have untrue {b : Bool} (hb : c.document.isCString id = .ok b) (hf : b = false) :
      c.document.isCString id ≠ .ok true := by rw [hb, hf]; nofun
  cases h with
  | void h => exact iff_of_false nofun (untrue (isCString_of_isVoid h) rfl)
  | text h _ => exact iff_of_true rfl h
  | truth _ hs _ => exact iff_of_false nofun (untrue hs rfl)
  | value h _ hs _ hd =>
    refine iff_of_false (fun hstring => ?_) (untrue hs rfl)
    cases hstring
    cases h.isSingle.resolve_left nofun
  | nothing _ _ hs _ _ => exact iff_of_false nofun (untrue hs rfl)

/-- A result that is not a C string is converted without a release. -/
theorem Returns.released {d : Descriptor} (h : c.Returns id (some d)) (hne : d ≠ .string) (r : Registry)
    (b : Binding) (g s : String) : (d.nativeStatements r b g s).flatMap Statement.released = [] := by
  cases h with
  | text => exact absurd rfl hne
  | truth => cases b <;> rfl
  | value h _ _ _ hd => exact Descriptor.released_of_isSingle _ _ _ _ (h.isSingle.resolve_left (by simp [hd]))

end LoweringContext

namespace Package

variable {p p' : Package} {included : List Package}

theorem isStored_of_built {t : Trampoline} (ht : p.Built t) :
    ∀ q ∈ t.parameters, q.isOutput = true → q.type.isStored = true := by
  obtain ⟨site, name, r, r', hr, hbuilt⟩ := ht
  exact LoweringContext.isStored_of_buildTrampoline hr hbuilt

/-- In whatever registry it is written, the exported function releases the native result if the callback
returns a C string, and nothing else. -/
theorem mem_released_iff {t : Trampoline} (ht : p.Built t) {f : Native.FunctionType}
    (hf : p.document.functionType t.functionType = .ok f) (r : Registry) (x : String) :
    x ∈ t.released r ↔
      p.document.isCString f.returns = .ok true ∧ ∃ q, t.result = some q ∧ x = "_" ++ q.name := by
  have hreturns := returns_of_built ht hf
  have htext := hreturns.text_iff
  rw [Trampoline.released_eq (isStored_of_built ht)]
  cases hq : t.result with
  | none =>
    unfold Trampoline.resultStatements
    rw [hq]
    exact iff_of_false List.not_mem_nil fun ⟨_, _, hsome, _⟩ => nomatch hsome
  | some q =>
    rw [hq] at hreturns htext
    by_cases hstring : q.type = .string
    · have hC := htext.1 (congrArg some hstring)
      rw [Trampoline.resultStatements_of_text hq hstring]
      show x ∈ ["_" ++ q.name] ↔ _
      rw [List.mem_singleton]
      exact ⟨fun hx => ⟨hC, q, rfl, hx⟩, fun ⟨_, _, hq', hx⟩ => by cases hq'; exact hx⟩
    · have hC : p.document.isCString f.returns ≠ .ok true := fun hC => hstring (Option.some.inj (htext.2 hC))
      have hnone := hreturns.released hstring r .set q.name ("_" ++ q.name)
      unfold Trampoline.resultStatements
      rw [hq]
      dsimp only
      rw [List.flatMap_append, hnone]
      exact iff_of_false List.not_mem_nil fun h => hC h.1

/-- The exported function of a trampoline releases the result of a callback that returns a C string,
which it hands back to its caller, and nothing else. -/
theorem hands_back_released_iff (h : p.prepare included = .ok p') {t : Trampoline} (ht : t ∈ p'.trampolines) :
    (t.statements p'.types).map Statement.line = t.body p'.types ∧
      ∃ f, p.document.functionType t.functionType = .ok f ∧
        (∀ x, x ∈ t.released p'.types ↔
          p.document.isCString f.returns = .ok true ∧ ∃ q, t.result = some q ∧ x = "_" ++ q.name) ∧
        ((∃ x ∈ t.handedBack p'.types, x ∈ t.released p'.types) ↔
          p.document.isCString f.returns = .ok true) := by
  have hbuilt := prepare_built h t ht
  obtain ⟨f, hf⟩ := prepare_declares h t ht
  have htype : p.document.functionType t.functionType = .ok f := prepare_document h ▸ hf.type
  have hreleased := mem_released_iff hbuilt htype p'.types
  refine ⟨Trampoline.statements_line _ _, f, htype, hreleased, ?_, fun hC => ?_⟩
  · rintro ⟨x, -, hx⟩
    exact ((hreleased x).1 hx).1
  · obtain ⟨q, hq, hqtype⟩ := Option.map_eq_some_iff.1 ((returns_of_built hbuilt htype).text_iff.2 hC)
    exact ⟨_, Trampoline.mem_handedBack_of_text hq hqtype, (hreleased _).2 ⟨hC, q, hq, rfl⟩⟩

/-- A callback that returns a C string, and one that returns a number and stores another one. -/
def labels : Package where
  settings := { name := "labels" }
  filter := .all
  rules := {}
  ownedFiles := ["f"]
  document := {
    files := [⟨"f", "labels.h"⟩]
    types := Dict.ofList [
      ("c", .fundamental "char" 1),
      ("cp", .pointer "c" 8),
      ("i", .fundamental "int" 4),
      ("ip", .pointer "i" 8),
      ("label", .function { returns := "cp", arguments := [⟨"row", "i", .unset⟩, ⟨"user", "vp", .unset⟩] }),
      ("labelp", .pointer "label" 8),
      ("rank", .function { returns := "i", arguments := [⟨"of", "ip", .output⟩, ⟨"user", "vp", .unset⟩] }),
      ("rankp", .pointer "rank" 8),
      ("v", .fundamental "void" 0),
      ("vp", .pointer "v" 8)]
    functions := [
      { id := "f1", name := "on_label", file := "f", returns := "v", variadic := false, callback := none
        arguments := [⟨"fn", "labelp", .unset⟩, ⟨"user", "vp", .unset⟩] },
      { id := "f2", name := "on_rank", file := "f", returns := "v", variadic := false, callback := none
        arguments := [⟨"fn", "rankp", .unset⟩, ⟨"user", "vp", .unset⟩] }]
    globals := [] }

theorem labels_trampolines : ∃ p label rank, labels.prepare [] = .ok p ∧ p.trampolines = [label, rank] ∧
    label.body p.types = ["user := *(*func(int32) string)(_user)", "row := (int32)(_row)", "ret := user(row)",
      "_ret = C.CString(ret)", "defer C.free(unsafe.Pointer(_ret))", "return"] ∧
    label.handedBack p.types = ["_ret", "C.CString(ret)"] ∧ label.released p.types = ["_ret"] ∧
    rank.functionType = "rank" ∧ rank.handedBack p.types = ["_of_v", "_ret", "(C.int)(ret)"] := by
  obtain ⟨p, hp, hall⟩ := Native.Document.ok_of_any (x := labels.prepare [])
    (f := fun p => decide (
      p.trampolines.map (·.functionType) = ["label", "rank"] ∧
      p.trampolines.map (·.handedBack p.types) =
        [["_ret", "C.CString(ret)"], ["_of_v", "_ret", "(C.int)(ret)"]] ∧
      (p.trampolines.take 1).map (·.released p.types) = [["_ret"]] ∧
      (p.trampolines.take 1).map (·.body p.types) =
        [["user := *(*func(int32) string)(_user)", "row := (int32)(_row)", "ret := user(row)",
          "_ret = C.CString(ret)", "defer C.free(unsafe.Pointer(_ret))", "return"]])) (by decide +kernel)
  obtain ⟨htypes, hhanded, hreleased, hbody⟩ := of_decide_eq_true hall
  obtain ⟨label, rank, htrampolines, -, hrank⟩ := eq_pair_of_map htypes
  rw [htrampolines] at hhanded hreleased hbody
  obtain ⟨hlabelHanded, hrankHanded⟩ := List.cons.inj hhanded
  exact ⟨p, label, rank, hp, htrampolines, (List.cons.inj hbody).1, hlabelHanded, (List.cons.inj hreleased).1,
    hrank, (List.cons.inj hrankHanded).1⟩

theorem labels_rank_kept : ∃ p t, labels.prepare [] = .ok p ∧ t ∈ p.trampolines ∧
    t.handedBack p.types = ["_of_v", "_ret", "(C.int)(ret)"] ∧
    ∀ x ∈ t.handedBack p.types, x ∉ t.released p.types := by
  obtain ⟨p, label, rank, hp, htrampolines, -, -, -, hrank, hhanded⟩ := labels_trampolines
  have ht : rank ∈ p.trampolines := by
    rw [htrampolines]
    exact List.mem_cons_of_mem _ List.mem_cons_self
  obtain ⟨-, f, hf, -, hreleased⟩ := hands_back_released_iff hp ht
  rw [hrank] at hf
  obtain rfl := Except.ok.inj hf.symm
  refine ⟨p, rank, hp, ht, hhanded, fun x hx hr => ?_⟩
  cases hreleased.1 ⟨x, hx, hr⟩

/-- The string that is returned is released before its caller sees it. -/
theorem labels_label_released : labels.document.accept = .ok labels.document ∧
    ∃ p t, labels.prepare [] = .ok p ∧ t ∈ p.trampolines ∧
      t.body p.types = ["user := *(*func(int32) string)(_user)", "row := (int32)(_row)", "ret := user(row)",
        "_ret = C.CString(ret)", "defer C.free(unsafe.Pointer(_ret))", "return"] ∧
      "_ret" ∈ t.handedBack p.types ∧ "_ret" ∈ t.released p.types := by
  obtain ⟨p, label, rank, hp, htrampolines, hbody, hhanded, hreleased, -⟩ := labels_trampolines
  refine ⟨rfl, p, label, hp, by rw [htrampolines]; exact List.mem_cons_self, hbody, ?_, ?_⟩
  · rw [hhanded]
    exact List.mem_cons_self
  · rw [hreleased]
    exact List.mem_cons_self

end Package

end Bindery
