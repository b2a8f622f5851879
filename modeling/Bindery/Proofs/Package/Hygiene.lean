import Bindery.Proofs.Callback.Statements
import Bindery.Proofs.Lowering.Outputs
import Bindery.Proofs.Lowering.Parameters
import Bindery.Proofs.Package.Wrapping
import Bindery.Render.Function

/-!
# Hygiene of wrappers

The body of a wrapper has a local for the native value of each argument, one for the native result,
and a buffer for what is converted element by element. Their names are those of the parameters and of
the result with underscores around them, and nothing looks whether they are free. They are, but for a
few names that are told here.
-/

namespace Bindery

open Native (Identity Document)

/-! ## Statements of wrappers -/

namespace Statement

def declared : Statement → List String
  | declare name _ => [name]
  | assign .define target _ => [target]
  | _ => []

def loopVariable? : Statement → Option String
  | opening head => (withoutStart? "for " head).map fun rest => String.ofList (rest.toList.takeWhile (· ≠ ' '))
  | inner s => s.loopVariable?
  | _ => none

end Statement

namespace Descriptor

/-- Whether elements are converted one by one, into a buffer of which the address is passed. -/
def isBuffered : Descriptor → Bool
  | .sliceOfSlice _ => true
  | .stringArray => true
  | _ => false

def isPassed : Descriptor → Bool
  | .void => false
  | .callbackOutPointer _ => false
  | _ => true

variable {d : Descriptor} (r : Registry) (g s : String)

theorem declared_nativeStatements (h : d.isPassed = true) :
    (d.nativeStatements r .define g s).flatMap Statement.declared =
      if d.isBuffered then [s ++ "_", s] else [s] := by
  cases d <;> first | rfl | cases h

theorem declared_managedStatements (d : Descriptor) :
    (d.managedStatements r .set g s).flatMap Statement.declared = [] := by
  cases d <;> rfl

theorem loopVariable?_sliceStatements (b : Binding) (g s elem : String) :
    (sliceStatements b g s elem).filterMap Statement.loopVariable? = [] := by
  cases b <;> simp [sliceStatements, Statement.loopVariable?, withoutStart?, dropStart?]

/-- The only loops are those that fill a buffer, and their variable is always the same. -/
theorem loopVariable?_nativeStatements (h : d.isPassed = true) :
    (d.nativeStatements r .define g s).filterMap Statement.loopVariable? =
      if d.isBuffered then ["i"] else [] := by
  cases d with
  | void => cases h
  | callbackOutPointer => cases h
  | boolean =>
    simp [nativeStatements, isBuffered, Statement.loopVariable?, withoutStart?, dropStart?]
  | slice => exact loopVariable?_sliceStatements _ _ _ _
  | sliceOfSlice | stringArray =>
    simp [nativeStatements, isBuffered, List.filterMap_cons, loopVariable?_sliceStatements,
      Statement.loopVariable?, withoutStart?, dropStart?]
  | _ => rfl

theorem exists_loop_iff (h : d.isPassed = true) {v : String} :
    (∃ x ∈ d.nativeStatements r .define g s, x.loopVariable? = some v) ↔ d.isBuffered = true ∧ v = "i" := by
  rw [← List.mem_filterMap, loopVariable?_nativeStatements r g s h]
  cases d.isBuffered <;> simp

end Descriptor

/-- Whether the variable of a loop in the conversion hides the managed value that is converted. -/
def CallArgument.IsShadowed (r : Registry) (x : CallArgument) : Prop :=
  ∃ s ∈ x.type.nativeStatements r .define x.managed x.native, s.loopVariable? = some x.managed

namespace Wrapper

variable (w : Wrapper) (r : Registry)

def argumentStatements : List Statement :=
  w.arguments.flatMap fun x => x.type.nativeStatements r .define x.managed x.native

def callStatements : List Statement :=
  match w.result with
  | some q =>
    .assign .define ("_" ++ q.name) w.call :: q.type.managedStatements r .set q.name ("_" ++ q.name)
  | none => [.call ("C." ++ w.native) (w.arguments.map (·.native))]

def statements : List Statement :=
  w.argumentStatements r ++ w.callStatements r ++ (if w.outputs.isEmpty then [] else [.leave])

theorem callStatements_line : (w.callStatements r).map Statement.line = w.callLines r := by
  unfold callStatements callLines
  cases w.result with
  | none => simp [Statement.line, call]
  | some q =>
    simp [Descriptor.managedStatements_line, Statement.line, Binding.assign, Binding.operator,
      ← String.toList_inj]

/-- The statements are those of the lines that are written. -/
theorem statements_line : (w.statements r).map Statement.line = w.body r := by
  unfold statements body argumentStatements argumentLines
  simp only [List.map_append, List.map_flatMap, Descriptor.nativeStatements_line, callStatements_line]
  split <;> rfl

def names : List String := w.allParameters.map (·.name) ++ w.result.toList.map (·.name)

def locals : List String := (w.statements r).flatMap Statement.declared

def buffered : List CallArgument := w.arguments.filter (·.type.isBuffered)

variable {w} (hpassed : ∀ x ∈ w.arguments, x.type.isPassed = true)

theorem declared_callStatements :
    (w.callStatements r).flatMap Statement.declared = w.result.toList.map fun q => "_" ++ q.name := by
  unfold callStatements
  cases w.result with
  | none => rfl
  | some q => simp [Statement.declared, Descriptor.declared_managedStatements]

include hpassed in
theorem declared_argumentStatements : ((w.argumentStatements r).flatMap Statement.declared).Perm
    (w.arguments.map (·.native) ++ w.buffered.map fun x => x.native ++ "_") := by
  unfold argumentStatements buffered
  generalize w.arguments = xs at hpassed ⊢
  induction xs with
  | nil => exact .nil
  | cons x xs ih =>
    have hrest := ih fun y hy => hpassed y (List.mem_cons_of_mem x hy)
    rw [List.flatMap_cons, List.flatMap_append,
      Descriptor.declared_nativeStatements _ _ _ (hpassed x List.mem_cons_self), List.map_cons, List.filter_cons]
    cases x.type.isBuffered with
    | false => exact hrest.cons _
    | true =>
      -- a buffer is declared before the local that points to it, and is counted after all of these
      exact ((hrest.cons _).cons _).trans ((List.Perm.swap _ _ _).trans (List.perm_middle.symm.cons _))

include hpassed in
/-- There is a local for each argument, one more for each that is buffered, and one for the result. -/
theorem locals_perm : (w.locals r).Perm
    ((w.arguments.map (·.native) ++ w.buffered.map fun x => x.native ++ "_") ++
      w.result.toList.map fun q => "_" ++ q.name) := by
  unfold locals statements
  rw [List.flatMap_append, List.flatMap_append, declared_callStatements]
  have hleave : (if w.outputs.isEmpty then [] else [Statement.leave]).flatMap Statement.declared = [] := by
    split <;> rfl
  rw [hleave, List.append_nil]
  exact (declared_argumentStatements r hpassed).append_right _

include hpassed in
theorem nodup_locals_iff (hfree : ∀ q ∈ w.result.toList, "_" ++ q.name ∉ w.arguments.map (·.native)) :
    (w.locals r).Nodup ↔ (w.arguments.map (·.native)).Nodup ∧ ∀ x ∈ w.buffered,
      x.native ++ "_" ∉ w.arguments.map (·.native) ∧
        ∀ q ∈ w.result.toList, x.native ++ "_" ≠ "_" ++ q.name := by
  have hresult : (w.result.toList.map fun q => "_" ++ q.name).Nodup := by
    cases w.result <;> simp
  have hbuffers (h : (w.arguments.map (·.native)).Nodup) : (w.buffered.map fun x => x.native ++ "_").Nodup := by
    have hsub : (w.buffered.map (·.native)).Nodup := h.sublist (List.filter_sublist.map _)
    rw [show (fun x : CallArgument => x.native ++ "_") = (· ++ "_") ∘ (·.native) from rfl, ← List.map_map]
    exact hsub.map fun s t hst => (String.append_left_inj "_").1 hst
  rw [(locals_perm r hpassed).nodup_iff, List.nodup_append, List.nodup_append]
  constructor
  · rintro ⟨⟨hnatives, -, hapart⟩, -, hapart'⟩
    refine ⟨hnatives, fun x hx => ⟨fun hmem => ?_, fun q hq heq => ?_⟩⟩
    · exact hapart _ hmem _ (List.mem_map_of_mem hx) rfl
    · exact hapart' _ (List.mem_append_right _ (List.mem_map_of_mem hx)) _ (List.mem_map_of_mem hq) heq
  · rintro ⟨hnatives, hall⟩
    refine ⟨⟨hnatives, hbuffers hnatives, ?_⟩, hresult, ?_⟩
    · rintro s hs t ht rfl
      obtain ⟨x, hx, rfl⟩ := List.mem_map.1 ht
      exact (hall x hx).1 hs
    · rintro s hs t ht rfl
      obtain ⟨q, hq, rfl⟩ := List.mem_map.1 ht
      rcases List.mem_append.1 hs with hs | hs
      · exact hfree q hq hs
      · obtain ⟨x, hx, heq⟩ := List.mem_map.1 hs
        exact (hall x hx).2 q hq heq

inductive BufferTaken (w : Wrapper) : Prop
  | result {x} (hx : x ∈ w.buffered) (hn : x.native = "_ret") (hr : w.result.isSome = true)
  | argument {x} (hx : x ∈ w.buffered) (hn : x.native = "_") (hy : "__" ∈ w.arguments.map (·.native))

end Wrapper

/-! ## Names of a wrapper -/

theorem LoweringContext.Resolves.isPassed {c : LoweringContext} {id : Identity} {kind : Native.PointerKind}
    {d : Descriptor} (h : c.Resolves id kind d) (hv : d.isVoid = false) : d.isPassed = true := by
  cases h with
  | value h _ =>
    rcases h.isSingle with hvoid | hsingle
    · cases hv.symm.trans hvoid
    · cases d <;> first | rfl | cases hsingle
  | _ => rfl

def CallbackSite.IsUserData (d : Document) (f : Native.Function) (i : Nat) : Prop :=
  ∃ site, CallbackSite.detect d f = .ok (some site) ∧ i = site.dataIndex

namespace Package

variable {p : Package} {ts : List Trampoline} {f : Native.Function} {own : List Parameter} {w : Wrapper}

theorem Wraps.names (h : p.Wraps ts f own w) : ∀ name ∈ own.map (·.name), ∃ s, name = lowerName s := by
  intro name hname
  obtain ⟨q, hq, rfl⟩ := List.mem_map.1 hname
  obtain ⟨a, -, ha⟩ := exists_partner h.standFor hq
  exact ⟨_, ha.name.trans (parameterName_eq _ _)⟩

theorem Wraps.natives (h : p.Wraps ts f own w) :
    w.arguments.map (·.native) = (own.map (·.name)).map ("_" ++ ·) := by
  rw [h.native, List.map_map]
  rfl

theorem Wraps.isPassed (h : p.Wraps ts f own w) : ∀ x ∈ w.arguments, x.type.isPassed = true := by
  have hown : ∀ q ∈ own, q.type.isPassed = true := fun q hq => by
    obtain ⟨a, -, ha⟩ := exists_partner h.standFor hq
    exact (LoweringContext.resolves_of_gives ha.type).isPassed ha.value
  intro x hx
  cases h.calls with
  | direct _ hw =>
    rw [hw.arguments] at hx
    obtain ⟨q, hq, rfl⟩ := List.mem_map.1 hx
    exact hown q hq
  | @redirected site t _ _ _ hw =>
    obtain ⟨pointer, userData, hp, -, hpointer, hdata⟩ := hw.pair
    obtain ⟨i, hi⟩ := List.mem_iff_getElem?.1 hx
    by_cases harg : i = site.argIndex
    · rw [harg, hpointer] at hi
      obtain rfl := Option.some.inj hi
      exact hown pointer (List.mem_of_getElem? hp)
    · by_cases hslot : i = site.dataIndex
      · rw [hslot, hdata] at hi
        obtain rfl := Option.some.inj hi
        rfl
      · rw [hw.others i harg hslot] at hi
        obtain ⟨q, hq, rfl⟩ := Option.map_eq_some_iff.1 hi
        exact hown q (List.mem_of_getElem? hq)

/-- The user data is the one argument of which a wrapper has no parameter. -/
theorem Wraps.allParameters_names (h : p.Wraps ts f own w) :
    (∀ i, ¬ CallbackSite.IsUserData p.document f i) ∧ w.allParameters.map (·.name) = own.map (·.name) ∨
      ∃ i, (∀ j, CallbackSite.IsUserData p.document f j ↔ j = i) ∧ i < own.length ∧
        w.allParameters.map (·.name) = (own.map (·.name)).eraseIdx i := by
  cases h.calls with
  | direct hs hw =>
    refine .inl ⟨fun i hi => ?_, by rw [hw.parameters]⟩
    obtain ⟨site, hsite, -⟩ := hi
    cases hs.symm.trans hsite
  | @redirected site t hs _ _ hw =>
    refine .inr ⟨site.dataIndex, fun j => ⟨fun hj => ?_, fun hj => ⟨site, hs, hj⟩⟩, hw.within.data, ?_⟩
    · obtain ⟨site', hsite, hj⟩ := hj
      cases hs.symm.trans hsite
      exact hj
    · have hsame : (own.modify site.argIndex t.callable).map (·.name) = own.map (·.name) := by
        rw [map_modify (k := id) (g := Parameter.name) (f := t.callable) fun _ => rfl, List.modify_id]
      rw [hw.parameters, ← List.eraseIdx_map, hsame]

def DataNamedTwice (d : Document) (f : Native.Function) (w : Wrapper) : Prop :=
  ∃ i name, CallbackSite.IsUserData d f i ∧ (w.arguments.map (·.native))[i]? = some name ∧
    name ∈ (w.arguments.map (·.native)).eraseIdx i

/-- If the parameters have names of their own, all that can share its name is the user data. -/
theorem Wraps.nodup_natives_iff (h : p.Wraps ts f own w) (hdistinct : (w.allParameters.map (·.name)).Nodup) :
    (w.arguments.map (·.native)).Nodup ↔ ¬ DataNamedTwice p.document f w := by
  have hinj : Function.Injective ("_" ++ · : String → String) := fun s t hst => (String.append_right_inj "_").1 hst
  rcases h.allParameters_names with ⟨hnone, hnames⟩ | ⟨i, hdata, hi, hnames⟩
  · rw [hnames] at hdistinct
    rw [h.natives]
    refine iff_of_true (hdistinct.map hinj) ?_
    rintro ⟨j, -, hj, -⟩
    exact hnone j hj
  · rw [hnames] at hdistinct
    have hlast : (w.arguments.map (·.native))[i]? = some ("_" ++ own[i].name) := by
      rw [h.natives, List.getElem?_map, List.getElem?_map, List.getElem?_eq_getElem hi]
      rfl
    have hrest : ((w.arguments.map (·.native)).eraseIdx i).Nodup := by
      rw [h.natives, List.eraseIdx_map]
      exact hdistinct.map hinj
    rw [nodup_iff_eraseIdx hlast]
    constructor
    · rintro ⟨hnot, -⟩ ⟨j, name, hj, hname, hmem⟩
      obtain rfl := (hdata j).1 hj
      obtain rfl := Option.some.inj (hlast.symm.trans hname)
      exact hnot hmem
    · exact fun hnot => ⟨fun hmem => hnot ⟨i, _, (hdata i).2 rfl, hlast, hmem⟩, hrest⟩

/-- The result has a name that no argument has, which is called `ret_` only if one is called `ret`. -/
theorem WrapsResult.result_name (h : p.WrapsResult ts f own w) {q : Parameter} (hq : w.result = some q) :
    q.name ∉ own.map (·.name) ∧ (q.name = "ret" ∨ q.name = "ret_" ∧ "ret" ∈ own.map (·.name)) := by
  obtain ⟨returned, hresult⟩ := h.result
  obtain ⟨hfree, k, hk, htaken⟩ := resultParameter_spec (hresult.symm.trans hq)
  refine ⟨hfree, ?_⟩
  match k with
  | 0 => exact .inl (hk.trans (Scope.underscored_zero "ret"))
  | 1 => exact .inr ⟨hk, htaken 0 Nat.zero_lt_one⟩
  | k + 2 =>
    -- no argument is called `ret_`
    obtain ⟨s, hs⟩ := h.wraps.names _ (htaken 1 (by omega))
    have hreserved : "ret" = "" ∨ "ret" ∈ reservedNames := of_lowerName_underscored hs.symm
    exact absurd hreserved (by decide)

theorem WrapsResult.free_result (h : p.WrapsResult ts f own w) :
    ∀ q ∈ w.result.toList, "_" ++ q.name ∉ w.arguments.map (·.native) := by
  intro q hq hmem
  rw [h.wraps.natives] at hmem
  obtain ⟨name, hname, heq⟩ := List.mem_map.1 hmem
  rw [(String.append_right_inj "_").1 heq] at hname
  exact (h.result_name (Option.mem_toList.1 hq)).1 hname

theorem Wraps.native_name (h : p.Wraps ts f own w) {native : String}
    (hn : native ∈ w.arguments.map (·.native)) : ∃ s, native = "_" ++ lowerName s := by
  rw [h.natives] at hn
  obtain ⟨name, hname, rfl⟩ := List.mem_map.1 hn
  obtain ⟨s, rfl⟩ := h.names name hname
  exact ⟨s, rfl⟩

section
variable {x : CallArgument} (hx : x ∈ w.buffered)
include hx

theorem Wrapper.native_mem_of_buffered : x.native ∈ w.arguments.map (·.native) :=
  List.mem_map_of_mem (List.mem_filter.1 hx).1

theorem Wraps.buffer_argument_iff (h : p.Wraps ts f own w) :
    x.native ++ "_" ∈ w.arguments.map (·.native) ↔ x.native = "_" ∧ "__" ∈ w.arguments.map (·.native) := by
  constructor
  · intro hmem
    obtain ⟨s, hs⟩ := h.native_name (Wrapper.native_mem_of_buffered hx)
    obtain ⟨t, ht⟩ := h.native_name hmem
    rw [hs, String.append_assoc, String.append_right_inj] at ht
    have hempty : lowerName s = "" :=
      (of_lowerName_underscored ht.symm).resolve_right (lowerName_notMem_reserved s)
    have hn : x.native = "_" := by rw [hs, hempty]; rfl
    exact ⟨hn, by rwa [hn] at hmem⟩
  · rintro ⟨hn, hmem⟩
    rw [hn]
    exact hmem

theorem WrapsResult.buffer_result_iff (h : p.WrapsResult ts f own w) :
    (∃ q ∈ w.result.toList, x.native ++ "_" = "_" ++ q.name) ↔ x.native = "_ret" ∧ w.result.isSome = true := by
  have hmem := Wrapper.native_mem_of_buffered hx
  constructor
  · rintro ⟨q, hq, heq⟩
    obtain ⟨s, hs⟩ := h.wraps.native_name hmem
    rw [hs, String.append_assoc, String.append_right_inj] at heq
    rw [Option.mem_toList] at hq
    obtain ⟨-, hret | ⟨hret, -⟩⟩ := h.result_name hq
    · -- a buffer's name ends in an underscore
      have hlast := congrArg (·.toList.getLast?) (heq.trans hret)
      simp at hlast
    · have hname : lowerName s = "ret" := (String.append_left_inj "_").1 (heq.trans hret)
      exact ⟨by rw [hs, hname]; rfl, by rw [hq]; rfl⟩
  · rintro ⟨hn, hr⟩
    obtain ⟨q, hq⟩ := Option.isSome_iff_exists.1 hr
    rw [hn, h.wraps.natives] at hmem
    obtain ⟨name, hname, heq⟩ := List.mem_map.1 hmem
    rw [show name = "ret" from (String.append_right_inj "_").1 heq] at hname
    obtain ⟨hfree, hret | ⟨hret, -⟩⟩ := h.result_name hq
    · exact absurd (hret ▸ hname) hfree
    · refine ⟨q, Option.mem_toList.2 hq, ?_⟩
      rw [hn, hret]
      rfl

end

theorem WrapsResult.bufferTaken_iff (h : p.WrapsResult ts f own w) : w.BufferTaken ↔
    ∃ x ∈ w.buffered, x.native ++ "_" ∈ w.arguments.map (·.native) ∨
      ∃ q ∈ w.result.toList, x.native ++ "_" = "_" ++ q.name := by
  constructor
  · rintro (⟨hx, hn, hr⟩ | ⟨hx, hn, hy⟩)
    · exact ⟨_, hx, .inr ((h.buffer_result_iff hx).2 ⟨hn, hr⟩)⟩
    · exact ⟨_, hx, .inl ((h.wraps.buffer_argument_iff hx).2 ⟨hn, hy⟩)⟩
  · rintro ⟨x, hx, hmem | hresult⟩
    · obtain ⟨hn, hy⟩ := (h.wraps.buffer_argument_iff hx).1 hmem
      exact .argument hx hn hy
    · obtain ⟨hn, hr⟩ := (h.buffer_result_iff hx).1 hresult
      exact .result hx hn hr

theorem Wraps.own_names (h : p.Wraps ts f own w) :
    own.map (·.name) = f.arguments.zipIdx.map fun a => parameterName a.2 a.1.name := by
  rw [← List.forall₂_eq_eq_eq, List.forall₂_map_left_iff, List.forall₂_map_right_iff]
  exact h.standFor.imp fun _ _ ha => ha.name

theorem Wraps.mem_names_iff (h : p.Wraps ts f own w) (name : String) :
    name ∈ w.allParameters.map (·.name) ↔ ∃ i a, f.arguments[i]? = some a ∧
      ¬ CallbackSite.IsUserData p.document f i ∧ parameterName i a.name = name := by
  have hown (i : Nat) : (own.map (·.name))[i]? = some name ↔
      ∃ a, f.arguments[i]? = some a ∧ parameterName i a.name = name := by
    rw [h.own_names, List.getElem?_map, List.getElem?_zipIdx]
    simp
  rcases h.allParameters_names with ⟨hnone, hnames⟩ | ⟨k, hdata, -, hnames⟩
  · rw [hnames, List.mem_iff_getElem?]
    constructor
    · rintro ⟨i, hi⟩
      obtain ⟨a, ha, hname⟩ := (hown i).1 hi
      exact ⟨i, a, ha, hnone i, hname⟩
    · rintro ⟨i, a, ha, -, hname⟩
      exact ⟨i, (hown i).2 ⟨a, ha, hname⟩⟩
  · rw [hnames, List.mem_eraseIdx_iff_getElem?]
    constructor
    · rintro ⟨i, hne, hi⟩
      obtain ⟨a, ha, hname⟩ := (hown i).1 hi
      exact ⟨i, a, ha, fun hi => hne ((hdata i).1 hi), hname⟩
    · rintro ⟨i, a, ha, hnot, hname⟩
      exact ⟨i, fun hi => hnot ((hdata i).2 hi), (hown i).2 ⟨a, ha, hname⟩⟩

theorem WrapsResult.hidden_iff (h : p.WrapsResult ts f own w) :
    (∀ name ∈ w.names, name ≠ "C" ∧ name ≠ "unsafe") ↔
      ∀ i a, f.arguments[i]? = some a → ¬ CallbackSite.IsUserData p.document f i →
        lowerCamel a.name ≠ "C" ∧ lowerCamel a.name ≠ "unsafe" := by
  have hcgo {i : Nat} {native : String} : parameterName i native = "C" ↔ lowerCamel native = "C" :=
    parameterName_eq_iff (by decide +kernel) (by decide) (by decide) (by decide)
  have himport {i : Nat} {native : String} : parameterName i native = "unsafe" ↔ lowerCamel native = "unsafe" :=
    parameterName_eq_iff (by decide +kernel) (by decide) (by decide) (by decide)
  constructor
  · intro hall i a ha hnot
    have hmem : parameterName i a.name ∈ w.names :=
      List.mem_append_left _ ((h.wraps.mem_names_iff _).2 ⟨i, a, ha, hnot, rfl⟩)
    exact ⟨fun hname => (hall _ hmem).1 (hcgo.2 hname), fun hname => (hall _ hmem).2 (himport.2 hname)⟩
  · intro hall name hname
    rcases List.mem_append.1 hname with hname | hname
    · obtain ⟨i, a, ha, hnot, rfl⟩ := (h.wraps.mem_names_iff name).1 hname
      obtain ⟨hne, hne'⟩ := hall i a ha hnot
      exact ⟨fun heq => hne (hcgo.1 heq), fun heq => hne' (himport.1 heq)⟩
    · obtain ⟨q, hq, rfl⟩ := List.mem_map.1 hname
      obtain ⟨-, hret | ⟨hret, -⟩⟩ := h.result_name (Option.mem_toList.1 hq)
      · rw [hret]
        decide
      · rw [hret]
        decide

/-- Where parameters and result have names of their own, the body of a wrapper is hygienic but for the
names that are told here: its locals are declared once unless the user data has the name of another
argument or a buffer that of another local, no loop hides what it converts unless that is called `i`,
and nothing hides what the body imports unless it is called so. -/
theorem wrappers_hygienic_iff {included : List Package} {p' : Package} (h : p.prepare included = .ok p')
    (hw : w ∈ p'.functions ++ p'.types.methods)
    (hdistinct : w.names.Nodup) (r : Registry) :
    (w.statements r).map Statement.line = w.body r ∧
    ∃ f ∈ p.wantedFunctions, w.origin = f.origin ∧
      ((w.locals r).Nodup ↔ ¬ DataNamedTwice p.document f w ∧ ¬ w.BufferTaken) ∧
      ((∀ x ∈ w.arguments, ¬ x.IsShadowed r) ↔ ∀ x ∈ w.buffered, x.managed ≠ "i") ∧
      ((∀ name ∈ w.names, name ≠ "C" ∧ name ≠ "unsafe") ↔
        ∀ i a, f.arguments[i]? = some a → ¬ CallbackSite.IsUserData p.document f i →
          lowerCamel a.name ≠ "C" ∧ lowerCamel a.name ≠ "unsafe") := by
  obtain ⟨f, hf, own, hwraps⟩ := (prepare_results h).2 w hw
  have hpassed := hwraps.wraps.isPassed
  refine ⟨w.statements_line r, f, hf, hwraps.wraps.origin, ?_, ?_, hwraps.hidden_iff⟩
  · rw [Wrapper.nodup_locals_iff r hpassed hwraps.free_result,
      hwraps.wraps.nodup_natives_iff (List.nodup_append.1 hdistinct).1, hwraps.bufferTaken_iff]
    simp only [not_exists, not_and, not_or]
  · unfold Wrapper.buffered
    constructor
    · intro hall x hx hi
      obtain ⟨hx, hb⟩ := List.mem_filter.1 hx
      exact hall x hx ((Descriptor.exists_loop_iff r _ _ (hpassed x hx)).2 ⟨hb, hi⟩)
    · intro hall x hx hshadowed
      obtain ⟨hb, hi⟩ := (Descriptor.exists_loop_iff r _ _ (hpassed x hx)).1 hshadowed
      exact hall x (List.mem_filter.2 ⟨hx, hb⟩) hi

/-- A function with an argument called `C`, and one that buffers its argument and has a result. -/
def plots : Package where
  settings := { name := "plots" }
  filter := .all
  rules := {}
  ownedFiles := ["f"]
  document := {
    files := [⟨"f", "plots.h"⟩]
    types := Dict.ofList [
      ("c", .fundamental "char" 1),
      ("cp", .pointer "c" 8),
      ("cpp", .pointer "cp" 8),
      ("i", .fundamental "int" 4),
      ("v", .fundamental "void" 0)]
    functions := [
      { id := "f1", name := "plot", file := "f", returns := "v", variadic := false, callback := none
        arguments := [⟨"A", "i", .unset⟩, ⟨"B", "i", .unset⟩, ⟨"C", "i", .unset⟩] },
      { id := "f2", name := "print_rows", file := "f", returns := "i", variadic := false, callback := none
        arguments := [⟨"rows", "cpp", .stringArray⟩, ⟨"count", "i", .unset⟩] }]
    globals := [] }

theorem plots_functions : ∃ p plot rows, plots.prepare [] = .ok p ∧ p.functions = [plot, rows] ∧
    plot.names = ["A", "B", "C"] ∧
    plot.body p.types = ["_A := (C.int)(A)", "_B := (C.int)(B)", "_C := (C.int)(C)", "C.plot(_A, _B, _C)"] ∧
    rows.id = "f2" ∧ rows.names = ["rows", "count", "ret"] ∧
    rows.buffered.map (fun x => (x.managed, x.native)) = [("rows", "_rows")] := by
  obtain ⟨p, hp, hall⟩ := Native.Document.ok_of_any (x := plots.prepare [])
    (f := fun p => decide (
      p.functions.map (·.names) = [["A", "B", "C"], ["rows", "count", "ret"]] ∧
      (p.functions.take 1).map (·.body p.types) =
        [["_A := (C.int)(A)", "_B := (C.int)(B)", "_C := (C.int)(C)", "C.plot(_A, _B, _C)"]] ∧
      (p.functions.drop 1).map (fun w => (w.id, w.buffered.map fun x => (x.managed, x.native))) =
        [("f2", [("rows", "_rows")])])) (by decide +kernel)
  obtain ⟨hnames, hbody, hrows⟩ := of_decide_eq_true hall
  obtain ⟨plot, rows, hfunctions, hplot, hrowsNames⟩ := eq_pair_of_map hnames
  rw [hfunctions] at hbody hrows
  obtain ⟨hid, hbuffered⟩ := Prod.mk.inj (List.cons.inj hrows).1
  exact ⟨p, plot, rows, hp, hfunctions, hplot, (List.cons.inj hbody).1, hid, hrowsNames, hbuffered⟩

theorem plots_rows_hygienic : ∃ p w, plots.prepare [] = .ok p ∧ w ∈ p.functions ∧
    w.names = ["rows", "count", "ret"] ∧ (w.locals p.types).Nodup ∧
    (∀ x ∈ w.arguments, ¬ x.IsShadowed p.types) ∧ ∀ name ∈ w.names, name ≠ "C" ∧ name ≠ "unsafe" := by
  obtain ⟨p, plot, rows, hp, hfunctions, -, -, hid, hnames, hbuffered⟩ := plots_functions
  have hw : rows ∈ p.functions := by
    rw [hfunctions]
    exact List.mem_cons_of_mem _ List.mem_cons_self
  obtain ⟨-, f, hf, horigin, honce, hshadowed, hhidden⟩ :=
    wrappers_hygienic_iff hp (List.mem_append_left _ hw) (by rw [hnames]; decide) p.types
  have hbuffer : ∀ x ∈ rows.buffered, x.managed = "rows" ∧ x.native = "_rows" := fun x hx => by
    have hpair := List.mem_map_of_mem (f := fun x => (x.managed, x.native)) hx
    rw [hbuffered] at hpair
    exact Prod.mk.inj (List.mem_singleton.1 hpair)
  have hsecond : f.id = "f2" := (congrArg Prod.fst horigin).symm.trans hid
  have hwanted : ∀ f ∈ plots.wantedFunctions, f.id = "f2" →
      CallbackSite.detect plots.document f = .ok none ∧
        f.arguments.map (fun a => lowerCamel a.name) = ["rows", "count"] := by
    decide +kernel
  obtain ⟨hsite, harguments⟩ := hwanted f hf hsecond
  refine ⟨p, rows, hp, hw, hnames, honce.2 ⟨?_, ?_⟩, hshadowed.2 fun x hx => ?_, hhidden.2 fun i a ha _ => ?_⟩
  · rintro ⟨i, -, ⟨site, hsome, -⟩, -⟩
    cases hsite.symm.trans hsome
  · rintro (⟨hx, hn, -⟩ | ⟨hx, hn, -⟩)
    · exact absurd ((hbuffer _ hx).2.symm.trans hn) (by decide)
    · exact absurd ((hbuffer _ hx).2.symm.trans hn) (by decide)
  · rw [(hbuffer x hx).1]
    decide
  · have hname : lowerCamel a.name ∈ f.arguments.map fun a => lowerCamel a.name :=
      List.mem_map_of_mem (List.mem_of_getElem? ha)
    rw [harguments] at hname
    have hnative : ∀ name ∈ ["rows", "count"], name ≠ "C" ∧ name ≠ "unsafe" := by decide
    exact hnative _ hname

theorem plots_plot_hides_import : plots.document.accept = .ok plots.document ∧
    ∃ p w, plots.prepare [] = .ok p ∧ w ∈ p.functions ∧ w.names.Nodup ∧
      w.body p.types = ["_A := (C.int)(A)", "_B := (C.int)(B)", "_C := (C.int)(C)", "C.plot(_A, _B, _C)"] ∧
      "C" ∈ w.names := by
  obtain ⟨p, plot, rows, hp, hfunctions, hnames, hbody, -⟩ := plots_functions
  refine ⟨rfl, p, plot, hp, by rw [hfunctions]; exact List.mem_cons_self, ?_, hbody, ?_⟩
  · rw [hnames]
    decide
  · rw [hnames]
    decide

end Package

end Bindery
