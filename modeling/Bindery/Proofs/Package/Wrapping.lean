import Bindery.Proofs.Callback.Trampoline
import Bindery.Proofs.Package.Receivers

/-!
# What wrappers pass on

A wrapper has one argument for each native argument, in their order. Without a callback site it
passes its own parameters on; with one it passes a trampoline and, as the user data, the managed
function that takes the place of both. Neither names nor receivers change this.
-/

namespace Bindery

open Native (Identity Document)

namespace Wrapper

def allParameters (w : Wrapper) : List Parameter := w.receiver.toList ++ w.parameters

/-- What of a wrapper neither its name nor its receiver changes. -/
def content (w : Wrapper) : (Identity × String × Identity) × List Parameter × List CallArgument :=
  (w.origin, w.allParameters, w.arguments)

/-- A wrapper without its name, and with its receiver among its parameters. -/
def unbound (w : Wrapper) : Wrapper :=
  { w with managed := "", receiver := none, parameters := w.allParameters }

theorem content_unbound (w : Wrapper) : w.unbound.content = w.content := rfl

theorem result_unbound (w : Wrapper) : w.unbound.result = w.result := rfl

theorem unbound_promote {w : Wrapper} (h : w.receiver = none) : w.promote.unbound = w.unbound := by
  unfold promote
  split
  · rfl
  · rename_i first rest hparams
    simp only [unbound, allParameters, h, hparams]
    rfl

end Wrapper

def Trampoline.callable (t : Trampoline) (pointer : Parameter) : Parameter :=
  { pointer with type := t.signature.descriptor, isOutput := false }

/-- Where the managed function stands once there is no parameter for the user data any more. -/
def CallbackSite.callableIndex (site : CallbackSite) : Nat :=
  if site.argIndex < site.dataIndex then site.argIndex else site.argIndex - 1

namespace Wrapper

structure PassesOn (w : Wrapper) (own : List Parameter) : Prop where
  parameters : w.allParameters = own
  arguments : w.arguments = own.map Parameter.argument

/-- A wrapper that passes a trampoline and a managed function in the places of a callback site, and
all else of the parameters `own` as it is. -/
structure Redirects (w : Wrapper) (own : List Parameter) (site : CallbackSite) (t : Trampoline) : Prop where
  within : site.Within own.length
  slot : t.dataIndex < t.parameters.length
  parameters : w.allParameters = (own.modify site.argIndex t.callable).eraseIdx site.dataIndex
  length : w.arguments.length = own.length
  pair : ∃ pointer userData, own[site.argIndex]? = some pointer ∧ own[site.dataIndex]? = some userData ∧
    w.arguments[site.argIndex]? = some { pointer.argument with managed := "C." ++ t.cName } ∧
    w.arguments[site.dataIndex]? = some { userData.argument with
      managed := (t.callable pointer).name, type := (t.callable pointer).type }
  others : ∀ i, i ≠ site.argIndex → i ≠ site.dataIndex → w.arguments[i]? = (own[i]?).map Parameter.argument

variable {w : Wrapper} {own : List Parameter} {site : CallbackSite} {t : Trampoline}

theorem attach_redirects (hw : w.PassesOn own) (hr : w.receiver = none) (hs : site.Within own.length)
    (ht : t.dataIndex < t.parameters.length) : (w.attach site t).Redirects own site t := by
  have hparams : w.parameters = own := by
    have := hw.parameters
    rwa [allParameters, hr] at this
  have harguments : (w.attach site t).arguments =
      ((own.map Parameter.argument).modify site.argIndex fun x => { x with managed := "C." ++ t.cName }).modify
        site.dataIndex fun x =>
          { x with managed := ((own[site.argIndex]?).getD default).name, type := t.signature.descriptor } := by
    rw [← hw.arguments, ← hparams]
    rfl
  have hpointer := List.getElem?_eq_getElem hs.arg
  have hdata := List.getElem?_eq_getElem hs.data
  constructor
  case within => exact hs
  case slot => exact ht
  case parameters =>
    show w.receiver.toList ++ (w.parameters.modify _ _).eraseIdx _ = _
    rw [hr, hparams]
    rfl
  case length => rw [harguments, List.length_modify, List.length_modify, List.length_map]
  case pair =>
    refine ⟨_, _, hpointer, hdata, ?_, ?_⟩
    · rw [harguments, List.getElem?_modify_ne _ _ hs.apart.symm, List.getElem?_modify_eq, List.getElem?_map,
        hpointer]
      rfl
    · rw [harguments, List.getElem?_modify_eq, List.getElem?_modify_ne _ _ hs.apart, List.getElem?_map, hdata,
        hpointer]
      rfl
  case others =>
    intro i harg hdata
    rw [harguments, List.getElem?_modify_ne _ _ hdata.symm, List.getElem?_modify_ne _ _ harg.symm,
      List.getElem?_map]

theorem Redirects.native (h : w.Redirects own site t) :
    w.arguments.map (·.native) = own.map (·.argument.native) := by
  obtain ⟨pointer, userData, hp, hd, hpointer, hdata⟩ := h.pair
  apply List.ext_getElem?
  intro i
  rw [List.getElem?_map, List.getElem?_map]
  by_cases harg : i = site.argIndex
  · subst harg
    rw [hpointer, hp]
    rfl
  · by_cases hi : i = site.dataIndex
    · subst hi
      rw [hdata, hd]
      rfl
    · rw [h.others i harg hi, Option.map_map]
      rfl

theorem Redirects.callable (h : w.Redirects own site t) :
    ∃ q, w.allParameters[site.callableIndex]? = some q ∧ q.type = t.signature.descriptor := by
  obtain ⟨pointer, -, hp, -⟩ := h.pair
  have hmodify : (own.modify site.argIndex t.callable)[site.argIndex]? = some (t.callable pointer) := by
    rw [List.getElem?_modify_eq, hp]
    rfl
  refine ⟨t.callable pointer, ?_, rfl⟩
  rw [h.parameters, CallbackSite.callableIndex, List.getElem?_eraseIdx]
  have hapart := h.within.apart
  by_cases hlt : site.argIndex < site.dataIndex
  · rw [if_pos hlt, if_pos hlt, hmodify]
  · -- the user data stood before the function pointer, which has moved forward by one
    rw [if_neg hlt, if_neg (by omega), Nat.sub_add_cancel (by omega), hmodify]

end Wrapper

/-! ## Lowering -/

/-- How a wrapper calls its native function. The trampoline of a redirected call has been built for
this callback or for one with the same signature key. -/
inductive Wrapper.Calls (d : Document) (ts : List Trampoline) (f : Native.Function) (own : List Parameter)
    (w : Wrapper) : Prop
  | direct (hs : CallbackSite.detect d f = .ok none) (h : w.PassesOn own)
  | redirected {site t} (hs : CallbackSite.detect d f = .ok (some site)) (ht : t ∈ ts)
      (hkey : site.signatureKey d = .ok t.key) (h : w.Redirects own site t)

namespace Package

variable {p : Package} {ts : List Trampoline} {f : Native.Function} {w : Wrapper} {r r' : Registry}
  {pool pool' : TrampolinePool}

variable (p) in
structure Wraps (ts : List Trampoline) (f : Native.Function) (own : List Parameter) (w : Wrapper) : Prop where
  origin : w.origin = f.origin
  standFor : List.Forall₂ p.context.StandsFor own f.arguments.zipIdx
  native : w.arguments.map (·.native) = own.map (·.argument.native)
  calls : w.Calls p.document ts f own

theorem Wraps.mono {ts' : List Trampoline} {own : List Parameter} (h : p.Wraps ts f own w) (hts : ts ⊆ ts') :
    p.Wraps ts' f own w where
  origin := h.origin
  standFor := h.standFor
  native := h.native
  calls := by
    cases h.calls with
    | direct hs h => exact .direct hs h
    | redirected hs ht hkey h => exact .redirected hs (hts ht) hkey h

theorem Wraps.congr {w' : Wrapper} {own : List Parameter} (h : p.Wraps ts f own w)
    (hw : w'.content = w.content) : p.Wraps ts f own w' := by
  obtain ⟨horigin, hparams, hargs⟩ : w'.origin = w.origin ∧ w'.allParameters = w.allParameters ∧
      w'.arguments = w.arguments := by simpa [Wrapper.content] using hw
  refine ⟨horigin.trans h.origin, h.standFor, hargs ▸ h.native, ?_⟩
  cases h.calls with
  | direct hs h => exact .direct hs ⟨hparams ▸ h.parameters, hargs ▸ h.arguments⟩
  | redirected hs ht hkey h =>
    exact .redirected hs ht hkey ⟨h.within, h.slot, hparams ▸ h.parameters, hargs ▸ h.length,
      hargs ▸ h.pair, hargs ▸ h.others⟩

variable (p) in
structure WrapsResult (ts : List Trampoline) (f : Native.Function) (own : List Parameter) (w : Wrapper) :
    Prop where
  wraps : p.Wraps ts f own w
  result : ∃ returned, w.result = resultParameter returned own

theorem WrapsResult.mono {ts' : List Trampoline} {own : List Parameter} (h : p.WrapsResult ts f own w)
    (hts : ts ⊆ ts') : p.WrapsResult ts' f own w :=
  ⟨h.wraps.mono hts, h.result⟩

theorem WrapsResult.of_unbound {w' : Wrapper} {own : List Parameter} (h : p.WrapsResult ts f own w)
    (hw : w'.unbound = w.unbound) : p.WrapsResult ts f own w' where
  wraps := by
    refine h.wraps.congr ?_
    rw [← Wrapper.content_unbound, hw, Wrapper.content_unbound]
  result := by
    rw [← Wrapper.result_unbound, hw, Wrapper.result_unbound]
    exact h.result

structure Pools (p : Package) (pool pool' : TrampolinePool) : Prop where
  subset : pool.trampolines ⊆ pool'.trampolines
  coherent : ∀ t ∈ pool'.trampolines, t.Coherent p.document

theorem trampolineFor_ok {site : CallbackSite} {t : Trampoline}
    (hpool : ∀ t ∈ pool.trampolines, t.Coherent p.document)
    (h : (p.trampolineFor f site pool).run r = .ok ((t, pool'), r')) :
    p.Pools pool pool' ∧ t ∈ pool'.trampolines ∧ site.signatureKey p.document = .ok t.key := by
  obtain ⟨key, _, hask, h⟩ := Lowering.run_bind_ok.1 h
  obtain ⟨hkey, rfl⟩ := Lowering.run_ask_ok.1 hask
  split at h
  · rename_i found hfind
    obtain ⟨he, -⟩ := Lowering.run_pure_ok.1 h
    cases he
    have hsame : t.key = key := by simpa using List.find?_some hfind
    exact ⟨⟨List.Subset.refl _, hpool⟩, List.mem_of_find?_eq_some hfind, hsame ▸ hkey⟩
  · obtain ⟨t', _, ht, h⟩ := Lowering.run_bind_ok.1 h
    obtain ⟨he, -⟩ := Lowering.run_pure_ok.1 h
    cases he
    obtain ⟨hcoherent, hkey'⟩ := LoweringContext.buildTrampoline_coherent ht
    refine ⟨⟨List.subset_append_left _ _, fun u hu => ?_⟩, by simp, hkey'⟩
    rcases List.mem_append.1 hu with hu | hu
    · exact hpool u hu
    · exact List.mem_singleton.1 hu ▸ hcoherent

theorem lowerFunction_ok (ht : p.context.Tidy r) (h : (p.context.lowerFunction f).run r = .ok (w, r')) :
    ∃ own, List.Forall₂ p.context.StandsFor own f.arguments.zipIdx ∧ w.PassesOn own ∧ w.receiver = none ∧
      ∃ returned, w.result = resultParameter returned own := by
  obtain ⟨⟨ps, xs⟩, r₁, hargs, h⟩ := Lowering.run_bind_ok.1 h
  obtain ⟨returned, r₂, -, h⟩ := Lowering.run_bind_ok.1 h
  obtain ⟨rfl, -⟩ := Lowering.run_pure_ok.1 h
  exact ⟨ps, LoweringContext.lowerArguments_standFor ht.consistent hargs,
    ⟨rfl, (LoweringContext.lowerArguments_ok hargs).1⟩, rfl, returned, rfl⟩

theorem lowerWanted_ok (ht : p.context.Tidy r) (hpool : ∀ t ∈ pool.trampolines, t.Coherent p.document)
    (h : (p.lowerWanted f pool).run r = .ok ((w, pool'), r')) :
    p.Pools pool pool' ∧ w.receiver = none ∧ ∃ own, p.WrapsResult pool'.trampolines f own w := by
  have horigin := lowerWanted_origin h
  obtain ⟨w₀, r₁, hw, h⟩ := Lowering.run_bind_ok.1 h
  obtain ⟨own, hown, hpasses, hrec, hresult⟩ := lowerFunction_ok ht hw
  obtain ⟨site?, _, hlift, h⟩ := Lowering.run_bind_ok.1 h
  obtain ⟨hdetect, rfl⟩ := Lowering.run_lift_ok.1 hlift
  cases site? with
  | none =>
    obtain ⟨he, -⟩ := Lowering.run_pure_ok.1 h
    cases he
    refine ⟨⟨List.Subset.refl _, hpool⟩, hrec, own, ⟨horigin, hown, ?_, .direct hdetect hpasses⟩, hresult⟩
    rw [hpasses.arguments, List.map_map]
    rfl
  | some site =>
    obtain ⟨⟨t, pool₁⟩, r₂, hfor, h⟩ := Lowering.run_bind_ok.1 h
    obtain ⟨he, -⟩ := Lowering.run_pure_ok.1 h
    cases he
    obtain ⟨hpools, hmem, hkey⟩ := trampolineFor_ok hpool hfor
    have hlength : own.length = f.arguments.length := by simpa using hown.length_eq
    have hwithin := CallbackSite.detect_within hdetect
    rw [← hlength] at hwithin
    have hredirects := Wrapper.attach_redirects hpasses hrec hwithin (hpools.coherent t hmem).slot
    exact ⟨hpools, hrec, own,
      ⟨horigin, hown, hredirects.native, .redirected hdetect hmem hkey hredirects⟩, hresult⟩

theorem lowerAllWanted_ok {fs : List Native.Function} {ws : List Wrapper} (ht : p.context.Tidy r)
    (hpool : ∀ t ∈ pool.trampolines, t.Coherent p.document)
    (h : (p.lowerAllWanted fs pool).run r = .ok ((ws, pool'), r')) :
    p.Pools pool pool' ∧
      ∀ w ∈ ws, w.receiver = none ∧ ∃ f ∈ fs, ∃ own, p.WrapsResult pool'.trampolines f own w := by
  induction fs generalizing pool ws r r' with
  | nil =>
    obtain ⟨he, -⟩ := Lowering.run_pure_ok.1 h
    cases he
    exact ⟨⟨List.Subset.refl _, hpool⟩, nofun⟩
  | cons f fs ih =>
    obtain ⟨⟨w, pool₁⟩, r₁, hw, h⟩ := Lowering.run_bind_ok.1 h
    obtain ⟨⟨ws', pool₂⟩, r₂, hws, h⟩ := Lowering.run_bind_ok.1 h
    obtain ⟨he, -⟩ := Lowering.run_pure_ok.1 h
    cases he
    obtain ⟨hpools₁, hrec, own, hwraps⟩ := lowerWanted_ok ht hpool hw
    obtain ⟨hpools₂, hrest⟩ := ih (preserves_lowerWanted LoweringContext.preserves_tidy f pool _ _ _ ht hw) hpools₁.coherent hws
    refine ⟨⟨List.Subset.trans hpools₁.subset hpools₂.subset, hpools₂.coherent⟩, fun v hv => ?_⟩
    rcases List.mem_cons.1 hv with rfl | hv
    · exact ⟨hrec, f, List.mem_cons_self, own, hwraps.mono hpools₂.subset⟩
    · obtain ⟨hrec', g, hg, own', hwraps'⟩ := hrest v hv
      exact ⟨hrec', g, List.mem_cons_of_mem _ hg, own', hwraps'⟩

/-! ## Names and receivers -/

theorem bindFunctions_unbound {ws : List Wrapper} (hws : ∀ w ∈ ws, w.receiver = none)
    {r : Registry} {s : Scope} (hr : ∀ x d, r.get? x = some d → d.methods = []) :
    (∀ w ∈ (p.bindFunctions ws r s).1, w.unbound ∈ ws.map (·.unbound)) ∧
      ∀ x d, (p.bindFunctions ws r s).2.1.get? x = some d →
        ∀ m ∈ d.methods, m.unbound ∈ ws.map (·.unbound) := by
  refine p.bindFunctions_induct ws (P := fun bound fs r _ => (∀ w ∈ fs, w.unbound ∈ bound.map (·.unbound)) ∧
    ∀ x d, r.get? x = some d → ∀ m ∈ d.methods, m.unbound ∈ bound.map (·.unbound)) ?_ ?_ ?_
  · intro bound w rest fs r s id hall h _
    obtain ⟨hfs, hms⟩ := h
    have hrec : w.receiver = none := hws w (by simp [hall])
    have grown {x} (hx : x ∈ bound.map (·.unbound)) : x ∈ (bound ++ [w]).map (·.unbound) := by
      rw [List.map_append]
      exact List.mem_append_left _ hx
    refine ⟨fun v hv => grown (hfs v hv), ?_⟩
    refine Dict.forall_modify hms (fun d hd m hm => ?_) fun _ _ hd m hm => grown (hd m hm)
    unfold Declaration.addMethod at hm
    split at hm
    · exact grown (hms id d hd m hm)
    · rcases List.mem_append.1 hm with hm | hm
      · exact grown (hms id d hd m hm)
      · obtain rfl := List.mem_singleton.1 hm
        have := Wrapper.unbound_promote hrec
        simp only [List.map_append, List.mem_append, List.map_singleton, List.mem_singleton]
        exact .inr this
  · intro bound w rest fs r s _ h _
    obtain ⟨hfs, hms⟩ := h
    simp only [List.map_append, List.mem_append, List.map_singleton, List.mem_singleton]
    refine ⟨fun v hv => ?_, fun x d hd m hm => .inl (hms x d hd m hm)⟩
    rcases hv with hv | rfl
    · exact .inl (hfs v hv)
    · exact .inr rfl
  · refine ⟨nofun, fun x d hd m hm => ?_⟩
    rw [hr x d hd] at hm
    cases hm

/-- Names and receivers are all that distinguishes the wrappers of a package from those that were lowered. -/
theorem exists_lowered {included : List Package} {lowered : Lowered} {r : Registry}
    (ht : p.context.Tidy r) (hnone : ∀ w ∈ lowered.wrappers, w.receiver = none)
    (hw : w ∈ (p.assignNames included lowered r).functions ++ (p.assignNames included lowered r).types.methods) :
    ∃ w₀ ∈ lowered.wrappers, w.unbound = w₀.unbound := by
  have hmethods : ∀ x d, (p.typesNamed included r).1.get? x = some d → d.methods = [] := fun x d hd =>
    (typesNamed_methods ht x d hd).2
  obtain ⟨hfs, hms⟩ := bindFunctions_unbound (p := p) (s := (p.typesNamed included r).2) hnone hmethods
  have hmem : w.unbound ∈ lowered.wrappers.map (·.unbound) := by
    rcases List.mem_append.1 hw with hw | hw
    · exact hfs w hw
    · obtain ⟨d, hd, hm⟩ := List.mem_flatMap.1 hw
      obtain ⟨e, he, rfl⟩ := List.mem_map.1 hd
      obtain ⟨d₀, hd₀, hshort⟩ := Dict.exists_of_get?_mapValues ((Dict.get?_eq_some_iff _ _ _).2 he)
      rw [← hshort] at hm
      -- a shorter name is all that distinguishes a method from one before
      have hmem := List.mem_map_of_mem (f := fun m : Wrapper => { m with managed := "" }) hm
      rw [shortenMethodNames_methods] at hmem
      obtain ⟨m, hm, hun⟩ := List.mem_map.1 hmem
      have hsame : m.unbound = w.unbound :=
        (congrArg Wrapper.unbound hun : Wrapper.unbound { m with managed := "" } = _)
      exact hsame ▸ hms e.1 d₀ hd₀ m hm
  obtain ⟨w₀, hw₀, he⟩ := List.mem_map.1 hmem
  exact ⟨w₀, hw₀, he.symm⟩

theorem prepare_results {included : List Package} {p' : Package} (h : p.prepare included = .ok p') :
    (∀ t ∈ p'.trampolines, t.Coherent p.document) ∧
      ∀ w ∈ p'.functions ++ p'.types.methods,
        ∃ f ∈ p.wantedFunctions, ∃ own, p.WrapsResult p'.trampolines f own w := by
  obtain ⟨lowered, r, hl, rfl⟩ := prepare_ok.1 h
  obtain ⟨pool, r₁, _, hws, htrampolines, -⟩ := lowerShare_ok hl
  obtain ⟨hpools, hall⟩ := lowerAllWanted_ok LoweringContext.Tidy.empty (fun _ ht => by cases ht) hws
  rw [show (p.assignNames included lowered r).trampolines = pool.trampolines from htrampolines]
  refine ⟨hpools.coherent, fun w hw => ?_⟩
  obtain ⟨w₀, hw₀, he⟩ := exists_lowered (tidy_of_lowerShare hl) (fun w hw => (hall w hw).1) hw
  obtain ⟨-, f, hf, own, hwraps⟩ := hall w₀ hw₀
  exact ⟨f, hf, own, hwraps.of_unbound he⟩

theorem prepare_wraps {included : List Package} {p' : Package} (h : p.prepare included = .ok p') :
    (∀ t ∈ p'.trampolines, t.Coherent p.document) ∧
      ∀ w ∈ p'.functions ++ p'.types.methods,
        ∃ f ∈ p.wantedFunctions, ∃ own, p.Wraps p'.trampolines f own w := by
  obtain ⟨hcoherent, hall⟩ := prepare_results h
  refine ⟨hcoherent, fun w hw => ?_⟩
  obtain ⟨f, hf, own, hwraps⟩ := hall w hw
  exact ⟨f, hf, own, hwraps.wraps⟩

theorem Wraps.argument {own : List Parameter} (h : p.Wraps ts f own w) {i : Nat} {a : Native.Argument}
    (ha : f.arguments[i]? = some a) : ∃ q x, own[i]? = some q ∧ w.arguments[i]? = some x ∧
      p.context.StandsFor q (a, i) ∧ x.native = "_" ++ parameterName i a.name := by
  have hi : i < own.length := by
    rw [h.standFor.length_eq, List.length_zipIdx]
    exact (List.getElem?_eq_some_iff.1 ha).1
  have hstands := h.standFor.get hi (h.standFor.length_eq ▸ hi)
  simp only [List.get_eq_getElem, List.getElem_zipIdx, Nat.zero_add,
    (List.getElem?_eq_some_iff.1 ha).2] at hstands
  have hnative := congrArg (·[i]?) h.native
  simp only [List.getElem?_map, List.getElem?_eq_getElem hi] at hnative
  obtain ⟨x, hx, hxn⟩ := Option.map_eq_some_iff.1 hnative
  refine ⟨own[i], x, List.getElem?_eq_getElem hi, hx, hstands, ?_⟩
  rw [hxn, ← hstands.name]
  rfl

/-- Each wrapper has one argument for each native argument, and passes there what stands for it: its
own parameter, a trampoline, or the managed function of a callback site. -/
theorem native_arguments_conserved {included : List Package} {p' : Package} (h : p.prepare included = .ok p')
    (hw : w ∈ p'.functions ++ p'.types.methods) :
    ∃ f ∈ p.wantedFunctions, ∃ own : List Parameter, w.origin = f.origin ∧
      own.length = f.arguments.length ∧ w.arguments.length = f.arguments.length ∧
      (∀ i a, f.arguments[i]? = some a → ∃ q x, own[i]? = some q ∧ w.arguments[i]? = some x ∧
        p.context.StandsFor q (a, i) ∧ x.native = "_" ++ parameterName i a.name) ∧
      (CallbackSite.detect p.document f = .ok none ∧ w.PassesOn own ∨
        ∃ site, ∃ t ∈ p'.trampolines, CallbackSite.detect p.document f = .ok (some site) ∧
          site.signatureKey p.document = .ok t.key ∧ w.Redirects own site t) := by
  obtain ⟨f, hf, own, hwraps⟩ := (prepare_wraps h).2 w hw
  have hown : own.length = f.arguments.length := by simpa using hwraps.standFor.length_eq
  have hlength := congrArg List.length hwraps.native
  rw [List.length_map, List.length_map] at hlength
  refine ⟨f, hf, own, hwraps.origin, hown, hlength.trans hown, fun i a ha => hwraps.argument ha, ?_⟩
  cases hwraps.calls with
  | direct hs hp => exact .inl ⟨hs, hp⟩
  | redirected hs ht hkey hr => exact .inr ⟨_, _, ht, hs, hkey, hr⟩

/-- Two functions for one kind of callback. The first, whose user data comes before its function
pointer, becomes a method. -/
def controls : Package where
  settings := { name := "controls" }
  filter := .all
  rules := {}
  ownedFiles := ["f"]
  document := {
    files := [⟨"f", "controls.h"⟩]
    types := Dict.ofList [
      ("c", .struct { name := "control", file := "f", size := 4, fields := [⟨"id", "i"⟩] }),
      ("cp", .pointer "c" 8),
      ("fn", .function { returns := "i", arguments := [⟨"user", "vp", .unset⟩, ⟨"at", "ip", .output⟩] }),
      ("fp", .pointer "fn" 8),
      ("i", .fundamental "int" 4),
      ("ip", .pointer "i" 8),
      ("v", .fundamental "void" 0),
      ("vp", .pointer "v" 8)]
    functions := [
      { id := "f1", name := "notify", file := "f", returns := "v", variadic := false
        arguments := [⟨"c", "cp", .unset⟩, ⟨"user", "vp", .unset⟩, ⟨"fn", "fp", .unset⟩, ⟨"n", "i", .unset⟩]
        callback := some ⟨2, 1, 0⟩ },
      { id := "f2", name := "visit", file := "f", returns := "v", variadic := false, callback := none
        arguments := [⟨"fn", "fp", .unset⟩, ⟨"user", "vp", .unset⟩] }] }

/-- The method passes the managed function in the place of the user data, before the trampoline. -/
theorem controls_conserved : ∃ p', controls.prepare [] = .ok p' ∧ ∃ m ∈ p'.types.methods,
    m.receiver.isSome = true ∧ m.arguments.length = 4 ∧
      ∃ own : List Parameter, own.length = 4 ∧ ∃ site : CallbackSite, site.dataIndex < site.argIndex ∧
        ∃ t ∈ p'.trampolines, m.Redirects own site t := by
  obtain ⟨p', hp, hok⟩ := Native.Document.ok_of_any (x := controls.prepare [])
    (f := fun p => decide (∃ m ∈ p.types.methods, m.id = "f1" ∧ m.receiver.isSome = true)) (by decide +kernel)
  obtain ⟨m, hm, hid, hrec⟩ := of_decide_eq_true hok
  obtain ⟨f, hf, own, horigin, hown, hargs, -, hcalls⟩ :=
    native_arguments_conserved hp (List.mem_append_right _ hm)
  have hfid : f.id = "f1" := (congrArg Prod.fst horigin).symm.trans hid
  have hwanted : ∀ f ∈ controls.wantedFunctions, f.id = "f1" → f.arguments.length = 4 ∧
      (CallbackSite.detect controls.document f).toOption.join.any (fun site =>
        site.dataIndex < site.argIndex) = true := by decide +kernel
  obtain ⟨hfour, hsite⟩ := hwanted f hf hfid
  rcases hcalls with ⟨hs, -⟩ | ⟨site, t, ht, hs, -, hr⟩
  · rw [hs] at hsite
    cases hsite
  · rw [hs] at hsite
    exact ⟨p', hp, m, hm, hrec, hargs.trans hfour, own, hown.trans hfour, site,
      of_decide_eq_true hsite, t, ht, hr⟩

/-- The types of the managed function are those with which its trampoline calls it, and the
parameter and the user data of every wrapper with that trampoline have its type. -/
theorem callable_types_agree :
    (∀ (c : LoweringContext) (site : CallbackSite) (name : String) (r : Registry) (t : Trampoline)
        (r' : Registry), (c.buildTrampoline site name).run r = .ok (t, r') → t.Coherent c.document) ∧
      ∀ (p : Package) (included : List Package) (p' : Package), p.prepare included = .ok p' →
        ∀ w ∈ p'.functions ++ p'.types.methods, ∃ f ∈ p.wantedFunctions, w.origin = f.origin ∧
          ∀ site, CallbackSite.detect p.document f = .ok (some site) → ∃ t ∈ p'.trampolines,
            site.signatureKey p.document = .ok t.key ∧ t.Coherent p.document ∧
            (∃ x, w.arguments[site.argIndex]? = some x ∧ x.managed = "C." ++ t.cName) ∧
            (∃ q, w.allParameters[site.callableIndex]? = some q ∧ q.type = t.signature.descriptor) ∧
            ∃ x, w.arguments[site.dataIndex]? = some x ∧ x.type = t.signature.descriptor := by
  refine ⟨fun c site name r t r' h => (LoweringContext.buildTrampoline_coherent h).1, ?_⟩
  intro p included p' h w hw
  obtain ⟨hcoherent, hall⟩ := prepare_wraps h
  obtain ⟨f, hf, own, hwraps⟩ := hall w hw
  refine ⟨f, hf, hwraps.origin, fun site hsite => ?_⟩
  cases hwraps.calls with
  | direct hs _ =>
    rw [hs] at hsite
    cases hsite
  | @redirected site' t hs ht hkey hr =>
    rw [hs] at hsite
    cases hsite
    obtain ⟨pointer, userData, -, -, hpointer, hdata⟩ := hr.pair
    exact ⟨t, ht, hkey, hcoherent t ht, ⟨_, hpointer, rfl⟩, hr.callable, _, hdata, rfl⟩

/-- Both functions share the trampoline, whose output is seen as a callback sees it. -/
theorem controls_agree :
    (∃ site t r, (controls.context.buildTrampoline site "each").run {} = .ok (t, r) ∧
      t.callOutputs.map (·.type) = t.signature.outputs) ∧
    ∃ p', controls.prepare [] = .ok p' ∧ p'.trampolines.length = 1 ∧
      ∀ w ∈ p'.functions ++ p'.types.methods, ∃ t ∈ p'.trampolines, ∃ site : CallbackSite,
        ∃ q, w.allParameters[site.callableIndex]? = some q ∧ q.type = t.signature.descriptor := by
  obtain ⟨built, rewritten⟩ := callable_types_agree
  constructor
  · obtain ⟨⟨t, r⟩, hr, -⟩ := Native.Document.ok_of_any
      (x := (controls.context.buildTrampoline ⟨0, 1, 0, "fn", none⟩ "each").run {}) (f := fun _ => true)
      (by decide +kernel)
    exact ⟨_, t, r, hr, (built _ _ _ _ _ _ hr).outputs⟩
  · obtain ⟨p', hp, hok⟩ := Native.Document.ok_of_any (x := controls.prepare [])
      (f := fun p => decide (p.trampolines.length = 1)) (by decide +kernel)
    refine ⟨p', hp, of_decide_eq_true hok, fun w hw => ?_⟩
    obtain ⟨f, hf, -, hsites⟩ := rewritten controls [] p' hp w hw
    have hwanted : ∀ f ∈ controls.wantedFunctions,
        (CallbackSite.detect controls.document f).toOption.join.isSome = true := by decide +kernel
    obtain ⟨site, hsite⟩ := Option.isSome_iff_exists.1 (hwanted f hf)
    obtain ⟨site?, hdetect, rfl⟩ := Option.bind_eq_some_iff.1 hsite
    cases hd : CallbackSite.detect controls.document f with
    | error e => rw [hd] at hdetect; cases hdetect
    | ok found =>
      rw [hd] at hdetect
      cases hdetect
      obtain ⟨t, ht, -, -, -, hq, -⟩ := hsites site hd
      exact ⟨t, ht, site, hq⟩

end Package

end Bindery
