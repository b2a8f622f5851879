import Bindery.Callback.Trampoline
import Bindery.Proofs.Lists
import Bindery.Proofs.Lowering.Requests
import Bindery.Proofs.Native.Loading

/-!
# Callback sites and trampolines

The indices of a callback site are those of two different arguments. A trampoline has one
parameter and one argument for each argument of the callback, and the managed function that it
takes out of the user-data slot has the types with which it is called.
-/

namespace Bindery

open Native (Identity Document DocumentError)

theorem Native.Document.lift_ok {α : Type} {x : Except DocumentError α} {a : α} :
    (liftM x : Except BindingError α) = .ok a ↔ x = .ok a := by
  cases x with
  | error e => exact ⟨nofun, nofun⟩
  | ok b =>
    show Except.ok b = _ ↔ _
    simp

open Native.Document (bind_ok lift_ok)

/-! ## Sites -/

namespace CallbackSite

structure Within (site : CallbackSite) (arity : Nat) : Prop where
  arg : site.argIndex < arity
  data : site.dataIndex < arity
  apart : site.argIndex ≠ site.dataIndex

variable {d : Document} {site : CallbackSite}

theorem ofHint_within {f : Native.Function} {h : Native.CallbackHint} (hs : ofHint d f h = .ok site) :
    site.Within f.arguments.length := by
  unfold ofHint at hs
  dsimp only at hs
  split at hs
  · cases hs
  rename_i hdata
  split at hs
  · cases hs
  · rename_i a ha
    obtain ⟨found, -, hs⟩ := bind_ok.1 hs
    split at hs
    · cases hs
    · cases hs
      simp only [Bool.or_eq_true, decide_eq_true_eq, beq_iff_eq, not_or, Nat.not_le] at hdata
      have harg := (List.getElem?_eq_some_iff.1 ha).1
      exact ⟨harg, hdata.1, fun he => hdata.2 he.symm⟩

theorem ofPair?_ok {index : Nat} {a b : Native.Argument} (h : ofPair? d index a b = .ok (some site)) :
    site.argIndex = index ∧ site.dataIndex = index + 1 := by
  unfold ofPair? at h
  obtain ⟨found, -, h⟩ := bind_ok.1 h
  split at h
  · cases h
  · obtain ⟨isPointer, -, h⟩ := bind_ok.1 h
    split at h
    · obtain ⟨_, -, h⟩ := bind_ok.1 h
      obtain ⟨slot, -, h⟩ := bind_ok.1 h
      cases slot with
      | none => cases h
      | some slot =>
        cases h
        exact ⟨rfl, rfl⟩
    · cases h

theorem firstPair?_ok {index : Nat} {as : List Native.Argument}
    (h : firstPair? d index as = .ok (some site)) :
    site.dataIndex = site.argIndex + 1 ∧ site.dataIndex < index + as.length := by
  induction as generalizing index with
  | nil => cases h
  | cons a as ih =>
    cases as with
    | nil => cases h
    | cons b rest =>
      rw [firstPair?] at h
      obtain ⟨found, hfound, h⟩ := bind_ok.1 h
      cases found with
      | none =>
        have := ih h
        simp only [List.length_cons] at this ⊢
        omega
      | some found =>
        cases h
        obtain ⟨harg, hdata⟩ := ofPair?_ok hfound
        simp only [List.length_cons]
        omega

theorem detect_within {f : Native.Function} (h : detect d f = .ok (some site)) :
    site.Within f.arguments.length := by
  unfold detect at h
  split at h
  · obtain ⟨_, hs, h⟩ := bind_ok.1 h
    cases h
    exact ofHint_within hs
  · obtain ⟨hdata, hlt⟩ := firstPair?_ok (lift_ok.1 h)
    rw [Nat.zero_add] at hlt
    exact ⟨by omega, hlt, by omega⟩

end CallbackSite

/-! ## Arguments -/

def Parameter.argument (p : Parameter) : CallArgument :=
  { native := "_" ++ p.name, managed := p.name, type := p.type }

namespace LoweringContext

variable {c : LoweringContext} {r r' : Registry}

variable (c) in
structure StandsFor (p : Parameter) (a : Native.Argument × Nat) : Prop where
  name : p.name = parameterName a.2 a.1.name
  output : p.isOutput = (a.1.kind == .output)
  value : p.type.isVoid = false
  type : c.Gives (c.resolve a.1.type a.1.kind) p.type

theorem lowerArgument_ok {owner : String} {index : Nat} {a : Native.Argument} {p : Parameter}
    {x : CallArgument} (h : (c.lowerArgument owner index a).run r = .ok ((p, x), r')) :
    p.name = parameterName index a.name ∧ p.isOutput = (a.kind == .output) ∧ x = p.argument ∧
      p.type.isVoid = false ∧ (c.resolve a.type a.kind).run r = .ok (p.type, r') := by
  obtain ⟨type, r₁, hr, h⟩ := Lowering.run_bind_ok.1 h
  dsimp only at h
  split at h
  · cases h
  · rename_i hvoid
    obtain ⟨he, rfl⟩ := Lowering.run_pure_ok.1 h
    cases he
    exact ⟨rfl, rfl, rfl, by simpa using hvoid, hr⟩

theorem lowerArguments_ok {owner : String} {as : List Native.Argument} {ps : List Parameter}
    {xs : List CallArgument} (h : (c.lowerArguments owner as).run r = .ok ((ps, xs), r')) :
    xs = ps.map Parameter.argument ∧ ps.length = as.length := by
  obtain ⟨pairs, r₁, hpairs, h⟩ := Lowering.run_bind_ok.1 h
  obtain ⟨he, -⟩ := Lowering.run_pure_ok.1 h
  rw [List.unzip_eq_map] at he
  cases he
  have hall := Lowering.run_mapM_ok (I := fun _ => True) (Q := fun b _ => b.2 = b.1.argument)
    (fun a _ b _ _ hb => ⟨(lowerArgument_ok hb).2.2.1, trivial⟩) trivial hpairs
  refine ⟨?_, by simpa using hall.length_eq⟩
  rw [List.map_map]
  refine List.map_congr_left fun b hb => ?_
  obtain ⟨_, -, hargument⟩ := exists_partner hall hb
  exact hargument

/-- In a consistent registry the parameters stand for the native arguments, in their order. -/
theorem lowerArguments_standFor {owner : String} {as : List Native.Argument} {ps : List Parameter}
    {xs : List CallArgument} (hc : c.Consistent r)
    (h : (c.lowerArguments owner as).run r = .ok ((ps, xs), r')) : List.Forall₂ c.StandsFor ps as.zipIdx := by
  obtain ⟨pairs, r₁, hpairs, h⟩ := Lowering.run_bind_ok.1 h
  obtain ⟨he, -⟩ := Lowering.run_pure_ok.1 h
  rw [List.unzip_eq_map] at he
  cases he
  rw [List.forall₂_map_left_iff]
  refine Lowering.run_mapM_ok (I := c.Consistent) (Q := fun b a => c.StandsFor b.1 a) ?_ hc hpairs
  intro a r b r' hc hb
  obtain ⟨hname, hout, -, hvoid, hr⟩ := lowerArgument_ok hb
  obtain ⟨hgives, hc'⟩ := (Transparent.resolve _ _).gives hc hr
  exact ⟨⟨hname, hout, hvoid, hgives⟩, hc'⟩

end LoweringContext

/-! ## Trampolines -/

def Parameter.fromCallback (p : Parameter) : Parameter := { p with type := p.type.fromCallback }

namespace Trampoline

def ofParameters (site : CallbackSite) (name key : String) (parameters : List Parameter)
    (returned : Option Descriptor) : Trampoline :=
  let result := resultParameter returned parameters
  let callable := (callbackSignature parameters site.callbackDataIndex result).descriptor
  { name, key, functionType := site.functionType, result, dataIndex := site.callbackDataIndex
    parameters := parameters.modify site.callbackDataIndex fun p =>
      { p with type := callable, isOutput := false }
    arguments := (parameters.map Parameter.argument).modify site.callbackDataIndex fun x =>
      { x with type := callable } }

/-- Whether the parts of a trampoline agree: the callback passes one argument for each parameter, and
the managed function out of the user-data slot has the types with which it is called. -/
structure Coherent (d : Document) (t : Trampoline) : Prop where
  arity : ∃ f, d.functionType t.functionType = .ok f ∧ t.parameters.length = f.arguments.length
  arguments : t.arguments = t.parameters.map Parameter.argument
  inputs : t.callInputs.map (·.type) = t.signature.inputs
  outputs : t.callOutputs.map (·.type) = t.signature.outputs
  parameter : ∃ p, t.parameters[t.dataIndex]? = some p ∧ p.type = t.signature.descriptor
  argument : ∃ x, t.arguments[t.dataIndex]? = some x ∧ x.type = t.signature.descriptor

theorem Coherent.slot {d : Document} {t : Trampoline} (h : t.Coherent d) :
    t.dataIndex < t.parameters.length := by
  obtain ⟨p, hp, -⟩ := h.parameter
  exact (List.getElem?_eq_some_iff.1 hp).1

section
variable {site : CallbackSite} {name key : String} {ps : List Parameter} {returned : Option Descriptor}

@[simp] theorem withoutSlot_ofParameters :
    withoutSlot (ofParameters site name key ps returned).parameters site.callbackDataIndex =
      withoutSlot ps site.callbackDataIndex := List.eraseIdx_modify_of_eq _ _ _

theorem dataParameter_ofParameters (h : site.callbackDataIndex < ps.length) :
    (ofParameters site name key ps returned).parameters[site.callbackDataIndex]? =
      some { ps[site.callbackDataIndex] with
        type := (callbackSignature ps site.callbackDataIndex (resultParameter returned ps)).descriptor
        isOutput := false } := by
  show (ps.modify _ _)[_]? = _
  rw [List.getElem?_modify_eq, List.getElem?_eq_getElem h]
  rfl

theorem signature_ofParameters (h : site.callbackDataIndex < ps.length) :
    (ofParameters site name key ps returned).signature =
      callbackSignature ps site.callbackDataIndex (resultParameter returned ps) := by
  have hdata : (ofParameters site name key ps returned).dataParameter.type =
      (callbackSignature ps site.callbackDataIndex (resultParameter returned ps)).descriptor := by
    show Parameter.type
      (((ofParameters site name key ps returned).parameters[site.callbackDataIndex]?).getD _) = _
    rw [dataParameter_ofParameters h]
    rfl
  rw [signature, hdata]
  rfl

theorem arguments_ofParameters : (ofParameters site name key ps returned).arguments =
    (ofParameters site name key ps returned).parameters.map Parameter.argument := by
  refine (map_modify (g := Parameter.argument) (fun p => ?_) ps site.callbackDataIndex).symm
  rfl

theorem coherent_ofParameters {d : Document} {f : Native.FunctionType}
    (hf : d.functionType site.functionType = .ok f) (hlength : ps.length = f.arguments.length)
    (h : site.callbackDataIndex < ps.length) : (ofParameters site name key ps returned).Coherent d := by
  have hdata := @dataParameter_ofParameters site name key ps returned h
  have hsignature := @signature_ofParameters site name key ps returned h
  constructor
  case arity => exact ⟨f, hf, (List.length_modify _ _ _).trans hlength⟩
  case arguments => exact arguments_ofParameters
  case inputs =>
    rw [hsignature]
    show List.map _ (List.filter _ (withoutSlot _ site.callbackDataIndex)) = _
    rw [withoutSlot_ofParameters]
    rfl
  case outputs =>
    rw [hsignature]
    show List.map _ (List.filter _ (withoutSlot _ site.callbackDataIndex) ++ _) = _
    rw [withoutSlot_ofParameters]
    rfl
  case parameter => exact ⟨_, hdata, by rw [hsignature]⟩
  case argument =>
    have hargument := congrArg (Option.map Parameter.argument) hdata
    rw [← List.getElem?_map, ← arguments_ofParameters] at hargument
    exact ⟨_, hargument, by rw [hsignature]; rfl⟩

end

end Trampoline

namespace LoweringContext

variable {c : LoweringContext} {r r' : Registry}

theorem hasSlot_ok {as : List Native.Argument} {slot : Nat} (h : c.hasSlot as slot = .ok true) :
    slot < as.length := by
  unfold hasSlot at h
  split at h
  · rename_i a ha
    exact (List.getElem?_eq_some_iff.1 ha).1
  · cases h

theorem buildTrampoline_ok {site : CallbackSite} {name : String} {t : Trampoline} :
    (c.buildTrampoline site name).run r = .ok (t, r') ↔
      ∃ f ps xs r₁ returned key, c.document.functionType site.functionType = .ok f ∧
        c.hasSlot f.arguments site.callbackDataIndex = .ok true ∧
        (c.lowerArguments ("callback '" ++ name ++ "'") f.arguments).run r = .ok ((ps, xs), r₁) ∧
        (c.resolveReturn f.returns).run r₁ = .ok (returned, r') ∧ site.signatureKey c.document = .ok key ∧
        .ofParameters site name key (ps.map Parameter.fromCallback) returned = t := by
  have arguments (ps : List Parameter) :
      (ps.map Parameter.argument).map (fun x => { x with type := x.type.fromCallback }) =
        (ps.map Parameter.fromCallback).map Parameter.argument := by
    rw [List.map_map, List.map_map]
    rfl
  constructor
  · intro h
    obtain ⟨f, _, hask, h⟩ := Lowering.run_bind_ok.1 h
    obtain ⟨hf, rfl⟩ := Lowering.run_ask_ok.1 hask
    obtain ⟨fits, _, hlift, h⟩ := Lowering.run_bind_ok.1 h
    obtain ⟨hfits, rfl⟩ := Lowering.run_lift_ok.1 hlift
    dsimp only at h
    split at h
    · cases h
    rename_i hslot
    obtain rfl : fits = true := by simpa using hslot
    obtain ⟨⟨ps, xs⟩, r₁, hargs, h⟩ := Lowering.run_bind_ok.1 h
    obtain ⟨returned, r₂, hreturned, h⟩ := Lowering.run_bind_ok.1 h
    obtain ⟨key, _, hask, h⟩ := Lowering.run_bind_ok.1 h
    obtain ⟨hkey, rfl⟩ := Lowering.run_ask_ok.1 hask
    obtain ⟨rfl, rfl⟩ := Lowering.run_pure_ok.1 h
    refine ⟨f, ps, xs, r₁, returned, key, hf, hfits, hargs, hreturned, hkey, ?_⟩
    obtain ⟨rfl, -⟩ := lowerArguments_ok hargs
    dsimp only
    rw [arguments]
    rfl
  · intro h
    obtain ⟨f, ps, xs, r₁, returned, key, hf, hfits, hargs, hreturned, hkey, rfl⟩ := h
    refine Lowering.run_bind_ok.2 ⟨f, r, Lowering.run_ask_ok.2 ⟨hf, rfl⟩, ?_⟩
    refine Lowering.run_bind_ok.2 ⟨true, r, Lowering.run_lift_ok.2 ⟨hfits, rfl⟩, ?_⟩
    refine Lowering.run_bind_ok.2 ⟨(ps, xs), r₁, hargs, ?_⟩
    refine Lowering.run_bind_ok.2 ⟨returned, r', hreturned, ?_⟩
    refine Lowering.run_bind_ok.2 ⟨key, r', Lowering.run_ask_ok.2 ⟨hkey, rfl⟩, ?_⟩
    refine Lowering.run_pure_ok.2 ⟨?_, rfl⟩
    obtain ⟨rfl, -⟩ := lowerArguments_ok hargs
    rw [arguments]
    rfl

theorem buildTrampoline_coherent {site : CallbackSite} {name : String} {t : Trampoline}
    (h : (c.buildTrampoline site name).run r = .ok (t, r')) :
    t.Coherent c.document ∧ site.signatureKey c.document = .ok t.key := by
  obtain ⟨f, ps, xs, r₁, returned, key, hf, hfits, hargs, -, hkey, rfl⟩ := buildTrampoline_ok.1 h
  have hlength : (ps.map Parameter.fromCallback).length = f.arguments.length := by
    rw [List.length_map, (lowerArguments_ok hargs).2]
  exact ⟨Trampoline.coherent_ofParameters hf hlength (hlength ▸ hasSlot_ok hfits), hkey⟩

end LoweringContext

end Bindery
