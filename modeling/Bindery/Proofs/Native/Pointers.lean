import Bindery.Proofs.Native.Qualifiers

/-!
# Pointers behind typedefs and qualifiers

What it is to be an untyped pointer or a pointer to a function type, through typedefs and qualifiers.
Where these form no circle, whether a type is one has an answer for every type of a closed document.
-/

namespace Bindery.Native

theorem TypeNode.unqualified?_of_underlying? {node : TypeNode} (h : node.underlying? = none) :
    node.unqualified? = none := by
  cases node with
  | qualified => cases h
  | _ => rfl

def TypeNode.typedefName? : TypeNode → Option String
  | typedef t => some t.name
  | _ => none

theorem TypeNode.typedefName?_eq_none {node : TypeNode} (h : node.underlying? = none) :
    node.typedefName? = none := by
  cases node with
  | typedef => cases h
  | _ => rfl

theorem TypeNode.underlying?_of_unqualified? {node : TypeNode} {base : Identity}
    (h : node.unqualified? = some base) : node.underlying? = some base := by
  cases node with
  | qualified => exact h
  | _ => cases h

namespace Document

variable (d : Document)

def AcyclicChains : Prop := ∀ id, ¬ Relation.TransGen (d.Steps TypeNode.underlying?) id id

def StandsFor (id : Identity) (out : Identity × TypeNode) : Prop :=
  ∃ k, d.Follows TypeNode.underlying? k id out

def Void (id : Identity) : Prop :=
  ∃ x name size, d.StandsFor id (x, .fundamental name size) ∧ Fundamental.ofName? name = some .void

def VoidPointer (id : Identity) : Prop :=
  ∃ x pointee size, d.StandsFor id (x, .pointer pointee size) ∧ d.Void pointee

def FunctionPointer (id functionType : Identity) (f : FunctionType) : Prop :=
  ∃ x pointee size, d.StandsFor id (x, .pointer pointee size) ∧ d.StandsFor pointee (functionType, .function f)

inductive OutermostTypedef : Identity → Option String → Prop
  | typedef {id t} (hn : d.types.get? id = some (.typedef t)) : OutermostTypedef id (some t.name)
  | qualified {id base name} (hn : d.types.get? id = some (.qualified base)) (h : OutermostTypedef base name) :
    OutermostTypedef id name
  | none {id node} (hn : d.types.get? id = some node) (h : node.underlying? = Option.none) :
    OutermostTypedef id Option.none

variable {d} {k : Nat} {id functionType functionType' : Identity} {out out' : Identity × TypeNode}
  {f f' : FunctionType} {name name' : Option String}

theorem StandsFor.unique (h : d.StandsFor id out) (h' : d.StandsFor id out') : out = out' := by
  obtain ⟨_, h⟩ := h
  obtain ⟨_, h'⟩ := h'
  exact (h.unique h').2

theorem StandsFor.get? (h : d.StandsFor id out) : d.types.get? out.1 = some out.2 := by
  obtain ⟨_, h⟩ := h
  exact h.get?

theorem FunctionPointer.unique (h : d.FunctionPointer id functionType f)
    (h' : d.FunctionPointer id functionType' f') : functionType = functionType' ∧ f = f' := by
  obtain ⟨x, pointee, size, hid, htarget⟩ := h
  obtain ⟨x', pointee', size', hid', htarget'⟩ := h'
  cases hid.unique hid'
  cases htarget.unique htarget'
  exact ⟨rfl, rfl⟩

theorem FunctionPointer.get? (h : d.FunctionPointer id functionType f) :
    d.types.get? functionType = some (.function f) := by
  obtain ⟨_, _, _, -, htarget⟩ := h
  exact htarget.get?

theorem functionType_ok : d.functionType id = .ok f ↔ d.types.get? id = some (.function f) := by
  rw [functionType, bind_ok]
  constructor
  · intro h
    obtain ⟨node, hn, h⟩ := h
    cases node with
    | function g =>
      cases h
      exact node_ok.1 hn
    | _ => cases h
  · intro h
    exact ⟨_, node_ok.2 h, rfl⟩

theorem outermostTypedef_iff : d.OutermostTypedef id name ↔
    ∃ k x node, d.Follows TypeNode.unqualified? k id (x, node) ∧ node.typedefName? = name := by
  constructor
  · intro h
    induction h with
    | @typedef id t hn => exact ⟨0, id, .typedef t, .here hn rfl, rfl⟩
    | qualified hn _ ih =>
      obtain ⟨k, x, node, hf, hname⟩ := ih
      exact ⟨k + 1, x, node, .step hn rfl hf, hname⟩
    | @none id node hn h =>
      exact ⟨0, id, node, .here hn (TypeNode.unqualified?_of_underlying? h), TypeNode.typedefName?_eq_none h⟩
  · intro h
    obtain ⟨k, x, node, hf, rfl⟩ := h
    generalize hout : (x, node) = out at hf
    induction hf with
    | @here id node' hn h =>
      cases hout
      cases node with
      | typedef t => exact .typedef hn
      | qualified => cases h
      | _ => exact .none hn rfl
    | @step _ id node' inner _ hn h _ ih =>
      cases node' with
      | qualified base =>
        cases h
        exact .qualified hn (ih hout)
      | _ => cases h

theorem OutermostTypedef.unique (h : d.OutermostTypedef id name) (h' : d.OutermostTypedef id name') :
    name = name' := by
  obtain ⟨_, _, _, hf, rfl⟩ := outermostTypedef_iff.1 h
  obtain ⟨_, _, _, hf', rfl⟩ := outermostTypedef_iff.1 h'
  cases (hf.unique hf').2
  rfl

/-! ## Answers -/

section
variable (hclosed : d.Closed) (hchains : d.AcyclicChains)
include hclosed hchains

theorem exists_strip (hid : d.HasType id) : ∃ out, d.strip id = .ok out ∧ d.StandsFor id out := by
  have hno : ¬ d.Circles TypeNode.underlying? id := fun ⟨x, _, hx⟩ => hchains x hx
  obtain ⟨k, out, hf⟩ := exists_follows hclosed.stays_underlying hid hno
  exact ⟨out, strip_ok.2 ⟨k, hf⟩, k, hf⟩

theorem exists_stripQualifiers (hid : d.HasType id) :
    ∃ out, d.stripQualifiers id = .ok out ∧ ∃ k, d.Follows TypeNode.unqualified? k id out := by
  have hno : ¬ d.Circles TypeNode.unqualified? id := by
    intro hc
    obtain ⟨x, _, hx⟩ := hc
    refine hchains x (Relation.TransGen.mono (fun a b hs => ?_) _ _ hx)
    obtain ⟨node, hn, hi⟩ := hs
    exact ⟨node, hn, TypeNode.underlying?_of_unqualified? hi⟩
  obtain ⟨k, out, hf⟩ := exists_follows hclosed.stays_qualifiers hid hno
  exact ⟨out, stripQualifiers_ok.2 ⟨k, hf⟩, k, hf⟩

theorem exists_isVoid (hid : d.HasType id) : ∃ b, d.isVoid id = .ok b ∧ (b = true ↔ d.Void id) := by
  obtain ⟨⟨x, node⟩, hstrip, hout⟩ := exists_strip hclosed hchains hid
  refine ⟨node.fundamental? == some .void, by rw [isVoid, hstrip]; rfl, ?_⟩
  rw [beq_iff_eq]
  constructor
  · intro h
    cases node with
    | fundamental name size => exact ⟨x, name, size, hout, h⟩
    | _ => cases h
  · intro h
    obtain ⟨_, name, size, hname, h⟩ := h
    cases hout.unique hname
    exact h

theorem exists_isVoidPointer (hid : d.HasType id) :
    ∃ b, d.isVoidPointer id = .ok b ∧ (b = true ↔ d.VoidPointer id) := by
  obtain ⟨⟨x, node⟩, hstrip, hout⟩ := exists_strip hclosed hchains hid
  cases node with
  | pointer pointee size =>
    obtain ⟨b, hb, hiff⟩ := exists_isVoid hclosed hchains (hclosed.nodes hout.get? .pointee)
    refine ⟨b, by rw [isVoidPointer, hstrip]; exact hb, ?_⟩
    rw [hiff]
    constructor
    · intro h
      exact ⟨x, pointee, size, hout, h⟩
    · intro h
      obtain ⟨_, _, _, hpointer, h⟩ := h
      cases hout.unique hpointer
      exact h
  | _ =>
    refine ⟨false, by rw [isVoidPointer, hstrip]; rfl, nofun, fun h => ?_⟩
    obtain ⟨_, _, _, hpointer, -⟩ := h
    cases hout.unique hpointer

theorem exists_outermostTypedef (hid : d.HasType id) : ∃ name, d.OutermostTypedef id name := by
  obtain ⟨⟨x, node⟩, -, k, hf⟩ := exists_stripQualifiers hclosed hchains hid
  exact ⟨node.typedefName?, outermostTypedef_iff.2 ⟨k, x, node, hf, rfl⟩⟩

theorem exists_functionPointer (hid : d.HasType id) : ∃ found, d.functionPointer? id = .ok found ∧
    ∀ functionType name, found = some (functionType, name) ↔
      (∃ f, d.FunctionPointer id functionType f) ∧ d.OutermostTypedef id name := by
  obtain ⟨⟨_, outer⟩, hqualifiers, _, hf⟩ := exists_stripQualifiers hclosed hchains hid
  have htypedef : d.OutermostTypedef id outer.typedefName? := outermostTypedef_iff.2 ⟨_, _, _, hf, rfl⟩
  obtain ⟨⟨x, node⟩, hstrip, hout⟩ := exists_strip hclosed hchains hid
  have nothing (hno : ∀ functionType f, ¬ d.FunctionPointer id functionType f) (functionType : Identity)
      (name : Option String) : none = some (functionType, name) ↔
        (∃ f, d.FunctionPointer id functionType f) ∧ d.OutermostTypedef id name :=
    ⟨nofun, fun ⟨⟨f, hf⟩, _⟩ => absurd hf (hno functionType f)⟩
  cases node with
  | pointer pointee size =>
    obtain ⟨⟨target, node⟩, htarget, hend⟩ := exists_strip hclosed hchains (hclosed.nodes hout.get? .pointee)
    cases node with
    | function f =>
      have hpointer : d.FunctionPointer id target f := ⟨x, pointee, size, hout, hend⟩
      refine ⟨some (target, outer.typedefName?), ?_, fun functionType name => ⟨fun h => ?_, fun h => ?_⟩⟩
      · simp only [functionPointer?, hqualifiers, hstrip, htarget, bind, Except.bind]
        cases outer <;> rfl
      · cases h
        exact ⟨⟨f, hpointer⟩, htypedef⟩
      · obtain ⟨⟨g, hg⟩, hname⟩ := h
        obtain ⟨rfl, -⟩ := hpointer.unique hg
        rw [htypedef.unique hname]
    | _ =>
      refine ⟨none, ?_, nothing fun functionType g hg => ?_⟩
      · simp only [functionPointer?, hqualifiers, hstrip, htarget, bind, Except.bind]
        rfl
      · obtain ⟨_, _, _, hpointer, hg⟩ := hg
        cases hout.unique hpointer
        cases hend.unique hg
  | _ =>
    refine ⟨none, ?_, nothing fun functionType g hg => ?_⟩
    · simp only [functionPointer?, hqualifiers, hstrip, bind, Except.bind]
      rfl
    · obtain ⟨_, _, _, hpointer, -⟩ := hg
      cases hout.unique hpointer

end

/-- A document that has been loaded is closed. -/
theorem closed_of_read {text : String} (h : Document.read text = .ok d) : d.Closed := by
  cases hraw : (Json.read? text).bind Document.ofJson? with
  | none =>
    unfold Document.read at h
    rw [hraw] at h
    cases h
  | some raw =>
    rw [read_of_decoded hraw] at h
    exact (rootedFrom_of_accept h).closed (accept_ok.1 h).1

end Document

end Bindery.Native
