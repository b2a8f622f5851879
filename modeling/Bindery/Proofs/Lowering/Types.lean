import Bindery.Proofs.Lowering.Consistency

/-!
# Lowering of types

Memoisation is transparent: in every consistent registry a lowering has the result that it
has without a registry, and fails if there is none. All that differs is what the registry
grows by.
-/

namespace Bindery

open Native (Identity TypeNode PointerKind)

namespace LoweringContext

variable (c : LoweringContext) {r r' : Registry}

theorem requireValue_ok {place : String} {d d' : Descriptor} :
    requireValue place d = .ok d' ↔ d.isVoid = false ∧ d = d' := by
  unfold requireValue
  cases d.isVoid with
  | false => simp [pure, Except.pure]
  | true => simp [throw, throwThe, MonadExceptOf.throw]

theorem register_ok {s : Bool} {d : Declaration} {d' : Descriptor} :
    (register s d).run r = .ok (d', r') ↔
      .declared d.id = d' ∧ (r.add { d with standalone := s }).2 = r' := by
  rw [register, Lowering.run_bind_ok]
  simp only [Lowering.run_modify_ok, Lowering.run_pure_ok]
  constructor
  · intro h
    obtain ⟨_, r₁, h, he, rfl⟩ := h
    exact ⟨he, h⟩
  · intro h
    obtain ⟨he, h⟩ := h
    exact ⟨(), _, h, he, rfl⟩

/-! ## One node -/

section
variable {depth : Nat} {id : Identity} {s : Bool} {d : Descriptor}

theorem lowerWithin_known (h : r.contains id = true) :
    (c.lowerWithin (depth + 1) id s).run r = .ok (d, r') ↔
      .declared id = d ∧ (r.modify id fun d => { d with standalone := d.standalone || s }) = r' := by
  rw [lowerWithin, Lowering.run_bind_ok]
  simp only [Lowering.run_get_ok]
  constructor
  · intro h
    obtain ⟨_, _, ⟨rfl, rfl⟩, hf⟩ := h
    rw [if_pos h, Lowering.run_bind_ok] at hf
    obtain ⟨_, _, hm, hp⟩ := hf
    rw [Lowering.run_modify_ok] at hm
    rw [Lowering.run_pure_ok] at hp
    exact ⟨hp.1, hm.trans hp.2⟩
  · intro h
    obtain ⟨rfl, rfl⟩ := h
    refine ⟨_, _, ⟨rfl, rfl⟩, ?_⟩
    rw [if_pos h, Lowering.run_bind_ok]
    exact ⟨(), _, Lowering.run_modify_ok.2 rfl, Lowering.run_pure_ok.2 ⟨rfl, rfl⟩⟩

theorem lowerWithin_unknown (h : r.get? id = none) :
    (c.lowerWithin (depth + 1) id s).run r = .ok (d, r') ↔
      ∃ node, c.document.types.get? id = some node ∧
        (match c.override? node with
          | some d => pure d
          | none => c.lowerNode (c.lowerWithin depth) id s node : Lowering Descriptor).run r =
            .ok (d, r') := by
  have hk : r.contains id ≠ true := by simp [Dict.contains, h]
  rw [lowerWithin, Lowering.run_bind_ok]
  simp only [Lowering.run_get_ok]
  constructor
  · intro h
    obtain ⟨_, _, ⟨rfl, rfl⟩, hf⟩ := h
    rw [if_neg hk, Lowering.run_bind_ok] at hf
    obtain ⟨node, _, hask, hf⟩ := hf
    obtain ⟨hn, rfl⟩ := Lowering.run_ask_ok.1 hask
    exact ⟨node, Native.Document.node_ok.1 hn, hf⟩
  · intro h
    obtain ⟨node, hn, hf⟩ := h
    refine ⟨_, _, ⟨rfl, rfl⟩, ?_⟩
    rw [if_neg hk, Lowering.run_bind_ok]
    exact ⟨node, _, Lowering.run_ask_ok.2 ⟨Native.Document.node_ok.2 hn, rfl⟩, hf⟩

variable {c}

theorem lowerWithin_overridden (h : r.get? id = none) {node : TypeNode}
    (hn : c.document.types.get? id = some node) (ho : c.override? node = some d) :
    (c.lowerWithin (depth + 1) id s).run r = .ok (d, r) := by
  rw [lowerWithin_unknown c h]
  refine ⟨node, hn, ?_⟩
  rw [ho]
  exact Lowering.run_pure_ok.2 ⟨rfl, rfl⟩

theorem lowerWithin_plain (h : r.get? id = none) {node : TypeNode} (hp : c.Plain id node) :
    (c.lowerWithin (depth + 1) id s).run r = .ok (d, r') ↔
      (c.lowerNode (c.lowerWithin depth) id s node).run r = .ok (d, r') := by
  rw [lowerWithin_unknown c h]
  constructor
  · intro h
    obtain ⟨node', hn, hf⟩ := h
    obtain rfl := Option.some.inj (hn.symm.trans hp.1)
    rwa [hp.2] at hf
  · intro hf
    refine ⟨node, hp.1, ?_⟩
    rwa [hp.2]

end

/-! ## What a run says -/

section
variable {c} {inner : Identity → Bool → Lowering Descriptor} {id : Identity} {s : Bool} {d : Descriptor}

theorem lowerNode_array_ok {element : Identity} {length size : Nat} :
    (c.lowerNode inner id s (.array element length size)).run r = .ok (d, r') ↔
      ∃ e, (inner element true).run r = .ok (e, r') ∧ e.isVoid = false ∧ .array e length = d := by
  simp only [lowerNode, Lowering.run_bind_ok, Lowering.run_lift_ok, requireValue_ok,
    Lowering.run_pure_ok]
  constructor
  · intro h
    obtain ⟨e, _, he, _, _, ⟨⟨hv, rfl⟩, rfl⟩, rfl, rfl⟩ := h
    exact ⟨e, he, hv, rfl⟩
  · intro h
    obtain ⟨e, he, hv, rfl⟩ := h
    exact ⟨e, _, he, e, _, ⟨⟨hv, rfl⟩, rfl⟩, rfl, rfl⟩

theorem lowerNode_pointer_ok {pointee : Identity} {size : Nat} :
    (c.lowerNode inner id s (.pointer pointee size)).run r = .ok (d, r') ↔
      ∃ e, (inner pointee true).run r = .ok (e, r') ∧ .pointer e = d := by
  simp only [lowerNode, Lowering.run_bind_ok, Lowering.run_pure_ok]
  constructor
  · intro h
    obtain ⟨e, _, he, rfl, rfl⟩ := h
    exact ⟨e, he, rfl⟩
  · intro h
    obtain ⟨e, he, rfl⟩ := h
    exact ⟨e, _, he, rfl, rfl⟩

theorem lowerNode_typedef_ok {t : Native.Typedef} :
    (c.lowerNode inner id s (.typedef t)).run r = .ok (d, r') ↔
      ∃ root e r₁, c.document.types.get? (t.root.getD t.base) = some root ∧
        (inner t.base (declaresLiteral root)).run r = .ok (e, r₁) ∧
        (e.isVoid = true ∧ .void = d ∧ r₁ = r' ∨
          e.isVoid = false ∧
            (register s
              { id, native := t.name, file := t.file
                size := if t.size = 0 then e.size r₁ c.rules.pointerWidth else t.size
                shape := .synonym e (t.root.getD t.base) (synonymStrategy root) }).run r₁ =
              .ok (d, r')) := by
  simp only [lowerNode, Lowering.run_bind_ok, Lowering.run_ask_ok, Native.Document.node_ok,
    beq_iff_eq]
  constructor
  · intro h
    obtain ⟨root, _, ⟨hr, rfl⟩, e, r₁, he, hf⟩ := h
    refine ⟨root, e, r₁, hr, he, ?_⟩
    cases hv : e.isVoid with
    | true =>
      rw [if_pos hv, Lowering.run_pure_ok] at hf
      exact .inl ⟨rfl, hf⟩
    | false =>
      rw [if_neg (by simp [hv]), Lowering.run_bind_ok] at hf
      obtain ⟨_, _, hg, hf⟩ := hf
      obtain ⟨rfl, rfl⟩ := Lowering.run_get_ok.1 hg
      exact .inr ⟨rfl, hf⟩
  · intro h
    obtain ⟨root, e, r₁, hr, he, ⟨hv, hd⟩ | ⟨hv, hf⟩⟩ := h
    · refine ⟨root, _, ⟨hr, rfl⟩, e, r₁, he, ?_⟩
      rw [if_pos hv, Lowering.run_pure_ok]
      exact hd
    · refine ⟨root, _, ⟨hr, rfl⟩, e, r₁, he, ?_⟩
      rw [if_neg (by simp [hv]), Lowering.run_bind_ok]
      exact ⟨_, _, Lowering.run_get_ok.2 ⟨rfl, rfl⟩, hf⟩

theorem lowerNode_enumeration_ok {e : Native.Enumeration} :
    (c.lowerNode inner id s (.enumeration e)).run r = .ok (d, r') ↔
      ∃ base, managedNumber? .signed (e.size * 8) = some base ∧
        (register s { id, native := e.name, file := e.file, size := e.size
                      shape := .enumeration base (constantsOf id e) }).run r = .ok (d, r') := by
  rw [lowerNode]
  cases managedNumber? .signed (e.size * 8) with
  | none => exact ⟨fun h => (Lowering.run_throw_ok h).elim, fun ⟨_, h, _⟩ => by cases h⟩
  | some base => exact ⟨fun h => ⟨base, rfl, h⟩, fun ⟨_, h, hr⟩ => by cases h; exact hr⟩

end

variable {c}

variable (c) in
inductive Runs : Identity → (standalone : Bool) → Registry → Descriptor → Registry → Prop
  | known {id s r} (hk : r.contains id = true) :
      Runs id s r (.declared id) (r.modify id fun d => { d with standalone := d.standalone || s })
  | overridden {id s r node d} (hk : r.get? id = none) (hn : c.document.types.get? id = some node)
      (ho : c.override? node = some d) : Runs id s r d r
  | fundamental {id s r name size d} (hk : r.get? id = none) (h : c.Plain id (.fundamental name size))
      (hd : lowerFundamental id name size = .ok d) : Runs id s r d r
  | enumeration {id s r r' e base d} (hk : r.get? id = none) (h : c.Plain id (.enumeration e))
      (hb : managedNumber? .signed (e.size * 8) = some base)
      (hreg : (register s { id, native := e.name, file := e.file, size := e.size
                            shape := .enumeration base (constantsOf id e) }).run r = .ok (d, r')) : Runs id s r d r'
  | array {id s r r' element length size d} (hk : r.get? id = none) (h : c.Plain id (.array element length size))
      (he : Runs element true r d r') (hv : d.isVoid = false) : Runs id s r (.array d length) r'
  | struct {id s r r' t d} (hk : r.get? id = none) (h : c.Plain id (.struct t))
      (hreg : (register s { id, native := t.name, file := t.file, size := t.size
                            shape := .struct none }).run r = .ok (d, r')) : Runs id s r d r'
  | union {id s r r' t d} (hk : r.get? id = none) (h : c.Plain id (.union t))
      (hreg : (register s { id, native := t.name, file := t.file, size := t.size
                            shape := .union none }).run r = .ok (d, r')) : Runs id s r d r'
  | pointer {id s r r' pointee size d} (hk : r.get? id = none) (h : c.Plain id (.pointer pointee size))
      (hp : Runs pointee true r d r') : Runs id s r (.pointer d) r'
  | typedef {id s r r₁ r' t root e d} (hk : r.get? id = none) (h : c.Plain id (.typedef t))
      (hr : c.document.types.get? (t.root.getD t.base) = some root)
      (hb : Runs t.base (declaresLiteral root) r e r₁) (hv : e.isVoid = false)
      (hreg : (register s { id, native := t.name, file := t.file
                            size := if t.size = 0 then e.size r₁ c.rules.pointerWidth else t.size
                            shape := .synonym e (t.root.getD t.base) (synonymStrategy root) }).run r₁ =
        .ok (d, r')) : Runs id s r d r'
  | voidTypedef {id s r r' t root e} (hk : r.get? id = none) (h : c.Plain id (.typedef t))
      (hr : c.document.types.get? (t.root.getD t.base) = some root)
      (hb : Runs t.base (declaresLiteral root) r e r') (hv : e.isVoid = true) : Runs id s r .void r'
  | function {id s r f} (hk : r.get? id = none) (h : c.Plain id (.function f)) : Runs id s r .opaqueFunction r
  | qualified {id s r r' base d} (hk : r.get? id = none) (h : c.Plain id (.qualified base))
      (hb : Runs base true r d r') : Runs id s r d r'
  | unimplemented {id s r name} (hk : r.get? id = none) (h : c.Plain id (.unimplemented name)) : Runs id s r .void r

theorem runs_of_run {depth : Nat} {id : Identity} {s : Bool} {d : Descriptor}
    (h : (c.lowerWithin depth id s).run r = .ok (d, r')) : c.Runs id s r d r' := by
  induction depth generalizing id s d r' with
  | zero => exact (Lowering.run_throw_ok h).elim
  | succ depth ih =>
    cases hk : r.get? id with
    | some e =>
      have hknown : r.contains id = true := by simp [Dict.contains, hk]
      obtain ⟨rfl, rfl⟩ := (lowerWithin_known c hknown).1 h
      exact .known hknown
    | none =>
      obtain ⟨node, hn, hf⟩ := (lowerWithin_unknown c hk).1 h
      cases ho : c.override? node with
      | some d' =>
        rw [ho] at hf
        obtain ⟨rfl, rfl⟩ := Lowering.run_pure_ok.1 hf
        exact .overridden hk hn ho
      | none =>
        rw [ho] at hf
        replace hf : (c.lowerNode (c.lowerWithin depth) id s node).run r = .ok (d, r') := hf
        have hp : c.Plain id node := ⟨hn, ho⟩
        cases node with
        | fundamental name size =>
          obtain ⟨hd, rfl⟩ := Lowering.run_lift_ok.1 hf
          exact .fundamental hk hp hd
        | enumeration e =>
          obtain ⟨base, hb, hf⟩ := lowerNode_enumeration_ok.1 hf
          exact .enumeration hk hp hb hf
        | array element length size =>
          obtain ⟨e, he, hv, rfl⟩ := lowerNode_array_ok.1 hf
          exact .array hk hp (ih he) hv
        | struct t => exact .struct hk hp hf
        | union t => exact .union hk hp hf
        | pointer pointee size =>
          obtain ⟨e, he, rfl⟩ := lowerNode_pointer_ok.1 hf
          exact .pointer hk hp (ih he)
        | typedef t =>
          obtain ⟨root, e, r₁, hr, he, ⟨hv, rfl, rfl⟩ | ⟨hv, hf⟩⟩ := lowerNode_typedef_ok.1 hf
          · exact .voidTypedef hk hp hr (ih he) hv
          · exact .typedef hk hp hr (ih he) hv hf
        | function f =>
          obtain ⟨rfl, rfl⟩ := Lowering.run_pure_ok.1 hf
          exact .function hk hp
        | qualified base => exact .qualified hk hp (ih hf)
        | unimplemented name =>
          obtain ⟨rfl, rfl⟩ := Lowering.run_pure_ok.1 hf
          exact .unimplemented hk hp
        | unsupported => exact (Lowering.run_throw_ok hf).elim

/-! ## What a run does -/

def Yields {α : Type} (c : LoweringContext) (m : Lowering α) (r : Registry) (a : α) (M : Set Mark) :
    Prop :=
  ∃ r', m.run r = .ok (a, r') ∧ c.Grows r M r'

section
variable {depth : Nat} {id : Identity} {s : Bool} {d : Descriptor} {n : Nat} {M : Set Mark}

theorem Lowers.grows_known (h : c.Lowers id s d n M) (hc : c.Consistent r) {e : Declaration}
    (he : r.get? id = some e) : .declared id = d ∧
      c.Grows r M (r.modify id fun d => { d with standalone := d.standalone || s }) := by
  obtain ⟨M', hM', hsub⟩ := hc.lowers he s
  obtain ⟨rfl, -, rfl⟩ := h.unique hM'
  have grown := Grows.touch hc he s
  exact ⟨rfl, { grown with marks := by rw [grown.marks, ← Set.union_assoc, Set.union_eq_left.2 hsub] }⟩

theorem Lowers.yields_known (h : c.Lowers id s d n M) (hc : c.Consistent r)
    {e : Declaration} (he : r.get? id = some e) :
    c.Yields (c.lowerWithin (depth + 1) id s) r d M := by
  obtain ⟨rfl, hg⟩ := h.grows_known hc he
  exact ⟨_, (lowerWithin_known c (by simp [Dict.contains, he])).2 ⟨rfl, rfl⟩, hg⟩

theorem grows_of_register {e : Declaration} {d : Descriptor} (he : c.Describes id e M) (hc : c.Consistent r)
    (hM : M ⊆ r.marks) (hn : r.get? id = none) (h : (register s e).run r = .ok (d, r')) :
    .declared id = d ∧ c.Grows r (Mark.reference id s) r' := by
  obtain rfl := he.id_eq
  obtain ⟨rfl, rfl⟩ := register_ok.1 h
  exact ⟨rfl, Grows.register hc he hM hn s⟩

theorem yields_register {e : Declaration} (he : c.Describes id e M) (hc : c.Consistent r)
    (hM : M ⊆ r.marks) (hn : r.get? id = none) :
    c.Yields (register s e) r (.declared id) (Mark.reference id s) :=
  ⟨_, register_ok.2 ⟨by rw [he.id_eq], rfl⟩, Grows.register hc he hM hn s⟩

theorem Lowers.yields_of_plain (h : c.Lowers id s d n M) (hc : c.Consistent r) {node : TypeNode}
    (hp : c.Plain id node)
    (hy : r.get? id = none → c.Yields (c.lowerNode (c.lowerWithin depth) id s node) r d M) :
    c.Yields (c.lowerWithin (depth + 1) id s) r d M := by
  cases hk : r.get? id with
  | some e => exact h.yields_known hc hk
  | none =>
    obtain ⟨r', hrun, hg⟩ := hy hk
    exact ⟨r', (lowerWithin_plain hk hp).2 hrun, hg⟩

/-- A typedef is still new when its base has been lowered. -/
theorem Grows.typedef_new {t : Native.Typedef} {b : Bool} (hg : c.Grows r M r') (hb : c.Lowers t.base b d n M)
    (hp : c.Plain id (.typedef t)) (hn : r.get? id = none) : r'.get? id = none := by
  rw [Registry.get?_eq_none_iff_marks] at hn ⊢
  rw [hg.marks]
  exact fun h => h.elim hn (hb.not_marked hp)

/-- A type that lowers without a registry lowers to the same descriptor in every consistent
registry, if the depth suffices. -/
theorem Lowers.yields (h : c.Lowers id s d n M) {k : Nat} (hk : c.Ends k id) (hd : k ≤ depth)
    (hc : c.Consistent r) : c.Yields (c.lowerWithin (depth + 1) id s) r d M := by
  -- one step inwards: the depth that is left suffices for the inner type
  have within : ∀ {id next : Identity} {node : TypeNode} {k depth : Nat}, c.Plain id node →
      inner? node = some next → c.Ends k id → k ≤ depth →
      ∃ j m, depth = m + 1 ∧ c.Ends j next ∧ j ≤ m := by
    intro id next node k depth hp hn hk hd
    obtain ⟨j, rfl, hj⟩ := hk.of_succ (hp.next?.trans hn)
    exact ⟨j, depth - 1, by omega, hj, by omega⟩
  induction h generalizing depth k r with
  | @overridden id s node d hn ho =>
    cases hr : r.get? id with
    | some e => exact (Lowers.overridden hn ho).yields_known hc hr
    | none => exact ⟨r, lowerWithin_overridden hr hn ho, Grows.refl hc⟩
  | fundamental h hl =>
    refine (Lowers.fundamental h hl).yields_of_plain hc h fun _ => ⟨r, ?_, Grows.refl hc⟩
    rw [lowerNode, Lowering.run_lift_ok]
    exact ⟨hl, rfl⟩
  | enumeration h hb =>
    refine (Lowers.enumeration h hb).yields_of_plain hc h fun hn => ?_
    obtain ⟨r', hrun, hg⟩ := yields_register (.enumeration h hb) hc (Set.empty_subset _) hn
    exact ⟨r', lowerNode_enumeration_ok.2 ⟨_, hb, hrun⟩, hg⟩
  | struct h =>
    exact (Lowers.struct h).yields_of_plain hc h fun hn =>
      yields_register (.struct h) hc (Set.empty_subset _) hn
  | union h =>
    exact (Lowers.union h).yields_of_plain hc h fun hn =>
      yields_register (.union h) hc (Set.empty_subset _) hn
  | function h =>
    exact (Lowers.function h).yields_of_plain hc h fun _ =>
      ⟨r, Lowering.run_pure_ok.2 ⟨rfl, rfl⟩, Grows.refl hc⟩
  | unimplemented h =>
    exact (Lowers.unimplemented h).yields_of_plain hc h fun _ =>
      ⟨r, Lowering.run_pure_ok.2 ⟨rfl, rfl⟩, Grows.refl hc⟩
  | array h he hv ih =>
    refine (Lowers.array h he hv).yields_of_plain hc h fun _ => ?_
    obtain ⟨j, m, rfl, hj, hm⟩ := within h rfl hk hd
    obtain ⟨r', hrun, hg⟩ := ih hj hm hc
    exact ⟨r', lowerNode_array_ok.2 ⟨_, hrun, hv, rfl⟩, hg⟩
  | pointer h hp ih =>
    refine (Lowers.pointer h hp).yields_of_plain hc h fun _ => ?_
    obtain ⟨j, m, rfl, hj, hm⟩ := within h rfl hk hd
    obtain ⟨r', hrun, hg⟩ := ih hj hm hc
    exact ⟨r', lowerNode_pointer_ok.2 ⟨_, hrun, rfl⟩, hg⟩
  | qualified h hb ih =>
    refine (Lowers.qualified h hb).yields_of_plain hc h fun _ => ?_
    obtain ⟨j, m, rfl, hj, hm⟩ := within h rfl hk hd
    exact ih hj hm hc
  | voidTypedef h hr hb hv ih =>
    refine (Lowers.voidTypedef h hr hb hv).yields_of_plain hc h fun _ => ?_
    obtain ⟨j, m, rfl, hj, hm⟩ := within h rfl hk hd
    obtain ⟨r', hrun, hg⟩ := ih hj hm hc
    exact ⟨r', lowerNode_typedef_ok.2 ⟨_, _, _, hr, hrun, .inl ⟨hv, rfl, rfl⟩⟩, hg⟩
  | @typedef id s t root d n M h hr hb hv ih =>
    refine (Lowers.typedef h hr hb hv).yields_of_plain hc h fun hn => ?_
    obtain ⟨j, m, rfl, hj, hm⟩ := within h rfl hk hd
    obtain ⟨r', hrun, hg⟩ := ih hj hm hc
    obtain ⟨r'', hrun', hg'⟩ := yields_register (s := s) (.typedef h hr hb hv) hg.consistent hg.subset
      (hg.typedef_new hb h hn)
    refine ⟨r'', lowerNode_typedef_ok.2 ⟨root, d, r', hr, hrun, .inr ⟨hv, ?_⟩⟩, hg.trans hg'⟩
    rw [hb.size_eq hg.consistent hg.subset]
    exact hrun'

/-- In a consistent registry a lowering that succeeds is that of the type without a registry, and lets the
registry grow by its marks. -/
theorem Runs.grows (h : c.Runs id s r d r') (hc : c.Consistent r) : ∃ n M, c.Lowers id s d n M ∧ c.Grows r M r' := by
  induction h with
  | @known id s r hk =>
    obtain ⟨e, he⟩ := Option.isSome_iff_exists.1 hk
    obtain ⟨M, hM, -⟩ := hc.lowers he s
    exact ⟨_, _, hM, (hM.grows_known hc he).2⟩
  | overridden _ hn ho => exact ⟨_, _, .overridden hn ho, .refl hc⟩
  | fundamental _ hp hd => exact ⟨_, _, .fundamental hp hd, .refl hc⟩
  | enumeration hk hp hb hreg =>
    obtain ⟨rfl, hg⟩ := grows_of_register (.enumeration hp hb) hc (Set.empty_subset _) hk hreg
    exact ⟨_, _, .enumeration hp hb, hg⟩
  | struct hk hp hreg =>
    obtain ⟨rfl, hg⟩ := grows_of_register (.struct hp) hc (Set.empty_subset _) hk hreg
    exact ⟨_, _, .struct hp, hg⟩
  | union hk hp hreg =>
    obtain ⟨rfl, hg⟩ := grows_of_register (.union hp) hc (Set.empty_subset _) hk hreg
    exact ⟨_, _, .union hp, hg⟩
  | array _ hp _ hv ih =>
    obtain ⟨n, M, hM, hg⟩ := ih hc
    exact ⟨_, _, .array hp hM hv, hg⟩
  | pointer _ hp _ ih =>
    obtain ⟨n, M, hM, hg⟩ := ih hc
    exact ⟨_, _, .pointer hp hM, hg⟩
  | typedef hk hp hr _ hv hreg ih =>
    obtain ⟨n, M, hM, hg⟩ := ih hc
    rw [hM.size_eq hg.consistent hg.subset] at hreg
    obtain ⟨rfl, hg'⟩ := grows_of_register (.typedef hp hr hM hv) hg.consistent hg.subset
      (hg.typedef_new hM hp hk) hreg
    exact ⟨_, _, .typedef hp hr hM hv, hg.trans hg'⟩
  | voidTypedef _ hp hr _ hv ih =>
    obtain ⟨n, M, hM, hg⟩ := ih hc
    exact ⟨_, _, .voidTypedef hp hr hM hv, hg⟩
  | function _ hp => exact ⟨_, _, .function hp, .refl hc⟩
  | qualified _ hp _ ih =>
    obtain ⟨n, M, hM, hg⟩ := ih hc
    exact ⟨_, _, .qualified hp hM, hg⟩
  | unimplemented _ hp => exact ⟨_, _, .unimplemented hp, .refl hc⟩

theorem lowers_of_run (hc : c.Consistent r) (h : (c.lowerWithin depth id s).run r = .ok (d, r')) :
    ∃ n M, c.Lowers id s d n M := by
  obtain ⟨n, M, hM, -⟩ := (runs_of_run h).grows hc
  exact ⟨n, M, hM⟩

end

end LoweringContext

end Bindery
