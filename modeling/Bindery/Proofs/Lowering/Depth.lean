import Bindery.Lowering.Members
import Bindery.Proofs.Lowering.Meaning

/-!
# Documents in which every type ends

Array, pointer, typedef and qualifier edges lead from a type to the one within it. If they
form no cycle, every walk along them ends, after fewer steps than there are nodes, and then
the depth that is allowed to a lowering always suffices.
-/

namespace Bindery

open Native (Identity DocumentError Document TypeNode)

/-! ## Acyclic documents -/

namespace Native.Document

variable (d : Document)

def Inner (id next : Identity) : Prop :=
  ∃ node, d.types.get? id = some node ∧ LoweringContext.inner? node = some next

def Acyclic : Prop := ∀ id, ¬ Relation.TransGen d.Inner id id

variable {d}

/-- A document is acyclic if numbers can be given to its nodes that fall along the edges. -/
theorem acyclic_of_rank (rank : Identity → Nat)
    (h : ∀ e ∈ d.types.entries, ∀ next ∈ LoweringContext.inner? e.2, rank next < rank e.1) :
    d.Acyclic := by
  have down : ∀ id next, Relation.TransGen d.Inner id next → rank next < rank id := by
    intro id next hp
    have edge {id next : Identity} (hi : d.Inner id next) : rank next < rank id := by
      obtain ⟨node, hn, hi⟩ := hi
      exact h (id, node) ((d.types.get?_eq_some_iff id node).1 hn) next hi
    induction hp with
    | single hi => exact edge hi
    | tail _ hi ih => exact (edge hi).trans ih
  exact fun id hp => Nat.lt_irrefl _ (down id id hp)

theorem Acyclic.wellFounded (h : d.Acyclic) :
    WellFounded fun a b : {x // x ∈ d.types.keys} => Relation.TransGen d.Inner b.1 a.1 :=
  wellFounded_of_acyclic fun id _ => h id

end Native.Document

namespace LoweringContext

variable {c : LoweringContext}

theorem inner_of_next? {id next : Identity} (h : c.next? id = some next) :
    c.document.Inner id next := by
  obtain ⟨node, hn, hi⟩ := Option.bind_eq_some_iff.1 h
  split at hi
  · cases hi
  · exact ⟨node, hn, hi⟩

theorem Ends.of_not_mem {id : Identity} (h : id ∉ c.document.types.keys) : c.Ends 0 id := by
  refine .here ?_
  rw [Dict.mem_keys_iff, Dict.contains, Bool.not_eq_true, Option.isSome_eq_false_iff,
    Option.isNone_iff_eq_none] at h
  rw [next?, h, Option.bind_none]

theorem Ends.of_acyclic (h : c.document.Acyclic) (id : Identity) : ∃ k, c.Ends k id := by
  have key : ∀ x : {x // x ∈ c.document.types.keys}, ∃ k, c.Ends k x.1 := by
    intro x
    induction x using h.wellFounded.induction with
    | _ x ih =>
      cases hn : c.next? x.1 with
      | none => exact ⟨0, .here hn⟩
      | some next =>
        by_cases hk : next ∈ c.document.types.keys
        · obtain ⟨k, hk⟩ := ih ⟨next, hk⟩ (.single (inner_of_next? hn))
          exact ⟨k + 1, .step hn hk⟩
        · exact ⟨1, .step hn (.of_not_mem hk)⟩
  by_cases hk : id ∈ c.document.types.keys
  · exact key ⟨id, hk⟩
  · exact ⟨0, .of_not_mem hk⟩

end LoweringContext

/-! ## Computations without certain faults -/

namespace Lowering

variable {α β : Type} {bad : BindingError → Prop}

def Never (bad : BindingError → Prop) (m : Lowering α) : Prop :=
  ∀ r e, m.run r = .error e → ¬ bad e

theorem Never.pure (a : α) : Never bad (Pure.pure a) := fun _ _ h => by cases h

theorem Never.get : Never bad (MonadState.get : Lowering Registry) := fun _ _ h => by cases h

theorem Never.modify (f : Registry → Registry) : Never bad (modify f : Lowering PUnit) :=
  fun _ _ h => by cases h

theorem Never.throw {e : BindingError} (h : ¬ bad e) : Never bad (MonadExcept.throw e : Lowering α) :=
  fun _ _ he => by cases he; exact h

theorem Never.bind {x : Lowering α} {f : α → Lowering β} (hx : Never bad x)
    (hf : ∀ a, Never bad (f a)) : Never bad (x >>= f) := by
  intro r e h
  rw [StateT.run_bind] at h
  cases hr : x.run r with
  | error e' =>
    rw [hr] at h
    cases h
    exact hx r _ hr
  | ok p =>
    rw [hr] at h
    exact hf p.1 p.2 e h

theorem Never.lift {x : Except BindingError α} (h : ∀ e, x = .error e → ¬ bad e) :
    Never bad (liftM x) := by
  intro r e he
  cases x with
  | error e' => cases he; exact h _ rfl
  | ok a => cases he

/-- What is done with a result may rely on it. -/
theorem Never.lift_bind {x : Except BindingError α} {f : α → Lowering β}
    (hx : ∀ e, x = .error e → ¬ bad e) (hf : ∀ a, x = .ok a → Never bad (f a)) :
    Never bad (liftM x >>= f) := by
  cases x with
  | error e =>
    intro r e' he
    cases he
    exact hx e rfl
  | ok a => exact hf a rfl

/-- What is done with an answer of the document may rely on it. -/
theorem Never.ask_bind {x : Except DocumentError α} {f : α → Lowering β}
    (hx : ∀ e, x = .error e → ¬ bad (.document e)) (hf : ∀ a, x = .ok a → Never bad (f a)) :
    Never bad (liftM x >>= f) := by
  show Never bad (liftM (x.mapError BindingError.document) >>= f)
  cases x with
  | error e => exact .lift_bind (fun _ he => by cases he; exact hx e rfl) nofun
  | ok a => exact .lift_bind nofun fun _ ha => by cases ha; exact hf a rfl

theorem Never.mapM {f : α → Lowering β} {l : List α} (h : ∀ a ∈ l, Never bad (f a)) :
    Never bad (l.mapM f) := by
  induction l with
  | nil => rw [List.mapM_nil]; exact .pure _
  | cons a l ih =>
    rw [List.mapM_cons]
    exact (h a List.mem_cons_self).bind fun _ =>
      (ih fun b hb => h b (List.mem_cons_of_mem _ hb)).bind fun _ => .pure _

theorem Never.forM {f : α → Lowering PUnit} {l : List α} (h : ∀ a ∈ l, Never bad (f a)) :
    Never bad (l.forM f) := by
  induction l with
  | nil => exact .pure _
  | cons a l ih =>
    exact (h a List.mem_cons_self).bind fun _ => ih fun b hb => h b (List.mem_cons_of_mem _ hb)

end Lowering

namespace LoweringContext

variable (c : LoweringContext)

/-! ## Lowering in bounded depth -/

/-- Kinds of fault that the lowering of a single node does not run into. -/
structure Foreign (bad : BindingError → Prop) : Prop where
  unsupported : ∀ id why, ¬ bad (.unsupportedType id why)
  voidValue : ∀ place, ¬ bad (.voidValue place)
  unknown : ∀ id place, ¬ bad (.document (.unknownType id place))

namespace Foreign

variable {c} {bad : BindingError → Prop} (hb : Foreign bad)
include hb

theorem node {id : Identity} {e : DocumentError} (h : c.document.node id = .error e) : ¬ bad (.document e) := by
  unfold Native.Document.node at h
  split at h
  · cases h
  · cases h
    exact hb.unknown _ _

theorem requireValue {place : String} {d : Descriptor} {e : BindingError}
    (h : LoweringContext.requireValue place d = .error e) : ¬ bad e := by
  unfold LoweringContext.requireValue at h
  split at h
  · cases h
    exact hb.voidValue _
  · cases h

theorem lowerFundamental {id : Identity} {name : String} {size : Nat} {e : BindingError}
    (h : LoweringContext.lowerFundamental id name size = .error e) : ¬ bad e := by
  unfold LoweringContext.lowerFundamental at h
  split at h
  · cases h
    exact hb.unsupported _ _
  · cases h
  · cases h
  · split at h
    · cases h
    · cases h
      exact hb.unsupported _ _

omit hb in
theorem register (s : Bool) (d : Declaration) : Lowering.Never bad (LoweringContext.register s d) :=
  (Lowering.Never.modify _).bind fun _ => .pure _

theorem lowerNode {inner : Identity → Bool → Lowering Descriptor} {node : TypeNode}
    (h : ∀ next, inner? node = some next → ∀ s, Lowering.Never bad (inner next s))
    (id : Identity) (s : Bool) : Lowering.Never bad (c.lowerNode inner id s node) := by
  cases node with
  | fundamental name size => exact .lift fun e he => hb.lowerFundamental he
  | enumeration e =>
    rw [LoweringContext.lowerNode]
    split
    · exact register _ _
    · exact .throw (hb.unsupported _ _)
  | array element length size =>
    exact (h element rfl true).bind fun _ =>
      (Lowering.Never.lift fun e he => hb.requireValue he).bind fun _ => .pure _
  | struct t => exact register _ _
  | union t => exact register _ _
  | pointer pointee size => exact (h pointee rfl true).bind fun _ => .pure _
  | typedef t =>
    refine Lowering.Never.ask_bind (fun e he => hb.node he) fun root _ =>
      (h t.base rfl _).bind fun literal => ?_
    split
    · exact .pure _
    · exact Lowering.Never.get.bind fun _ => register _ _
  | function f => exact .pure _
  | qualified base => exact h base rfl true
  | unimplemented name => exact .pure _
  | unsupported => exact .throw (hb.unsupported _ _)

/-- All faults that are left are those of the types within. -/
theorem lowerWithin {depth : Nat} {id : Identity}
    (h : ∀ node next, c.Plain id node → inner? node = some next →
      ∀ s, Lowering.Never bad (c.lowerWithin depth next s))
    (s : Bool) : Lowering.Never bad (c.lowerWithin (depth + 1) id s) := by
  refine Lowering.Never.get.bind fun r => ?_
  dsimp only
  split
  · exact (Lowering.Never.modify _).bind fun _ => .pure _
  refine Lowering.Never.ask_bind (fun e he => hb.node he) fun node hn => ?_
  cases ho : c.override? node with
  | some d => exact .pure _
  | none => exact hb.lowerNode (h node · ⟨Native.Document.node_ok.1 hn, ho⟩) id s

end Foreign

inductive Endless : BindingError → Prop
  | type (id : Identity) : Endless (.document (.endlessType id))

theorem Endless.foreign : Foreign Endless := ⟨nofun, nofun, nofun⟩

variable {c}

theorem Ends.never_lowerWithin {k depth : Nat} {id : Identity} (h : c.Ends k id) (hd : k < depth)
    (s : Bool) : Lowering.Never Endless (c.lowerWithin depth id s) := by
  induction depth generalizing k id s with
  | zero => omega
  | succ depth ih =>
    refine Endless.foreign.lowerWithin (fun node next hp hi s => ?_) s
    obtain ⟨j, rfl, hj⟩ := h.of_succ (hp.next?.trans hi)
    exact ih hj (by omega) s

theorem never_lower (h : c.document.Acyclic) (id : Identity) (s : Bool) :
    Lowering.Never Endless (c.lower id s) := by
  obtain ⟨k, hk⟩ := Ends.of_acyclic h id
  exact hk.never_lowerWithin (Nat.lt_succ_of_le hk.le_size) s

theorem never_value (h : c.document.Acyclic) (id : Identity) (place : String) :
    Lowering.Never Endless (c.value id place) :=
  (never_lower h id true).bind fun _ => .lift fun _ he => Endless.foreign.requireValue he

/-! ## Members in bounded depth -/

theorem never_lowerField (h : c.document.Acyclic) (id : Identity) (index : Nat) (f : Native.Field) :
    Lowering.Never Endless (c.lowerField id index f) := by
  refine (never_value h _ _).bind fun _ => ?_
  refine Lowering.Never.bind ?_ fun _ => Lowering.Never.get.bind fun _ => .pure _
  refine Lowering.Never.get.bind fun r => ?_
  split
  · exact .pure _
  · exact (Lowering.Never.modify _).bind fun _ => .pure _

theorem not_endless_nativeFields {id : Identity} {e : BindingError} (h : c.nativeFields id = .error e) :
    ¬ Endless e := by
  unfold nativeFields at h
  cases hn : c.document.node id with
  | error e' =>
    rw [hn] at h
    cases h
    exact Endless.foreign.node hn
  | ok node =>
    rw [hn] at h
    cases node <;> cases h

theorem never_populateOne (h : c.document.Acyclic) (id : Identity) :
    Lowering.Never Endless (c.populateOne id) :=
  (Lowering.Never.lift fun _ he => not_endless_nativeFields he).bind fun _ =>
    (Lowering.Never.mapM fun (f, index) _ => never_lowerField h id index f).bind fun _ => .modify _

/-- In an acyclic document no walk of a population is cut off. -/
theorem never_populateWithin (h : c.document.Acyclic) (limit : Nat) :
    Lowering.Never Endless (c.populateWithin limit) := by
  induction limit with
  | zero => exact .pure _
  | succ limit ih =>
    refine Lowering.Never.get.bind fun r => ?_
    dsimp only
    split
    · exact .pure _
    · exact (Lowering.Never.forM fun id _ => never_populateOne h id).bind fun _ =>
        ih.bind fun _ => .pure _

end LoweringContext

end Bindery
