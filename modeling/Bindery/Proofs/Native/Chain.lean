import Bindery.Native.Chain
import Bindery.Proofs.Lowering.Run
import Bindery.Proofs.Native.Loading
import Mathlib.Data.Fintype.EquivFin
import Mathlib.Data.Fintype.Sets
import Mathlib.Data.List.Nodup
import Mathlib.Logic.Relation

/-!
# Chains that end

A chain through a document that ends has fewer steps than there are nodes, so the steps that a
walk is allowed tell an endless chain from all others.
-/

namespace Bindery

open Native (Identity TypeNode)

/-- Keys that are numbered in one way, down to zero one after the other, are not numbered higher
than there are keys. -/
theorem Dict.number_le_size {α : Type} {d : Dict α} {R : Nat → String → Prop}
    (unique : ∀ {j k x}, R j x → R k x → j = k)
    (down : ∀ {k x}, R (k + 1) x → x ∈ d.keys ∧ ∃ next, R k next) {k : Nat} {x : String} (h : R k x) :
    k ≤ d.size := by
  have way : ∃ l : List String, l.length = k ∧ l.Nodup ∧ l ⊆ d.keys ∧ ∀ y ∈ l, ∃ j ≤ k, R j y := by
    induction k generalizing x with
    | zero => exact ⟨[], rfl, List.nodup_nil, List.nil_subset _, by simp⟩
    | succ k ih =>
      obtain ⟨hx, next, hnext⟩ := down h
      obtain ⟨l, hl, hnd, hsub, hnumbered⟩ := ih hnext
      have hnew : x ∉ l := by
        intro hm
        obtain ⟨j, hj, hjx⟩ := hnumbered x hm
        have := unique hjx h
        omega
      refine ⟨x :: l, by simp [hl], List.nodup_cons.2 ⟨hnew, hnd⟩, List.cons_subset.2 ⟨hx, hsub⟩,
        fun y hy => ?_⟩
      rcases List.mem_cons.1 hy with rfl | hy
      · exact ⟨k + 1, Nat.le_refl _, h⟩
      · obtain ⟨j, hj, hjy⟩ := hnumbered y hy
        exact ⟨j, by omega, hjy⟩
  obtain ⟨l, rfl, hnd, hsub, -⟩ := way
  simpa [Dict.keys, Dict.size] using hnd.length_le_of_subset hsub

/-- Among finitely many things of which none leads back to itself, every way comes to an end. -/
theorem wellFounded_of_acyclic {α : Type} {R : α → α → Prop} {P : α → Prop} [Finite {a // P a}]
    (h : ∀ a, P a → ¬ Relation.TransGen R a a) :
    WellFounded fun a b : {a // P a} => Relation.TransGen R b.1 a.1 :=
  have : IsTrans {a // P a} fun a b => Relation.TransGen R b.1 a.1 := ⟨fun _ _ _ hab hbc => hbc.trans hab⟩
  have : Std.Irrefl fun a b : {a // P a} => Relation.TransGen R b.1 a.1 := ⟨fun a => h a.1 a.2⟩
  Finite.wellFounded_of_trans_of_irrefl _

namespace Native.Document

variable (d : Document) (next : TypeNode → Option Identity)

/-- A chain of the given number of steps to the first node from which there is no other. -/
inductive Follows : Nat → Identity → Identity × TypeNode → Prop
  | here {id node} (hn : d.types.get? id = some node) (h : next node = none) : Follows 0 id (id, node)
  | step {k id node inner out} (hn : d.types.get? id = some node) (h : next node = some inner)
      (hf : Follows k inner out) : Follows (k + 1) id out

variable {d next} {j k : Nat} {id : Identity} {out out' : Identity × TypeNode}

theorem Follows.unique (h : d.Follows next j id out) (h' : d.Follows next k id out') :
    j = k ∧ out = out' := by
  induction h generalizing k with
  | here hn h =>
    cases h' with
    | here hn' _ =>
      rw [hn] at hn'
      cases hn'
      exact ⟨rfl, rfl⟩
    | step hn' h' _ =>
      rw [hn] at hn'
      cases hn'
      rw [h] at h'
      cases h'
  | step hn h _ ih =>
    cases h' with
    | here hn' h' =>
      rw [hn] at hn'
      cases hn'
      rw [h] at h'
      cases h'
    | step hn' h' hf' =>
      rw [hn] at hn'
      cases hn'
      rw [h] at h'
      cases h'
      obtain ⟨rfl, rfl⟩ := ih hf'
      exact ⟨rfl, rfl⟩

theorem Follows.le_size (h : d.Follows next k id out) : k ≤ d.types.size := by
  refine Dict.number_le_size (R := fun k id => ∃ out, d.Follows next k id out) ?_ ?_ ⟨out, h⟩
  · intro j k id hj hk
    obtain ⟨_, hj⟩ := hj
    obtain ⟨_, hk⟩ := hk
    exact (hj.unique hk).1
  · intro k id hk
    obtain ⟨out, hk⟩ := hk
    cases hk with
    | step hn _ hf =>
      exact ⟨Dict.mem_keys_of_get? hn, _, out, hf⟩

theorem follow_ok {endless : DocumentError} {steps : Nat} :
    d.follow next endless steps id = .ok out ↔ ∃ k < steps, d.Follows next k id out := by
  induction steps generalizing id with
  | zero => exact ⟨nofun, fun ⟨_, hk, _⟩ => by omega⟩
  | succ steps ih =>
    rw [follow, bind_ok]
    constructor
    · intro h
      obtain ⟨node, hn, h⟩ := h
      rw [node_ok] at hn
      split at h
      · rename_i inner hi
        obtain ⟨k, hk, hf⟩ := ih.1 h
        exact ⟨k + 1, by omega, .step hn hi hf⟩
      · rename_i hnone
        cases h
        exact ⟨0, by omega, .here hn hnone⟩
    · intro h
      obtain ⟨k, hk, hf⟩ := h
      cases hf with
      | @here _ node hn h =>
        refine ⟨node, node_ok.2 hn, ?_⟩
        rw [h]
        rfl
      | @step j _ node inner _ hn h hf =>
        refine ⟨node, node_ok.2 hn, ?_⟩
        rw [h]
        exact ih.2 ⟨j, by omega, hf⟩

/-- A walk with one step more than there are nodes finds the end of every chain that has one. -/
theorem walk_ok {endless : DocumentError} :
    d.follow next endless (d.types.size + 1) id = .ok out ↔ ∃ k, d.Follows next k id out := by
  rw [follow_ok]
  constructor
  · intro h
    obtain ⟨k, -, hf⟩ := h
    exact ⟨k, hf⟩
  · intro h
    obtain ⟨k, hf⟩ := h
    exact ⟨k, Nat.lt_succ_of_le hf.le_size, hf⟩

theorem strip_ok : d.strip id = .ok out ↔ ∃ k, d.Follows TypeNode.underlying? k id out := walk_ok

theorem stripQualifiers_ok : d.stripQualifiers id = .ok out ↔ ∃ k, d.Follows TypeNode.unqualified? k id out :=
  walk_ok

end Native.Document

end Bindery
