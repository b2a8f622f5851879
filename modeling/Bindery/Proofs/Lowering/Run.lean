import Bindery.Lowering.Types
import Mathlib.Data.List.Forall2

/-!
# Runs of lowerings

When a lowering that is put together from others succeeds, and with what.
-/

namespace Bindery

open Native (Identity DocumentError TypeNode)

namespace Lowering

variable {α β : Type} {r r' : Registry}

theorem run_pure_ok {a b : α} : (pure a : Lowering α).run r = .ok (b, r') ↔ a = b ∧ r = r' := by
  show Except.ok (a, r) = _ ↔ _
  simp

theorem run_bind_ok {x : Lowering α} {f : α → Lowering β} {b : β} :
    (x >>= f).run r = .ok (b, r') ↔
      ∃ a r₁, x.run r = .ok (a, r₁) ∧ (f a).run r₁ = .ok (b, r') := by
  rw [StateT.run_bind]
  cases h : x.run r with
  | error e =>
    constructor
    · intro he; cases he
    · intro h
      obtain ⟨_, _, he, _⟩ := h
      cases he
  | ok p =>
    constructor
    · intro hf; exact ⟨p.1, p.2, rfl, hf⟩
    · intro h
      obtain ⟨_, _, he, hf⟩ := h
      cases he
      exact hf

theorem run_get_ok {s : Registry} : (get : Lowering Registry).run r = .ok (s, r') ↔ r = s ∧ r = r' := by
  show Except.ok (r, r) = _ ↔ _
  simp

theorem run_modify_ok {f : Registry → Registry} {u : Unit} :
    (modify f : Lowering Unit).run r = .ok (u, r') ↔ f r = r' := by
  show Except.ok ((), f r) = _ ↔ _
  simp

theorem run_throw_ok {e : BindingError} {a : α} : (throw e : Lowering α).run r ≠ .ok (a, r') := nofun

theorem run_lift_ok {x : Except BindingError α} {a : α} :
    (liftM x : Lowering α).run r = .ok (a, r') ↔ x = .ok a ∧ r = r' := by
  cases x with
  | error e =>
    constructor
    · intro he; cases he
    · intro h
      obtain ⟨he, _⟩ := h
      cases he
  | ok b =>
    show Except.ok (b, r) = _ ↔ _
    simp

theorem run_ask_ok {x : Except DocumentError α} {a : α} :
    (liftM x : Lowering α).run r = .ok (a, r') ↔ x = .ok a ∧ r = r' := by
  cases x with
  | error e =>
    constructor
    · intro he; cases he
    · intro h
      obtain ⟨he, _⟩ := h
      cases he
  | ok b =>
    show Except.ok (b, r) = _ ↔ _
    simp

theorem run_discard {x : Lowering α} {a : α} (h : x.run r = .ok (a, r')) :
    (do let _ ← x : Lowering Unit).run r = .ok ((), r') :=
  run_bind_ok.2 ⟨a, r', h, run_pure_ok.2 ⟨rfl, rfl⟩⟩

/-- What holds of each step of a list of computations, with what they keep, holds of all. -/
theorem run_mapM_ok {I : Registry → Prop} {Q : β → α → Prop} {f : α → Lowering β}
    (hf : ∀ a r b r', I r → (f a).run r = .ok (b, r') → Q b a ∧ I r') {l : List α} {bs : List β}
    (hI : I r) (h : (l.mapM f).run r = .ok (bs, r')) : List.Forall₂ Q bs l := by
  induction l generalizing r bs r' with
  | nil =>
    rw [List.mapM_nil] at h
    obtain ⟨rfl, -⟩ := run_pure_ok.1 h
    exact .nil
  | cons a l ih =>
    rw [List.mapM_cons] at h
    obtain ⟨b, r₁, hb, h⟩ := run_bind_ok.1 h
    obtain ⟨bs', r₂, hbs, h⟩ := run_bind_ok.1 h
    obtain ⟨rfl, -⟩ := run_pure_ok.1 h
    obtain ⟨hQ, hI₁⟩ := hf a r b r₁ hI hb
    exact .cons hQ (ih hI₁ hbs)

/-! ## Preservation -/

def Preserves (P : Registry → Prop) (m : Lowering α) : Prop :=
  ∀ r a r', P r → m.run r = .ok (a, r') → P r'

variable {P : Registry → Prop}

theorem Preserves.pure (a : α) : Preserves P (Pure.pure a) := by
  intro r b r' hP h
  obtain ⟨-, rfl⟩ := run_pure_ok.1 h
  exact hP

theorem Preserves.get : Preserves P (MonadState.get : Lowering Registry) := by
  intro r s r' hP h
  obtain ⟨-, rfl⟩ := run_get_ok.1 h
  exact hP

theorem Preserves.bind {x : Lowering α} {f : α → Lowering β} (hx : Preserves P x)
    (hf : ∀ a, Preserves P (f a)) : Preserves P (x >>= f) := by
  intro r b r' hP h
  obtain ⟨a, r₁, hr, hr'⟩ := run_bind_ok.1 h
  exact hf a r₁ b r' (hx r a r₁ hP hr) hr'

theorem Preserves.lift (x : Except BindingError α) : Preserves P (liftM x) := by
  intro r a r' hP h
  obtain ⟨-, rfl⟩ := run_lift_ok.1 h
  exact hP

theorem Preserves.ask (x : Except DocumentError α) : Preserves P (liftM x) := by
  intro r a r' hP h
  obtain ⟨-, rfl⟩ := run_ask_ok.1 h
  exact hP

theorem Preserves.throw (e : BindingError) : Preserves P (throw e : Lowering α) :=
  fun _ _ _ _ h => (run_throw_ok h).elim

theorem Preserves.mapM {f : α → Lowering β} (hf : ∀ a, Preserves P (f a)) (l : List α) :
    Preserves P (l.mapM f) := by
  induction l with
  | nil => rw [List.mapM_nil]; exact .pure _
  | cons a l ih =>
    rw [List.mapM_cons]
    exact (hf a).bind fun _ => ih.bind fun _ => .pure _

theorem Preserves.forM {f : α → Lowering PUnit} (hf : ∀ a, Preserves P (f a)) (l : List α) :
    Preserves P (l.forM f) := by
  induction l with
  | nil => exact .pure _
  | cons a l ih => exact (hf a).bind fun _ => ih

end Lowering

theorem Native.Document.node_ok {d : Native.Document} {id : Identity} {node : TypeNode} :
    d.node id = .ok node ↔ d.types.get? id = some node := by
  unfold Native.Document.node
  cases d.types.get? id <;> simp

end Bindery
