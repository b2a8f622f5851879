import Bindery.Proofs.Lowering.Types

/-!
# Requests

A request that succeeds in one consistent registry succeeds in all of them, with the same
descriptor and the same marks. `Transparent` says this of any computation; it holds of what
is composed of such ones.
-/

namespace Bindery

open Native (Identity DocumentError TypeNode PointerKind)

namespace LoweringContext

variable {α β : Type} (c : LoweringContext) {r r' : Registry}

def Answers (m : Lowering α) (a : α) (M : Set Mark) : Prop :=
  ∀ r, c.Consistent r → c.Yields m r a M

/-- A computation that succeeds everywhere in the same way if it succeeds anywhere. -/
def Transparent (m : Lowering α) : Prop :=
  ∀ r a r', c.Consistent r → m.run r = .ok (a, r') → ∃ M, c.Answers m a M

variable {c}

theorem Answers.of_run {m : Lowering α} {a b : α} {M : Set Mark} (h : c.Answers m a M)
    (hc : c.Consistent r) (hr : m.run r = .ok (b, r')) : a = b ∧ c.Grows r M r' := by
  obtain ⟨r₁, h₁, hg⟩ := h r hc
  rw [hr] at h₁
  cases h₁
  exact ⟨rfl, hg⟩

theorem Answers.pure (a : α) : c.Answers (Pure.pure a) a ∅ := fun r hc =>
  ⟨r, Lowering.run_pure_ok.2 ⟨rfl, rfl⟩, Grows.refl hc⟩

theorem Answers.bind {x : Lowering α} {f : α → Lowering β} {a : α} {b : β} {M M' : Set Mark}
    (hx : c.Answers x a M) (hf : c.Answers (f a) b M') : c.Answers (x >>= f) b (M ∪ M') := by
  intro r hc
  obtain ⟨r₁, hr, hg⟩ := hx r hc
  obtain ⟨r₂, hr', hg'⟩ := hf r₁ hg.consistent
  exact ⟨r₂, Lowering.run_bind_ok.2 ⟨a, r₁, hr, hr'⟩, hg.trans hg'⟩

theorem Transparent.pure (a : α) : c.Transparent (Pure.pure a) := by
  intro r b r' _ h
  obtain ⟨rfl, -⟩ := Lowering.run_pure_ok.1 h
  exact ⟨∅, Answers.pure a⟩

theorem Transparent.bind {x : Lowering α} {f : α → Lowering β} (hx : c.Transparent x)
    (hf : ∀ a, c.Transparent (f a)) : c.Transparent (x >>= f) := by
  intro r b r' hc h
  obtain ⟨a, r₁, hr, hr'⟩ := Lowering.run_bind_ok.1 h
  obtain ⟨M, hM⟩ := hx r a r₁ hc hr
  obtain ⟨M', hM'⟩ := hf a r₁ b r' (hM.of_run hc hr).2.consistent hr'
  exact ⟨M ∪ M', hM.bind hM'⟩

theorem Transparent.lift (x : Except BindingError α) : c.Transparent (liftM x) := by
  intro r a r' _ h
  obtain ⟨hx, -⟩ := Lowering.run_lift_ok.1 h
  exact ⟨∅, fun r hc => ⟨r, Lowering.run_lift_ok.2 ⟨hx, rfl⟩, Grows.refl hc⟩⟩

theorem Transparent.ask (x : Except DocumentError α) : c.Transparent (liftM x) := by
  intro r a r' _ h
  obtain ⟨hx, -⟩ := Lowering.run_ask_ok.1 h
  exact ⟨∅, fun r hc => ⟨r, Lowering.run_ask_ok.2 ⟨hx, rfl⟩, Grows.refl hc⟩⟩

/-! ## Types -/

section
variable {id : Identity} {s : Bool} {d : Descriptor} {n : Nat} {M : Set Mark}

/-- The depth that the document allows suffices for every type that lowers at all. -/
theorem Lowers.answers (h : c.Lowers id s d n M) : c.Answers (c.lower id s) d M := by
  intro r hc
  obtain ⟨k, hk, -⟩ := h.ends
  exact h.yields hk hk.le_size hc

theorem lowers_of_lower (hc : c.Consistent r) (h : (c.lower id s).run r = .ok (d, r')) :
    ∃ n M, c.Lowers id s d n M := lowers_of_run hc h

end

theorem Transparent.lower (id : Identity) (s : Bool) : c.Transparent (c.lower id s) := by
  intro r d r' hc h
  obtain ⟨n, M, hM⟩ := lowers_of_lower hc h
  exact ⟨M, hM.answers⟩

theorem Transparent.declare (id : Identity) : c.Transparent (c.declare id) := Transparent.lower id true

theorem Transparent.value (id : Identity) (place : String) : c.Transparent (c.value id place) :=
  (Transparent.declare id).bind fun _ => Transparent.lift _

theorem Lowers.answers_boolean {id : Identity} {d : Descriptor} {n : Nat} {M : Set Mark}
    (h : c.Lowers id true d n M) (hc : c.Consistent r) (hM : M ⊆ r.marks) :
    c.Answers (do
        let d ← c.declare id
        let r ← get
        pure (Descriptor.boolean (d.nativeName r) (d.size r c.rules.pointerWidth)))
      (.boolean (d.nativeName r) n) M := by
  intro r₁ hc₁
  obtain ⟨r₂, hr, hg⟩ := h.answers r₁ hc₁
  refine ⟨r₂, Lowering.run_bind_ok.2 ⟨d, r₂, hr, Lowering.run_bind_ok.2
    ⟨r₂, r₂, Lowering.run_get_ok.2 ⟨rfl, rfl⟩, Lowering.run_pure_ok.2 ⟨?_, rfl⟩⟩⟩, hg⟩
  rw [h.size_eq hg.consistent hg.subset, h.nativeName_eq hg.consistent hc hg.subset hM]

theorem Transparent.lowerPlain (id : Identity) : c.Transparent (c.lowerPlain id) := by
  refine (Transparent.ask _).bind fun node => ?_
  split
  · intro r b r' hc h
    obtain ⟨d, r₁, hr, hb⟩ := Lowering.run_bind_ok.1 h
    obtain ⟨n, M, hM⟩ := lowers_of_lower hc hr
    have hg := (hM.answers.of_run hc hr).2
    have ha := hM.answers_boolean hg.consistent hg.subset
    obtain ⟨rfl, -⟩ := ha.of_run hc h
    exact ⟨M, ha⟩
  · exact Transparent.declare id

theorem Transparent.lowerTarget (pointee : Identity) (kind : PointerKind) :
    c.Transparent (c.lowerTarget pointee kind) := by
  refine (Transparent.declare pointee).bind fun target => ?_
  split
  · exact Transparent.pure _
  · split <;> exact Transparent.pure _

theorem Transparent.lowerNested (id pointee : Identity) : c.Transparent (c.lowerNested id pointee) := by
  refine (Transparent.ask _).bind fun ⟨_, target⟩ => ?_
  dsimp only
  split
  · exact (Transparent.value _ _).bind fun _ => Transparent.pure _
  · exact (Transparent.value _ _).bind fun _ => Transparent.pure _

/-- A request has one answer in all consistent registries, or none in any. -/
theorem Transparent.resolve (id : Identity) (kind : PointerKind) : c.Transparent (c.resolve id kind) := by
  unfold LoweringContext.resolve
  split
  · exact Transparent.lowerPlain id
  · refine (Transparent.ask _).bind fun ⟨_, node⟩ => ?_
    dsimp only
    split
    · split
      · exact Transparent.pure _
      · exact Transparent.pure _
      · exact Transparent.declare id
      · exact Transparent.lowerNested id _
      · exact Transparent.lowerTarget _ _
    · exact Transparent.declare id

theorem Transparent.resolveReturn (id : Identity) : c.Transparent (c.resolveReturn id) := by
  refine (Transparent.ask _).bind fun isVoid => ?_
  split
  · exact Transparent.pure _
  · refine (Transparent.ask _).bind fun isText => ?_
    split
    · exact Transparent.pure _
    · exact (Transparent.resolve id _).bind fun _ => Transparent.pure _

/-! ## Results -/

variable (c) in
def Gives (m : Lowering α) (a : α) : Prop := ∃ M, c.Answers m a M

theorem Gives.run {m : Lowering α} {x : α} (h : c.Gives m x) (hc : c.Consistent r) :
    ∃ r', m.run r = .ok (x, r') ∧ c.Consistent r' := by
  obtain ⟨M, hM⟩ := h
  obtain ⟨r', hr, hg⟩ := hM r hc
  exact ⟨r', hr, hg.consistent⟩

theorem Transparent.gives {m : Lowering α} (h : c.Transparent m) {x : α} (hc : c.Consistent r)
    (hr : m.run r = .ok (x, r')) : c.Gives m x ∧ c.Consistent r' := by
  obtain ⟨M, hM⟩ := h r x r' hc hr
  exact ⟨⟨M, hM⟩, (hM.of_run hc hr).2.consistent⟩

theorem gives_lift {x : Except BindingError α} {y : α} : c.Gives (liftM x) y ↔ x = .ok y := by
  constructor
  · intro h
    obtain ⟨r, hr, -⟩ := h.run Consistent.empty
    exact (Lowering.run_lift_ok.1 hr).1
  · intro h
    exact ((Transparent.lift x).gives Consistent.empty (Lowering.run_lift_ok.2 ⟨h, rfl⟩)).1

theorem gives_ask_bind {x : Except DocumentError α} {f : α → Lowering β} {y : β} :
    c.Gives (liftM x >>= f) y ↔ ∃ v, x = .ok v ∧ c.Gives (f v) y := by
  cases x with
  | error e =>
    constructor
    · intro h
      obtain ⟨r, hr, -⟩ := h.run Consistent.empty
      cases hr
    · intro h
      obtain ⟨_, he, -⟩ := h
      cases he
  | ok v =>
    have here : (liftM (Except.ok (ε := DocumentError) v) >>= f : Lowering β) = f v := rfl
    rw [here]
    simp

theorem gives_bind {m : Lowering α} {f : α → Lowering β} (hm : c.Transparent m)
    (hf : ∀ x, c.Transparent (f x)) {y : β} : c.Gives (m >>= f) y ↔ ∃ x, c.Gives m x ∧ c.Gives (f x) y := by
  constructor
  · intro h
    obtain ⟨r, hr, -⟩ := h.run Consistent.empty
    obtain ⟨x, r₁, hx, hy⟩ := Lowering.run_bind_ok.1 hr
    obtain ⟨hgives, hc⟩ := hm.gives Consistent.empty hx
    exact ⟨x, hgives, ((hf x).gives hc hy).1⟩
  · intro h
    obtain ⟨x, ⟨M, hM⟩, M', hM'⟩ := h
    exact ⟨M ∪ M', hM.bind hM'⟩

theorem gives_declare {id : Identity} {d : Descriptor} :
    c.Gives (c.declare id) d ↔ ∃ n M, c.Lowers id true d n M := by
  constructor
  · intro h
    obtain ⟨r, hr, -⟩ := h.run Consistent.empty
    exact lowers_of_lower Consistent.empty hr
  · intro h
    obtain ⟨n, M, hM⟩ := h
    exact ⟨M, hM.answers⟩

/-- What follows on a computation stays as it is when that is replaced by one with the same results. -/
theorem Gives.bind_mono {m m' : Lowering α} {f : α → Lowering β} {y : β} (h : c.Gives (m >>= f) y)
    (hm : c.Transparent m) (hf : ∀ x, c.Transparent (f x)) (hmono : ∀ x, c.Gives m x → c.Gives m' x) :
    c.Gives (m' >>= f) y := by
  obtain ⟨x, hx, M', hM'⟩ := (gives_bind hm hf).1 h
  obtain ⟨M, hM⟩ := hmono x hx
  exact ⟨M ∪ M', hM.bind hM'⟩

end LoweringContext

end Bindery
