import Bindery.Proofs.Lowering.Order
import Bindery.Proofs.Lowering.Results

/-!
# Qualified types

A qualifier is looked through wherever a type is lowered or stripped, so a qualified type is as good
as its base in all requests but one. A truth type is told by the name of its own node, and a
qualified node has no name: directly under a qualifier a truth type is lowered like any other type.
-/

namespace Bindery

open Native (Identity DocumentError Document TypeNode PointerKind)
open Native.Document (bind_ok node_ok)

namespace Lowering

variable {α β : Type} {r : Registry}

def SameOutcome (r : Registry) (m m' : Lowering α) : Prop :=
  ∀ a r', m.run r = .ok (a, r') ↔ m'.run r = .ok (a, r')

theorem SameOutcome.refl (m : Lowering α) : SameOutcome r m m := fun _ _ => Iff.rfl

theorem SameOutcome.bind {m m' : Lowering α} (h : SameOutcome r m m') (f : α → Lowering β) :
    SameOutcome r (m >>= f) (m' >>= f) := by
  intro b r'
  simp only [run_bind_ok, h _ _]

theorem SameOutcome.ask_bind {x y : Except DocumentError α} (h : ∀ a, x = .ok a ↔ y = .ok a)
    {f g : α → Lowering β} (hf : ∀ a, y = .ok a → SameOutcome r (f a) (g a)) :
    SameOutcome r (liftM x >>= f) (liftM y >>= g) := by
  intro b r'
  simp only [run_bind_ok, run_ask_ok, h]
  constructor
  · rintro ⟨a, _, ⟨hy, rfl⟩, hb⟩
    exact ⟨a, _, ⟨hy, rfl⟩, (hf a hy b r').1 hb⟩
  · rintro ⟨a, _, ⟨hy, rfl⟩, hb⟩
    exact ⟨a, _, ⟨hy, rfl⟩, (hf a hy b r').2 hb⟩

end Lowering

namespace LoweringContext

open Lowering (SameOutcome)

variable {c : LoweringContext} {r r' : Registry} {q b id : Identity}

/-! ## Lowering -/

section
variable (hq : c.document.types.get? q = some (.qualified b))
include hq

theorem plain_qualified : c.Plain q (.qualified b) := ⟨hq, rfl⟩

theorem lowers_qualified_iff {s : Bool} {d : Descriptor} {n : Nat} {M : Set Mark} :
    c.Lowers q s d n M ↔ c.Lowers b true d n M := by
  have hp : c.Plain q (.qualified b) := plain_qualified hq
  constructor
  · intro h
    cases h with
    | overridden hn ho => exact (hp.not_override hn ho).elim
    | qualified h' hb =>
      cases hp.unique h'
      exact hb
    | _ => cases hp.unique ‹_›
  · exact .qualified hp

theorem declare_qualified (hc : c.Consistent r) : SameOutcome r (c.declare q) (c.declare b) := by
  -- the two leave the same marks, and these determine the registry
  have along {x y : Identity} (hxy : ∀ {d n M}, c.Lowers x true d n M → c.Lowers y true d n M)
      {d : Descriptor} {r' : Registry} (h : (c.declare x).run r = .ok (d, r')) :
      (c.declare y).run r = .ok (d, r') := by
    obtain ⟨n, M, hM⟩ := lowers_of_lower hc h
    have hg := (hM.answers.of_run hc h).2
    obtain ⟨r'', hrun, hg'⟩ := (hxy hM).answers r hc
    rwa [hg.unique hg']
  exact fun d r' => ⟨along (lowers_qualified_iff hq).1, along (lowers_qualified_iff hq).2⟩

theorem strip_qualified (out : Identity × TypeNode) :
    c.document.strip q = .ok out ↔ c.document.strip b = .ok out :=
  Native.Document.strip_step hq rfl

theorem isVoid_qualified (v : Bool) : c.document.isVoid q = .ok v ↔ c.document.isVoid b = .ok v := by
  unfold Native.Document.isVoid
  simp only [bind_ok, strip_qualified hq]

theorem isCString_qualified (v : Bool) :
    c.document.isCString q = .ok v ↔ c.document.isCString b = .ok v := by
  unfold Native.Document.isCString
  simp only [bind_ok, strip_qualified hq]

end

/-- The place for which a value is lowered only shows in the fault. -/
theorem value_place (id : Identity) (place place' : String) :
    SameOutcome r (c.value id place) (c.value id place') := by
  intro d r'
  unfold LoweringContext.value
  simp only [Lowering.run_bind_ok, Lowering.run_lift_ok, requireValue_ok]

theorem lowerNested_place (id id' pointee : Identity) :
    SameOutcome r (c.lowerNested id pointee) (c.lowerNested id' pointee) := by
  refine SameOutcome.ask_bind (fun _ => Iff.rfl) fun (_, target) _ => ?_
  dsimp only
  split
  · exact (value_place _ _ _).bind _
  · exact (value_place _ _ _).bind _

/-! ## Truth types -/

theorem not_truth_qualified (hq : c.document.types.get? q = some (.qualified b)) : ¬ c.Truth q := by
  rintro ⟨node, hn, ht⟩
  cases hq.symm.trans hn
  cases ht

theorem lowerPlain_of_truth (h : c.Truth id) {d : Descriptor} :
    (c.lowerPlain id).run r = .ok (d, r') ↔ ∃ e, (c.declare id).run r = .ok (e, r') ∧
      .boolean (e.nativeName r') (e.size r' c.rules.pointerWidth) = d := by
  obtain ⟨node, hn, ht⟩ := h
  unfold lowerPlain
  simp only [Lowering.run_bind_ok, Lowering.run_ask_ok, node_ok]
  constructor
  · rintro ⟨_, _, ⟨hn', rfl⟩, h⟩
    cases hn.symm.trans hn'
    rw [if_pos ht] at h
    obtain ⟨e, _, he, h⟩ := Lowering.run_bind_ok.1 h
    obtain ⟨_, _, hget, h⟩ := Lowering.run_bind_ok.1 h
    obtain ⟨rfl, rfl⟩ := Lowering.run_get_ok.1 hget
    obtain ⟨hd, rfl⟩ := Lowering.run_pure_ok.1 h
    exact ⟨e, he, hd⟩
  · rintro ⟨e, he, rfl⟩
    refine ⟨node, r, ⟨hn, rfl⟩, ?_⟩
    rw [if_pos ht]
    exact Lowering.run_bind_ok.2 ⟨e, r', he, Lowering.run_bind_ok.2
      ⟨r', r', Lowering.run_get_ok.2 ⟨rfl, rfl⟩, Lowering.run_pure_ok.2 ⟨rfl, rfl⟩⟩⟩

theorem lowerPlain_of_not_truth (hc : c.Consistent r) (h : ¬ c.Truth id) :
    SameOutcome r (c.lowerPlain id) (c.declare id) := by
  intro d r'
  unfold lowerPlain
  simp only [Lowering.run_bind_ok, Lowering.run_ask_ok, node_ok]
  constructor
  · rintro ⟨node, _, ⟨hn, rfl⟩, hd⟩
    rwa [if_neg fun ht => h ⟨node, hn, ht⟩] at hd
  · intro hd
    obtain ⟨n, M, hM⟩ := lowers_of_lower hc hd
    obtain ⟨node, hn⟩ := hM.exists_node
    refine ⟨node, r, ⟨hn, rfl⟩, ?_⟩
    rwa [if_neg fun ht => h ⟨node, hn, ht⟩]

/-! ## Requests -/

variable (c r) in
/-- A truth type that lowers, and so has a descriptor of its own when it is taken for no truth type. -/
def HidesTruth (b : Identity) : Prop := c.Truth b ∧ ∃ d r', (c.declare b).run r = .ok (d, r')

section
variable (hq : c.document.types.get? q = some (.qualified b)) (hc : c.Consistent r)
include hq hc

theorem resolve_qualified {kind : PointerKind} (h : kind = .unset → ¬ c.HidesTruth r b) :
    SameOutcome r (c.resolve q kind) (c.resolve b kind) := by
  unfold LoweringContext.resolve
  split
  · rename_i hkind
    intro d r'
    rw [lowerPlain_of_not_truth hc (not_truth_qualified hq) d r', declare_qualified hq hc d r']
    by_cases ht : c.Truth b
    · -- a truth type that does not lower fails either way
      have hfails : ∀ e r', (c.declare b).run r ≠ .ok (e, r') := fun e r' he => h hkind ⟨ht, e, r', he⟩
      simp [lowerPlain_of_truth ht, hfails]
    · exact (lowerPlain_of_not_truth hc ht d r').symm
  · refine SameOutcome.ask_bind (strip_qualified hq) fun (_, node) _ => ?_
    dsimp only
    split
    · split
      · exact .refl _
      · exact .refl _
      · exact declare_qualified hq hc
      · exact lowerNested_place _ _ _
      · exact .refl _
    · exact declare_qualified hq hc

/-- Under a qualifier a truth type has the descriptor of its declaration; its own is that of a truth value. -/
theorem resolve_hidden_truth (h : c.HidesTruth r b) :
    ∃ d r', (c.resolve q .unset).run r = .ok (d, r') ∧ (∀ native size, d ≠ .boolean native size) ∧
      (c.resolve b .unset).run r =
        .ok (.boolean (d.nativeName r') (d.size r' c.rules.pointerWidth), r') := by
  obtain ⟨ht, d, r', hd⟩ := h
  obtain ⟨n, M, hM⟩ := lowers_of_lower hc hd
  refine ⟨d, r', ?_, ?_, (lowerPlain_of_truth ht).2 ⟨d, hd, rfl⟩⟩
  · exact (lowerPlain_of_not_truth hc (not_truth_qualified hq) d r').2 ((declare_qualified hq hc d r').2 hd)
  · rintro native size rfl
    rcases hM.isSingle with h | h
    · cases h
    · cases h

theorem resolve_qualified_iff (kind : PointerKind) :
    SameOutcome r (c.resolve q kind) (c.resolve b kind) ↔ ¬ (kind = .unset ∧ c.HidesTruth r b) := by
  constructor
  · rintro hsame ⟨rfl, hb⟩
    obtain ⟨d, r', hd, hne, htruth⟩ := resolve_hidden_truth hq hc hb
    have heq := htruth.symm.trans ((hsame d r').1 hd)
    exact hne _ _ (congrArg Prod.fst (Except.ok.inj heq)).symm
  · exact fun h => resolve_qualified hq hc fun hkind hb => h ⟨hkind, hb⟩

omit hq hc in
theorem resolveReturn_ok {returned : Option Descriptor} (hvoid : c.document.isVoid id = .ok false)
    (htext : c.document.isCString id = .ok false) :
    (c.resolveReturn id).run r = .ok (returned, r') ↔
      ∃ d, (c.resolve id .unset).run r = .ok (d, r') ∧ (if d.isVoid then none else some d) = returned := by
  unfold resolveReturn
  simp only [Lowering.run_bind_ok, Lowering.run_ask_ok, hvoid, htext]
  constructor
  · rintro ⟨_, _, ⟨⟨⟩, rfl⟩, h⟩
    obtain ⟨_, _, hask, h⟩ := Lowering.run_bind_ok.1 h
    obtain ⟨⟨⟩, rfl⟩ := Lowering.run_ask_ok.1 hask
    obtain ⟨d, _, hd, h⟩ := Lowering.run_bind_ok.1 h
    obtain ⟨hreturned, rfl⟩ := Lowering.run_pure_ok.1 h
    exact ⟨d, hd, hreturned⟩
  · rintro ⟨d, hd, rfl⟩
    exact ⟨_, r, ⟨rfl, rfl⟩, Lowering.run_bind_ok.2 ⟨_, r, Lowering.run_ask_ok.2 ⟨rfl, rfl⟩,
      Lowering.run_bind_ok.2 ⟨d, r', hd, Lowering.run_pure_ok.2 ⟨rfl, rfl⟩⟩⟩⟩

theorem resolveReturn_qualified
    (h : c.document.isVoid b = .ok false → c.document.isCString b = .ok false → ¬ c.HidesTruth r b) :
    SameOutcome r (c.resolveReturn q) (c.resolveReturn b) := by
  unfold resolveReturn
  refine SameOutcome.ask_bind (isVoid_qualified hq) fun void hvoid => ?_
  cases void with
  | true => exact .refl _
  | false =>
    refine SameOutcome.ask_bind (isCString_qualified hq) fun text htext => ?_
    cases text with
    | true => exact .refl _
    | false => exact (resolve_qualified hq hc fun _ => h hvoid htext).bind _

theorem resolveReturn_qualified_iff : SameOutcome r (c.resolveReturn q) (c.resolveReturn b) ↔
    ¬ (c.document.isVoid b = .ok false ∧ c.document.isCString b = .ok false ∧ c.HidesTruth r b) := by
  constructor
  · rintro hsame ⟨hvoid, htext, hb⟩
    obtain ⟨d, r', hd, hne, htruth⟩ := resolve_hidden_truth hq hc hb
    have hreturn := (hsame _ r').2 ((resolveReturn_ok hvoid htext).2 ⟨_, htruth, rfl⟩)
    obtain ⟨d', hd', heq⟩ :=
      (resolveReturn_ok ((isVoid_qualified hq _).2 hvoid) ((isCString_qualified hq _).2 htext)).1 hreturn
    cases hd.symm.trans hd'
    split at heq
    · cases heq
    · exact hne _ _ (Option.some.inj heq)
  · exact fun h => resolveReturn_qualified hq hc fun hvoid htext hb => h ⟨hvoid, htext, hb⟩

/-- A qualified type is lowered as its base is, except that a qualifier hides a truth type from a
request for no kind of pointer, and from the type of a result. -/
theorem qualifiers_transparent_iff :
    (∀ kind, SameOutcome r (c.resolve q kind) (c.resolve b kind) ↔
      ¬ (kind = .unset ∧ c.HidesTruth r b)) ∧
    (SameOutcome r (c.resolveReturn q) (c.resolveReturn b) ↔
      ¬ (c.document.isVoid b = .ok false ∧ c.document.isCString b = .ok false ∧ c.HidesTruth r b)) :=
  ⟨resolve_qualified_iff hq hc, resolveReturn_qualified_iff hq hc⟩

end

/-- A truth type `flag_t`, `const flag_t`, and `volatile const flag_t`. -/
def switches : LoweringContext where
  document := {
    files := [⟨"f", "switches.h"⟩]
    types := Dict.ofList [
      ("int", .fundamental "int" 4),
      ("flag", .typedef { name := "flag_t", file := "f", base := "int", root := some "int", size := 4 }),
      ("const", .qualified "flag"),
      ("volatile", .qualified "const")] }
  rules := { truthTypes := ["flag_t"] }

theorem switches_volatile_transparent :
    (∀ kind, SameOutcome {} (switches.resolve "volatile" kind) (switches.resolve "const" kind)) ∧
    SameOutcome {} (switches.resolveReturn "volatile") (switches.resolveReturn "const") := by
  have hq : switches.document.types.get? "volatile" = some (.qualified "const") := rfl
  have hshown : ¬ switches.HidesTruth {} "const" := fun h => not_truth_qualified rfl h.1
  obtain ⟨hresolve, hreturn⟩ := qualifiers_transparent_iff hq Consistent.empty
  exact ⟨fun kind => (hresolve kind).2 fun h => hshown h.2, hreturn.2 fun h => hshown h.2.2⟩

theorem switches_const_opaque :
    switches.document.types.get? "const" = some (.qualified "flag") ∧
    ¬ SameOutcome {} (switches.resolve "const" .unset) (switches.resolve "flag" .unset) ∧
    ¬ SameOutcome {} (switches.resolveReturn "const") (switches.resolveReturn "flag") := by
  refine ⟨rfl, fun h => ?_, fun h => ?_⟩
  · have heq : (switches.resolve "flag" .unset).run {} = .ok (.declared "flag", _) := (h _ _).1 rfl
    cases heq
  · have heq : (switches.resolveReturn "flag").run {} = .ok (some (.declared "flag"), _) := (h _ _).1 rfl
    cases heq

end LoweringContext

end Bindery
