import Bindery.Managed.Conversion
import Bindery.Proofs.Lowering.Requests

/-!
# Results

What the type of a result lowers to. There is no result for `void`, for which the document is asked,
nor for a type that lowers to nothing although the document does not know it as `void`.
-/

namespace Bindery

open Native (Identity Document Fundamental TypeNode)
open Native.Document (bind_ok node_ok Follows)

/-! ## Types behind typedefs and qualifiers -/

namespace Native.Document

variable {d : Document} {id inner : Identity} {node : TypeNode} {out : Identity × TypeNode}

theorem strip_here (hn : d.types.get? id = some node) (h : node.underlying? = none) :
    d.strip id = .ok (id, node) := strip_ok.2 ⟨0, .here hn h⟩

theorem strip_step (hn : d.types.get? id = some node) (h : node.underlying? = some inner) :
    d.strip id = .ok out ↔ d.strip inner = .ok out := by
  rw [strip_ok, strip_ok]
  constructor
  · rintro ⟨k, hf⟩
    cases hf with
    | here hn' h' =>
      cases hn.symm.trans hn'
      cases h.symm.trans h'
    | step hn' h' hf =>
      cases hn.symm.trans hn'
      cases h.symm.trans h'
      exact ⟨_, hf⟩
  · rintro ⟨k, hf⟩
    exact ⟨k + 1, .step hn h hf⟩

theorem isVoid_ok : d.isVoid id = .ok true ↔ ∃ x n, d.strip id = .ok (x, n) ∧ n.fundamental? = some .void := by
  unfold isVoid
  simp only [bind_ok]
  constructor
  · rintro ⟨⟨x, n⟩, hs, h⟩
    exact ⟨x, n, hs, by simpa [pure, Except.pure] using h⟩
  · rintro ⟨x, n, hs, h⟩
    exact ⟨(x, n), hs, by simp [h, pure, Except.pure]⟩

theorem isVoid_step (hn : d.types.get? id = some node) (h : node.underlying? = some inner) :
    d.isVoid id = .ok true ↔ d.isVoid inner = .ok true := by
  simp only [isVoid_ok, strip_step hn h]

end Native.Document

/-- Whether a single statement converts a native value of the type. -/
def Descriptor.isSingle : Descriptor → Bool
  | .number .. => true
  | .array .. => true
  | .pointer _ => true
  | .opaqueFunction => true
  | .declared _ => true
  | _ => false

theorem Descriptor.toManaged_of_isSingle {d : Descriptor} (h : d.isSingle = true) (r : Registry)
    (b : Binding) (g c : String) :
    d.toManaged r b g c = [b.assign g ((d.strategy r).convert (d.managedName r) c)] := by
  cases d <;> first | rfl | cases h

namespace LoweringContext

variable {c : LoweringContext} {r r' : Registry} {id : Identity}

/-! ## Types that are lowered for themselves -/

theorem Lowers.isSingle {id : Identity} {s : Bool} {d : Descriptor} {n : Nat} {M : Set Mark}
    (h : c.Lowers id s d n M) : d.isVoid = true ∨ d.isSingle = true := by
  induction h with
  | overridden hn ho =>
    obtain ⟨_, _, _, rfl⟩ := override?_plain ho
    exact .inr rfl
  | fundamental h hd =>
    rcases lowerFundamental_plain hd with rfl | ⟨_, _, _, rfl⟩
    · exact .inl rfl
    · exact .inr rfl
  | voidTypedef | unimplemented => exact .inl rfl
  | qualified _ _ ih => exact ih
  | _ => exact .inr rfl

/-! ## Types that lower to nothing -/

variable (c) in
inductive Collapses : Identity → Prop
  | unimplemented {id name} (h : c.Plain id (.unimplemented name)) : Collapses id
  | typedef {id t} (h : c.Plain id (.typedef t)) (hb : Collapses t.base) : Collapses id
  | qualified {id base} (h : c.Plain id (.qualified base)) (hb : Collapses base) : Collapses id

theorem Collapses.strip (h : c.Collapses id) : ∃ x name, c.document.strip id = .ok (x, .unimplemented name) := by
  induction h with
  | @unimplemented id name h => exact ⟨id, name, Native.Document.strip_here h.1 rfl⟩
  | typedef h _ ih =>
    obtain ⟨x, name, hs⟩ := ih
    exact ⟨x, name, (Native.Document.strip_step h.1 rfl).2 hs⟩
  | qualified h _ ih =>
    obtain ⟨x, name, hs⟩ := ih
    exact ⟨x, name, (Native.Document.strip_step h.1 rfl).2 hs⟩

theorem Collapses.isCString (h : c.Collapses id) : c.document.isCString id = .ok false := by
  obtain ⟨x, name, hs⟩ := h.strip
  exact bind_ok.2 ⟨_, hs, rfl⟩

theorem ofName?_of_lowerFundamental {name : String} {n : Nat} {d : Descriptor}
    (h : lowerFundamental id name n = .ok d) (hv : d.isVoid = true) : Fundamental.ofName? name = some .void := by
  unfold lowerFundamental at h
  split at h
  · cases h
  · assumption
  · cases h
    cases hv
  · split at h
    · cases h
      cases hv
    · cases h

variable (c) in
/-- A type without values: `void`, a type that the document does not describe, or a typedef or
qualified type of one, none of which an override replaces. -/
inductive Vanishes : Identity → Prop
  | void {id name size} (h : c.Plain id (.fundamental name size))
      (hv : Fundamental.ofName? name = some .void) : Vanishes id
  | unimplemented {id name} (h : c.Plain id (.unimplemented name)) : Vanishes id
  | typedef {id t} (h : c.Plain id (.typedef t)) (hb : Vanishes t.base) : Vanishes id
  | qualified {id base} (h : c.Plain id (.qualified base)) (hb : Vanishes base) : Vanishes id

theorem Collapses.vanishes (h : c.Collapses id) : c.Vanishes id := by
  induction h with
  | unimplemented h => exact .unimplemented h
  | typedef h _ ih => exact .typedef h ih
  | qualified h _ ih => exact .qualified h ih

/-- A type that vanishes is `void` for the document, or collapses. -/
theorem Vanishes.isVoid_or_collapses (h : c.Vanishes id) : c.document.isVoid id = .ok true ∨ c.Collapses id := by
  induction h with
  | @void id name size h hv =>
    exact .inl (Native.Document.isVoid_ok.2 ⟨id, _, Native.Document.strip_here h.1 rfl, hv⟩)
  | unimplemented h => exact .inr (.unimplemented h)
  | typedef h _ ih => exact ih.imp (Native.Document.isVoid_step h.1 rfl).2 (.typedef h)
  | qualified h _ ih => exact ih.imp (Native.Document.isVoid_step h.1 rfl).2 (.qualified h)

theorem Vanishes.lowers (h : c.Vanishes id) {s : Bool} {d : Descriptor} {n : Nat} {M : Set Mark}
    (hl : c.Lowers id s d n M) : d.isVoid = true := by
  induction h generalizing s d n M with
  | void h hv =>
    cases hl with
    | overridden hn ho => exact (h.not_override hn ho).elim
    | fundamental h' hd =>
      cases h.unique h'
      simp only [lowerFundamental, hv] at hd
      cases hd
      rfl
    | _ => cases h.unique ‹_›
  | unimplemented h =>
    cases hl with
    | overridden hn ho => exact (h.not_override hn ho).elim
    | unimplemented => rfl
    | _ => cases h.unique ‹_›
  | typedef h _ ih =>
    cases hl with
    | overridden hn ho => exact (h.not_override hn ho).elim
    | voidTypedef => rfl
    | typedef h' _ hb hv =>
      cases h.unique h'
      rw [ih hb] at hv
      cases hv
    | _ => cases h.unique ‹_›
  | qualified h _ ih =>
    cases hl with
    | overridden hn ho => exact (h.not_override hn ho).elim
    | qualified h' hb =>
      cases h.unique h'
      exact ih hb
    | _ => cases h.unique ‹_›

theorem Lowers.vanishes {s : Bool} {d : Descriptor} {n : Nat} {M : Set Mark} (h : c.Lowers id s d n M)
    (hv : d.isVoid = true) : c.Vanishes id := by
  induction h with
  | overridden _ ho =>
    obtain ⟨_, _, _, rfl⟩ := override?_plain ho
    cases hv
  | fundamental h hd => exact .void h (ofName?_of_lowerFundamental hd hv)
  | unimplemented h => exact .unimplemented h
  | voidTypedef h _ _ hbase ih => exact .typedef h (ih hbase)
  | qualified h _ ih => exact .qualified h (ih hv)
  | _ => cases hv

/-! ## Types of results -/

variable (c) in
/-- Whether the values of a type are truth values. The node of the type itself is asked. -/
def Truth (id : Identity) : Prop :=
  ∃ node, c.document.types.get? id = some node ∧ c.isTruthType node = true

variable (c) in
inductive Returns (id : Identity) : Option Descriptor → Prop
  | void (h : c.document.isVoid id = .ok true) : Returns id none
  | text (h : c.document.isCString id = .ok true) (hv : c.document.isVoid id = .ok false) :
      Returns id (some .string)
  | truth {native size} (h : c.Truth id) (hs : c.document.isCString id = .ok false)
      (hv : c.document.isVoid id = .ok false) : Returns id (some (.boolean native size))
  | value {d n M} (h : c.Lowers id true d n M) (ht : ¬ c.Truth id) (hs : c.document.isCString id = .ok false)
      (hv : c.document.isVoid id = .ok false) (hd : d.isVoid = false) : Returns id (some d)
  | nothing {d n M} (h : c.Lowers id true d n M) (ht : ¬ c.Truth id) (hs : c.document.isCString id = .ok false)
      (hv : c.document.isVoid id = .ok false) (hd : d.isVoid = true) : Returns id none

theorem returns_of_resolveReturn {returned : Option Descriptor} (hc : c.Consistent r)
    (h : (c.resolveReturn id).run r = .ok (returned, r')) : c.Returns id returned := by
  obtain ⟨void, _, hask, h⟩ := Lowering.run_bind_ok.1 h
  obtain ⟨hvoid, rfl⟩ := Lowering.run_ask_ok.1 hask
  cases void with
  | true =>
    obtain ⟨rfl, -⟩ := Lowering.run_pure_ok.1 h
    exact .void hvoid
  | false =>
    obtain ⟨text, _, hask, h⟩ := Lowering.run_bind_ok.1 h
    obtain ⟨htext, rfl⟩ := Lowering.run_ask_ok.1 hask
    cases text with
    | true =>
      obtain ⟨rfl, -⟩ := Lowering.run_pure_ok.1 h
      exact .text htext hvoid
    | false =>
      obtain ⟨d, r₁, hplain, h⟩ := Lowering.run_bind_ok.1 h
      obtain ⟨rfl, -⟩ := Lowering.run_pure_ok.1 h
      obtain ⟨node, _, hask, hplain⟩ := Lowering.run_bind_ok.1 hplain
      obtain ⟨hnode, rfl⟩ := Lowering.run_ask_ok.1 hask
      rw [node_ok] at hnode
      split at hplain
      · rename_i ht
        obtain ⟨_, _, -, hplain⟩ := Lowering.run_bind_ok.1 hplain
        obtain ⟨_, _, -, hplain⟩ := Lowering.run_bind_ok.1 hplain
        obtain ⟨rfl, -⟩ := Lowering.run_pure_ok.1 hplain
        exact .truth ⟨node, hnode, ht⟩ htext hvoid
      · rename_i ht
        have hfalse : ¬ c.Truth id := fun ⟨_, hn, htrue⟩ => by
          cases hnode.symm.trans hn
          exact ht htrue
        obtain ⟨n, M, hM⟩ := lowers_of_lower hc hplain
        cases hd : d.isVoid with
        | true => exact .nothing hM hfalse htext hvoid hd
        | false => exact .value hM hfalse htext hvoid hd

/-- There is no result for `void` and for a type that collapses, unless that is a truth type. -/
theorem Returns.none_iff {returned : Option Descriptor} (h : c.Returns id returned) :
    returned = none ↔ c.document.isVoid id = .ok true ∨ c.Collapses id ∧ ¬ c.Truth id := by
  cases h with
  | void h => exact iff_of_true rfl (.inl h)
  | text h hv =>
    refine iff_of_false nofun ?_
    rintro (hvoid | ⟨hcollapses, -⟩)
    · cases hv.symm.trans hvoid
    · cases h.symm.trans hcollapses.isCString
  | truth h _ hv =>
    refine iff_of_false nofun ?_
    rintro (hvoid | ⟨-, hfalse⟩)
    · cases hv.symm.trans hvoid
    · exact hfalse h
  | value h _ _ hv hd =>
    refine iff_of_false nofun ?_
    rintro (hvoid | ⟨hcollapses, -⟩)
    · cases hv.symm.trans hvoid
    · cases hd.symm.trans (hcollapses.vanishes.lowers h)
  | nothing h ht _ hv hd =>
    refine iff_of_true rfl (.inr ⟨(h.vanishes hd).isVoid_or_collapses.resolve_left fun hvoid => ?_, ht⟩)
    cases hv.symm.trans hvoid

end LoweringContext

end Bindery
