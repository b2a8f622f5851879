import Bindery.Proofs.Lowering.Requests

/-!
# Types that lower alike

Qualifiers leave no trace in a descriptor, and neither does the identity of a fundamental type.
Types that differ in nothing else are alike: wherever one of them can stand as an argument or as
a result, the other has the same descriptor there.
-/

namespace Bindery

open Native (Identity Document TypeNode PointerKind)

open Native.Document (bind_ok)

/-! ## Documents -/

namespace Native.Document

variable (d : Document)

inductive Alike : Identity → Identity → Prop
  | same (id) : Alike id id
  | fundamental {a b name size} (ha : d.types.get? a = some (.fundamental name size))
      (hb : d.types.get? b = some (.fundamental name size)) : Alike a b
  | pointer {a b pa pb sa sb} (ha : d.types.get? a = some (.pointer pa sa))
      (hb : d.types.get? b = some (.pointer pb sb)) (h : Alike pa pb) : Alike a b
  | left {a b base} (ha : d.types.get? a = some (.qualified base)) (h : Alike base b) : Alike a b
  | right {a b base} (hb : d.types.get? b = some (.qualified base)) (h : Alike a base) : Alike a b

/-- Nodes behind alike types, once typedefs and qualifiers have been looked through. -/
inductive AlikeNodes : TypeNode → TypeNode → Prop
  | same (node) : AlikeNodes node node
  | pointer {pa pb sa sb} (h : d.Alike pa pb) : AlikeNodes (.pointer pa sa) (.pointer pb sb)

variable {d} {a b x : Identity} {n m : TypeNode}

theorem Alike.symm (h : d.Alike a b) : d.Alike b a := by
  induction h with
  | same id => exact .same id
  | fundamental ha hb => exact .fundamental hb ha
  | pointer ha hb _ ih => exact .pointer hb ha ih
  | left ha _ ih => exact .right ha ih
  | right hb _ ih => exact .left hb ih

theorem AlikeNodes.fundamental? (h : d.AlikeNodes n m) : n.fundamental? = m.fundamental? := by
  cases h <;> rfl

theorem AlikeNodes.of_pointer {p : Identity} {size : Nat} (h : d.AlikeNodes (.pointer p size) m) :
    ∃ q size', m = .pointer q size' ∧ d.Alike p q := by
  cases h with
  | same => exact ⟨p, size, rfl, .same p⟩
  | pointer h => exact ⟨_, _, rfl, h⟩

theorem AlikeNodes.eq_of_not_pointer (h : d.AlikeNodes n m) (hn : ∀ p size, n ≠ .pointer p size) : m = n := by
  cases h with
  | same => rfl
  | pointer => exact (hn _ _ rfl).elim

theorem Alike.follows {k : Nat} (h : d.Alike a b) (hf : d.Follows TypeNode.underlying? k a (x, n)) :
    ∃ j y m, d.Follows TypeNode.underlying? j b (y, m) ∧ d.AlikeNodes n m := by
  induction h generalizing k with
  | same => exact ⟨k, x, n, hf, .same n⟩
  | fundamental ha hb =>
    obtain ⟨-, he⟩ := hf.unique (.here ha rfl)
    cases he
    exact ⟨0, _, _, .here hb rfl, .same _⟩
  | pointer ha hb h =>
    obtain ⟨-, he⟩ := hf.unique (.here ha rfl)
    cases he
    exact ⟨0, _, _, .here hb rfl, .pointer h⟩
  | left ha _ ih =>
    cases hf with
    | here hn hnone =>
      rw [ha] at hn
      cases hn
      cases hnone
    | step hn hi hf =>
      rw [ha] at hn
      cases hn
      cases hi
      exact ih hf
  | right hb _ ih =>
    obtain ⟨j, y, m, hj, hm⟩ := ih hf
    exact ⟨j + 1, y, m, .step hb rfl hj, hm⟩

theorem Alike.strip (h : d.Alike a b) (hs : d.strip a = .ok (x, n)) :
    ∃ y m, d.strip b = .ok (y, m) ∧ d.AlikeNodes n m := by
  obtain ⟨k, hk⟩ := strip_ok.1 hs
  obtain ⟨j, y, m, hj, hm⟩ := h.follows hk
  exact ⟨y, m, strip_ok.2 ⟨j, hj⟩, hm⟩

theorem Alike.isVoid (h : d.Alike a b) {v : Bool} (hv : d.isVoid a = .ok v) : d.isVoid b = .ok v := by
  obtain ⟨⟨x, n⟩, hs, hv⟩ := bind_ok.1 hv
  obtain ⟨y, m, hs', hm⟩ := h.strip hs
  refine bind_ok.2 ⟨(y, m), hs', ?_⟩
  rw [← hv]
  show Except.ok (m.fundamental? == some Fundamental.void) = .ok (n.fundamental? == some Fundamental.void)
  rw [hm.fundamental?]

theorem Alike.isVoidPointer (h : d.Alike a b) {v : Bool} (hv : d.isVoidPointer a = .ok v) :
    d.isVoidPointer b = .ok v := by
  obtain ⟨⟨x, n⟩, hs, hv⟩ := bind_ok.1 hv
  obtain ⟨y, m, hs', hm⟩ := h.strip hs
  refine bind_ok.2 ⟨(y, m), hs', ?_⟩
  dsimp only at hv ⊢
  split at hv
  · obtain ⟨q, _, rfl, hq⟩ := hm.of_pointer
    exact hq.isVoid hv
  · rename_i hn
    rw [hm.eq_of_not_pointer hn]
    split
    · exact (hn _ _ rfl).elim
    · exact hv

theorem Alike.isCString (h : d.Alike a b) {v : Bool} (hv : d.isCString a = .ok v) :
    d.isCString b = .ok v := by
  obtain ⟨⟨x, n⟩, hs, hv⟩ := bind_ok.1 hv
  obtain ⟨y, m, hs', hm⟩ := h.strip hs
  refine bind_ok.2 ⟨(y, m), hs', ?_⟩
  dsimp only at hv ⊢
  split at hv
  · obtain ⟨q, _, rfl, hq⟩ := hm.of_pointer
    obtain ⟨⟨t, target⟩, ht, hv⟩ := bind_ok.1 hv
    obtain ⟨t', target', ht', htarget⟩ := hq.strip ht
    refine bind_ok.2 ⟨(t', target'), ht', ?_⟩
    rw [← hv]
    show Except.ok (target'.fundamental? == some Fundamental.char) =
      .ok (target.fundamental? == some Fundamental.char)
    rw [htarget.fundamental?]
  · rename_i hn
    rw [hm.eq_of_not_pointer hn]
    split
    · exact (hn _ _ rfl).elim
    · exact hv

end Native.Document

/-! ## Descriptors -/

namespace LoweringContext

variable {α β : Type} {c : LoweringContext} {r r' : Registry} {a b : Identity}

theorem lowerFundamental_congr {name : String} {size : Nat} {d : Descriptor}
    (h : lowerFundamental a name size = .ok d) (b : Identity) : lowerFundamental b name size = .ok d := by
  unfold lowerFundamental at h ⊢
  split at h
  · cases h
  · exact h
  · exact h
  · split at h
    · exact h
    · cases h

theorem Lowers.alike (h : c.document.Alike a b) {d : Descriptor} {n : Nat} {M : Set Mark}
    (hl : c.Lowers a true d n M) : c.Lowers b true d n M := by
  have unnamed {id : Identity} {node : TypeNode} (hn : c.document.types.get? id = some node)
      (hname : node.name? = none) : c.Plain id node := ⟨hn, by simp [override?, hname]⟩
  induction h generalizing d n M with
  | same => exact hl
  | @fundamental a b name size ha hb =>
    cases ho : c.override? (.fundamental name size) with
    | some e =>
      obtain ⟨rfl, rfl, rfl⟩ := hl.unique (.overridden ha ho)
      exact .overridden hb ho
    | none =>
      have hp : c.Plain a (.fundamental name size) := ⟨ha, ho⟩
      cases hl with
      | overridden hn ho' => exact (hp.not_override hn ho').elim
      | fundamental h hd =>
        cases hp.unique h
        exact .fundamental ⟨hb, ho⟩ (lowerFundamental_congr hd b)
      | _ => cases hp.unique ‹_›
  | pointer ha hb _ ih =>
    have hp := unnamed ha rfl
    cases hl with
    | overridden hn ho => exact (hp.not_override hn ho).elim
    | pointer h hl =>
      cases hp.unique h
      exact .pointer (unnamed hb rfl) (ih hl)
    | _ => cases hp.unique ‹_›
  | left ha _ ih =>
    have hp := unnamed ha rfl
    cases hl with
    | overridden hn ho => exact (hp.not_override hn ho).elim
    | qualified h hl =>
      cases hp.unique h
      exact ih hl
    | _ => cases hp.unique ‹_›
  | right hb _ ih => exact .qualified (unnamed hb rfl) (ih hl)

/-! ## Requests for alike types -/

variable (c) in
/-- Whether two types are truth types both or neither. This is asked of their own nodes, which a
qualifier hides. -/
def SameTruth (a b : Identity) : Prop := ∀ n m, c.document.types.get? a = some n →
  c.document.types.get? b = some m → c.isTruthType n = c.isTruthType m

section
variable (h : c.document.Alike a b) {d : Descriptor}
include h

theorem Gives.declare (hd : c.Gives (c.declare a) d) : c.Gives (c.declare b) d := by
  obtain ⟨n, M, hM⟩ := gives_declare.1 hd
  exact gives_declare.2 ⟨n, M, hM.alike h⟩

theorem Gives.value {place : String} (hd : c.Gives (c.value a place) d) (place' : String) :
    c.Gives (c.value b place') d := by
  obtain ⟨x, hx, hv⟩ := (gives_bind (Transparent.declare a) fun _ => Transparent.lift _).1 hd
  refine (gives_bind (Transparent.declare b) fun _ => Transparent.lift _).2 ⟨x, Gives.declare h hx, ?_⟩
  rw [gives_lift, requireValue_ok] at hv ⊢
  exact hv

theorem Gives.lowerTarget {kind : PointerKind} (hd : c.Gives (c.lowerTarget a kind) d) :
    c.Gives (c.lowerTarget b kind) d := by
  refine Gives.bind_mono hd (Transparent.declare a) (fun target => ?_) fun x => Gives.declare h
  split
  · exact Transparent.pure _
  · split <;> exact Transparent.pure _

theorem Gives.lowerNested {id id' : Identity} (hd : c.Gives (c.lowerNested id a) d) :
    c.Gives (c.lowerNested id' b) d := by
  obtain ⟨⟨x, n⟩, hs, hd⟩ := gives_ask_bind.1 hd
  obtain ⟨y, m, hs', hm⟩ := h.strip hs
  refine gives_ask_bind.2 ⟨(y, m), hs', ?_⟩
  dsimp only at hd ⊢
  split at hd
  · obtain ⟨q, _, rfl, hq⟩ := hm.of_pointer
    exact Gives.bind_mono hd (Transparent.value _ _) (fun _ => Transparent.pure _) fun _ hv =>
      Gives.value hq hv _
  · rename_i hn
    rw [hm.eq_of_not_pointer hn]
    split
    · exact (hn _ _ rfl).elim
    · exact Gives.bind_mono hd (Transparent.value _ _) (fun _ => Transparent.pure _) fun _ hv =>
        Gives.value h hv _

theorem Gives.lowerPlain (htruth : c.SameTruth a b) (hd : c.Gives (c.lowerPlain a) d) :
    c.Gives (c.lowerPlain b) d := by
  obtain ⟨n, hn, hd⟩ := gives_ask_bind.1 hd
  rw [Native.Document.node_ok] at hn
  have hnode : ∀ {e : Descriptor} {k : Nat} {M : Set Mark}, c.Lowers b true e k M →
      ∃ m, c.document.types.get? b = some m ∧ c.isTruthType n = c.isTruthType m := by
    intro e k M hl
    obtain ⟨m, hm⟩ := hl.exists_node
    exact ⟨m, hm, htruth n m hn hm⟩
  cases ht : c.isTruthType n with
  | true =>
    rw [ht, if_pos rfl] at hd
    obtain ⟨r, hr, -⟩ := hd.run Consistent.empty
    obtain ⟨e, r₁, he, -⟩ := Lowering.run_bind_ok.1 hr
    obtain ⟨k, M, hM⟩ := lowers_of_lower Consistent.empty he
    have hg := (hM.answers.of_run Consistent.empty he).2
    obtain ⟨rfl, -⟩ := (hM.answers_boolean hg.consistent hg.subset).of_run Consistent.empty hr
    obtain ⟨m, hm, hsame⟩ := hnode (hM.alike h)
    refine gives_ask_bind.2 ⟨m, Native.Document.node_ok.2 hm, ?_⟩
    rw [← hsame, ht, if_pos rfl]
    exact ⟨M, (hM.alike h).answers_boolean hg.consistent hg.subset⟩
  | false =>
    rw [ht, if_neg nofun] at hd
    obtain ⟨k, M, hM⟩ := gives_declare.1 hd
    obtain ⟨m, hm, hsame⟩ := hnode (hM.alike h)
    refine gives_ask_bind.2 ⟨m, Native.Document.node_ok.2 hm, ?_⟩
    rw [← hsame, ht, if_neg nofun]
    exact Gives.declare h hd

theorem Gives.resolve {kind : PointerKind} (htruth : c.SameTruth a b) (hd : c.Gives (c.resolve a kind) d) :
    c.Gives (c.resolve b kind) d := by
  unfold LoweringContext.resolve at hd ⊢
  split at hd
  · rename_i hk
    rw [if_pos hk]
    exact Gives.lowerPlain h htruth hd
  · rename_i hk
    rw [if_neg hk]
    obtain ⟨⟨x, n⟩, hs, hd⟩ := gives_ask_bind.1 hd
    obtain ⟨y, m, hs', hm⟩ := h.strip hs
    refine gives_ask_bind.2 ⟨(y, m), hs', ?_⟩
    dsimp only at hd ⊢
    split at hd
    · obtain ⟨q, _, rfl, hq⟩ := hm.of_pointer
      dsimp only
      split at hd
      · exact hd
      · exact hd
      · exact Gives.declare h hd
      · exact Gives.lowerNested hq hd
      · exact Gives.lowerTarget hq hd
    · rename_i hn
      rw [hm.eq_of_not_pointer hn]
      split
      · exact (hn _ _ rfl).elim
      · exact Gives.declare h hd

theorem Gives.resolveReturn {result : Option Descriptor} (htruth : c.SameTruth a b)
    (hd : c.Gives (c.resolveReturn a) result) : c.Gives (c.resolveReturn b) result := by
  obtain ⟨void, hv, hd⟩ := gives_ask_bind.1 hd
  refine gives_ask_bind.2 ⟨void, h.isVoid hv, ?_⟩
  split at hd
  · rename_i hvoid
    rw [if_pos hvoid]
    exact hd
  · rename_i hvoid
    rw [if_neg hvoid]
    obtain ⟨text, ht, hd⟩ := gives_ask_bind.1 hd
    refine gives_ask_bind.2 ⟨text, h.isCString ht, ?_⟩
    split at hd
    · rename_i htext
      rw [if_pos htext]
      exact hd
    · rename_i htext
      rw [if_neg htext]
      exact Gives.bind_mono hd (Transparent.resolve _ _) (fun _ => Transparent.pure _) fun _ =>
        Gives.resolve h htruth

end

end LoweringContext

end Bindery
