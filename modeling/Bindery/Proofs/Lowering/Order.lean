import Bindery.Proofs.Lowering.Members
import Mathlib.Tactic.Choose

/-!
# Order of requests

From the empty registry, requests lead to a registry that is known from the marks they
leave. These do not depend on the order, and so neither do the answers, the registry, or
what becomes of it when it is populated. A request that is repeated later has the answer
that it had, and changes nothing.
-/

namespace Bindery

open Native (Identity PointerKind)

namespace LoweringContext

/-! ## Registries with the same marks -/

section
variable {c : LoweringContext} {r r' : Registry} {M : Set Mark}

/-- What a registry has grown to is known from the marks that it has grown by. -/
theorem Grows.unique {r'' : Registry} (h : c.Grows r M r') (h' : c.Grows r M r'') : r' = r'' := by
  have hm : r'.marks = r''.marks := h.marks.trans h'.marks.symm
  apply Dict.ext_get?
  intro id
  cases hd : r'.get? id with
  | none =>
    rw [Registry.get?_eq_none_iff_marks, hm, ← Registry.get?_eq_none_iff_marks] at hd
    exact hd.symm
  | some d =>
    have hmem := Registry.mem_marks_of_get? hd
    rw [hm] at hmem
    obtain ⟨d', hd'⟩ := Registry.exists_of_mem_marks hmem
    have hs : d.standalone = d'.standalone := by
      rw [Bool.eq_iff_iff, Registry.standalone_iff_marks hd, Registry.standalone_iff_marks hd', hm]
    rw [hd']
    cases he : r.get? id with
    | none =>
      obtain ⟨N, hN, -⟩ := h.consistent id d hd
      obtain ⟨N', hN', -⟩ := h'.consistent id d' hd'
      exact congrArg some
        (Declaration.eq_of_fresh (hN.unique hN').1 (h.fresh he hd) (h'.fresh he hd') hs)
    | some e =>
      -- a declaration that was there before is the same but for its mark
      obtain ⟨b, hb⟩ := h.kept he
      obtain ⟨b', hb'⟩ := h'.kept he
      obtain rfl := Option.some.inj (hd.symm.trans hb)
      obtain rfl := Option.some.inj (hd'.symm.trans hb')
      obtain rfl : b = b' := hs
      rfl

theorem Grows.eq_self (h : c.Grows r M r') (hM : M ⊆ r.marks) : r' = r := by
  have hm : r'.marks = r.marks := by rw [h.marks, Set.union_eq_left.2 hM]
  apply Dict.ext_get?
  intro id
  cases hd : r.get? id with
  | none =>
    rw [Registry.get?_eq_none_iff_marks, ← hm, ← Registry.get?_eq_none_iff_marks] at hd
    exact hd
  | some d =>
    obtain ⟨b, hb⟩ := h.kept hd
    rw [hb]
    have hs : b = d.standalone := by
      rw [Bool.eq_iff_iff, Registry.standalone_iff_marks hd, ← hm]
      exact Registry.standalone_iff_marks hb
    rw [hs]

end

/-! ## Lists of requests -/

variable (c : LoweringContext)

def lowerRequests (requests : List (Identity × PointerKind)) : Lowering (List Descriptor) := do
  let ds ← requests.mapM fun q => c.resolve q.1 q.2
  let _ ← c.populate
  pure ds

section
variable {c} {r r' : Registry}

theorem Answers.mapM {α β : Type} {f : α → Lowering β} {answer : α → β} {marks : α → Set Mark}
    (l : List α) (h : ∀ a ∈ l, c.Answers (f a) (answer a) (marks a)) :
    c.Answers (l.mapM f) (l.map answer) {m | ∃ a ∈ l, m ∈ marks a} := by
  induction l with
  | nil =>
    rw [List.mapM_nil]
    simpa using Answers.pure (c := c) ([] : List β)
  | cons a l ih =>
    rw [List.mapM_cons]
    have hl := ih fun b hb => h b (List.mem_cons_of_mem _ hb)
    have hmarks : {m | ∃ b ∈ a :: l, m ∈ marks b} =
        marks a ∪ ({m | ∃ b ∈ l, m ∈ marks b} ∪ ∅) := by
      ext m
      simp
    rw [hmarks]
    exact (h a List.mem_cons_self).bind (f := fun b => l.mapM f >>= fun bs => Pure.pure (b :: bs))
      (hl.bind (f := fun bs => Pure.pure (answer a :: bs)) (Answers.pure (answer a :: l.map answer)))

theorem Transparent.mapM {α β : Type} {f : α → Lowering β} (hf : ∀ a, c.Transparent (f a))
    {l : List α} {bs : List β} (hc : c.Consistent r) (h : (l.mapM f).run r = .ok (bs, r')) :
    ∀ a ∈ l, ∃ b N, c.Answers (f a) b N := by
  induction l generalizing r r' bs with
  | nil => simp
  | cons a l ih =>
    rw [List.mapM_cons] at h
    obtain ⟨b, r₁, hb, h⟩ := Lowering.run_bind_ok.1 h
    obtain ⟨bs', r₂, hbs, -⟩ := Lowering.run_bind_ok.1 h
    obtain ⟨N, hN⟩ := hf a r b r₁ hc hb
    have hrest := ih (hN.of_run hc hb).2.consistent hbs
    intro x hx
    rcases List.mem_cons.1 hx with rfl | hx
    · exact ⟨b, N, hN⟩
    · exact hrest x hx

/-- Requests that succeed have answers, and in every order they lead to the same registry. -/
theorem requests_answered {qs : List (Identity × PointerKind)} {ds : List Descriptor}
    (h : (qs.mapM fun q => c.resolve q.1 q.2).run {} = .ok (ds, r)) :
    ∃ answer : Identity × PointerKind → Descriptor, ∀ qs', qs.Perm qs' →
      (qs'.mapM fun q => c.resolve q.1 q.2).run {} = .ok (qs'.map answer, r) := by
  have each := Transparent.mapM
    (f := fun q : Identity × PointerKind => c.resolve q.1 q.2)
    (fun q => Transparent.resolve q.1 q.2) Consistent.empty h
  choose! answer marks hans using each
  refine ⟨answer, fun qs' hp => ?_⟩
  -- the marks of all requests together do not depend on their order
  have hgrown : ∀ qs', qs.Perm qs' → ∃ r', (qs'.mapM fun q => c.resolve q.1 q.2).run {} =
      .ok (qs'.map answer, r') ∧ c.Grows {} {m | ∃ q ∈ qs, m ∈ marks q} r' := by
    intro qs' hp
    have hall := Answers.mapM qs' fun q hq => hans q (hp.mem_iff.2 hq)
    simp only [← hp.mem_iff] at hall
    exact hall {} Consistent.empty
  obtain ⟨r₁, h₁, hg₁⟩ := hgrown qs (.refl qs)
  obtain ⟨r₂, h₂, hg₂⟩ := hgrown qs' hp
  rw [h] at h₁
  cases h₁
  rw [h₂, hg₂.unique hg₁]

theorem lowerRequests_perm {qs qs' : List (Identity × PointerKind)} (hp : qs.Perm qs')
    {ds : List Descriptor} (h : (c.lowerRequests qs).run {} = .ok (ds, r)) :
    ∃ answer, ds = qs.map answer ∧ (c.lowerRequests qs').run {} = .ok (qs'.map answer, r) := by
  obtain ⟨ds', r₁, hq, hrest⟩ := Lowering.run_bind_ok.1 h
  obtain ⟨n, r₂, hpop, hpure⟩ := Lowering.run_bind_ok.1 hrest
  obtain ⟨rfl, rfl⟩ := Lowering.run_pure_ok.1 hpure
  obtain ⟨answer, hans⟩ := requests_answered hq
  have hself := hans qs (.refl qs)
  rw [hq] at hself
  cases hself
  exact ⟨answer, rfl, Lowering.run_bind_ok.2 ⟨_, r₁, hans qs' hp, Lowering.run_bind_ok.2
    ⟨n, r₂, hpop, Lowering.run_pure_ok.2 ⟨rfl, rfl⟩⟩⟩⟩

end

/-! ## Repetition -/

inductive Leads : Registry → Registry → Prop
  | refl {r} : Leads r r
  | request {r r₁ r₂ id kind d} (h : Leads r r₁)
      (hr : (c.resolve id kind).run r₁ = .ok (d, r₂)) : Leads r r₂
  | populate {r r₁ r₂ n} (h : Leads r r₁) (hr : (c.populate).run r₁ = .ok (n, r₂)) : Leads r r₂

section
variable {c} {r r' : Registry}

theorem Leads.tidy (h : c.Leads r r') (ht : c.Tidy r) : c.Tidy r' ∧ r.marks ⊆ r'.marks := by
  induction h with
  | refl => exact ⟨ht, subset_rfl⟩
  | request _ hr ih =>
    obtain ⟨ht₁, hmono⟩ := ih
    obtain ⟨N, hN⟩ := Transparent.resolve _ _ _ _ _ ht₁.consistent hr
    have hg := (hN.of_run ht₁.consistent hr).2
    exact ⟨ht₁.grows hg, hmono.trans hg.mono⟩
  | populate _ hr ih =>
    obtain ⟨ht₁, hmono⟩ := ih
    obtain ⟨ht₂, hmono'⟩ := ht₁.populate hr
    exact ⟨ht₂, hmono.trans hmono'⟩

theorem resolve_again {id : Identity} {kind : PointerKind} {d : Descriptor} {r₁ r₂ : Registry}
    (hr : c.Leads {} r) (h : (c.resolve id kind).run r = .ok (d, r₁)) (hl : c.Leads r₁ r₂) :
    (c.resolve id kind).run r₂ = .ok (d, r₂) := by
  have ht := (hr.tidy Tidy.empty).1
  obtain ⟨N, hN⟩ := Transparent.resolve _ _ _ _ _ ht.consistent h
  have hg := (hN.of_run ht.consistent h).2
  obtain ⟨ht₂, hmono⟩ := hl.tidy (ht.grows hg)
  -- the marks of the request are there already, so that the second run adds nothing
  obtain ⟨r₃, h₃, hg₃⟩ := hN r₂ ht₂.consistent
  rw [h₃, hg₃.eq_self (hg.subset.trans hmono)]

end

/-- Permuted requests succeed together, with the same answers and the same registry. A
request that has succeeded goes on to have its answer, and changes nothing any more. -/
theorem lowering_order_independent :
    (∀ qs qs' : List (Identity × PointerKind), qs.Perm qs' →
      ((∃ ds r, (c.lowerRequests qs).run {} = .ok (ds, r)) ↔
        ∃ ds r, (c.lowerRequests qs').run {} = .ok (ds, r)) ∧
      ∀ ds r ds' r', (c.lowerRequests qs).run {} = .ok (ds, r) →
        (c.lowerRequests qs').run {} = .ok (ds', r') →
        r = r' ∧ ∃ answer, ds = qs.map answer ∧ ds' = qs'.map answer) ∧
    ∀ r r₁ r₂ id kind d, c.Leads {} r → (c.resolve id kind).run r = .ok (d, r₁) →
      c.Leads r₁ r₂ → (c.resolve id kind).run r₂ = .ok (d, r₂) := by
  refine ⟨fun qs qs' hp => ⟨⟨?_, ?_⟩, ?_⟩, fun r r₁ r₂ id kind d => resolve_again⟩
  · intro h
    obtain ⟨ds, r, h⟩ := h
    obtain ⟨answer, h'⟩ := lowerRequests_perm hp h
    exact ⟨_, _, h'.2⟩
  · intro h
    obtain ⟨ds, r, h⟩ := h
    obtain ⟨answer, h'⟩ := lowerRequests_perm hp.symm h
    exact ⟨_, _, h'.2⟩
  · intro ds r ds' r' h h'
    obtain ⟨answer, hds, hrun⟩ := lowerRequests_perm hp h
    rw [h'] at hrun
    cases hrun
    exact ⟨rfl, answer, hds, rfl⟩

/-- A struct that refers to itself through a pointer to a typedef of it. -/
def linkedList : LoweringContext where
  document := { types := Dict.ofList [
    ("list", .typedef { name := "list_t", file := "f", base := "node", root := some "node", size := 8 }),
    ("next", .pointer "list" 8),
    ("node", .struct { name := "node", file := "f", size := 8, fields := [⟨"next", "next"⟩] })] }
  rules := {}

theorem linkedList_in_both_orders :
    ∃ ds ds' r r',
      (linkedList.lowerRequests [("next", .plain), ("list", .unset)]).run {} = .ok (ds, r) ∧
      (linkedList.lowerRequests [("list", .unset), ("next", .plain)]).run {} = .ok (ds', r') ∧
      r = r' ∧
      (∃ answer : Identity × PointerKind → Descriptor,
        ds = [("next", .plain), ("list", .unset)].map answer ∧
        ds' = [("list", .unset), ("next", .plain)].map answer) ∧
      ∃ d r₁, (linkedList.resolve "next" .plain).run {} = .ok (d, r₁) ∧
        (linkedList.resolve "next" .plain).run r₁ = .ok (d, r₁) := by
  obtain ⟨orders, again⟩ := lowering_order_independent linkedList
  have both := (orders _ _ (.swap ("list", .unset) ("next", .plain) [])).2 _ _ _ _ rfl rfl
  exact ⟨_, _, _, _, rfl, rfl, both.1, both.2, _, _, rfl, again _ _ _ _ _ _ .refl rfl .refl⟩

end LoweringContext

end Bindery
