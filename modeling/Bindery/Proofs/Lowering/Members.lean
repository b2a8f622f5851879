import Bindery.Lowering.Members
import Bindery.Proofs.Lowering.Requests
import Bindery.Proofs.Scope

/-!
# Members

Populating only adds marks, members and their names. The members of a declaration are named
in its own scope under their positions, so their names are pairwise distinct, and one is
empty only if nothing of its native name is left.
-/

namespace Bindery

open Native (Identity Field)

namespace LoweringContext

theorem toString_inj {i j : Nat} (h : toString i = toString j) : i = j := by
  have hl : Nat.toDigits 10 i = Nat.toDigits 10 j := by
    have := congrArg String.toList h
    rwa [Nat.toString_eq_repr, Nat.toString_eq_repr, Nat.repr, Nat.repr, String.toList_ofList,
      String.toList_ofList] at this
  have := congrArg (Nat.ofDigitChars 10 · 0) hl
  simpa using this

theorem memberKey_inj {id : Identity} {i j : Nat} (h : memberKey id i = memberKey id j) : i = j :=
  toString_inj ((String.append_right_inj (id ++ ".")).1 h)

end LoweringContext

open LoweringContext (memberKey memberCandidate)

structure Declaration.Names (d : Declaration) (members : List Member) : Prop where
  bijective : d.scope.Bijective
  keys : ∀ {key name}, d.scope.nameOf? key = some name →
    name ≠ "" ∧ ∃ i < members.length, key = memberKey d.id i
  names : ∀ {i m}, members[i]? = some m → m.managed = (d.scope.nameOf? (memberKey d.id i)).getD "" ∧
    (m.managed = "" ↔ memberCandidate i m.native = "")

def Declaration.Tidy (d : Declaration) : Prop := d.Names d.members

namespace Declaration

theorem Names.empty {d : Declaration} (h : d.scope = {}) : d.Names [] where
  bijective := by rw [h]; exact .empty
  keys hn := by rw [h] at hn; cases hn
  names hm := by cases hm

theorem members_of_isPending {d : Declaration} (h : d.isPending = true) : d.members = [] := by
  unfold isPending at h
  unfold members
  split at h
  · rename_i hs; rw [hs]
  · rename_i hs; rw [hs]
  · cases h

theorem Tidy.of_fresh {d : Declaration} (h : d.scope = {} ∧ d.shape.bare = d.shape) : d.Tidy := by
  have : d.members = [] := by
    have hb := h.2
    unfold members
    cases hs : d.shape with
    | struct ms => cases ms with
      | none => rfl
      | some ms => rw [hs] at hb; cases hb
    | union ms => cases ms with
      | none => rfl
      | some ms => rw [hs] at hb; cases hb
    | enumeration | synonym => rfl
  rw [Tidy, this]
  exact .empty h.1

theorem Names.congr {d d' : Declaration} {ms : List Member} (h : d.Names ms) (hid : d'.id = d.id)
    (hs : d'.scope = d.scope) : d'.Names ms where
  bijective := hs ▸ h.bijective
  keys := by rw [hid, hs]; exact h.keys
  names := by rw [hid, hs]; exact h.names

theorem Tidy.standalone {d : Declaration} (h : d.Tidy) (b : Bool) : { d with standalone := b }.Tidy :=
  h.congr rfl rfl

/-- The next member is not bound yet. -/
theorem Names.next_free {d : Declaration} {ms : List Member} (h : d.Names ms) :
    d.scope.nameOf? (memberKey d.id ms.length) = none := by
  by_contra hne
  obtain ⟨name, hn⟩ := Option.ne_none_iff_exists'.1 hne
  obtain ⟨i, hi, he⟩ := (h.keys hn).2
  have := LoweringContext.memberKey_inj he
  omega

theorem Names.concat {d : Declaration} {ms : List Member} (h : d.Names ms) {m : Member}
    {s : Scope}
    (hm : d.scope.resolve (memberKey d.id ms.length) (memberCandidate ms.length m.native) =
      (m.managed, s)) :
    { d with scope := s }.Names (ms ++ [m]) := by
  have hs : (d.scope.resolve (memberKey d.id ms.length) (memberCandidate ms.length m.native)).2 = s :=
    congrArg Prod.snd hm
  have hname : (d.scope.resolve (memberKey d.id ms.length) (memberCandidate ms.length m.native)).1 =
      m.managed := congrArg Prod.fst hm
  have other {key : Identity} (hk : key ≠ memberKey d.id ms.length) :
      s.nameOf? key = d.scope.nameOf? key := by
    rw [← hs, Scope.nameOf?_resolve_of_ne hk]
  have self : m.managed = (s.nameOf? (memberKey d.id ms.length)).getD "" := by
    rw [← hs, ← hname]
    exact d.scope.resolve_fst _ _
  have empty_iff : m.managed = "" ↔ memberCandidate ms.length m.native = "" := by
    rw [← hname]
    constructor
    · intro he
      by_contra hc
      exact Scope.resolve_ne_empty hc (fun _ hn => (h.keys hn).1) he
    · intro hc
      rw [hc, Scope.resolve_empty _ h.next_free]
  constructor
  · rw [← hs]
    exact h.bijective.resolve _ _
  · intro key name hn
    rw [← hs] at hn
    rcases Scope.nameOf?_resolve_cases hn with hn | ⟨rfl, hc, k, rfl⟩
    · obtain ⟨hne, i, hi, he⟩ := h.keys hn
      exact ⟨hne, i, by rw [List.length_append]; omega, he⟩
    · exact ⟨Scope.underscored_ne_empty hc k, ms.length, by simp, rfl⟩
  · intro i m' hm'
    rw [List.getElem?_append] at hm'
    split at hm'
    · rename_i hi
      rw [other fun he => by have := LoweringContext.memberKey_inj he; omega]
      exact h.names hm'
    · have hi : i - ms.length < 1 := by
        simpa using (List.getElem?_eq_some_iff.1 hm').1
      obtain rfl : i = ms.length := by omega
      simp only [Nat.sub_self, List.getElem?_cons_zero, Option.some.injEq] at hm'
      subst hm'
      exact ⟨self, empty_iff⟩

/-! ## Distinct names -/

theorem memberCandidate_ne_empty_iff {index : Nat} {native : String} :
    memberCandidate index native ≠ "" ↔ native = "" ∨ upperName native ≠ "" := by
  unfold memberCandidate
  by_cases hn : native = "" <;> simp [hn]

theorem Names.ne_empty_iff {d : Declaration} {ms : List Member} (h : d.Names ms) {m : Member}
    (hm : m ∈ ms) : m.managed ≠ "" ↔ m.native = "" ∨ upperName m.native ≠ "" := by
  obtain ⟨i, hi⟩ := List.mem_iff_getElem?.1 hm
  rw [Ne, (h.names hi).2]
  exact memberCandidate_ne_empty_iff

theorem Names.bound {d : Declaration} {ms : List Member} (h : d.Names ms) {i : Nat} {m : Member}
    (hm : ms[i]? = some m) (hne : m.managed ≠ "") :
    d.scope.nameOf? (memberKey d.id i) = some m.managed :=
  Scope.bound_of_ne_empty (h.names hm).1 hne

theorem Names.nodup {d : Declaration} {ms : List Member} (h : d.Names ms)
    (hne : ∀ m ∈ ms, m.managed ≠ "") : (ms.map (·.managed)).Nodup := by
  rw [List.nodup_iff_getElem?_ne_getElem?]
  intro i j hij hj he
  rw [List.length_map] at hj
  have hi : i < ms.length := by omega
  simp only [List.getElem?_map, List.getElem?_eq_getElem hi, List.getElem?_eq_getElem hj, Option.map_some,
    Option.some.injEq] at he
  have hbi := h.bound (List.getElem?_eq_getElem hi) (hne _ (List.getElem_mem hi))
  have hbj := h.bound (List.getElem?_eq_getElem hj) (hne _ (List.getElem_mem hj))
  have := LoweringContext.memberKey_inj (h.bijective.name_inj hbi (he ▸ hbj))
  omega

end Declaration

namespace LoweringContext

variable {c : LoweringContext} {r r' r₀ : Registry} {id : Identity}

variable (c)

structure Tidy (r : Registry) : Prop where
  consistent : c.Consistent r
  tidy : ∀ {x d}, r.get? x = some d → d.Tidy

structure Populating (id : Identity) (r₀ : Registry) (members : List Member) (r : Registry) : Prop where
  consistent : c.Consistent r
  mono : r₀.marks ⊆ r.marks
  named : ∃ d, r.get? id = some d ∧ d.Names members
  others : ∀ {x d}, x ≠ id → r.get? x = some d → d.Tidy
  kept : ∀ {x d}, x ≠ id → r₀.get? x = some d → ∃ d', r.get? x = some d' ∧ d'.members = d.members

variable {c}

theorem Tidy.empty : c.Tidy {} := ⟨Consistent.empty, fun h => by cases h⟩

theorem Tidy.grows {M : Set Mark} (h : c.Tidy r) (hg : c.Grows r M r') : c.Tidy r' where
  consistent := hg.consistent
  tidy {x d} hd := by
    cases hx : r.get? x with
    | none => exact .of_fresh (hg.fresh hx hd)
    | some e =>
      obtain ⟨b, hb⟩ := hg.kept hx
      obtain rfl := Option.some.inj (hd.symm.trans hb)
      exact (h.tidy hx).standalone b

theorem Tidy.populating (h : c.Tidy r) {d : Declaration} (hd : r.get? id = some d)
    (hm : d.members = []) : c.Populating id r [] r where
  consistent := h.consistent
  mono := subset_rfl
  named := ⟨d, hd, hm ▸ h.tidy hd⟩
  others _ he := h.tidy he
  kept _ he := ⟨_, he, rfl⟩

theorem Populating.grows {ms : List Member} {M : Set Mark} (h : c.Populating id r₀ ms r)
    (hg : c.Grows r M r') : c.Populating id r₀ ms r' where
  consistent := hg.consistent
  mono := h.mono.trans hg.mono
  named := by
    obtain ⟨d, hd, hn⟩ := h.named
    obtain ⟨b, hb⟩ := hg.kept hd
    exact ⟨_, hb, hn.congr rfl rfl⟩
  others {x d} hx hd := by
    cases hr : r.get? x with
    | none => exact .of_fresh (hg.fresh hr hd)
    | some e =>
      obtain ⟨b, hb⟩ := hg.kept hr
      obtain rfl := Option.some.inj (hd.symm.trans hb)
      exact (h.others hx hr).standalone b
  kept hx hd := by
    obtain ⟨e, he, hm⟩ := h.kept hx hd
    obtain ⟨b, hb⟩ := hg.kept he
    exact ⟨_, hb, hm⟩

/-! ## One member -/

theorem nameMember_ok {index : Nat} {candidate name : String} {d : Declaration}
    (hd : r.get? id = some d) :
    (nameMember id index candidate).run r = .ok (name, r') ↔
      (d.scope.resolve (memberKey id index) candidate).1 = name ∧
        (r.modify id fun e =>
          { e with scope := (d.scope.resolve (memberKey id index) candidate).2 }) = r' := by
  rw [nameMember, Lowering.run_bind_ok]
  simp only [Lowering.run_get_ok]
  constructor
  · intro h
    obtain ⟨_, _, ⟨rfl, rfl⟩, h⟩ := h
    rw [hd] at h
    obtain ⟨_, _, hm, hp⟩ := Lowering.run_bind_ok.1 h
    obtain ⟨rfl, rfl⟩ := Lowering.run_pure_ok.1 hp
    exact ⟨rfl, Lowering.run_modify_ok.1 hm⟩
  · intro h
    obtain ⟨rfl, rfl⟩ := h
    refine ⟨_, _, ⟨rfl, rfl⟩, ?_⟩
    rw [hd]
    exact Lowering.run_bind_ok.2 ⟨(), _, Lowering.run_modify_ok.2 rfl, Lowering.run_pure_ok.2 ⟨rfl, rfl⟩⟩

theorem Populating.lowerField {ms : List Member} {f : Field} {m : Member}
    (h : c.Populating id r₀ ms r) (hf : (c.lowerField id ms.length f).run r = .ok (m, r')) :
    c.Populating id r₀ (ms ++ [m]) r' := by
  obtain ⟨t, r₁, hv, hf⟩ := Lowering.run_bind_ok.1 hf
  obtain ⟨name, r₂, hn, hf⟩ := Lowering.run_bind_ok.1 hf
  obtain ⟨r₃, _, hg, hf⟩ := Lowering.run_bind_ok.1 hf
  obtain ⟨rfl, rfl⟩ := Lowering.run_get_ok.1 hg
  obtain ⟨hm, rfl⟩ := Lowering.run_pure_ok.1 hf
  obtain ⟨M, hM⟩ := Transparent.value _ _ _ _ _ h.consistent hv
  have h₁ := h.grows (hM.of_run h.consistent hv).2
  obtain ⟨d, hd, hnames⟩ := h₁.named
  obtain ⟨hname, rfl⟩ := (nameMember_ok hd).1 hn
  have hid := h₁.consistent.id_eq hd
  subst hid
  obtain ⟨hc, hmarks⟩ := h₁.consistent.modify d.id
    (f := fun e => { e with scope := (d.scope.resolve (memberKey d.id ms.length)
      (memberCandidate ms.length f.name)).2 })
    (fun e => e.bare_scope _) (fun _ => rfl)
  refine ⟨hc, hmarks ▸ h₁.mono, ⟨_, by rw [Dict.get?_modify, if_pos rfl, hd]; rfl, ?_⟩, ?_, ?_⟩
  · refine hnames.concat (Prod.ext ?_ ?_)
    · rw [← hm]; exact hname
    · rw [← hm]
  · intro x e hx he
    rw [Dict.get?_modify, if_neg hx] at he
    exact h₁.others hx he
  · intro x e hx he
    rw [Dict.get?_modify, if_neg hx]
    exact h₁.kept hx he

theorem Populating.lowerFields {ms ms' : List Member} {fs : List Field}
    (h : c.Populating id r₀ ms r)
    (hf : ((fs.zipIdx ms.length).mapM fun (f, index) => c.lowerField id index f).run r = .ok (ms', r')) :
    c.Populating id r₀ (ms ++ ms') r' := by
  induction fs generalizing ms ms' r with
  | nil =>
    rw [List.zipIdx_nil, List.mapM_nil] at hf
    obtain ⟨rfl, rfl⟩ := Lowering.run_pure_ok.1 hf
    rwa [List.append_nil]
  | cons f fs ih =>
    rw [List.zipIdx_cons, List.mapM_cons] at hf
    obtain ⟨m, r₁, hm, hf⟩ := Lowering.run_bind_ok.1 hf
    obtain ⟨ms'', r₂, hms, hf⟩ := Lowering.run_bind_ok.1 hf
    obtain ⟨rfl, rfl⟩ := Lowering.run_pure_ok.1 hf
    have h₁ := h.lowerField hm
    rw [List.append_cons]
    refine ih h₁ ?_
    rwa [List.length_append]

/-! ## One declaration -/

theorem nativeFields_ok {fs : List Field} :
    c.nativeFields id = .ok fs ↔ ∃ node, c.document.types.get? id = some node ∧
      (match node with
        | .struct s => s.fields
        | .union s => s.fields
        | _ => []) = fs := by
  unfold nativeFields
  cases hn : c.document.node id with
  | error e =>
    constructor
    · intro h; cases h
    · intro h
      obtain ⟨node, h, -⟩ := h
      rw [Native.Document.node_ok.2 h] at hn
      cases hn
  | ok node =>
    rw [Native.Document.node_ok.1 hn]
    constructor
    · intro h
      refine ⟨node, rfl, ?_⟩
      cases node <;> exact Except.ok.inj h
    · intro h
      obtain ⟨node', h, rfl⟩ := h
      cases h
      cases node <;> rfl

/-- Only structs and unions have fields, and they take what they are given as members. -/
theorem Describes.populate {d : Declaration} {M : Set Mark} (h : c.Describes id d.bare M)
    {fs : List Field} (hf : c.nativeFields id = .ok fs) :
    (∀ ms, (d.populate ms).members = ms) ∨ fs = [] ∧ ∀ ms, (d.populate ms).members = [] := by
  obtain ⟨node, hn, rfl⟩ := nativeFields_ok.1 hf
  unfold Declaration.populate
  generalize hb : d.bare = e at h
  have hs := congrArg Declaration.shape hb
  cases h with
  | struct h | union h =>
    refine .inl fun ms => ?_
    unfold Declaration.bare at hs
    cases hd : d.shape with
    | struct _ => rfl
    | union _ => rfl
    | enumeration | synonym => rw [hd] at hs; cases hs
  | enumeration h hb | typedef h hr hb hv =>
    obtain rfl := Option.some.inj (h.1.symm.trans hn)
    refine .inr ⟨rfl, fun ms => ?_⟩
    unfold Declaration.bare at hs
    cases hd : d.shape with
    | struct _ => rw [hd] at hs; cases hs
    | union _ => rw [hd] at hs; cases hs
    | enumeration | synonym => simp [Declaration.members, hd]

theorem Tidy.populateOne {u : Unit} {d : Declaration} (h : c.Tidy r) (hd : r.get? id = some d)
    (hm : d.members = []) (hp : (c.populateOne id).run r = .ok (u, r')) :
    c.Tidy r' ∧ r.marks ⊆ r'.marks ∧
      ∀ {x e}, x ≠ id → r.get? x = some e → ∃ e', r'.get? x = some e' ∧ e'.members = e.members := by
  obtain ⟨fs, _, hlift, hp⟩ := Lowering.run_bind_ok.1 hp
  obtain ⟨hf, rfl⟩ := Lowering.run_lift_ok.1 hlift
  obtain ⟨ms, r₁, hms, hp⟩ := Lowering.run_bind_ok.1 hp
  obtain rfl := Lowering.run_modify_ok.1 hp
  have h₁ := (h.populating hd hm).lowerFields hms
  obtain ⟨e, he, hnames⟩ := h₁.named
  obtain ⟨M, hM, -⟩ := h₁.consistent id e he
  obtain ⟨hc, hmarks⟩ := h₁.consistent.modify id (f := (·.populate ms))
    (fun d => d.bare_populate ms) (fun d => d.standalone_populate ms)
  have hget (x : Identity) (hx : x ≠ id) : Dict.get? (r₁.modify id (·.populate ms)) x = r₁.get? x := by
    rw [Dict.get?_modify, if_neg hx]
  refine ⟨⟨hc, fun {x e'} hx => ?_⟩, hmarks ▸ h₁.mono, fun {x e'} hx he' => hget x hx ▸ h₁.kept hx he'⟩
  by_cases hxi : x = id
  · subst hxi
    rw [Dict.get?_modify, if_pos rfl, he, Option.map_some] at hx
    obtain rfl := Option.some.inj hx
    have members : (e.populate ms).members = ms := by
      rcases hM.populate hf with hall | ⟨rfl, hnone⟩
      · exact hall ms
      · rw [List.zipIdx_nil, List.mapM_nil] at hms
        rw [hnone ms]
        exact (Lowering.run_pure_ok.1 hms).1
    rw [Declaration.Tidy, members]
    exact hnames.congr (e.id_populate ms) (e.scope_populate ms)
  · exact h₁.others hxi (hget x hxi ▸ hx)

/-! ## All declarations -/

theorem Tidy.populateAll {u : PUnit} {ids : List Identity} (h : c.Tidy r) (hnd : ids.Nodup)
    (hids : ∀ x ∈ ids, ∃ d, r.get? x = some d ∧ d.members = [])
    (hp : (ids.forM c.populateOne).run r = .ok (u, r')) : c.Tidy r' ∧ r.marks ⊆ r'.marks := by
  induction ids generalizing r with
  | nil =>
    obtain ⟨-, rfl⟩ := Lowering.run_pure_ok.1 hp
    exact ⟨h, subset_rfl⟩
  | cons id ids ih =>
    obtain ⟨_, r₁, h₁, hp⟩ := Lowering.run_bind_ok.1 hp
    obtain ⟨d, hd, hm⟩ := hids id List.mem_cons_self
    obtain ⟨ht, hmono, hkept⟩ := h.populateOne hd hm h₁
    have hnd := List.nodup_cons.1 hnd
    -- those that come later still wait for their members
    have hrest : ∀ x ∈ ids, ∃ d, r₁.get? x = some d ∧ d.members = [] := by
      intro x hx
      obtain ⟨d, hd, hm⟩ := hids x (List.mem_cons_of_mem _ hx)
      obtain ⟨d', hd', hm'⟩ := hkept (fun he => hnd.1 (he ▸ hx)) hd
      exact ⟨d', hd', hm'.trans hm⟩
    obtain ⟨ht', hmono'⟩ := ih ht hnd.2 hrest hp
    exact ⟨ht', hmono.trans hmono'⟩

theorem pending_eq (h : c.Consistent r) :
    pending r = (r.entries.filter fun e => e.2.isPending).map (·.1) := by
  have hid : ∀ e ∈ r.entries, e.2.id = e.1 := fun e he =>
    h.id_eq ((r.get?_eq_some_iff e.1 e.2).2 he)
  unfold pending Dict.values
  rw [List.filter_map, List.map_map]
  exact List.map_congr_left fun e he => hid e (List.mem_filter.1 he).1

theorem Tidy.populateWithin {limit n : Nat} (h : c.Tidy r)
    (hp : (c.populateWithin limit).run r = .ok (n, r')) : c.Tidy r' ∧ r.marks ⊆ r'.marks := by
  induction limit generalizing r n with
  | zero =>
    obtain ⟨-, rfl⟩ := Lowering.run_pure_ok.1 hp
    exact ⟨h, subset_rfl⟩
  | succ limit ih =>
    obtain ⟨_, _, hget, hp⟩ := Lowering.run_bind_ok.1 hp
    obtain ⟨rfl, rfl⟩ := Lowering.run_get_ok.1 hget
    by_cases he : (pending r).isEmpty = true
    · rw [if_pos he] at hp
      obtain ⟨-, rfl⟩ := Lowering.run_pure_ok.1 hp
      exact ⟨h, subset_rfl⟩
    · rw [if_neg he] at hp
      obtain ⟨_, r₁, hall, hp⟩ := Lowering.run_bind_ok.1 hp
      obtain ⟨m, r₂, hrest, hp⟩ := Lowering.run_bind_ok.1 hp
      obtain ⟨-, rfl⟩ := Lowering.run_pure_ok.1 hp
      have hpend := pending_eq h.consistent
      have hnd : (pending r).Nodup := by
        rw [hpend]
        exact (r.nodup_keys.sublist (List.filter_sublist.map _))
      have hids : ∀ x ∈ pending r, ∃ d, r.get? x = some d ∧ d.members = [] := by
        intro x hx
        rw [hpend] at hx
        obtain ⟨e, he, rfl⟩ := List.mem_map.1 hx
        obtain ⟨hm, hpe⟩ := List.mem_filter.1 he
        exact ⟨e.2, (r.get?_eq_some_iff e.1 e.2).2 hm, Declaration.members_of_isPending hpe⟩
      obtain ⟨h₁, hmono⟩ := h.populateAll hnd hids hall
      obtain ⟨h₂, hmono'⟩ := ih h₁ hrest
      exact ⟨h₂, hmono.trans hmono'⟩

theorem Tidy.populate {n : Nat} (h : c.Tidy r) (hp : (c.populate).run r = .ok (n, r')) :
    c.Tidy r' ∧ r.marks ⊆ r'.marks := h.populateWithin hp

end LoweringContext

end Bindery
