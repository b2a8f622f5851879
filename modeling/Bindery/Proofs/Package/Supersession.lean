import Bindery.Package.Supersession
import Bindery.Proofs.Lowering.Members

/-!
# What supersession changes

A takeover marks a struct, union or enumeration as superseded, and hands the scope of a
struct or union to the synonym. Every other part of every declaration stays as it is.
-/

namespace Bindery

open Native (Identity)

namespace Declaration

def isSynonym (d : Declaration) : Bool :=
  match d.shape with
  | .synonym .. => true
  | _ => false

def isComposite (d : Declaration) : Bool :=
  match d.shape with
  | .struct _ => true
  | .union _ => true
  | _ => false

theorem isComposite_eq (d : Declaration) (h : d.isSynonym = false) :
    d.isComposite = !d.isEnumeration := by
  unfold isSynonym at h
  unfold isComposite isEnumeration
  cases hd : d.shape <;> simp_all

theorem isSynonym_of_passesTo {d : Declaration} {name : String} (h : d.passesTo name = true) :
    d.isSynonym = false := by
  unfold passesTo at h
  unfold isSynonym
  cases hd : d.shape <;> simp_all

end Declaration

/-! ## One takeover -/

structure Takeover.Valid (r : Registry) (t : Takeover) : Prop where
  synonym : ∃ d root strategy, r.get? t.synonym = some d ∧
    d.shape = .synonym (.declared t.literal) root strategy
  literal : ∃ e, r.get? t.literal = some e ∧ e.isSynonym = false ∧ t.assumes = e.isComposite

structure Superseded (r₀ r : Registry) (id : Identity) (d₀ d : Declaration) : Prop where
  same : d = { d₀ with supersededBy := d.supersededBy, assumed := d.assumed, scope := d.scope }
  own : d.assumed = none → d.scope = d₀.scope
  assumes : ∀ l, d.assumed = some l → (∃ root strategy, d₀.shape = .synonym (.declared l) root strategy) ∧
    ∃ e₀ e, r₀.get? l = some e₀ ∧ r.get? l = some e ∧ e₀.isComposite = true ∧ d.scope = e₀.scope ∧
      e.supersededBy = some id

namespace Superseded

variable {r₀ r : Registry} {id : Identity} {d₀ d : Declaration}

theorem shape_eq (h : Superseded r₀ r id d₀ d) : d.shape = d₀.shape := by rw [h.same]

theorem members_eq (h : Superseded r₀ r id d₀ d) : d.members = d₀.members := by
  rw [Declaration.members, Declaration.members, h.shape_eq]

theorem isComposite_eq (h : Superseded r₀ r id d₀ d) : d.isComposite = d₀.isComposite := by
  rw [Declaration.isComposite, Declaration.isComposite, h.shape_eq]

theorem refl (h : d.assumed = none) : Superseded r₀ r id d d where
  same := rfl
  own _ := rfl
  assumes l hl := by rw [h] at hl; cases hl

end Superseded

def Registry.Rel (P : Identity → Declaration → Declaration → Prop) (r₀ r : Registry) : Prop :=
  ∀ x, Option.Rel (P x) (r₀.get? x) (r.get? x)

namespace Registry.Rel

variable {P : Identity → Declaration → Declaration → Prop} {r₀ r : Registry}

theorem of_get? (h : Rel P r₀ r) {x : Identity} {d : Declaration} (hd : r.get? x = some d) :
    ∃ d₀, r₀.get? x = some d₀ ∧ P x d₀ d := by
  have := h x
  rw [hd] at this
  cases hx : r₀.get? x with
  | none => rw [hx] at this; cases this
  | some d₀ => rw [hx] at this; cases this with | some hp => exact ⟨d₀, rfl, hp⟩

theorem get? (h : Rel P r₀ r) {x : Identity} {d₀ : Declaration} (hd : r₀.get? x = some d₀) :
    ∃ d, r.get? x = some d ∧ P x d₀ d := by
  have := h x
  rw [hd] at this
  cases hx : r.get? x with
  | none => rw [hx] at this; cases this
  | some d => rw [hx] at this; cases this with | some hp => exact ⟨d, rfl, hp⟩

theorem refl (h : ∀ x d, r.get? x = some d → P x d d) : Rel P r r := by
  intro x
  cases hx : r.get? x with
  | none => exact .none
  | some d => exact .some (h x d hx)

/-- A registry with the same identities, where each declaration goes on to be related. -/
theorem step {Q : Identity → Declaration → Declaration → Prop} {r' : Registry} (h : Rel P r₀ r)
    (hnone : ∀ x, r.get? x = none → r'.get? x = none)
    (hsome : ∀ x d₀ d, r.get? x = some d → P x d₀ d → ∃ d', r'.get? x = some d' ∧ Q x d₀ d') :
    Rel Q r₀ r' := by
  intro x
  have hx := h x
  generalize hd₀ : r₀.get? x = o₀ at hx
  generalize hd : r.get? x = o at hx
  cases hx with
  | none =>
    rw [hnone x hd]
    exact .none
  | some hp =>
    obtain ⟨d', hd', hq⟩ := hsome x _ _ hd hp
    rw [hd']
    exact .some hq

theorem mapValues (h : Rel P r₀ r) {f : Identity → Declaration → Declaration}
    (hf : ∀ x d₀ d, r.get? x = some d → P x d₀ d → P x d₀ (f x d)) : Rel P r₀ (r.mapValues f) := by
  apply h.step
  · intro x hx
    rw [Dict.get?_mapValues, hx]
    rfl
  · intro x d₀ d hd hp
    exact ⟨f x d, by rw [Dict.get?_mapValues, hd]; rfl, hf x d₀ d hd hp⟩

theorem modify (h : Rel P r₀ r) {id : Identity} {f : Declaration → Declaration}
    (hf : ∀ d₀ d, r.get? id = some d → P id d₀ d → P id d₀ (f d)) : Rel P r₀ (r.modify id f) := by
  refine h.mapValues fun x d₀ d hd hp => ?_
  split
  · rename_i hx
    subst hx
    exact hf d₀ d hd hp
  · exact hp

end Registry.Rel

def SupersededAll (r₀ r : Registry) : Prop := Registry.Rel (Superseded r₀ r) r₀ r

section
variable {r₀ r : Registry}

theorem SupersededAll.refl (h : ∀ x d, r.get? x = some d → d.assumed = none) : SupersededAll r r :=
  Registry.Rel.refl fun x d hd => .refl (h x d hd)

theorem Registry.get?_take {t : Takeover} {lit syn : Declaration} (hlit : r.get? t.literal = some lit)
    (hsup : lit.supersededBy = none) (hsyn : r.get? t.synonym = some syn) (hne : t.synonym ≠ t.literal)
    (x : Identity) :
    (r.take t).get? x =
      if x = t.literal then some { lit with supersededBy := some t.synonym }
      else if x = t.synonym ∧ t.assumes = true then
        some { syn with scope := lit.scope, assumed := some t.literal }
      else r.get? x := by
  unfold Registry.take
  rw [hlit]
  simp only [hsup, Option.isSome_none, Bool.false_eq_true, if_false]
  by_cases ha : t.assumes = true
  · rw [if_pos ha]
    simp only [Dict.get?_modify, ha, and_true]
    by_cases hx : x = t.literal
    · subst hx
      simp [hne.symm, hlit]
    · by_cases hx' : x = t.synonym
      · subst hx'
        simp [hne, hsyn]
      · simp [hx, hx']
  · rw [if_neg ha]
    simp only [Dict.get?_modify, ha]
    by_cases hx : x = t.literal
    · subst hx
      simp [hlit]
    · simp [hx]

theorem Registry.take_of_superseded {t : Takeover} {lit : Declaration} (hlit : r.get? t.literal = some lit)
    (hsup : lit.supersededBy ≠ none) : r.take t = r := by
  unfold Registry.take
  rw [hlit]
  simp [Option.isSome_iff_ne_none, hsup]

/-- What has been superseded before still is, and by the same synonym. -/
theorem Superseded.take {t : Takeover} {lit syn : Declaration} (hlit : r.get? t.literal = some lit)
    (hsup : lit.supersededBy = none) (hsyn : r.get? t.synonym = some syn) (hne : t.synonym ≠ t.literal)
    {x : Identity} {d₀ d : Declaration} (h : Superseded r₀ r x d₀ d) :
    Superseded r₀ (r.take t) x d₀ d := by
  have hget := Registry.get?_take hlit hsup hsyn hne
  refine ⟨h.same, h.own, fun l hl => ?_⟩
  obtain ⟨hsh, e₀, e, he₀, he, hcomp, hscope, hby⟩ := h.assumes l hl
  have hlne : l ≠ t.literal := by
    rintro rfl
    obtain rfl := Option.some.inj (hlit.symm.trans he)
    rw [hsup] at hby
    cases hby
  by_cases hx : l = t.synonym ∧ t.assumes = true
  · obtain rfl := Option.some.inj ((hx.1 ▸ hsyn).symm.trans he)
    have hl := (hget l).trans ((if_neg hlne).trans (if_pos hx))
    exact ⟨hsh, e₀, _, he₀, hl, hcomp, hscope, hby⟩
  · refine ⟨hsh, e₀, e, he₀, ?_, hcomp, hscope, hby⟩
    rw [hget, if_neg hlne, if_neg hx, he]

theorem SupersededAll.take (h : SupersededAll r₀ r) {t : Takeover} (ht : t.Valid r₀) :
    SupersededAll r₀ (r.take t) := by
  obtain ⟨syn₀, root, strategy, hsyn₀, hshape⟩ := ht.synonym
  obtain ⟨lit₀, hlit₀, hlit, hassumes⟩ := ht.literal
  obtain ⟨syn, hsyn, hsynS⟩ := h.get? hsyn₀
  obtain ⟨lit, hlitr, hlitS⟩ := h.get? hlit₀
  have hne : t.synonym ≠ t.literal := by
    intro he
    rw [he, hlit₀] at hsyn₀
    obtain rfl := Option.some.inj hsyn₀
    simp [Declaration.isSynonym, hshape] at hlit
  -- only a synonym assumes an identity, so the scope that is handed on is that of the literal
  have hown : lit.assumed = none := by
    cases ha : lit.assumed with
    | none => rfl
    | some l =>
      obtain ⟨⟨root', strategy', hs⟩, -⟩ := hlitS.assumes l ha
      simp [Declaration.isSynonym, hs] at hlit
  by_cases hsup : lit.supersededBy = none
  · have hget := Registry.get?_take hlitr hsup hsyn hne
    apply h.step
    · intro x hx
      have hxl : x ≠ t.literal := fun he => by rw [he, hlitr] at hx; cases hx
      have hxs : x ≠ t.synonym := fun he => by rw [he, hsyn] at hx; cases hx
      rw [hget, if_neg hxl, if_neg fun he => hxs he.1, hx]
    · intro x d₀ d hd hs
      by_cases hxl : x = t.literal
      · subst hxl
        obtain rfl := Option.some.inj (hlitr.symm.trans hd)
        have hk := hs.take hlitr hsup hsyn hne
        exact ⟨_, (hget _).trans (if_pos rfl), by rw [hk.same], hk.own, hk.assumes⟩
      · by_cases hxs : x = t.synonym ∧ t.assumes = true
        · obtain ⟨rfl, ha⟩ := hxs
          obtain rfl := Option.some.inj (hsyn.symm.trans hd)
          have hsyn' := (hget t.synonym).trans ((if_neg hne).trans (if_pos ⟨rfl, ha⟩))
          refine ⟨_, hsyn', by rw [hs.same], fun hn => (by cases hn), fun l hl => ?_⟩
          obtain rfl := Option.some.inj hl
          have hshape' : d₀.shape = _ := hs.shape_eq.symm.trans (hsynS.shape_eq.trans hshape)
          exact ⟨⟨root, strategy, hshape'⟩, lit₀, _, hlit₀, (hget _).trans (if_pos rfl), hassumes ▸ ha,
            hlitS.own hown, rfl⟩
        · exact ⟨d, by rw [hget, if_neg hxl, if_neg hxs, hd], hs.take hlitr hsup hsyn hne⟩
  · rw [Registry.take_of_superseded hlitr hsup]
    exact h

/-! ## All takeovers -/

theorem SupersededAll.foldl {ts : List Takeover} (h : SupersededAll r₀ r)
    (ht : ∀ t ∈ ts, t.Valid r₀) : SupersededAll r₀ (ts.foldl Registry.take r) := by
  induction ts generalizing r with
  | nil => exact h
  | cons t ts ih =>
    exact ih (h.take (ht t List.mem_cons_self)) fun u hu => ht u (List.mem_cons_of_mem _ hu)

theorem Package.takeover?_valid {p : Package} {d : Declaration} {t : Takeover}
    (hd : r.get? d.id = some d) (h : p.takeover? r d = some t) : t.Valid r := by
  unfold Package.takeover? at h
  split at h
  · rename_i l root strategy hs
    obtain ⟨lit, hl, h⟩ := Option.bind_eq_some_iff.1 h
    split at h
    · rename_i hc
      simp only [Bool.and_eq_true] at hc
      obtain ⟨⟨-, hp⟩, -⟩ := hc
      obtain rfl := Option.some.inj h
      have hlit := Declaration.isSynonym_of_passesTo hp
      exact ⟨⟨d, root, strategy, hd, hs⟩, lit, hl, hlit, (lit.isComposite_eq hlit).symm⟩
    · cases h
  · cases h

structure Registry.Unsuperseded (r : Registry) : Prop where
  id_eq : ∀ {x d}, r.get? x = some d → d.id = x
  supersededBy : ∀ {x d}, r.get? x = some d → d.supersededBy = none
  assumed : ∀ {x d}, r.get? x = some d → d.assumed = none

/-- Lowering supersedes nothing. -/
theorem LoweringContext.Tidy.unsuperseded {c : LoweringContext} (h : c.Tidy r) : r.Unsuperseded := by
  have blank : ∀ x d, r.get? x = some d → d.supersededBy = none ∧ d.assumed = none := by
    intro x d hd
    obtain ⟨M, hM, -⟩ := h.consistent x d hd
    exact ⟨hM.blank.of_bare.supersededBy, hM.blank.of_bare.assumed⟩
  exact ⟨fun hd => h.consistent.id_eq hd, fun hd => (blank _ _ hd).1, fun hd => (blank _ _ hd).2⟩

theorem Package.supersededAll_of_unsuperseded {p : Package} (h : r.Unsuperseded) :
    SupersededAll r (p.supersede r) := by
  refine (SupersededAll.refl fun x d hd => h.assumed hd).foldl fun t ht => ?_
  obtain ⟨d, hd, ht⟩ := List.mem_filterMap.1 ht
  obtain ⟨e, he, rfl⟩ := List.mem_map.1 hd
  have hget := (r.get?_eq_some_iff e.1 e.2).2 he
  exact Package.takeover?_valid (h.id_eq hget ▸ hget) ht

theorem Package.supersededAll {p : Package} {c : LoweringContext} (h : c.Tidy r) :
    SupersededAll r (p.supersede r) := supersededAll_of_unsuperseded h.unsuperseded

end

end Bindery
