import Bindery.Proofs.Package.References

/-!
# Who supersedes whom

Takeovers are collected from a registry in which nothing has been superseded, and carried out
one after the other. Of all typedefs that may be declared in the place of a declaration, the
first in the order of identities is. A typedef stands for one declaration, so it takes the place
of one at most, and as no typedef is superseded, a single step leads from a declaration to
what is declared in its place.
-/

namespace Bindery

open Native (Identity)

/-! ## The first takeover of a declaration -/

theorem Registry.map_get?_modify {β : Type} (r : Registry) (id x : Identity) (f : Declaration → Declaration)
    (g : Declaration → β) :
    ((r.modify id f).get? x).map g = (r.get? x).map fun d => g (if x = id then f d else d) := by
  rw [Dict.modify, Dict.get?_mapValues, Option.map_map]
  rfl

theorem Registry.supersededBy_take (r : Registry) (t : Takeover) (x : Identity) :
    ((r.take t).get? x).map (·.supersededBy) = (r.get? x).map fun d =>
      if x = t.literal then d.supersededBy.or (some t.synonym) else d.supersededBy := by
  unfold Registry.take
  cases hl : r.get? t.literal with
  | none =>
    refine Option.map_congr fun d hd => ?_
    rw [if_neg]
    rintro rfl
    rw [hl] at hd
    cases hd
  | some l =>
    by_cases hs : l.supersededBy.isSome = true
    · simp only [if_pos hs]
      refine Option.map_congr fun d hd => ?_
      split
      · rename_i hx
        obtain rfl := Option.some.inj (hl.symm.trans (hx ▸ hd))
        rw [Option.or_of_isSome hs]
      · rfl
    · have hnone : l.supersededBy = none := Option.not_isSome_iff_eq_none.1 hs
      -- the synonym may have changed as well, but not in what supersedes it
      have hassume : ∀ q : Registry, ((if t.assumes then q.modify t.synonym fun d =>
          { d with scope := l.scope, assumed := some t.literal } else q).get? x).map (·.supersededBy) =
          (q.get? x).map (·.supersededBy) := by
        intro q
        split
        · rw [map_get?_modify]
          refine Option.map_congr fun d _ => ?_
          split <;> rfl
        · rfl
      simp only [if_neg hs]
      rw [hassume, map_get?_modify]
      refine Option.map_congr fun d hd => ?_
      split
      · rename_i hx
        obtain rfl := Option.some.inj (hl.symm.trans (hx ▸ hd))
        rw [hnone]
        rfl
      · rfl

/-- Of the takeovers of a declaration the first counts. -/
theorem Registry.supersededBy_foldl (ts : List Takeover) (r : Registry) (x : Identity) :
    ((ts.foldl Registry.take r).get? x).map (·.supersededBy) = (r.get? x).map fun d =>
      d.supersededBy.or ((ts.find? (·.literal == x)).map (·.synonym)) := by
  induction ts generalizing r with
  | nil => simp
  | cons t ts ih =>
    rw [List.foldl_cons, ih]
    have hstep := r.supersededBy_take t x
    cases hx : r.get? x with
    | none =>
      rw [hx] at hstep
      rw [Option.map_eq_none_iff.1 hstep]
      rfl
    | some d =>
      rw [hx, Option.map_some] at hstep
      obtain ⟨d', hd', hby⟩ := Option.map_eq_some_iff.1 hstep
      rw [hd', Option.map_some, Option.map_some, hby]
      by_cases hx : x = t.literal
      · simp [hx]
      · simp [hx, Ne.symm hx]

/-- In a registry the values come in the order of their identities. -/
theorem Registry.find?_values {r : Registry} (hid : ∀ {x d}, r.get? x = some d → d.id = x)
    {q : Declaration → Bool} {s : Declaration} (h : r.values.find? q = some s) :
    r.get? s.id = some s ∧ q s = true ∧ ∀ b t, r.get? b = some t → q t = true → s.id ≤ b := by
  obtain ⟨hq, before, after, hv, hbefore⟩ := List.find?_eq_some_iff_append.1 h
  have key : ∀ e ∈ r.entries, e.2.id = e.1 := fun e he => hid ((r.get?_eq_some_iff e.1 e.2).2 he)
  have sorted : r.values.Pairwise fun d e => d.id < e.id := by
    refine List.pairwise_map.2 (r.sorted.imp_of_mem fun {e f} he hf hlt => ?_)
    rw [key e he, key f hf]
    exact hlt
  have get : ∀ d ∈ r.values, r.get? d.id = some d := by
    intro d hd
    obtain ⟨e, he, rfl⟩ := List.mem_map.1 hd
    rw [key e he]
    exact (r.get?_eq_some_iff e.1 e.2).2 he
  have hs : s ∈ r.values := hv ▸ List.mem_append_right _ List.mem_cons_self
  refine ⟨get s hs, hq, fun b t hb ht => ?_⟩
  have hmem : t ∈ before ++ s :: after :=
    hv ▸ List.mem_map.2 ⟨(b, t), (r.get?_eq_some_iff b t).1 hb, rfl⟩
  rw [hv] at sorted
  rw [← hid hb]
  rcases List.mem_append.1 hmem with hm | hm
  · have := hbefore t hm
    simp [ht] at this
  · rcases List.mem_cons.1 hm with rfl | hm
    · exact String.le_refl _
    · exact Std.le_of_lt ((List.pairwise_cons.1 (List.pairwise_append.1 sorted).2.1).1 t hm)

theorem Declaration.passesTo_iff (d : Declaration) (name : String) :
    d.passesTo name = true ↔
      d.isEnumeration = true ∨ d.isComposite = true ∧ (d.native = "" ∨ d.native = name) := by
  unfold passesTo isEnumeration isComposite
  cases d.shape <;> simp

namespace Package

variable {p : Package} {r : Registry} {x : Identity} {s : Declaration}

/-! ## Typedefs that may take a place -/

variable (p r) in
structure Eligible (x : Identity) (s : Declaration) : Prop where
  shape : ∃ root strategy, s.shape = .synonym (.declared x) root strategy
  standalone : s.standalone = true
  exported : p.exports s.native s.file = true
  passes : ∃ l, r.get? x = some l ∧ l.passesTo s.native = true

theorem Eligible.unique {y : Identity} (h : p.Eligible r x s) (h' : p.Eligible r y s) : x = y := by
  obtain ⟨_, _, hs⟩ := h.shape
  obtain ⟨_, _, hs'⟩ := h'.shape
  rw [hs] at hs'
  cases hs'
  rfl

/-- What supersession changes of a registry does not change what is eligible in it. -/
theorem Eligible.congr {r' : Registry} {s' : Declaration} (h : p.Eligible r x s)
    (hr : ∀ l, r.get? x = some l → ∃ l', r'.get? x = some l' ∧ l'.shape = l.shape ∧ l'.native = l.native)
    (hshape : s'.shape = s.shape) (hstand : s'.standalone = s.standalone)
    (hnative : s'.native = s.native) (hfile : s'.file = s.file) : p.Eligible r' x s' where
  shape := hshape ▸ h.shape
  standalone := hstand.trans h.standalone
  exported := by rw [hnative, hfile]; exact h.exported
  passes := by
    obtain ⟨l, hl, hp⟩ := h.passes
    obtain ⟨l', hl', hs, hn⟩ := hr l hl
    refine ⟨l', hl', ?_⟩
    unfold Declaration.passesTo at hp ⊢
    rw [hs, hn, hnative]
    exact hp

theorem takeover?_iff (h : r.Unsuperseded) :
    (p.takeover? r s).any (·.literal == x) = true ↔ p.Eligible r x s := by
  constructor
  · intro hany
    obtain ⟨t, ht, hx⟩ := (Option.any_eq_true _ _).1 hany
    obtain rfl := eq_of_beq hx
    obtain ⟨-, hstand, hexp⟩ := takeover?_ok ht
    unfold takeover? at ht
    split at ht
    · rename_i id root strategy hs
      obtain ⟨l, hl, ht⟩ := Option.bind_eq_some_iff.1 ht
      split at ht
      · rename_i hc
        obtain rfl := Option.some.inj ht
        simp only [Bool.and_eq_true] at hc
        exact ⟨⟨root, strategy, hs⟩, hstand, hexp, l, hl, hc.1.2⟩
      · cases ht
    · cases ht
  · rintro ⟨⟨root, strategy, hs⟩, hstand, hexp, l, hl, hpass⟩
    simp [takeover?, hs, hl, hstand, hexp, hpass, h.supersededBy hl]

/-- The declaration of `x` is superseded by the first typedef that is eligible, if any is. -/
theorem supersededBy_cases (h : r.Unsuperseded) {l : Declaration} (hl : (p.supersede r).get? x = some l) :
    (l.supersededBy = none ∧ ∀ b s, r.get? b = some s → ¬ p.Eligible r x s) ∨
      ∃ s, l.supersededBy = some s.id ∧ r.get? s.id = some s ∧ p.Eligible r x s ∧
        ∀ b t, r.get? b = some t → p.Eligible r x t → s.id ≤ b := by
  have hby : l.supersededBy =
      ((r.values.filterMap (p.takeover? r)).find? (·.literal == x)).map (·.synonym) := by
    have hfold := Registry.supersededBy_foldl (r.values.filterMap (p.takeover? r)) r x
    rw [← supersede, hl] at hfold
    cases hx : r.get? x with
    | none => rw [hx] at hfold; cases hfold
    | some d =>
      rw [hx, Option.map_some, Option.map_some, h.supersededBy hx] at hfold
      exact Option.some.inj hfold
  rw [hby, List.find?_filterMap]
  cases hf : r.values.find? fun s => (p.takeover? r s).any (·.literal == x) with
  | none =>
    refine .inl ⟨rfl, fun b s hs he => ?_⟩
    have hm : s ∈ r.values := List.mem_map.2 ⟨(b, s), (r.get?_eq_some_iff b s).1 hs, rfl⟩
    exact List.find?_eq_none.1 hf s hm ((takeover?_iff h).2 he)
  | some s =>
    obtain ⟨hs, hq, hleast⟩ := Registry.find?_values h.id_eq hf
    obtain ⟨t, ht, -⟩ := (Option.any_eq_true _ _).1 hq
    refine .inr ⟨s, ?_, hs, (takeover?_iff h).1 hq, fun b t hb ht => hleast b t hb ((takeover?_iff h).2 ht)⟩
    rw [Option.bind_some, ht, Option.map_some, (takeover?_ok ht).1]

/-! ## The registry afterwards -/

variable (p r) in
structure Superseding (r' : Registry) : Prop where
  /-- In place of a struct, union or enumeration stands a typedef of it, and nothing in place of that. -/
  superseded : ∀ {x l a}, r'.get? x = some l → l.supersededBy = some a → l.isSynonym = false ∧
    ∃ s, r'.get? a = some s ∧ p.Eligible r' x s ∧ s.supersededBy = none
  /-- However declarations are named, no second step leads away from a target. -/
  target : ∀ {q : Registry}, Registry.Rel (fun _ d e => e.id = d.id ∧ e.supersededBy = d.supersededBy) r' q →
    ∀ {x d}, q.target? x = some d → q.target? d.id = some d
  assumed : ∀ {a s x}, r'.get? a = some s → (s.assumed = some x ↔
    ∃ l, r'.get? x = some l ∧ l.isComposite = true ∧ l.supersededBy = some a)
  shared : ∀ {a s x l}, r'.get? a = some s → s.assumed = some x → r'.get? x = some l →
    (l.native = "" ∨ l.native = s.native) ∧ s.scope = l.scope
  first : ∀ {x}, (∃ b s, r.get? b = some s ∧ p.Eligible r x s) →
    ∃ l a, r'.get? x = some l ∧ l.supersededBy = some a ∧ ∀ b s, r.get? b = some s → p.Eligible r x s → a ≤ b
  once : ∀ {x y l m a}, r'.get? x = some l → r'.get? y = some m →
    l.supersededBy = some a → m.supersededBy = some a → x = y
  kept : Registry.Rel (fun _ d d' => (d' = { d with
    supersededBy := d'.supersededBy, assumed := d'.assumed, scope := d'.scope }) ∧
      (d'.assumed = none → d'.scope = d.scope)) r r'

section
variable (h : r.Unsuperseded)
include h

theorem get?_supersede {d : Declaration} (hd : r.get? x = some d) :
    ∃ d', (p.supersede r).get? x = some d' ∧ d'.shape = d.shape ∧ d'.native = d.native := by
  obtain ⟨d', hd', hs⟩ := (supersededAll_of_unsuperseded (p := p) h).get? hd
  exact ⟨d', hd', hs.shape_eq, by rw [hs.same]⟩

theorem supersede_superseded {l : Declaration} {a : Identity} (hl : (p.supersede r).get? x = some l)
    (ha : l.supersededBy = some a) : l.isSynonym = false ∧
      ∃ s, (p.supersede r).get? a = some s ∧ p.Eligible (p.supersede r) x s ∧ s.supersededBy = none := by
  obtain ⟨s₀, hs₀, he⟩ : ∃ s₀, r.get? a = some s₀ ∧ p.Eligible r x s₀ := by
    rcases supersededBy_cases h hl with ⟨hnone, -⟩ | ⟨s₀, hby, hs₀, he, -⟩
    · rw [hnone] at ha
      cases ha
    · obtain rfl := Option.some.inj (hby.symm.trans ha)
      exact ⟨s₀, hs₀, he⟩
  obtain ⟨s, hs, hsup⟩ := (supersededAll_of_unsuperseded (p := p) h).get? hs₀
  have hall := AllReplaced.of_unsuperseded (p := p) h
  obtain ⟨s', hs', hrep⟩ := hall x l a hl ha
  obtain rfl := Option.some.inj (hs.symm.trans hs')
  refine ⟨hrep.literal, s, hs, ?_, hall.supersededBy hs hrep.isSynonym⟩
  exact he.congr (fun _ hl => get?_supersede h hl) hsup.shape_eq (by rw [hsup.same]) (by rw [hsup.same])
    (by rw [hsup.same])

theorem supersede_assumed {a : Identity} (hs : (p.supersede r).get? a = some s) :
    s.assumed = some x ↔
      ∃ l, (p.supersede r).get? x = some l ∧ l.isComposite = true ∧ l.supersededBy = some a := by
  obtain ⟨s₀, -, hsup⟩ := (supersededAll_of_unsuperseded (p := p) h).of_get? hs
  constructor
  · intro hx
    obtain ⟨-, l₀, l, hl₀, hl, hcomp, -, hby⟩ := hsup.assumes x hx
    obtain ⟨l', hl', hshape, -⟩ := get?_supersede (p := p) h hl₀
    obtain rfl := Option.some.inj (hl.symm.trans hl')
    rw [Declaration.isComposite, ← hshape] at hcomp
    exact ⟨l, hl, hcomp, hby⟩
  · rintro ⟨l, hl, hcomp, hby⟩
    obtain ⟨s', hs', hrep⟩ := AllReplaced.of_unsuperseded (p := p) h x l a hl hby
    obtain rfl := Option.some.inj (hs.symm.trans hs')
    exact hrep.assumed hcomp

theorem supersede_shared {a : Identity} {l : Declaration} (hs : (p.supersede r).get? a = some s)
    (hx : s.assumed = some x) (hl : (p.supersede r).get? x = some l) :
    (l.native = "" ∨ l.native = s.native) ∧ s.scope = l.scope := by
  have hall := supersededAll_of_unsuperseded (p := p) h
  obtain ⟨l', hl', hcomp, hby⟩ := (supersede_assumed h hs).1 hx
  obtain rfl := Option.some.inj (hl.symm.trans hl')
  obtain ⟨hnot, s', hs', he, -⟩ := supersede_superseded h hl hby
  obtain rfl := Option.some.inj (hs.symm.trans hs')
  constructor
  · obtain ⟨l', hl', hpass⟩ := he.passes
    obtain rfl := Option.some.inj (hl.symm.trans hl')
    rw [l.isComposite_eq hnot] at hcomp
    rcases (l.passesTo_iff s.native).1 hpass with he | ⟨-, hn⟩
    · rw [he] at hcomp
      cases hcomp
    · exact hn
  · -- a struct or union assumes nothing, so that it has the scope that it had
    obtain ⟨s₀, -, hsup⟩ := hall.of_get? hs
    obtain ⟨-, l₀, -, hl₀, -, -, hscope, -⟩ := hsup.assumes x hx
    obtain ⟨l', hl', hlit⟩ := hall.get? hl₀
    obtain rfl := Option.some.inj (hl.symm.trans hl')
    have hown : l.assumed = none := by
      cases ha : l.assumed with
      | none => rfl
      | some y =>
        obtain ⟨⟨root, strategy, hshape⟩, -⟩ := hlit.assumes y ha
        rw [Declaration.isSynonym, hlit.shape_eq, hshape] at hnot
        cases hnot
    rw [hscope, hlit.own hown]

theorem supersede_target {q : Registry} (hq : Registry.Rel (fun _ d e => e.id = d.id ∧
    e.supersededBy = d.supersededBy) (p.supersede r) q) {d : Declaration} (ht : q.target? x = some d) :
    q.target? d.id = some d := by
  have hid : ∀ {y e}, q.get? y = some e → e.id = y := by
    intro y e he
    obtain ⟨e₁, he₁, hi, -⟩ := hq.of_get? he
    obtain ⟨e₀, he₀, hsup⟩ := (supersededAll_of_unsuperseded (p := p) h).of_get? he₁
    have hi₀ : e₁.id = e₀.id := by rw [hsup.same]
    exact hi.trans (hi₀.trans (h.id_eq he₀))
  cases hx : q.get? x with
  | none => rw [Registry.target?, hx] at ht; cases ht
  | some e =>
    cases ha : e.supersededBy with
    | none =>
      obtain rfl := Option.some.inj (ht.symm.trans (Registry.target?_of_none hx ha))
      rw [hid hx, ht]
    | some a =>
      obtain ⟨e₁, he₁, -, hby⟩ := hq.of_get? hx
      obtain ⟨-, s₁, hs₁, -, hnone⟩ := supersede_superseded h he₁ (hby ▸ ha)
      obtain ⟨s, hs, -, hsby⟩ := hq.get? hs₁
      obtain rfl := Option.some.inj (ht.symm.trans (Registry.target?_of_some hx ha hs))
      by_cases hne : s.managed = ""
      · rw [if_pos hne] at ht ⊢
        rw [hid hx, ht]
      · rw [if_neg hne, hid hs]
        exact Registry.target?_of_none hs (hsby.trans hnone)

/-- Supersession is a takeover of one level, from one declaration to one typedef. -/
theorem superseded_by_first_typedef : p.Superseding r (p.supersede r) where
  superseded hl ha := supersede_superseded h hl ha
  target hq := supersede_target h hq
  assumed hs := supersede_assumed h hs
  shared hs hx hl := supersede_shared h hs hx hl
  first := by
    rintro x ⟨b, s, hb, he⟩
    obtain ⟨l₀, hl₀, -⟩ := he.passes
    obtain ⟨l, hl, -⟩ := get?_supersede (p := p) h hl₀
    rcases supersededBy_cases h hl with ⟨-, hnone⟩ | ⟨t, hby, -, -, hleast⟩
    · exact absurd he (hnone b s hb)
    · exact ⟨l, t.id, hl, hby, hleast⟩
  once := by
    intro x y l m a hl hm hla hma
    obtain ⟨-, s, hs, he, -⟩ := supersede_superseded h hl hla
    obtain ⟨-, s', hs', he', -⟩ := supersede_superseded h hm hma
    obtain rfl := Option.some.inj (hs.symm.trans hs')
    exact he.unique he'
  kept := by
    refine (supersededAll_of_unsuperseded (p := p) h).step (fun x hx => hx) fun x d₀ d hd hs => ?_
    exact ⟨d, hd, hs.same, hs.own⟩

end

/-- A struct and an enumeration with a typedef each, and a struct whose typedef has another name. -/
theorem figures_superseded : ∃ lowered r, figures.lowerShare.run {} = .ok (lowered, r) ∧ r.Unsuperseded ∧
    figures.Superseding r (figures.supersede r) ∧
    ((figures.supersede r).get? "s1").bind (·.supersededBy) = some "t" ∧
    ((figures.supersede r).get? "t").bind (·.assumed) = some "s1" ∧
    ((figures.supersede r).get? "e").bind (·.supersededBy) = some "k" ∧
    ((figures.supersede r).get? "k").bind (·.assumed) = none ∧
    ((figures.supersede r).get? "s2").bind (·.supersededBy) = none := by
  obtain ⟨⟨lowered, r⟩, hl, hlinks⟩ := Native.Document.ok_of_any (x := figures.lowerShare.run {})
    (f := fun lr => decide (((figures.supersede lr.2).get? "s1").bind (·.supersededBy) = some "t" ∧
      ((figures.supersede lr.2).get? "t").bind (·.assumed) = some "s1" ∧
      ((figures.supersede lr.2).get? "e").bind (·.supersededBy) = some "k" ∧
      ((figures.supersede lr.2).get? "k").bind (·.assumed) = none ∧
      ((figures.supersede lr.2).get? "s2").bind (·.supersededBy) = none)) (by decide +kernel)
  have hr := (tidy_of_lowerShare hl).unsuperseded
  exact ⟨lowered, r, hl, hr, superseded_by_first_typedef hr, of_decide_eq_true hlinks⟩

end Package

end Bindery
