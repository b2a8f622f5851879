import Bindery.Proofs.Package.Conservation
import Bindery.Proofs.Package.Methods

/-!
# Outcomes of naming

After a package has been prepared, the name of a declaration tells what it is. One that the
package declares itself has a name of its own, one that an included package declares has the
name from there, and one that cannot be referred to has none. What is superseded has given
its place to a typedef that the package exports, and which nothing supersedes.
-/

namespace Bindery

open Native (Identity)

/-! ## Headings -/

/-- What of a declaration stays as it is once types have their names. -/
def Declaration.heading (d : Declaration) : Declaration :=
  { d with methods := [], scope := {}, shape := d.shape.withoutConstants }

theorem Declaration.heading_addMethod (d : Declaration) (w : Wrapper) (candidate : String) :
    (d.addMethod w candidate).2.heading = d.heading := by
  unfold addMethod
  split <;> rfl

theorem Declaration.heading_shortenMethodNames (d : Declaration) :
    d.shortenMethodNames.heading = d.heading := by
  unfold shortenMethodNames
  split <;> rfl

theorem Package.heading_nameConstantsOf (p : Package) (d : Declaration) (s : Scope) :
    (p.nameConstantsOf d s).1.heading = d.heading := by
  unfold nameConstantsOf
  split
  · rename_i hs
    simp [Declaration.heading, Shape.withoutConstants, hs]
  · rfl

theorem Declaration.of_heading {P : Declaration → Prop} (hP : ∀ d, P d ↔ P d.heading) {d e : Declaration}
    (h : d.heading = e.heading) (hd : P d) : P e := (hP e).2 (h ▸ (hP d).1 hd)

theorem Declaration.isSynonym_of_outline {d e : Declaration} (h : d.outline = e.outline) :
    d.isSynonym = e.isSynonym := by
  have outline (d : Declaration) : d.isSynonym = d.outline.isSynonym := by
    unfold isSynonym outline
    cases d.shape <;> rfl
  rw [outline d, h, ← outline]

namespace Package

variable {p : Package} {included : List Package}

/-! ## The name of a declaration -/

variable {N : String → Prop}

variable (p included N) in
structure Outcome (d : Declaration) : Prop where
  hidden : isNameable d = false → d.managed = ""
  foreign : isNameable d = true → p.exports d.native d.file = false →
    d.managed = qualifiedName included d.id
  own : isNameable d = true → p.exports d.native d.file = true →
    (p.candidate d.native ≠ "" → d.managed ≠ "") ∧
      (d.managed = "" ∨ ∃ s key, p.Scoped N s ∧ s.nameOf? key = some d.managed)

theorem Outcome.congr {d e : Declaration} (h : d.heading = e.heading) (hd : p.Outcome included N d) :
    p.Outcome included N e :=
  Declaration.of_heading (P := p.Outcome included N)
    (fun _ => ⟨fun h => ⟨h.hidden, h.foreign, h.own⟩, fun h => ⟨h.hidden, h.foreign, h.own⟩⟩) h hd

theorem Scoped.nameType {s : Scope} (h : p.Scoped N s) {d : Declaration} (hN : N d.native) :
    p.Scoped N (p.nameType included d s).2 := by
  unfold Package.nameType
  split
  · exact h.resolve hN _
  · exact h

theorem Outcome.nameType {s : Scope} (hs : p.Scoped N s) {d : Declaration} (hN : N d.native)
    (hn : isNameable d = true) :
    p.Outcome included N { d with managed := (p.nameType included d s).1 } := by
  have nameable : isNameable { d with managed := (p.nameType included d s).1 } = true := hn
  refine ⟨fun h => ?_, fun _ (he : p.exports d.native d.file = false) => ?_,
    fun _ (he : p.exports d.native d.file = true) => ?_⟩
  · rw [nameable] at h
    cases h
  · show (p.nameType included d s).1 = _
    rw [Package.nameType, if_neg (by simp [he])]
  · show (p.candidate d.native ≠ "" → (p.nameType included d s).1 ≠ "") ∧
      ((p.nameType included d s).1 = "" ∨ ∃ s' key, p.Scoped N s' ∧ s'.nameOf? key = some (p.nameType included d s).1)
    rw [Package.nameType, if_pos he]
    refine ⟨fun hc => hs.resolve_ne_empty hc _, ?_⟩
    exact (s.resolve_bound_or_empty _ _).imp_right fun hb => ⟨_, _, hs.resolve hN _, hb⟩

/-- After a pass over `ids` the declarations have their outcome, if those that it leaves out
have it already. -/
theorem Outcome.nameTypes {ids : List Identity} {r : Registry} {s : Scope} (hs : p.Scoped N s)
    (h : ∀ x d, r.get? x = some d → N d.native ∧
      (isNameable d = false → d.managed = "") ∧ (x ∉ ids → p.Outcome included N d)) :
    ∀ x d, (p.nameTypes included ids r s).1.get? x = some d → p.Outcome included N d := by
  induction ids generalizing r s with
  | nil => exact fun x d hd => (h x d hd).2.2 List.not_mem_nil
  | cons id ids ih =>
    rw [Package.nameTypes]
    split
    · rename_i e he
      obtain ⟨hget, hn⟩ := Option.filter_eq_some_iff.1 he
      have hN := (h id e hget).1
      refine ih (hs.nameType hN) fun x d hd => ?_
      rw [Dict.get?_modify] at hd
      split at hd
      · rename_i hx
        subst hx
        rw [hget, Option.map_some] at hd
        obtain rfl := Option.some.inj hd
        refine ⟨hN, fun (hnot : isNameable e = false) => ?_, fun _ => .nameType hs hN hn⟩
        rw [hn] at hnot
        cases hnot
      · rename_i hx
        obtain ⟨hN, hnot, hrest⟩ := h x d hd
        exact ⟨hN, hnot, fun hm => hrest (List.not_mem_cons_of_ne_of_not_mem hx hm)⟩
    · rename_i hnone
      refine ih hs fun x d hd => ⟨(h x d hd).1, (h x d hd).2.1, fun hm => ?_⟩
      by_cases hx : x = id
      · subst hx
        have hnot : isNameable d = false := by
          simpa using Option.filter_eq_none_iff.1 hnone d hd
        exact ⟨(h x d hd).2.1, fun hn => (by rw [hnot] at hn; cases hn), fun hn => (by rw [hnot] at hn; cases hn)⟩
      · exact (h x d hd).2.2 (List.not_mem_cons_of_ne_of_not_mem hx hm)

theorem supersede_kept {r : Registry} (ht : p.context.Tidy r) {x : Identity} {d : Declaration}
    (hd : (p.supersede r).get? x = some d) :
    d.managed = "" ∧ ∃ d₀, r.get? x = some d₀ ∧ d.native = d₀.native := by
  obtain ⟨d₀, hd₀, hs⟩ := (supersededAll ht).of_get? hd
  obtain ⟨M, hM, -⟩ := ht.consistent x d₀ hd₀
  rw [hs.same]
  exact ⟨hM.blank.of_bare.managed, d₀, hd₀, rfl⟩

theorem outcome_typesNamed (included : List Package) {r : Registry} (ht : p.context.Tidy r)
    (hN : ∀ x d, r.get? x = some d → N d.native) :
    ∀ x d, (p.typesNamed included r).1.get? x = some d → p.Outcome included N d := by
  refine p.nameAllConstants_induct
    (P := fun r _ => ∀ x d, r.get? x = some d → p.Outcome included N d) ?_ _
    (Outcome.nameTypes .empty fun x d hd => ?_)
  · intro r s id d h hd _
    refine Dict.forall_modify h (fun e he => ?_) fun _ _ he => he
    exact (h id d hd).congr (p.heading_nameConstantsOf d s).symm
  · obtain ⟨hempty, d₀, hd₀, hnative⟩ := supersede_kept ht hd
    exact ⟨hnative ▸ hN x d₀ hd₀, fun _ => hempty, fun hx => absurd (Dict.mem_keys_of_get? hd) hx⟩

theorem outcome_bindFunctions {r : Registry} (h : ∀ x d, r.get? x = some d → p.Outcome included N d)
    (ws : List Wrapper) (s : Scope) :
    ∀ x d, (p.bindFunctions ws r s).2.1.get? x = some d → p.Outcome included N d := by
  refine p.bindFunctions_induct ws
    (P := fun _ _ r _ => ∀ x d, r.get? x = some d → p.Outcome included N d) ?_ ?_ h
  · intro _ w _ _ r s id _ h _
    exact Dict.forall_modify h (fun d hd => (h id d hd).congr (d.heading_addMethod _ _).symm) fun _ _ he => he
  · intro _ _ _ _ _ _ _ h _
    exact h

/-! ## Aliases -/

variable (p) in
structure Replaces (x : Identity) (d s : Declaration) : Prop where
  literal : d.isSynonym = false
  shape : ∃ root strategy, s.shape = .synonym (.declared x) root strategy
  standalone : s.standalone = true
  exported : p.exports s.native s.file = true
  assumed : d.isComposite = true → s.assumed = some x

theorem Replaces.isSynonym {x : Identity} {d s : Declaration} (h : p.Replaces x d s) : s.isSynonym = true := by
  obtain ⟨_, _, hs⟩ := h.shape
  rw [Declaration.isSynonym, hs]

theorem Replaces.congr {x : Identity} {d d' s s' : Declaration} (h : p.Replaces x d s)
    (hd : d'.shape = d.shape) (hs : s'.shape = s.shape) (hstand : s'.standalone = s.standalone)
    (hnative : s'.native = s.native) (hfile : s'.file = s.file)
    (hassumed : s'.assumed = s.assumed) : p.Replaces x d' s' where
  literal := by rw [Declaration.isSynonym, hd]; exact h.literal
  shape := hs ▸ h.shape
  standalone := hstand.trans h.standalone
  exported := by rw [hnative, hfile]; exact h.exported
  assumed hc := by
    rw [Declaration.isComposite, hd] at hc
    exact hassumed.trans (h.assumed hc)

variable (p) in
def AllReplaced (r : Registry) : Prop :=
  ∀ x d a, r.get? x = some d → d.supersededBy = some a → ∃ s, r.get? a = some s ∧ p.Replaces x d s

theorem AllReplaced.supersededBy {r : Registry} (h : p.AllReplaced r) {a : Identity} {s : Declaration}
    (hs : r.get? a = some s) (hsyn : s.isSynonym = true) : s.supersededBy = none := by
  by_contra hne
  obtain ⟨b, hb⟩ := Option.ne_none_iff_exists'.1 hne
  obtain ⟨_, -, hr⟩ := h a s b hs hb
  rw [hr.literal] at hsyn
  cases hsyn

/-- A takeover leaves the typedefs in the place of other declarations as they are. -/
theorem Replaces.get?_take {r : Registry} {t : Takeover} {lit syn : Declaration}
    (hlit : r.get? t.literal = some lit) (hsup : lit.supersededBy = none)
    (hsyn : r.get? t.synonym = some syn) (hne : t.synonym ≠ t.literal) (hnot : lit.isSynonym = false)
    {root : Identity} {strategy : Strategy} (hshape : syn.shape = .synonym (.declared t.literal) root strategy)
    {x a : Identity} {d s : Declaration} (h : p.Replaces x d s) (hx : x ≠ t.literal)
    (hs : r.get? a = some s) : (r.take t).get? a = some s := by
  have hal : a ≠ t.literal := by
    rintro rfl
    obtain rfl := Option.some.inj (hlit.symm.trans hs)
    rw [h.isSynonym] at hnot
    cases hnot
  have has : a ≠ t.synonym := by
    rintro rfl
    obtain rfl := Option.some.inj (hsyn.symm.trans hs)
    obtain ⟨_, _, hsx⟩ := h.shape
    rw [hshape] at hsx
    cases hsx
    exact hx rfl
  rw [Registry.get?_take hlit hsup hsyn hne, if_neg hal, if_neg fun he => has he.1, hs]

/-- A takeover by a typedef of the package adds the pair of the two, and leaves the others. -/
theorem AllReplaced.take {r : Registry} (h : p.AllReplaced r) {t : Takeover} {lit syn : Declaration}
    (hlit : r.get? t.literal = some lit) (hsyn : r.get? t.synonym = some syn)
    (hnot : lit.isSynonym = false) (hassumes : t.assumes = lit.isComposite)
    (hshape : ∃ root strategy, syn.shape = .synonym (.declared t.literal) root strategy)
    (hstand : syn.standalone = true) (hexp : p.exports syn.native syn.file = true) :
    p.AllReplaced (r.take t) := by
  obtain ⟨root, strategy, hshape⟩ := hshape
  have hne : t.synonym ≠ t.literal := by
    intro he
    rw [he, hlit] at hsyn
    obtain rfl := Option.some.inj hsyn
    rw [Declaration.isSynonym, hshape] at hnot
    cases hnot
  by_cases hsup : lit.supersededBy = none
  · have hget := Registry.get?_take hlit hsup hsyn hne
    intro x d a hd ha
    rw [hget] at hd
    by_cases hx : x = t.literal
    · rw [if_pos hx] at hd
      obtain rfl := Option.some.inj hd
      obtain rfl := Option.some.inj ha
      subst hx
      by_cases hassume : t.assumes = true
      · exact ⟨_, (hget _).trans ((if_neg hne).trans (if_pos ⟨rfl, hassume⟩)), hnot, ⟨root, strategy, hshape⟩,
          hstand, hexp, fun _ => rfl⟩
      · refine ⟨syn, (hget _).trans ((if_neg hne).trans ((if_neg fun hs => hassume hs.2).trans hsyn)), hnot,
          ⟨root, strategy, hshape⟩, hstand, hexp, fun hc => absurd (hassumes.trans hc) hassume⟩
    · rw [if_neg hx] at hd
      -- `x` may be the typedef that takes over: it changes, but not in what it has been replaced by
      obtain ⟨d₁, hd₁, hdshape, hdsup⟩ : ∃ d₁, r.get? x = some d₁ ∧ d.shape = d₁.shape ∧
          d.supersededBy = d₁.supersededBy := by
        split at hd
        · rename_i hs
          obtain rfl := Option.some.inj hd
          exact ⟨syn, hs.1 ▸ hsyn, rfl, rfl⟩
        · exact ⟨d, hd, rfl, rfl⟩
      obtain ⟨s, hs, hrep⟩ := h x d₁ a hd₁ (hdsup ▸ ha)
      exact ⟨s, hrep.get?_take hlit hsup hsyn hne hnot hshape hx hs, hrep.congr hdshape rfl rfl rfl rfl rfl⟩
  · rw [Registry.take_of_superseded hlit hsup]
    exact h

theorem takeover?_ok {r : Registry} {d : Declaration} {t : Takeover} (h : p.takeover? r d = some t) :
    t.synonym = d.id ∧ d.standalone = true ∧ p.exports d.native d.file = true := by
  unfold takeover? at h
  split at h
  · obtain ⟨_, -, h⟩ := Option.bind_eq_some_iff.1 h
    split at h
    · rename_i hc
      simp only [Bool.and_eq_true] at hc
      obtain rfl := Option.some.inj h
      exact ⟨rfl, hc.1.1.1, hc.1.1.2⟩
    · cases h
  · cases h

theorem AllReplaced.foldl {r₀ r : Registry} {ts : List Takeover} (hall : SupersededAll r₀ r)
    (h : p.AllReplaced r) (ht : ∀ t ∈ ts, t.Valid r₀ ∧ ∃ d, r₀.get? t.synonym = some d ∧
      d.standalone = true ∧ p.exports d.native d.file = true) :
    p.AllReplaced (ts.foldl Registry.take r) := by
  induction ts generalizing r with
  | nil => exact h
  | cons t ts ih =>
    obtain ⟨hvalid, d, hd, hstand, hexp⟩ := ht t List.mem_cons_self
    refine ih (hall.take hvalid) ?_ fun u hu => ht u (List.mem_cons_of_mem _ hu)
    obtain ⟨d', root, strategy, hd', hshape⟩ := hvalid.synonym
    obtain rfl := Option.some.inj (hd.symm.trans hd')
    obtain ⟨lit₀, hlit₀, hnot, hassumes⟩ := hvalid.literal
    obtain ⟨syn, hsyn, hsynS⟩ := hall.get? hd
    obtain ⟨lit, hlit, hlitS⟩ := hall.get? hlit₀
    refine h.take hlit hsyn ?_ (hassumes.trans hlitS.isComposite_eq.symm)
      ⟨root, strategy, hsynS.shape_eq.trans hshape⟩ ?_ ?_
    · rw [Declaration.isSynonym, hlitS.shape_eq]
      exact hnot
    · rw [hsynS.same]
      exact hstand
    · rw [hsynS.same]
      exact hexp

theorem AllReplaced.of_unsuperseded {r : Registry} (h : r.Unsuperseded) : p.AllReplaced (p.supersede r) := by
  refine AllReplaced.foldl (SupersededAll.refl fun x d hd => h.assumed hd) (fun x d a hd ha => ?_) fun t hm => ?_
  · rw [h.supersededBy hd] at ha
    cases ha
  · obtain ⟨d, hd, hto⟩ := List.mem_filterMap.1 hm
    obtain ⟨e, he, rfl⟩ := List.mem_map.1 hd
    have hget := (r.get?_eq_some_iff e.1 e.2).2 he
    have hid := h.id_eq hget
    obtain ⟨hsyn, hstand, hexp⟩ := takeover?_ok hto
    exact ⟨takeover?_valid (hid ▸ hget) hto, e.2, by rw [hsyn, hid]; exact hget, hstand, hexp⟩

theorem AllReplaced.supersede {r : Registry} (ht : p.context.Tidy r) : p.AllReplaced (p.supersede r) :=
  of_unsuperseded ht.unsuperseded

/-! ## Preparation -/

theorem Replaces.of_outline {x : Identity} {d d' s s' : Declaration} (h : p.Replaces x d s)
    (hd : d'.outline = d.outline) (hs : s'.outline = s.outline) : p.Replaces x d' s' := by
  have hnative : s'.native = s.native := congrArg (·.native) hs
  have hfile : s'.file = s.file := congrArg (·.file) hs
  obtain ⟨root, strategy, hshape⟩ := h.shape
  constructor
  · exact (Declaration.isSynonym_of_outline hd).trans h.literal
  · exact ⟨root, strategy, Declaration.synonym_of_outline hs hshape⟩
  · exact (congrArg (·.standalone) hs : s'.standalone = s.standalone).trans h.standalone
  · rw [hnative, hfile]
    exact h.exported
  · intro hc
    rw [Declaration.isComposite_of_outline hd] at hc
    exact (congrArg (·.assumed) hs : s'.assumed = s.assumed).trans (h.assumed hc)

section
variable {p' : Package} (h : p.prepare included = .ok p')
include h

theorem Scoped.of_prepare {s : Scope} (hs : p.Scoped N s) : p'.Scoped N s := by
  refine ⟨hs.bijective, fun {id name} hn => ?_⟩
  rw [(prepare_settings h).2.2]
  exact hs.made hn

theorem Outcome.of_prepare {d : Declaration} (hd : p.Outcome included N d) : p'.Outcome included N d := by
  obtain ⟨he, -, hc⟩ := prepare_settings h
  constructor
  · exact hd.hidden
  · rw [he]
    exact hd.foreign
  · intro hn hexp
    rw [he] at hexp
    obtain ⟨hne, hb⟩ := hd.own hn hexp
    rw [hc]
    exact ⟨hne, hb.imp_right fun ⟨s, key, hs, hkey⟩ => ⟨s, key, hs.of_prepare h, hkey⟩⟩

theorem AllReplaced.of_prepare {r : Registry} (hr : p.AllReplaced r) : p'.AllReplaced r := by
  intro x d a hd ha
  obtain ⟨s, hs, hrep⟩ := hr x d a hd ha
  refine ⟨s, hs, hrep.literal, hrep.shape, hrep.standalone, ?_, hrep.assumed⟩
  rw [(prepare_settings h).1]
  exact hrep.exported

end

variable (p included N) in
structure Resolved : Prop where
  id_eq : ∀ {x d}, p.types.get? x = some d → d.id = x
  outcome : ∀ {x d}, p.types.get? x = some d → p.Outcome included N d
  replaced : p.AllReplaced p.types
  assumed : ∀ {x s l}, p.types.get? x = some s → s.assumed = some l →
    ∃ d, p.types.get? l = some d ∧ d.isComposite = true ∧ d.supersededBy = some x

theorem resolved_of_natives {p' : Package} (h : p.prepare included = .ok p')
    (hN : ∀ r, p.context.Tidy r → ∀ x d, r.get? x = some d → N d.native) : p'.Resolved included N := by
  obtain ⟨lowered, r, hl, hp⟩ := prepare_ok.1 h
  have ht := tidy_of_lowerShare hl
  have hosted : p.AllHosted (p.supersede r) p'.types := by
    subst hp
    exact (((AllHosted.supersede ht).typesNamed).bindFunctions _ _).shortenMethodNames
  refine ⟨fun {x d} hd => ?_, fun {x d} hd => Outcome.of_prepare h ?_,
    AllReplaced.of_prepare h fun x d a hd ha => ?_, fun {x s l} hs hl => ?_⟩
  · obtain ⟨d₁, hd₁, hout, -⟩ := hosted.of_get? hd
    obtain ⟨d₀, hd₀, hs⟩ := (supersededAll ht).of_get? hd₁
    have hid : d.id = d₁.id := congrArg (·.id) hout
    have hid₀ : d₁.id = d₀.id := by rw [hs.same]
    exact hid.trans (hid₀.trans (ht.consistent.id_eq hd₀))
  · subst hp
    have bound := outcome_bindFunctions (outcome_typesNamed included ht (hN r ht)) lowered.wrappers
      (p.typesNamed included r).2
    obtain ⟨e, he, rfl⟩ := Dict.exists_of_get?_mapValues hd
    exact (bound x e he).congr e.heading_shortenMethodNames.symm
  · obtain ⟨d₁, hd₁, hout, -⟩ := hosted.of_get? hd
    have hby : d.supersededBy = d₁.supersededBy := congrArg (·.supersededBy) hout
    obtain ⟨s₁, hs₁, hrep⟩ := AllReplaced.supersede ht x d₁ a hd₁ (hby ▸ ha)
    obtain ⟨s, hs, hout', -⟩ := hosted.get? hs₁
    exact ⟨s, hs, hrep.of_outline hout hout'⟩
  · obtain ⟨s₁, hs₁, hout, -⟩ := hosted.of_get? hs
    obtain ⟨s₀, hs₀, hsup⟩ := (supersededAll ht).of_get? hs₁
    have hassumed : s.assumed = s₁.assumed := congrArg (·.assumed) hout
    obtain ⟨-, d₀, d₁, hd₀, hd₁, hcomp, -, hby⟩ := hsup.assumes l (hassumed ▸ hl)
    obtain ⟨d₁', hd₁', hlit⟩ := (supersededAll ht).get? hd₀
    obtain rfl := Option.some.inj (hd₁.symm.trans hd₁')
    obtain ⟨d, hd, hout', -⟩ := hosted.get? hd₁
    refine ⟨d, hd, ?_, (congrArg (·.supersededBy) hout').trans hby⟩
    exact (Declaration.isComposite_of_outline hout').trans (hlit.isComposite_eq.trans hcomp)

theorem prepare_resolved {p' : Package} (h : p.prepare included = .ok p') :
    p'.Resolved included fun _ => True := resolved_of_natives h fun _ _ _ _ _ => trivial

theorem prepare_resolved_native {p' : Package} (hid : p.document.HasIdentifiers)
    (h : p.prepare included = .ok p') : p'.Resolved included IsNative :=
  resolved_of_natives h fun _ ht x d hd => (natives_of_tidy hid ht x d hd).1

end Package

end Bindery
