import Bindery.Proofs.Package.References
import Bindery.Render.File
import Mathlib.Data.List.Pairwise

/-!
# Constants of enumerations

A declared type is followed by the enumerators that it carries: its own, or those at the end of a
chain of typedefs. One of the carriers stands for the enumeration, and the names of the enumerators
are given for its sake. Nothing keeps another carrier from declaring them once more.
-/

namespace Bindery

open Native (Identity)
open LoweringContext (constantsOf)

/-! ## Constants in the generated source -/

namespace Declaration

/-- The enumerators with a name that follow the declared type, each with the line that declares it. -/
def constantEntries (d : Declaration) (r : Registry) : List (Constant × String) :=
  let values := d.constants r
  ((values.zip (enumLiterals (values.map (·.value)))).filter (!·.1.managed.isEmpty)).map fun (v, text) =>
    (v, "\t" ++ v.managed ++ " " ++ d.managed ++ " = " ++ text)

variable {d : Declaration} {r : Registry}

theorem constantLines_eq (d : Declaration) (r : Registry) : d.constantLines r =
    if (d.constantEntries r).isEmpty then []
    else "const (" :: (d.constantEntries r).map (·.2) ++ [")", ""] := by
  have hempty (l : List (Constant × String)) (f : Constant × String → Constant × String) :
      (l.map f).isEmpty = l.isEmpty := by
    cases l <;> rfl
  unfold constantLines constantEntries
  simp only [hempty, List.map_map]
  rfl

theorem constantEntries_constants (d : Declaration) (r : Registry) :
    (d.constantEntries r).map (·.1) = (d.constants r).filter (!·.managed.isEmpty) := by
  have hzip : ((d.constants r).zip (enumLiterals ((d.constants r).map (·.value)))).map Prod.fst =
      d.constants r := by
    apply List.map_fst_zip
    simp [enumLiterals]
  conv_rhs => rw [← hzip, List.filter_map]
  simp [constantEntries, Function.comp_def]

theorem constantEntries_sublist (d : Declaration) (r : Registry) (pointerWidth : Nat) :
    ((d.constantEntries r).map (·.2)).Sublist (d.lines r pointerWidth) := by
  have hlines : ((d.constantEntries r).map (·.2)).Sublist (d.constantLines r) := by
    rw [constantLines_eq]
    split
    · rename_i h
      simp [List.isEmpty_iff.1 h]
    · exact .cons _ (List.sublist_append_left _ _)
  unfold lines
  exact ((hlines.trans (List.sublist_append_right _ _)).trans (List.sublist_append_left _ _)).trans
    (List.sublist_append_left _ _)

end Declaration

def Emission.constantEntries (e : Emission) : List (Constant × String) :=
  e.types.flatMap (·.constantEntries e.package.types)

theorem Emission.constantEntries_sublist (e : Emission) :
    (e.constantEntries.map (·.2)).Sublist e.bodyLines := by
  have htypes : (e.constantEntries.map (·.2)).Sublist
      (e.types.flatMap (·.lines e.package.types e.package.rules.pointerWidth)) := by
    unfold constantEntries
    rw [List.map_flatMap]
    induction e.types with
    | nil => exact .slnil
    | cons d types ih =>
      rw [List.flatMap_cons, List.flatMap_cons]
      exact (d.constantEntries_sublist _ _).append ih
  unfold bodyLines
  refine htypes.trans ?_
  simp only [List.append_assoc]
  exact (List.sublist_append_left _ _).trans (List.sublist_append_right _ _)

/-! ## Chains to enumerations -/

namespace Registry

variable (r : Registry)

/-- A chain of so many typedefs, each the literal of the one before, to an enumeration. -/
inductive EndsIn : Nat → Identity → Identity → Prop
  | here {x d} (hd : r.get? x = some d) (he : d.isEnumeration = true) : EndsIn 0 x x
  | step {k x y z d root strategy} (hd : r.get? x = some d)
      (hs : d.shape = .synonym (.declared y) root strategy) (h : EndsIn k y z) : EndsIn (k + 1) x z

variable {r} {j k : Nat} {x y z : Identity} {d e : Declaration}

theorem isEnumeration_of_mem {v : Constant} (h : v ∈ d.ownConstants) : d.isEnumeration = true := by
  cases hs : d.shape with
  | enumeration => simp [Declaration.isEnumeration, hs]
  | _ => simp [Declaration.ownConstants, hs] at h

theorem EndsIn.unique (h : r.EndsIn j x y) (h' : r.EndsIn k x z) : j = k ∧ y = z := by
  induction h generalizing k with
  | here hd he =>
    cases h' with
    | here => exact ⟨rfl, rfl⟩
    | step hd' hs =>
      obtain rfl := Option.some.inj (hd.symm.trans hd')
      simp [Declaration.isEnumeration, hs] at he
  | step hd hs _ ih =>
    cases h' with
    | here hd' he =>
      obtain rfl := Option.some.inj (hd.symm.trans hd')
      simp [Declaration.isEnumeration, hs] at he
    | step hd' hs' h' =>
      obtain rfl := Option.some.inj (hd.symm.trans hd')
      rw [hs] at hs'
      cases hs'
      obtain ⟨rfl, rfl⟩ := ih h'
      exact ⟨rfl, rfl⟩

theorem EndsIn.le_size (h : r.EndsIn k x z) : k ≤ r.size := by
  refine Dict.number_le_size (R := fun k x => ∃ z, r.EndsIn k x z) ?_ ?_ ⟨z, h⟩
  · intro j k x hj hk
    obtain ⟨_, hj⟩ := hj
    obtain ⟨_, hk⟩ := hk
    exact (hj.unique hk).1
  · intro k x h
    obtain ⟨z, h⟩ := h
    cases h with
    | step hd _ h =>
      exact ⟨Dict.mem_keys_of_get? hd, _, z, h⟩

theorem EndsIn.constantsWithin {depth : Nat} (h : r.EndsIn k x z) (hd : r.get? x = some d)
    (he : r.get? z = some e) (hk : k < depth) : d.constantsWithin r depth = e.ownConstants := by
  induction h generalizing d depth with
  | here hd' henum =>
    obtain ⟨depth, rfl⟩ := Nat.exists_eq_succ_of_ne_zero (Nat.ne_of_gt hk)
    obtain rfl := Option.some.inj (hd.symm.trans he)
    obtain rfl := Option.some.inj (hd.symm.trans hd')
    unfold Declaration.isEnumeration at henum
    unfold Declaration.constantsWithin Declaration.ownConstants
    cases hs : d.shape with
    | enumeration => rfl
    | struct | union | synonym => simp [hs] at henum
  | step hd' hs hrest ih =>
    obtain ⟨depth, rfl⟩ := Nat.exists_eq_succ_of_ne_zero (Nat.ne_of_gt (Nat.zero_lt_of_lt hk))
    obtain rfl := Option.some.inj (hd.symm.trans hd')
    obtain ⟨l, hl⟩ : ∃ l, r.get? _ = some l := by
      cases hrest with
      | here hl => exact ⟨_, hl⟩
      | step hl => exact ⟨_, hl⟩
    rw [Declaration.constantsWithin, hs]
    simp only [hl, Option.map_some, Option.getD_some]
    exact ih hl he (Nat.lt_of_succ_lt_succ hk)

theorem EndsIn.constants (h : r.EndsIn k x z) (hd : r.get? x = some d) (he : r.get? z = some e) :
    d.constants r = e.ownConstants := h.constantsWithin hd he (Nat.lt_succ_of_le h.le_size)

/-- What a declaration carries is at the end of a chain that begins with it. -/
theorem endsIn_of_constants {depth : Nat} (hd : r.get? x = some d) (h : d.constantsWithin r depth ≠ []) :
    ∃ k z e, r.EndsIn k x z ∧ r.get? z = some e ∧ d.constantsWithin r depth = e.ownConstants := by
  induction depth generalizing x d with
  | zero => exact absurd rfl h
  | succ depth ih =>
    rw [Declaration.constantsWithin] at h ⊢
    cases hs : d.shape with
    | struct | union => simp [hs] at h
    | enumeration base values =>
      have hown : d.ownConstants = values := by rw [Declaration.ownConstants, hs]
      exact ⟨0, x, d, .here hd (by rw [Declaration.isEnumeration, hs]), hd, hown.symm⟩
    | synonym literal root strategy =>
      cases literal with
      | declared y =>
        cases hl : r.get? y with
        | none => simp [hs, hl] at h
        | some l =>
          simp only [hs, hl, Option.map_some, Option.getD_some] at h ⊢
          obtain ⟨k, z, e, hk, he, hc⟩ := ih hl h
          exact ⟨k + 1, z, e, .step hd hs hk, he, hc⟩
      | _ => simp [hs] at h

theorem endsIn_of_mem_constants (hd : r.get? x = some d) {v : Constant} (hv : v ∈ d.constants r) :
    ∃ k z e, r.EndsIn k x z ∧ r.get? z = some e ∧ v ∈ e.ownConstants := by
  obtain ⟨k, z, e, hk, he, hc⟩ := endsIn_of_constants hd (List.ne_nil_of_mem hv)
  exact ⟨k, z, e, hk, he, hc ▸ hv⟩

end Registry

/-! ## Identities and names of enumerators -/

def Constant.unnamed (v : Constant) : Constant := { v with managed := "" }

def Native.Document.enumeratorIds (d : Native.Document) (id : Identity) : List Identity :=
  match d.types.get? id with
  | some (.enumeration e) => (constantsOf id e).map (·.id)
  | _ => []

theorem Native.Document.nodup_enumeratorIds {d : Native.Document} {id : Identity}
    (h : ∀ e, d.types.get? id = some (.enumeration e) → (e.values.map (·.name)).Nodup) :
    (d.enumeratorIds id).Nodup := by
  unfold enumeratorIds
  split
  · rename_i e he
    have hnames := h e he
    rw [constantsOf, List.map_map]
    rw [List.Nodup, List.pairwise_map] at hnames ⊢
    exact hnames.imp fun hne hid => hne ((String.append_right_inj _).1 hid)
  · exact List.nodup_nil

namespace Package

variable (p : Package)

/-- The enumerators of a declaration are those of the document, and if one of them has a name the
package declares the enumeration, by itself or by a typedef. -/
structure Enumerates (r : Registry) (x : Identity) (d : Declaration) : Prop where
  ids : d.ownConstants.map (·.id) = p.document.enumeratorIds x
  declared : ∀ v ∈ d.ownConstants, v.managed ≠ "" → ∃ id name, r.targetName? x = some (id, name) ∧
    name ≠ "" ∧ Declaration.isQualified name = false

def AllEnumerated (r : Registry) : Prop := ∀ x d, r.get? x = some d → p.Enumerates r x d

variable {p} {r : Registry}

theorem Enumerates.congr {r' : Registry} {x : Identity} {d e : Declaration} (h : p.Enumerates r x d)
    (hr : r.SameLabels r') (he : e.ownConstants = d.ownConstants) : p.Enumerates r' x e where
  ids := he ▸ h.ids
  declared v hv hne := by
    rw [hr.targetName?]
    exact h.declared v (he ▸ hv) hne

theorem AllEnumerated.modify (h : p.AllEnumerated r) {f : Declaration → Declaration}
    (hlabel : ∀ d, (f d).label = d.label) (hconstants : ∀ d, (f d).ownConstants = d.ownConstants)
    (id : Identity) : p.AllEnumerated (r.modify id f) := by
  have hr := Registry.SameLabels.modify r hlabel id
  exact Dict.forall_modify h (fun d hd => (h id d hd).congr hr (hconstants d)) fun x d hd => hd.congr hr rfl

theorem nameConstants_names (vs : List Constant) (s : Scope) :
    (p.nameConstants vs s).1.map (fun v => (v.id, v.native)) = vs.map fun v => (v.id, v.native) := by
  induction vs generalizing s with
  | nil => rfl
  | cons v vs ih =>
    rw [nameConstants]
    by_cases he : p.excludes v.native = true
    · simp [he, ih]
    · simp [he, ih]

theorem nameConstants_ids (vs : List Constant) (s : Scope) :
    (p.nameConstants vs s).1.map (·.id) = vs.map (·.id) := by
  have := congrArg (List.map Prod.fst) (nameConstants_names (p := p) vs s)
  rwa [List.map_map, List.map_map] at this

theorem nameConstantsOf_ids (d : Declaration) (s : Scope) :
    (p.nameConstantsOf d s).1.ownConstants.map (·.id) = d.ownConstants.map (·.id) := by
  unfold nameConstantsOf
  split
  · rename_i hs
    simp [Declaration.ownConstants, hs, nameConstants_ids]
  · rfl

theorem nameConstantsOf_label (d : Declaration) (s : Scope) : (p.nameConstantsOf d s).1.label = d.label := by
  unfold nameConstantsOf
  split <;> rfl

theorem AllEnumerated.nameConstantsOf (h : p.AllEnumerated r) {id : Identity} {d : Declaration}
    (hd : r.get? id = some d) (ht : (r.target? id).any (·.isEmitted) = true) (s : Scope) :
    p.AllEnumerated (r.modify id fun _ => (p.nameConstantsOf d s).1) := by
  have hr : r.SameLabels (r.modify id fun _ => (p.nameConstantsOf d s).1) := by
    intro x
    rw [Dict.get?_modify]
    by_cases hx : x = id
    · subst hx
      simp [hd, nameConstantsOf_label]
    · rw [if_neg hx]
  refine Dict.forall_modify h (fun e he => ?_) fun x e he => he.congr hr rfl
  obtain ⟨t, ht, hem⟩ := Option.any_eq_true _ _ |>.1 ht
  obtain ⟨-, -, hne, hq⟩ := isEmitted_ok hem
  refine ⟨(nameConstantsOf_ids d s).trans (h id d hd).ids, fun _ _ _ => ⟨t.id, t.managed, ?_, hne, hq⟩⟩
  rw [hr.targetName?, Registry.targetName?, ht, Option.map_some]

theorem addMethod_constants (d : Declaration) (w : Wrapper) (candidate : String) :
    (d.addMethod w candidate).2.ownConstants = d.ownConstants := by
  unfold Declaration.addMethod
  split <;> rfl

theorem shortenMethodNames_constants (d : Declaration) : d.shortenMethodNames.ownConstants = d.ownConstants := by
  unfold Declaration.shortenMethodNames
  split <;> rfl

theorem ids_of_tidy (ht : p.context.Tidy r) {x : Identity} {d : Declaration} (hd : r.get? x = some d) :
    d.ownConstants.map (·.id) = p.document.enumeratorIds x := by
  obtain ⟨M, hM, -⟩ := ht.consistent x d hd
  rw [← Declaration.ownConstants_bare]
  generalize d.bare = e at hM
  unfold Native.Document.enumeratorIds
  cases hM with
  | enumeration h =>
    have hn : p.document.types.get? x = _ := h.1
    simp [hn, Declaration.ownConstants]
  | struct h | union h | typedef h =>
    have hn : p.document.types.get? x = _ := h.1
    simp [hn, Declaration.ownConstants]

theorem typesNamed_enumerated {included : List Package} (ht : p.context.Tidy r) :
    p.AllEnumerated (p.typesNamed included r).1 := by
  refine p.nameAllConstants_induct (P := fun r _ => p.AllEnumerated r) ?_ _ ?_
  · intro r s id d h hd hc
    exact h.nameConstantsOf hd hc.2 s
  · -- no enumerator has a name before
    have hunnamed := p.nameTypes_induct (P := fun r _ => ∀ x d, r.get? x = some d →
      d.ownConstants.map (·.id) = p.document.enumeratorIds x ∧ ∀ v ∈ d.ownConstants, v.managed = "") included ?_
      (p.supersede r).keys (r := p.supersede r) (s := {}) ?_
    · intro x d hd
      obtain ⟨hids, hempty⟩ := hunnamed x d hd
      exact ⟨hids, fun v hv hne => absurd (hempty v hv) hne⟩
    · intro r s id d h _ _
      exact Dict.forall_modify h (fun e he => h id e he) fun _ _ he => he
    · intro x d hd
      obtain ⟨d₀, hd₀, hs⟩ := (supersededAll ht).of_get? hd
      obtain ⟨M, hM, -⟩ := ht.consistent x d₀ hd₀
      rw [Declaration.ownConstants_congr hs.shape_eq]
      refine ⟨ids_of_tidy ht hd₀, fun v hv => ?_⟩
      unfold Declaration.ownConstants at hv
      split at hv
      · rename_i base values hshape
        exact hM.blank.of_bare.constants base values hshape v hv
      · cases hv

theorem prepare_enumerated {included : List Package} {p' : Package} (h : p.prepare included = .ok p') :
    p.AllEnumerated p'.types := by
  obtain ⟨lowered, r, hl, rfl⟩ := prepare_ok.1 h
  have hbound := p.bindFunctions_induct lowered.wrappers (P := fun _ _ r _ => p.AllEnumerated r) ?_ ?_
    (r := (p.typesNamed included r).1) (s := (p.typesNamed included r).2)
    (typesNamed_enumerated (tidy_of_lowerShare hl))
  · intro x d hd
    obtain ⟨e, he, rfl⟩ := Dict.exists_of_get?_mapValues hd
    have hr := Registry.SameLabels.mapValues
      (p.bindFunctions lowered.wrappers (p.typesNamed included r).1 (p.typesNamed included r).2).2.1
      fun _ d => shortenMethodNames_label d
    exact (hbound x e he).congr hr (shortenMethodNames_constants e)
  · intro _ w _ _ r s id _ h _
    exact h.modify (fun d => d.addMethod_label _ _) (fun d => addMethod_constants d _ _) id
  · intro _ _ _ _ _ _ _ h _
    exact h

def Reflects (p : Package) (x : Identity) (d : Declaration) : Prop :=
  ∀ base values, d.shape = .enumeration base values → ∃ e, p.document.types.get? x = some (.enumeration e) ∧
    managedNumber? .signed (e.size * 8) = some base ∧ values.map Constant.unnamed = constantsOf x e

theorem nameConstants_unnamed (vs : List Constant) (s : Scope) :
    (p.nameConstants vs s).1.map Constant.unnamed = vs.map Constant.unnamed := by
  induction vs generalizing s with
  | nil => rfl
  | cons v vs ih =>
    rw [nameConstants]
    by_cases he : p.excludes v.native = true
    · simp [he, ih]
    · simp [he, ih, Constant.unnamed]

theorem Reflects.nameConstantsOf {x : Identity} {d : Declaration} (h : p.Reflects x d) (s : Scope) :
    p.Reflects x (p.nameConstantsOf d s).1 := by
  unfold Package.nameConstantsOf
  split
  · rename_i base values hs
    intro base' values' hs'
    cases hs'
    obtain ⟨e, he, hb, hvalues⟩ := h base values hs
    exact ⟨e, he, hb, (nameConstants_unnamed values s).trans hvalues⟩
  · exact h

theorem reflects_of_tidy (ht : p.context.Tidy r) {x : Identity} {d : Declaration} (hd : r.get? x = some d) :
    p.Reflects x d := by
  intro base values hs
  obtain ⟨M, hM, -⟩ := ht.consistent x d hd
  have hbare : d.bare.shape = .enumeration base values := by rw [Declaration.bare, hs]; rfl
  generalize d.bare = e at hM hbare
  cases hM with
  | enumeration h hb =>
    cases hbare
    refine ⟨_, h.1, hb, ?_⟩
    rw [constantsOf, List.map_map]
    rfl
  | struct | union | typedef => cases hbare

/-- What holds of every lowered declaration and is kept by names and methods holds of every declaration of
a prepared package. -/
theorem prepare_declarations {Q : Identity → Declaration → Prop}
    (hlowered : ∀ r, p.context.Tidy r → ∀ x d, (p.supersede r).get? x = some d → Q x d)
    (hname : ∀ x (d : Declaration) managed, Q x d → Q x { d with managed })
    (hconstants : ∀ x d s, Q x d → Q x (p.nameConstantsOf d s).1)
    (hmethod : ∀ x d w candidate, Q x d → Q x (d.addMethod w candidate).2)
    (hshort : ∀ x d, Q x d → Q x d.shortenMethodNames) {included : List Package} {p' : Package}
    (h : p.prepare included = .ok p') : ∀ x d, p'.types.get? x = some d → Q x d := by
  obtain ⟨lowered, r, hl, rfl⟩ := prepare_ok.1 h
  have hnamed : ∀ x d, (p.typesNamed included r).1.get? x = some d → Q x d := by
    refine p.nameAllConstants_induct (P := fun r _ => ∀ x d, r.get? x = some d → Q x d) ?_ _
      (p.nameTypes_induct (P := fun r _ => ∀ x d, r.get? x = some d → Q x d) included ?_ _
        (hlowered r (tidy_of_lowerShare hl)))
    · intro r s id d h hd _
      exact Dict.forall_modify h (fun _ _ => hconstants id d s (h id d hd)) fun _ _ he => he
    · intro r s id d h _ _
      exact Dict.forall_modify h (fun e he => hname id e _ (h id e he)) fun _ _ he => he
  have hbound := p.bindFunctions_induct lowered.wrappers (P := fun _ _ r _ => ∀ x d, r.get? x = some d → Q x d)
    ?_ (fun _ h _ => h) (s := (p.typesNamed included r).2) hnamed
  · intro x d hd
    obtain ⟨e, he, rfl⟩ := Dict.exists_of_get?_mapValues hd
    exact hshort x e (hbound x e he)
  · intro _ w _ _ r s id _ h _
    exact Dict.forall_modify h (fun d hd => hmethod id d _ _ (h id d hd)) fun _ _ he => he

/-- The enumerations of a prepared package are those of the document. -/
theorem prepare_reflects {included : List Package} {p' : Package} (h : p.prepare included = .ok p') :
    ∀ x d, p'.types.get? x = some d → p.Reflects x d := by
  refine prepare_declarations ?_ (fun _ _ _ hd => hd) (fun _ _ s hd => hd.nameConstantsOf s) ?_ ?_ h
  · intro r ht x d hd
    obtain ⟨d₀, hd₀, hs⟩ := (supersededAll ht).of_get? hd
    unfold Reflects
    rw [hs.shape_eq]
    exact reflects_of_tidy ht hd₀
  · intro x d w candidate hd
    unfold Reflects Declaration.addMethod
    split <;> exact hd
  · intro x d hd
    unfold Reflects Declaration.shortenMethodNames
    split <;> exact hd

/-- The enumerator of the document that a constant stands for. -/
theorem exists_enumerator {included : List Package} {p' : Package} (h : p.prepare included = .ok p') {x : Identity}
    {d : Declaration} (hd : p'.types.get? x = some d) {v : Constant} (hv : v ∈ d.ownConstants) :
    ∃ e base, d.shape = .enumeration base d.ownConstants ∧ p.document.types.get? x = some (.enumeration e) ∧
      managedNumber? .signed (e.size * 8) = some base ∧
      ∃ w ∈ e.values, v.id = x ++ "::" ++ w.name ∧ v.native = w.name ∧ v.value = w.value := by
  cases hs : d.shape with
  | enumeration base values =>
    have hown : d.ownConstants = values := by rw [Declaration.ownConstants, hs]
    obtain ⟨e, he, hb, hvalues⟩ := prepare_reflects h x d hd base values hs
    have hm : v.unnamed ∈ constantsOf x e := hvalues ▸ List.mem_map_of_mem (hown ▸ hv)
    obtain ⟨w, hw, hwv⟩ := List.mem_map.1 hm
    have hid := congrArg Constant.id hwv
    have hnative := congrArg Constant.native hwv
    have hvalue := congrArg Constant.value hwv
    exact ⟨e, base, hown ▸ rfl, he, hb, w, hw, hid.symm, hnative.symm, hvalue.symm⟩
  | struct | union | synonym => simp [Declaration.ownConstants, hs] at hv

/-! ## Constants declared once -/

variable {included : List Package} {p' : Package}

/-- Whether nothing but what stands for an enumeration carries its named enumerators, and no two
enumerations have one of the same identity. -/
structure CarriedOnce (p : Package) : Prop where
  carriers : ∀ d ∈ (Emission.ofPackage p).types, ∀ {k x e}, p.types.EndsIn k d.id x → p.types.get? x = some e →
    (∃ v ∈ e.ownConstants, v.managed ≠ "") → p.types.target? x = some d
  identities : ∀ {x y d e}, p.types.get? x = some d → p.types.get? y = some e → ∀ v ∈ d.ownConstants,
    ∀ w ∈ e.ownConstants, v.managed ≠ "" → w.managed ≠ "" → v.id = w.id → x = y

theorem nodup_types {N : String → Prop} (h : p'.Resolved included N) : (Emission.ofPackage p').types.Nodup := by
  have hids : p'.types.values.map (·.id) = p'.types.keys := by
    rw [Dict.values, Dict.keys, List.map_map]
    refine List.map_congr_left fun e he => ?_
    exact h.id_eq ((p'.types.get?_eq_some_iff e.1 e.2).2 he)
  have hvalues : p'.types.values.Nodup := .of_map _ (hids ▸ p'.types.nodup_keys)
  exact (sortByText_perm _ _).nodup_iff.2 (hvalues.sublist List.filter_sublist)

/-- What stands for an enumeration carries it. -/
theorem Resolved.endsIn_target {N : String → Prop} (h : p'.Resolved included N) {x : Identity}
    {d t : Declaration} (hd : p'.types.get? x = some d) (he : d.isEnumeration = true) (ht : p'.types.target? x = some t) :
    ∃ k, p'.types.EndsIn k t.id x := by
  have hhere : p'.types.EndsIn 0 x x := .here hd he
  cases ha : d.supersededBy with
  | none =>
    rw [Registry.target?_of_none hd ha] at ht
    obtain rfl := Option.some.inj ht
    exact ⟨0, h.id_eq hd ▸ hhere⟩
  | some a =>
    obtain ⟨s, hs, hrep⟩ := h.replaced x d a hd ha
    rw [Registry.target?_of_some hd ha hs] at ht
    obtain rfl := Option.some.inj ht
    split
    · exact ⟨0, h.id_eq hd ▸ hhere⟩
    · obtain ⟨root, strategy, hshape⟩ := hrep.shape
      exact ⟨1, h.id_eq hs ▸ .step hs hshape hhere⟩

theorem mem_entryIds {d : Declaration} {r : Registry} {id : Identity} :
    id ∈ (d.constantEntries r).map (·.1.id) ↔ ∃ v ∈ d.constants r, v.managed ≠ "" ∧ v.id = id := by
  have hids : (d.constantEntries r).map (·.1.id) =
      ((d.constants r).filter (!·.managed.isEmpty)).map (·.id) := by
    rw [← Declaration.constantEntries_constants, List.map_map]
    rfl
  simp [hids, and_assoc]

section
variable (h : p.prepare included = .ok p')
include h

/-- An enumeration with a named enumerator is carried by what stands for it, which is declared. -/
theorem exists_carrier {x : Identity} {e : Declaration} (he : p'.types.get? x = some e) {v : Constant}
    (hv : v ∈ e.ownConstants) (hne : v.managed ≠ "") :
    ∃ t ∈ (Emission.ofPackage p').types, p'.types.target? x = some t ∧ ∃ k, p'.types.EndsIn k t.id x := by
  obtain ⟨id, name, hlabel, hname, hq⟩ := (prepare_enumerated h x e he).declared v hv hne
  obtain ⟨t, ht, heq⟩ := Option.map_eq_some_iff.1 hlabel
  cases heq
  obtain ⟨y, hy⟩ := Registry.exists_of_target? ht
  exact ⟨t, (prepare_wellNamed h).mem_types hy hname hq, ht,
    (prepare_resolved h).endsIn_target he (Registry.isEnumeration_of_mem hv) ht⟩

/-- What a declared type declares of an enumeration that it carries. -/
theorem mem_entryIds_of_endsIn {d : Declaration} (hd : d ∈ (Emission.ofPackage p').types) {k : Nat}
    {x : Identity} {e : Declaration} (hk : p'.types.EndsIn k d.id x) (he : p'.types.get? x = some e) {v : Constant}
    (hv : v ∈ e.ownConstants) (hne : v.managed ≠ "") : v.id ∈ (d.constantEntries p'.types).map (·.1.id) := by
  obtain ⟨⟨y, hy⟩, -⟩ := Package.mem_types.1 hd
  obtain rfl := (prepare_resolved h).id_eq hy
  exact mem_entryIds.2 ⟨v, (hk.constants hy he).symm ▸ hv, hne, rfl⟩

theorem exists_of_mem_entryIds {d : Declaration} (hd : d ∈ (Emission.ofPackage p').types) {id : Identity}
    (hid : id ∈ (d.constantEntries p'.types).map (·.1.id)) :
    ∃ k x e, p'.types.EndsIn k d.id x ∧ p'.types.get? x = some e ∧
      ∃ v ∈ e.ownConstants, v.managed ≠ "" ∧ v.id = id := by
  obtain ⟨⟨y, hy⟩, -⟩ := Package.mem_types.1 hd
  obtain rfl := (prepare_resolved h).id_eq hy
  obtain ⟨v, hv, hne, rfl⟩ := mem_entryIds.1 hid
  obtain ⟨k, x, e, hk, he, hmem⟩ := Registry.endsIn_of_mem_constants hy hv
  exact ⟨k, x, e, hk, he, v, hmem, hne, rfl⟩

theorem nodup_entryIds {d : Declaration} (hd : d ∈ (Emission.ofPackage p').types)
    (hnames : ∀ id e, p.document.types.get? id = some (.enumeration e) → (e.values.map (·.name)).Nodup) :
    ((d.constantEntries p'.types).map (·.1.id)).Nodup := by
  obtain ⟨⟨y, hy⟩, -⟩ := Package.mem_types.1 hd
  have hall : ((d.constants p'.types).map (·.id)).Nodup := by
    by_cases hnil : d.constants p'.types = []
    · rw [hnil]
      exact List.nodup_nil
    · obtain ⟨k, x, e, -, he, hc⟩ := Registry.endsIn_of_constants hy hnil
      rw [Declaration.constants, hc, (prepare_enumerated h x e he).ids]
      exact Native.Document.nodup_enumeratorIds fun e he => hnames x e he
  have hsub : ((d.constantEntries p'.types).map (·.1.id)).Sublist ((d.constants p'.types).map (·.id)) := by
    have hentries := (List.filter_sublist (p := fun v : Constant => !v.managed.isEmpty)
      (l := d.constants p'.types)).map (·.id)
    rw [← Declaration.constantEntries_constants, List.map_map] at hentries
    exact hentries
  exact hall.sublist hsub

theorem CarriedOnce.of_nodup (hnd : ((Emission.ofPackage p').constantEntries.map (·.1.id)).Nodup) :
    p'.CarriedOnce := by
  rw [Emission.constantEntries, List.map_flatMap, List.nodup_flatMap] at hnd
  -- two types that declare one enumerator are the same
  have same {d t : Declaration} (hd : d ∈ (Emission.ofPackage p').types)
      (ht : t ∈ (Emission.ofPackage p').types) {id : Identity} (hid : id ∈ (d.constantEntries p'.types).map (·.1.id))
      (hid' : id ∈ (t.constantEntries p'.types).map (·.1.id)) : d = t := by
    by_contra hne
    have hsymm : Std.Symm (Function.onFun List.Disjoint fun d : Declaration =>
        (d.constantEntries (Emission.ofPackage p').package.types).map (·.1.id)) :=
      ⟨fun _ _ hdisj _ ha hb => hdisj hb ha⟩
    exact hnd.2.forall hd ht hne hid hid'
  constructor
  case carriers =>
    intro d hd k x e hk he hnamed
    obtain ⟨v, hv, hne⟩ := hnamed
    obtain ⟨t, ht, htarget, j, hj⟩ := exists_carrier h he hv hne
    rw [same hd ht (mem_entryIds_of_endsIn h hd hk he hv hne) (mem_entryIds_of_endsIn h ht hj he hv hne)]
    exact htarget
  case identities =>
    intro x y d e hd he v hv w hw hvne hwne hid
    obtain ⟨t, ht, -, j, hj⟩ := exists_carrier h hd hv hvne
    obtain ⟨u, hu, -, k, hk⟩ := exists_carrier h he hw hwne
    have hwid := mem_entryIds_of_endsIn h hu hk he hw hwne
    obtain rfl := same ht hu (mem_entryIds_of_endsIn h ht hj hd hv hvne) (hid ▸ hwid)
    exact (hj.unique hk).2

theorem CarriedOnce.nodup (hc : p'.CarriedOnce)
    (hnames : ∀ id e, p.document.types.get? id = some (.enumeration e) → (e.values.map (·.name)).Nodup) :
    ((Emission.ofPackage p').constantEntries.map (·.1.id)).Nodup := by
  rw [Emission.constantEntries, List.map_flatMap, List.nodup_flatMap]
  refine ⟨fun d hd => nodup_entryIds h hd hnames, ?_⟩
  refine (nodup_types (prepare_resolved h)).pairwise_of_forall_ne fun d hd t ht hne id hid hid' => hne ?_
  obtain ⟨j, x, e, hj, he, v, hv, hvne, rfl⟩ := exists_of_mem_entryIds h hd hid
  obtain ⟨k, y, e', hk, he', w, hw, hwne, hwv⟩ := exists_of_mem_entryIds h ht hid'
  obtain rfl := hc.identities he he' v hv w hw hvne hwne hwv.symm
  have htarget := hc.carriers d hd hj he ⟨v, hv, hvne⟩
  rw [hc.carriers t ht hk he ⟨v, hv, hvne⟩] at htarget
  exact (Option.some.inj htarget).symm

/-- The lines of the enumerators stand in the source. Where no enumeration repeats a name, every
enumerator has one line at most exactly when each enumeration is carried once. -/
theorem constants_declared_once_iff
    (hnames : ∀ id e, p.document.types.get? id = some (.enumeration e) → (e.values.map (·.name)).Nodup) :
    ((Emission.ofPackage p').constantEntries.map (·.2)).Sublist (Emission.ofPackage p').bodyLines ∧
      (((Emission.ofPackage p').constantEntries.map (·.1.id)).Nodup ↔ p'.CarriedOnce) :=
  ⟨(Emission.ofPackage p').constantEntries_sublist, CarriedOnce.of_nodup h, fun hc => hc.nodup h hnames⟩

end

/-- An enumeration with two typedefs, the second of which stands for `base`. -/
def paints (base : Identity) : Package where
  settings := { name := "color" }
  filter := .all
  rules := {}
  ownedFiles := ["f"]
  document := {
    files := [⟨"f", "color.h"⟩]
    types := Dict.ofList [
      ("e", .enumeration { name := "color", file := "f", size := 4, values := [⟨"RED", 0⟩, ⟨"GREEN", 1⟩] }),
      ("i", .fundamental "int" 4),
      ("t1", .typedef { name := "color_t", file := "f", base := "e", root := some "e", size := 4 }),
      ("t2", .typedef { name := "colour_t", file := "f", base := base, root := some base, size := 4 })]
    functions := [
      { id := "f1", name := "paint", file := "f", returns := "t1", arguments := [], variadic := false
        callback := none },
      { id := "f2", name := "dye", file := "f", returns := "t2", arguments := [], variadic := false
        callback := none }]
    globals := [] }

theorem paints_names (base id : Identity) (e : Native.Enumeration)
    (he : (paints base).document.types.get? id = some (.enumeration e)) : (e.values.map (·.name)).Nodup := by
  have hnode := Dict.mem_of_get?_ofList he
  simp only [List.mem_cons, Prod.mk.injEq, reduceCtorEq, and_false, or_false, List.not_mem_nil,
    Native.TypeNode.enumeration.injEq] at hnode
  rw [hnode.2]
  decide

def unsortedEntries (p : Package) : List (Constant × String) :=
  (p.types.values.filter fun d => d.isEmitted && !p.excludes d.native).flatMap (·.constantEntries p.types)

theorem unsortedEntries_perm (p : Package) : (Emission.ofPackage p).constantEntries.Perm p.unsortedEntries :=
  (sortByText_perm _ _).flatMap_right _

/-- A typedef of a number declares no constants. -/
theorem paints_once : ∃ p, (paints "i").prepare [] = .ok p ∧ p.CarriedOnce ∧
    ((Emission.ofPackage p).constantEntries.map (·.2)).Perm ["\tRed Color = 0x0", "\tGreen Color = 0x1"] := by
  obtain ⟨p, hp, hentries⟩ := Native.Document.ok_of_any (x := (paints "i").prepare [])
    (f := fun p => decide (p.unsortedEntries.map (·.1.id) = ["e::RED", "e::GREEN"] ∧
      p.unsortedEntries.map (·.2) = ["\tRed Color = 0x0", "\tGreen Color = 0x1"])) (by decide +kernel)
  obtain ⟨hids, hlines⟩ := of_decide_eq_true hentries
  obtain ⟨-, hiff⟩ := constants_declared_once_iff hp (paints_names "i")
  refine ⟨p, hp, hiff.1 ?_, ?_⟩
  · rw [((unsortedEntries_perm p).map _).nodup_iff, hids]
    decide
  · exact hlines ▸ (unsortedEntries_perm p).map _

/-- A second typedef of the enumeration declares its constants once more. -/
theorem paints_twice : (paints "e").document.accept = .ok (paints "e").document ∧
    (∀ id e, (paints "e").document.types.get? id = some (.enumeration e) → (e.values.map (·.name)).Nodup) ∧
    ∃ p, (paints "e").prepare [] = .ok p ∧ ((Emission.ofPackage p).constantEntries.map (·.2)).Perm
        ["\tRed Color = 0x0", "\tGreen Color = 0x1", "\tRed Colour = 0x0", "\tGreen Colour = 0x1"] ∧
      ((Emission.ofPackage p).constantEntries.map (·.2)).Sublist (Emission.ofPackage p).bodyLines ∧
      ¬ ((Emission.ofPackage p).constantEntries.map (·.1.id)).Nodup := by
  refine ⟨rfl, paints_names "e", ?_⟩
  obtain ⟨p, hp, hentries⟩ := Native.Document.ok_of_any (x := (paints "e").prepare [])
    (f := fun p => decide (p.unsortedEntries.map (·.1.id) = ["e::RED", "e::GREEN", "e::RED", "e::GREEN"] ∧
      p.unsortedEntries.map (·.2) =
        ["\tRed Color = 0x0", "\tGreen Color = 0x1", "\tRed Colour = 0x0", "\tGreen Colour = 0x1"]))
    (by decide +kernel)
  obtain ⟨hids, hlines⟩ := of_decide_eq_true hentries
  refine ⟨p, hp, hlines ▸ (unsortedEntries_perm p).map _, (Emission.ofPackage p).constantEntries_sublist, ?_⟩
  rw [((unsortedEntries_perm p).map _).nodup_iff, hids]
  decide

end Package

end Bindery
