import Bindery.Proofs.Package.Constants
import Bindery.Proofs.Package.Takeovers

/-!
# Keys of names

The scope of a package is asked for a name once for each type, enumerator, function and
variable that the package names itself. A key that is asked for twice gets one name for both
declarations. Types and functions always have keys of their own; variables, enumerators and
declarations of different kinds need not.
-/

namespace Bindery

open Native (Identity)

theorem Registry.Rel.keys {P : Identity → Declaration → Declaration → Prop} {r₀ r : Registry}
    (h : Registry.Rel P r₀ r) : r.keys = r₀.keys := by
  have hsame : r.mapValues (fun _ _ => ()) = r₀.mapValues fun _ _ => () := by
    apply Dict.ext_get?
    intro x
    rw [Dict.get?_mapValues, Dict.get?_mapValues]
    have hx := h x
    generalize r₀.get? x = o, r.get? x = o' at hx
    cases hx <;> rfl
  rw [← Dict.keys_mapValues (fun _ _ => ()) r, hsame, Dict.keys_mapValues]

def Scope.asked (s : Scope) (requests : List (Identity × String)) : Scope :=
  requests.foldl (fun s q => (s.resolve q.1 q.2).2) s

theorem Scope.asked_append (s : Scope) (qs qs' : List (Identity × String)) :
    s.asked (qs ++ qs') = (s.asked qs).asked qs' := List.foldl_append

/-! ## What a registry has to be named -/

/-- What of a declaration decides the names of enumerators, once types have theirs. -/
def Declaration.inquiry (d : Declaration) : Declaration × List (Identity × String) :=
  (d.heading, d.ownConstants.map fun v => (v.id, v.native))

def Registry.SameInquiries (r r' : Registry) : Prop :=
  ∀ x, (r'.get? x).map (·.inquiry) = (r.get? x).map (·.inquiry)

theorem Registry.SameInquiries.refl (r : Registry) : r.SameInquiries r := fun _ => rfl

theorem Registry.SameInquiries.modify {r₀ r : Registry} (h : r₀.SameInquiries r) {id : Identity}
    {f : Declaration → Declaration} (hf : ∀ d, r.get? id = some d → (f d).inquiry = d.inquiry) :
    r₀.SameInquiries (r.modify id f) := by
  intro x
  rw [← h x, Registry.map_get?_modify]
  refine Option.map_congr fun d hd => ?_
  by_cases hx : x = id
  · subst hx
    rw [if_pos rfl, hf d hd]
  · rw [if_neg hx]

def Registry.headings (r : Registry) : Registry := r.mapValues fun _ d => d.heading

theorem Registry.target?_headings (r : Registry) (x : Identity) :
    r.headings.target? x = (r.target? x).map (·.heading) := by
  unfold target? headings
  rw [Dict.get?_mapValues]
  cases r.get? x with
  | none => rfl
  | some d =>
    cases hs : d.supersededBy with
    | none => simp [Declaration.heading, hs]
    | some a =>
      have hs' : d.heading.supersededBy = some a := hs
      simp only [Option.bind_eq_bind, Option.bind_some, Option.map_some, hs, hs', Dict.get?_mapValues]
      cases r.get? a with
      | none => rfl
      | some s =>
        have hm : s.heading.managed = s.managed := rfl
        by_cases hne : s.managed.isEmpty <;> simp [hne, hm]

namespace Package

variable (p : Package)

def typeRequests (r : Registry) (x : Identity) : List (Identity × String) :=
  match r.get? x with
  | some d =>
    if isNameable d && p.exports d.native d.file then [(d.namingKey, p.candidate d.native)] else []
  | none => []

def constantRequests (r : Registry) (x : Identity) : List (Identity × String) :=
  match r.get? x with
  | some d =>
    if d.isEnumeration && (r.target? x).any (·.isEmitted) then
      (d.ownConstants.filter fun v => !p.excludes v.native).map fun v => (v.id, p.candidate v.native)
    else []
  | none => []

/-- What the scope of a prepared package has been asked for: the names of types, enumerators,
functions and variables. -/
def requests : List (List (Identity × String)) :=
  [p.types.keys.flatMap (p.typeRequests p.types), p.types.keys.flatMap (p.constantRequests p.types),
    p.functions.map fun w => (w.id, p.candidate w.native),
    p.globals.map fun v => (v.id, p.candidate v.native)]

variable {p}

theorem typeRequests_congr {r r' : Registry} {x : Identity}
    (h : (r'.get? x).map (·.outline) = (r.get? x).map (·.outline)) :
    p.typeRequests r' x = p.typeRequests r x := by
  have outlined (r : Registry) : p.typeRequests r x =
      match (r.get? x).map (·.outline) with
      | some d =>
        if isNameable d && p.exports d.native d.file then [(d.namingKey, p.candidate d.native)] else []
      | none => [] := by
    unfold typeRequests
    cases r.get? x <;> rfl
  rw [outlined, h, ← outlined]

theorem constantRequests_congr {r r' : Registry} (h : r.SameInquiries r') (x : Identity) :
    p.constantRequests r' x = p.constantRequests r x := by
  have inquired (r : Registry) : p.constantRequests r x =
      match (r.get? x).map (·.inquiry) with
      | some (d, names) =>
        if d.isEnumeration && (r.headings.target? x).any (·.isEmitted) then
          (names.filter fun v => !p.excludes v.2).map fun v => (v.1, p.candidate v.2)
        else []
      | none => [] := by
    unfold constantRequests
    cases r.get? x with
    | none => rfl
    | some d =>
      have henum : d.heading.isEnumeration = d.isEnumeration := by
        unfold Declaration.isEnumeration Declaration.heading Shape.withoutConstants
        cases d.shape <;> rfl
      have hemitted : ((r.target? x).map (·.heading)).any (·.isEmitted) = (r.target? x).any (·.isEmitted) := by
        rw [Option.any_map]
        rfl
      rw [Registry.target?_headings]
      simp only [Option.map_some, Declaration.inquiry, henum, hemitted, List.filter_map, List.map_map]
      rfl
  have headings : r'.headings = r.headings := by
    apply Dict.ext_get?
    intro y
    have := congrArg (Option.map Prod.fst) (h y)
    simpa [Registry.headings, Function.comp_def, Declaration.inquiry] using this
  rw [inquired, h x, headings, ← inquired]

/-! ## Passes -/

theorem nameType_asked (included : List Package) {r : Registry} {x : Identity} {d : Declaration}
    (hd : r.get? x = some d) (hn : isNameable d = true) (s : Scope) :
    (p.nameType included d s).2 = s.asked (p.typeRequests r x) := by
  unfold nameType typeRequests
  rw [hd]
  by_cases he : p.exports d.native d.file = true
  · simp [he, hn, Scope.asked]
  · simp [he, Scope.asked]

theorem nameTypes_asked (included : List Package) (ids : List Identity) (r : Registry) (s : Scope) :
    (p.nameTypes included ids r s).2 = s.asked (ids.flatMap (p.typeRequests r)) := by
  induction ids generalizing r s with
  | nil => rfl
  | cons id ids ih =>
    rw [nameTypes, List.flatMap_cons, Scope.asked_append]
    cases hd : (r.get? id).filter isNameable with
    | some d =>
      obtain ⟨hget, hn⟩ := Option.filter_eq_some_iff.1 hd
      have hrest : ∀ m, p.typeRequests (r.modify id fun d => { d with managed := m }) = p.typeRequests r := by
        intro m
        funext x
        apply typeRequests_congr
        rw [Registry.map_get?_modify]
        refine Option.map_congr fun e _ => ?_
        split <;> rfl
      simp only
      rw [ih, hrest, nameType_asked included hget hn]
    | none =>
      have hnone : p.typeRequests r id = [] := by
        unfold typeRequests
        split
        · rename_i d hget
          have := Option.filter_eq_none_iff.1 hd d hget
          simp [Bool.not_eq_true _ ▸ this]
        · rfl
      rw [hnone]
      exact ih r s

theorem nameConstants_asked (vs : List Constant) (s : Scope) : (p.nameConstants vs s).2 =
    s.asked ((vs.filter fun v => !p.excludes v.native).map fun v => (v.id, p.candidate v.native)) := by
  induction vs generalizing s with
  | nil => rfl
  | cons v vs ih =>
    rw [nameConstants]
    by_cases he : p.excludes v.native = true
    · simp [he, ih]
    · simp [he, ih, Scope.asked]

theorem nameConstantsOf_asked (d : Declaration) (s : Scope) : (p.nameConstantsOf d s).2 =
    s.asked ((d.ownConstants.filter fun v => !p.excludes v.native).map fun v => (v.id, p.candidate v.native)) := by
  unfold nameConstantsOf Declaration.ownConstants
  cases d.shape with
  | enumeration base values => exact nameConstants_asked values s
  | struct | union | synonym => rfl

theorem nameConstantsOf_inquiry (d : Declaration) (s : Scope) :
    (p.nameConstantsOf d s).1.inquiry = d.inquiry := by
  refine Prod.ext (p.heading_nameConstantsOf d s) ?_
  unfold nameConstantsOf
  split
  · rename_i hs
    simp [Declaration.inquiry, Declaration.ownConstants, hs, nameConstants_names]
  · rfl

theorem nameAllConstants_asked (ids : List Identity) (r : Registry) (s : Scope) :
    (p.nameAllConstants ids r s).2 = s.asked (ids.flatMap (p.constantRequests r)) := by
  induction ids generalizing r s with
  | nil => rfl
  | cons id ids ih =>
    rw [nameAllConstants, List.flatMap_cons, Scope.asked_append]
    cases hd : r.get? id with
    | none =>
      have hnone : p.constantRequests r id = [] := by
        rw [constantRequests, hd]
      rw [hnone]
      exact ih r s
    | some d =>
      by_cases hc : (d.isEnumeration && (r.target? id).any (·.isEmitted)) = true
      · have hfirst : (p.nameConstantsOf d s).2 = s.asked (p.constantRequests r id) := by
          rw [nameConstantsOf_asked, constantRequests, hd]
          simp only [if_pos hc]
        have hrest : p.constantRequests (r.modify id fun _ => (p.nameConstantsOf d s).1) = p.constantRequests r := by
          refine funext (constantRequests_congr ((Registry.SameInquiries.refl r).modify fun e he => ?_))
          obtain rfl := Option.some.inj (hd.symm.trans he)
          exact nameConstantsOf_inquiry d s
        simp only [if_pos hc]
        rw [ih, hrest, hfirst]
      · have hnone : p.constantRequests r id = [] := by
          rw [constantRequests, hd]
          simp only [if_neg hc]
        simp only [if_neg hc]
        rw [hnone]
        exact ih r s

theorem bindFunctions_asked (ws : List Wrapper) (r : Registry) (s : Scope) : (p.bindFunctions ws r s).2.2 =
    s.asked ((p.bindFunctions ws r s).1.map fun w => (w.id, p.candidate w.native)) := by
  refine p.bindFunctions_induct ws (P := fun _ fs _ s' => s' =
    s.asked (fs.map fun w => (w.id, p.candidate w.native))) ?_ ?_ rfl
  · intro _ _ _ _ _ _ _ _ h _
    exact h
  · intro _ w _ fs _ s' _ h _
    rw [List.map_append, Scope.asked_append, ← h]
    rfl

theorem nameVariables_asked (vs : List GlobalVariable) (s : Scope) : (p.nameVariables vs s).2 =
    s.asked ((p.nameVariables vs s).1.map fun v => (v.id, p.candidate v.native)) := by
  refine p.nameVariables_induct vs (P := fun _ gs s' => s' =
    s.asked (gs.map fun v => (v.id, p.candidate v.native))) ?_ rfl
  intro _ v _ gs s' _ h
  rw [List.map_append, Scope.asked_append, ← h]
  rfl

/-! ## Preparation -/

theorem keys_nameTypes (included : List Package) (ids : List Identity) (r : Registry) (s : Scope) :
    (p.nameTypes included ids r s).1.keys = r.keys := by
  refine p.nameTypes_induct (P := fun r' _ => r'.keys = r.keys) included ?_ ids rfl
  intro _ _ _ _ h _ _
  rw [Dict.keys_modify, h]

theorem sameInquiries_typesNamed (included : List Package) (r : Registry) :
    (p.nameTypes included (p.supersede r).keys (p.supersede r) {}).1.SameInquiries (p.typesNamed included r).1 := by
  refine p.nameAllConstants_induct (P := fun r' _ =>
    (p.nameTypes included (p.supersede r).keys (p.supersede r) {}).1.SameInquiries r') ?_ _ (.refl _)
  intro r' s id d h hd _
  refine h.modify fun e he => ?_
  obtain rfl := Option.some.inj (hd.symm.trans he)
  exact nameConstantsOf_inquiry d s

theorem sameInquiries_assignNames (included : List Package) (lowered : Lowered) (r : Registry) :
    (p.typesNamed included r).1.SameInquiries (p.assignNames included lowered r).types := by
  have bound : (p.typesNamed included r).1.SameInquiries
      (p.bindFunctions lowered.wrappers (p.typesNamed included r).1 (p.typesNamed included r).2).2.1 := by
    refine p.bindFunctions_induct lowered.wrappers
      (P := fun _ _ r' _ => (p.typesNamed included r).1.SameInquiries r') ?_ ?_ (.refl _)
    · intro _ w _ _ r' s id _ h _
      refine h.modify fun d _ => Prod.ext (d.heading_addMethod _ _) ?_
      simp only [Declaration.inquiry, addMethod_constants]
    · intro _ _ _ _ _ _ _ h _
      exact h
  intro x
  rw [← bound x]
  show ((Dict.mapValues _ _).get? x).map _ = _
  rw [Dict.get?_mapValues, Option.map_map]
  refine Option.map_congr fun d _ => Prod.ext d.heading_shortenMethodNames ?_
  simp only [Function.comp_apply, Declaration.inquiry, shortenMethodNames_constants]

section
variable {included : List Package} {p' : Package} (h : p.prepare included = .ok p')
include h

/-- The scope of a prepared package has been asked for nothing else. -/
theorem prepare_asked : p'.scope = Scope.asked {} p'.requests.flatten := by
  obtain ⟨lowered, r, hl, rfl⟩ := prepare_ok.1 h
  have ht := tidy_of_lowerShare hl
  have hosted : p.AllHosted (p.supersede r) (p.assignNames included lowered r).types :=
    ((AllHosted.supersede ht).typesNamed.bindFunctions _ _).shortenMethodNames
  have htypes : p.typeRequests (p.assignNames included lowered r).types = p.typeRequests (p.supersede r) := by
    funext x
    apply typeRequests_congr
    have hx := hosted x
    generalize (p.supersede r).get? x = o, (p.assignNames included lowered r).types.get? x = o' at hx
    cases hx with
    | none => rfl
    | some hd => exact congrArg some hd.1
  have hconstants : p.constantRequests (p.assignNames included lowered r).types =
      p.constantRequests (p.nameTypes included (p.supersede r).keys (p.supersede r) {}).1 := by
    funext x
    rw [constantRequests_congr (sameInquiries_assignNames included lowered r),
      constantRequests_congr (sameInquiries_typesNamed included r)]
  have hnamed : (p.typesNamed included r).2 = (Scope.asked {}
      ((p.supersede r).keys.flatMap (p.typeRequests (p.supersede r)))).asked
        ((p.supersede r).keys.flatMap (p.constantRequests (p.assignNames included lowered r).types)) := by
    rw [typesNamed, nameAllConstants_asked, keys_nameTypes, nameTypes_asked, hconstants]
  let bound := p.bindFunctions lowered.wrappers (p.typesNamed included r).1 (p.typesNamed included r).2
  let globals := (p.nameVariables lowered.globals bound.2.2).1
  calc (p.assignNames included lowered r).scope
    _ = (p.nameVariables lowered.globals bound.2.2).2 := rfl
    _ = bound.2.2.asked (globals.map fun v => (v.id, p.candidate v.native)) := nameVariables_asked _ _
    _ = ((p.typesNamed included r).2.asked (bound.1.map fun w => (w.id, p.candidate w.native))).asked
          (globals.map fun v => (v.id, p.candidate v.native)) := by rw [← bindFunctions_asked]
    _ = Scope.asked {} (List.flatten [
          (p.supersede r).keys.flatMap (p.typeRequests (p.supersede r)),
          (p.supersede r).keys.flatMap (p.constantRequests (p.assignNames included lowered r).types),
          bound.1.map fun w => (w.id, p.candidate w.native),
          globals.map fun v => (v.id, p.candidate v.native)]) := by
      rw [hnamed]
      simp only [List.flatten_cons, List.flatten_nil, List.append_nil, Scope.asked_append]
    _ = Scope.asked {} (p.assignNames included lowered r).requests.flatten := by
      rw [← htypes, ← hosted.keys]
      rfl

end

/-! ## Distinct keys -/

section
variable {included : List Package} {p' : Package} {N : String → Prop}

theorem mem_typeKeys {r : Registry} {x key : Identity} (h : key ∈ (p.typeRequests r x).map (·.1)) :
    ∃ d, r.get? x = some d ∧ d.supersededBy = none ∧ d.namingKey = key := by
  unfold typeRequests at h
  split at h
  · rename_i d hd
    split at h
    · rename_i hc
      simp only [isNameable, Bool.and_eq_true, Option.isNone_iff_eq_none] at hc
      exact ⟨d, hd, hc.1.1.2, (List.mem_singleton.1 h).symm⟩
    · cases h
  · cases h

/-- Of two declarations that nothing supersedes, one at most stands for an identity. -/
theorem Resolved.namingKey_inj (hr : p'.Resolved included N) {x y : Identity} {d e : Declaration}
    (hd : p'.types.get? x = some d) (he : p'.types.get? y = some e) (hdsup : d.supersededBy = none)
    (hesup : e.supersededBy = none) (hkey : d.namingKey = e.namingKey) : x = y := by
  -- what has been assumed by a typedef is superseded by it
  have own : ∀ {x y d e l}, p'.types.get? x = some d → p'.types.get? y = some e → d.assumed = some l →
      e.supersededBy = none → e.id ≠ l := by
    intro x y d e l hd he hl hsup hid
    obtain ⟨e', he', -, hby⟩ := hr.assumed hd hl
    rw [← hid, hr.id_eq he] at he'
    obtain rfl := Option.some.inj (he.symm.trans he')
    rw [hsup] at hby
    cases hby
  unfold Declaration.namingKey at hkey
  cases hl : d.assumed with
  | none =>
    cases hm : e.assumed with
    | none =>
      rw [hl, hm] at hkey
      exact (hr.id_eq hd).symm.trans (Eq.trans hkey (hr.id_eq he))
    | some m =>
      rw [hl, hm] at hkey
      exact absurd hkey (own he hd hm hdsup)
  | some l =>
    cases hm : e.assumed with
    | none =>
      rw [hl, hm] at hkey
      exact absurd hkey.symm (own hd he hl hesup)
    | some m =>
      rw [hl, hm] at hkey
      obtain rfl : l = m := hkey
      obtain ⟨t, ht, -, hby⟩ := hr.assumed hd hl
      obtain ⟨t', ht', -, hby'⟩ := hr.assumed he hm
      obtain rfl := Option.some.inj (ht.symm.trans ht')
      exact Option.some.inj (hby.symm.trans hby')

/-- A type has its key to itself among the types. -/
theorem Resolved.nodup_typeKeys (hr : p'.Resolved included N) :
    ((p'.types.keys.flatMap (p'.typeRequests p'.types)).map (·.1)).Nodup := by
  rw [List.map_flatMap, List.nodup_flatMap]
  constructor
  · intro x _
    unfold typeRequests
    split
    · split <;> simp
    · simp
  · apply p'.types.nodup_keys.imp
    intro x y hne key hx hy
    obtain ⟨d, hd, hdsup, hdk⟩ := mem_typeKeys hx
    obtain ⟨e, he, hesup, hek⟩ := mem_typeKeys hy
    exact hne (hr.namingKey_inj hd he hdsup hesup (hdk.trans hek.symm))

variable {raw : Native.Document}

theorem nodup_functionKeys (hdoc : raw.accept = .ok p.document) (h : p.prepare included = .ok p') :
    (p'.functions.map (·.id)).Nodup := by
  have hids := ((prepare_conserves h (wanted_nodup hdoc)).1).map Prod.fst
  rw [List.map_map, List.map_map] at hids
  have hall : ((p'.functions ++ p'.types.methods).map (·.id)).Nodup := hids.nodup_iff.2 (wanted_nodup hdoc)
  exact hall.sublist ((List.sublist_append_left _ _).map _)

/-- The key of an enumerator is made of its enumeration and its name. -/
theorem constant_id (h : p.prepare included = .ok p') {x : Identity} {d : Declaration}
    (hd : p'.types.get? x = some d) : ∀ v ∈ d.ownConstants, v.id = x ++ "::" ++ v.native := by
  intro v hv
  obtain ⟨_, _, -, -, -, w, -, hid, hnative, -⟩ := exists_enumerator h hd hv
  rw [hid, hnative]

variable (p p') in
/-- Whether variables, enumerators and declarations of different kinds have keys of their own. -/
structure KeptApart : Prop where
  globals : (p.wantedVariables.map (·.id)).Nodup
  enumerators : ∀ {x d}, p'.types.get? x = some d → p'.constantRequests p'.types x ≠ [] →
    ((d.ownConstants.filter fun v => !p'.excludes v.native).map (·.native)).Nodup
  enumerations : ∀ {x y}, x ≠ y → ((p'.constantRequests p'.types x).map (·.1)).Disjoint
    ((p'.constantRequests p'.types y).map (·.1))
  kinds : (p'.requests.map (·.map (·.1))).Pairwise List.Disjoint

/-- The keys of one enumeration differ where the names of its enumerators do. -/
theorem nodup_constantKeys (h : p.prepare included = .ok p') {x : Identity} {d : Declaration}
    (hd : p'.types.get? x = some d) (hne : p'.constantRequests p'.types x ≠ []) :
    ((p'.constantRequests p'.types x).map (·.1)).Nodup ↔
      ((d.ownConstants.filter fun v => !p'.excludes v.native).map (·.native)).Nodup := by
  have hkeys : (p'.constantRequests p'.types x).map (·.1) =
      ((d.ownConstants.filter fun v => !p'.excludes v.native).map (·.native)).map (x ++ "::" ++ ·) := by
    unfold constantRequests at hne ⊢
    rw [hd] at hne ⊢
    by_cases hc : (d.isEnumeration && (p'.types.target? x).any (·.isEmitted)) = true
    · simp only [if_pos hc, List.map_map]
      refine List.map_congr_left fun v hv => ?_
      exact constant_id h hd v (List.mem_filter.1 hv).1
    · simp only [if_neg hc] at hne
      exact absurd rfl hne
  rw [hkeys]
  exact List.nodup_map_iff fun a b hab => (String.append_right_inj _).1 hab

/-- The scope of a prepared package is asked for keys that differ if variables, enumerators and
declarations of different kinds keep apart. Types and functions always do. -/
theorem naming_keys_distinct_iff (hdoc : raw.accept = .ok p.document) (h : p.prepare included = .ok p') :
    p'.scope = Scope.asked {} p'.requests.flatten ∧
      ((p'.requests.flatten.map (·.1)).Nodup ↔ p.KeptApart p') := by
  refine ⟨prepare_asked h, ?_⟩
  have hglobals : (p'.globals.map fun v => (v.id, p'.candidate v.native)).map (·.1) =
      p.wantedVariables.map (·.id) := by
    have hids := congrArg (List.map Prod.fst) (prepare_globals h).1
    rw [List.map_map, List.map_map] at hids
    rw [List.map_map]
    exact hids
  have hfunctions : ((p'.functions.map fun w => (w.id, p'.candidate w.native)).map (·.1)).Nodup := by
    rw [List.map_map]
    exact nodup_functionKeys hdoc h
  rw [List.map_flatten, List.nodup_flatten]
  constructor
  · rintro ⟨hall, hkinds⟩
    have hconstants : ((p'.types.keys.flatMap (p'.constantRequests p'.types)).map (·.1)).Nodup :=
      hall _ (by simp [requests])
    rw [List.map_flatMap, List.nodup_flatMap] at hconstants
    obtain ⟨heach, hpair⟩ := hconstants
    have mem : ∀ {x key}, key ∈ (p'.constantRequests p'.types x).map (·.1) → x ∈ p'.types.keys := by
      intro x key hm
      unfold constantRequests at hm
      cases hd : p'.types.get? x with
      | none => rw [hd] at hm; cases hm
      | some d => rw [Dict.mem_keys_iff, Dict.contains, hd, Option.isSome_some]
    constructor
    · rw [← hglobals]
      exact hall _ (by simp [requests])
    · intro x d hd hne
      refine (nodup_constantKeys h hd hne).1 (heach x ?_)
      rw [Dict.mem_keys_iff, Dict.contains, hd, Option.isSome_some]
    · intro x y hne key hx hy
      have : Std.Symm (Function.onFun List.Disjoint fun x => (p'.constantRequests p'.types x).map (·.1)) :=
        ⟨fun _ _ hd _ hx hy => hd hy hx⟩
      exact hpair.forall (mem hx) (mem hy) hne hx hy
    · exact hkinds
  · intro hk
    refine ⟨?_, hk.kinds⟩
    simp only [requests, List.map_cons, List.map_nil, List.forall_mem_cons, List.not_mem_nil, false_implies,
      implies_true, and_true]
    refine ⟨(prepare_resolved h).nodup_typeKeys, ?_, hfunctions, hglobals ▸ hk.globals⟩
    rw [List.map_flatMap, List.nodup_flatMap]
    constructor
    · intro x _
      by_cases hne : p'.constantRequests p'.types x = []
      · simp [hne]
      · cases hd : p'.types.get? x with
        | none => exact absurd (by rw [constantRequests, hd]) hne
        | some d => exact (nodup_constantKeys h hd hne).2 (hk.enumerators hd hne)
    · exact p'.types.nodup_keys.imp fun hne => hk.enumerations hne

end

/-- An enumeration, a function, and two variables of which the second has the identity `id`. -/
def gauges (id : Identity) : Package where
  settings := { name := "gauges" }
  filter := .all
  rules := {}
  ownedFiles := ["f"]
  document := {
    files := [⟨"f", "gauges.h"⟩]
    types := Dict.ofList [
      ("i", .fundamental "int" 4),
      ("u", .enumeration { name := "unit", file := "f", size := 4, values := [⟨"BAR", 0⟩, ⟨"PASCAL", 1⟩] })]
    functions := [
      { id := "f1", name := "read", file := "f", returns := "i", variadic := false, callback := none
        arguments := [⟨"unit", "u", .unset⟩] }]
    globals := [
      { id := "v", name := "level", file := "f", type := "i" },
      { id, name := "pressure", file := "f", type := "i" }] }

theorem gauges_kept_apart : (gauges "w").document.accept = .ok (gauges "w").document ∧
    ∃ p, (gauges "w").prepare [] = .ok p ∧ p.scope = Scope.asked {} p.requests.flatten ∧
      (gauges "w").KeptApart p ∧ p.requests = [[("u", "Unit")], [("u::BAR", "Bar"), ("u::PASCAL", "Pascal")],
        [("f1", "Read")], [("v", "Level"), ("w", "Pressure")]] := by
  have hdoc : (gauges "w").document.accept = .ok (gauges "w").document := rfl
  obtain ⟨p, hp, hrequests⟩ := Native.Document.ok_of_any (x := (gauges "w").prepare [])
    (f := fun p => decide (p.requests = [[("u", "Unit")], [("u::BAR", "Bar"), ("u::PASCAL", "Pascal")],
      [("f1", "Read")], [("v", "Level"), ("w", "Pressure")]])) (by decide +kernel)
  have hrequests := of_decide_eq_true hrequests
  obtain ⟨hscope, hiff⟩ := naming_keys_distinct_iff hdoc hp
  refine ⟨hdoc, p, hp, hscope, hiff.1 ?_, hrequests⟩
  rw [hrequests]
  decide

/-- Nothing keeps the variables of an accepted document from having one identity, and then they
have one name. -/
theorem gauges_share_a_key : (gauges "v").document.accept = .ok (gauges "v").document ∧
    ∃ p, (gauges "v").prepare [] = .ok p ∧ ¬ (p.requests.flatten.map (·.1)).Nodup ∧
      p.globals.map (fun v => (v.native, v.managed)) = [("level", "Level"), ("pressure", "Level")] := by
  refine ⟨rfl, ?_⟩
  obtain ⟨p, hp, hnames⟩ := Native.Document.ok_of_any (x := (gauges "v").prepare [])
    (f := fun p => decide (¬ (p.requests.flatten.map fun q : Identity × String => q.1).Nodup ∧
      p.globals.map (fun v => (v.native, v.managed)) = [("level", "Level"), ("pressure", "Level")]))
    (by decide +kernel)
  exact ⟨p, hp, of_decide_eq_true hnames⟩

end Package

end Bindery
