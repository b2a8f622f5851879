import Bindery.Package.Preparation
import Bindery.Proofs.Casing
import Bindery.Proofs.Scope

/-!
# The scope of a package

Each pass of naming is a sequence of single steps, so that what every step keeps holds when
the pass is over. All names come out of the one scope of the package, and a name that is
given stays bound to its key.
-/

namespace Bindery

open Native (Identity)

/-! ## Growing scopes -/

def Scope.Extends (s s' : Scope) : Prop :=
  ∀ ⦃id name⦄, s.nameOf? id = some name → s'.nameOf? id = some name

theorem Scope.Extends.refl (s : Scope) : s.Extends s := fun _ _ hn => hn

theorem Scope.Extends.trans {s s' s'' : Scope} (h : s.Extends s') (h' : s'.Extends s'') : s.Extends s'' :=
  fun _ _ hn => h' (h hn)

theorem Scope.extends_resolve (s : Scope) (id candidate : String) :
    s.Extends (s.resolve id candidate).2 := fun _ _ hn => Scope.nameOf?_resolve_mono hn id candidate

theorem Scope.resolve_bound_or_empty (s : Scope) (id candidate : String) :
    (s.resolve id candidate).1 = "" ∨
      (s.resolve id candidate).2.nameOf? id = some (s.resolve id candidate).1 := by
  by_cases h : (s.resolve id candidate).1 = ""
  · exact .inl h
  · exact .inr (Scope.nameOf?_resolve_self id candidate h)

def Declaration.ownConstants (d : Declaration) : List Constant :=
  match d.shape with
  | .enumeration _ values => values
  | _ => []

theorem Declaration.ownConstants_congr {d e : Declaration} (h : d.shape = e.shape) :
    d.ownConstants = e.ownConstants := by
  unfold ownConstants
  rw [h]

namespace Package

variable (p : Package)

/-! ## Passes -/

section
variable {P : Registry → Scope → Prop}

theorem nameTypes_induct (included : List Package)
    (step : ∀ {r s id d}, P r s → r.get? id = some d → isNameable d = true →
      P (r.modify id fun e => { e with managed := (p.nameType included d s).1 })
        (p.nameType included d s).2)
    (ids : List Identity) {r : Registry} {s : Scope} (h : P r s) :
    P (p.nameTypes included ids r s).1 (p.nameTypes included ids r s).2 := by
  induction ids generalizing r s with
  | nil => exact h
  | cons id ids ih =>
    rw [nameTypes]
    split
    · rename_i d hd
      obtain ⟨hget, hn⟩ := Option.filter_eq_some_iff.1 hd
      exact ih (step h hget hn)
    · exact ih h

theorem nameAllConstants_induct
    (step : ∀ {r s id d}, P r s → r.get? id = some d →
      d.isEnumeration = true ∧ (r.target? id).any (·.isEmitted) = true →
      P (r.modify id fun _ => (p.nameConstantsOf d s).1) (p.nameConstantsOf d s).2)
    (ids : List Identity) {r : Registry} {s : Scope} (h : P r s) :
    P (p.nameAllConstants ids r s).1 (p.nameAllConstants ids r s).2 := by
  induction ids generalizing r s with
  | nil => exact h
  | cons id ids ih =>
    rw [nameAllConstants]
    split
    · rename_i d hd
      split
      · rename_i hc
        exact ih (step h hd (Bool.and_eq_true_iff.1 hc))
      · exact ih h
    · exact ih h

end

/-- What holds of the functions bound so far and of those of them that are not methods. -/
theorem bindFunctions_induct {P : List Wrapper → List Wrapper → Registry → Scope → Prop}
    (ws : List Wrapper)
    (method : ∀ {bound w rest fs r s id}, ws = bound ++ w :: rest → P bound fs r s →
      w.receiver? r = some id →
      P (bound ++ [w]) fs (r.modify id fun d => (d.addMethod w.promote (p.candidate w.native)).2) s)
    (function : ∀ {bound w rest fs r s}, ws = bound ++ w :: rest → P bound fs r s →
      w.receiver? r = none →
      P (bound ++ [w]) (fs ++ [{ w with managed := (s.resolve w.id (p.candidate w.native)).1 }]) r
        (s.resolve w.id (p.candidate w.native)).2)
    {r : Registry} {s : Scope} (h : P [] [] r s) :
    P ws (p.bindFunctions ws r s).1 (p.bindFunctions ws r s).2.1 (p.bindFunctions ws r s).2.2 := by
  -- the recursion returns what is left of the list, so the induction starts after any beginning
  have from_here : ∀ (rest : List Wrapper) {bound fs r s}, ws = bound ++ rest → P bound fs r s →
      P ws (fs ++ (p.bindFunctions rest r s).1) (p.bindFunctions rest r s).2.1
        (p.bindFunctions rest r s).2.2 := by
    intro rest
    induction rest with
    | nil =>
      intro bound fs r s hws h
      rw [List.append_nil] at hws
      simpa [bindFunctions, hws] using h
    | cons w rest ih =>
      intro bound fs r s hws h
      have hnext : ws = (bound ++ [w]) ++ rest := by rw [hws, List.append_cons]
      rw [bindFunctions]
      split
      · rename_i id hr
        exact ih hnext (method hws h hr)
      · rename_i hr
        show P _ (fs ++ (_ :: _)) _ _
        rw [List.append_cons fs]
        exact ih hnext (function hws h hr)
  simpa using from_here ws (List.nil_append ws).symm h

theorem nameVariables_induct {P : List GlobalVariable → List GlobalVariable → Scope → Prop}
    (vs : List GlobalVariable)
    (step : ∀ {named v rest gs s}, vs = named ++ v :: rest → P named gs s →
      P (named ++ [v]) (gs ++ [{ v with managed := (s.resolve v.id (p.candidate v.native)).1 }])
        (s.resolve v.id (p.candidate v.native)).2)
    {s : Scope} (h : P [] [] s) : P vs (p.nameVariables vs s).1 (p.nameVariables vs s).2 := by
  have from_here : ∀ (rest : List GlobalVariable) {named gs s}, vs = named ++ rest → P named gs s →
      P vs (gs ++ (p.nameVariables rest s).1) (p.nameVariables rest s).2 := by
    intro rest
    induction rest with
    | nil =>
      intro named gs s hvs h
      rw [List.append_nil] at hvs
      simpa [nameVariables, hvs] using h
    | cons v rest ih =>
      intro named gs s hvs h
      rw [nameVariables]
      show P _ (gs ++ (_ :: _)) _
      rw [List.append_cons gs]
      exact ih (by rw [hvs, List.append_cons]) (step hvs h)
  simpa using from_here vs (List.nil_append vs).symm h

/-! ## Names of one declaration -/

variable (N : String → Prop)

/-- A scope of names that the package has made of native names with the property `N`. -/
structure Scoped (s : Scope) : Prop where
  bijective : s.Bijective
  made : ∀ {id name}, s.nameOf? id = some name →
    ∃ native k, N native ∧ p.candidate native ≠ "" ∧ name = Scope.underscored (p.candidate native) k

/-- A declaration whose own name, if it has one, is qualified or bound to its naming key, and
whose enumerators are named in the same way. -/
structure Named (s : Scope) (d : Declaration) : Prop where
  native : N d.native
  name : d.managed = "" ∨ Declaration.isQualified d.managed = true ∨
    s.nameOf? d.namingKey = some d.managed ∧ p.exports d.native d.file = true ∧ isNameable d = true
  constants : ∀ v ∈ d.ownConstants, N v.native ∧ (v.managed = "" ∨ s.nameOf? v.id = some v.managed)

variable {p N}

theorem Scoped.empty : p.Scoped N {} := ⟨.empty, fun h => by cases h⟩

theorem Scoped.resolve {s : Scope} (h : p.Scoped N s) {native : String} (hn : N native) (id : Identity) :
    p.Scoped N (s.resolve id (p.candidate native)).2 where
  bijective := h.bijective.resolve _ _
  made hx := by
    rcases Scope.nameOf?_resolve_cases hx with hx | ⟨-, hc, k, hk⟩
    · exact h.made hx
    · exact ⟨native, k, hn, hc, hk⟩

theorem Named.mono {s s' : Scope} {d : Declaration} (h : p.Named N s d) (hs : s.Extends s') :
    p.Named N s' d where
  native := h.native
  name := h.name.imp_right (Or.imp_right fun ⟨hb, he⟩ => ⟨hs hb, he⟩)
  constants v hv := (h.constants v hv).imp_right (Or.imp_right fun hb => hs hb)

/-- The name for a type of other packages is that of one which declares it, if there is one. -/
theorem qualifiedName_cases (included : List Package) (id : Identity) :
    ((∀ q ∈ included, q.globalName? id = none) ∧ qualifiedName included id = "") ∨
      ∃ q ∈ included, ∃ name, q.globalName? id = some name ∧
        qualifiedName included id = q.name ++ "." ++ name := by
  unfold qualifiedName
  cases h : included.findSome? fun q => (q.globalName? id).map fun name => q.name ++ "." ++ name with
  | none =>
    rw [List.findSome?_eq_none_iff] at h
    exact .inl ⟨fun q hq => Option.map_eq_none_iff.1 (h q hq), rfl⟩
  | some full =>
    obtain ⟨q, hq, hname⟩ := List.exists_of_findSome?_eq_some h
    obtain ⟨name, hglobal, rfl⟩ := Option.map_eq_some_iff.1 hname
    exact .inr ⟨q, hq, name, hglobal, rfl⟩

theorem isQualified_qualifiedName (included : List Package) (id : Identity) :
    qualifiedName included id = "" ∨ Declaration.isQualified (qualifiedName included id) = true := by
  rcases qualifiedName_cases included id with ⟨-, he⟩ | ⟨q, -, name, -, he⟩
  · exact .inl he
  · right
    rw [he]
    simp [Declaration.isQualified]

theorem Named.nameType {s : Scope} {d : Declaration} (h : p.Named N s d) (hs : p.Scoped N s)
    (hn : isNameable d = true) (included : List Package) :
    p.Scoped N (p.nameType included d s).2 ∧ s.Extends (p.nameType included d s).2 ∧
      p.Named N (p.nameType included d s).2 { d with managed := (p.nameType included d s).1 } := by
  unfold Package.nameType
  split
  · rename_i he
    have hext := s.extends_resolve d.namingKey (p.candidate d.native)
    refine ⟨hs.resolve h.native _, hext, h.native, ?_, (h.mono hext).constants⟩
    exact (s.resolve_bound_or_empty d.namingKey (p.candidate d.native)).imp_right
      fun hb => .inr ⟨hb, he, hn⟩
  · refine ⟨hs, .refl s, h.native, ?_, h.constants⟩
    exact (isQualified_qualifiedName included d.id).imp_right .inl

theorem nameConstants_named {vs : List Constant} {s : Scope} (hs : p.Scoped N s)
    (h : ∀ v ∈ vs, N v.native ∧ (v.managed = "" ∨ s.nameOf? v.id = some v.managed)) :
    p.Scoped N (p.nameConstants vs s).2 ∧ s.Extends (p.nameConstants vs s).2 ∧
      ∀ v ∈ (p.nameConstants vs s).1, N v.native ∧
        (v.managed = "" ∨ (p.nameConstants vs s).2.nameOf? v.id = some v.managed) := by
  induction vs generalizing s with
  | nil => exact ⟨hs, .refl s, nofun⟩
  | cons v vs ih =>
    obtain ⟨hnative, hname⟩ := h v List.mem_cons_self
    have hrest := fun u hu => h u (List.mem_cons_of_mem v hu)
    rw [nameConstants]
    by_cases he : p.excludes v.native = true
    · obtain ⟨hs', hext, hvs⟩ := ih hs hrest
      rw [if_pos he]
      refine ⟨hs', hext, fun u hu => ?_⟩
      rcases List.mem_cons.1 hu with rfl | hu
      · exact ⟨hnative, hname.imp_right fun hb => hext hb⟩
      · exact hvs u hu
    · have hext := s.extends_resolve v.id (p.candidate v.native)
      obtain ⟨hs', hext', hvs⟩ := ih (hs.resolve hnative v.id)
        fun u hu => (hrest u hu).imp_right (Or.imp_right fun hb => hext hb)
      rw [if_neg he]
      refine ⟨hs', hext.trans hext', fun u hu => ?_⟩
      rcases List.mem_cons.1 hu with rfl | hu
      · exact ⟨hnative, (s.resolve_bound_or_empty v.id _).imp_right fun hb => hext' hb⟩
      · exact hvs u hu

theorem Named.nameConstantsOf {s : Scope} {d : Declaration} (h : p.Named N s d) (hs : p.Scoped N s) :
    p.Scoped N (p.nameConstantsOf d s).2 ∧ s.Extends (p.nameConstantsOf d s).2 ∧
      p.Named N (p.nameConstantsOf d s).2 (p.nameConstantsOf d s).1 := by
  unfold Package.nameConstantsOf
  split
  · rename_i base values hd
    have hvs : d.ownConstants = values := by rw [Declaration.ownConstants, hd]
    obtain ⟨hs', hext, hall⟩ := nameConstants_named hs (hvs ▸ h.constants)
    exact ⟨hs', hext, h.native, (h.mono hext).name, hall⟩
  · exact ⟨hs, .refl s, h⟩

end Package

end Bindery
