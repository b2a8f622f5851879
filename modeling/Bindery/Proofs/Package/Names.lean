import Bindery.Proofs.Package.Naming
import Bindery.Proofs.Package.Preparation
import Bindery.Proofs.Package.Supersession

/-!
# Names of a package

All types, enumerators, functions and variables of a prepared package are named in its one
scope, so their names differ where their keys do. No such name is that of a trampoline,
which has an underscore before its end.
-/

namespace Bindery

open Native (Identity)

theorem Declaration.ownConstants_bare (d : Declaration) : d.bare.ownConstants = d.ownConstants := by
  unfold ownConstants bare
  cases d.shape <;> rfl

namespace Package

variable (p : Package) (N : String → Prop)

/-! ## Passes over all declarations -/

def AllNamed (s : Scope) (r : Registry) : Prop := ∀ x d, r.get? x = some d → p.Named N s d

structure WellNamed : Prop where
  scope : p.Scoped N p.scope
  types : p.AllNamed N p.scope p.types
  functions : ∀ w ∈ p.functions, N w.native ∧
    (w.managed = "" ∨ p.scope.nameOf? w.id = some w.managed)
  globals : ∀ v ∈ p.globals, N v.native ∧
    (v.managed = "" ∨ p.scope.nameOf? v.id = some v.managed)

variable {p N}

theorem AllNamed.modify {s s' : Scope} {r : Registry} (h : p.AllNamed N s r) (hs : s.Extends s')
    {id : Identity} {f : Declaration → Declaration}
    (hf : ∀ d, r.get? id = some d → p.Named N s' (f d)) : p.AllNamed N s' (r.modify id f) := by
  exact Dict.forall_modify h hf fun _ _ hd => hd.mono hs

theorem AllNamed.nameTypes (included : List Package) (ids : List Identity) {r : Registry} {s : Scope}
    (hs : p.Scoped N s) (h : p.AllNamed N s r) :
    p.Scoped N (p.nameTypes included ids r s).2 ∧
      p.AllNamed N (p.nameTypes included ids r s).2 (p.nameTypes included ids r s).1 := by
  refine p.nameTypes_induct (P := fun r s => p.Scoped N s ∧ p.AllNamed N s r) included ?_ ids ⟨hs, h⟩
  intro r s id d h hd hn
  obtain ⟨hs, h⟩ := h
  obtain ⟨hs', hext, hnamed⟩ := (h id d hd).nameType hs hn included
  refine ⟨hs', h.modify hext fun e he => ?_⟩
  obtain rfl := Option.some.inj (hd.symm.trans he)
  exact hnamed

theorem AllNamed.nameAllConstants (ids : List Identity) {r : Registry} {s : Scope}
    (hs : p.Scoped N s) (h : p.AllNamed N s r) :
    p.Scoped N (p.nameAllConstants ids r s).2 ∧
      p.AllNamed N (p.nameAllConstants ids r s).2 (p.nameAllConstants ids r s).1 := by
  refine p.nameAllConstants_induct (P := fun r s => p.Scoped N s ∧ p.AllNamed N s r) ?_ ids ⟨hs, h⟩
  intro r s id d h hd _
  obtain ⟨hs, h⟩ := h
  obtain ⟨hs', hext, hnamed⟩ := (h id d hd).nameConstantsOf hs
  exact ⟨hs', h.modify hext fun _ _ => hnamed⟩

theorem Named.addMethod {s : Scope} {d : Declaration} (h : p.Named N s d) (w : Wrapper)
    (candidate : String) : p.Named N s (d.addMethod w candidate).2 := by
  unfold Declaration.addMethod
  split
  · exact h
  · exact ⟨h.native, h.name, h.constants⟩

theorem Named.shortenMethodNames {s : Scope} {d : Declaration} (h : p.Named N s d) :
    p.Named N s d.shortenMethodNames := by
  unfold Declaration.shortenMethodNames
  split
  · exact h
  · exact ⟨h.native, h.name, h.constants⟩

theorem AllNamed.bindFunctions {ws : List Wrapper} (hws : ∀ w ∈ ws, N w.native) {r : Registry}
    {s : Scope} (hs : p.Scoped N s) (h : p.AllNamed N s r) :
    p.Scoped N (p.bindFunctions ws r s).2.2 ∧
      p.AllNamed N (p.bindFunctions ws r s).2.2 (p.bindFunctions ws r s).2.1 ∧
      ∀ w ∈ (p.bindFunctions ws r s).1, N w.native ∧
        (w.managed = "" ∨ (p.bindFunctions ws r s).2.2.nameOf? w.id = some w.managed) := by
  refine p.bindFunctions_induct ws (P := fun _ fs r s => p.Scoped N s ∧ p.AllNamed N s r ∧
    ∀ w ∈ fs, N w.native ∧ (w.managed = "" ∨ s.nameOf? w.id = some w.managed)) ?_ ?_ ⟨hs, h, nofun⟩
  · intro _ w _ fs r s id _ h _
    obtain ⟨hs, h, hfs⟩ := h
    exact ⟨hs, h.modify (.refl s) fun d hd => (h id d hd).addMethod _ _, hfs⟩
  · intro _ w _ fs r s hall h _
    obtain ⟨hs, h, hfs⟩ := h
    have hw := hws w (by simp [hall])
    have hext := s.extends_resolve w.id (p.candidate w.native)
    refine ⟨hs.resolve hw w.id, fun x d hd => (h x d hd).mono hext, fun v hv => ?_⟩
    rcases List.mem_append.1 hv with hv | hv
    · exact (hfs v hv).imp_right (Or.imp_right fun hb => hext hb)
    · obtain rfl := List.mem_singleton.1 hv
      exact ⟨hw, s.resolve_bound_or_empty w.id _⟩

theorem nameVariables_named {vs : List GlobalVariable} (hvs : ∀ v ∈ vs, N v.native) {s : Scope}
    (hs : p.Scoped N s) :
    p.Scoped N (p.nameVariables vs s).2 ∧ s.Extends (p.nameVariables vs s).2 ∧
      ∀ v ∈ (p.nameVariables vs s).1, N v.native ∧
        (v.managed = "" ∨ (p.nameVariables vs s).2.nameOf? v.id = some v.managed) := by
  refine p.nameVariables_induct vs (P := fun _ gs s' => p.Scoped N s' ∧ s.Extends s' ∧
    ∀ v ∈ gs, N v.native ∧ (v.managed = "" ∨ s'.nameOf? v.id = some v.managed))
    ?_ ⟨hs, .refl s, nofun⟩
  intro _ v _ gs s' hall h
  obtain ⟨hs', hext', hgs⟩ := h
  have hv := hvs v (by simp [hall])
  have hext := s'.extends_resolve v.id (p.candidate v.native)
  refine ⟨hs'.resolve hv v.id, hext'.trans hext, fun u hu => ?_⟩
  rcases List.mem_append.1 hu with hu | hu
  · exact (hgs u hu).imp_right (Or.imp_right fun hb => hext hb)
  · obtain rfl := List.mem_singleton.1 hu
    exact ⟨hv, s'.resolve_bound_or_empty v.id _⟩

/-! ## Preparation -/

variable {included : List Package} {p' : Package}

theorem prepare_ok : p.prepare included = .ok p' ↔
    ∃ lowered r, p.lowerShare.run {} = .ok (lowered, r) ∧ p.assignNames included lowered r = p' := by
  unfold prepare
  cases h : p.lowerShare.run {} with
  | error e =>
    constructor
    · intro h'; cases h'
    · intro h
      obtain ⟨_, _, h', _⟩ := h
      cases h'
  | ok a =>
    constructor
    · intro h'; exact ⟨a.1, a.2, rfl, Except.ok.inj h'⟩
    · intro h
      obtain ⟨_, _, h', rfl⟩ := h
      cases h'
      rfl

theorem prepare_name (h : p.prepare included = .ok p') : p'.name = p.name := by
  obtain ⟨_, _, -, rfl⟩ := prepare_ok.1 h
  rfl

theorem prepare_document (h : p.prepare included = .ok p') : p'.document = p.document := by
  obtain ⟨_, _, -, rfl⟩ := prepare_ok.1 h
  rfl

theorem prepare_settings (h : p.prepare included = .ok p') :
    p'.exports = p.exports ∧ p'.excludes = p.excludes ∧ p'.candidate = p.candidate := by
  obtain ⟨_, _, _, rfl⟩ := prepare_ok.1 h
  exact ⟨rfl, rfl, rfl⟩

theorem prepare_imports (h : p.prepare included = .ok p') :
    p'.imports = included.map fun q => { name := q.name, path := q.settings.path } := by
  obtain ⟨_, _, -, rfl⟩ := prepare_ok.1 h
  rfl

theorem AllNamed.supersede {r : Registry} (ht : p.context.Tidy r)
    (hr : ∀ x d, r.get? x = some d → N d.native ∧ ∀ v ∈ d.ownConstants, N v.native) :
    p.AllNamed N {} (p.supersede r) := by
  intro x d hd
  obtain ⟨d₀, hd₀, hs⟩ := (supersededAll ht).of_get? hd
  obtain ⟨M, hM, -⟩ := ht.consistent x d₀ hd₀
  have blank := hM.blank.of_bare
  obtain ⟨hnative, hconstants⟩ := hr x d₀ hd₀
  refine ⟨by rw [hs.same]; exact hnative, .inl (by rw [hs.same]; exact blank.managed), fun v hv => ?_⟩
  rw [Declaration.ownConstants_congr hs.shape_eq] at hv
  refine ⟨hconstants v hv, .inl ?_⟩
  unfold Declaration.ownConstants at hv
  split at hv
  · rename_i base values hshape
    exact blank.constants base values hshape v hv
  · cases hv

def typesNamed (p : Package) (included : List Package) (r : Registry) : Registry × Scope :=
  let named := p.nameTypes included (p.supersede r).keys (p.supersede r) {}
  p.nameAllConstants named.1.keys named.1 named.2

theorem typesNamed_named {r : Registry} (ht : p.context.Tidy r)
    (hr : ∀ x d, r.get? x = some d → N d.native ∧ ∀ v ∈ d.ownConstants, N v.native) :
    p.Scoped N (p.typesNamed included r).2 ∧
      p.AllNamed N (p.typesNamed included r).2 (p.typesNamed included r).1 := by
  obtain ⟨hs, h⟩ := AllNamed.nameTypes included (p.supersede r).keys .empty
    (AllNamed.supersede ht hr)
  exact AllNamed.nameAllConstants _ hs h

theorem assignNames_wellNamed {lowered : Lowered} {r : Registry} (ht : p.context.Tidy r)
    (hr : ∀ x d, r.get? x = some d → N d.native ∧ ∀ v ∈ d.ownConstants, N v.native)
    (hw : ∀ w ∈ lowered.wrappers, N w.native) (hg : ∀ v ∈ lowered.globals, N v.native) :
    (p.assignNames included lowered r).WellNamed N := by
  obtain ⟨hs₂, h₂⟩ := typesNamed_named ht hr
  obtain ⟨hs₃, h₃, hfs⟩ := AllNamed.bindFunctions hw hs₂ h₂
  obtain ⟨hs₄, hext, hgs⟩ := nameVariables_named hg hs₃
  refine ⟨⟨hs₄.bijective, hs₄.made⟩, fun x d hd => ?_, fun w hw => ?_, hgs⟩
  · obtain ⟨e, he, rfl⟩ := Dict.exists_of_get?_mapValues hd
    have := ((h₃ x e he).shortenMethodNames).mono hext
    exact ⟨this.native, this.name, this.constants⟩
  · exact (hfs w hw).imp_right (Or.imp_right fun hb => hext hb)

theorem prepare_wellNamed (h : p.prepare included = .ok p') : p'.WellNamed fun _ => True := by
  obtain ⟨lowered, r, hl, rfl⟩ := prepare_ok.1 h
  exact assignNames_wellNamed (tidy_of_lowerShare hl) (fun _ _ _ => ⟨trivial, fun _ _ => trivial⟩)
    (fun _ _ => trivial) fun _ _ => trivial

/-! ## Distinct names -/

def declaredNames : List (Identity × String) :=
  (p.types.values.filter (·.isEmitted)).map (fun d => (d.namingKey, d.managed))
    ++ ((p.types.values.flatMap (·.ownConstants)).filter (·.managed ≠ "")).map (fun v => (v.id, v.managed))
    ++ (p.functions.filter (·.managed ≠ "")).map (fun w => (w.id, w.managed))
    ++ (p.globals.filter (·.managed ≠ "")).map (fun v => (v.id, v.managed))

theorem WellNamed.bound (h : p.WellNamed N) {key : Identity} {name : String}
    (hm : (key, name) ∈ p.declaredNames) : p.scope.nameOf? key = some name := by
  unfold declaredNames at hm
  simp only [List.mem_append, List.mem_map, List.mem_filter, List.mem_flatMap, Prod.mk.injEq,
    decide_eq_true_eq] at hm
  rcases hm with ((⟨d, ⟨hd, he⟩, rfl, rfl⟩ | ⟨v, ⟨⟨d, hd, hv⟩, hne⟩, rfl, rfl⟩) |
    ⟨w, ⟨hw, hne⟩, rfl, rfl⟩) | ⟨v, ⟨hv, hne⟩, rfl, rfl⟩
  · obtain ⟨e, he', rfl⟩ := List.mem_map.1 hd
    simp only [Declaration.isEmitted, Bool.and_eq_true, Bool.not_eq_true', String.isEmpty_eq_false_iff] at he
    rcases (h.types e.1 e.2 ((p.types.get?_eq_some_iff _ _).2 he')).name with hn | hn | hn
    · exact absurd hn he.1.1.2
    · rw [he.1.2] at hn
      cases hn
    · exact hn.1
  · obtain ⟨e, he', rfl⟩ := List.mem_map.1 hd
    have hnamed := h.types e.1 e.2 ((p.types.get?_eq_some_iff _ _).2 he')
    exact (hnamed.constants v hv).2.resolve_left hne
  · exact (h.functions w hw).2.resolve_left hne
  · exact (h.globals v hv).2.resolve_left hne

theorem nodup_names_of_bound {s : Scope} (hs : s.Bijective) {l : List (Identity × String)}
    (hl : ∀ e ∈ l, s.nameOf? e.1 = some e.2) (hkeys : (l.map (·.1)).Nodup) : (l.map (·.2)).Nodup := by
  rw [List.Nodup, List.pairwise_map] at hkeys ⊢
  refine hkeys.imp_of_mem fun {a b} ha hb hne he => hne ?_
  exact hs.name_inj (hl a ha) (he ▸ hl b hb)

/-- A name that the package makes has underscores only at its end, unlike that of a trampoline. -/
theorem underscored_ne_goName (native : String) (k : Nat) (t : Trampoline) :
    Scope.underscored (p.candidate native) k ≠ t.goName := by
  intro h
  have hl := congrArg (List.reverse ∘ String.toList) h
  simp only [Function.comp_apply, Scope.toList_underscored, Trampoline.goName, String.toList_append,
    List.reverse_append, List.reverse_replicate] at hl
  cases k with
  | zero =>
    have hmem : '_' ∈ (p.candidate native).toList.reverse := by
      rw [List.replicate_zero, List.nil_append] at hl
      rw [hl]
      simp
    exact underscore_notMem_upperName _ (List.mem_reverse.1 hmem)
  | succ k =>
    rw [List.replicate_succ, List.cons_append] at hl
    have := (List.cons.inj hl).1
    revert this
    decide

/-- Where the keys of the declarations differ, so do their names, and none is the name of an
exported trampoline. -/
theorem declared_names_distinct (h : p.prepare included = .ok p')
    (hkeys : (p'.declaredNames.map (·.1)).Nodup) :
    (p'.declaredNames.map (·.2)).Nodup ∧
      ∀ t ∈ p'.trampolines, t.goName ∉ p'.declaredNames.map (·.2) := by
  have hw := prepare_wellNamed h
  refine ⟨nodup_names_of_bound hw.scope.bijective (fun e he => hw.bound he) hkeys, fun t _ ht => ?_⟩
  obtain ⟨e, he, hname⟩ := List.mem_map.1 ht
  obtain ⟨native, k, -, -, hk⟩ := hw.scope.made (hw.bound he)
  exact underscored_ne_goName native k t (hk.symm.trans hname)

/-- An enumeration, its enumerator, a function and a variable of one name, and a callback. -/
def colors : Package where
  settings := { name := "colors" }
  filter := .all
  rules := {}
  ownedFiles := ["f"]
  document := {
    types := Dict.ofList [
      ("e", .enumeration { name := "color", file := "f", size := 4, values := [⟨"Color", 0⟩] }),
      ("v", .fundamental "void" 0),
      ("pv", .pointer "v" 8),
      ("ft", .function { returns := "v", arguments := [⟨"data", "pv", .unset⟩] }),
      ("pf", .pointer "ft" 8)]
    functions := [
      { id := "f1", name := "color_", file := "f", returns := "e", arguments := [], variadic := false
        callback := none },
      { id := "f2", name := "watch", file := "f", returns := "v", variadic := false, callback := none
        arguments := [⟨"notify", "pf", .unset⟩, ⟨"data", "pv", .unset⟩] }]
    globals := [{ id := "g", name := "COLOR", file := "f", type := "e" }] }

theorem colors_names_distinct :
    ∃ p, colors.prepare [] = .ok p ∧
      p.declaredNames =
        [("e", "Color"), ("e::Color", "Color_"), ("f1", "Color__"), ("f2", "Watch"), ("g", "Color___")] ∧
      (p.declaredNames.map (·.2)).Nodup ∧
      ∀ t ∈ p.trampolines, t.goName ∉ p.declaredNames.map (·.2) := by
  have hp : colors.prepare [] = .ok _ := rfl
  exact ⟨_, hp, by decide +kernel, declared_names_distinct hp (by decide +kernel)⟩

end Package

end Bindery
