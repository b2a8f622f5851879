import Bindery.Proofs.Package.Names

/-!
# Receivers

The spelling of a receiver tells its type: a function becomes a method only of a type that
has a name of its own package. Functions that are bound are neither lost nor doubled on the
way, and what is bound later leaves the receivers of earlier methods as they are.
-/

namespace Bindery

open Native (Identity)

/-! ## Targets of references -/

/-- What of a declaration decides where references to it lead. -/
def Declaration.label (d : Declaration) : Identity × String × Option Identity :=
  (d.id, d.managed, d.supersededBy)

namespace Registry

variable {r r' : Registry}

def SameLabels (r r' : Registry) : Prop := ∀ x, (r'.get? x).map (·.label) = (r.get? x).map (·.label)

def targetName? (r : Registry) (id : Identity) : Option (Identity × String) :=
  (r.target? id).map fun d => (d.id, d.managed)

theorem targetName?_eq (r : Registry) (id : Identity) :
    r.targetName? id = ((r.get? id).map (·.label)).map fun (own, name, other?) =>
      match other?.bind fun x => (r.get? x).map (·.label) with
      | some (other, otherName, _) => if otherName = "" then (own, name) else (other, otherName)
      | none => (own, name) := by
  unfold targetName? target?
  cases r.get? id with
  | none => rfl
  | some d =>
    simp only [Option.bind_eq_bind, Option.bind_some, Option.map_some, Declaration.label]
    cases d.supersededBy with
    | none => rfl
    | some x =>
      simp only [Option.bind_some]
      cases r.get? x with
      | none => rfl
      | some e =>
        simp only [Option.map_some]
        by_cases he : e.managed = ""
        · simp [he]
        · simp [he]

theorem SameLabels.targetName? (h : r.SameLabels r') (id : Identity) :
    r'.targetName? id = r.targetName? id := by
  rw [targetName?_eq, targetName?_eq]
  simp only [h _]

theorem SameLabels.modify (r : Registry) {f : Declaration → Declaration}
    (hf : ∀ d, (f d).label = d.label) (id : Identity) : r.SameLabels (r.modify id f) := by
  intro x
  rw [Dict.get?_modify]
  split
  · cases r.get? x with
    | none => rfl
    | some d => simp [hf]
  · rfl

theorem SameLabels.mapValues (r : Registry) {f : Identity → Declaration → Declaration}
    (hf : ∀ x d, (f x d).label = d.label) : r.SameLabels (r.mapValues f) := by
  intro x
  rw [Dict.get?_mapValues]
  cases r.get? x with
  | none => rfl
  | some d => simp [hf]

theorem exists_of_target? {id : Identity} {d : Declaration} (h : r.target? id = some d) :
    ∃ x, r.get? x = some d := by
  unfold target? at h
  obtain ⟨e, he, h⟩ := Option.bind_eq_some_iff.1 h
  split at h
  · rename_i synonym hs
    obtain ⟨x, -, hx⟩ := Option.bind_eq_some_iff.1 hs
    obtain rfl := Option.some.inj h
    split
    · exact ⟨id, he⟩
    · exact ⟨x, hx⟩
  · exact ⟨id, Option.some.inj h ▸ he⟩

theorem managedName_pointer {ref id : Identity} {name : String} (h : r.targetName? ref = some (id, name))
    (hn : name ≠ "") : (Descriptor.pointer (.declared ref)).managedName r = "*" ++ name := by
  obtain ⟨d, hd, he⟩ := Option.map_eq_some_iff.1 h
  obtain ⟨rfl, rfl⟩ := Prod.mk.inj he
  have hnamed : r.isNamed ref = true := by simp [isNamed, hd, hn]
  have hrefer : r.managedName ref = d.managed := by
    rw [managedName, referWithin, hd]
    simp [hn]
  simp [Descriptor.managedName, Descriptor.spell, hnamed, hrefer]

end Registry

/-! ## Receivers -/

/-- A function that can be a method has a pointer to a declaration with a name of the
package for its first parameter. -/
theorem Wrapper.receiver?_ok {w : Wrapper} {r : Registry} {id : Identity} (h : w.receiver? r = some id) :
    ∃ first rest ref target, w.parameters = first :: rest ∧ first.type = .pointer (.declared ref) ∧
      r.target? ref = some target ∧ target.id = id ∧ target.managed ≠ "" ∧
      Declaration.isQualified target.managed = false := by
  unfold Wrapper.receiver? at h
  obtain ⟨first, hfirst, h⟩ := Option.bind_eq_some_iff.1 h
  obtain ⟨rest, hrest⟩ := List.head?_eq_some_iff.1 hfirst
  cases ho : first.isOutput with
  | true => simp [ho] at h
  | false =>
    simp only [ho, Bool.false_eq_true, if_false] at h
    split at h
    · rename_i ref hty
      cases hspell : isReceiverSpelling (first.type.managedName r) with
      | false => simp [hspell] at h
      | true =>
        simp only [hspell, Bool.not_true, Bool.false_eq_true, if_false] at h
        obtain ⟨target, ht, h⟩ := Option.bind_eq_some_iff.1 h
        split at h
        · obtain rfl := Option.some.inj h
          rw [hty] at hspell
          -- a pointer to a declaration without a name is spelled as an opaque handle
          have hne : target.managed ≠ "" := by
            intro he
            have hn : r.isNamed ref = false := by simp [Registry.isNamed, ht, he]
            have : (Descriptor.pointer (.declared ref)).managedName r = "uintptr" := by
              simp [Descriptor.managedName, Descriptor.spell, hn]
            rw [this] at hspell
            revert hspell
            decide
          rw [Registry.managedName_pointer (by rw [Registry.targetName?, ht]; rfl) hne] at hspell
          refine ⟨first, rest, ref, target, hrest, hty, ht, rfl, hne, ?_⟩
          simp only [isReceiverSpelling, Bool.and_eq_true, Bool.not_eq_true', String.toList_append] at hspell
          unfold Declaration.isQualified
          have hdot := hspell.1.1
          simp at hdot ⊢
          exact hdot
        · cases h
    · cases h

/-! ## Binding -/

namespace Registry

def methods (r : Registry) : List Wrapper := r.values.flatMap (·.methods)

theorem methods_modify {r : Registry} {id : Identity} {d : Declaration} (hd : r.get? id = some d)
    {f : Declaration → Declaration} {m : Wrapper} (hf : (f d).methods = d.methods ++ [m]) :
    (Registry.methods (r.modify id f)).Perm (r.methods ++ [m]) := by
  obtain ⟨l₁, l₂, hv, hv'⟩ := r.values_modify hd f
  simp only [methods, hv, hv', List.flatMap_append, List.flatMap_cons, hf, List.append_assoc]
  exact ((List.perm_append_comm).append_left _).append_left _

def Keyed (r : Registry) : Prop := ∀ x d, r.get? x = some d → d.id = x

theorem Keyed.modify {r : Registry} (h : r.Keyed) {f : Declaration → Declaration}
    (hf : ∀ d, (f d).id = d.id) (id : Identity) : Keyed (r.modify id f) := by
  refine Dict.forall_modify h (fun d hd => ?_) fun _ _ hd => hd
  rw [hf, h id d hd]

structure Receives (r : Registry) (d : Declaration) (m : Wrapper) : Prop where
  receiver : ∃ first ref, m.receiver = some first ∧ first.type = .pointer (.declared ref) ∧
    r.targetName? ref = some (d.id, d.managed)
  named : d.managed ≠ ""
  unqualified : Declaration.isQualified d.managed = false

theorem Receives.congr {r r' : Registry} {d d' : Declaration} {m m' : Wrapper} (h : r.Receives d m)
    (hr : r.SameLabels r') (hd : d'.label = d.label) (hm : m'.receiver = m.receiver) :
    r'.Receives d' m' := by
  obtain ⟨hid, hname, -⟩ : d'.id = d.id ∧ d'.managed = d.managed ∧ d'.supersededBy = d.supersededBy := by
    simpa [Declaration.label] using hd
  refine ⟨?_, hname ▸ h.named, hname ▸ h.unqualified⟩
  obtain ⟨first, ref, hf, ht, hn⟩ := h.receiver
  exact ⟨first, ref, hm.trans hf, ht, by rw [hr.targetName?, hid, hname, hn]⟩

end Registry

theorem Declaration.addMethod_label (d : Declaration) (w : Wrapper) (candidate : String) :
    (d.addMethod w candidate).2.label = d.label := by
  unfold addMethod
  split <;> rfl

theorem Declaration.addMethod_methods {d : Declaration} {w : Wrapper} (h : ∀ m ∈ d.methods, m.id ≠ w.id)
    (candidate : String) :
    (d.addMethod w candidate).2.methods =
      d.methods ++ [{ w with managed := (d.scope.resolve w.id candidate).1 }] := by
  unfold addMethod
  rw [if_neg]
  simpa using h

namespace Package

variable {p : Package}

structure Distributed (p : Package) (bound fs : List Wrapper) (r : Registry) (s : Scope) : Prop where
  scope : p.Scoped (fun _ => True) s
  keyed : r.Keyed
  all : ((fs ++ r.methods).map (·.origin)).Perm (bound.map (·.origin))
  receives : ∀ x d, r.get? x = some d → ∀ m ∈ d.methods, r.Receives d m
  named : ∀ w ∈ fs, p.candidate w.native ≠ "" → w.managed ≠ ""

theorem Scoped.resolve_ne_empty {N : String → Prop} {s : Scope} (h : p.Scoped N s) {native : String}
    (hc : p.candidate native ≠ "") (id : Identity) : (s.resolve id (p.candidate native)).1 ≠ "" := by
  refine Scope.resolve_ne_empty hc fun name hn => ?_
  obtain ⟨native', k, -, hne, rfl⟩ := h.made hn
  exact Scope.underscored_ne_empty hne k

theorem Distributed.function {bound fs : List Wrapper} {r : Registry} {s : Scope}
    (h : p.Distributed bound fs r s) (w : Wrapper) :
    p.Distributed (bound ++ [w])
      (fs ++ [{ w with managed := (s.resolve w.id (p.candidate w.native)).1 }]) r
      (s.resolve w.id (p.candidate w.native)).2 where
  scope := h.scope.resolve trivial w.id
  keyed := h.keyed
  all := by
    rw [List.append_assoc, List.map_append, List.map_append, List.map_append]
    have hperm := h.all
    rw [List.map_append] at hperm
    refine List.Perm.trans ?_ (hperm.append_right _)
    rw [List.append_assoc]
    exact (List.perm_append_comm).append_left _
  receives := h.receives
  named v hv := by
    rcases List.mem_append.1 hv with hv | hv
    · exact h.named v hv
    · obtain rfl := List.mem_singleton.1 hv
      exact fun hc => h.scope.resolve_ne_empty hc w.id

/-- All methods so far are of functions that have been bound. -/
theorem Distributed.method_bound {bound fs : List Wrapper} {r : Registry} {s : Scope}
    (h : p.Distributed bound fs r s) {x : Identity} {d : Declaration} (hd : r.get? x = some d)
    {m : Wrapper} (hm : m ∈ d.methods) : m.id ∈ bound.map (·.id) := by
  have hmem : m ∈ r.methods :=
    List.mem_flatMap.2 ⟨d, List.mem_map.2 ⟨_, (r.get?_eq_some_iff _ _).1 hd, rfl⟩, hm⟩
  have ho := h.all.subset (List.mem_map_of_mem (List.mem_append_right _ hmem))
  obtain ⟨v, hv, hvo⟩ := List.mem_map.1 ho
  exact List.mem_map.2 ⟨v, hv, congrArg Prod.fst hvo⟩

theorem Distributed.method {bound fs : List Wrapper} {r : Registry} {s : Scope}
    (h : p.Distributed bound fs r s) {w : Wrapper} (hnew : w.id ∉ bound.map (·.id)) {id : Identity}
    (hr : w.receiver? r = some id) :
    p.Distributed (bound ++ [w]) fs
      (r.modify id fun d => (d.addMethod w.promote (p.candidate w.native)).2) s := by
  obtain ⟨first, rest, ref, target, hparams, hty, htarget, rfl, hne, hq⟩ := Wrapper.receiver?_ok hr
  obtain ⟨x, hx⟩ := Registry.exists_of_target? htarget
  obtain rfl := h.keyed x target hx
  have hpromote : w.promote = { w with receiver := some first, parameters := rest } := by
    unfold Wrapper.promote
    rw [hparams]
  -- functions have identities of their own, so the type has no method of this one
  have hids : ∀ m ∈ target.methods, m.id ≠ w.promote.id := by
    intro m hm he
    rw [hpromote] at he
    exact hnew (he ▸ h.method_bound hx hm)
  have hmethods := Declaration.addMethod_methods hids (p.candidate w.native)
  have labels := Registry.SameLabels.modify r
    (fun d => d.addMethod_label w.promote (p.candidate w.native)) target.id
  constructor
  · exact h.scope
  · exact h.keyed.modify (fun d => congrArg Prod.fst (d.addMethod_label w.promote _)) _
  · have hmove := (Registry.methods_modify hx
      (f := fun d => (d.addMethod w.promote (p.candidate w.native)).2) hmethods).append_left fs
    have horigin : { w.promote with
        managed := (target.scope.resolve w.promote.id (p.candidate w.native)).1 }.origin = w.origin := by
      rw [hpromote]
      rfl
    have hbound : (bound ++ [w]).map (·.origin) = bound.map (·.origin) ++ [w.origin] := by simp
    apply (hmove.map _).trans
    rw [hbound, ← List.append_assoc, List.map_append, List.map_singleton, horigin]
    exact h.all.append_right _
  · refine Dict.forall_modify h.receives (fun d hd m hm => ?_) fun _ _ hd m hm =>
      (hd m hm).congr labels rfl rfl
    obtain rfl := Option.some.inj (hx.symm.trans hd)
    rw [hmethods] at hm
    rcases List.mem_append.1 hm with hm | hm
    · exact (h.receives _ _ hx m hm).congr labels (Declaration.addMethod_label _ _ _) rfl
    · -- the receiver of the new method has been spelled before it was added
      obtain rfl := List.mem_singleton.1 hm
      have htn : r.targetName? ref = some (target.id, target.managed) := by
        rw [Registry.targetName?, htarget]
        rfl
      have : r.Receives target { w.promote with managed := "" } :=
        ⟨⟨first, ref, by rw [hpromote], hty, htn⟩, hne, hq⟩
      exact this.congr labels (Declaration.addMethod_label _ _ _) rfl
  · exact h.named

/-! ## Preparation -/

theorem typesNamed_methods {included : List Package} {r : Registry} (ht : p.context.Tidy r) :
    ∀ x d, (p.typesNamed included r).1.get? x = some d → d.id = x ∧ d.methods = [] := by
  refine p.nameAllConstants_induct
    (P := fun r _ => ∀ x d, r.get? x = some d → d.id = x ∧ d.methods = []) ?_ _
    (p.nameTypes_induct (P := fun r _ => ∀ x d, r.get? x = some d → d.id = x ∧ d.methods = [])
      included ?_ _ ?_)
  · intro r s id d h hd _
    apply Dict.forall_modify h _ fun _ _ he => he
    intro _ _
    unfold nameConstantsOf
    split <;> exact h id d hd
  · intro r s id d h _ _
    exact Dict.forall_modify h (fun e he => h id e he) fun _ _ he => he
  · intro x d hd
    obtain ⟨d₀, hd₀, hs⟩ := (supersededAll ht).of_get? hd
    obtain ⟨M, hM, -⟩ := ht.consistent x d₀ hd₀
    rw [hs.same]
    exact ⟨hM.id_eq, hM.blank.of_bare.methods⟩

theorem distributed_bindFunctions {ws : List Wrapper} (hws : (ws.map (·.id)).Nodup) {r : Registry}
    {s : Scope} (hs : p.Scoped (fun _ => True) s)
    (hr : ∀ x d, r.get? x = some d → d.id = x ∧ d.methods = []) :
    p.Distributed ws (p.bindFunctions ws r s).1 (p.bindFunctions ws r s).2.1
      (p.bindFunctions ws r s).2.2 := by
  refine p.bindFunctions_induct ws (P := p.Distributed) ?_ ?_ ?_
  · intro bound w rest fs r s id hall h hrec
    refine h.method (fun hm => ?_) hrec
    rw [hall, List.map_append, List.map_cons, List.nodup_append] at hws
    exact hws.2.2 _ hm _ List.mem_cons_self rfl
  · intro bound w rest fs r s _ h _
    exact h.function w
  · have hnone : r.methods = [] := by
      refine List.flatMap_eq_nil_iff.2 fun d hd => ?_
      obtain ⟨e, he, rfl⟩ := List.mem_map.1 hd
      exact (hr e.1 e.2 ((r.get?_eq_some_iff _ _).2 he)).2
    refine ⟨hs, fun x d hd => (hr x d hd).1, by rw [hnone]; exact .nil, fun x d hd m hm => ?_, nofun⟩
    rw [(hr x d hd).2] at hm
    cases hm

/-! ## Shorter names -/

theorem shortenMethod_unnamed (typeName : String) (scope : Scope) (m : Wrapper) :
    { (shortenMethod typeName scope m).1 with managed := "" } = { m with managed := "" } := by
  unfold shortenMethod
  split
  · split
    · split <;> rfl
    · rfl
  · rfl

theorem shortenMethods_unnamed (typeName : String) (scope : Scope) (ms : List Wrapper) :
    (shortenMethods typeName scope ms).1.map (fun m => { m with managed := "" }) =
      ms.map fun m => { m with managed := "" } := by
  induction ms generalizing scope with
  | nil => rfl
  | cons m ms ih =>
    simp only [shortenMethods, List.map_cons, ih, shortenMethod_unnamed]

theorem shortenMethodNames_methods (d : Declaration) :
    d.shortenMethodNames.methods.map (fun m => { m with managed := "" }) =
      d.methods.map fun m => { m with managed := "" } := by
  unfold Declaration.shortenMethodNames
  split
  · rfl
  · exact shortenMethods_unnamed _ _ _

theorem shortenMethodNames_origins (d : Declaration) :
    d.shortenMethodNames.methods.map (·.origin) = d.methods.map (·.origin) := by
  have := congrArg (List.map Wrapper.origin) (shortenMethodNames_methods d)
  rwa [List.map_map, List.map_map] at this

theorem shortenMethodNames_label (d : Declaration) : d.shortenMethodNames.label = d.label := by
  unfold Declaration.shortenMethodNames
  split <;> rfl

/-- A prepared package has each wanted function once, as a function or as a method of the type
to which its receiver points. -/
theorem prepare_conserves {included : List Package} {p' : Package} (h : p.prepare included = .ok p')
    (hids : (p.wantedFunctions.map (·.id)).Nodup) :
    ((p'.functions ++ p'.types.methods).map (·.origin)).Perm (p.wantedFunctions.map (·.origin)) ∧
      (∀ x d, p'.types.get? x = some d → ∀ m ∈ d.methods, p'.types.Receives d m) ∧
      ∀ w ∈ p'.functions, p.candidate w.native ≠ "" → w.managed ≠ "" := by
  obtain ⟨lowered, r, hl, rfl⟩ := prepare_ok.1 h
  have ht := tidy_of_lowerShare hl
  have horigins := (lowerShare_origins hl).1
  have hws : (lowered.wrappers.map (·.id)).Nodup := by
    have := congrArg (List.map Prod.fst) horigins
    rw [List.map_map, List.map_map] at this
    exact (this : _ = p.wantedFunctions.map (·.id)) ▸ hids
  obtain ⟨hs, -⟩ := typesNamed_named (N := fun _ => True) ht fun _ _ _ => ⟨trivial, fun _ _ => trivial⟩
  have hd := distributed_bindFunctions hws hs (@typesNamed_methods p included r ht)
  have labels := Registry.SameLabels.mapValues
    (p.bindFunctions lowered.wrappers (p.typesNamed included r).1 (p.typesNamed included r).2).2.1
    fun _ d => shortenMethodNames_label d
  refine ⟨?_, ?_, hd.named⟩
  · have hsame : (p.assignNames included lowered r).types.methods.map (·.origin) =
        (p.bindFunctions lowered.wrappers (p.typesNamed included r).1
          (p.typesNamed included r).2).2.1.methods.map (·.origin) := by
      simp only [Registry.methods, List.map_flatMap]
      show List.flatMap _ (Dict.values (Dict.mapValues _ _)) = _
      simp only [Dict.values, Dict.mapValues, List.map_map, List.flatMap_map, Function.comp_apply,
        shortenMethodNames_origins]
      rfl
    rw [List.map_append, hsame, ← List.map_append, ← horigins]
    exact hd.all
  · intro x d hx m hm
    obtain ⟨e, he, rfl⟩ := Dict.exists_of_get?_mapValues hx
    have hmem := List.mem_map_of_mem (f := fun m : Wrapper => { m with managed := "" }) hm
    rw [shortenMethodNames_methods] at hmem
    obtain ⟨m', hm', hun⟩ := List.mem_map.1 hmem
    exact (hd.receives x e he m' hm').congr labels (shortenMethodNames_label e)
      (congrArg Wrapper.receiver hun).symm

end Package

end Bindery
