import Bindery.Proofs.MethodNames
import Bindery.Proofs.Package.Names

/-!
# Scopes of methods

A declaration names its methods in a scope that it has before it has any. What else that
scope binds stays as it is, so that a method that gets or changes its name never takes one
that is in use. Naming and methods leave all other parts of declarations alone.
-/

namespace Bindery

open Native (Identity)
open LoweringContext (memberKey)

/-! ## Methods in one scope -/

namespace Package

structure Hosts (p : Package) (s₁ : Scope) (ws : List Wrapper) (s : Scope) : Prop extends s.NamesMethods ws where
  nonempty : ∀ {id name}, s.nameOf? id = some name → name ≠ ""
  methods : ∀ w ∈ ws, w.managed = (s.nameOf? w.id).getD "" ∧
    (p.candidate w.native ≠ "" → w.managed ≠ "")
  others : ∀ id, id ∉ ws.map (·.id) → s.nameOf? id = s₁.nameOf? id

variable {p : Package} {s₁ s : Scope} {ws : List Wrapper}

theorem Hosts.begin (h : s.Bijective) (hs : ∀ {id name}, s.nameOf? id = some name → name ≠ "") :
    p.Hosts s [] s :=
  ⟨.begin h, hs, nofun, fun _ _ => rfl⟩

theorem Hosts.concat (h : p.Hosts s₁ ws s) {w : Wrapper} (hw : w.id ∉ ws.map (·.id)) :
    p.Hosts s₁ (ws ++ [{ w with managed := (s.resolve w.id (p.candidate w.native)).1 }])
      (s.resolve w.id (p.candidate w.native)).2 where
  toNamesMethods := h.toNamesMethods.concat hw _
  nonempty hn := by
    rcases Scope.nameOf?_resolve_cases hn with hn | ⟨-, hc, k, rfl⟩
    · exact h.nonempty hn
    · exact Scope.underscored_ne_empty hc k
  methods v hv := by
    rcases List.mem_append.1 hv with hv | hv
    · have hne : v.id ≠ w.id := fun he => hw (he ▸ List.mem_map_of_mem hv)
      rw [Scope.nameOf?_resolve_of_ne hne]
      exact h.methods v hv
    · obtain rfl := List.mem_singleton.1 hv
      exact ⟨s.resolve_fst _ _, fun hc => Scope.resolve_ne_empty hc fun _ hn => h.nonempty hn⟩
  others id hid := by
    rw [List.map_append, List.mem_append, not_or, List.map_singleton, List.mem_singleton] at hid
    rw [Scope.nameOf?_resolve_of_ne hid.2]
    exact h.others id hid.1

theorem Hosts.rename {before after : List Wrapper} {m : Wrapper} {name : String}
    (h : p.Hosts s₁ (before ++ m :: after) s) (hne : name ≠ "") (hfree : s.hasName name = false) :
    p.Hosts s₁ (before ++ { m with managed := name } :: after) (s.rename m.id name).2 where
  toNamesMethods := h.toNamesMethods.rename hfree
  nonempty {id x} hx := by
    rw [Scope.nameOf?_rename hfree] at hx
    split at hx
    · exact Option.some.inj hx ▸ hne
    · exact h.nonempty hx
  methods v hv := by
    have old (hv : v ∈ before ++ after) : v.managed = ((s.rename m.id name).2.nameOf? v.id).getD "" ∧
        (p.candidate v.native ≠ "" → v.managed ≠ "") := by
      rw [Scope.nameOf?_rename hfree, if_neg (h.id_ne hv)]
      refine h.methods v ?_
      rw [List.mem_append, List.mem_cons]
      exact (List.mem_append.1 hv).imp_right .inr
    rcases List.mem_append.1 hv with hv | hv
    · exact old (List.mem_append_left _ hv)
    · rcases List.mem_cons.1 hv with rfl | hv
      · rw [Scope.nameOf?_rename hfree, if_pos rfl]
        exact ⟨rfl, fun _ => hne⟩
      · exact old (List.mem_append_right _ hv)
  others id hid := by
    have hne : id ≠ m.id := fun he => hid (by simp [he])
    rw [Scope.nameOf?_rename hfree, if_neg hne]
    exact h.others id (by simpa using hid)

theorem Hosts.nodup (h : p.Hosts s₁ ws s) (hne : ∀ w ∈ ws, w.managed ≠ "") :
    (ws.map (·.managed)).Nodup := by
  have hids := h.ids
  rw [List.Nodup, List.pairwise_map] at hids ⊢
  refine hids.imp_of_mem fun {v w} hv hw hvw he => hvw ?_
  exact h.bijective.name_inj (h.bound hv (hne v hv)) (he ▸ h.bound hw (hne w hw))

/-- No method is named like a member in the scope of which it is named. -/
theorem Hosts.apart {d : Declaration} {ms : List Member} (h : p.Hosts d.scope ws s) (hd : d.Names ms)
    (hkeys : ∀ w ∈ ws, ∀ i, w.id ≠ memberKey d.id i) {w : Wrapper} (hw : w ∈ ws)
    (hne : w.managed ≠ "") {m : Member} (hm : m ∈ ms) : w.managed ≠ m.managed := by
  intro he
  obtain ⟨i, hi⟩ := List.mem_iff_getElem?.1 hm
  -- no method has the key of the member, which is thus bound as it was at first
  have hother : memberKey d.id i ∉ ws.map (·.id) := by
    intro hmem
    obtain ⟨v, hv, hid⟩ := List.mem_map.1 hmem
    exact hkeys v hv i hid
  have hbound := hd.bound hi (he ▸ hne)
  rw [← h.others _ hother, ← he] at hbound
  exact hkeys w hw i (h.bijective.name_inj (h.bound hw hne) hbound)

theorem Hosts.shortenMethods (typeName : String) {before after : List Wrapper}
    (h : p.Hosts s₁ (before ++ after) s) :
    p.Hosts s₁ (before ++ (shortenMethods typeName s after).1) (shortenMethods typeName s after).2 :=
  shortenMethods_induct (P := fun ws s => p.Hosts s₁ ws s)
    (fun h hshorter hfree => h.rename hshorter.ne_empty hfree) h

end Package

/-! ## Methods of all declarations -/

def Shape.withoutConstants : Shape → Shape
  | .enumeration base _ => .enumeration base []
  | shape => shape

/-- What of a declaration naming leaves as it is. -/
def Declaration.outline (d : Declaration) : Declaration :=
  { d with managed := "", methods := [], scope := {}, shape := d.shape.withoutConstants }

section
variable {d e : Declaration} (h : d.outline = e.outline)
include h

theorem Declaration.members_of_outline : d.members = e.members := by
  have outline (d : Declaration) : d.members = d.outline.members := by
    unfold members outline
    cases d.shape <;> rfl
  rw [outline d, h, ← outline]

theorem Declaration.isComposite_of_outline : d.isComposite = e.isComposite := by
  have outline (d : Declaration) : d.isComposite = d.outline.isComposite := by
    unfold isComposite outline
    cases d.shape <;> rfl
  rw [outline d, h, ← outline]

theorem Declaration.synonym_of_outline {literal : Descriptor} {root : Identity} {strategy : Strategy}
    (he : e.shape = .synonym literal root strategy) :
    d.shape = .synonym literal root strategy := by
  have hs : d.shape.withoutConstants = e.shape.withoutConstants := congrArg Declaration.shape h
  rw [he] at hs
  cases hd : d.shape with
  | struct | union | enumeration => rw [hd] at hs; cases hs
  | synonym => rw [hd] at hs; exact hs

end

namespace Package

variable {p : Package} {r₁ r : Registry}

def AllHosted (p : Package) (r₁ r : Registry) : Prop :=
  Registry.Rel (fun _ d₁ d => d.outline = d₁.outline ∧ p.Hosts d₁.scope d.methods d.scope) r₁ r

theorem outline_nameConstantsOf (p : Package) (d : Declaration) (s : Scope) :
    (p.nameConstantsOf d s).1.outline = d.outline ∧
      (p.nameConstantsOf d s).1.methods = d.methods ∧ (p.nameConstantsOf d s).1.scope = d.scope := by
  unfold nameConstantsOf
  split
  · rename_i hs
    exact ⟨by simp [Declaration.outline, Shape.withoutConstants, hs], rfl, rfl⟩
  · exact ⟨rfl, rfl, rfl⟩

theorem AllHosted.typesNamed {included : List Package} {r₀ : Registry}
    (h : p.AllHosted r₁ (p.supersede r₀)) : p.AllHosted r₁ (p.typesNamed included r₀).1 := by
  refine p.nameAllConstants_induct (P := fun r _ => p.AllHosted r₁ r) ?_ _
    (p.nameTypes_induct (P := fun r _ => p.AllHosted r₁ r) included ?_ _ h)
  · intro r s id d h hd _
    refine h.modify fun e₁ e he ⟨hout, hosts⟩ => ?_
    obtain rfl := Option.some.inj (hd.symm.trans he)
    obtain ⟨hout', hmethods, hscope⟩ := p.outline_nameConstantsOf d s
    rw [hmethods, hscope]
    exact ⟨hout'.trans hout, hosts⟩
  · intro r s id d h _ _
    exact h.modify fun _ _ _ hd => hd

theorem Hosts.addMethod {s₁ : Scope} {d : Declaration} (h : p.Hosts s₁ d.methods d.scope) (w : Wrapper) :
    p.Hosts s₁ (d.addMethod w (p.candidate w.native)).2.methods
      (d.addMethod w (p.candidate w.native)).2.scope := by
  unfold Declaration.addMethod
  split
  · exact h
  · rename_i hnew
    refine h.concat fun hm => hnew ?_
    obtain ⟨m, hm, he⟩ := List.mem_map.1 hm
    exact List.any_eq_true.2 ⟨m, hm, by simp [he]⟩

theorem outline_addMethod (d : Declaration) (w : Wrapper) (candidate : String) :
    (d.addMethod w candidate).2.outline = d.outline := by
  unfold Declaration.addMethod
  split <;> rfl

theorem AllHosted.bindFunctions (h : p.AllHosted r₁ r) (ws : List Wrapper) (s : Scope) :
    p.AllHosted r₁ (p.bindFunctions ws r s).2.1 := by
  refine p.bindFunctions_induct ws (P := fun _ _ r _ => p.AllHosted r₁ r) ?_ ?_ h
  · intro _ w _ _ r s id _ h _
    have hw : w.promote.native = w.native := by
      unfold Wrapper.promote
      split <;> rfl
    refine h.modify fun d₁ d _ ⟨hout, hosts⟩ => ⟨(outline_addMethod d _ _).trans hout, ?_⟩
    rw [← hw]
    exact hosts.addMethod w.promote
  · intro _ _ _ _ _ _ _ h _
    exact h

theorem AllHosted.shortenMethodNames (h : p.AllHosted r₁ r) :
    p.AllHosted r₁ (r.mapValues fun _ d => d.shortenMethodNames) := by
  refine h.mapValues fun x d₁ d _ ⟨hout, hosts⟩ => ?_
  unfold Declaration.shortenMethodNames
  split
  · exact ⟨hout, hosts⟩
  · rw [← List.nil_append d.methods] at hosts
    exact ⟨hout, Hosts.shortenMethods d.managed hosts⟩

/-! ## Preparation -/

theorem supersede_scope (ht : p.context.Tidy r) {x : Identity} {d₁ : Declaration}
    (hd₁ : (p.supersede r).get? x = some d₁) : ∃ e : Declaration, e.Tidy ∧ d₁.scope = e.scope := by
  obtain ⟨d₀, hd₀, hs⟩ := (supersededAll ht).of_get? hd₁
  cases ha : d₁.assumed with
  | none => exact ⟨d₀, ht.tidy hd₀, hs.own ha⟩
  | some l =>
    obtain ⟨-, e₀, -, he₀, -, -, hscope, -⟩ := hs.assumes l ha
    exact ⟨e₀, ht.tidy he₀, hscope⟩

theorem AllHosted.supersede (ht : p.context.Tidy r) : p.AllHosted (p.supersede r) (p.supersede r) := by
  refine Registry.Rel.refl fun x d₁ hd₁ => ⟨rfl, ?_⟩
  obtain ⟨e, he, hscope⟩ := supersede_scope ht hd₁
  obtain ⟨d₀, hd₀, hs⟩ := (supersededAll ht).of_get? hd₁
  obtain ⟨M, hM, -⟩ := ht.consistent x d₀ hd₀
  have hmethods : d₁.methods = [] := by
    rw [hs.same]
    exact hM.blank.of_bare.methods
  rw [hmethods]
  exact .begin (hscope ▸ he.bijective) fun hn => (he.keys (hscope ▸ hn)).1

theorem hosted_of_lowerShare {lowered : Lowered} (hl : p.lowerShare.run {} = .ok (lowered, r))
    (included : List Package) :
    p.AllHosted (p.supersede r) (p.assignNames included lowered r).types :=
  ((AllHosted.supersede (tidy_of_lowerShare hl)).typesNamed.bindFunctions _ _).shortenMethodNames

theorem prepare_hosted {included : List Package} {p' : Package} (h : p.prepare included = .ok p') :
    ∃ r, p.context.Tidy r ∧ p.AllHosted (p.supersede r) p'.types := by
  obtain ⟨lowered, r, hl, rfl⟩ := prepare_ok.1 h
  exact ⟨r, tidy_of_lowerShare hl, hosted_of_lowerShare hl included⟩

end Package

end Bindery
