import Bindery.Proofs.Lowering.Closure
import Bindery.Proofs.Lowering.Sizes

/-!
# Order of insertion

A typedef is inserted after what it stands for has been lowered, so all that its literal mentions
is in the registry by then. What has been inserted stays, and keeps its literal, whatever is
requested and populated later. So the identities of a registry, in the order in which they came
to it, list every mention before the typedef that makes it.
-/

namespace Bindery

open Native (Identity Field TypeNode PointerKind Typedef)

/-! ## Registries in order -/

/-- The identities of a registry, with what the literal of a synonym mentions before the synonym. -/
structure Registry.InOrder (r : Registry) (order : List Identity) : Prop where
  nodup : order.Nodup
  mem_iff : ∀ id, id ∈ order ↔ r.contains id = true
  earlier : ∀ {id d literal root strategy x}, r.get? id = some d → d.shape = .synonym literal root strategy →
    x ∈ literal.references → order.idxOf x < order.idxOf id

def Registry.Extends (r r' : Registry) : Prop := ∀ order, r.InOrder order → ∃ new, r'.InOrder (order ++ new)

namespace Registry

variable {r r' r'' : Registry} {order : List Identity}

theorem contains_of_get? {id : Identity} {d : Declaration} (h : r.get? id = some d) : r.contains id = true := by
  rw [Dict.contains, h, Option.isSome_some]

theorem contains_of_mem_marks {id : Identity} {s : Bool} (h : (id, s) ∈ r.marks) : r.contains id = true := by
  obtain ⟨d, hd⟩ := exists_of_mem_marks h
  exact contains_of_get? hd

theorem contains_eq_false {id : Identity} : r.contains id = false ↔ r.get? id = none := by
  rw [Dict.contains, Option.isSome_eq_false_iff, Option.isNone_iff_eq_none]

theorem InOrder.empty : InOrder {} [] where
  nodup := List.nodup_nil
  mem_iff id := by
    rw [contains_eq_false.2 rfl]
    simp
  earlier h := by cases h

theorem InOrder.mention_mem (h : r.InOrder order) {id x : Identity} {d : Declaration} {literal : Descriptor}
    {root : Identity} {strategy : Strategy} (hd : r.get? id = some d)
    (hs : d.shape = .synonym literal root strategy) (hx : x ∈ literal.references) : x ∈ order := by
  have hlt := h.earlier hd hs hx
  exact List.idxOf_lt_length_iff.1 (hlt.trans_le List.idxOf_le_length)

/-- A declaration is inserted at the end, if what it mentions is there. -/
theorem InOrder.insert (h : r.InOrder order) {d : Declaration} (hnew : r.get? d.id = none)
    (hm : ∀ literal root strategy, d.shape = .synonym literal root strategy →
      ∀ x ∈ literal.references, r.contains x = true) : (r.add d).2.InOrder (order ++ [d.id]) := by
  have hget := get?_add r hnew
  have hfresh : d.id ∉ order := by
    rw [h.mem_iff, contains_eq_false.2 hnew]
    simp
  have hend : (order ++ [d.id]).idxOf d.id = order.length := by
    rw [List.idxOf_append_of_notMem hfresh, List.idxOf_cons_self, Nat.add_zero]
  constructor
  · exact List.nodup_append.2 ⟨h.nodup, List.nodup_singleton _, fun x hx y hy => by
      rw [List.mem_singleton.1 hy]
      exact fun he => hfresh (he ▸ hx)⟩
  · intro id
    rw [Dict.contains, hget, List.mem_append, List.mem_singleton, h.mem_iff]
    by_cases hid : id = d.id
    · simp [hid]
    · simp [hid, Dict.contains]
  · intro id e literal root strategy x he hs hx
    rw [hget] at he
    split at he
    · rename_i hid
      obtain rfl := Option.some.inj he
      have hxo : x ∈ order := (h.mem_iff x).2 (hm literal root strategy hs x hx)
      rw [hid, hend, List.idxOf_append_of_mem hxo]
      exact List.idxOf_lt_length_iff.2 hxo
    · have hido : id ∈ order := (h.mem_iff id).2 (contains_of_get? he)
      rw [List.idxOf_append_of_mem (h.mention_mem he hs hx), List.idxOf_append_of_mem hido]
      exact h.earlier he hs hx

/-- A change that keeps the literals of synonyms keeps the order. -/
theorem InOrder.modify (h : r.InOrder order) (id : Identity) {f : Declaration → Declaration}
    (hf : ∀ d literal root strategy, (f d).shape = .synonym literal root strategy →
      d.shape = .synonym literal root strategy) : InOrder (r.modify id f) order where
  nodup := h.nodup
  mem_iff x := by
    rw [h.mem_iff, ← Dict.mem_keys_iff, ← Dict.mem_keys_iff, Dict.keys_modify]
  earlier {x e literal root strategy y} he hs hy := by
    rw [Dict.get?_modify] at he
    split at he
    · obtain ⟨d, hd, rfl⟩ := Option.map_eq_some_iff.1 he
      exact h.earlier hd (hf d literal root strategy hs) hy
    · exact h.earlier he hs hy

theorem Extends.refl (r : Registry) : r.Extends r := fun order h => ⟨[], by rwa [List.append_nil]⟩

theorem Extends.trans (h : r.Extends r') (h' : r'.Extends r'') : r.Extends r'' := by
  intro order ho
  obtain ⟨new, hnew⟩ := h order ho
  obtain ⟨more, hmore⟩ := h' _ hnew
  exact ⟨new ++ more, by rwa [← List.append_assoc]⟩

theorem Extends.insert {d : Declaration} (hnew : r.get? d.id = none)
    (hm : ∀ literal root strategy, d.shape = .synonym literal root strategy →
      ∀ x ∈ literal.references, r.contains x = true) : r.Extends (r.add d).2 :=
  fun _ ho => ⟨[d.id], ho.insert hnew hm⟩

theorem Extends.modify (r : Registry) (id : Identity) {f : Declaration → Declaration}
    (hf : ∀ d literal root strategy, (f d).shape = .synonym literal root strategy →
      d.shape = .synonym literal root strategy) : r.Extends (r.modify id f) :=
  fun order ho => ⟨[], by rw [List.append_nil]; exact ho.modify id hf⟩

end Registry

namespace LoweringContext

variable {c : LoweringContext} {r r' r₀ : Registry}

/-! ## One lowering -/

section
variable {depth : Nat} {id : Identity} {s : Bool} {d : Descriptor}

theorem extends_of_register {e : Declaration} {M : Set Mark} (he : c.Describes id e M) (hM : M ⊆ r.marks)
    (hn : r.get? id = none)
    (hm : ∀ literal root strategy, e.shape = .synonym literal root strategy → ∀ x ∈ literal.references, (x, false) ∈ M)
    (h : (register s e).run r = .ok (d, r')) : r.Extends r' := by
  obtain rfl := he.id_eq
  obtain ⟨-, rfl⟩ := register_ok.1 h
  refine Registry.Extends.insert (d := { e with standalone := s }) hn fun literal root strategy hs x hx => ?_
  exact Registry.contains_of_mem_marks (hM (hm literal root strategy hs x hx))

/-- On its way back from the end of a type, a lowering inserts each typedef after all that it mentions. -/
theorem Runs.extends_order (h : c.Runs id s r d r') (hc : c.Consistent r) : r.Extends r' := by
  induction h with
  | known => exact .modify _ _ fun _ _ _ _ hs => hs
  | overridden | fundamental | function | unimplemented => exact .refl _
  | enumeration hk hp hb hreg => exact extends_of_register (.enumeration hp hb) (Set.empty_subset _) hk nofun hreg
  | struct hk hp hreg => exact extends_of_register (.struct hp) (Set.empty_subset _) hk nofun hreg
  | union hk hp hreg => exact extends_of_register (.union hp) (Set.empty_subset _) hk nofun hreg
  | array _ _ _ _ ih | pointer _ _ _ ih | qualified _ _ _ ih | voidTypedef _ _ _ _ _ ih => exact ih hc
  | typedef hk hp hr hb hv hreg ih =>
    obtain ⟨n, M, hM, hg⟩ := hb.grows hc
    rw [hM.size_eq hg.consistent hg.subset] at hreg
    refine (ih hc).trans (extends_of_register (.typedef hp hr hM hv) hg.subset (hg.typedef_new hM hp hk) ?_ hreg)
    intro literal root strategy hs x hx
    cases hs
    exact hM.references_marked hx

/-- What a typedef stands for is in the registry, with all that it mentions, when the typedef comes to it. -/
theorem inserted_after_mentions (hc : c.Consistent r) (hn : r.contains id = false)
    (h : (c.lowerWithin depth id s).run r = .ok (d, r')) {e : Declaration} (he : r'.get? id = some e)
    {literal : Descriptor} {root : Identity} {strategy : Strategy}
    (hs : e.shape = .synonym literal root strategy) :
    ∃ r₁ : Registry, r₁.contains id = false ∧ r₁.add e = (true, r') ∧ ∀ x ∈ literal.references, r₁.contains x = true := by
  have hruns := runs_of_run h
  obtain ⟨_, _, -, hg⟩ := hruns.grows hc
  obtain ⟨t, node, n, M, hp, hr, hb, -, hv, -⟩ := hg.consistent.typedef_lowers he hs
  cases hruns with
  | known hk =>
    rw [hn] at hk
    cases hk
  | typedef hk hp' hr' hb' hv' hreg =>
    obtain ⟨n', M', hM', hg'⟩ := hb'.grows hc
    have hnew := hg'.typedef_new hM' hp' hk
    obtain ⟨-, rfl⟩ := register_ok.1 hreg
    rw [Registry.get?_add _ hnew, if_pos rfl] at he
    obtain rfl := Option.some.inj he
    obtain ⟨rfl, -, -⟩ := Shape.synonym.inj hs
    exact ⟨_, Registry.contains_eq_false.2 hnew, by simp [Registry.add, Registry.contains_eq_false.2 hnew],
      fun x hx => Registry.contains_of_mem_marks (hg'.subset (hM'.references_marked hx))⟩
  | overridden _ hnode ho => exact (hp.not_override hnode ho).elim
  | voidTypedef _ hp' hr' hb' hv' =>
    obtain ⟨n', M', hM', -⟩ := hb'.grows hc
    cases hp.unique hp'
    cases hr.symm.trans hr'
    obtain ⟨rfl, -⟩ := hb.unique hM'
    rw [hv] at hv'
    cases hv'
  | _ => cases hp.unique ‹c.Plain id _›

end

/-! ## Requests and population -/

section
variable {P : Registry → Prop} (hP : ∀ id s, Lowering.Preserves P (c.lower id s))
include hP

theorem preserves_valueOf (id : Identity) (place : String) : Lowering.Preserves P (c.value id place) :=
  (hP id true).bind fun _ => .lift _

theorem preserves_lowerPlain (id : Identity) : Lowering.Preserves P (c.lowerPlain id) := by
  refine (Lowering.Preserves.ask _).bind fun node => ?_
  split
  · exact (hP id true).bind fun _ => Lowering.Preserves.get.bind fun _ => .pure _
  · exact hP id true

theorem preserves_lowerTarget (pointee : Identity) (kind : PointerKind) :
    Lowering.Preserves P (c.lowerTarget pointee kind) := by
  refine (hP pointee true).bind fun target => ?_
  split
  · exact .pure _
  · split <;> exact .pure _

theorem preserves_lowerNested (id pointee : Identity) : Lowering.Preserves P (c.lowerNested id pointee) := by
  refine (Lowering.Preserves.ask _).bind fun ⟨_, target⟩ => ?_
  dsimp only
  split <;> exact (preserves_valueOf hP _ _).bind fun _ => .pure _

theorem preserves_resolveOf (id : Identity) (kind : PointerKind) : Lowering.Preserves P (c.resolve id kind) := by
  unfold LoweringContext.resolve
  split
  · exact preserves_lowerPlain hP id
  · refine (Lowering.Preserves.ask _).bind fun ⟨_, node⟩ => ?_
    dsimp only
    split
    · split
      · exact .pure _
      · exact .pure _
      · exact hP id true
      · exact preserves_lowerNested hP id _
      · exact preserves_lowerTarget hP _ _
    · exact hP id true

/-- What every lowering keeps is kept by every request. -/
theorem preserves_serve (q : Request) : Lowering.Preserves P (c.serve q) := by
  cases q with
  | lower id s => exact (hP id s).bind fun _ => .pure _
  | value id place => exact (preserves_valueOf hP id place).bind fun _ => .pure _
  | resolve id kind => exact (preserves_resolveOf hP id kind).bind fun _ => .pure _
  | resolveReturn id =>
    refine Lowering.Preserves.bind ((Lowering.Preserves.ask _).bind fun isVoid => ?_) fun _ => .pure _
    split
    · exact .pure _
    · refine (Lowering.Preserves.ask _).bind fun isText => ?_
      split
      · exact .pure _
      · exact (preserves_resolveOf hP id _).bind fun _ => .pure _

end

variable (c r₀) in
structure Continues (r : Registry) : Prop where
  consistent : c.Consistent r
  ordered : r₀.Extends r

theorem Continues.modify (h : c.Continues r₀ r) (id : Identity) {f : Declaration → Declaration}
    (hf : ∀ d, (f d).bare = d.bare) (hs : ∀ d, (f d).standalone = d.standalone) : c.Continues r₀ (r.modify id f) where
  consistent := (h.consistent.modify id hf hs).1
  ordered := h.ordered.trans (.modify r id fun d literal root strategy hsyn => by
    have hbare : (f d).bare.shape = d.bare.shape := by rw [hf]
    simp only [Declaration.bare, hsyn] at hbare
    cases hd : d.shape with
    | synonym => rw [hd] at hbare; exact hbare.symm
    | _ => rw [hd] at hbare; cases hbare)

theorem continues_lowerWithin (depth : Nat) (id : Identity) (s : Bool) :
    Lowering.Preserves (c.Continues r₀) (c.lowerWithin depth id s) := by
  intro r d r' h hrun
  have hruns := runs_of_run hrun
  obtain ⟨_, _, -, hg⟩ := hruns.grows h.consistent
  exact ⟨hg.consistent, h.ordered.trans (hruns.extends_order h.consistent)⟩

theorem continues_lower (id : Identity) (s : Bool) : Lowering.Preserves (c.Continues r₀) (c.lower id s) :=
  continues_lowerWithin _ id s

theorem continues_nameMember (id : Identity) (index : Nat) (candidate : String) :
    Lowering.Preserves (c.Continues r₀) (nameMember id index candidate) := by
  refine Lowering.Preserves.get.bind fun r => ?_
  split
  · exact .pure _
  · refine Lowering.Preserves.bind ?_ fun _ => .pure _
    intro r u r' h hrun
    obtain rfl := Lowering.run_modify_ok.1 hrun
    exact h.modify id (fun d => d.bare_scope _) fun _ => rfl

theorem continues_lowerField (id : Identity) (index : Nat) (f : Field) :
    Lowering.Preserves (c.Continues r₀) (c.lowerField id index f) :=
  (preserves_valueOf continues_lower _ _).bind fun _ => (continues_nameMember id index _).bind fun _ =>
    Lowering.Preserves.get.bind fun _ => .pure _

theorem continues_populateOne (id : Identity) : Lowering.Preserves (c.Continues r₀) (c.populateOne id) := by
  refine (Lowering.Preserves.lift _).bind fun fields =>
    (Lowering.Preserves.mapM (fun (f, index) => continues_lowerField id index f) _).bind fun members => ?_
  intro r u r' h hrun
  obtain rfl := Lowering.run_modify_ok.1 hrun
  exact h.modify id (fun d => d.bare_populate members) fun d => d.standalone_populate members

/-! ## Registries that are reached -/

variable (c) in
/-- The registries to which requests and population lead from the empty one. Those that they go through
are among them, and so are those that they leave behind when they fail on the way. -/
inductive Reached : Registry → Prop
  | empty : Reached {}
  | lowerWithin {r r' : Registry} {depth id s d} (h : Reached r)
      (hl : (c.lowerWithin depth id s).run r = .ok (d, r')) : Reached r'
  | serve {r r' : Registry} {q} (h : Reached r) (hq : (c.serve q).run r = .ok ((), r')) : Reached r'
  | lowerField {r r' : Registry} {id index f m} (h : Reached r)
      (hf : (c.lowerField id index f).run r = .ok (m, r')) : Reached r'
  | populateOne {r r' : Registry} {id u} (h : Reached r) (hp : (c.populateOne id).run r = .ok (u, r')) : Reached r'
  | populate {r r' : Registry} {n} (h : Reached r) (hp : c.populate.run r = .ok (n, r')) : Reached r'

theorem Reached.continues (h : c.Reached r) : c.Continues {} r := by
  induction h with
  | empty => exact ⟨.empty, .refl _⟩
  | lowerWithin _ hl ih => exact continues_lowerWithin _ _ _ _ _ _ ih hl
  | serve _ hq ih => exact preserves_serve continues_lower _ _ _ _ ih hq
  | lowerField _ hf ih => exact continues_lowerField _ _ _ _ _ _ ih hf
  | populateOne _ hp ih => exact continues_populateOne _ _ _ _ ih hp
  | populate _ hp ih => exact preserves_populateWithin continues_populateOne _ _ _ _ ih hp

theorem Reached.inOrder (h : c.Reached r) : ∃ order, r.InOrder order := by
  obtain ⟨order, ho⟩ := h.continues.ordered [] .empty
  exact ⟨order, ho⟩

end LoweringContext

end Bindery
