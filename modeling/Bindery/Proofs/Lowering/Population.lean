import Bindery.Proofs.Lowering.Depth
import Bindery.Proofs.Lowering.Order

/-!
# Population

A struct or union that has no members yet is a node of the document whose members a pass
will settle, and no pass takes members back. So the nodes that are left bound the passes,
and the loop that goes on until nothing waits ends within the limit. All members that there
are at any time are those that the node of the declaration asks for.
-/

namespace Bindery

open Native (Identity Field Composite TypeNode PointerKind)

/-! ## Composites -/

def Native.TypeNode.composite? : TypeNode → Option Composite
  | .struct s => some s
  | .union s => some s
  | _ => none

namespace Native.Document

variable (d : Document)

def composite? (id : Identity) : Option Composite := (d.types.get? id).bind TypeNode.composite?

def composites : List Identity := d.types.keys.filter fun id => (d.composite? id).isSome

variable {d}

theorem mem_composites {id : Identity} {s : Composite} (h : d.composite? id = some s) :
    id ∈ d.composites := by
  obtain ⟨node, hn, -⟩ := Option.bind_eq_some_iff.1 h
  exact List.mem_filter.2 ⟨Dict.mem_keys_of_get? hn, by rw [h]; rfl⟩

theorem length_composites_le : d.composites.length ≤ d.types.size := by
  have := List.length_filter_le (fun id => (d.composite? id).isSome) d.types.keys
  simpa [composites, Dict.keys, Dict.size] using this

end Native.Document

/-- The place that a struct or union has for its members. -/
def Declaration.slot? (d : Declaration) : Option (Option (List Member)) :=
  match d.shape with
  | .struct members => some members
  | .union members => some members
  | _ => none

theorem Declaration.slot?_populate {d : Declaration} {slot : Option (List Member)}
    (h : d.slot? = some slot) (members : List Member) : (d.populate members).slot? = some (some members) := by
  cases hs : d.shape with
  | struct | union => simp [slot?, populate, hs]
  | enumeration | synonym => simp [slot?, hs] at h

theorem Declaration.isPending_iff {d : Declaration} : d.isPending = true ↔ d.slot? = some none := by
  unfold isPending slot?
  cases d.shape with
  | struct members => cases members <;> simp
  | union members => cases members <;> simp
  | enumeration | synonym => simp

theorem Declaration.slot?_bare {d : Declaration} : d.bare.slot? = d.slot?.map fun _ => none := by
  unfold bare slot?
  cases d.shape <;> rfl

def Registry.members? (r : Registry) (id : Identity) : Option (List Member) :=
  (r.get? id).bind fun d => d.slot?.join

theorem Registry.members?_eq_some {r : Registry} {id : Identity} {ms : List Member} :
    r.members? id = some ms ↔ ∃ d, r.get? id = some d ∧ d.slot? = some (some ms) := by
  simp [members?, Option.bind_eq_some_iff, Option.join_eq_some_iff]

namespace LoweringContext

variable {c : LoweringContext} {r r' r'' : Registry}

theorem Describes.slot {id : Identity} {d : Declaration} {M : Set Mark} (h : c.Describes id d M) :
    d.slot? = (c.document.composite? id).map fun _ => none := by
  cases h with
  | enumeration h _ => rw [Native.Document.composite?, h.1]; rfl
  | struct h => rw [Native.Document.composite?, h.1]; rfl
  | union h => rw [Native.Document.composite?, h.1]; rfl
  | typedef h _ _ _ => rw [Native.Document.composite?, h.1]; rfl

theorem Consistent.slot_iff (h : c.Consistent r) {id : Identity} {d : Declaration}
    (hd : r.get? id = some d) : (∃ slot, d.slot? = some slot) ↔ ∃ s, c.document.composite? id = some s := by
  obtain ⟨M, hM, -⟩ := h id d hd
  have := hM.slot
  rw [Declaration.slot?_bare] at this
  simp only [← Option.isSome_iff_exists]
  simpa using congrArg Option.isSome this

theorem nativeFields_of_composite {id : Identity} {s : Composite} {fs : List Field}
    (h : c.document.composite? id = some s) (hf : c.nativeFields id = .ok fs) : fs = s.fields := by
  obtain ⟨node, hn, rfl⟩ := nativeFields_ok.1 hf
  rw [Native.Document.composite?, hn, Option.bind_some] at h
  cases node <;> cases h <;> rfl

/-! ## Members that fit their fields -/

def Fits (c : LoweringContext) (r : Registry) (m : Member) (f : Field) : Prop :=
  m.native = f.name ∧ m.type.isVoid = false ∧ ∃ n M, c.Lowers f.type true m.type n M ∧ M ⊆ r.marks

theorem Fits.mono {m : Member} {f : Field} (h : c.Fits r m f) (hm : r.marks ⊆ r'.marks) :
    c.Fits r' m f := by
  obtain ⟨hn, hv, n, M, hM, hsub⟩ := h
  exact ⟨hn, hv, n, M, hM, hsub.trans hm⟩

/-- The type of a member is what its field has as a value, and asking for it changes nothing. -/
theorem Fits.value {m : Member} {f : Field} (h : c.Fits r m f) (hc : c.Consistent r) (place : String) :
    (c.value f.type place).run r = .ok (m.type, r) := by
  obtain ⟨-, hv, n, M, hM, hsub⟩ := h
  obtain ⟨r', hr, hg⟩ := hM.answers r hc
  rw [hg.eq_self hsub] at hr
  exact Lowering.run_bind_ok.2 ⟨_, r, hr, Lowering.run_lift_ok.2 ⟨requireValue_ok.2 ⟨hv, rfl⟩, rfl⟩⟩

variable (c) in
/-- What is true of a registry whenever a declaration has been lowered or populated. -/
structure Settled (r : Registry) : Prop where
  consistent : c.Consistent r
  fits : ∀ {id ms}, r.members? id = some ms →
    ∃ s, c.document.composite? id = some s ∧ List.Forall₂ (c.Fits r) ms s.fields

theorem Settled.empty : c.Settled {} where
  consistent := .empty
  fits h := by cases h

theorem forall₂_fits_mono {ms : List Member} {fs : List Field} (h : List.Forall₂ (c.Fits r) ms fs)
    (hm : r.marks ⊆ r'.marks) : List.Forall₂ (c.Fits r') ms fs := h.imp fun _ _ hf => hf.mono hm

/-! ## Lowering beside the members -/

variable (c) in
structure Advances (r r' : Registry) : Prop where
  consistent : c.Consistent r'
  marks : r.marks ⊆ r'.marks
  members : ∀ id, r'.members? id = r.members? id

theorem Advances.refl (h : c.Consistent r) : c.Advances r r := ⟨h, subset_rfl, fun _ => rfl⟩

theorem Advances.trans (h : c.Advances r r') (h' : c.Advances r' r'') : c.Advances r r'' :=
  ⟨h'.consistent, h.marks.trans h'.marks, fun id => (h'.members id).trans (h.members id)⟩

theorem Grows.advances {M : Set Mark} (h : c.Grows r M r') : c.Advances r r' := by
  refine ⟨h.consistent, h.mono, fun id => ?_⟩
  cases hd : r.get? id with
  | some d =>
    obtain ⟨b, hb⟩ := h.kept hd
    rw [Registry.members?, Registry.members?, hb, hd]
    rfl
  | none =>
    cases hd' : r'.get? id with
    | none => rw [Registry.members?, Registry.members?, hd, hd']
    | some d' =>
      have hs : d'.slot?.join = none := by
        have := (h.fresh hd hd').2
        unfold Declaration.slot?
        cases hsh : d'.shape with
        | struct ms => rw [hsh] at this; cases this; rfl
        | union ms => rw [hsh] at this; cases this; rfl
        | enumeration | synonym => rfl
      rw [Registry.members?, Registry.members?, hd, hd', Option.bind_some, Option.bind_none, hs]

theorem Settled.advances (h : c.Settled r) (ha : c.Advances r r') : c.Settled r' where
  consistent := ha.consistent
  fits hm := by
    rw [ha.members] at hm
    obtain ⟨s, hs, hf⟩ := h.fits hm
    exact ⟨s, hs, forall₂_fits_mono hf ha.marks⟩

theorem Advances.nameMember {id name : Identity} {index : Nat} {candidate : String}
    (hc : c.Consistent r) (h : (nameMember id index candidate).run r = .ok (name, r')) :
    c.Advances r r' := by
  cases hd : r.get? id with
  | none =>
    obtain ⟨_, _, hg, h⟩ := Lowering.run_bind_ok.1 h
    obtain ⟨rfl, rfl⟩ := Lowering.run_get_ok.1 hg
    rw [hd] at h
    obtain ⟨-, rfl⟩ := Lowering.run_pure_ok.1 h
    exact .refl hc
  | some d =>
    obtain ⟨-, rfl⟩ := (nameMember_ok hd).1 h
    obtain ⟨hc', hmarks⟩ := hc.modify id
      (f := fun e => { e with scope := (d.scope.resolve (memberKey id index) candidate).2 })
      (fun e => e.bare_scope _) fun _ => rfl
    refine ⟨hc', hmarks.ge, fun x => ?_⟩
    rw [Registry.members?, Registry.members?, Dict.get?_modify]
    split
    · cases r.get? x <;> rfl
    · rfl

theorem lowerField_fits {id : Identity} {index : Nat} {f : Field} {m : Member} (hc : c.Consistent r)
    (h : (c.lowerField id index f).run r = .ok (m, r')) : c.Advances r r' ∧ c.Fits r' m f := by
  obtain ⟨t, r₁, hv, h⟩ := Lowering.run_bind_ok.1 h
  obtain ⟨name, r₂, hn, h⟩ := Lowering.run_bind_ok.1 h
  obtain ⟨_, _, hg, h⟩ := Lowering.run_bind_ok.1 h
  obtain ⟨rfl, rfl⟩ := Lowering.run_get_ok.1 hg
  obtain ⟨rfl, rfl⟩ := Lowering.run_pure_ok.1 h
  obtain ⟨d, r₃, hd, hlift⟩ := Lowering.run_bind_ok.1 hv
  obtain ⟨hreq, rfl⟩ := Lowering.run_lift_ok.1 hlift
  obtain ⟨hvoid, rfl⟩ := requireValue_ok.1 hreq
  obtain ⟨n, M, hM⟩ := lowers_of_lower hc hd
  have hgrown := (hM.answers.of_run hc hd).2
  have hnamed := Advances.nameMember hgrown.consistent hn
  exact ⟨hgrown.advances.trans hnamed, rfl, hvoid, n, M, hM, hgrown.subset.trans hnamed.marks⟩

theorem lowerFields_fit {id : Identity} {fs : List Field} {k : Nat} {ms : List Member}
    (hc : c.Consistent r)
    (h : ((fs.zipIdx k).mapM fun (f, index) => c.lowerField id index f).run r = .ok (ms, r')) :
    c.Advances r r' ∧ List.Forall₂ (c.Fits r') ms fs := by
  induction fs generalizing k ms r with
  | nil =>
    rw [List.zipIdx_nil, List.mapM_nil] at h
    obtain ⟨rfl, rfl⟩ := Lowering.run_pure_ok.1 h
    exact ⟨.refl hc, .nil⟩
  | cons f fs ih =>
    rw [List.zipIdx_cons, List.mapM_cons] at h
    obtain ⟨m, r₁, hm, h⟩ := Lowering.run_bind_ok.1 h
    obtain ⟨ms', r₂, hms, h⟩ := Lowering.run_bind_ok.1 h
    obtain ⟨rfl, rfl⟩ := Lowering.run_pure_ok.1 h
    obtain ⟨ha, hf⟩ := lowerField_fits hc hm
    obtain ⟨ha', hfs⟩ := ih ha.consistent hms
    exact ⟨ha.trans ha', .cons (hf.mono ha'.marks) hfs⟩

/-! ## Progress -/

variable (c) in
structure Progress (r r' : Registry) : Prop where
  settled : c.Settled r'
  marks : r.marks ⊆ r'.marks
  members : ∀ id, (r.members? id).isSome → (r'.members? id).isSome

theorem Progress.refl (h : c.Settled r) : c.Progress r r := ⟨h, subset_rfl, fun _ h => h⟩

theorem Progress.trans (h : c.Progress r r') (h' : c.Progress r' r'') : c.Progress r r'' :=
  ⟨h'.settled, h.marks.trans h'.marks, fun id hm => h'.members id (h.members id hm)⟩

theorem Settled.populateOne {id : Identity} {s : Composite} {u : Unit} (h : c.Settled r)
    (hid : (id, false) ∈ r.marks) (hs : c.document.composite? id = some s)
    (hp : (c.populateOne id).run r = .ok (u, r')) :
    c.Progress r r' ∧ (r'.members? id).isSome := by
  obtain ⟨fs, _, hlift, hp⟩ := Lowering.run_bind_ok.1 hp
  obtain ⟨hf, rfl⟩ := Lowering.run_lift_ok.1 hlift
  obtain ⟨ms, r₁, hms, hp⟩ := Lowering.run_bind_ok.1 hp
  obtain rfl := Lowering.run_modify_ok.1 hp
  obtain rfl := nativeFields_of_composite hs hf
  obtain ⟨ha, hfit⟩ := lowerFields_fit h.consistent hms
  have h₁ := h.advances ha
  obtain ⟨hc, hmarks⟩ := h₁.consistent.modify id (f := (·.populate ms))
    (fun d => d.bare_populate ms) (fun d => d.standalone_populate ms)
  have hself : Registry.members? (r₁.modify id (·.populate ms)) id = some ms := by
    obtain ⟨d, hd⟩ := Registry.exists_of_mem_marks (ha.marks hid)
    obtain ⟨slot, hslot⟩ := (h₁.consistent.slot_iff hd).2 ⟨s, hs⟩
    rw [Registry.members?_eq_some]
    exact ⟨_, by rw [Dict.get?_modify, if_pos rfl, hd]; rfl, Declaration.slot?_populate hslot ms⟩
  have hother {x : Identity} (hx : x ≠ id) :
      Registry.members? (r₁.modify id (·.populate ms)) x = r₁.members? x := by
    rw [Registry.members?, Registry.members?, Dict.get?_modify, if_neg hx]
  refine ⟨⟨⟨hc, fun {x xs} hx => ?_⟩, hmarks ▸ ha.marks, fun x hx => ?_⟩, by rw [hself]; rfl⟩
  · by_cases hxi : x = id
    · subst hxi
      obtain rfl := Option.some.inj (hself.symm.trans hx)
      exact ⟨s, hs, forall₂_fits_mono hfit hmarks.ge⟩
    · rw [hother hxi] at hx
      obtain ⟨s', hs', hf'⟩ := h₁.fits hx
      exact ⟨s', hs', forall₂_fits_mono hf' hmarks.ge⟩
  · by_cases hxi : x = id
    · rw [hxi, hself]
      rfl
    · rw [hother hxi, ha.members]
      exact hx

theorem Settled.populateAll {ids : List Identity} {u : PUnit} (h : c.Settled r)
    (hids : ∀ id ∈ ids, (id, false) ∈ r.marks ∧ ∃ s, c.document.composite? id = some s)
    (hp : (ids.forM c.populateOne).run r = .ok (u, r')) :
    c.Progress r r' ∧ ∀ id ∈ ids, (r'.members? id).isSome := by
  induction ids generalizing r with
  | nil =>
    obtain ⟨-, rfl⟩ := Lowering.run_pure_ok.1 hp
    exact ⟨.refl h, nofun⟩
  | cons id ids ih =>
    obtain ⟨_, r₁, h₁, hp⟩ := Lowering.run_bind_ok.1 hp
    obtain ⟨hid, s, hs⟩ := hids id List.mem_cons_self
    obtain ⟨hprog, hself⟩ := h.populateOne hid hs h₁
    have hrest : ∀ x ∈ ids, (x, false) ∈ r₁.marks ∧ ∃ s, c.document.composite? x = some s :=
      fun x hx => (hids x (List.mem_cons_of_mem _ hx)).imp_left (hprog.marks ·)
    obtain ⟨hprog', hall⟩ := ih hprog.settled hrest hp
    refine ⟨hprog.trans hprog', fun x hx => ?_⟩
    rcases List.mem_cons.1 hx with rfl | hx
    · exact hprog'.members x hself
    · exact hall x hx

/-! ## The nodes that are left -/

variable (c) in
def unsettled (r : Registry) : List Identity :=
  c.document.composites.filter fun id => (r.members? id).isNone

theorem mem_pending (h : c.Consistent r) {id : Identity} :
    id ∈ pending r ↔ ∃ d, r.get? id = some d ∧ d.slot? = some none := by
  rw [pending_eq h, List.mem_map]
  constructor
  · intro hm
    obtain ⟨e, he, rfl⟩ := hm
    obtain ⟨he, hp⟩ := List.mem_filter.1 he
    exact ⟨e.2, (r.get?_eq_some_iff e.1 e.2).2 he, Declaration.isPending_iff.1 hp⟩
  · intro hd
    obtain ⟨d, hd, hs⟩ := hd
    exact ⟨(id, d), List.mem_filter.2 ⟨(r.get?_eq_some_iff id d).1 hd, Declaration.isPending_iff.2 hs⟩, rfl⟩

theorem mem_unsettled_of_pending (h : c.Consistent r) {id : Identity} (hid : id ∈ pending r) :
    id ∈ c.unsettled r ∧ (id, false) ∈ r.marks ∧ ∃ s, c.document.composite? id = some s := by
  obtain ⟨d, hd, hs⟩ := (mem_pending h).1 hid
  obtain ⟨s, hc⟩ := (h.slot_iff hd).1 ⟨_, hs⟩
  refine ⟨List.mem_filter.2 ⟨Native.Document.mem_composites hc, ?_⟩, Registry.mem_marks_of_get? hd, s, hc⟩
  rw [Registry.members?, hd, Option.bind_some, hs]
  rfl

theorem Progress.unsettled_sublist (h : c.Progress r r') : (c.unsettled r').Sublist (c.unsettled r) := by
  refine List.monotone_filter_right _ fun id hid => ?_
  have := h.members id
  rw [Option.isNone_iff_eq_none] at hid ⊢
  rw [hid] at this
  simpa using this

theorem Progress.unsettled_lt (h : c.Progress r r') {id : Identity} (hid : id ∈ c.unsettled r)
    (hm : (r'.members? id).isSome) : (c.unsettled r').length < (c.unsettled r).length := by
  refine Nat.lt_of_le_of_ne h.unsettled_sublist.length_le fun he => ?_
  rw [← h.unsettled_sublist.eq_of_length he] at hid
  have := (List.mem_filter.1 hid).2
  rw [Option.isNone_iff_eq_none] at this
  rw [this] at hm
  cases hm

theorem Settled.pass {u : PUnit} (h : c.Settled r) (hne : pending r ≠ [])
    (hp : ((pending r).forM c.populateOne).run r = .ok (u, r')) :
    c.Progress r r' ∧ (c.unsettled r').length < (c.unsettled r).length := by
  obtain ⟨hprog, hall⟩ := h.populateAll (fun id hid => (mem_unsettled_of_pending h.consistent hid).2) hp
  obtain ⟨id, hid⟩ := List.exists_mem_of_ne_nil _ hne
  exact ⟨hprog, hprog.unsettled_lt (mem_unsettled_of_pending h.consistent hid).1 (hall id hid)⟩

/-! ## The loop -/

variable (c) in
/-- The loop without a limit: one pass after the other, until nothing waits for members. -/
inductive Populates : Registry → Except BindingError (Nat × Registry) → Prop
  | done {r : Registry} (h : pending r = []) : Populates r (.ok (0, r))
  | fault {r : Registry} {e} (h : pending r ≠ []) (hp : ((pending r).forM c.populateOne).run r = .error e) :
      Populates r (.error e)
  | pass {r r₁ : Registry} {result} (h : pending r ≠ []) (hp : ((pending r).forM c.populateOne).run r = .ok ((), r₁))
      (hr : Populates r₁ result) : Populates r (result.map fun q => (q.1 + 1, q.2))

theorem populateWithin_done (h : pending r = []) (limit : Nat) :
    (c.populateWithin limit).run r = .ok (0, r) := by
  cases limit with
  | zero => rfl
  | succ limit =>
    refine Lowering.run_bind_ok.2 ⟨r, r, Lowering.run_get_ok.2 ⟨rfl, rfl⟩, ?_⟩
    rw [h]
    exact Lowering.run_pure_ok.2 ⟨rfl, rfl⟩

theorem populateWithin_pass (h : pending r ≠ []) (limit : Nat) :
    (c.populateWithin (limit + 1)).run r = (((pending r).forM c.populateOne).run r).bind fun p =>
      ((c.populateWithin limit).run p.2).map fun q => (q.1 + 1, q.2) := by
  rw [populateWithin, StateT.run_bind]
  change StateT.run (if (pending r).isEmpty then pure 0 else do
    (pending r).forM c.populateOne
    return (← c.populateWithin limit) + 1) r = _
  rw [if_neg (by simpa using h), StateT.run_bind]
  refine bind_congr fun p => ?_
  rw [StateT.run_bind]
  cases (c.populateWithin limit).run p.2 <;> rfl

/-- With a limit of as many passes as nodes are left, the loop comes to its end. -/
theorem Settled.populateWithin {limit : Nat} (h : c.Settled r) (hl : (c.unsettled r).length ≤ limit) :
    c.Populates r ((c.populateWithin limit).run r) ∧
      ∀ n r', (c.populateWithin limit).run r = .ok (n, r') →
        c.Progress r r' ∧ pending r' = [] ∧ n + (c.unsettled r').length ≤ (c.unsettled r).length := by
  induction limit generalizing r with
  | zero =>
    have hnone : pending r = [] := by
      rw [List.eq_nil_iff_forall_not_mem]
      intro id hid
      have := List.length_pos_of_mem (mem_unsettled_of_pending h.consistent hid).1
      omega
    refine ⟨.done hnone, fun n r' hr => ?_⟩
    obtain ⟨rfl, rfl⟩ := Lowering.run_pure_ok.1 hr
    exact ⟨.refl h, hnone, by omega⟩
  | succ limit ih =>
    by_cases hp : pending r = []
    · rw [populateWithin_done hp]
      refine ⟨.done hp, fun n r' hr => ?_⟩
      cases hr
      exact ⟨.refl h, hp, by omega⟩
    rw [populateWithin_pass hp]
    cases hpass : ((pending r).forM c.populateOne).run r with
    | error e => exact ⟨.fault hp hpass, nofun⟩
    | ok q =>
      obtain ⟨hprog, hlt⟩ := h.pass hp hpass
      obtain ⟨hloop, hspec⟩ := ih hprog.settled (by omega)
      refine ⟨.pass hp hpass hloop, fun n r' hr => ?_⟩
      cases hrun : (c.populateWithin limit).run q.2 with
      | error e =>
        simp only [Except.bind, hrun] at hr
        cases hr
      | ok q' =>
        simp only [Except.bind, hrun] at hr
        cases hr
        obtain ⟨hprog', hnone, hle⟩ := hspec q'.1 q'.2 hrun
        exact ⟨hprog.trans hprog', hnone, by omega⟩

theorem length_unsettled_le (c : LoweringContext) (r : Registry) :
    (c.unsettled r).length ≤ c.document.composites.length := List.length_filter_le _ _

theorem Settled.populate (h : c.Settled r) :
    c.Populates r (c.populate.run r) ∧ ∀ n r', c.populate.run r = .ok (n, r') →
      c.Progress r r' ∧ pending r' = [] ∧ n ≤ c.document.composites.length := by
  have hle := c.length_unsettled_le r
  obtain ⟨hloop, hspec⟩ := h.populateWithin (hle.trans Native.Document.length_composites_le)
  refine ⟨hloop, fun n r' hr => ?_⟩
  obtain ⟨hprog, hnone, hn⟩ := hspec n r' hr
  exact ⟨hprog, hnone, by omega⟩

/-! ## Requests -/

inductive Request where
  | lower (id : Identity) (standalone : Bool)
  | value (id : Identity) (place : String)
  | resolve (id : Identity) (kind : PointerKind)
  | resolveReturn (id : Identity)

variable (c) in
def serve : Request → Lowering Unit
  | .lower id standalone => do let _ ← c.lower id standalone
  | .value id place => do let _ ← c.value id place
  | .resolve id kind => do let _ ← c.resolve id kind
  | .resolveReturn id => do let _ ← c.resolveReturn id

theorem Transparent.serve (q : Request) : c.Transparent (c.serve q) := by
  cases q with
  | lower id s => exact (Transparent.lower id s).bind fun _ => .pure _
  | value id place => exact (Transparent.value id place).bind fun _ => .pure _
  | resolve id kind => exact (Transparent.resolve id kind).bind fun _ => .pure _
  | resolveReturn id => exact (Transparent.resolveReturn id).bind fun _ => .pure _

variable (c) in
inductive Requested : Registry → Prop
  | empty : Requested {}
  | serve {r r' : Registry} {q} (h : Requested r) (hq : (c.serve q).run r = .ok ((), r')) : Requested r'

theorem Requested.settled (h : c.Requested r) : c.Settled r := by
  induction h with
  | empty => exact .empty
  | serve _ hq ih =>
    obtain ⟨M, hM⟩ := Transparent.serve _ _ _ _ ih.consistent hq
    exact ih.advances (hM.of_run ih.consistent hq).2.advances

end LoweringContext

end Bindery
