import Bindery.Proofs.Lowering.Population

/-!
# Sizes of members

A member has the size of its descriptor, which its field's type has been lowered to through typedefs,
arrays and overrides. This is the size that the type has in C with one exception: a typedef that
states no size has that of its base, but the number type that replaces it has the size that the
typedef states. Behind arrays, qualifiers and other typedefs without a size it is lost as well.
-/

namespace Bindery

open Native (Identity Field TypeNode)

/-! ## Native sizes -/

theorem LoweringContext.override?_unruled {d : Native.Document} (node : TypeNode) :
    (LoweringContext.mk d {}).override? node = none := by
  unfold override?
  cases node.name? <;> rfl

namespace Native

/-- The size of the values of a type in C, where `inner` tells that of the types within it. A node
that states no size counts as one of size zero. -/
def TypeNode.nativeSize (pointerWidth : Nat) (inner : Identity → Nat) : TypeNode → Nat
  | fundamental _ size => size
  | enumeration e => e.size
  | array element length _ => inner element * length
  | struct c => c.size
  | union c => c.size
  | pointer .. => pointerWidth
  | typedef t => if t.size = 0 then inner t.base else t.size
  | function _ => 0
  | qualified base => inner base
  | unimplemented _ => 0
  | unsupported => 0

theorem TypeNode.nativeSize_congr {pointerWidth : Nat} {inner inner' : Identity → Nat} {node : TypeNode}
    (h : ∀ next, LoweringContext.inner? node = some next → inner next = inner' next) :
    node.nativeSize pointerWidth inner = node.nativeSize pointerWidth inner' := by
  cases node with
  | array element => simp only [nativeSize, h element rfl]
  | typedef t => simp only [nativeSize, h t.base rfl]
  | qualified base => exact h base rfl
  | _ => rfl

namespace Document

variable (d : Document) (pointerWidth : Nat)

def nativeSizeWithin : (depth : Nat) → Identity → Nat
  | 0, _ => 0
  | depth + 1, id =>
    ((d.types.get? id).map (·.nativeSize pointerWidth (nativeSizeWithin depth))).getD 0

def nativeSize (id : Identity) : Nat := d.nativeSizeWithin pointerWidth (d.types.size + 1) id

variable {d pointerWidth}

theorem nativeSizeWithin_of_ends {k depth : Nat} {id : Identity}
    (h : (LoweringContext.mk d {}).Ends k id) (hk : k < depth) :
    d.nativeSizeWithin pointerWidth depth id = d.nativeSizeWithin pointerWidth (k + 1) id := by
  induction h generalizing depth with
  | @here id h =>
    obtain ⟨depth, rfl⟩ := Nat.exists_eq_add_of_lt hk
    rw [Nat.zero_add, nativeSizeWithin, nativeSizeWithin]
    cases hn : d.types.get? id with
    | none => rfl
    | some node =>
      have hnone : LoweringContext.inner? node = none := by
        rwa [LoweringContext.Plain.next? ⟨hn, LoweringContext.override?_unruled node⟩] at h
      exact TypeNode.nativeSize_congr fun next hnext => by rw [hnone] at hnext; cases hnext
  | @step k id next h _ ih =>
    obtain ⟨depth, rfl⟩ := Nat.exists_eq_succ_of_ne_zero (Nat.ne_of_gt (Nat.zero_lt_of_lt hk))
    rw [nativeSizeWithin, nativeSizeWithin]
    cases hn : d.types.get? id with
    | none => rfl
    | some node =>
      rw [LoweringContext.Plain.next? ⟨hn, LoweringContext.override?_unruled node⟩] at h
      refine TypeNode.nativeSize_congr fun next' hnext => ?_
      cases h.symm.trans hnext
      exact ih (Nat.lt_of_succ_lt_succ hk)

/-- In an acyclic document the native size of a type is made of those of the types within it. -/
theorem nativeSize_eq (hd : d.Acyclic) {id : Identity} {node : TypeNode} (hn : d.types.get? id = some node) :
    d.nativeSize pointerWidth id = node.nativeSize pointerWidth (d.nativeSize pointerWidth) := by
  rw [nativeSize, nativeSizeWithin, hn]
  refine TypeNode.nativeSize_congr fun next hnext => ?_
  obtain ⟨k, hk⟩ := LoweringContext.Ends.of_acyclic (c := ⟨d, {}⟩) hd next
  have hid : (LoweringContext.mk d {}).next? id = some next :=
    (LoweringContext.Plain.next? ⟨hn, LoweringContext.override?_unruled node⟩).trans hnext
  have hle : k + 1 ≤ d.types.size := (LoweringContext.Ends.step hid hk).le_size
  rw [nativeSizeWithin_of_ends hk hle, nativeSize, nativeSizeWithin_of_ends hk (Nat.lt_succ_of_lt hle)]

end Document

end Native

namespace LoweringContext

variable {c : LoweringContext} {r r' : Registry} {id : Identity}

/-! ## Sizes that are lost -/

variable (c) in
/-- A type whose size is not zero in C, but whose values are taken to have no size. -/
inductive Loses : Identity → Prop
  | overridden {id t} (hn : c.document.types.get? id = some (.typedef t))
      (ho : (c.override? (.typedef t)).isSome = true) (ht : t.size = 0)
      (hs : c.document.nativeSize c.rules.pointerWidth id ≠ 0) : Loses id
  | array {id element length size} (h : c.Plain id (.array element length size)) (hl : length ≠ 0)
      (he : Loses element) : Loses id
  | typedef {id t} (h : c.Plain id (.typedef t)) (ht : t.size = 0) (hb : Loses t.base) : Loses id
  | qualified {id base} (h : c.Plain id (.qualified base)) (hb : Loses base) : Loses id

theorem Loses.of_plain {node : TypeNode} (hl : c.Loses id) (h : c.Plain id node) :
    (∃ element length size, node = .array element length size ∧ length ≠ 0 ∧ c.Loses element) ∨
      (∃ t, node = .typedef t ∧ t.size = 0 ∧ c.Loses t.base) ∨
      ∃ base, node = .qualified base ∧ c.Loses base := by
  cases hl with
  | overridden hn ho =>
    obtain ⟨d, hd⟩ := Option.isSome_iff_exists.1 ho
    exact (h.not_override hn hd).elim
  | array h' hl he => exact .inl ⟨_, _, _, h.unique h', hl, he⟩
  | typedef h' ht hb => exact .inr (.inl ⟨_, h.unique h', ht, hb⟩)
  | qualified h' hb => exact .inr (.inr ⟨_, h.unique h', hb⟩)

theorem Plain.loses_array {element : Identity} {length size : Nat}
    (h : c.Plain id (.array element length size)) : c.Loses id ↔ length ≠ 0 ∧ c.Loses element := by
  refine ⟨fun hl => ?_, fun ⟨hne, he⟩ => .array h hne he⟩
  rcases hl.of_plain h with ⟨_, _, _, he, hl⟩ | ⟨_, he, _⟩ | ⟨_, he, _⟩ <;> cases he
  exact hl

theorem Plain.loses_typedef {t : Native.Typedef} (h : c.Plain id (.typedef t)) :
    c.Loses id ↔ t.size = 0 ∧ c.Loses t.base := by
  refine ⟨fun hl => ?_, fun ⟨ht, hb⟩ => .typedef h ht hb⟩
  rcases hl.of_plain h with ⟨_, _, _, he, _⟩ | ⟨_, he, hl⟩ | ⟨_, he, _⟩ <;> cases he
  exact hl

theorem Plain.loses_qualified {base : Identity} (h : c.Plain id (.qualified base)) :
    c.Loses id ↔ c.Loses base := by
  refine ⟨fun hl => ?_, .qualified h⟩
  rcases hl.of_plain h with ⟨_, _, _, he, _⟩ | ⟨_, he, _⟩ | ⟨_, he, hl⟩ <;> cases he
  exact hl

theorem Loses.nativeSize_ne_zero (hd : c.document.Acyclic) (h : c.Loses id) :
    c.document.nativeSize c.rules.pointerWidth id ≠ 0 := by
  induction h with
  | overridden _ _ _ hs => exact hs
  | array h hl _ ih =>
    rw [Native.Document.nativeSize_eq hd h.1]
    exact Nat.mul_ne_zero ih hl
  | typedef h ht _ ih =>
    rw [Native.Document.nativeSize_eq hd h.1, TypeNode.nativeSize, if_pos ht]
    exact ih
  | qualified h _ ih =>
    rw [Native.Document.nativeSize_eq hd h.1]
    exact ih

theorem lowerFundamental_size {name : String} {n : Nat} {d : Descriptor}
    (h : lowerFundamental id name n = .ok d) (hv : d.isVoid = false) (r : Registry) (w : Nat) :
    d.size r w = n := by
  unfold lowerFundamental at h
  split at h
  · cases h
  · cases h
    cases hv
  · cases h
    rfl
  · split at h
    · cases h
      rfl
    · cases h

theorem override?_size {node : TypeNode} {d : Descriptor} (h : c.override? node = some d) (r : Registry)
    (w : Nat) : d.size r w = node.size := by
  unfold override? at h
  obtain ⟨name, -, h⟩ := Option.bind_eq_some_iff.1 h
  obtain ⟨managed, -, h⟩ := Option.bind_eq_some_iff.1 h
  cases h
  rfl

/-- An override has the size that the node states, which is its size in C unless it is a typedef that
states none. -/
theorem size_overridden (hd : c.document.Acyclic) {node : TypeNode} {d : Descriptor}
    (hn : c.document.types.get? id = some node) (ho : c.override? node = some d) :
    c.Loses id ∧ node.size = 0 ∨
      ¬ c.Loses id ∧ node.size = c.document.nativeSize c.rules.pointerWidth id := by
  have hsize : c.document.nativeSize c.rules.pointerWidth id =
      node.nativeSize c.rules.pointerWidth (c.document.nativeSize c.rules.pointerWidth) :=
    Native.Document.nativeSize_eq hd hn
  have loses (hl : c.Loses id) : node.size = 0 ∧ c.document.nativeSize c.rules.pointerWidth id ≠ 0 := by
    refine ⟨?_, hl.nativeSize_ne_zero hd⟩
    cases hl with
    | overridden hn' _ ht =>
      cases hn.symm.trans hn'
      exact ht
    | array h | typedef h | qualified h => exact (h.not_override hn ho).elim
  by_cases hl : c.Loses id
  · exact .inl ⟨hl, (loses hl).1⟩
  refine .inr ⟨hl, ?_⟩
  cases node with
  | typedef t =>
    by_cases ht : t.size = 0
    · by_contra hne
      refine hl (.overridden hn (by rw [ho]; rfl) ht fun hz => hne ?_)
      rw [hz]
      exact ht
    · rw [hsize, TypeNode.nativeSize, if_neg ht]
      rfl
  | array | pointer | function | qualified | unimplemented | unsupported => cases ho
  | fundamental | enumeration | struct | union => exact hsize.symm

/-- The size with which a type is lowered is its native size, or zero where that is lost. -/
theorem Lowers.size_native (hd : c.document.Acyclic) {s : Bool} {d : Descriptor} {n : Nat} {M : Set Mark}
    (h : c.Lowers id s d n M) (hv : d.isVoid = false) :
    c.Loses id ∧ n = 0 ∨ ¬ c.Loses id ∧ n = c.document.nativeSize c.rules.pointerWidth id := by
  have kept {id : Identity} {node : TypeNode} {n : Nat} (h : c.Plain id node)
      (hi : (∀ e l s, node ≠ .array e l s) ∧ (∀ t, node ≠ .typedef t) ∧ ∀ b, node ≠ .qualified b)
      (hn : n = node.nativeSize c.rules.pointerWidth (c.document.nativeSize c.rules.pointerWidth)) :
      c.Loses id ∧ n = 0 ∨ ¬ c.Loses id ∧ n = c.document.nativeSize c.rules.pointerWidth id := by
    refine .inr ⟨fun hl => ?_, by rw [Native.Document.nativeSize_eq hd h.1, hn]⟩
    rcases hl.of_plain h with ⟨e, l, s, he, -⟩ | ⟨t, he, -⟩ | ⟨b, he, -⟩
    · exact hi.1 e l s he
    · exact hi.2.1 t he
    · exact hi.2.2 b he
  induction h with
  | overridden hn ho =>
    rw [override?_size ho]
    exact size_overridden hd hn ho
  | fundamental h hl => exact kept h ⟨nofun, nofun, nofun⟩ (lowerFundamental_size hl hv _ _)
  | enumeration h _ => exact kept h ⟨nofun, nofun, nofun⟩ rfl
  | struct h => exact kept h ⟨nofun, nofun, nofun⟩ rfl
  | union h => exact kept h ⟨nofun, nofun, nofun⟩ rfl
  | function h => exact kept h ⟨nofun, nofun, nofun⟩ rfl
  | pointer h _ _ => exact kept h ⟨nofun, nofun, nofun⟩ rfl
  | unimplemented | voidTypedef => cases hv
  | @array id s element length size d n M h _ helem ih =>
    rw [h.loses_array, Native.Document.nativeSize_eq hd h.1, TypeNode.nativeSize]
    rcases ih helem with ⟨hl, rfl⟩ | ⟨hl, rfl⟩
    · by_cases hz : length = 0
      · exact .inr ⟨fun hid => hid.1 hz, by rw [hz, Nat.mul_zero, Nat.mul_zero]⟩
      · exact .inl ⟨⟨hz, hl⟩, Nat.zero_mul _⟩
    · exact .inr ⟨fun hid => hl hid.2, rfl⟩
  | @typedef id s t root d n M h _ _ hbase ih =>
    rw [h.loses_typedef, Native.Document.nativeSize_eq hd h.1, TypeNode.nativeSize]
    by_cases hz : t.size = 0
    · rw [if_pos hz, if_pos hz]
      exact (ih hbase).imp (fun ⟨hl, hn⟩ => ⟨⟨hz, hl⟩, hn⟩) fun ⟨hl, hn⟩ => ⟨fun hid => hl hid.2, hn⟩
    · rw [if_neg hz, if_neg hz]
      exact .inr ⟨fun hid => hz hid.1, rfl⟩
  | @qualified id s base d n M h _ ih =>
    rw [h.loses_qualified, Native.Document.nativeSize_eq hd h.1]
    exact ih hv

/-! ## Sizes of members -/

variable (c) in
def Sized (m : Member) (f : Field) : Prop :=
  m.native = f.name ∧ m.type.isVoid = false ∧ ∃ M, c.Lowers f.type true m.type m.size M

variable (c) in
structure Measures (m : Member) (f : Field) : Prop where
  native : m.native = f.name
  size_iff : m.size = c.document.nativeSize c.rules.pointerWidth f.type ↔ ¬ c.Loses f.type
  lost : c.Loses f.type → m.size = 0

theorem Sized.measures (hd : c.document.Acyclic) {m : Member} {f : Field} (h : c.Sized m f) :
    c.Measures m f := by
  obtain ⟨hname, hv, M, hM⟩ := h
  rcases hM.size_native hd hv with ⟨hl, hn⟩ | ⟨hl, hn⟩
  · refine ⟨hname, iff_of_false (fun he => hl.nativeSize_ne_zero hd ?_) (not_not_intro hl), fun _ => hn⟩
    rw [← he, hn]
  · exact ⟨hname, iff_of_true hn hl, fun hid => absurd hid hl⟩

variable (c) in
structure Measured (r : Registry) : Prop where
  consistent : c.Consistent r
  members : ∀ {id ms}, r.members? id = some ms →
    ∃ s, c.document.composite? id = some s ∧ List.Forall₂ c.Sized ms s.fields

theorem Measured.empty : c.Measured {} := ⟨.empty, fun h => by cases h⟩

theorem Measured.advances (h : c.Measured r) (ha : c.Advances r r') : c.Measured r' :=
  ⟨ha.consistent, fun hm => h.members (ha.members _ ▸ hm)⟩

theorem Requested.measured (h : c.Requested r) : c.Measured r := by
  induction h with
  | empty => exact .empty
  | serve _ hq ih =>
    obtain ⟨M, hM⟩ := Transparent.serve _ _ _ _ ih.consistent hq
    exact ih.advances (hM.of_run ih.consistent hq).2.advances

theorem lowerField_size {index : Nat} {f : Field} {m : Member}
    (h : (c.lowerField id index f).run r = .ok (m, r')) : m.size = m.type.size r' c.rules.pointerWidth := by
  obtain ⟨t, r₁, -, h⟩ := Lowering.run_bind_ok.1 h
  obtain ⟨name, r₂, -, h⟩ := Lowering.run_bind_ok.1 h
  obtain ⟨_, _, hg, h⟩ := Lowering.run_bind_ok.1 h
  obtain ⟨rfl, rfl⟩ := Lowering.run_get_ok.1 hg
  obtain ⟨rfl, rfl⟩ := Lowering.run_pure_ok.1 h
  rfl

theorem lowerField_sized {index : Nat} {f : Field} {m : Member} (hc : c.Consistent r)
    (h : (c.lowerField id index f).run r = .ok (m, r')) : c.Sized m f ∧ c.Consistent r' := by
  obtain ⟨ha, hname, hv, n, M, hM, hsub⟩ := lowerField_fits hc h
  refine ⟨⟨hname, hv, M, ?_⟩, ha.consistent⟩
  rw [lowerField_size h, hM.size_eq ha.consistent hsub]
  exact hM

theorem lowerFields_sized {fs : List Field} {ms : List Member} (hc : c.Consistent r)
    (h : (fs.zipIdx.mapM fun (f, index) => c.lowerField id index f).run r = .ok (ms, r')) :
    List.Forall₂ c.Sized ms fs := by
  have hall := Lowering.run_mapM_ok (I := c.Consistent) (Q := fun m a => c.Sized m a.1)
    (fun (_, _) _ _ _ hc hm => lowerField_sized hc hm) hc h
  have := List.forall₂_map_right_iff.2 hall
  rwa [List.zipIdx_map_fst] at this

theorem populated_slot {d : Declaration} {ms ms' : List Member}
    (h : (d.populate ms).slot? = some (some ms')) : (∃ slot, d.slot? = some slot) ∧ ms = ms' := by
  unfold Declaration.populate Declaration.slot? at h
  unfold Declaration.slot?
  cases hd : d.shape <;> simp_all

theorem preserves_populateOne (id : Identity) : Lowering.Preserves c.Measured (c.populateOne id) := by
  intro r u r' h hp
  obtain ⟨fs, _, hlift, hp⟩ := Lowering.run_bind_ok.1 hp
  obtain ⟨hf, rfl⟩ := Lowering.run_lift_ok.1 hlift
  obtain ⟨ms, r₁, hms, hp⟩ := Lowering.run_bind_ok.1 hp
  obtain rfl := Lowering.run_modify_ok.1 hp
  obtain ⟨ha, -⟩ := lowerFields_fit h.consistent hms
  have h₁ := h.advances ha
  obtain ⟨hc, -⟩ := h₁.consistent.modify id (f := (·.populate ms))
    (fun d => d.bare_populate ms) (fun d => d.standalone_populate ms)
  refine ⟨hc, fun {x xs} hx => ?_⟩
  obtain ⟨e, he, hslot⟩ := Registry.members?_eq_some.1 hx
  rw [Dict.get?_modify] at he
  split at he
  · rename_i hxi
    subst hxi
    obtain ⟨d, hd, rfl⟩ := Option.map_eq_some_iff.1 he
    obtain ⟨hplace, rfl⟩ := populated_slot hslot
    obtain ⟨s, hs⟩ := (h₁.consistent.slot_iff hd).1 hplace
    obtain rfl := nativeFields_of_composite hs hf
    exact ⟨s, hs, lowerFields_sized h.consistent hms⟩
  · exact h₁.members (Registry.members?_eq_some.2 ⟨e, he, hslot⟩)

theorem preserves_populateWithin {P : Registry → Prop} (hP : ∀ id, Lowering.Preserves P (c.populateOne id))
    (limit : Nat) : Lowering.Preserves P (c.populateWithin limit) := by
  induction limit with
  | zero => exact .pure 0
  | succ limit ih =>
    refine Lowering.Preserves.get.bind fun r => ?_
    dsimp only
    split
    · exact .pure 0
    · exact (Lowering.Preserves.forM hP _).bind fun _ => ih.bind fun _ => .pure _

/-- Populating gives every member the size of its field's type. -/
theorem Measured.populate {n : Nat} (h : c.Measured r) (hp : c.populate.run r = .ok (n, r')) : c.Measured r' :=
  preserves_populateWithin preserves_populateOne _ _ _ _ h hp

end LoweringContext

end Bindery
