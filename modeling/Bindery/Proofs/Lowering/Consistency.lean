import Bindery.Proofs.Lowering.Meaning

/-!
# Consistent registries

A registry is consistent if every declaration in it is the one that its type describes, but
for its members and marks, and what the type stands for has been marked as well. In a
consistent registry descriptors have the sizes and native names that their types give them.
A lowering lets a registry grow: it adds marks and keeps all else.
-/

namespace Bindery

open Native (Identity TypeNode)

def Shape.bare : Shape → Shape
  | .struct _ => .struct none
  | .union _ => .union none
  | shape => shape

/-- A declaration as it is registered, before it has members or a mark. -/
def Declaration.bare (d : Declaration) : Declaration :=
  { d with standalone := false, scope := {}, shape := d.shape.bare }

@[simp] theorem Declaration.bare_standalone (d : Declaration) (b : Bool) :
    { d with standalone := b }.bare = d.bare := rfl

@[simp] theorem Declaration.bare_scope (d : Declaration) (s : Scope) :
    { d with scope := s }.bare = d.bare := rfl

@[simp] theorem Declaration.bare_populate (d : Declaration) (members : List Member) :
    (d.populate members).bare = d.bare := by
  cases d with
  | mk _ _ _ _ _ shape => cases shape <;> rfl

@[simp] theorem Declaration.standalone_populate (d : Declaration) (members : List Member) :
    (d.populate members).standalone = d.standalone := by
  cases d with
  | mk _ _ _ _ _ shape => cases shape <;> rfl

@[simp] theorem Declaration.id_populate (d : Declaration) (members : List Member) :
    (d.populate members).id = d.id := by
  cases d with
  | mk _ _ _ _ _ shape => cases shape <;> rfl

@[simp] theorem Declaration.scope_populate (d : Declaration) (members : List Member) :
    (d.populate members).scope = d.scope := by
  cases d with
  | mk _ _ _ _ _ shape => cases shape <;> rfl

theorem Declaration.nativeName_bare (d : Declaration) : d.bare.nativeName = d.nativeName := by
  unfold Declaration.nativeName Declaration.bare
  cases d.shape <;> rfl

theorem Declaration.eq_of_fresh {d e : Declaration} (hb : d.bare = e.bare)
    (hd : d.scope = {} ∧ d.shape.bare = d.shape) (he : e.scope = {} ∧ e.shape.bare = e.shape)
    (hs : d.standalone = e.standalone) : d = e := by
  cases d
  cases e
  simp only [Declaration.bare, Declaration.mk.injEq] at *
  simp_all

structure Declaration.Blank (d : Declaration) : Prop where
  managed : d.managed = ""
  methods : d.methods = []
  supersededBy : d.supersededBy = none
  assumed : d.assumed = none
  constants : ∀ base values, d.shape = .enumeration base values → ∀ v ∈ values, v.managed = ""

theorem Declaration.Blank.of_bare {d : Declaration} (h : d.bare.Blank) : d.Blank :=
  ⟨h.managed, h.methods, h.supersededBy, h.assumed, fun base values hs =>
    h.constants base values (by simp [Declaration.bare, hs, Shape.bare])⟩

namespace Registry

def marks (r : Registry) : Set Mark :=
  {m | ∃ d, r.get? m.1 = some d ∧ (m.2 = true → d.standalone = true)}

theorem mem_marks_of_get? {r : Registry} {id : Identity} {d : Declaration} (h : r.get? id = some d) :
    (id, false) ∈ r.marks := ⟨d, h, nofun⟩

theorem exists_of_mem_marks {r : Registry} {m : Mark} (h : m ∈ r.marks) :
    ∃ d, r.get? m.1 = some d := ⟨h.choose, h.choose_spec.1⟩

theorem get?_eq_none_iff_marks {r : Registry} {id : Identity} : r.get? id = none ↔ (id, false) ∉ r.marks := by
  constructor
  · intro h hm
    obtain ⟨d, hd⟩ := exists_of_mem_marks hm
    rw [h] at hd
    cases hd
  · intro h
    by_contra hne
    obtain ⟨d, hd⟩ := Option.ne_none_iff_exists'.1 hne
    exact h (mem_marks_of_get? hd)

theorem standalone_iff_marks {r : Registry} {id : Identity} {d : Declaration} (h : r.get? id = some d) :
    d.standalone = true ↔ (id, true) ∈ r.marks := by
  constructor
  · intro hs
    exact ⟨d, h, fun _ => hs⟩
  · intro h
    obtain ⟨e, he, hs⟩ := h
    obtain rfl := Option.some.inj (h.symm.trans he)
    exact hs rfl

theorem get?_add (r : Registry) {d : Declaration} (h : r.get? d.id = none) (x : Identity) :
    (r.add d).2.get? x = if x = d.id then some d else r.get? x := by
  simp [Registry.add, Dict.contains, h]

end Registry

namespace LoweringContext

variable {c : LoweringContext}

theorem Describes.bare_eq {id : Identity} {d : Declaration} {M : Set Mark}
    (h : c.Describes id d M) : d.bare = d := by
  cases h <;> rfl

theorem Describes.blank {id : Identity} {d : Declaration} {M : Set Mark}
    (h : c.Describes id d M) : d.Blank := by
  cases h with
  | enumeration h hb =>
    refine ⟨rfl, rfl, rfl, rfl, fun base values hs v hv => ?_⟩
    obtain ⟨-, rfl⟩ := Shape.enumeration.inj hs
    obtain ⟨e, -, rfl⟩ := List.mem_map.1 hv
    rfl
  | _ => exact ⟨rfl, rfl, rfl, rfl, nofun⟩

variable (c)

def Consistent (r : Registry) : Prop :=
  ∀ id d, r.get? id = some d → ∃ M, c.Describes id d.bare M ∧ M ⊆ r.marks

variable {c} {r r' r'' : Registry}

theorem Consistent.empty : c.Consistent {} := fun _ _ h => by cases h

theorem Consistent.id_eq (h : c.Consistent r) {id : Identity} {d : Declaration}
    (hd : r.get? id = some d) : d.id = id := by
  obtain ⟨M, hM, -⟩ := h id d hd
  exact hM.id_eq

theorem Consistent.lowers (h : c.Consistent r) {id : Identity} {e : Declaration}
    (he : r.get? id = some e) (s : Bool) :
    ∃ M, c.Lowers id s (.declared id) e.size (M ∪ Mark.reference id s) ∧ M ⊆ r.marks := by
  obtain ⟨M, hM, hsub⟩ := h id e he
  exact ⟨M, hM.lowers s, hsub⟩

/-! ## Sizes and native names -/

theorem override?_plain {node : TypeNode} {d : Descriptor} (h : c.override? node = some d) :
    ∃ managed native n, d = .number managed native n := by
  unfold override? at h
  obtain ⟨name, -, h⟩ := Option.bind_eq_some_iff.1 h
  obtain ⟨managed, -, h⟩ := Option.bind_eq_some_iff.1 h
  exact ⟨_, _, _, (Option.some.inj h).symm⟩

theorem lowerFundamental_plain {id : Identity} {name : String} {n : Nat} {d : Descriptor}
    (h : lowerFundamental id name n = .ok d) :
    d = .void ∨ ∃ managed native n, d = .number managed native n := by
  unfold lowerFundamental at h
  split at h
  · cases h
  · exact .inl (Except.ok.inj h).symm
  · exact .inr ⟨_, _, _, (Except.ok.inj h).symm⟩
  · split at h
    · exact .inr ⟨_, _, _, (Except.ok.inj h).symm⟩
    · cases h

/-- A descriptor that refers to nothing is the same in every registry. -/
theorem Lowers.leaf {d : Descriptor}
    (h : d = .void ∨ ∃ managed native n, d = .number managed native n) (r r' : Registry) (w : Nat) :
    d.size r w = d.size r' w ∧ d.nativeName r = d.nativeName r' := by
  rcases h with rfl | ⟨_, _, _, rfl⟩ <;> exact ⟨rfl, rfl⟩

theorem size_declared (hr : c.Consistent r) {id : Identity} {e : Declaration} {s : Bool} {d : Descriptor}
    {n : Nat} {M : Set Mark} (he : r.get? id = some e) (h : c.Lowers id s d n M) (w : Nat) :
    (Descriptor.declared id).size r w = n := by
  obtain ⟨M', hl, -⟩ := hr.lowers he s
  obtain ⟨-, rfl, -⟩ := h.unique hl
  simp [Descriptor.size, he]

theorem get?_of_reference {id : Identity} {s : Bool} (h : Mark.reference id s ⊆ r.marks) :
    ∃ e, r.get? id = some e :=
  Registry.exists_of_mem_marks (m := (id, false)) (h ⟨rfl, nofun⟩)

/-- Where the marks of a lowering are, its descriptor has the size of its type. -/
theorem Lowers.size_eq {id : Identity} {s : Bool} {d : Descriptor} {n : Nat} {M : Set Mark}
    (h : c.Lowers id s d n M) (hr : c.Consistent r) (hM : M ⊆ r.marks) :
    d.size r c.rules.pointerWidth = n := by
  have declared : ∀ {id s n M}, c.Lowers id s (.declared id) n M → Mark.reference id s ⊆ r.marks →
      (Descriptor.declared id).size r c.rules.pointerWidth = n := by
    intro id s n M h hm
    obtain ⟨e, he⟩ := get?_of_reference hm
    exact size_declared hr he h _
  induction h with
  | overridden hn ho => exact (Lowers.leaf (.inr (override?_plain ho)) _ _ _).1
  | fundamental h hd => exact (Lowers.leaf (lowerFundamental_plain hd) _ _ _).1
  | enumeration h hb => exact declared (.enumeration h hb) hM
  | struct h => exact declared (.struct h) hM
  | union h => exact declared (.union h) hM
  | typedef h hr' hb hv _ =>
    exact declared (.typedef h hr' hb hv) (Set.subset_union_right.trans hM)
  | array h _ _ ih => simp [Descriptor.size, ih hM]
  | qualified h _ ih => exact ih hM
  | pointer | voidTypedef | function | unimplemented => rfl

theorem nativeName_declared (hr : c.Consistent r) (hr' : c.Consistent r') {id : Identity}
    {e e' : Declaration} (he : r.get? id = some e) (he' : r'.get? id = some e') :
    (Descriptor.declared id).nativeName r = (Descriptor.declared id).nativeName r' := by
  obtain ⟨M, hM, -⟩ := hr id e he
  obtain ⟨M', hM', -⟩ := hr' id e' he'
  have := (hM.unique hM').1
  simp only [Descriptor.nativeName, he, he', Option.map_some, Option.getD_some]
  rw [← e.nativeName_bare, ← e'.nativeName_bare, this]

theorem Lowers.nativeName_eq {id : Identity} {s : Bool} {d : Descriptor} {n : Nat} {M : Set Mark}
    (h : c.Lowers id s d n M) (hr : c.Consistent r) (hr' : c.Consistent r') (hM : M ⊆ r.marks)
    (hM' : M ⊆ r'.marks) : d.nativeName r = d.nativeName r' := by
  have declared : ∀ {id s}, Mark.reference id s ⊆ r.marks → Mark.reference id s ⊆ r'.marks →
      (Descriptor.declared id).nativeName r = (Descriptor.declared id).nativeName r' := by
    intro id s hm hm'
    obtain ⟨e, he⟩ := get?_of_reference hm
    obtain ⟨e', he'⟩ := get?_of_reference hm'
    exact nativeName_declared hr hr' he he'
  induction h with
  | overridden hn ho => exact (Lowers.leaf (.inr (override?_plain ho)) _ _ 0).2
  | fundamental h hd => exact (Lowers.leaf (lowerFundamental_plain hd) _ _ 0).2
  | enumeration | struct | union => exact declared hM hM'
  | typedef => exact declared (Set.subset_union_right.trans hM) (Set.subset_union_right.trans hM')
  | array h _ _ ih => simp [Descriptor.nativeName, ih hM hM']
  | pointer h _ ih => simp [Descriptor.nativeName, ih hM hM']
  | qualified h _ ih => exact ih hM hM'
  | voidTypedef | function | unimplemented => rfl

theorem Consistent.of_bare (h : c.Consistent r) (hm : r.marks ⊆ r'.marks)
    (hb : ∀ x d, r'.get? x = some d → ∃ e, r.get? x = some e ∧ e.bare = d.bare) :
    c.Consistent r' := by
  intro x d hd
  obtain ⟨e, he, hed⟩ := hb x d hd
  obtain ⟨M, hM, hsub⟩ := h x e he
  exact ⟨M, hed ▸ hM, hsub.trans hm⟩

theorem bare_of_modify {id x : Identity} {f : Declaration → Declaration} {d : Declaration}
    (hf : ∀ d, (f d).bare = d.bare) (hd : (r.modify id f).get? x = some d) :
    ∃ e, r.get? x = some e ∧ e.bare = d.bare := by
  rw [Dict.get?_modify] at hd
  split at hd
  · obtain ⟨e, he, rfl⟩ := Option.map_eq_some_iff.1 hd
    exact ⟨e, he, (hf e).symm⟩
  · exact ⟨d, hd, rfl⟩

theorem Consistent.modify (h : c.Consistent r) (id : Identity) {f : Declaration → Declaration}
    (hf : ∀ d, (f d).bare = d.bare) (hs : ∀ d, (f d).standalone = d.standalone) :
    c.Consistent (r.modify id f) ∧ Registry.marks (r.modify id f) = r.marks := by
  have hm : Registry.marks (r.modify id f) = r.marks := by
    ext ⟨x, b⟩
    simp only [Registry.marks, Set.mem_ofPred_eq, Dict.get?_modify]
    split
    · cases r.get? x <;> simp [hs]
    · rfl
  exact ⟨h.of_bare hm.ge fun x d => bare_of_modify hf, hm⟩

/-! ## Growth -/

variable (c)

/-- What a lowering may do to a registry: it adds the marks `M`, and new declarations as
their types describe them. -/
structure Grows (r : Registry) (M : Set Mark) (r' : Registry) : Prop where
  consistent : c.Consistent r'
  marks : r'.marks = r.marks ∪ M
  kept : ∀ {id d}, r.get? id = some d → ∃ b, r'.get? id = some { d with standalone := b }
  fresh : ∀ {id d}, r.get? id = none → r'.get? id = some d → d.scope = {} ∧ d.shape.bare = d.shape

variable {c}

theorem Grows.refl (h : c.Consistent r) : c.Grows r ∅ r where
  consistent := h
  marks := (Set.union_empty _).symm
  kept {_ d} hd := ⟨d.standalone, hd⟩
  fresh hn hd := by rw [hn] at hd; cases hd

theorem Grows.trans {M M' : Set Mark} (h : c.Grows r M r') (h' : c.Grows r' M' r'') :
    c.Grows r (M ∪ M') r'' where
  consistent := h'.consistent
  marks := by rw [h'.marks, h.marks, Set.union_assoc]
  kept hd := by
    obtain ⟨b, hb⟩ := h.kept hd
    obtain ⟨b', hb'⟩ := h'.kept hb
    exact ⟨b', hb'⟩
  fresh {id d} hn hd := by
    cases hm : r'.get? id with
    | none => exact h'.fresh hm hd
    | some e =>
      obtain ⟨b, hb⟩ := h'.kept hm
      rw [hd] at hb
      have hf := h.fresh hn hm
      rw [Option.some.inj hb]
      exact hf

theorem Grows.subset {M : Set Mark} (h : c.Grows r M r') : M ⊆ r'.marks := by
  rw [h.marks]; exact Set.subset_union_right

theorem Grows.mono {M : Set Mark} (h : c.Grows r M r') : r.marks ⊆ r'.marks := by
  rw [h.marks]; exact Set.subset_union_left

theorem Grows.touch (h : c.Consistent r) {id : Identity} {e : Declaration} (he : r.get? id = some e)
    (s : Bool) : c.Grows r (Mark.reference id s)
      (r.modify id fun d => { d with standalone := d.standalone || s }) := by
  have hm : Registry.marks (r.modify id fun d => { d with standalone := d.standalone || s }) =
      r.marks ∪ Mark.reference id s := by
    ext ⟨x, b⟩
    simp only [Registry.marks, Mark.reference, Set.mem_union, Set.mem_ofPred_eq, Dict.get?_modify]
    by_cases hx : x = id
    · subst hx
      simp only [if_true, he, Option.map_some, Option.some.injEq, exists_eq_left', Bool.or_eq_true,
        true_and]
      cases b <;> simp
    · simp [hx]
  constructor
  · exact h.of_bare (by rw [hm]; exact Set.subset_union_left) fun x d =>
      bare_of_modify fun d => d.bare_standalone _
  · exact hm
  · intro x d hd
    rw [Dict.get?_modify]
    split
    · exact ⟨_, by rw [hd]; rfl⟩
    · exact ⟨_, hd⟩
  · intro x d hn hd
    rw [Dict.get?_modify, hn] at hd
    split at hd <;> cases hd

theorem Grows.register (h : c.Consistent r) {id : Identity} {d : Declaration} {M : Set Mark}
    (hd : c.Describes id d M) (hM : M ⊆ r.marks) (hn : r.get? id = none) (s : Bool) :
    c.Grows r (Mark.reference id s) (r.add { d with standalone := s }).2 := by
  have hid := hd.id_eq
  subst hid
  have hget := Registry.get?_add r (d := { d with standalone := s }) hn
  have hbare := hd.bare_eq
  have hm : (r.add { d with standalone := s }).2.marks = r.marks ∪ Mark.reference d.id s := by
    ext ⟨x, b⟩
    simp only [Registry.marks, Mark.reference, Set.mem_union, Set.mem_ofPred_eq, hget]
    by_cases hx : x = d.id
    · subst hx
      simp [hn]
    · simp [hx]
  constructor
  · intro x e he
    rw [hget] at he
    split at he
    · obtain rfl := Option.some.inj he
      subst x
      refine ⟨M, ?_, hM.trans (by rw [hm]; exact Set.subset_union_left)⟩
      rw [Declaration.bare_standalone, hbare]
      exact hd
    · obtain ⟨M', hM', hsub⟩ := h x e he
      exact ⟨M', hM', hsub.trans (by rw [hm]; exact Set.subset_union_left)⟩
  · exact hm
  · intro x e he
    rw [hget]
    split
    · subst x
      rw [hn] at he
      cases he
    · exact ⟨e.standalone, he⟩
  · intro x e hx he
    rw [hget] at he
    split at he
    · obtain rfl := Option.some.inj he
      exact ⟨(congrArg Declaration.scope hbare).symm, congrArg Declaration.shape hbare⟩
    · rw [hx] at he
      cases he

end LoweringContext

end Bindery
