import Bindery.Proofs.Lowering.Population

/-!
# Closed registries

When nothing waits for members any more, whatever a declaration is made of is declared as
well and has a spelling in both languages. The managed spelling of a synonym leads on to
what the synonym stands for, through ever shorter walks over the document, so that it ends
before the registry is used up.
-/

namespace Bindery

open Native (Identity Fundamental)

/-! ## References -/

namespace Descriptor

mutual

def references : Descriptor → List Identity
  | .array elem _ => elem.references
  | .slice elem => elem.references
  | .sliceOfSlice elem => elem.references
  | .pointer target => target.references
  | .outPointer target => target.references
  | .callbackOutPointer target => target.references
  | .callable inputs outputs => referencesOf inputs ++ referencesOf outputs
  | .declared id => [id]
  | _ => []

def referencesOf : List Descriptor → List Identity
  | [] => []
  | d :: ds => d.references ++ referencesOf ds

end

end Descriptor

namespace Declaration

def parts (d : Declaration) : List Descriptor :=
  match d.shape with
  | .struct (some members) => members.map (·.type)
  | .union (some members) => members.map (·.type)
  | .synonym literal .. => [literal]
  | _ => []

theorem mem_parts {d : Declaration} {t : Descriptor} (h : t ∈ d.parts) :
    (∃ ms, d.slot? = some (some ms) ∧ ∃ m ∈ ms, m.type = t) ∨
      ∃ root strategy, d.shape = .synonym t root strategy := by
  unfold parts at h
  unfold slot?
  split at h
  · rename_i ms hs
    rw [hs]
    exact .inl ⟨ms, rfl, List.mem_map.1 h⟩
  · rename_i ms hs
    rw [hs]
    exact .inl ⟨ms, rfl, List.mem_map.1 h⟩
  · rename_i literal root strategy hs
    obtain rfl := List.mem_singleton.1 h
    exact .inr ⟨root, strategy, hs⟩
  · cases h

theorem nativeName_ne_empty (d : Declaration) : d.nativeName ≠ "" := by
  unfold nativeName
  split
  · split
    · decide
    · split <;> simp [byteBlock]
  · split <;> simp [byteBlock]
  · split
    · unfold nativeInteger
      split <;> decide
    · simp
  · simp

end Declaration

theorem managedNumber?_ne_empty {k : Native.NumberClass} {n : Nat} {name : String}
    (h : managedNumber? k n = some name) : name ≠ "" := by
  unfold managedNumber? at h
  split at h <;> cases h <;> decide

theorem Native.Fundamental.cgoName_ne_empty (f : Fundamental) : f.cgoName ≠ "" := by
  cases f <;> decide

namespace LoweringContext

variable {c : LoweringContext} {r r' : Registry}

variable (c) in
/-- No native type is replaced by a number type without a name. -/
def NamesNumbers : Prop := ∀ native managed, c.rules.overrides.get? native = some managed → managed ≠ ""

/-- A reference within the result of a lowering has been marked by it. -/
theorem Lowers.references_marked {id : Identity} {s : Bool} {d : Descriptor} {n : Nat} {M : Set Mark}
    (h : c.Lowers id s d n M) {x : Identity} (hx : x ∈ d.references) : (x, false) ∈ M := by
  induction h with
  | overridden hn ho =>
    obtain ⟨_, _, _, rfl⟩ := override?_plain ho
    cases hx
  | fundamental h hd =>
    rcases lowerFundamental_plain hd with rfl | ⟨_, _, _, rfl⟩ <;> cases hx
  | enumeration | struct | union => exact ⟨List.mem_singleton.1 hx, nofun⟩
  | typedef => exact .inr ⟨List.mem_singleton.1 hx, nofun⟩
  | array _ _ _ ih | pointer _ _ ih | qualified _ _ ih => exact ih hx
  | voidTypedef | function | unimplemented => cases hx

/-! ## Spellings -/

theorem override?_ne_empty (ho : c.NamesNumbers) {node : Native.TypeNode} {managed native : String}
    {n : Nat} (h : c.override? node = some (.number managed native n)) : managed ≠ "" ∧ native ≠ "" := by
  unfold override? at h
  obtain ⟨name, -, h⟩ := Option.bind_eq_some_iff.1 h
  obtain ⟨m, hm, h⟩ := Option.bind_eq_some_iff.1 h
  cases h
  refine ⟨ho _ _ hm, ?_⟩
  cases node.fundamental? with
  | none => simp
  | some f => exact f.cgoName_ne_empty

theorem lowerFundamental_ne_empty {id : Identity} {name managed native : String} {size n : Nat}
    (h : lowerFundamental id name size = .ok (.number managed native n)) :
    managed ≠ "" ∧ native ≠ "" := by
  unfold lowerFundamental at h
  split at h
  · cases h
  · cases h
  · cases h
    decide
  · split at h
    · rename_i hm
      cases h
      obtain ⟨k, -, hm⟩ := Option.bind_eq_some_iff.1 hm
      exact ⟨managedNumber?_ne_empty hm, Fundamental.cgoName_ne_empty _⟩
    · cases h

/-- A type with values has a managed spelling wherever all that it refers to has one. -/
theorem Lowers.spell_ne_empty (ho : c.NamesNumbers) {named : Identity → Bool} {refer : Identity → String}
    {id : Identity} {s : Bool} {d : Descriptor} {n : Nat} {M : Set Mark} (h : c.Lowers id s d n M)
    (hv : d.isVoid = false) (hr : ∀ x ∈ d.references, refer x ≠ "") : d.spell named refer ≠ "" := by
  induction h with
  | overridden hn hover =>
    obtain ⟨_, _, _, rfl⟩ := override?_plain hover
    exact (override?_ne_empty ho hover).1
  | fundamental h hd =>
    rcases lowerFundamental_plain hd with rfl | ⟨_, _, _, rfl⟩
    · cases hv
    · exact (lowerFundamental_ne_empty hd).1
  | enumeration | struct | union | typedef => exact hr _ List.mem_cons_self
  | array => simp [Descriptor.spell]
  | pointer =>
    unfold Descriptor.spell
    split
    · decide
    · decide
    · split <;> simp
    · simp
  | qualified _ _ ih => exact ih hv hr
  | voidTypedef | unimplemented => cases hv
  | function => simp [Descriptor.spell]

theorem Lowers.nativeName_ne_empty (ho : c.NamesNumbers) {id : Identity} {s : Bool} {d : Descriptor}
    {n : Nat} {M : Set Mark} (h : c.Lowers id s d n M) (hv : d.isVoid = false) (hM : M ⊆ r.marks) :
    d.nativeName r ≠ "" := by
  have declared {id : Identity} {s : Bool} (hm : Mark.reference id s ⊆ r.marks) :
      (Descriptor.declared id).nativeName r ≠ "" := by
    obtain ⟨e, he⟩ := get?_of_reference hm
    rw [Descriptor.nativeName, he]
    exact e.nativeName_ne_empty
  induction h with
  | overridden hn hover =>
    obtain ⟨_, _, _, rfl⟩ := override?_plain hover
    exact (override?_ne_empty ho hover).2
  | fundamental h hd =>
    rcases lowerFundamental_plain hd with rfl | ⟨_, _, _, rfl⟩
    · cases hv
    · exact (lowerFundamental_ne_empty hd).2
  | enumeration | struct | union => exact declared hM
  | typedef => exact declared (Set.subset_union_right.trans hM)
  | array => simp [Descriptor.nativeName]
  | pointer =>
    rw [Descriptor.nativeName, Descriptor.nativeName.pointerTo]
    split
    · decide
    · simp
  | qualified _ _ ih => exact ih hv hM
  | voidTypedef | unimplemented => cases hv
  | function => simp [Descriptor.nativeName]

/-! ## References without a name -/

theorem Consistent.base_ne_empty (h : c.Consistent r) {id : Identity} {d : Declaration}
    (hd : r.get? id = some d) {base : String} {values : List Constant}
    (hs : d.shape = .enumeration base values) : base ≠ "" := by
  obtain ⟨M, hM, -⟩ := h id d hd
  have hbare : d.bare.shape = .enumeration base values := by rw [Declaration.bare, hs]; rfl
  generalize d.bare = e at hM hbare
  cases hM with
  | enumeration _ hb => cases hbare; exact managedNumber?_ne_empty hb
  | _ => cases hbare

/-- A synonym has been described by a typedef, and its literal has been lowered from the base of that. -/
theorem Consistent.typedef_lowers (h : c.Consistent r) {id : Identity} {d : Declaration}
    (hd : r.get? id = some d) {literal : Descriptor} {root : Identity} {strategy : Strategy}
    (hs : d.shape = .synonym literal root strategy) :
    ∃ t node n M, c.Plain id (.typedef t) ∧ c.document.types.get? (t.root.getD t.base) = some node ∧
      c.Lowers t.base (declaresLiteral node) literal n M ∧ M ⊆ r.marks ∧ literal.isVoid = false ∧
      strategy = synonymStrategy node := by
  obtain ⟨M, hM, hmarks⟩ := h id d hd
  have hbare : d.bare.shape = .synonym literal root strategy := by rw [Declaration.bare, hs]; rfl
  generalize d.bare = e at hM hbare
  cases hM with
  | typedef hp hr hb hv =>
    obtain ⟨rfl, -, rfl⟩ := Shape.synonym.inj hbare
    exact ⟨_, _, _, M, hp, hr, hb, hmarks, hv, rfl⟩
  | _ => cases hbare

theorem Consistent.literal_lowers (h : c.Consistent r) {id : Identity} {d : Declaration}
    (hd : r.get? id = some d) {literal : Descriptor} {root : Identity} {strategy : Strategy}
    (hs : d.shape = .synonym literal root strategy) : literal.isVoid = false ∧
      ∃ next s n M, c.next? id = some next ∧ c.Lowers next s literal n M ∧ M ⊆ r.marks := by
  obtain ⟨t, _, _, M, hp, -, hb, hmarks, hv, -⟩ := h.typedef_lowers hd hs
  exact ⟨hv, _, _, _, M, hp.next?, hb, hmarks⟩

theorem Consistent.target? (h : c.Consistent r) {id : Identity} {d : Declaration}
    (hd : r.get? id = some d) : r.target? id = some d ∧ d.managed = "" := by
  obtain ⟨M, hM, -⟩ := h id d hd
  have hb := Declaration.Blank.of_bare hM.blank
  refine ⟨?_, hb.managed⟩
  rw [Registry.target?, hd]
  simp [hb.supersededBy]

/-- The synonyms that have been `passed` are different declarations with longer walks before
them, so the depth that is left suffices for the rest of the chain. -/
theorem Consistent.referWithin_ne_empty (ho : c.NamesNumbers) (h : c.Consistent r) {depth k : Nat}
    {id : Identity} (hid : (id, false) ∈ r.marks) (hk : c.Ends k id) {passed : List Identity}
    (hnd : passed.Nodup) (hsub : passed ⊆ r.keys) (hlong : ∀ x ∈ passed, ∃ j > k, c.Ends j x)
    (hd : r.size < depth + passed.length) : r.referWithin depth id ≠ "" := by
  induction depth generalizing id k passed with
  | zero =>
    have := hnd.length_le_of_subset hsub
    simp only [Dict.keys, Dict.size, List.length_map] at this hd
    omega
  | succ depth ih =>
    obtain ⟨d, hget⟩ := Registry.exists_of_mem_marks hid
    obtain ⟨htarget, hblank⟩ := h.target? hget
    rw [Registry.referWithin, htarget]
    dsimp only
    rw [if_neg (by simp [hblank])]
    have hmem : id ∈ r.keys := Dict.mem_keys_of_get? hget
    have hnew : id ∉ passed := by
      intro hp
      obtain ⟨j, hj, he⟩ := hlong id hp
      have := he.unique hk
      omega
    split
    · rename_i base values hs
      exact h.base_ne_empty hget hs
    · rename_i literal root hs
      obtain ⟨hv, next, _, _, M, hnext, hb, hmarks⟩ := h.literal_lowers hget hs
      obtain ⟨k', hk', hends⟩ := hb.ends
      obtain rfl := hk.unique (.step hnext hk')
      refine hb.spell_ne_empty ho hv fun x hx => ?_
      have hmark := hb.references_marked hx
      obtain ⟨j, hj, he⟩ := hends _ hmark
      refine ih (hmarks hmark) he (List.nodup_cons.2 ⟨hnew, hnd⟩) (List.cons_subset.2 ⟨hmem, hsub⟩)
        (fun y hy => ?_) (by rw [List.length_cons]; omega)
      rcases List.mem_cons.1 hy with rfl | hy
      · exact ⟨k' + 1, by omega, hk⟩
      · obtain ⟨i, hi, hy⟩ := hlong y hy
        exact ⟨i, by omega, hy⟩
    · decide
    · simp [Declaration.byteBlock]

theorem Consistent.managedName_ne_empty (hd : c.document.Acyclic) (ho : c.NamesNumbers)
    (h : c.Consistent r) {id : Identity} (hid : (id, false) ∈ r.marks) : r.managedName id ≠ "" := by
  obtain ⟨k, hk⟩ := Ends.of_acyclic hd id
  exact h.referWithin_ne_empty ho hid hk List.nodup_nil (List.nil_subset _) nofun (by simp)

/-! ## Complete registries -/

variable (c) in
structure Complete (r : Registry) : Prop where
  settled : pending r = []
  /-- Structs and unions have the fields of their nodes, in order, with the types of their values. -/
  members : ∀ {id d slot}, r.get? id = some d → d.slot? = some slot →
    ∃ s ms, slot = some ms ∧ c.document.composite? id = some s ∧
      List.Forall₂ (fun m f => m.native = f.name ∧
        ∀ place, (c.value f.type place).run r = .ok (m.type, r)) ms s.fields
  closed : ∀ {id d t x}, r.get? id = some d → t ∈ d.parts → x ∈ t.references → r.contains x = true
  spelled : ∀ {id d t}, r.get? id = some d → t ∈ d.parts → t.managedName r ≠ "" ∧ t.nativeName r ≠ ""
  named : ∀ {id}, r.contains id = true →
    r.managedName id ≠ "" ∧ (Descriptor.declared id).nativeName r ≠ ""

theorem exists_field {ms : List Member} {fs : List Native.Field} (h : List.Forall₂ (c.Fits r) ms fs)
    {m : Member} (hm : m ∈ ms) : ∃ f, c.Fits r m f := by
  induction h with
  | nil => cases hm
  | cons hf _ ih =>
    rcases List.mem_cons.1 hm with rfl | hm
    · exact ⟨_, hf⟩
    · exact ih hm

/-- The types that a declaration is made of are lowered from types of the document, and all
that their lowering has marked is there. -/
theorem Settled.part_lowers (h : c.Settled r) {id : Identity} {d : Declaration} {t : Descriptor}
    (hd : r.get? id = some d) (ht : t ∈ d.parts) :
    t.isVoid = false ∧ ∃ type s n M, c.Lowers type s t n M ∧ M ⊆ r.marks := by
  rcases Declaration.mem_parts ht with ⟨ms, hslot, m, hm, rfl⟩ | ⟨root, strategy, hs⟩
  · obtain ⟨s, -, hfit⟩ := h.fits (Registry.members?_eq_some.2 ⟨d, hd, hslot⟩)
    obtain ⟨f, -, hv, n, M, hM, hmarks⟩ := exists_field hfit hm
    exact ⟨hv, _, _, n, M, hM, hmarks⟩
  · obtain ⟨hv, next, _, _, M, -, hb, hmarks⟩ := h.consistent.literal_lowers hd hs
    exact ⟨hv, next, _, _, M, hb, hmarks⟩

theorem Settled.complete (hd : c.document.Acyclic) (ho : c.NamesNumbers) (h : c.Settled r)
    (hp : pending r = []) : c.Complete r := by
  have marked {id : Identity} (hid : r.contains id = true) : (id, false) ∈ r.marks := by
    obtain ⟨d, hd⟩ := Option.isSome_iff_exists.1 hid
    exact Registry.mem_marks_of_get? hd
  have known {id : Identity} (hid : (id, false) ∈ r.marks) : r.contains id = true := by
    obtain ⟨d, hd⟩ := Registry.exists_of_mem_marks hid
    rw [Dict.contains, hd, Option.isSome_some]
  constructor
  case settled => exact hp
  case members =>
    intro id d slot hid hslot
    cases slot with
    | none =>
      have := (mem_pending h.consistent).2 ⟨d, hid, hslot⟩
      rw [hp] at this
      cases this
    | some ms =>
      obtain ⟨s, hs, hfit⟩ := h.fits (Registry.members?_eq_some.2 ⟨d, hid, hslot⟩)
      exact ⟨s, ms, rfl, hs, hfit.imp fun m f hf => ⟨hf.1, hf.value h.consistent⟩⟩
  case closed =>
    intro id d t x hid ht hx
    obtain ⟨-, _, _, _, M, hM, hmarks⟩ := h.part_lowers hid ht
    exact known (hmarks (hM.references_marked hx))
  case spelled =>
    intro id d t hid ht
    obtain ⟨hv, _, _, _, M, hM, hmarks⟩ := h.part_lowers hid ht
    refine ⟨hM.spell_ne_empty ho hv fun x hx => ?_, hM.nativeName_ne_empty ho hv hmarks⟩
    exact h.consistent.managedName_ne_empty hd ho (hmarks (hM.references_marked hx))
  case named =>
    intro id hid
    refine ⟨h.consistent.managedName_ne_empty hd ho (marked hid), ?_⟩
    obtain ⟨d, hd⟩ := Option.isSome_iff_exists.1 hid
    rw [Descriptor.nativeName, hd]
    exact d.nativeName_ne_empty

/-- Whatever has been requested, populating comes to its end, and if it succeeds the registry
is complete after no more passes than there are struct and union nodes. Populating it again
does nothing. -/
theorem population_complete (hd : c.document.Acyclic) (ho : c.NamesNumbers) (hr : c.Requested r) :
    c.Populates r (c.populate.run r) ∧ (∀ e, c.populate.run r = .error e → ¬ Endless e) ∧
      ∀ n r', c.populate.run r = .ok (n, r') →
        c.Complete r' ∧ n ≤ c.document.composites.length ∧ c.populate.run r' = .ok (0, r') := by
  obtain ⟨hloop, hspec⟩ := hr.settled.populate
  refine ⟨hloop, never_populateWithin hd _ r, fun n r' hrun => ?_⟩
  obtain ⟨hprog, hnone, hn⟩ := hspec n r' hrun
  exact ⟨hprog.settled.complete hd ho hnone, hn, populateWithin_done hnone _⟩

/-- A record in a list, whose key is declared only once the record has its members. -/
def keyedRecords : LoweringContext where
  document := { types := Dict.ofList [
    ("int", .fundamental "int" 4),
    ("key", .struct { name := "key", file := "f", size := 4, fields := [⟨"code", "int"⟩] }),
    ("key_p", .pointer "key_t" 8),
    ("key_t", .typedef { name := "key_t", file := "f", base := "key", root := some "key", size := 4 }),
    ("record", .struct { name := "record", file := "f", size := 16
                         fields := [⟨"key", "key_p"⟩, ⟨"next", "record_p"⟩] }),
    ("record_p", .pointer "record" 8)] }
  rules := {}

theorem keyedRecords_populated :
    ∃ r r', keyedRecords.Requested r ∧ keyedRecords.populate.run r = .ok (2, r') ∧
      keyedRecords.Complete r' ∧ 2 ≤ keyedRecords.document.composites.length ∧
      keyedRecords.populate.run r' = .ok (0, r') := by
  have acyclic : keyedRecords.document.Acyclic :=
    Native.Document.acyclic_of_rank (fun id => if id = "key_p" then 2 else
      if id = "key_t" ∨ id = "record_p" then 1 else 0) (by decide)
  have requested : keyedRecords.Requested _ := .serve (q := .resolve "record_p" .plain) .empty rfl
  obtain ⟨-, -, spec⟩ := population_complete acyclic nofun requested
  exact ⟨_, _, requested, rfl, spec _ _ rfl⟩

end LoweringContext

end Bindery
