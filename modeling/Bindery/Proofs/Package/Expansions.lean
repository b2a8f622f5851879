import Bindery.Proofs.Native.Qualifiers
import Bindery.Proofs.Package.Supersession
import Bindery.Proofs.SpellingCalls

/-!
# Expansion of literals

Names and supersession leave the types of declarations as they are, and with them the order in
which synonyms come after what they mention. So spellings come to an end in every package, and no
function expands the literal of a synonym twice on its way. A definition and a reference within it
can both expand one, if the root of a typedef of a struct is given as a number or an enumeration.
-/

namespace Bindery

open Native (Identity TypeNode)

/-! ## Registries that differ by names -/

def Shape.unnamed : Shape → Shape
  | .struct members => .struct (members.map fun ms => ms.map fun m => { m with managed := "" })
  | .union members => .union (members.map fun ms => ms.map fun m => { m with managed := "" })
  | .enumeration base values => .enumeration base (values.map fun v => { v with managed := "" })
  | .synonym literal root strategy => .synonym literal root strategy

theorem Shape.synonym_of_unnamed {a b : Shape} (h : a.unnamed = b.unnamed) {literal : Descriptor} {root : Identity}
    {strategy : Strategy} (ha : a = .synonym literal root strategy) : b = .synonym literal root strategy := by
  subst ha
  cases b with
  | synonym => exact h.symm
  | _ => cases h

theorem Shape.struct_of_unnamed {a b : Shape} (h : a.unnamed = b.unnamed) {members : Option (List Member)}
    (ha : a = .struct members) : ∃ members', b = .struct members' := by
  subst ha
  cases b with
  | struct members' => exact ⟨members', rfl⟩
  | _ => cases h

namespace Registry

variable {r r' r'' : Registry}

/-- Two registries with the same declarations of the same types. Names, and which synonym stands in
whose place, may differ. -/
def SameTypes (r r' : Registry) : Prop := Rel (fun _ d d' => d'.shape.unnamed = d.shape.unnamed) r r'

theorem SameTypes.refl (r : Registry) : r.SameTypes r := Rel.refl fun _ _ _ => rfl

theorem SameTypes.contains_eq (h : r.SameTypes r') (id : Identity) : r'.contains id = r.contains id := by
  have := h id
  unfold Dict.contains
  generalize r.get? id = o at this ⊢
  generalize r'.get? id = o' at this ⊢
  cases this <;> rfl

theorem SameTypes.modify (h : r.SameTypes r') (id : Identity) {f : Declaration → Declaration}
    (hf : ∀ d, (f d).shape = d.shape) : SameTypes r (r'.modify id f) :=
  Rel.modify h fun _ d _ hd => by rw [hf, hd]

theorem SameTypes.take (h : r.SameTypes r') (t : Takeover) : r.SameTypes (r'.take t) := by
  unfold Registry.take
  split
  · exact h
  · split
    · exact h
    · dsimp only
      split
      · exact (h.modify _ (by exact fun _ => rfl)).modify _ (by exact fun _ => rfl)
      · exact h.modify _ (by exact fun _ => rfl)

theorem SameTypes.supersede (h : r.SameTypes r') (p : Package) : r.SameTypes (p.supersede r') := by
  unfold Package.supersede
  induction r'.values.filterMap (p.takeover? r') generalizing r' with
  | nil => exact h
  | cons t ts ih => exact ih (h.take t)

theorem InOrder.sameTypes {order : List Identity} (h : r.InOrder order) (hs : r.SameTypes r') : r'.InOrder order where
  nodup := h.nodup
  mem_iff id := by rw [hs.contains_eq, h.mem_iff]
  earlier hd hsyn hx := by
    obtain ⟨d₀, hd₀, hu⟩ := hs.of_get? hd
    exact h.earlier hd₀ (Shape.synonym_of_unnamed hu hsyn) hx

theorem LeadsToStruct.sameTypes (hs : r.SameTypes r') {id : Identity} (h : r'.LeadsToStruct id) :
    r.LeadsToStruct id := by
  induction h with
  | struct hd hst =>
    obtain ⟨d₀, hd₀, hu⟩ := hs.of_get? hd
    obtain ⟨ms, hms⟩ := Shape.struct_of_unnamed hu hst
    exact .struct hd₀ hms
  | synonym hd hsyn _ ih =>
    obtain ⟨d₀, hd₀, hu⟩ := hs.of_get? hd
    exact .synonym hd₀ (Shape.synonym_of_unnamed hu hsyn) ih

end Registry

/-! ## Roots that are not what they are said to be -/

/-- A typedef of a struct, the root of which is given as a fundamental type or an enumeration. -/
def Native.Document.Misrooted (d : Native.Document) (id : Identity) : Prop :=
  ∃ t target s, d.types.get? id = some (.typedef t) ∧ d.strip id = .ok (target, .struct s) ∧
    t.root.getD t.base ≠ target ∧
    ((∃ name size, d.types.get? (t.root.getD t.base) = some (.fundamental name size)) ∨
      ∃ e, d.types.get? (t.root.getD t.base) = some (.enumeration e))

namespace LoweringContext

variable {c : LoweringContext} {r r' : Registry}

/-- What lowers to a declaration is declared itself, or leads there through qualifiers. -/
theorem Lowers.follows {id x : Identity} {s : Bool} {d : Descriptor} {n : Nat} {M : Set Mark}
    (h : c.Lowers id s d n M) (hd : d = .declared x) {k : Nat} {out : Identity × TypeNode}
    (hx : c.document.Follows TypeNode.underlying? k x out) : ∃ j, c.document.Follows TypeNode.underlying? j id out := by
  induction h with
  | overridden _ ho =>
    obtain ⟨_, _, _, rfl⟩ := override?_plain ho
    cases hd
  | fundamental _ hl =>
    rcases lowerFundamental_plain hl with rfl | ⟨_, _, _, rfl⟩ <;> cases hd
  | enumeration | struct | union | typedef =>
    cases hd
    exact ⟨k, hx⟩
  | qualified h _ ih =>
    obtain ⟨j, hj⟩ := ih hd
    exact ⟨j + 1, .step h.1 rfl hj⟩
  | array | pointer | voidTypedef | function | unimplemented => cases hd

theorem Consistent.strips_to_struct (hc : c.Consistent r) {id : Identity} (h : r.LeadsToStruct id) :
    ∃ k target s, c.document.Follows TypeNode.underlying? k id (target, .struct s) := by
  induction h with
  | @struct id d ms hd hs =>
    obtain ⟨M, hM, -⟩ := hc id d hd
    have hbare : d.bare.shape = .struct none := by rw [Declaration.bare, hs]; rfl
    generalize d.bare = e at hM hbare
    cases hM with
    | struct hp => exact ⟨0, id, _, .here hp.1 rfl⟩
    | _ => cases hbare
  | synonym hd hs _ ih =>
    obtain ⟨k, target, s, hf⟩ := ih
    obtain ⟨t, _, _, _, hp, -, hb, -⟩ := hc.typedef_lowers hd hs
    obtain ⟨j, hj⟩ := hb.follows rfl hf
    exact ⟨j + 1, target, s, .step hp.1 rfl hj⟩

theorem Consistent.misrooted (hc : c.Consistent r) {id : Identity} {d : Declaration} {literal : Descriptor}
    {root : Identity} (hd : r.get? id = some d) (hs : d.shape = .synonym literal root .cast)
    (h : r.LeadsToStruct id) : c.document.Misrooted id := by
  obtain ⟨k, target, s, hf⟩ := hc.strips_to_struct h
  obtain ⟨t, node, _, _, hp, hr, -, -, -, hcast⟩ := hc.typedef_lowers hd hs
  have htarget : c.document.types.get? target = some (.struct s) := hf.get?
  have hnode : (∃ name size, node = .fundamental name size) ∨ ∃ e, node = .enumeration e := by
    cases node with
    | fundamental name size => exact .inl ⟨name, size, rfl⟩
    | enumeration e => exact .inr ⟨e, rfl⟩
    | _ => cases hcast
  refine ⟨t, target, s, hp.1, Native.Document.strip_ok.2 ⟨k, hf⟩, ?_, ?_⟩
  · rintro rfl
    rw [hr] at htarget
    obtain rfl := Option.some.inj htarget
    cases hcast
  · rcases hnode with ⟨name, size, rfl⟩ | ⟨e, rfl⟩
    · exact .inl ⟨name, size, hr⟩
    · exact .inr ⟨e, hr⟩

/-! ## Spelling comes to an end -/

/-- Whatever a typedef mentions is in the registry before the typedef. So whatever names are given, and
whichever typedefs take the places of others, all spellings come to an end. On the way no function expands
the literal of a typedef twice, and two functions do so only if the root of the typedef is given wrongly. -/
theorem spelling_comes_to_end (hr : c.Reached r) (hs : r.SameTypes r') :
    (∀ {depth id s d r₂}, r.contains id = false → (c.lowerWithin depth id s).run r = .ok (d, r₂) →
      ∀ {e literal root strategy}, r₂.get? id = some e → e.shape = .synonym literal root strategy →
        ∃ r₁ : Registry, r₁.contains id = false ∧ r₁.add e = (true, r₂) ∧
          ∀ x ∈ literal.references, r₁.contains x = true) ∧
    (∃ order, r.InOrder order) ∧
    (∀ p : Package, r.SameTypes (p.supersede r')) ∧
    r'.SpellingEnds ∧
    ∀ calls : List SpellingCall, calls.IsChain r'.Calls → calls.Pairwise fun a b =>
      ∀ id, r'.Expands a id → r'.Expands b id →
        a = .definition id ∧ b = .reference id ∧ c.document.Misrooted id := by
  have hc := hr.continues.consistent
  obtain ⟨order, ho⟩ := hr.inOrder
  have ho' := ho.sameTypes hs
  refine ⟨fun hn h _ _ _ _ he hsyn => inserted_after_mentions hc hn h he hsyn, ⟨order, ho⟩, hs.supersede,
    ho'.spellingEnds, fun calls hchain => ?_⟩
  have hsteps : calls.Pairwise (Relation.TransGen r'.Calls) :=
    (hchain.imp fun _ _ h => Relation.TransGen.single h).pairwise
  refine hsteps.imp fun {a b} hab id ha hb => ?_
  obtain ⟨rfl, rfl, hstruct⟩ := ho'.expands_once hab ha hb
  refine ⟨rfl, rfl, ?_⟩
  cases hb with
  | reference hd hm hsyn =>
    obtain ⟨d₀, hd₀, hu⟩ := hs.of_get? (Registry.target?_unnamed hd hm)
    exact hc.misrooted hd₀ (Shape.synonym_of_unnamed hu hsyn) (hstruct.sameTypes hs)

/-- A struct that refers to itself through a pointer to a typedef of the same name. -/
def rings : Package where
  settings := { name := "rings" }
  filter := .all
  rules := {}
  ownedFiles := ["f"]
  document := {
    files := [⟨"f", "ring.h"⟩]
    types := Dict.ofList [
      ("next", .pointer "ring_t" 8),
      ("ring", .struct { name := "ring", file := "f", size := 8, fields := [⟨"next", "next"⟩] }),
      ("ring_t", .typedef { name := "ring", file := "f", base := "ring", root := some "ring", size := 8 })] }

theorem rings_come_to_end : ∃ r, rings.context.Reached r ∧ r.SameTypes (rings.supersede r) ∧
    ((rings.supersede r).get? "ring").bind (·.supersededBy) = some "ring_t" ∧
    (∃ order, r.InOrder order) ∧ (rings.supersede r).SpellingEnds ∧
    ∀ calls : List SpellingCall, calls.IsChain (rings.supersede r).Calls → calls.Pairwise fun a b =>
      ∀ id, (rings.supersede r).Expands a id → (rings.supersede r).Expands b id →
        a = .definition id ∧ b = .reference id ∧ rings.document.Misrooted id := by
  have requested : rings.context.Reached _ := .serve (q := .lower "ring_t" true) .empty rfl
  have populated : ∃ r, rings.context.Reached r ∧
      ((rings.supersede r).get? "ring").bind (·.supersededBy) = some "ring_t" :=
    ⟨_, .populate requested rfl, rfl⟩
  obtain ⟨r, hr, htaken⟩ := populated
  have hs : r.SameTypes (rings.supersede r) := (Registry.SameTypes.refl r).supersede rings
  obtain ⟨-, horder, -, hends, honce⟩ := spelling_comes_to_end hr hs
  exact ⟨r, hr, hs, htaken, horder, hends, honce⟩

/-- A struct that refers to itself through a typedef of it, the root of which is given as a number. -/
def knot : LoweringContext where
  document := {
    files := [⟨"f", "node.h"⟩]
    types := Dict.ofList [
      ("int", .fundamental "int" 4),
      ("node", .struct { name := "node", file := "f", size := 8, fields := [⟨"next", "node_t"⟩] }),
      ("node_t", .typedef { name := "node_t", file := "f", base := "node", root := some "int", size := 4 })] }
  rules := {}

/-- A typedef is expanded by its definition, and again by the reference from the struct that it stands for. -/
theorem knot_expanded_twice : knot.document.accept = .ok knot.document ∧ knot.document.Acyclic ∧
    ∃ r, knot.Reached r ∧ ∃ calls : List SpellingCall, calls.IsChain r.Calls ∧
      ¬ calls.Pairwise fun a b => ∀ id, r.Expands a id → ¬ r.Expands b id := by
  have acyclic : knot.document.Acyclic :=
    Native.Document.acyclic_of_rank (fun id => if id = "node_t" then 1 else 0) (by decide)
  have requested : knot.Reached _ := .serve (q := .lower "node_t" true) .empty rfl
  have populated : ∃ r, knot.Reached r ∧
      (∃ d, r.get? "node_t" = some d ∧ r.target? "node_t" = some d ∧ d.managed = "" ∧
        d.shape = .synonym (.declared "node") "int" .cast) ∧
      ∃ l m, r.get? "node" = some l ∧ l.isEmitted = false ∧ l.shape = .struct (some [m]) ∧
        m.type = .declared "node_t" :=
    ⟨_, .populate requested rfl, ⟨_, rfl, rfl, rfl, rfl⟩, _, _, rfl, rfl, rfl, rfl⟩
  obtain ⟨r, hr, ⟨d, hd, ht, hm, hs⟩, l, m, hl, hem, hst, htype⟩ := populated
  refine ⟨rfl, acyclic, r, hr,
    [.definition "node_t", .definition "node", .type (.declared "node_t"), .reference "node_t"], ?_, fun h => ?_⟩
  · have hmember : r.Calls (.definition "node") (.type (.declared "node_t")) :=
      htype ▸ .member hl hst List.mem_cons_self
    exact .cons_cons (.inFull hd hs hl hem) (.cons_cons hmember (.cons_cons .declared (.singleton _)))
  · have hpair := (List.pairwise_cons.1 h).1 (.reference "node_t") (by simp)
    exact hpair "node_t" (.definition hd hs) (.reference ht hm hs)

end LoweringContext

end Bindery
