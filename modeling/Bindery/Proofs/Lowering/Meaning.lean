import Bindery.Proofs.Native.Chain
import Mathlib.Data.Set.Basic

/-!
# Lowering without a registry

What a type lowers to depends on the document and the rules alone. `Lowers` says to which
descriptor, of which size, and which declarations the lowering marks, and `Describes` which
declaration is registered for a type. Both determine their results, and a lowering passes
through no more nodes than the document has.
-/

namespace Bindery

open Native (Identity TypeNode Typedef)

/-- An identity of a registry, with `true` as one that is declared by itself. -/
abbrev Mark := Identity × Bool

namespace Mark

def reference (id : Identity) (standalone : Bool) : Set Mark :=
  {m | m.1 = id ∧ (m.2 = true → standalone = true)}

end Mark

namespace LoweringContext

variable (c : LoweringContext)

/-- A node of the document that no override replaces. -/
def Plain (id : Identity) (node : TypeNode) : Prop :=
  c.document.types.get? id = some node ∧ c.override? node = none

variable {c}

theorem Plain.unique {id : Identity} {node node' : TypeNode} (h : c.Plain id node)
    (h' : c.Plain id node') : node = node' :=
  Option.some.inj (h.1.symm.trans h'.1)

theorem Plain.not_override {id : Identity} {node node' : TypeNode} {d : Descriptor}
    (h : c.Plain id node) (hn : c.document.types.get? id = some node')
    (ho : c.override? node' = some d) : False := by
  obtain rfl := Option.some.inj (h.1.symm.trans hn)
  rw [h.2] at ho
  cases ho

variable (c)

/-! ## The relation -/

/-- The lowering of a type, with the size of its values and the marks that it leaves. -/
inductive Lowers : Identity → (standalone : Bool) → Descriptor → (size : Nat) → Set Mark → Prop
  | overridden {id s node d} (hn : c.document.types.get? id = some node)
      (ho : c.override? node = some d) : Lowers id s d (d.size {} c.rules.pointerWidth) ∅
  | fundamental {id s name size d} (h : c.Plain id (.fundamental name size))
      (hd : lowerFundamental id name size = .ok d) :
      Lowers id s d (d.size {} c.rules.pointerWidth) ∅
  | enumeration {id s e base} (h : c.Plain id (.enumeration e))
      (hb : managedNumber? .signed (e.size * 8) = some base) :
      Lowers id s (.declared id) e.size (Mark.reference id s)
  | array {id s element length size d n M} (h : c.Plain id (.array element length size))
      (he : Lowers element true d n M) (hv : d.isVoid = false) :
      Lowers id s (.array d length) (n * length) M
  | struct {id s t} (h : c.Plain id (.struct t)) :
      Lowers id s (.declared id) t.size (Mark.reference id s)
  | union {id s t} (h : c.Plain id (.union t)) :
      Lowers id s (.declared id) t.size (Mark.reference id s)
  | pointer {id s pointee size d n M} (h : c.Plain id (.pointer pointee size))
      (hp : Lowers pointee true d n M) : Lowers id s (.pointer d) c.rules.pointerWidth M
  | typedef {id s t root d n M} (h : c.Plain id (.typedef t))
      (hr : c.document.types.get? (t.root.getD t.base) = some root)
      (hb : Lowers t.base (declaresLiteral root) d n M) (hv : d.isVoid = false) :
      Lowers id s (.declared id) (if t.size = 0 then n else t.size) (M ∪ Mark.reference id s)
  | voidTypedef {id s t root d n M} (h : c.Plain id (.typedef t))
      (hr : c.document.types.get? (t.root.getD t.base) = some root)
      (hb : Lowers t.base (declaresLiteral root) d n M) (hv : d.isVoid = true) :
      Lowers id s .void 0 M
  | function {id s f} (h : c.Plain id (.function f)) : Lowers id s .opaqueFunction 0 ∅
  | qualified {id s base d n M} (h : c.Plain id (.qualified base)) (hb : Lowers base true d n M) :
      Lowers id s d n M
  | unimplemented {id s name} (h : c.Plain id (.unimplemented name)) : Lowers id s .void 0 ∅

inductive Describes : Identity → Declaration → Set Mark → Prop
  | enumeration {id e base} (h : c.Plain id (.enumeration e))
      (hb : managedNumber? .signed (e.size * 8) = some base) :
      Describes id { id, native := e.name, file := e.file, size := e.size,
                     shape := .enumeration base (constantsOf id e) } ∅
  | struct {id t} (h : c.Plain id (.struct t)) :
      Describes id { id, native := t.name, file := t.file, size := t.size, shape := .struct none } ∅
  | union {id t} (h : c.Plain id (.union t)) :
      Describes id { id, native := t.name, file := t.file, size := t.size, shape := .union none } ∅
  | typedef {id t root d n M} (h : c.Plain id (.typedef t))
      (hr : c.document.types.get? (t.root.getD t.base) = some root)
      (hb : Lowers c t.base (declaresLiteral root) d n M) (hv : d.isVoid = false) :
      Describes id { id, native := t.name, file := t.file, size := if t.size = 0 then n else t.size,
                     shape := .synonym d (t.root.getD t.base) (synonymStrategy root) } M

variable {c}

theorem Lowers.exists_node {id : Identity} {s : Bool} {d : Descriptor} {n : Nat} {M : Set Mark}
    (h : c.Lowers id s d n M) : ∃ node, c.document.types.get? id = some node := by
  cases h with
  | overridden hn _ => exact ⟨_, hn⟩
  | _ => exact ⟨_, (‹c.Plain id _›).1⟩

theorem Lowers.unique {id : Identity} {s : Bool} {d d' : Descriptor} {n n' : Nat} {M M' : Set Mark}
    (h : c.Lowers id s d n M) (h' : c.Lowers id s d' n' M') : d = d' ∧ n = n' ∧ M = M' := by
  -- an override excludes all other rules, and among these the node decides
  induction h generalizing d' n' M' with
  | overridden hn ho =>
    cases h' with
    | overridden hn' ho' =>
      cases hn.symm.trans hn'
      cases ho.symm.trans ho'
      exact ⟨rfl, rfl, rfl⟩
    | _ => exact (Plain.not_override ‹_› hn ho).elim
  | array h _ _ ih =>
    cases h' with
    | overridden hn' ho' => exact (h.not_override hn' ho').elim
    | array h' he' _ =>
      cases h.unique h'
      obtain ⟨rfl, rfl, rfl⟩ := ih he'
      exact ⟨rfl, rfl, rfl⟩
    | _ => cases h.unique ‹_›
  | pointer h _ ih =>
    cases h' with
    | overridden hn' ho' => exact (h.not_override hn' ho').elim
    | pointer h' hp' =>
      cases h.unique h'
      obtain ⟨rfl, rfl, rfl⟩ := ih hp'
      exact ⟨rfl, rfl, rfl⟩
    | _ => cases h.unique ‹_›
  | qualified h _ ih =>
    cases h' with
    | overridden hn' ho' => exact (h.not_override hn' ho').elim
    | qualified h' hb' =>
      cases h.unique h'
      exact ih hb'
    | _ => cases h.unique ‹_›
  | typedef h hr _ hv ih =>
    cases h' with
    | overridden hn' ho' => exact (h.not_override hn' ho').elim
    | typedef h' hr' hb' _ =>
      cases h.unique h'
      cases hr.symm.trans hr'
      obtain ⟨rfl, rfl, rfl⟩ := ih hb'
      exact ⟨rfl, rfl, rfl⟩
    | voidTypedef h' hr' hb' hv' =>
      cases h.unique h'
      cases hr.symm.trans hr'
      obtain ⟨rfl, rfl, rfl⟩ := ih hb'
      rw [hv] at hv'
      cases hv'
    | _ => cases h.unique ‹_›
  | voidTypedef h hr _ hv ih =>
    cases h' with
    | overridden hn' ho' => exact (h.not_override hn' ho').elim
    | typedef h' hr' hb' hv' =>
      cases h.unique h'
      cases hr.symm.trans hr'
      obtain ⟨rfl, rfl, rfl⟩ := ih hb'
      rw [hv] at hv'
      cases hv'
    | voidTypedef h' hr' hb' _ =>
      cases h.unique h'
      cases hr.symm.trans hr'
      obtain ⟨rfl, rfl, rfl⟩ := ih hb'
      exact ⟨rfl, rfl, rfl⟩
    | _ => cases h.unique ‹_›
  | _ =>
    cases h' <;> grind [Plain.unique, Plain.not_override]

theorem Describes.unique {id : Identity} {d d' : Declaration} {M M' : Set Mark}
    (h : c.Describes id d M) (h' : c.Describes id d' M') : d = d' ∧ M = M' := by
  cases h with
  | typedef h hr hb _ =>
    cases h' with
    | typedef h' hr' hb' _ =>
      cases h.unique h'
      cases hr.symm.trans hr'
      obtain ⟨rfl, rfl, rfl⟩ := hb.unique hb'
      exact ⟨rfl, rfl⟩
    | _ => cases h.unique ‹_›
  | _ => cases h' <;> grind [Plain.unique]

theorem Describes.id_eq {id : Identity} {d : Declaration} {M : Set Mark}
    (h : c.Describes id d M) : d.id = id := by
  cases h <;> rfl

theorem Describes.lowers {id : Identity} {d : Declaration} {M : Set Mark} (h : c.Describes id d M)
    (s : Bool) : c.Lowers id s (.declared id) d.size (M ∪ Mark.reference id s) := by
  cases h with
  | enumeration h hb => rw [Set.empty_union]; exact .enumeration h hb
  | struct h => rw [Set.empty_union]; exact .struct h
  | union h => rw [Set.empty_union]; exact .union h
  | typedef h hr hb hv => exact .typedef h hr hb hv

/-! ## Depth -/

def inner? : TypeNode → Option Identity
  | .array element .. => some element
  | .pointer pointee _ => some pointee
  | .typedef t => some t.base
  | .qualified base => some base
  | _ => none

variable (c)

def next? (id : Identity) : Option Identity :=
  (c.document.types.get? id).bind fun node => if (c.override? node).isSome then none else inner? node

inductive Ends : Nat → Identity → Prop
  | here {id} (h : c.next? id = none) : Ends 0 id
  | step {k id next} (h : c.next? id = some next) (hn : Ends k next) : Ends (k + 1) id

variable {c}

theorem Plain.next? {id : Identity} {node : TypeNode} (h : c.Plain id node) :
    c.next? id = inner? node := by
  simp [LoweringContext.next?, h.1, h.2]

theorem Ends.unique {j k : Nat} {id : Identity} (hj : c.Ends j id) (hk : c.Ends k id) : j = k := by
  induction hj generalizing k with
  | here h =>
    cases hk with
    | here => rfl
    | step h' _ => rw [h] at h'; cases h'
  | step h _ ih =>
    cases hk with
    | here h' => rw [h] at h'; cases h'
    | step h' hn' =>
      rw [h] at h'
      cases h'
      rw [ih hn']

theorem Ends.of_succ {k : Nat} {id next : Identity} (h : c.Ends k id) (hn : c.next? id = some next) :
    ∃ j, k = j + 1 ∧ c.Ends j next := by
  cases h with
  | here h => rw [h] at hn; cases hn
  | step h hs => rw [h] at hn; cases hn; exact ⟨_, rfl, hs⟩

/-- The nodes on the way are different ones, so there are no more steps than nodes. -/
theorem Ends.le_size {k : Nat} {id : Identity} (h : c.Ends k id) : k ≤ c.document.types.size := by
  refine Dict.number_le_size (R := c.Ends) (fun hj hk => hj.unique hk) ?_ h
  intro k id h
  cases h with
  | step h hn =>
    obtain ⟨node, hnode, -⟩ := Option.bind_eq_some_iff.1 h
    exact ⟨Dict.mem_keys_of_get? hnode, _, hn⟩

theorem Lowers.ends {id : Identity} {s : Bool} {d : Descriptor} {n : Nat} {M : Set Mark}
    (h : c.Lowers id s d n M) : ∃ k, c.Ends k id ∧ ∀ m ∈ M, ∃ j ≤ k, c.Ends j m.1 := by
  have through : ∀ {id next : Identity} {M : Set Mark}, c.next? id = some next →
      (∃ k, c.Ends k next ∧ ∀ m ∈ M, ∃ j ≤ k, c.Ends j m.1) →
      ∃ k, c.Ends k id ∧ ∀ m ∈ M, ∃ j ≤ k, c.Ends j m.1 := by
    intro id next M hn h
    obtain ⟨k, hk, hm⟩ := h
    refine ⟨k + 1, .step hn hk, fun m hM => ?_⟩
    obtain ⟨j, hj, he⟩ := hm m hM
    exact ⟨j, by omega, he⟩
  have leaf : ∀ {id : Identity} {s : Bool}, c.next? id = none →
      ∃ k, c.Ends k id ∧ ∀ m ∈ Mark.reference id s, ∃ j ≤ k, c.Ends j m.1 := by
    rintro id s hn
    exact ⟨0, .here hn, fun m hm => ⟨0, Nat.le_refl _, hm.1 ▸ .here hn⟩⟩
  -- marks are left by the types on the way, from which fewer steps are left to the end
  induction h with
  | overridden hn ho =>
    exact ⟨0, .here (by simp [LoweringContext.next?, hn, ho]), by simp⟩
  | fundamental h _ => exact ⟨0, .here h.next?, by simp⟩
  | enumeration h _ => exact leaf h.next?
  | struct h => exact leaf h.next?
  | union h => exact leaf h.next?
  | function h => exact ⟨0, .here h.next?, by simp⟩
  | unimplemented h => exact ⟨0, .here h.next?, by simp⟩
  | array h _ _ ih => exact through h.next? ih
  | pointer h _ ih => exact through h.next? ih
  | qualified h _ ih => exact through h.next? ih
  | voidTypedef h _ _ _ ih => exact through h.next? ih
  | typedef h _ _ _ ih =>
    obtain ⟨k, hk, hm⟩ := through h.next? ih
    refine ⟨k, hk, fun m hM => hM.elim (hm m) fun he => ⟨k, Nat.le_refl _, he.1 ▸ hk⟩⟩

theorem Lowers.not_marked {id : Identity} {t : Typedef} (ht : c.Plain id (.typedef t)) {s b : Bool}
    {d : Descriptor} {n : Nat} {M : Set Mark} (h : c.Lowers t.base s d n M) : (id, b) ∉ M := by
  intro hm
  obtain ⟨k, hk, hM⟩ := h.ends
  obtain ⟨j, hj, he⟩ := hM _ hm
  -- the typedef would end after fewer steps than it does
  have := he.unique (.step ht.next? hk)
  omega

end LoweringContext

end Bindery
