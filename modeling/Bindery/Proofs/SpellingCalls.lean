import Bindery.Proofs.Lowering.Insertion
import Mathlib.Logic.Relation
import Mathlib.Order.WellFounded

/-!
# Calls of spellings

To spell a type or a reference, to write a definition or to list enumerators, each of these calls
itself and the others. Where every synonym comes after all that its literal mentions, a call that
expands a literal leads to what comes earlier, so all calls come to an end. The depths that the
functions are given are never used up, and each function satisfies its equation without them.
-/

namespace Bindery

open Native (Identity)

inductive SpellingCall where
  | type (t : Descriptor)
  | reference (id : Identity)
  | definition (id : Identity)
  | constants (id : Identity)

namespace SpellingCall

def IsManaged : SpellingCall → Prop
  | .type _ | .reference _ => True
  | _ => False

def IsConstants : SpellingCall → Prop
  | .constants _ => True
  | _ => False

def Before (order : List Identity) (position : Nat) : SpellingCall → Prop
  | .type t => ∀ x ∈ t.references, order.idxOf x < position
  | .reference id => order.idxOf id < position
  | _ => False

end SpellingCall

namespace Registry

variable (r : Registry)

inductive Calls : SpellingCall → SpellingCall → Prop
  | array {elem length} : Calls (.type (.array elem length)) (.type elem)
  | slice {elem} : Calls (.type (.slice elem)) (.type elem)
  | sliceOfSlice {elem} : Calls (.type (.sliceOfSlice elem)) (.type elem)
  | pointer {target} (hv : target.isVoid = false) (hf : target ≠ .opaqueFunction)
      (hn : ∀ id, target = .declared id → r.isNamed id = true) : Calls (.type (.pointer target)) (.type target)
  | outPointer {target} : Calls (.type (.outPointer target)) (.type target)
  | callbackOutPointer {target} : Calls (.type (.callbackOutPointer target)) (.type target)
  | input {inputs outputs t} (h : t ∈ inputs) : Calls (.type (.callable inputs outputs)) (.type t)
  | output {inputs outputs t} (h : t ∈ outputs) : Calls (.type (.callable inputs outputs)) (.type t)
  | declared {id} : Calls (.type (.declared id)) (.reference id)
  | unnamed {id d literal root} (hd : r.target? id = some d) (hm : d.managed = "")
      (hs : d.shape = .synonym literal root .cast) : Calls (.reference id) (.type literal)
  | member {id d ms m} (hd : r.get? id = some d) (hs : d.shape = .struct (some ms)) (hm : m ∈ ms) :
      Calls (.definition id) (.type m.type)
  | inFull {id d x root strategy l} (hd : r.get? id = some d) (hs : d.shape = .synonym (.declared x) root strategy)
      (hl : r.get? x = some l) (he : l.isEmitted = false) : Calls (.definition id) (.definition x)
  | literal {id d literal root strategy} (hd : r.get? id = some d) (hs : d.shape = .synonym literal root strategy)
      (hl : ∀ x, literal ≠ .declared x) : Calls (.definition id) (.type literal)
  | carried {id d x root strategy l} (hd : r.get? id = some d) (hs : d.shape = .synonym (.declared x) root strategy)
      (hl : r.get? x = some l) : Calls (.constants id) (.constants x)

inductive Expands : SpellingCall → Identity → Prop
  | reference {id d literal root} (hd : r.target? id = some d) (hm : d.managed = "")
      (hs : d.shape = .synonym literal root .cast) : Expands (.reference id) id
  | definition {id d literal root strategy} (hd : r.get? id = some d)
      (hs : d.shape = .synonym literal root strategy) : Expands (.definition id) id
  | constants {id d literal root strategy} (hd : r.get? id = some d)
      (hs : d.shape = .synonym literal root strategy) : Expands (.constants id) id

inductive LeadsToStruct : Identity → Prop
  | struct {id d ms} (hd : r.get? id = some d) (hs : d.shape = .struct ms) : LeadsToStruct id
  | synonym {id d x root strategy} (hd : r.get? id = some d) (hs : d.shape = .synonym (.declared x) root strategy)
      (h : LeadsToStruct x) : LeadsToStruct id

/-! ## Single steps of the recursions -/

/-- A reference, over given spellings of the references within it. -/
def referStep (refer : Identity → String) (id : Identity) : String :=
  match r.target? id with
  | none => ""
  | some d =>
    if !d.managed.isEmpty then d.managed
    else
      match d.shape with
      | .enumeration base _ => base
      | .synonym literal _ .cast => literal.spell r.isNamed refer
      | .synonym _ _ .pointerReinterpret => "uintptr"
      | _ => d.byteBlock

end Registry

namespace Declaration

def definitionStep (r : Registry) (define : Declaration → String) (d : Declaration) : String :=
  match d.shape with
  | .struct _ =>
    if d.members.isEmpty then "struct\x7b\x7d"
    else
      "struct \x7b\n"
        ++ String.join (d.members.map fun m => "\t" ++ m.managed ++ " " ++ m.type.managedName r ++ "\n")
        ++ "\x7d"
  | .union _ => d.byteBlock
  | .enumeration base _ => base
  | .synonym literal .. =>
    match literal with
    | .declared id =>
      match r.get? id with
      | some l => if l.isEmitted then l.managed else define l
      | none => ""
    | literal => literal.managedName r

def constantsStep (r : Registry) (list : Declaration → List Constant) (d : Declaration) : List Constant :=
  match d.shape with
  | .enumeration _ values => values
  | .synonym (.declared id) .. => ((r.get? id).map list).getD []
  | _ => []

end Declaration

/-- What makes the spellings of a registry functions of it: no call leads on without end, and each
function is what its recursion says, with no depth to hold it up. -/
structure Registry.SpellingEnds (r : Registry) : Prop where
  calls : WellFounded fun b a => r.Calls a b
  reference : ∀ id, r.managedName id = r.referStep r.managedName id
  definition : ∀ d : Declaration, d.definition r = d.definitionStep r fun l => l.definition r
  constants : ∀ d : Declaration, d.constants r = d.constantsStep r fun l => l.constants r

/-! ## Descriptors -/

namespace Descriptor

variable {named : Identity → Bool} {refer refer' : Identity → String}

theorem mem_referencesOf {ds : List Descriptor} {x : Identity} :
    x ∈ referencesOf ds ↔ ∃ t ∈ ds, x ∈ t.references := by
  induction ds with
  | nil => simp [referencesOf]
  | cons d ds ih => simp [referencesOf, ih]

mutual

/-- A spelling depends on the references that the descriptor makes, and on no others. -/
theorem spell_congr (t : Descriptor) (h : ∀ x ∈ t.references, refer x = refer' x) :
    t.spell named refer = t.spell named refer' := by
  match t with
  | .array elem _ | .slice elem | .sliceOfSlice elem => simp only [spell, elem.spell_congr h]
  | .outPointer target | .callbackOutPointer target => simp only [spell, target.spell_congr h]
  | .pointer target =>
    have ht := target.spell_congr h
    cases target with
    | declared id => simp only [spell, h id List.mem_cons_self]
    | void | opaqueFunction | number | boolean | string | stringArray => rfl
    | _ => simp only [spell] at ht ⊢; rw [ht]
  | .callable inputs outputs =>
    have hi := spellAll_congr inputs fun x hx => h x (List.mem_append_left _ hx)
    have ho := spellAll_congr outputs fun x hx => h x (List.mem_append_right _ hx)
    match outputs with
    | [] => simp only [spell, hi]
    | [output] =>
      simp only [spellAll, List.cons.injEq, and_true] at ho
      simp only [spell, hi, ho]
    | _ :: _ :: _ => simp only [spell, hi, ho]
  | .declared id => exact h id List.mem_cons_self
  | .void | .number .. | .boolean .. | .string | .stringArray | .opaqueFunction => rfl

theorem spellAll_congr (ts : List Descriptor) (h : ∀ x ∈ referencesOf ts, refer x = refer' x) :
    spellAll named refer ts = spellAll named refer' ts := by
  match ts with
  | [] => rfl
  | t :: ts =>
    rw [spellAll, spellAll, t.spell_congr fun x hx => h x (List.mem_append_left _ hx),
      spellAll_congr ts fun x hx => h x (List.mem_append_right _ hx)]

end

end Descriptor

section
variable {r : Registry} {order : List Identity}

namespace Registry

theorem target?_unnamed {id : Identity} {d : Declaration} (h : r.target? id = some d) (hm : d.managed = "") :
    r.get? id = some d := by
  obtain ⟨e, he, h⟩ := Option.bind_eq_some_iff.1 h
  split at h
  · rename_i synonym hs
    obtain rfl := Option.some.inj h
    split at hm
    · rename_i hempty
      rw [if_pos hempty, he]
    · rename_i hnamed
      exact absurd (String.isEmpty_iff.2 hm) hnamed
  · rw [he]
    exact h

theorem InOrder.length_eq (h : r.InOrder order) : order.length = r.size := by
  have hperm : order.Perm r.keys := (List.perm_ext_iff_of_nodup h.nodup r.nodup_keys).2 fun id => by
    rw [h.mem_iff, Dict.mem_keys_iff]
  simpa [Dict.keys, Dict.size] using hperm.length_eq

theorem InOrder.idxOf_lt_size (h : r.InOrder order) {id : Identity} {d : Declaration} (hd : r.get? id = some d) :
    order.idxOf id < r.size := by
  rw [← h.length_eq]
  exact List.idxOf_lt_length_iff.2 ((h.mem_iff id).2 (contains_of_get? hd))

/-! ## Depths -/

theorem referWithin_succ (depth : Nat) (id : Identity) :
    r.referWithin (depth + 1) id = r.referStep (r.referWithin depth) id := rfl

/-- Two spellings of the references that a reference leads to give the same spelling of it. -/
theorem referStep_congr {refer refer' : Identity → String} {id : Identity}
    (h : ∀ d literal root strategy, r.get? id = some d → d.shape = .synonym literal root strategy →
      ∀ x ∈ literal.references, refer x = refer' x) : r.referStep refer id = r.referStep refer' id := by
  unfold referStep
  split
  · rfl
  · rename_i d hd
    split
    · rfl
    · rename_i hm
      have hget := target?_unnamed hd (by simpa using hm)
      split
      · rfl
      · rename_i literal root hs
        exact literal.spell_congr (h d literal root .cast hget hs)
      · rfl
      · rfl

theorem InOrder.referWithin_eq (h : r.InOrder order) {m n : Nat} {id : Identity} (hm : order.idxOf id < m)
    (hn : order.idxOf id < n) : r.referWithin m id = r.referWithin n id := by
  induction m generalizing n id with
  | zero => omega
  | succ m ih =>
    cases n with
    | zero => omega
    | succ n =>
      rw [referWithin_succ, referWithin_succ]
      refine referStep_congr fun d literal root strategy hd hs x hx => ?_
      have := h.earlier hd hs hx
      exact ih (by omega) (by omega)

end Registry

namespace Declaration

theorem definitionWithin_succ (depth : Nat) (d : Declaration) :
    d.definitionWithin r (depth + 1) = d.definitionStep r fun l => l.definitionWithin r depth := rfl

theorem constantsWithin_succ (depth : Nat) (d : Declaration) :
    d.constantsWithin r (depth + 1) = d.constantsStep r fun l => l.constantsWithin r depth := rfl

theorem definitionStep_congr {define define' : Declaration → String} {d : Declaration}
    (h : ∀ x root strategy l, d.shape = .synonym (.declared x) root strategy → r.get? x = some l →
      define l = define' l) : d.definitionStep r define = d.definitionStep r define' := by
  unfold definitionStep
  split
  · rfl
  · rfl
  · rfl
  · rename_i literal root strategy hs
    split
    · rename_i x
      split
      · rename_i l hl
        rw [h x root strategy l hs hl]
      · rfl
    · rfl

theorem constantsStep_congr {list list' : Declaration → List Constant} {d : Declaration}
    (h : ∀ x root strategy l, d.shape = .synonym (.declared x) root strategy → r.get? x = some l →
      list l = list' l) : d.constantsStep r list = d.constantsStep r list' := by
  unfold constantsStep
  split
  · rfl
  · rename_i x root strategy hs
    cases hl : r.get? x with
    | none => rfl
    | some l => rw [Option.map_some, Option.map_some, h x root strategy l hs hl]
  · rfl

end Declaration

namespace Registry

theorem InOrder.earlier_declared (h : r.InOrder order) {id x : Identity} {d : Declaration} {root : Identity}
    {strategy : Strategy} (hd : r.get? id = some d) (hs : d.shape = .synonym (.declared x) root strategy) :
    order.idxOf x < order.idxOf id := h.earlier hd hs List.mem_cons_self

section
variable {β : Type} {within : Nat → Declaration → β} {step : (Declaration → β) → Declaration → β}
  (hsucc : ∀ depth d, within (depth + 1) d = step (within depth) d)
  (hcongr : ∀ {f g : Declaration → β} {d : Declaration}, (∀ x root strategy l,
    d.shape = .synonym (.declared x) root strategy → r.get? x = some l → f l = g l) → step f d = step g d)
include hsucc hcongr

/-- A recursion from a synonym to what it is a synonym of has the same result for all depths beyond the
position of the synonym. -/
theorem InOrder.within_eq (h : r.InOrder order) {m n : Nat} {id : Identity} {d : Declaration}
    (hd : r.get? id = some d) (hm : order.idxOf id < m) (hn : order.idxOf id < n) : within m d = within n d := by
  induction m generalizing n id d with
  | zero => omega
  | succ m ih =>
    cases n with
    | zero => omega
    | succ n =>
      rw [hsucc, hsucc]
      refine hcongr fun x root strategy l hs hl => ?_
      have := h.earlier_declared hd hs
      exact ih hl (by omega) (by omega)

theorem InOrder.within_size (h : r.InOrder order) (d : Declaration) :
    within (r.size + 1) d = step (within (r.size + 1)) d := by
  rw [hsucc]
  refine hcongr fun x root strategy l _ hl => ?_
  have := h.idxOf_lt_size hl
  exact h.within_eq hsucc hcongr hl (by omega) (by omega)

end

/-! ## Chains of calls -/

theorem acc_type (t : Descriptor) (h : ∀ x ∈ t.references, Acc (fun b a => r.Calls a b) (.reference x)) :
    Acc (fun b a => r.Calls a b) (.type t) := by
  induction hn : sizeOf t using Nat.strongRecOn generalizing t with
  | _ n ih =>
    subst hn
    refine ⟨_, fun b hb => ?_⟩
    cases hb with
    | array | slice | sliceOfSlice | pointer | outPointer | callbackOutPointer =>
      exact ih _ (by simp <;> omega) _ h rfl
    | input ht =>
      have := List.sizeOf_lt_of_mem ht
      refine ih _ (by simp; omega) _ (fun x hx => h x (List.mem_append_left _ ?_)) rfl
      exact Descriptor.mem_referencesOf.2 ⟨_, ht, hx⟩
    | output ht =>
      have := List.sizeOf_lt_of_mem ht
      refine ih _ (by simp; omega) _ (fun x hx => h x (List.mem_append_right _ ?_)) rfl
      exact Descriptor.mem_referencesOf.2 ⟨_, ht, hx⟩
    | declared => exact h _ List.mem_cons_self

/-- What holds of an identity if it holds of all that come before it. -/
theorem position_induct (order : List Identity) {P : Identity → Prop}
    (h : ∀ id, (∀ x, order.idxOf x < order.idxOf id → P x) → P id) (id : Identity) : P id := by
  induction hn : order.idxOf id using Nat.strongRecOn generalizing id with
  | _ n ih =>
    subst hn
    exact h id fun x hx => ih _ hx x rfl

theorem InOrder.acc_reference (h : r.InOrder order) (id : Identity) :
    Acc (fun b a => r.Calls a b) (.reference id) := by
  induction id using position_induct order with
  | h id ih =>
    refine ⟨_, fun b hb => ?_⟩
    cases hb with
    | unnamed hd hm hs => exact acc_type _ fun x hx => ih x (h.earlier (target?_unnamed hd hm) hs hx)

theorem InOrder.acc_definition (h : r.InOrder order) (id : Identity) :
    Acc (fun b a => r.Calls a b) (.definition id) := by
  induction id using position_induct order with
  | h id ih =>
    refine ⟨_, fun b hb => ?_⟩
    cases hb with
    | member | literal => exact acc_type _ fun x _ => h.acc_reference x
    | inFull hd hs hl he => exact ih _ (h.earlier_declared hd hs)

theorem InOrder.acc_constants (h : r.InOrder order) (id : Identity) :
    Acc (fun b a => r.Calls a b) (.constants id) := by
  induction id using position_induct order with
  | h id ih =>
    refine ⟨_, fun b hb => ?_⟩
    cases hb with
    | carried hd hs hl => exact ih _ (h.earlier_declared hd hs)

theorem InOrder.wellFounded_calls (h : r.InOrder order) : WellFounded fun b a => r.Calls a b := by
  refine ⟨fun call => ?_⟩
  cases call with
  | type t => exact acc_type t fun x _ => h.acc_reference x
  | reference id => exact h.acc_reference id
  | definition id => exact h.acc_definition id
  | constants id => exact h.acc_constants id

theorem InOrder.spellingEnds (h : r.InOrder order) : r.SpellingEnds where
  calls := h.wellFounded_calls
  reference id := by
    rw [managedName, referWithin_succ]
    refine referStep_congr fun d literal root strategy hd hs x hx => ?_
    have := h.earlier hd hs hx
    have := h.idxOf_lt_size hd
    exact h.referWithin_eq (by omega) (by omega)
  definition := h.within_size Declaration.definitionWithin_succ Declaration.definitionStep_congr
  constants := h.within_size Declaration.constantsWithin_succ Declaration.constantsStep_congr

/-! ## Expansions along a chain -/

theorem Calls.isManaged {a b : SpellingCall} (h : r.Calls a b) (ha : a.IsManaged) : b.IsManaged := by
  cases h with
  | member | inFull | literal | carried => exact ha.elim
  | _ => trivial

theorem Calls.isConstants {a b : SpellingCall} (h : r.Calls a b) : a.IsConstants ↔ b.IsConstants := by
  cases h <;> rfl

/-- Calls of spellings that come before a position lead to such calls alone. -/
theorem InOrder.before_of_calls (h : r.InOrder order) {a b : SpellingCall} (hab : r.Calls a b) {k : Nat}
    (ha : a.Before order k) : b.Before order k := by
  cases hab with
  | array | slice | sliceOfSlice | pointer | outPointer | callbackOutPointer => exact ha
  | input ht => exact fun x hx => ha x (List.mem_append_left _ (Descriptor.mem_referencesOf.2 ⟨_, ht, hx⟩))
  | output ht => exact fun x hx => ha x (List.mem_append_right _ (Descriptor.mem_referencesOf.2 ⟨_, ht, hx⟩))
  | declared => exact ha _ List.mem_cons_self
  | unnamed hd hm hs => exact fun x hx => (h.earlier (target?_unnamed hd hm) hs hx).trans ha
  | member | inFull | literal | carried => exact ha.elim

theorem InOrder.before_of_steps (h : r.InOrder order) {a b : SpellingCall}
    (hab : Relation.ReflTransGen r.Calls a b) {k : Nat} (ha : a.Before order k) : b.Before order k := by
  induction hab with
  | refl => exact ha
  | tail _ hbc ih => exact h.before_of_calls hbc ih

theorem isManaged_of_steps {a b : SpellingCall} (hab : Relation.TransGen r.Calls a b) (ha : a.IsManaged) :
    b.IsManaged := by
  induction hab with
  | single hab => exact hab.isManaged ha
  | tail _ hbc ih => exact hbc.isManaged ih

theorem isConstants_of_steps {a b : SpellingCall} (hab : Relation.TransGen r.Calls a b) :
    a.IsConstants ↔ b.IsConstants := by
  induction hab with
  | single hab => exact hab.isConstants
  | tail _ hbc ih => exact ih.trans hbc.isConstants

/-- A definition leads to references of what comes before it, unless it is that of a struct in the end. -/
theorem InOrder.of_definition (h : r.InOrder order) {a b : SpellingCall} (hab : Relation.ReflTransGen r.Calls a b)
    {id x : Identity} (ha : a = .definition id) (hb : b = .reference x) :
    r.LeadsToStruct id ∨ order.idxOf x < order.idxOf id := by
  induction hab using Relation.ReflTransGen.head_induction_on generalizing id with
  | refl => cases ha.symm.trans hb
  | head hac hcb ih =>
    subst ha
    cases hac with
    | member hd hs _ => exact .inl (.struct hd hs)
    | inFull hd hs hl he =>
      rcases ih rfl with hstruct | hlt
      · exact .inl (.synonym hd hs hstruct)
      · exact .inr (hlt.trans (h.earlier_declared hd hs))
    | literal hd hs _ =>
      have hbefore := h.before_of_steps hcb fun x hx => h.earlier hd hs hx
      rw [hb] at hbefore
      exact .inr hbefore

/-- On the way from one call to another the literal of a synonym is expanded once by each function. It is
expanded by a definition first and by a reference later only if it leads to a struct. -/
theorem InOrder.expands_once (h : r.InOrder order) {a b : SpellingCall} (hab : Relation.TransGen r.Calls a b)
    {id : Identity} (ha : r.Expands a id) (hb : r.Expands b id) :
    a = .definition id ∧ b = .reference id ∧ r.LeadsToStruct id := by
  -- no call comes back to itself, so that each function expands the literal once
  have hne : a ≠ b := by
    rintro rfl
    exact h.wellFounded_calls.transGen.irrefl.irrefl a (Relation.transGen_swap.2 hab)
  have hc := isConstants_of_steps hab
  cases ha with
  | reference =>
    cases hb with
    | reference => exact (hne rfl).elim
    | definition | constants => exact (isManaged_of_steps hab trivial).elim
  | definition =>
    cases hb with
    | reference =>
      refine ⟨rfl, rfl, (h.of_definition hab.to_reflTransGen rfl rfl).resolve_right ?_⟩
      exact Nat.lt_irrefl _
    | definition => exact (hne rfl).elim
    | constants => exact (hc.2 trivial).elim
  | constants =>
    cases hb with
    | reference | definition => exact (hc.1 trivial).elim
    | constants => exact (hne rfl).elim

end Registry

end

end Bindery
