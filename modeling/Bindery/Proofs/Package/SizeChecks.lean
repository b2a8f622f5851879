import Bindery.Proofs.Package.References
import Bindery.Render.File

/-!
# Size checks

The generated `init` function compares the sizes of the types whose values are reinterpreted. A
struct without members has no size in the managed language, so no type that denotes one can pass. A
typedef whose definition is such a struct in full is left out, but one whose definition is the name
of such a struct is not.
-/

namespace Bindery

open Native (Identity)

/-! ## Structs without members -/

namespace Declaration

variable (r : Registry)

def literal? (d : Declaration) : Option Declaration :=
  match d.shape with
  | .synonym (.declared id) .. => r.get? id
  | _ => none

/-- So many typedefs, each the literal of the one before, and at the end a struct without members.
`inner` holds of all that is reached. -/
inductive EndsEmpty (inner : Declaration → Prop) : Nat → Declaration → Prop
  | struct {d members} (hs : d.shape = .struct members) (hm : d.members = []) : EndsEmpty inner 0 d
  | synonym {k d l} (hl : d.literal? r = some l) (hi : inner l) (h : EndsEmpty inner k l) :
      EndsEmpty inner (k + 1) d

/-- Whether the type is a struct without members, however it is written. -/
def DenotesEmpty (d : Declaration) : Prop := ∃ k, EndsEmpty r (fun _ => True) k d

/-- Whether the definition of the type is that of a struct without members in full. -/
def SpellsEmpty (d : Declaration) : Prop := ∃ k, EndsEmpty r (fun l => l.isEmitted = false) k d

/-- Whether the definition of the type is the name of `l`, which denotes a struct without members. -/
inductive NamesEmpty (l : Declaration) : Declaration → Prop
  | literal {d} (hl : d.literal? r = some l) (he : l.isEmitted = true) (h : l.DenotesEmpty r) : NamesEmpty l d
  | inner {d i} (hi : d.literal? r = some i) (he : i.isEmitted = false) (h : NamesEmpty l i) : NamesEmpty l d

def Reinterprets (d : Declaration) : Prop :=
  (Descriptor.declared d.id).strategy r = .valueReinterpret ∧ d.size ≠ 0

instance (d : Declaration) : Decidable (d.Reinterprets r) := inferInstanceAs (Decidable (_ ∧ _))

variable {r} {inner : Declaration → Prop} {j k depth : Nat} {d l : Declaration} {x : Identity}

theorem literal?_eq_some : d.literal? r = some l ↔
    ∃ id root strategy, d.shape = .synonym (.declared id) root strategy ∧ r.get? id = some l := by
  unfold literal?
  constructor
  · intro h
    split at h
    · rename_i hs
      exact ⟨_, _, _, hs, h⟩
    · cases h
  · intro h
    obtain ⟨id, root, strategy, hs, hl⟩ := h
    rwa [hs]

theorem EndsEmpty.mono {outer : Declaration → Prop} (h : EndsEmpty r inner k d) (hi : ∀ e, inner e → outer e) :
    EndsEmpty r outer k d := by
  induction h with
  | struct hs hm => exact .struct hs hm
  | synonym hl hp _ ih => exact .synonym hl (hi _ hp) ih

theorem EndsEmpty.literal (h : EndsEmpty r inner k d) (hl : d.literal? r = some l) :
    ∃ j, k = j + 1 ∧ inner l ∧ EndsEmpty r inner j l := by
  cases h with
  | struct hs => simp [literal?, hs] at hl
  | @synonym j _ l' hl' hi h =>
    obtain rfl := Option.some.inj (hl.symm.trans hl')
    exact ⟨j, rfl, hi, h⟩

theorem EndsEmpty.unique (h : EndsEmpty r inner j d) (h' : EndsEmpty r inner k d) : j = k := by
  induction h generalizing k with
  | struct hs =>
    cases h' with
    | struct => rfl
    | synonym hl => simp [literal?, hs] at hl
  | synonym hl _ _ ih =>
    obtain ⟨i, rfl, -, hi⟩ := h'.literal hl
    rw [ih hi]

/-- The chain from a declaration of the registry is no longer than the registry. -/
theorem EndsEmpty.le_size (h : EndsEmpty r inner k d) (hd : r.get? x = some d) : k ≤ r.size := by
  refine Dict.number_le_size (R := fun k x => ∃ d, r.get? x = some d ∧ EndsEmpty r inner k d) ?_ ?_ ⟨d, hd, h⟩
  · intro i k x hi hk
    obtain ⟨d, hd, hi⟩ := hi
    obtain ⟨e, he, hk⟩ := hk
    obtain rfl := Option.some.inj (hd.symm.trans he)
    exact hi.unique hk
  · intro k x hk
    obtain ⟨d, hd, hk⟩ := hk
    cases hk with
    | synonym hl _ hk =>
      obtain ⟨id, -, -, -, hid⟩ := literal?_eq_some.1 hl
      exact ⟨Dict.mem_keys_of_get? hd, id, _, hid, hk⟩

theorem SpellsEmpty.denotesEmpty (h : d.SpellsEmpty r) : d.DenotesEmpty r := by
  obtain ⟨k, hk⟩ := h
  exact ⟨k, hk.mono fun _ _ => trivial⟩

theorem DenotesEmpty.of_literal (hl : d.literal? r = some l) (h : l.DenotesEmpty r) : d.DenotesEmpty r := by
  obtain ⟨k, hk⟩ := h
  exact ⟨k + 1, .synonym hl trivial hk⟩

theorem NamesEmpty.denotesEmpty (h : NamesEmpty r l d) : d.DenotesEmpty r := by
  induction h with
  | literal hl _ h => exact .of_literal hl h
  | inner hi _ _ ih => exact .of_literal hi ih

theorem NamesEmpty.not_spellsEmpty (h : NamesEmpty r l d) : ¬ d.SpellsEmpty r := by
  induction h with
  | literal hl he =>
    intro ⟨k, hk⟩
    obtain ⟨-, -, hinner, -⟩ := hk.literal hl
    rw [he] at hinner
    cases hinner
  | inner hi _ _ ih =>
    intro ⟨k, hk⟩
    obtain ⟨j, -, -, hj⟩ := hk.literal hi
    exact ih ⟨j, hj⟩

/-- What denotes a struct without members is written as one, or as the name of what denotes one. -/
theorem denotesEmpty_iff : d.DenotesEmpty r ↔ d.SpellsEmpty r ∨ ∃ l, NamesEmpty r l d := by
  constructor
  · intro h
    obtain ⟨k, hk⟩ := h
    induction hk with
    | struct hs hm => exact .inl ⟨0, .struct hs hm⟩
    | @synonym k _ l hl _ hk ih =>
      cases he : l.isEmitted with
      | true => exact .inr ⟨l, .literal hl he ⟨k, hk⟩⟩
      | false =>
        rcases ih with ⟨j, hj⟩ | ⟨m, hm⟩
        · exact .inl ⟨j + 1, .synonym hl he hj⟩
        · exact .inr ⟨m, .inner hl he hm⟩
  · intro h
    rcases h with hspelt | ⟨l, hl⟩
    · exact hspelt.denotesEmpty
    · exact hl.denotesEmpty

/-! ## Answers of the program -/

theorem isEmptyStructWithin_iff : d.isEmptyStructWithin r depth = true ↔
    ∃ k < depth, EndsEmpty r (fun l => l.isEmitted = false) k d := by
  induction depth generalizing d with
  | zero => simp [isEmptyStructWithin]
  | succ depth ih =>
    constructor
    · intro h
      rw [isEmptyStructWithin] at h
      split at h
      · rename_i hs
        exact ⟨0, Nat.succ_pos _, .struct hs (List.isEmpty_iff.1 h)⟩
      · rename_i hs
        split at h
        · rename_i l hl
          obtain ⟨he, h⟩ := (Bool.and_eq_true _ _).mp h
          obtain ⟨k, hk, hempty⟩ := ih.1 h
          exact ⟨k + 1, Nat.succ_lt_succ hk,
            .synonym (literal?_eq_some.2 ⟨_, _, _, hs, hl⟩) (by simpa using he) hempty⟩
        · cases h
      · cases h
    · intro h
      obtain ⟨k, hk, h⟩ := h
      cases h with
      | struct hs hm => simp [isEmptyStructWithin, hs, hm]
      | synonym hl he h =>
        obtain ⟨_, _, _, hs, hl⟩ := literal?_eq_some.1 hl
        simp [isEmptyStructWithin, hs, hl, he, ih.2 ⟨_, Nat.lt_of_succ_lt_succ hk, h⟩]

theorem isEmptyStruct_iff (hd : r.get? x = some d) : d.isEmptyStruct r = true ↔ d.SpellsEmpty r := by
  rw [isEmptyStruct, isEmptyStructWithin_iff]
  constructor
  · intro h
    obtain ⟨k, -, hk⟩ := h
    exact ⟨k, hk⟩
  · intro h
    obtain ⟨k, hk⟩ := h
    exact ⟨k, Nat.lt_succ_of_le (hk.le_size hd), hk⟩

theorem definitionWithin_of_literal (hl : d.literal? r = some l) :
    d.definitionWithin r (depth + 1) = if l.isEmitted then l.managed else l.definitionWithin r depth := by
  obtain ⟨id, root, strategy, hs, hl⟩ := literal?_eq_some.1 hl
  rw [definitionWithin, hs]
  simp only [hl]

theorem EndsEmpty.definitionWithin (h : EndsEmpty r (fun l => l.isEmitted = false) k d) (hk : k < depth) :
    d.definitionWithin r depth = "struct\x7b\x7d" := by
  induction h generalizing depth with
  | struct hs hm =>
    obtain ⟨depth, rfl⟩ := Nat.exists_eq_succ_of_ne_zero (Nat.ne_of_gt hk)
    simp [Declaration.definitionWithin, hs, hm]
  | synonym hl he _ ih =>
    obtain ⟨depth, rfl⟩ := Nat.exists_eq_succ_of_ne_zero (Nat.ne_of_gt (Nat.zero_lt_of_lt hk))
    rw [definitionWithin_of_literal hl, he]
    exact ih (Nat.lt_of_succ_lt_succ hk)

theorem NamesEmpty.definitionWithin (h : NamesEmpty r l d) (hk : EndsEmpty r (fun _ => True) k d)
    (hlt : k < depth) : d.definitionWithin r depth = l.managed := by
  induction h generalizing k depth with
  | literal hl he =>
    obtain ⟨depth, rfl⟩ := Nat.exists_eq_succ_of_ne_zero (Nat.ne_of_gt (Nat.zero_lt_of_lt hlt))
    rw [definitionWithin_of_literal hl, if_pos he]
  | inner hi he _ ih =>
    obtain ⟨depth, rfl⟩ := Nat.exists_eq_succ_of_ne_zero (Nat.ne_of_gt (Nat.zero_lt_of_lt hlt))
    obtain ⟨j, rfl, -, hj⟩ := hk.literal hi
    rw [definitionWithin_of_literal hi, he]
    exact ih hj (Nat.lt_of_succ_lt_succ hlt)

theorem SpellsEmpty.definition (h : d.SpellsEmpty r) (hd : r.get? x = some d) :
    d.definition r = "struct\x7b\x7d" := by
  obtain ⟨k, hk⟩ := h
  exact hk.definitionWithin (Nat.lt_succ_of_le (hk.le_size hd))

theorem NamesEmpty.definition (h : NamesEmpty r l d) (hd : r.get? x = some d) : d.definition r = l.managed := by
  obtain ⟨k, hk⟩ := h.denotesEmpty
  exact h.definitionWithin hk (Nat.lt_succ_of_le (hk.le_size hd))

theorem NamesEmpty.emitted (h : NamesEmpty r l d) : l.isEmitted = true ∧ ∃ x, r.get? x = some l := by
  induction h with
  | literal hl he =>
    obtain ⟨id, -, -, -, hid⟩ := literal?_eq_some.1 hl
    exact ⟨he, id, hid⟩
  | inner _ _ _ ih => exact ih

theorem needsSizeCheck_iff (hd : r.get? x = some d) :
    d.needsSizeCheck r = true ↔ d.Reinterprets r ∧ ¬ d.SpellsEmpty r := by
  simp [needsSizeCheck, Reinterprets, ← isEmptyStruct_iff hd]

end Declaration

/-! ## Assertions in the generated source -/

def initLines (checked : List Declaration) : List String :=
  if checked.isEmpty then []
  else "func init() \x7b" :: checked.flatMap (·.sizeCheckLines) ++ ["\x7d", ""]

namespace Emission

def sizeChecked (e : Emission) : List Declaration := e.types.filter (·.needsSizeCheck e.package.types)

/-- The one place of the assertions in the source. -/
theorem bodyLines_eq (e : Emission) : e.bodyLines =
    (e.variableLines ++ e.types.flatMap (·.lines e.package.types e.package.rules.pointerWidth))
      ++ initLines e.sizeChecked
      ++ (e.functions.flatMap (·.lines e.package.types) ++ e.trampolines.flatMap (·.lines e.package.types)) := by
  simp only [bodyLines, List.append_assoc]
  rfl

end Emission

namespace Package

variable {p p' : Package} {included : List Package} {d : Declaration}

structure AssertsSize (p : Package) (d : Declaration) : Prop where
  checked_iff : d ∈ (Emission.ofPackage p).sizeChecked ↔ d.Reinterprets p.types ∧ ¬ d.SpellsEmpty p.types
  /-- The assertion is made when it can hold, unless the definition is a name. -/
  due_iff : (d ∈ (Emission.ofPackage p).sizeChecked ↔ d.Reinterprets p.types ∧ ¬ d.DenotesEmpty p.types) ↔
    ¬ (d.Reinterprets p.types ∧ ∃ l, Declaration.NamesEmpty p.types l d)
  spelt : d.SpellsEmpty p.types → d.definition p.types = "struct\x7b\x7d"
  named : ∀ l, Declaration.NamesEmpty p.types l d →
    l ∈ (Emission.ofPackage p).types ∧ d.definition p.types = l.managed

/-- The sizes of the reinterpreted types are asserted, except of those written as a struct without
members in full. What is asserted can hold, unless a type is written as the name of such a struct. -/
theorem size_checks_iff (h : p.prepare included = .ok p') :
    (∃ before after, (Emission.ofPackage p').bodyLines =
      before ++ initLines (Emission.ofPackage p').sizeChecked ++ after) ∧
    ∀ d ∈ (Emission.ofPackage p').types, p'.AssertsSize d := by
  refine ⟨⟨_, _, Emission.bodyLines_eq _⟩, fun d hmem => ?_⟩
  obtain ⟨⟨x, hd⟩, -, -⟩ := mem_types.1 hmem
  have hchecked : d ∈ (Emission.ofPackage p').sizeChecked ↔ d.Reinterprets p'.types ∧ ¬ d.SpellsEmpty p'.types := by
    rw [Emission.sizeChecked, List.mem_filter, and_iff_right hmem]
    exact Declaration.needsSizeCheck_iff hd
  refine ⟨hchecked, ?_, fun hs => hs.definition hd, fun l hl => ⟨?_, hl.definition hd⟩⟩
  · rw [hchecked, Declaration.denotesEmpty_iff]
    have hnamed : (∃ l, Declaration.NamesEmpty p'.types l d) → ¬ d.SpellsEmpty p'.types := fun ⟨_, hl⟩ =>
      hl.not_spellsEmpty
    tauto
  · obtain ⟨hem, y, hy⟩ := hl.emitted
    obtain ⟨-, -, hne, hq⟩ := isEmitted_ok hem
    exact (prepare_wellNamed h).mem_types hy hne hq

/-- A struct of unknown contents and a typedef of it, both used by themselves. -/
def handles (typedef : String) : Package where
  settings := { name := "handles" }
  filter := .all
  rules := {}
  ownedFiles := ["f"]
  document := {
    files := [⟨"f", "handle.h"⟩]
    types := Dict.ofList [
      ("s", .struct { name := "handle", file := "f", size := 16, fields := [] }),
      ("t", .typedef { name := typedef, file := "f", base := "s", root := some "s", size := 16 })]
    functions := [
      { id := "f1", name := "open_handle", file := "f", returns := "s", arguments := [], variadic := false
        callback := none },
      { id := "f2", name := "open_session", file := "f", returns := "t", arguments := [], variadic := false
        callback := none }]
    globals := [] }

/-- The typedef is declared in the place of the struct, and has no assertion. -/
theorem handles_one_name : ∃ p, (handles "handle").prepare [] = .ok p ∧ ∃ d ∈ (Emission.ofPackage p).types,
    d.Reinterprets p.types ∧ d.definition p.types = "struct\x7b\x7d" ∧ d ∉ (Emission.ofPackage p).sizeChecked := by
  obtain ⟨p, hp, d, hd, ht, hempty⟩ := exists_type_of_any (handles "handle") [] "t"
    (fun p d => decide (d.Reinterprets p.types) && d.isEmptyStruct p.types) (by decide +kernel)
  simp only [Bool.and_eq_true, decide_eq_true_eq, Declaration.isEmptyStruct_iff ht] at hempty
  have hasserts := (size_checks_iff hp).2 d hd
  exact ⟨p, hp, d, hd, hempty.1, hasserts.spelt hempty.2, fun hc => (hasserts.checked_iff.1 hc).2 hempty.2⟩

/-- The typedef is defined as the name of the struct, and the size of the native struct is asserted of it. -/
theorem handles_two_names : (handles "session_t").document.accept = .ok (handles "session_t").document ∧
    ∃ p, (handles "session_t").prepare [] = .ok p ∧ ∃ d ∈ (Emission.ofPackage p).types,
      d.Reinterprets p.types ∧ d.DenotesEmpty p.types ∧ d ∈ (Emission.ofPackage p).sizeChecked := by
  refine ⟨rfl, ?_⟩
  obtain ⟨p, hp, d, hd, ht, hchecked⟩ := exists_type_of_any (handles "session_t") [] "t"
    (fun p d => d.needsSizeCheck p.types && (d.literal? p.types).any (·.isEmptyStruct p.types))
    (by decide +kernel)
  obtain ⟨hneeds, hliteral⟩ := (Bool.and_eq_true _ _).mp hchecked
  obtain ⟨l, hl, hempty⟩ := (Option.any_eq_true _ _).1 hliteral
  obtain ⟨id, -, -, -, hid⟩ := Declaration.literal?_eq_some.1 hl
  have hdenotes : d.DenotesEmpty p.types :=
    .of_literal hl ((Declaration.isEmptyStruct_iff hid).1 hempty).denotesEmpty
  exact ⟨p, hp, d, hd, ((Declaration.needsSizeCheck_iff ht).1 hneeds).1, hdenotes, List.mem_filter.2 ⟨hd, hneeds⟩⟩

end Package

end Bindery
