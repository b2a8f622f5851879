import Bindery.Proofs.Callback.Trampoline
import Bindery.Proofs.Lowering.Results

/-!
# Output arguments

An argument is an output if its pointer kind says so. The native function can only leave a value
there if it is handed an address, and it is handed one if the type is a pointer to something that
has values.
-/

namespace Bindery

open Native (Identity PointerKind)

def CallArgument.PassesAddress (x : CallArgument) : Prop :=
  ∀ r, x.type.toNative r .define x.managed x.native =
    [Binding.define.assign x.native
      (Strategy.pointerReinterpret.convert (x.type.nativeName r) ("&" ++ x.managed))]

theorem Parameter.passesAddress {p : Parameter} {t : Descriptor} (h : p.type = .outPointer t) :
    p.argument.PassesAddress := by
  obtain ⟨name, type, isOutput⟩ := p
  cases h
  exact fun _ => rfl

namespace LoweringContext

variable {c : LoweringContext} {r r' : Registry} {id : Identity} {kind : PointerKind} {d : Descriptor}

/-! ## Types of arguments -/

variable (c) in
def PointsTo (id pointee : Identity) : Prop :=
  ∃ x size, c.document.strip id = .ok (x, .pointer pointee size)

theorem PointsTo.unique {p q : Identity} (h : c.PointsTo id p) (h' : c.PointsTo id q) : p = q := by
  obtain ⟨x, size, hs⟩ := h
  obtain ⟨y, size', hs'⟩ := h'
  cases hs.symm.trans hs'
  rfl

variable (c) in
inductive Resolves (id : Identity) : PointerKind → Descriptor → Prop
  | truth {native size} (h : c.Truth id) : Resolves id .unset (.boolean native size)
  /-- For itself: without a kind, for its name, or because it is no pointer. -/
  | value {kind d n M} (h : c.Lowers id true d n M)
      (hk : kind = .unset ∨ kind = .typedef ∨ ∀ p, ¬ c.PointsTo id p) : Resolves id kind d
  | string {p} (hp : c.PointsTo id p) : Resolves id .string .string
  | stringArray {p} (hp : c.PointsTo id p) : Resolves id .stringArray .stringArray
  | nested {p q d n M} (hp : c.PointsTo id p) (hq : c.PointsTo p q) (h : c.Lowers q true d n M)
      (hv : d.isVoid = false) : Resolves id .arrayArray (.sliceOfSlice d)
  | flat {p d n M} (hp : c.PointsTo id p) (hq : ∀ q, ¬ c.PointsTo p q) (h : c.Lowers p true d n M)
      (hv : d.isVoid = false) : Resolves id .arrayArray (.slice d)
  | untyped {kind p d n M} (hp : c.PointsTo id p) (h : c.Lowers p true d n M) (hv : d.isVoid = true) :
      Resolves id kind (.pointer .void)
  | array {p d n M} (hp : c.PointsTo id p) (h : c.Lowers p true d n M) (hv : d.isVoid = false) :
      Resolves id .array (.slice d)
  | output {p d n M} (hp : c.PointsTo id p) (h : c.Lowers p true d n M) (hv : d.isVoid = false) :
      Resolves id .output (.outPointer d)
  | pointer {kind p d n M} (hp : c.PointsTo id p) (h : c.Lowers p true d n M) (hv : d.isVoid = false)
      (hk : kind = .output → False) : Resolves id kind (.pointer d)

theorem gives_value {place : String} (h : c.Gives (c.value id place) d) :
    (∃ n M, c.Lowers id true d n M) ∧ d.isVoid = false := by
  obtain ⟨e, he, hlift⟩ := (gives_bind (Transparent.declare id) fun _ => Transparent.lift _).1 h
  obtain ⟨hv, rfl⟩ := requireValue_ok.1 (gives_lift.1 hlift)
  exact ⟨gives_declare.1 he, hv⟩

theorem gives_pure {a b : Descriptor} : c.Gives (pure a) b → b = a := by
  intro h
  obtain ⟨r, hr, -⟩ := h.run .empty
  exact (Lowering.run_pure_ok.1 hr).1.symm

theorem Resolves.of_plain (h : c.Gives (c.lowerPlain id) d) : c.Resolves id .unset d := by
  obtain ⟨node, hn, h⟩ := gives_ask_bind.1 h
  split at h
  · rename_i ht
    obtain ⟨r, hr, -⟩ := h.run .empty
    obtain ⟨_, _, -, hr⟩ := Lowering.run_bind_ok.1 hr
    obtain ⟨_, _, -, hr⟩ := Lowering.run_bind_ok.1 hr
    obtain ⟨rfl, -⟩ := Lowering.run_pure_ok.1 hr
    exact .truth ⟨node, Native.Document.node_ok.1 hn, ht⟩
  · obtain ⟨n, M, hM⟩ := gives_declare.1 h
    exact .value hM (.inl rfl)

theorem Resolves.of_nested {p : Identity} (hp : c.PointsTo id p) (h : c.Gives (c.lowerNested id p) d) :
    c.Resolves id .arrayArray d := by
  obtain ⟨⟨x, node⟩, hs, h⟩ := gives_ask_bind.1 h
  dsimp only at h
  split at h
  · obtain ⟨e, he, h⟩ := (gives_bind (Transparent.value _ _) fun _ => Transparent.pure _).1 h
    obtain ⟨⟨n, M, hM⟩, hv⟩ := gives_value he
    rw [gives_pure h]
    exact .nested hp ⟨x, _, hs⟩ hM hv
  · rename_i hpointer
    obtain ⟨e, he, h⟩ := (gives_bind (Transparent.value _ _) fun _ => Transparent.pure _).1 h
    obtain ⟨⟨n, M, hM⟩, hv⟩ := gives_value he
    rw [gives_pure h]
    refine .flat hp (fun q hq => ?_) hM hv
    obtain ⟨_, _, hs'⟩ := hq
    cases hs.symm.trans hs'
    exact hpointer _ _ rfl

theorem Resolves.of_target {p : Identity} (hp : c.PointsTo id p) (h : c.Gives (c.lowerTarget p kind) d) :
    c.Resolves id kind d := by
  obtain ⟨e, he, h⟩ := (gives_bind (Transparent.declare p) fun target => by
    split
    · exact Transparent.pure _
    · split <;> exact Transparent.pure _).1 h
  obtain ⟨n, M, hM⟩ := gives_declare.1 he
  split at h
  · rename_i hv
    rw [gives_pure h]
    exact .untyped hp hM hv
  · rename_i hv
    replace hv : e.isVoid = false := by simpa using hv
    split at h
    · rw [gives_pure h]
      exact .array hp hM hv
    · rw [gives_pure h]
      exact .output hp hM hv
    · rename_i hk
      rw [gives_pure h]
      exact .pointer hp hM hv hk

theorem resolves_of_gives (h : c.Gives (c.resolve id kind) d) : c.Resolves id kind d := by
  unfold resolve at h
  split at h
  · rename_i hk
    rw [hk]
    exact .of_plain h
  · obtain ⟨⟨x, node⟩, hs, h⟩ := gives_ask_bind.1 h
    dsimp only at h
    split at h
    · rename_i p size
      have hp : c.PointsTo id p := ⟨x, size, hs⟩
      split at h
      · rw [gives_pure h]
        exact .string hp
      · rw [gives_pure h]
        exact .stringArray hp
      · obtain ⟨n, M, hM⟩ := gives_declare.1 h
        exact .value hM (.inr (.inl rfl))
      · exact .of_nested hp h
      · exact .of_target hp h
    · rename_i hpointer
      obtain ⟨n, M, hM⟩ := gives_declare.1 h
      refine .value hM (.inr (.inr fun p hp => ?_))
      obtain ⟨_, _, hs'⟩ := hp
      cases hs.symm.trans hs'
      exact hpointer _ _ rfl

/-! ## Outputs -/

variable (c) in
def PointsToValue (id : Identity) : Prop := ∃ p, c.PointsTo id p ∧ ¬ c.Vanishes p

theorem Lowers.ne_outPointer {standalone : Bool} {n : Nat} {M : Set Mark}
    (h : c.Lowers id standalone d n M) (t : Descriptor) : d ≠ .outPointer t := by
  rintro rfl
  rcases h.isSingle with hvoid | hsingle
  · cases hvoid
  · cases hsingle

theorem Resolves.isOutput {t : Descriptor} (h : c.Resolves id kind (.outPointer t)) : kind = .output := by
  cases h with
  | value h _ => exact (h.ne_outPointer t rfl).elim
  | output => rfl

theorem Resolves.outPointer_iff (h : c.Resolves id .output d) :
    (∃ t, d = .outPointer t) ↔ c.PointsToValue id := by
  cases h with
  | value h hk =>
    have hp : ∀ p, ¬ c.PointsTo id p := by simpa using hk
    refine iff_of_false (fun ⟨t, ht⟩ => h.ne_outPointer t ht) ?_
    rintro ⟨p, hpoints, -⟩
    exact hp p hpoints
  | untyped hp h hv =>
    refine iff_of_false nofun ?_
    rintro ⟨q, hq, hnot⟩
    cases hp.unique hq
    exact hnot (h.vanishes hv)
  | output hp h hv =>
    refine iff_of_true ⟨_, rfl⟩ ⟨_, hp, fun hvanishes => ?_⟩
    cases hv.symm.trans (hvanishes.lowers h)
  | pointer _ _ _ hk => exact (hk rfl).elim

theorem lowerArguments_resolve {owner : String} {as : List Native.Argument} {ps : List Parameter}
    {xs : List CallArgument} (hc : c.Consistent r)
    (h : (c.lowerArguments owner as).run r = .ok ((ps, xs), r')) :
    List.Forall₂ (fun p a => p.isOutput = (a.kind == .output) ∧ c.Resolves a.type a.kind p.type) ps as := by
  have hall := (lowerArguments_standFor hc h).imp (S := fun p a =>
    p.isOutput = (a.1.kind == .output) ∧ c.Resolves a.1.type a.1.kind p.type)
    fun p a hp => ⟨hp.output, resolves_of_gives hp.type⟩
  have := (List.forall₂_map_right_iff (R := fun (p : Parameter) (a : Native.Argument) =>
    p.isOutput = (a.kind == .output) ∧ c.Resolves a.type a.kind p.type)).2 hall
  rwa [List.zipIdx_map_fst] at this

/-- A parameter is an output exactly if it is an out-pointer, unless its argument is said to be an
output and does not point to values. What is an out-pointer is an output, of which the call is
handed the address. -/
theorem outputs_out_pointers_iff {owner : String} {as : List Native.Argument} {ps : List Parameter}
    {xs : List CallArgument} (hc : c.Consistent r)
    (h : (c.lowerArguments owner as).run r = .ok ((ps, xs), r')) :
    xs = ps.map Parameter.argument ∧
    List.Forall₂ (fun p a => (p.isOutput = true ↔ ∃ t, p.type = .outPointer t) ↔
      (a.kind = .output → c.PointsToValue a.type)) ps as ∧
    ∀ p ∈ ps, ∀ t, p.type = .outPointer t → p.isOutput = true ∧ p.argument.PassesAddress := by
  have hall := lowerArguments_resolve hc h
  refine ⟨(lowerArguments_ok h).1, hall.imp ?_, ?_⟩
  · rintro p a ⟨ho, hr⟩
    rw [ho, beq_iff_eq]
    by_cases hk : a.kind = .output
    · rw [hk] at hr
      simp [hk, hr.outPointer_iff]
    · refine iff_of_true (iff_of_false hk ?_) fun h => (hk h).elim
      rintro ⟨t, ht⟩
      rw [ht] at hr
      exact hk hr.isOutput
  · intro p hp t ht
    obtain ⟨a, -, ho, hr⟩ := exists_partner hall hp
    rw [ht] at hr
    exact ⟨by simp [ho, hr.isOutput], Parameter.passesAddress ht⟩

/-- The types of `void read_meter(int *level, int unit)` and `void fill_meter(int level, void *buffer)`. -/
def meters : LoweringContext where
  document := {
    files := [⟨"f", "meters.h"⟩]
    types := Dict.ofList [
      ("int", .fundamental "int" 4),
      ("ip", .pointer "int" 8),
      ("void", .fundamental "void" 0),
      ("vp", .pointer "void" 8)] }
  rules := {}

theorem meters_read_level :
    ∃ ps xs r', (meters.lowerArguments "function 'read_meter'"
        [⟨"level", "ip", .output⟩, ⟨"unit", "int", .unset⟩]).run {} = .ok ((ps, xs), r') ∧
      (∀ p ∈ ps, p.isOutput = true ↔ ∃ t, p.type = .outPointer t) ∧
      ∀ p ∈ ps, p.isOutput = true → p.argument.PassesAddress := by
  obtain ⟨ps, xs, r', hrun⟩ : ∃ ps xs r', (meters.lowerArguments "function 'read_meter'"
      [⟨"level", "ip", .output⟩, ⟨"unit", "int", .unset⟩]).run {} = .ok ((ps, xs), r') := ⟨_, _, _, rfl⟩
  obtain ⟨-, hall, haddress⟩ := outputs_out_pointers_iff Consistent.empty hrun
  have hint : meters.Lowers "int" true (.number "int32" "C.int" 4) 4 ∅ := .fundamental ⟨rfl, rfl⟩ rfl
  have hvalue : meters.PointsToValue "ip" :=
    ⟨"int", ⟨"ip", 8, rfl⟩, fun hvanishes => by cases hvanishes.lowers hint⟩
  have houtputs : ∀ p ∈ ps, p.isOutput = true ↔ ∃ t, p.type = .outPointer t := by
    intro p hp
    obtain ⟨a, ha, hiff⟩ := exists_partner hall hp
    refine hiff.2 fun hk => ?_
    simp only [List.mem_cons, List.not_mem_nil, or_false] at ha
    rcases ha with rfl | rfl
    · exact hvalue
    · cases hk
  refine ⟨ps, xs, r', hrun, houtputs, fun p hp ho => ?_⟩
  obtain ⟨t, ht⟩ := (houtputs p hp).1 ho
  exact (haddress p hp t ht).2

theorem meters_fill_outputs :
    ∃ ps xs r', (meters.lowerArguments "function 'fill_meter'"
        [⟨"level", "int", .output⟩, ⟨"buffer", "vp", .output⟩]).run {} = .ok ((ps, xs), r') ∧
      ps.map (·.name) = ["level", "buffer"] ∧
      ∀ p ∈ ps, p.isOutput = true ∧ ∀ t, p.type ≠ .outPointer t := by
  refine ⟨_, _, _, rfl, rfl, fun p hp => ?_⟩
  simp only [List.mem_cons, List.not_mem_nil, or_false] at hp
  rcases hp with rfl | rfl
  · exact ⟨rfl, nofun⟩
  · exact ⟨rfl, nofun⟩

end LoweringContext

end Bindery
