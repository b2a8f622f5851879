import Bindery.Native.Query
import Bindery.Proofs.Native.RoundTrip

/-!
# Chains of qualifiers

A chain within a document comes to an end unless it runs into a circle. Loading refuses a typedef
without a root that leads to a circle of typedefs and qualifiers. A circle of qualified nodes alone
passes all checks, and to drop the qualifiers of a node that leads to one takes for ever.
-/

namespace Bindery.Native

theorem TypeNode.refersTo_unqualified {node : TypeNode} {base : Identity} (h : node.unqualified? = some base) :
    node.RefersTo base := by
  cases node with
  | qualified base =>
    obtain rfl := Option.some.inj h
    exact .qualified
  | _ => cases h

namespace Document

variable (d : Document) (next : TypeNode → Option Identity)

/-! ## Circles -/

def Steps (id inner : Identity) : Prop := ∃ node, d.types.get? id = some node ∧ next node = some inner

def Circles (id : Identity) : Prop :=
  ∃ x, Relation.ReflTransGen (d.Steps next) id x ∧ Relation.TransGen (d.Steps next) x x

def Stays : Prop := ∀ {id inner}, d.Steps next id inner → d.HasType inner

variable {d next} {k : Nat} {id inner x : Identity} {out : Identity × TypeNode}

theorem Follows.of_steps (h : d.Follows next k id out) (hs : d.Steps next id inner) :
    ∃ j < k, d.Follows next j inner out := by
  obtain ⟨node, hn, hi⟩ := hs
  cases h with
  | here hn' h' =>
    obtain rfl := Option.some.inj (hn.symm.trans hn')
    cases hi.symm.trans h'
  | @step j _ _ _ _ hn' hi' hf =>
    obtain rfl := Option.some.inj (hn.symm.trans hn')
    obtain rfl := Option.some.inj (hi.symm.trans hi')
    exact ⟨j, Nat.lt_succ_self j, hf⟩

theorem Follows.of_transGen (h : d.Follows next k id out) (hs : Relation.TransGen (d.Steps next) id x) :
    ∃ j < k, d.Follows next j x out := by
  induction hs with
  | single hs => exact h.of_steps hs
  | tail _ hs ih =>
    obtain ⟨j, hj, hf⟩ := ih
    obtain ⟨i, hi, hf⟩ := hf.of_steps hs
    exact ⟨i, hi.trans hj, hf⟩

theorem Follows.not_circles (h : d.Follows next k id out) : ¬ d.Circles next id := by
  intro hc
  obtain ⟨x, hx, hcircle⟩ := hc
  obtain ⟨j, hf⟩ : ∃ j, d.Follows next j x out := by
    rcases Relation.reflTransGen_iff_eq_or_transGen.1 hx with rfl | hx
    · exact ⟨k, h⟩
    · obtain ⟨j, -, hf⟩ := h.of_transGen hx
      exact ⟨j, hf⟩
  -- once around the circle the same chain would be shorter
  obtain ⟨i, hi, hf'⟩ := hf.of_transGen hcircle
  exact Nat.ne_of_lt hi (hf'.unique hf).1

theorem exists_follows (hstays : d.Stays next) (hid : d.HasType id) (h : ¬ d.Circles next id) :
    ∃ k out, d.Follows next k id out := by
  let InReach (x : Identity) : Prop := x ∈ d.types.keys ∧ Relation.ReflTransGen (d.Steps next) id x
  have hfinite : Finite {x // InReach x} :=
    Finite.of_injective (fun a => (⟨a.1, a.2.1⟩ : {x // x ∈ d.types.keys})) fun a b hab =>
      Subtype.ext (congrArg (fun y => y.1) hab)
  have hwf := wellFounded_of_acyclic (R := d.Steps next) (P := InReach) fun x hx hc => h ⟨x, hx.2, hc⟩
  suffices key : ∀ x : {x // InReach x}, ∃ k out, d.Follows next k x.1 out by
    obtain ⟨node, hn⟩ := hid
    exact key ⟨id, Dict.mem_keys_of_get? hn, .refl⟩
  intro x
  induction x using hwf.induction with
  | _ x ih =>
    obtain ⟨x, hkey, hreach⟩ := x
    obtain ⟨node, hn⟩ : ∃ node, d.types.get? x = some node := by
      rwa [Dict.mem_keys_iff, Dict.contains, Option.isSome_iff_exists] at hkey
    cases hi : next node with
    | none => exact ⟨0, _, .here hn hi⟩
    | some inner =>
      have hstep : d.Steps next x inner := ⟨node, hn, hi⟩
      obtain ⟨_, hinner⟩ := hstays hstep
      obtain ⟨k, out, hf⟩ := ih ⟨inner, Dict.mem_keys_of_get? hinner, hreach.tail hstep⟩ (.single hstep)
      exact ⟨k + 1, out, .step hn hi hf⟩

/-- A chain that stays within the document ends exactly when it runs into no circle. -/
theorem follows_iff (hstays : d.Stays next) (hid : d.HasType id) :
    (∃ k out, d.Follows next k id out) ↔ ¬ d.Circles next id := by
  constructor
  · intro h
    obtain ⟨k, out, hf⟩ := h
    exact hf.not_circles
  · exact exists_follows hstays hid

theorem Closed.stays_qualifiers (h : d.Closed) : d.Stays TypeNode.unqualified? := by
  intro id inner hs
  obtain ⟨node, hn, hi⟩ := hs
  exact h.nodes hn (TypeNode.refersTo_unqualified hi)

theorem Closed.stays_underlying (h : d.Closed) : d.Stays TypeNode.underlying? := by
  intro id inner hs
  obtain ⟨node, hn, hi⟩ := hs
  exact h.nodes hn (TypeNode.refersTo_underlying hi)

/-! ## Walks -/

/-- The only fault of a walk that stays within the document is that it does not end. -/
theorem follow_error (hstays : d.Stays next) (hid : d.HasType id) {endless e : DocumentError} {steps : Nat}
    (h : d.follow next endless steps id = .error e) : e = endless := by
  induction steps generalizing id with
  | zero => exact (Except.error.inj h).symm
  | succ steps ih =>
    obtain ⟨node, hn⟩ := hid
    rw [follow, node_ok.2 hn] at h
    cases hi : next node with
    | none => simp [bind, Except.bind, hi, pure, Except.pure] at h
    | some inner =>
      simp only [bind, Except.bind, hi] at h
      exact ih (hstays ⟨node, hn, hi⟩) h

theorem stripQualifiers_ok_iff (h : d.Closed) (hid : d.HasType id) :
    (∃ out, d.stripQualifiers id = .ok out) ↔ ¬ d.Circles TypeNode.unqualified? id := by
  rw [← follows_iff h.stays_qualifiers hid]
  simp only [stripQualifiers_ok]
  exact exists_comm

theorem stripQualifiers_error (h : d.Closed) (hid : d.HasType id) (hc : d.Circles TypeNode.unqualified? id) :
    d.stripQualifiers id = .error (.endlessType id) := by
  cases hs : d.stripQualifiers id with
  | ok out => exact absurd hc ((stripQualifiers_ok_iff h hid).1 ⟨out, hs⟩)
  | error e => rw [follow_error h.stays_qualifiers hid hs]

theorem strip_error (h : d.Closed) (hid : d.HasType id) {e : DocumentError} (hs : d.strip id = .error e) :
    e = .endlessTypedef id :=
  follow_error h.stays_underlying hid hs

theorem Follows.get? (h : d.Follows next k id out) : d.types.get? out.1 = some out.2 := by
  induction h with
  | here hn _ => exact hn
  | step _ _ _ ih => exact ih

theorem bind_error {ε α β : Type} {x : Except ε α} {f : α → Except ε β} {e : ε} :
    (x >>= f) = .error e ↔ x = .error e ∨ ∃ a, x = .ok a ∧ f a = .error e := by
  cases x with
  | error e' => simp [bind, Except.bind]
  | ok a => simp [bind, Except.bind]

/-- Once the qualifiers have been dropped, all that can go wrong with the question for a function pointer
is a circle that a typedef belongs to, which is noticed. -/
theorem functionPointer?_error (h : d.Closed) (hid : d.HasType id) (hs : d.stripQualifiers id = .ok out)
    {e : DocumentError} (he : d.functionPointer? id = .error e) : ∃ x, e = .endlessTypedef x := by
  unfold functionPointer? at he
  rw [hs] at he
  rcases bind_error.1 he with hnone | ⟨_, -, he⟩
  · cases hnone
  rcases bind_error.1 he with herr | ⟨⟨x, node⟩, hstrip, he⟩
  · exact ⟨id, strip_error h hid herr⟩
  obtain ⟨k, hf⟩ := strip_ok.1 hstrip
  cases node with
  | pointer pointee size =>
    have hpointee : d.HasType pointee := h.nodes hf.get? .pointee
    rcases bind_error.1 he with herr | ⟨⟨target, node⟩, -, he⟩
    · exact ⟨pointee, strip_error h hpointee herr⟩
    · cases node <;> cases he
  | _ => cases he

/-- What becomes of a question for the function pointer behind qualifiers. -/
structure Unqualifies (d : Document) (id : Identity) : Prop where
  ends_iff : (∃ k out, d.Follows TypeNode.unqualified? k id out) ↔ ¬ d.Circles TypeNode.unqualified? id
  /-- Without a circle of qualifiers both questions have an answer, or a circle of typedefs is reported. -/
  answered : ¬ d.Circles TypeNode.unqualified? id → (∃ out, d.stripQualifiers id = .ok out) ∧
    ∀ e, d.functionPointer? id = .error e → ∃ x, e = .endlessTypedef x
  endless : d.Circles TypeNode.unqualified? id → d.stripQualifiers id = .error (.endlessType id) ∧
    d.functionPointer? id = .error (.endlessType id)

theorem Closed.unqualifies (h : d.Closed) (hid : d.HasType id) : d.Unqualifies id where
  ends_iff := follows_iff h.stays_qualifiers hid
  answered hc := by
    obtain ⟨out, hs⟩ := (stripQualifiers_ok_iff h hid).2 hc
    exact ⟨⟨out, hs⟩, fun e he => functionPointer?_error h hid hs he⟩
  endless hc := by
    have hs := stripQualifiers_error h hid hc
    refine ⟨hs, ?_⟩
    unfold functionPointer?
    rw [hs]
    rfl

/-- What loading makes sure of: a typedef that leaves out its root leads to no circle. -/
theorem Closed.not_circles (h : d.Closed) {t : Typedef} (ht : d.types.get? id = some (.typedef t))
    (hroot : t.root = none) : ¬ d.Circles TypeNode.underlying? id := by
  obtain ⟨out, hs⟩ := (strip_ok_iff h.nodes ⟨_, ht⟩).2 (h.chains ht hroot)
  obtain ⟨k, hf⟩ := strip_ok.1 hs
  exact hf.not_circles

/-- In a loaded document the qualifiers of a node come to an end exactly when they run into no circle of
qualified nodes. No circle of typedefs and qualifiers is in reach of a typedef of which the text leaves
out the root. -/
theorem qualifiers_end_iff {text : String} (h : Document.read text = .ok d) :
    (∀ id, d.HasType id → d.Unqualifies id) ∧
      ∃ raw, (Json.read? text).bind Document.ofJson? = some raw ∧ d.RootedFrom raw ∧
        ∀ id t, raw.types.get? id = some (.typedef t) → t.root = none → ¬ raw.Circles TypeNode.underlying? id := by
  cases hraw : (Json.read? text).bind Document.ofJson? with
  | none =>
    unfold Document.read at h
    rw [hraw] at h
    cases h
  | some raw =>
    rw [read_of_decoded hraw] at h
    have hclosed := (accept_ok.1 h).1
    have hrooted := rootedFrom_of_accept h
    exact ⟨fun id hid => (hrooted.closed hclosed).unqualifies hid, raw, rfl, hrooted,
      fun id t ht hroot => hclosed.not_circles ht hroot⟩

theorem tally_unqualified : ∃ d, Document.read tallyJson.compact = .ok d ∧ d.HasType "q" ∧ d.Unqualifies "q" ∧
    d.stripQualifiers "q" = .ok ("i", .fundamental "int" 4) := by
  obtain ⟨d, hd, htest⟩ := ok_of_any (x := tally.accept) (f := fun d =>
    d.types.contains "q" && decide ((d.stripQualifiers "q").toOption = some ("i", .fundamental "int" 4)))
    (by decide +kernel)
  obtain ⟨hq, hstrip⟩ := (Bool.and_eq_true _ _).mp htest
  have hread : Document.read tallyJson.compact = .ok d := (read_of_decoded tally_decoded).trans hd
  have htype : d.HasType "q" := Option.isSome_iff_exists.1 hq
  refine ⟨d, hread, htype, (qualifiers_end_iff hread).1 "q" htype, ?_⟩
  cases hs : d.stripQualifiers "q" with
  | error e => simp [hs, Except.toOption] at hstrip
  | ok out => simpa [hs, Except.toOption] using hstrip

/-- Two qualified nodes, each the base of the other. -/
def knotJson : Json :=
  .object [("types", .object [
    ("c", .object [("kind", .text "cv_qualified"), ("base", .text "v")]),
    ("v", .object [("kind", .text "cv_qualified"), ("base", .text "c")])])]

def knot : Document where
  types := Dict.ofList [("c", .qualified "v"), ("v", .qualified "c")]

theorem knot_decoded : (Json.read? knotJson.compact).bind Document.ofJson? = some knot := by
  have hplain : Json.Plain 3 knotJson := by simp [knotJson]
  rw [hplain.read_compact]
  rfl

theorem knot_endless : Document.read knotJson.compact = .ok knot ∧ knot.HasType "c" ∧
    ¬ ∃ k out, knot.Follows TypeNode.unqualified? k "c" out := by
  refine ⟨(read_of_decoded knot_decoded).trans rfl, ⟨_, rfl⟩, ?_⟩
  have hout : knot.Steps TypeNode.unqualified? "c" "v" := ⟨_, rfl, rfl⟩
  have hback : knot.Steps TypeNode.unqualified? "v" "c" := ⟨_, rfl, rfl⟩
  rintro ⟨k, out, hf⟩
  exact hf.not_circles ⟨"c", .refl, .tail (.single hout) hback⟩

end Document

end Bindery.Native
