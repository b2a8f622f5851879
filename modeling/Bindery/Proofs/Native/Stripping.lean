import Bindery.Proofs.Native.Pointers

/-!
# Looking through typedefs and qualifiers

What a type of a loaded document is behind its typedefs and qualifiers is the first node on its chain
that is neither. A chain without such a node goes on for ever: it has to come upon a node for the second
time, since there are only so many, and from there it goes round in a circle.
-/

namespace Bindery.Native.Document

variable (d : Document)

/-! ## The walk with a record of where it has been -/

def unseen (seen : List Identity) : List Identity := d.types.keys.filter (· ∉ seen)

theorem length_unseen_lt {seen : List Identity} {id : Identity} (hid : id ∈ d.types.keys) (hnew : id ∉ seen) :
    (d.unseen (id :: seen)).length < (d.unseen seen).length := by
  have hless : d.unseen (id :: seen) = (d.unseen seen).filter (· ≠ id) := by
    simp [unseen, List.filter_filter, not_or]
  rw [hless, List.length_filter_lt_length_iff_exists]
  exact ⟨id, List.mem_filter.2 ⟨hid, by simpa using hnew⟩, by simp⟩

/-- The walk from `start` that has `seen` some nodes on its way to `id`, and gives up where it meets one
of them again. -/
def stripNoting (start : Identity) (seen : List Identity) (id : Identity) :
    Except DocumentError (Identity × TypeNode) :=
  if id ∈ seen then .error (.endlessTypedef start)
  else
    match _hn : d.types.get? id with
    | none => .error (.unknownType id .lookup)
    | some node =>
      match node.underlying? with
      | none => .ok (id, node)
      | some inner => stripNoting start (id :: seen) inner
termination_by (d.unseen seen).length
decreasing_by exact d.length_unseen_lt (Dict.mem_keys_of_get? ‹_›) ‹_›

variable {d} {start id x : Identity} {seen : List Identity} {out : Identity × TypeNode}

/-- As long as the chain leads from every node that has been seen to the one at hand, meeting one of them
again means that there is a circle. -/
theorem stripNoting_ok_iff (h : d.Closed) (hid : d.HasType id)
    (hseen : ∀ x ∈ seen, Relation.TransGen (d.Steps TypeNode.underlying?) x id) :
    d.stripNoting start seen id = .ok out ↔ d.StandsFor id out := by
  fun_induction stripNoting d start seen id with
  | case1 seen id hmem =>
    refine ⟨nofun, fun hf => ?_⟩
    obtain ⟨k, hf⟩ := hf
    exact absurd ⟨id, .refl, hseen id hmem⟩ hf.not_circles
  | case2 seen id hnew hn =>
    obtain ⟨node, hn'⟩ := hid
    rw [hn] at hn'
    cases hn'
  | case3 seen id hnew node hn hnone =>
    have here : d.StandsFor id (id, node) := ⟨0, .here hn hnone⟩
    constructor
    · intro hok
      obtain rfl := Except.ok.inj hok
      exact here
    · intro hf
      rw [here.unique hf]
  | case4 seen id hnew node hn inner hi ih =>
    have hstep : d.Steps TypeNode.underlying? id inner := ⟨node, hn, hi⟩
    rw [ih (h.stays_underlying hstep) ?_]
    · constructor
      · intro hf
        obtain ⟨k, hf⟩ := hf
        exact ⟨k + 1, .step hn hi hf⟩
      · intro hf
        obtain ⟨k, hf⟩ := hf
        obtain ⟨j, -, hf⟩ := hf.of_steps hstep
        exact ⟨j, hf⟩
    · intro x hx
      rcases List.mem_cons.1 hx with rfl | hx
      · exact .single hstep
      · exact (hseen x hx).tail hstep

theorem stripNoting_error (h : d.Closed) (hid : d.HasType id) {e : DocumentError}
    (he : d.stripNoting start seen id = .error e) : e = .endlessTypedef start := by
  fun_induction stripNoting d start seen id with
  | case1 => exact (Except.error.inj he).symm
  | case2 seen id hnew hn =>
    obtain ⟨node, hn'⟩ := hid
    rw [hn] at hn'
    cases hn'
  | case3 => cases he
  | case4 seen id hnew node hn inner hi ih => exact ih (h.stays_underlying ⟨node, hn, hi⟩) he

/-- The two walks have the same answers. -/
theorem stripNoting_eq_strip (h : d.Closed) (hid : d.HasType id) : d.stripNoting id [] id = d.strip id := by
  have ok_iff {out : Identity × TypeNode} : d.stripNoting id [] id = .ok out ↔ d.strip id = .ok out :=
    (stripNoting_ok_iff h hid (by simp)).trans strip_ok.symm
  cases hs : d.strip id with
  | ok out => exact ok_iff.2 hs
  | error e =>
    cases hn : d.stripNoting id [] id with
    | ok out =>
      rw [ok_iff.1 hn] at hs
      cases hs
    | error e' => rw [stripNoting_error h hid hn, strip_error h hid hs]

/-! ## Answers -/

theorem strip_error_iff (h : d.Closed) (hid : d.HasType id) {e : DocumentError} :
    d.strip id = .error e ↔ e = .endlessTypedef id ∧ d.Endless id := by
  constructor
  · intro hs
    refine ⟨strip_error h hid hs, ?_⟩
    by_contra hends
    obtain ⟨out, hok⟩ := (strip_ok_iff h.nodes hid).2 hends
    rw [hs] at hok
    cases hok
  · intro he
    obtain ⟨rfl, hendless⟩ := he
    cases hs : d.strip id with
    | ok out => exact absurd hendless ((strip_ok_iff h.nodes hid).1 ⟨out, hs⟩)
    | error e => rw [strip_error h hid hs]

theorem StandsFor.of_steps (h : d.StandsFor id out)
    (hx : Relation.ReflTransGen (d.Steps TypeNode.underlying?) id x) : d.StandsFor x out := by
  obtain ⟨k, hf⟩ := h
  rcases Relation.reflTransGen_iff_eq_or_transGen.1 hx with rfl | hx
  · exact ⟨k, hf⟩
  · obtain ⟨j, -, hf⟩ := hf.of_transGen hx
    exact ⟨j, hf⟩

structure Strips (d : Document) (id : Identity) : Prop where
  /-- Of the nodes on the chain, the answer is the first that is neither a typedef nor qualified. -/
  ok_iff : ∀ out, d.strip id = .ok out ↔ d.StandsFor id out
  error_iff : ∀ e, d.strip id = .error e ↔ e = .endlessTypedef id ∧ d.Endless id
  along : ∀ out x, d.strip id = .ok out → Relation.ReflTransGen (d.Steps TypeNode.underlying?) id x →
    d.strip x = .ok out
  noting : d.stripNoting id [] id = d.strip id

/-- For every type of a loaded document the chain of typedefs and qualifiers has an end, which is found from
each node on it, or is reported to be endless. -/
theorem strips_of_read {text : String} (h : Document.read text = .ok d) (hid : d.HasType id) : d.Strips id where
  ok_iff _ := strip_ok
  error_iff _ := strip_error_iff (closed_of_read h) hid
  along _ _ hs hx := strip_ok.2 (StandsFor.of_steps (strip_ok.1 hs) hx)
  noting := stripNoting_eq_strip (closed_of_read h) hid

/-- A typedef of a qualified number, and a typedef the root of which is given although it leads back to
itself. -/
def ringJson : Json :=
  .object [("types", .object [
    ("t", .object [("kind", .text "typedef"), ("name", .text "tally_t"), ("base", .text "q")]),
    ("q", .object [("kind", .text "cv_qualified"), ("base", .text "i")]),
    ("i", .object [("kind", .text "fundamental"), ("name", .text "int"), ("size", .whole 4)]),
    ("r", .object [("kind", .text "typedef"), ("name", .text "ring_t"), ("base", .text "s"), ("root", .text "i")]),
    ("s", .object [("kind", .text "cv_qualified"), ("base", .text "r")])])]

def ring : Document where
  types := Dict.ofList [
    ("t", .typedef { name := "tally_t", file := "", base := "q", root := none, size := 0 }),
    ("q", .qualified "i"), ("i", .fundamental "int" 4),
    ("r", .typedef { name := "ring_t", file := "", base := "s", root := some "i", size := 0 }),
    ("s", .qualified "r")]

theorem ring_decoded : (Json.read? ringJson.compact).bind Document.ofJson? = some ring := by
  have hplain : Json.Plain 3 ringJson := by simp [ringJson]
  rw [hplain.read_compact]
  rfl

theorem ring_strips : ∃ d, Document.read ringJson.compact = .ok d ∧
    (d.HasType "t" ∧ d.Strips "t" ∧ d.strip "t" = .ok ("i", .fundamental "int" 4)) ∧
    d.HasType "r" ∧ d.Strips "r" ∧ (∃ e, d.strip "r" = .error e) ∧ d.Endless "r" := by
  obtain ⟨d, hd, htest⟩ := ok_of_any (x := ring.accept) (f := fun d =>
    d.types.contains "t" && d.types.contains "r" &&
      decide ((d.strip "t").toOption = some ("i", .fundamental "int" 4) ∧ (d.strip "r").toOption = none))
    (by decide +kernel)
  simp only [Bool.and_eq_true, decide_eq_true_eq] at htest
  obtain ⟨⟨ht, hr⟩, hout, hnone⟩ := htest
  have hread : Document.read ringJson.compact = .ok d := (read_of_decoded ring_decoded).trans hd
  have htype : d.HasType "t" := Option.isSome_iff_exists.1 ht
  have hring : d.HasType "r" := Option.isSome_iff_exists.1 hr
  have hstrips := strips_of_read hread hring
  refine ⟨d, hread, ⟨htype, strips_of_read hread htype, ?_⟩, hring, hstrips, ?_⟩
  · cases hs : d.strip "t" with
    | error e => simp [hs, Except.toOption] at hout
    | ok out => simpa [hs, Except.toOption] using hout
  · cases hs : d.strip "r" with
    | ok out => simp [hs, Except.toOption] at hnone
    | error e =>
      exact ⟨⟨e, rfl⟩, ((hstrips.error_iff e).1 hs).2⟩

end Bindery.Native.Document
