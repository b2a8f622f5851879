import Bindery.Proofs.Native.Closed

/-!
# Ranges of decoded numbers

Sizes, indices and enumerators that have been decoded are within the ranges of 64 bits, because a
reader lets nothing else pass, and loading changes no number.
-/

namespace Bindery

namespace Json

variable {α : Type} {read : Json → Option α} {v : Json} {a : α}

def Finds (read : Json → Option α) (a : α) : Prop := ∃ v, read v = some a

theorem finds_of_required? {r : Record} {name : String} (h : r.required? name read = some a) : Finds read a := by
  obtain ⟨value, -, h⟩ := Option.bind_eq_some_iff.1 h
  exact ⟨value, h⟩

theorem finds_of_optional? {r : Record} {name : String} {default : α}
    (h : r.optional? name default read = some a) : a = default ∨ Finds read a := by
  unfold Record.optional? at h
  split at h
  · exact .inr ⟨_, h⟩
  · exact .inl (Option.some.inj h).symm

theorem finds_of_nullable? {o : Option α} (h : nullable? read v = some o) (ho : o = some a) : Finds read a := by
  subst ho
  unfold nullable? at h
  split at h
  · cases h
  · obtain ⟨_, h, ha⟩ := Option.map_eq_some_iff.1 h
    cases ha
    exact ⟨_, h⟩

theorem finds_of_mapM {β : Type} {f : β → Option α} {items : List β} {l : List α} (h : items.mapM f = some l)
    (ha : a ∈ l) : ∃ item ∈ items, f item = some a := by
  induction items generalizing l with
  | nil =>
    cases h
    cases ha
  | cons item items ih =>
    rw [List.mapM_cons] at h
    obtain ⟨b, hb, h⟩ := Option.bind_eq_some_iff.1 h
    obtain ⟨rest, hrest, h⟩ := Option.bind_eq_some_iff.1 h
    cases h
    rcases List.mem_cons.1 ha with rfl | ha
    · exact ⟨item, List.mem_cons_self, hb⟩
    · obtain ⟨other, hm, hf⟩ := ih hrest ha
      exact ⟨other, List.mem_cons_of_mem _ hm, hf⟩

theorem finds_of_list? {l : List α} (h : list? read v = some l) (ha : a ∈ l) : Finds read a := by
  cases v with
  | list items =>
    obtain ⟨item, -, hitem⟩ := finds_of_mapM h ha
    exact ⟨item, hitem⟩
  | _ => cases h

end Json

namespace Native

open Json

def sizeLimit : Nat := 0x10000000000000000

def Enumerator.InRange (v : Enumerator) : Prop := -0x8000000000000000 ≤ v.value ∧ v.value < 0x8000000000000000

def TypeNode.InRange : TypeNode → Prop
  | .fundamental _ size => size < sizeLimit
  | .enumeration e => e.size < sizeLimit ∧ ∀ v ∈ e.values, v.InRange
  | .array _ length size => length < sizeLimit ∧ size < sizeLimit
  | .struct c => c.size < sizeLimit
  | .union c => c.size < sizeLimit
  | .pointer _ size => size < sizeLimit
  | .typedef t => t.size < sizeLimit
  | _ => True

def CallbackHint.InRange (h : CallbackHint) : Prop :=
  h.argIndex < sizeLimit ∧ h.dataIndex < sizeLimit ∧ h.callbackDataIndex < sizeLimit

structure Document.InRange (d : Document) : Prop where
  nodes : ∀ {id node}, d.types.get? id = some node → node.InRange
  hints : ∀ f ∈ d.functions, ∀ h, f.callback = some h → h.InRange

/-! ## What decoders find -/

theorem size_lt {n : Nat} (h : Finds size? n) : n < sizeLimit := by
  obtain ⟨v, h⟩ := h
  cases v with
  | whole i =>
    obtain ⟨hi, h⟩ := Option.ite_none_right_eq_some.1 h
    cases h
    unfold sizeLimit
    omega
  | _ => cases h

theorem size_lt_of_required? {r : Record} {name : String} {n : Nat} (h : r.required? name size? = some n) :
    n < sizeLimit := size_lt (finds_of_required? h)

theorem size_lt_of_optional? {r : Record} {name : String} {n : Nat} (h : r.optional? name 0 size? = some n) :
    n < sizeLimit := by
  rcases finds_of_optional? h with rfl | h
  · decide
  · exact size_lt h

theorem Enumerator.inRange {e : Enumerator} (h : Finds Enumerator.ofJson? e) : e.InRange := by
  obtain ⟨v, h⟩ := h
  simp only [Enumerator.ofJson?, Option.bind_eq_bind, Option.bind_eq_some_iff] at h
  obtain ⟨r, -, name, -, value, hvalue, h⟩ := h
  cases h
  obtain ⟨w, hw⟩ := finds_of_required? hvalue
  cases w with
  | whole i =>
    obtain ⟨hi, hw⟩ := Option.ite_none_right_eq_some.1 hw
    cases hw
    exact hi
  | _ => cases hw

theorem Enumeration.inRange {v : Json} {e : Enumeration} (h : Enumeration.ofJson? v = some e) :
    e.size < sizeLimit ∧ ∀ x ∈ e.values, x.InRange := by
  simp only [Enumeration.ofJson?, Option.bind_eq_bind, Option.bind_eq_some_iff] at h
  obtain ⟨r, -, name, -, file, -, size, hsize, values, hvalues, h⟩ := h
  cases h
  refine ⟨size_lt_of_required? hsize, fun x hx => ?_⟩
  rcases finds_of_optional? hvalues with rfl | hvalues
  · cases hx
  · obtain ⟨_, hvalues⟩ := hvalues
    exact Enumerator.inRange (finds_of_list? hvalues hx)

theorem Composite.inRange {v : Json} {c : Composite} (h : Composite.ofJson? v = some c) : c.size < sizeLimit := by
  simp only [Composite.ofJson?, Option.bind_eq_bind, Option.bind_eq_some_iff] at h
  obtain ⟨r, -, name, -, file, -, size, hsize, fields, -, h⟩ := h
  cases h
  exact size_lt_of_required? hsize

theorem Typedef.inRange {v : Json} {t : Typedef} (h : Typedef.ofJson? v = some t) : t.size < sizeLimit := by
  simp only [Typedef.ofJson?, Option.bind_eq_bind, Option.bind_eq_some_iff] at h
  obtain ⟨r, -, name, -, file, -, base, -, root, -, size, hsize, h⟩ := h
  cases h
  exact size_lt_of_optional? hsize

theorem TypeNode.inRange_of_members {kind : String} {v : Json} {node : TypeNode}
    (h : TypeNode.ofMembers? kind v = some node) : node.InRange := by
  unfold TypeNode.ofMembers? at h
  split at h
  · simp only [Option.bind_eq_bind, Option.bind_eq_some_iff] at h
    obtain ⟨r, -, name, -, size, hsize, h⟩ := h
    cases h
    exact size_lt_of_optional? hsize
  · obtain ⟨e, he, rfl⟩ := Option.map_eq_some_iff.1 h
    exact Enumeration.inRange he
  · simp only [Option.bind_eq_bind, Option.bind_eq_some_iff] at h
    obtain ⟨r, -, element, -, length, hlength, size, hsize, h⟩ := h
    cases h
    exact ⟨size_lt_of_required? hlength, size_lt_of_optional? hsize⟩
  · obtain ⟨c, hc, rfl⟩ := Option.map_eq_some_iff.1 h
    exact Composite.inRange hc
  · obtain ⟨c, hc, rfl⟩ := Option.map_eq_some_iff.1 h
    exact Composite.inRange hc
  · simp only [Option.bind_eq_bind, Option.bind_eq_some_iff] at h
    obtain ⟨r, -, pointee, -, size, hsize, h⟩ := h
    cases h
    exact size_lt_of_optional? hsize
  · obtain ⟨t, ht, rfl⟩ := Option.map_eq_some_iff.1 h
    exact Typedef.inRange ht
  · obtain ⟨f, -, rfl⟩ := Option.map_eq_some_iff.1 h
    trivial
  · simp only [Option.bind_eq_bind, Option.bind_eq_some_iff] at h
    obtain ⟨r, -, base, -, h⟩ := h
    cases h
    trivial
  · simp only [Option.bind_eq_bind, Option.bind_eq_some_iff] at h
    obtain ⟨r, -, name, -, h⟩ := h
    cases h
    trivial
  · obtain ⟨r, -, rfl⟩ := Option.map_eq_some_iff.1 h
    trivial

theorem TypeNode.inRange {v : Json} {node : TypeNode} (h : TypeNode.ofJson? v = some node) : node.InRange := by
  obtain ⟨⟨kind, members⟩, -, h⟩ := Option.bind_eq_some_iff.1 h
  obtain ⟨-, h⟩ := Option.ite_none_right_eq_some.1 h
  exact inRange_of_members h

theorem CallbackHint.inRange {hint : CallbackHint} (h : Finds CallbackHint.ofJson? hint) : hint.InRange := by
  obtain ⟨v, h⟩ := h
  simp only [CallbackHint.ofJson?, Option.bind_eq_bind, Option.bind_eq_some_iff] at h
  obtain ⟨r, -, arg, harg, data, hdata, callback, hcallback, h⟩ := h
  cases h
  exact ⟨size_lt_of_required? harg, size_lt_of_required? hdata, size_lt_of_required? hcallback⟩

theorem Function.inRange {f : Function} (h : Finds Function.ofJson? f) {hint : CallbackHint}
    (hf : f.callback = some hint) : hint.InRange := by
  obtain ⟨v, h⟩ := h
  simp only [Function.ofJson?, Option.bind_eq_bind, Option.bind_eq_some_iff] at h
  obtain ⟨r, -, id, -, name, -, file, -, returns, -, arguments, -, variadic, -, callback, hcallback, h⟩ := h
  cases h
  rcases finds_of_optional? hcallback with rfl | hcallback
  · cases hf
  · obtain ⟨_, hcallback⟩ := hcallback
    exact CallbackHint.inRange (finds_of_nullable? hcallback hf)

theorem inRange_of_types {v : Json} {types : Dict TypeNode} (h : typesOfJson? v = some types) {id : Identity}
    {node : TypeNode} (hn : types.get? id = some node) : node.InRange := by
  cases v with
  | object members =>
    obtain ⟨l, hl, rfl⟩ := Option.map_eq_some_iff.1 h
    obtain ⟨m, -, hm⟩ := finds_of_mapM hl (Dict.mem_of_get?_ofList hn)
    obtain ⟨_, hm, he⟩ := Option.map_eq_some_iff.1 hm
    cases he
    exact TypeNode.inRange hm
  | _ => cases h

theorem Document.inRange_of_decoded {v : Json} {d : Document} (h : Document.ofJson? v = some d) : d.InRange := by
  simp only [Document.ofJson?, Option.bind_eq_bind, Option.bind_eq_some_iff] at h
  obtain ⟨r, -, files, -, types, htypes, functions, hfunctions, globals, -, h⟩ := h
  cases h
  constructor
  · intro id node hn
    rcases finds_of_optional? htypes with rfl | htypes
    · cases hn
    · obtain ⟨_, htypes⟩ := htypes
      exact inRange_of_types htypes hn
  · intro f hf hint hcallback
    rcases finds_of_optional? hfunctions with rfl | hfunctions
    · cases hf
    · obtain ⟨_, hfunctions⟩ := hfunctions
      exact Function.inRange (finds_of_list? hfunctions hf) hcallback

theorem TypeNode.InRange.rooted {node : TypeNode} (h : node.InRange) (d : Document) (id : Identity) :
    (d.rooted id node).InRange := by
  cases node with
  | typedef t => exact h
  | _ => exact h

/-- What has been loaded is in range. -/
theorem Document.inRange_of_read {text : String} {d : Document} (h : Document.read text = .ok d) : d.InRange := by
  unfold Document.read at h
  split at h
  · rename_i raw hraw
    obtain ⟨v, -, hv⟩ := Option.bind_eq_some_iff.1 hraw
    have hrange := inRange_of_decoded hv
    obtain ⟨-, rfl⟩ := Document.accept_ok.1 h
    refine ⟨fun hn => ?_, hrange.hints⟩
    obtain ⟨node, hraw, rfl⟩ := Dict.exists_of_get?_mapValues hn
    exact (hrange.nodes hraw).rooted raw _
  · cases h

end Native

end Bindery
