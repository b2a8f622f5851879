import Bindery.Name.Scope
import Mathlib.Data.List.Nodup

/-!
# Scopes are bijections

A scope that begins empty never binds an identity twice or a name twice. A name that is made
free is the candidate with the least number of underscores that no binding has, and binding
or renaming an identity leaves the names of all others as they are.
-/

namespace Bindery

namespace Scope

def underscored (name : String) (k : Nat) : String := name ++ String.ofList (List.replicate k '_')

@[simp] theorem underscored_zero (name : String) : underscored name 0 = name := by
  simp [underscored]

theorem toList_underscored (name : String) (k : Nat) :
    (underscored name k).toList = name.toList ++ List.replicate k '_' := by
  simp [underscored]

theorem underscored_ne_empty {name : String} (h : name ≠ "") (k : Nat) : underscored name k ≠ "" := by
  intro he
  have := congrArg String.toList he
  simp [toList_underscored] at this
  exact h this.1

theorem underscored_append (name : String) (k : Nat) :
    underscored (name ++ "_") k = underscored name (k + 1) := by
  rw [← String.toList_inj, toList_underscored, toList_underscored, List.replicate_succ]
  simp

theorem underscored_inj {name : String} {j k : Nat} (h : underscored name j = underscored name k) :
    j = k := by
  have := congrArg (fun s => s.toList.length) h
  simpa [toList_underscored] using this

/-! ## Free names -/

variable (s : Scope)

theorem hasName_iff (name : String) : s.hasName name = true ↔ ∃ id, (id, name) ∈ s.bindings := by
  unfold hasName owner?
  rw [Option.isSome_map, List.find?_isSome]
  constructor
  · intro h
    obtain ⟨b, hb, hn⟩ := h
    exact ⟨b.1, by rw [← eq_of_beq hn]; exact hb⟩
  · intro h
    obtain ⟨id, h⟩ := h
    exact ⟨(id, name), h, by simp⟩

theorem freshWithin_spec (more : Nat) (name : String) :
    ∃ k, s.freshWithin more name = underscored name k ∧
      (∀ j < k, s.hasName (underscored name j) = true) ∧
      (k = more ∨ s.hasName (underscored name k) = false) := by
  induction more generalizing name with
  | zero => exact ⟨0, by simp [freshWithin], by simp, .inl rfl⟩
  | succ more ih =>
    rw [freshWithin]
    cases hn : s.hasName name with
    | false => exact ⟨0, by simp, by simp, .inr (by simpa using hn)⟩
    | true =>
      obtain ⟨k, hk, hlt, hend⟩ := ih (name ++ "_")
      simp only [underscored_append] at hk hlt hend
      refine ⟨k + 1, by simpa using hk, fun j hj => ?_, hend.imp_left (congrArg (· + 1))⟩
      cases j with
      | zero => simpa using hn
      | succ j => exact hlt j (by omega)

/-- More underscored forms than bindings cannot all be taken. -/
theorem length_lt_of_taken {name : String} {k : Nat}
    (h : ∀ j < k, s.hasName (underscored name j) = true) : k ≤ s.size := by
  -- the forms are different names, and each of them is that of a binding
  have hsub : (List.range k).map (underscored name) ⊆ s.bindings.map (·.2) := by
    intro n hn
    obtain ⟨j, hj, rfl⟩ := List.mem_map.1 hn
    obtain ⟨id, hid⟩ := (s.hasName_iff _).1 (h j (List.mem_range.1 hj))
    exact List.mem_map.2 ⟨_, hid, rfl⟩
  have hnd : ((List.range k).map (underscored name)).Nodup :=
    List.nodup_range.map fun _ _ => underscored_inj
  simpa [size] using hnd.length_le_of_subset hsub

/-- The free form of a name has the least number of underscores that makes it free. -/
theorem fresh_spec (name : String) :
    ∃ k, s.fresh name = underscored name k ∧ (∀ j < k, s.hasName (underscored name j) = true) ∧
      s.hasName (s.fresh name) = false := by
  obtain ⟨k, hk, hlt, hend⟩ := s.freshWithin_spec s.size name
  rw [fresh, hk]
  refine ⟨k, rfl, hlt, hend.elim (fun he => ?_) id⟩
  subst he
  rw [← Bool.not_eq_true]
  intro hlast
  have hall : ∀ j < s.size + 1, s.hasName (underscored name j) = true := by
    intro j hj
    rcases Nat.lt_succ_iff_lt_or_eq.1 hj with hj | rfl
    · exact hlt j hj
    · exact hlast
  have := s.length_lt_of_taken hall
  omega

theorem fresh_free (name : String) : s.hasName (s.fresh name) = false :=
  (s.fresh_spec name).choose_spec.2.2

theorem fresh_ne_empty {name : String} (h : name ≠ "") : s.fresh name ≠ "" := by
  obtain ⟨k, hk, -, -⟩ := s.fresh_spec name
  rw [hk]
  exact underscored_ne_empty h k

/-! ## Binding -/

theorem resolve_bound {id name : String} (h : s.nameOf? id = some name) (candidate : String) :
    s.resolve id candidate = (name, s) := by
  simp [resolve, h]

theorem resolve_empty {id : String} (h : s.nameOf? id = none) : s.resolve id "" = ("", s) := by
  simp [resolve, h]

theorem resolve_new {id candidate : String} (h : s.nameOf? id = none) (hc : candidate ≠ "") :
    s.resolve id candidate =
      (s.fresh candidate, ⟨s.bindings ++ [(id, s.fresh candidate)]⟩) := by
  simp [resolve, h, hc]

variable {s}

theorem nameOf?_append (id name x : String) (h : s.nameOf? id = none) :
    (Scope.mk (s.bindings ++ [(id, name)])).nameOf? x =
      if x = id then some name else s.nameOf? x := by
  unfold nameOf? at h ⊢
  rw [List.lookup_append]
  by_cases hx : x = id
  · subst hx
    simp [h]
  · have : (x == id) = false := by simpa using hx
    simp [List.lookup_cons, this, hx]

theorem nameOf?_resolve_of_ne {id x : String} (h : x ≠ id) (candidate : String) :
    (s.resolve id candidate).2.nameOf? x = s.nameOf? x := by
  cases hn : s.nameOf? id with
  | some name => rw [s.resolve_bound hn]
  | none =>
    by_cases hc : candidate = ""
    · rw [hc, s.resolve_empty hn]
    · rw [s.resolve_new hn hc, nameOf?_append _ _ _ hn, if_neg h]

theorem nameOf?_resolve_self (id candidate : String) (h : (s.resolve id candidate).1 ≠ "") :
    (s.resolve id candidate).2.nameOf? id = some (s.resolve id candidate).1 := by
  cases hn : s.nameOf? id with
  | some name => rw [s.resolve_bound hn]; exact hn
  | none =>
    by_cases hc : candidate = ""
    · subst hc
      rw [s.resolve_empty hn] at h
      exact absurd rfl h
    · rw [s.resolve_new hn hc, nameOf?_append _ _ _ hn, if_pos rfl]

theorem nameOf?_resolve_mono {x name : String} (h : s.nameOf? x = some name) (id candidate : String) :
    (s.resolve id candidate).2.nameOf? x = some name := by
  by_cases hx : x = id
  · subst hx
    rw [s.resolve_bound h]; exact h
  · rw [nameOf?_resolve_of_ne hx, h]

theorem resolve_ne_empty {id candidate : String} (hc : candidate ≠ "")
    (hs : ∀ name, s.nameOf? id = some name → name ≠ "") : (s.resolve id candidate).1 ≠ "" := by
  cases hn : s.nameOf? id with
  | some name => rw [s.resolve_bound hn]; exact hs name hn
  | none => rw [s.resolve_new hn hc]; exact s.fresh_ne_empty hc

theorem nameOf?_resolve_cases {id candidate x name : String}
    (h : (s.resolve id candidate).2.nameOf? x = some name) :
    s.nameOf? x = some name ∨ x = id ∧ candidate ≠ "" ∧ ∃ k, name = underscored candidate k := by
  by_cases hx : x = id
  · subst hx
    cases hn : s.nameOf? x with
    | some name' =>
      rw [s.resolve_bound hn] at h
      exact .inl (hn ▸ h)
    | none =>
      by_cases hc : candidate = ""
      · rw [hc, s.resolve_empty hn] at h
        exact .inl (hn ▸ h)
      · obtain ⟨k, hk, -, -⟩ := s.fresh_spec candidate
        rw [s.resolve_new hn hc, nameOf?_append _ _ _ hn, if_pos rfl, hk] at h
        exact .inr ⟨rfl, hc, k, (Option.some.inj h).symm⟩
  · rw [nameOf?_resolve_of_ne hx] at h
    exact .inl h

theorem resolve_fst (id candidate : String) :
    (s.resolve id candidate).1 = ((s.resolve id candidate).2.nameOf? id).getD "" := by
  by_cases h : (s.resolve id candidate).1 = ""
  · cases hn : s.nameOf? id with
    | some name =>
      rw [s.resolve_bound hn, hn]
      rfl
    | none =>
      by_cases hc : candidate = ""
      · rw [hc, s.resolve_empty hn, hn]
        rfl
      · rw [s.resolve_new hn hc, nameOf?_append _ _ _ hn, if_pos rfl]
        rfl
  · rw [nameOf?_resolve_self id candidate h]
    rfl

theorem bound_of_ne_empty {id name : String} (h : name = (s.nameOf? id).getD "") (hne : name ≠ "") :
    s.nameOf? id = some name := by
  cases hn : s.nameOf? id with
  | none =>
    rw [hn] at h
    exact absurd h hne
  | some name' =>
    rw [hn] at h
    rw [h, Option.getD_some]

/-! ## Bijectivity -/

structure Bijective (s : Scope) : Prop where
  ids : (s.bindings.map (·.1)).Nodup
  names : (s.bindings.map (·.2)).Nodup

theorem Bijective.empty : Bijective {} := ⟨List.nodup_nil, List.nodup_nil⟩

theorem mem_of_nameOf? {id name : String} (h : s.nameOf? id = some name) :
    (id, name) ∈ s.bindings := by
  unfold nameOf? at h
  obtain ⟨l₁, l₂, hl, -⟩ := List.lookup_eq_some_iff.1 h
  simp [hl]

theorem nameOf?_eq_none_iff {id : String} : s.nameOf? id = none ↔ ∀ b ∈ s.bindings, b.1 ≠ id := by
  unfold nameOf?
  rw [List.lookup_eq_none_iff]
  constructor
  · intro h b hb he
    have := h b hb
    simp [he] at this
  · intro h b hb
    simpa using (h b hb).symm

theorem Bijective.name_inj (h : s.Bijective) {a b name : String} (ha : s.nameOf? a = some name)
    (hb : s.nameOf? b = some name) : a = b := by
  have hm := List.inj_on_of_nodup_map h.names (mem_of_nameOf? ha) (mem_of_nameOf? hb) rfl
  exact congrArg Prod.fst hm

theorem Bijective.nameOf?_eq_some_iff (h : s.Bijective) {id name : String} :
    s.nameOf? id = some name ↔ (id, name) ∈ s.bindings := by
  refine ⟨mem_of_nameOf?, fun hm => ?_⟩
  cases hn : s.nameOf? id with
  | none => exact absurd rfl (nameOf?_eq_none_iff.1 hn _ hm)
  | some other =>
    have hsame := List.inj_on_of_nodup_map h.ids (mem_of_nameOf? hn) hm rfl
    exact congrArg some (congrArg Prod.snd hsame)

/-- The two ways to look into a scope agree. -/
theorem Bijective.owner?_eq_some_iff (h : s.Bijective) {id name : String} :
    s.owner? name = some id ↔ s.nameOf? id = some name := by
  rw [h.nameOf?_eq_some_iff]
  unfold owner?
  constructor
  · intro hf
    obtain ⟨b, hb, rfl⟩ := Option.map_eq_some_iff.1 hf
    have hname : b.2 = name := by simpa using List.find?_some hb
    exact hname ▸ List.mem_of_find?_eq_some hb
  · intro hm
    obtain ⟨b, hb⟩ := Option.isSome_iff_exists.1
      (List.find?_isSome.2 ⟨(id, name), hm, by simp⟩ : (s.bindings.find? (·.2 == name)).isSome = true)
    have hname : b.2 = name := by simpa using List.find?_some hb
    have hsame := List.inj_on_of_nodup_map h.names (List.mem_of_find?_eq_some hb) hm hname
    rw [hb, Option.map_some, hsame]

theorem Bijective.append (h : s.Bijective) {id name : String} (hid : s.nameOf? id = none)
    (hname : s.hasName name = false) : Bijective ⟨s.bindings ++ [(id, name)]⟩ := by
  have hi : id ∉ s.bindings.map (·.1) := by
    intro hm
    obtain ⟨b, hb, he⟩ := List.mem_map.1 hm
    exact nameOf?_eq_none_iff.1 hid b hb he
  have hn : name ∉ s.bindings.map (·.2) := by
    intro hm
    obtain ⟨b, hb, he⟩ := List.mem_map.1 hm
    rw [(s.hasName_iff name).2 ⟨b.1, he ▸ hb⟩] at hname
    cases hname
  constructor
  · simpa [List.nodup_append] using ⟨h.ids, fun a b hb he => hi (he ▸ List.mem_map.2 ⟨_, hb, rfl⟩)⟩
  · simpa [List.nodup_append] using ⟨h.names, fun a b hb he => hn (he ▸ List.mem_map.2 ⟨_, hb, rfl⟩)⟩

theorem Bijective.resolve (h : s.Bijective) (id candidate : String) :
    (s.resolve id candidate).2.Bijective := by
  cases hn : s.nameOf? id with
  | some name => rw [s.resolve_bound hn]; exact h
  | none =>
    by_cases hc : candidate = ""
    · rw [hc, s.resolve_empty hn]; exact h
    · rw [s.resolve_new hn hc]
      exact h.append hn (s.fresh_free candidate)

/-! ## Renaming -/

def without (s : Scope) (id : String) : Scope := ⟨s.bindings.filter (·.1 != id)⟩

theorem nameOf?_without (s : Scope) (id x : String) :
    (s.without id).nameOf? x = if x = id then none else s.nameOf? x := by
  obtain ⟨bindings⟩ := s
  unfold without nameOf?
  induction bindings with
  | nil => simp
  | cons b bindings ih =>
    obtain ⟨key, name⟩ := b
    by_cases hk : key = id
    · subst hk
      rw [List.filter_cons_of_neg (by simp), ih]
      by_cases hx : x = key
      · simp [hx]
      · have : (x == key) = false := by simpa using hx
        simp [hx, List.lookup_cons, this]
    · rw [List.filter_cons_of_pos (by simpa using hk), List.lookup_cons, ih, List.lookup_cons]
      by_cases hx : x = key
      · subst hx
        simp [hk]
      · have : (x == key) = false := by simpa using hx
        simp [this]

theorem hasName_without {name : String} (h : s.hasName name = false) (id : String) :
    (s.without id).hasName name = false := by
  rw [← Bool.not_eq_true, hasName_iff] at h ⊢
  intro h
  obtain ⟨x, hx⟩ := h
  exact h ⟨x, (List.mem_filter.1 hx).1⟩

theorem Bijective.without (h : s.Bijective) (id : String) : (s.without id).Bijective where
  ids := h.ids.sublist (List.filter_sublist.map _)
  names := h.names.sublist (List.filter_sublist.map _)

theorem rename_free {name : String} (h : s.hasName name = false) (id : String) :
    s.rename id name = (true, ⟨(s.without id).bindings ++ [(id, name)]⟩) := by
  have : s.owner? name = none := by
    simpa [hasName] using h
  rw [rename, this]
  rfl

theorem nameOf?_rename {name : String} (h : s.hasName name = false) (id x : String) :
    (s.rename id name).2.nameOf? x = if x = id then some name else s.nameOf? x := by
  have hid : (s.without id).nameOf? id = none := by rw [nameOf?_without, if_pos rfl]
  rw [rename_free h, nameOf?_append _ _ _ hid, nameOf?_without]
  split <;> rfl

theorem Bijective.rename (h : s.Bijective) {name : String} (hn : s.hasName name = false) (id : String) :
    (s.rename id name).2.Bijective := by
  have hid : (s.without id).nameOf? id = none := by rw [nameOf?_without, if_pos rfl]
  rw [rename_free hn]
  exact (h.without id).append hid (hasName_without hn id)

end Scope

end Bindery
