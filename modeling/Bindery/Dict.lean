/-!
# Dictionaries keyed by text

A `Dict` holds its entries in strictly increasing key order. Every listing is
therefore sorted, and two dictionaries that answer every look-up alike are equal
(`Dict.ext_get?`).
-/

namespace Bindery

structure Dict (α : Type) where
  entries : List (String × α)
  sorted : entries.Pairwise fun a b => a.1 < b.1

namespace Dict

variable {α β : Type}

def empty : Dict α := ⟨[], List.Pairwise.nil⟩

instance : EmptyCollection (Dict α) := ⟨empty⟩
instance : Inhabited (Dict α) := ⟨empty⟩

def get? (d : Dict α) (key : String) : Option α := d.entries.lookup key

def contains (d : Dict α) (key : String) : Bool := (d.get? key).isSome

def size (d : Dict α) : Nat := d.entries.length

def isEmpty (d : Dict α) : Bool := d.entries.isEmpty

def keys (d : Dict α) : List String := d.entries.map (·.1)

def values (d : Dict α) : List α := d.entries.map (·.2)

/-! ## Insertion -/

/-- Puts an entry at its place; an entry of the same key is replaced. -/
def insertEntry (key : String) (value : α) : List (String × α) → List (String × α)
  | [] => [(key, value)]
  | (k, v) :: rest =>
    if key < k then (key, value) :: (k, v) :: rest
    else if key = k then (key, value) :: rest
    else (k, v) :: insertEntry key value rest

theorem mem_insertEntry {key : String} {value : α} {l : List (String × α)} {e : String × α}
    (h : e ∈ insertEntry key value l) : e = (key, value) ∨ e ∈ l := by
  induction l with
  | nil => simpa [insertEntry] using h
  | cons a rest ih =>
    obtain ⟨k, v⟩ := a
    simp only [insertEntry] at h
    split at h
    · simpa using h
    · split at h
      · rcases List.mem_cons.1 h with h | h
        · exact .inl h
        · exact .inr (List.mem_cons_of_mem _ h)
      · rcases List.mem_cons.1 h with h | h
        · exact .inr (h ▸ List.mem_cons_self)
        · exact (ih h).imp_right (List.mem_cons_of_mem _)

theorem sorted_insertEntry (key : String) (value : α) {l : List (String × α)}
    (h : l.Pairwise fun a b => a.1 < b.1) :
    (insertEntry key value l).Pairwise fun a b => a.1 < b.1 := by
  induction l with
  | nil => simp [insertEntry]
  | cons a rest ih =>
    obtain ⟨k, v⟩ := a
    have hr := List.pairwise_cons.1 h
    simp only [insertEntry]
    split
    · rename_i hk
      refine List.pairwise_cons.2 ⟨fun e he => ?_, h⟩
      rcases List.mem_cons.1 he with rfl | he
      · exact hk
      · exact String.lt_trans hk (hr.1 e he)
    · split
      · rename_i hk
        subst hk
        exact List.pairwise_cons.2 ⟨hr.1, hr.2⟩
      · rename_i hlt hne
        refine List.pairwise_cons.2 ⟨fun e he => ?_, ih hr.2⟩
        rcases mem_insertEntry he with rfl | he
        · exact Std.lt_of_le_of_ne (String.not_lt.1 hlt) (Ne.symm hne)
        · exact hr.1 e he

def insert (d : Dict α) (key : String) (value : α) : Dict α :=
  ⟨insertEntry key value d.entries, sorted_insertEntry key value d.sorted⟩

/-- A list of bindings as a dictionary: of two bindings of one key the later counts. -/
def ofList (l : List (String × α)) : Dict α := l.foldl (fun d e => d.insert e.1 e.2) empty

/-! ## Change in place -/

theorem sorted_map (f : String → α → β) {l : List (String × α)}
    (h : l.Pairwise fun a b => a.1 < b.1) :
    (l.map fun e => (e.1, f e.1 e.2)).Pairwise fun a b => a.1 < b.1 :=
  List.pairwise_map.2 h

def mapValues (f : String → α → β) (d : Dict α) : Dict β :=
  ⟨d.entries.map fun e => (e.1, f e.1 e.2), sorted_map f d.sorted⟩

def modify (d : Dict α) (key : String) (f : α → α) : Dict α :=
  d.mapValues fun k v => if k = key then f v else v

/-! ## Look-ups after each operation -/

@[simp] theorem get?_empty (key : String) : (empty : Dict α).get? key = none := rfl

theorem lookup_insertEntry (key : String) (value : α) (l : List (String × α)) (k : String) :
    (insertEntry key value l).lookup k = if k = key then some value else l.lookup k := by
  induction l with
  | nil => simp only [insertEntry, List.lookup_cons, List.lookup_nil]; split <;> simp_all
  | cons a rest ih =>
    obtain ⟨k', v⟩ := a
    simp only [insertEntry]
    split
    · simp only [List.lookup_cons]; split <;> simp_all
    · split
      · subst_vars; simp only [List.lookup_cons]; split <;> simp_all
      · simp only [List.lookup_cons, ih]
        split
        · rename_i hk
          have : k = k' := by simpa using hk
          subst this
          rw [if_neg]
          exact fun h => by simp_all
        · rfl

@[simp] theorem get?_insert (d : Dict α) (key : String) (value : α) (k : String) :
    (d.insert key value).get? k = if k = key then some value else d.get? k :=
  lookup_insertEntry key value d.entries k

theorem lookup_map (f : String → α → β) (l : List (String × α)) (k : String) :
    (l.map fun e => (e.1, f e.1 e.2)).lookup k = (l.lookup k).map (f k) := by
  induction l with
  | nil => rfl
  | cons a rest ih =>
    obtain ⟨k', v⟩ := a
    rw [List.map_cons, List.lookup_cons, List.lookup_cons, ih]
    by_cases hk : k = k'
    · simp [hk]
    · simp [beq_eq_false_iff_ne.2 hk]

@[simp] theorem get?_mapValues (f : String → α → β) (d : Dict α) (k : String) :
    (d.mapValues f).get? k = (d.get? k).map (f k) := lookup_map f d.entries k

@[simp] theorem get?_modify (d : Dict α) (key : String) (f : α → α) (k : String) :
    (d.modify key f).get? k = if k = key then (d.get? k).map f else d.get? k := by
  rw [modify, get?_mapValues]
  split
  · simp_all
  · simp_all

theorem exists_of_get?_mapValues {f : String → α → β} {d : Dict α} {k : String} {b : β}
    (h : (d.mapValues f).get? k = some b) : ∃ a, d.get? k = some a ∧ f k a = b := by
  rw [get?_mapValues] at h
  exact Option.map_eq_some_iff.1 h

/-- What holds of every value after a change of one of them. -/
theorem forall_modify {P Q : String → α → Prop} {d : Dict α} {key : String} {f : α → α}
    (h : ∀ k v, d.get? k = some v → P k v) (hkey : ∀ v, d.get? key = some v → Q key (f v))
    (hmono : ∀ k v, P k v → Q k v) : ∀ k v, (d.modify key f).get? k = some v → Q k v := by
  intro k v hv
  rw [get?_modify] at hv
  split at hv
  · rename_i hk
    subst hk
    obtain ⟨u, hu, rfl⟩ := Option.map_eq_some_iff.1 hv
    exact hkey u hu
  · exact hmono k v (h k v hv)

@[simp] theorem keys_mapValues (f : String → α → β) (d : Dict α) :
    (d.mapValues f).keys = d.keys := by
  simp [mapValues, keys, Function.comp_def]

@[simp] theorem keys_modify (d : Dict α) (key : String) (f : α → α) :
    (d.modify key f).keys = d.keys := keys_mapValues _ d

/-! ## Entries and equality -/

theorem lookup_eq_some_iff {l : List (String × α)} (h : l.Pairwise fun a b => a.1 < b.1)
    (k : String) (v : α) : l.lookup k = some v ↔ (k, v) ∈ l := by
  induction l with
  | nil => simp
  | cons a rest ih =>
    obtain ⟨k', v'⟩ := a
    have hr := List.pairwise_cons.1 h
    rw [List.lookup_cons]
    by_cases hk : k = k'
    · subst hk
      simp only [beq_self_eq_true, List.mem_cons, Prod.mk.injEq, true_and]
      constructor
      · intro he; exact .inl (Option.some.inj he).symm
      · rintro (rfl | hm)
        · rfl
        · exact absurd (hr.1 _ hm) (String.lt_irrefl k)
    · have : (k == k') = false := by simpa using hk
      simp only [this, List.mem_cons, Prod.mk.injEq, hk, false_and, false_or]
      exact ih hr.2

theorem get?_eq_some_iff (d : Dict α) (k : String) (v : α) :
    d.get? k = some v ↔ (k, v) ∈ d.entries := lookup_eq_some_iff d.sorted k v

theorem mem_keys_iff (d : Dict α) (k : String) : k ∈ d.keys ↔ d.contains k = true := by
  constructor
  · intro h
    obtain ⟨e, he, rfl⟩ := List.mem_map.1 h
    simp [contains, (d.get?_eq_some_iff e.1 e.2).2 he]
  · intro h
    obtain ⟨v, hv⟩ := Option.isSome_iff_exists.1 h
    exact List.mem_map.2 ⟨(k, v), (d.get?_eq_some_iff k v).1 hv, rfl⟩

theorem mem_keys_of_get? {d : Dict α} {k : String} {v : α} (h : d.get? k = some v) : k ∈ d.keys := by
  rw [mem_keys_iff, contains, h, Option.isSome_some]

theorem nodup_keys (d : Dict α) : d.keys.Nodup :=
  List.pairwise_map.2 (d.sorted.imp fun h => Std.ne_of_lt h)

theorem values_modify (d : Dict α) {key : String} {v : α} (h : d.get? key = some v) (f : α → α) :
    ∃ l₁ l₂, d.values = l₁ ++ v :: l₂ ∧ (d.modify key f).values = l₁ ++ f v :: l₂ := by
  obtain ⟨l₁, l₂, he⟩ := List.append_of_mem ((d.get?_eq_some_iff key v).1 h)
  have hnd := d.nodup_keys
  rw [keys, he, List.map_append, List.map_cons, List.nodup_append] at hnd
  obtain ⟨-, hnd₂, hdisj⟩ := hnd
  have other : ∀ e ∈ l₁ ++ l₂, (if e.1 = key then f e.2 else e.2) = e.2 := by
    intro e hm
    refine if_neg fun hk => ?_
    rcases List.mem_append.1 hm with hm | hm
    · exact hdisj e.1 (List.mem_map_of_mem hm) key List.mem_cons_self hk
    · exact (List.nodup_cons.1 hnd₂).1 (List.mem_map.2 ⟨e, hm, hk⟩)
  refine ⟨l₁.map (·.2), l₂.map (·.2), by simp [values, he], ?_⟩
  simp only [values, modify, mapValues, he, List.map_map, List.map_append, List.map_cons,
    Function.comp_def, if_true]
  rw [List.map_congr_left fun e hm => other e (List.mem_append_left _ hm),
    List.map_congr_left fun e hm => other e (List.mem_append_right _ hm)]

theorem sorted_ext {l m : List (String × α)} (hl : l.Pairwise fun a b => a.1 < b.1)
    (hm : m.Pairwise fun a b => a.1 < b.1) (h : ∀ e, e ∈ l ↔ e ∈ m) : l = m := by
  induction l generalizing m with
  | nil =>
    cases m with
    | nil => rfl
    | cons b _ => exact absurd ((h b).2 List.mem_cons_self) (by simp)
  | cons a l ih =>
    cases m with
    | nil => exact absurd ((h a).1 List.mem_cons_self) (by simp)
    | cons b m =>
      have hl' := List.pairwise_cons.1 hl
      have hm' := List.pairwise_cons.1 hm
      have hab : a = b := by
        rcases List.mem_cons.1 ((h a).1 List.mem_cons_self) with e | e
        · exact e
        · rcases List.mem_cons.1 ((h b).2 List.mem_cons_self) with e' | e'
          · exact e'.symm
          · exact absurd (String.lt_trans (hm'.1 a e) (hl'.1 b e')) (String.lt_irrefl _)
      subst hab
      refine congrArg (a :: ·) (ih hl'.2 hm'.2 fun e => ⟨fun he => ?_, fun he => ?_⟩)
      · rcases List.mem_cons.1 ((h e).1 (List.mem_cons_of_mem _ he)) with rfl | hh
        · exact absurd (hl'.1 e he) (String.lt_irrefl _)
        · exact hh
      · rcases List.mem_cons.1 ((h e).2 (List.mem_cons_of_mem _ he)) with rfl | hh
        · exact absurd (hm'.1 e he) (String.lt_irrefl _)
        · exact hh

theorem ext_get? {d e : Dict α} (h : ∀ k, d.get? k = e.get? k) : d = e := by
  have hm : ∀ x, x ∈ d.entries ↔ x ∈ e.entries := fun (k, v) => by
    rw [← get?_eq_some_iff, ← get?_eq_some_iff, h]
  have := sorted_ext d.sorted e.sorted hm
  cases d; cases e; simp_all

/-! ## Dictionaries from lists -/

theorem get?_ofList (l : List (String × α)) (k : String) : (ofList l).get? k = l.reverse.lookup k := by
  have from_here : ∀ d : Dict α,
      (l.foldl (fun d e => d.insert e.1 e.2) d).get? k = (l.reverse.lookup k).or (d.get? k) := by
    induction l with
    | nil => exact fun d => rfl
    | cons e l ih =>
      intro d
      obtain ⟨key, value⟩ := e
      rw [List.foldl_cons, ih, get?_insert, List.reverse_cons, List.lookup_append, Option.or_assoc,
        List.lookup_cons]
      by_cases hk : k = key
      · simp [hk]
      · simp [beq_eq_false_iff_ne.2 hk, hk]
  exact (from_here empty).trans (by simp)

theorem mem_of_get?_ofList {l : List (String × α)} {k : String} {v : α} (h : (ofList l).get? k = some v) :
    (k, v) ∈ l := by
  rw [get?_ofList, List.lookup_eq_some_iff] at h
  obtain ⟨l₁, l₂, h, -⟩ := h
  rw [← List.mem_reverse, h]
  exact List.mem_append_right _ List.mem_cons_self

theorem lookup_of_mem {l : List (String × α)} (hnd : (l.map (·.1)).Nodup) {k : String} {v : α} (h : (k, v) ∈ l) :
    l.lookup k = some v := by
  induction l with
  | nil => cases h
  | cons e l ih =>
    obtain ⟨hnew, hnd⟩ := List.nodup_cons.1 hnd
    rw [List.lookup_cons]
    rcases List.mem_cons.1 h with rfl | h
    · simp
    · have hne : k ≠ e.1 := fun he => hnew (List.mem_map.2 ⟨_, h, he⟩)
      simp [beq_eq_false_iff_ne.2 hne, ih hnd h]

/-- The entries of a dictionary make that dictionary, in whichever order they come. -/
theorem ofList_perm (d : Dict α) {l : List (String × α)} (h : l.Perm d.entries) : ofList l = d := by
  apply ext_get?
  intro k
  apply Option.ext
  intro v
  have hnd : (l.map (·.1)).Nodup := (h.map _).nodup_iff.2 d.nodup_keys
  rw [get?_eq_some_iff d, ← h.mem_iff]
  constructor
  · exact mem_of_get?_ofList
  · intro hm
    rw [get?_ofList]
    have hrev : (l.reverse.map (·.1)).Nodup := ((l.reverse_perm.map _).nodup_iff).2 hnd
    exact lookup_of_mem hrev (List.mem_reverse.2 hm)

end Dict

end Bindery
