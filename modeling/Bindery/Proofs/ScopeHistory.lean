import Bindery.Proofs.Scope
import Mathlib.Order.Bounds.Basic

/-!
# Histories of scopes

Whatever names have been given, changed and forgotten in a scope, the two ways to look into it are
inverse to each other. So a name that is given anew is the first free form of the candidate, a name of
another identity is never taken away, and no binding is touched but that of the identity in question.
All of this holds as well where names and identities are kept in two indexes, since these never part.
-/

namespace Bindery

inductive ScopeAction where
  | resolve (id candidate : String)
  | rename (id name : String)
  | clear

namespace Scope

def act (s : Scope) : ScopeAction → Scope
  | .resolve id candidate => (s.resolve id candidate).2
  | .rename id name => (s.rename id name).2
  | .clear => empty

def after (history : List ScopeAction) : Scope := history.foldl act empty

/-- Whether `s'` is `s` with the identity bound to the name. A name that it had before is free again. -/
structure Binds (s : Scope) (id name : String) (s' : Scope) : Prop where
  names : ∀ x, s'.nameOf? x = if x = id then some name else s.nameOf? x
  owners : ∀ n, s'.owner? n = if n = name then some id else if s.nameOf? id = some n then none else s.owner? n

def IsForeign (s : Scope) (id name : String) : Prop := ∃ other, s.owner? name = some other ∧ other ≠ id

variable {s s' : Scope} {id name candidate : String}

/-! ## Steps -/

theorem rename_owned {owner : String} (h : s.owner? name = some owner) (id : String) :
    s.rename id name = (owner == id, s) := by
  simp [rename, h]

theorem Bijective.act (h : s.Bijective) (a : ScopeAction) : (s.act a).Bijective := by
  cases a with
  | resolve id candidate => exact h.resolve id candidate
  | rename id name =>
    rw [Scope.act]
    cases ho : s.owner? name with
    | none => exact Bijective.rename h (by simp [hasName, ho]) id
    | some owner =>
      rw [rename_owned ho]
      exact h
  | clear => exact .empty

theorem Bijective.foldl_act (h : s.Bijective) (history : List ScopeAction) : (history.foldl Scope.act s).Bijective := by
  induction history generalizing s with
  | nil => exact h
  | cons a history ih => exact ih (h.act a)

theorem bijective_after (history : List ScopeAction) : (after history).Bijective := Bijective.empty.foldl_act history

/-! ## Bindings -/

/-- Of a bijection it is enough to say which names the identities have. -/
theorem Bijective.binds (h : s.Bijective) (h' : s'.Bijective)
    (hn : ∀ x, s'.nameOf? x = if x = id then some name else s.nameOf? x) : s.Binds id name s' := by
  refine ⟨hn, fun n => ?_⟩
  have owner_iff (x : String) : s'.owner? n = some x ↔ if x = id then name = n else s.owner? n = some x := by
    rw [h'.owner?_eq_some_iff, hn]
    split
    · simp
    · exact h.owner?_eq_some_iff.symm
  by_cases hname : n = name
  · rw [if_pos hname]
    exact (owner_iff id).2 (by rw [if_pos rfl, hname])
  · rw [if_neg hname]
    ext x
    rw [owner_iff]
    by_cases hx : x = id
    · -- what the identity was called is its name no more
      subst hx
      have old : s.owner? n = some x ↔ s.nameOf? x = some n := h.owner?_eq_some_iff
      simp [Ne.symm hname, old]
    · rw [if_neg hx]
      split
      · rename_i hold
        rw [h.owner?_eq_some_iff.2 hold]
        simp [Ne.symm hx]
      · rfl

theorem Bijective.resolve_binds (h : s.Bijective) (hid : s.nameOf? id = none) (hc : candidate ≠ "") :
    s.Binds id (s.fresh candidate) (s.resolve id candidate).2 := by
  refine h.binds (h.resolve id candidate) fun x => ?_
  rw [s.resolve_new hid hc]
  exact nameOf?_append id _ x hid

theorem fresh_least (s : Scope) (candidate : String) : ∃ k, s.fresh candidate = underscored candidate k ∧
    IsLeast {j | s.owner? (underscored candidate j) = none} k := by
  have taken_iff (n : String) : s.hasName n = true ↔ s.owner? n ≠ none := by
    simp [hasName, Option.isSome_iff_ne_none]
  obtain ⟨k, hk, hlt, hfree⟩ := s.fresh_spec candidate
  refine ⟨k, hk, ?_, fun j hj => ?_⟩
  · rw [hk, ← Bool.not_eq_true, taken_iff, not_not] at hfree
    exact hfree
  · by_contra hjk
    exact (taken_iff _).1 (hlt j (by omega)) hj

theorem rename_foreign (h : s.IsForeign id name) : s.rename id name = (false, s) := by
  obtain ⟨other, ho, hne⟩ := h
  simp [rename_owned ho, hne]

theorem Bijective.rename_binds (h : s.Bijective) (hf : ¬ s.IsForeign id name) :
    (s.rename id name).1 = true ∧ s.Binds id name (s.rename id name).2 := by
  cases ho : s.owner? name with
  | some owner =>
    obtain rfl : owner = id := not_not.1 fun hne => hf ⟨owner, ho, hne⟩
    rw [rename_owned ho]
    refine ⟨by simp, h.binds h fun x => ?_⟩
    split
    · rename_i hx
      rw [hx, h.owner?_eq_some_iff.1 ho]
    · rfl
  | none =>
    have hfree : s.hasName name = false := by simp [hasName, ho]
    exact ⟨by rw [rename_free hfree], h.binds (h.rename hfree id) (nameOf?_rename hfree id)⟩

/-! ## Two indexes -/

/-- A scope that is kept as two indexes, each of which is updated on its own. -/
structure Indexes where
  byName : Std.HashMap String String := {}
  byId : Std.HashMap String String := {}

namespace Indexes

/-- The taken names that are no shorter than a given one. -/
def ahead (t : Indexes) (name : String) : List String := t.byName.keys.filter fun n => name.length ≤ n.length

theorem length_ahead_lt (t : Indexes) {name : String} (h : t.byName.contains name = true) :
    (t.ahead (name ++ "_")).length < (t.ahead name).length := by
  have hshorter : t.ahead (name ++ "_") = (t.ahead name).filter fun n => name.length + 1 ≤ n.length := by
    rw [ahead, ahead, List.filter_filter]
    refine List.filter_congr fun n _ => ?_
    have hlength : (name ++ "_").length = name.length + 1 := String.length_append name "_"
    rw [hlength, ← Bool.decide_and]
    exact decide_eq_decide.2 (by omega)
  rw [hshorter, List.length_filter_lt_length_iff_exists]
  exact ⟨name, List.mem_filter.2 ⟨Std.HashMap.mem_keys.2 h, by simp⟩, by simp⟩

def free (t : Indexes) (name : String) : String :=
  if _h : t.byName.contains name then t.free (name ++ "_") else name
termination_by (t.ahead name).length
decreasing_by exact t.length_ahead_lt ‹_›

def resolve (t : Indexes) (id candidate : String) : String × Indexes :=
  match t.byId[id]? with
  | some name => (name, t)
  | none =>
    if candidate.isEmpty then ("", t)
    else
      let name := t.free candidate
      (name, { byName := t.byName.insert name id, byId := t.byId.insert id name })

/-- The name of an identity is removed before the identity gets another one. -/
def rename (t : Indexes) (id name : String) : Bool × Indexes :=
  match t.byName[name]? with
  | some owner => (owner == id, t)
  | none =>
    let rest := match t.byId[id]? with
      | some old => t.byName.erase old
      | none => t.byName
    (true, { byName := rest.insert name id, byId := (t.byId.erase id).insert id name })

def act (t : Indexes) : ScopeAction → Indexes
  | .resolve id candidate => (t.resolve id candidate).2
  | .rename id name => (t.rename id name).2
  | .clear => {}

def after (history : List ScopeAction) : Indexes := history.foldl act {}

structure Reads (t : Indexes) (s : Scope) : Prop where
  byId : ∀ id, t.byId[id]? = s.nameOf? id
  byName : ∀ name, t.byName[name]? = s.owner? name

structure Mirrors (t : Indexes) (s : Scope) : Prop extends Reads t s where
  resolve : ∀ id candidate, (t.resolve id candidate).1 = (s.resolve id candidate).1
  rename : ∀ id name, (t.rename id name).1 = (s.rename id name).1

variable {t : Indexes}

theorem free_least (t : Indexes) (name : String) :
    ∃ k, t.free name = underscored name k ∧ IsLeast {j | t.byName[underscored name j]? = none} k := by
  fun_induction free t name with
  | case1 name htaken ih =>
    obtain ⟨k, hk, hfree, hleast⟩ := ih
    rw [Set.mem_ofPred_eq, underscored_append] at hfree
    refine ⟨k + 1, by rw [hk, underscored_append], hfree, fun j hj => ?_⟩
    cases j with
    | zero =>
      rw [Set.mem_ofPred_eq, underscored_zero] at hj
      simp [Std.HashMap.contains_eq_isSome_getElem?, hj] at htaken
    | succ j =>
      rw [Set.mem_ofPred_eq, ← underscored_append] at hj
      exact Nat.succ_le_succ (hleast hj)
  | case2 name hfree =>
    refine ⟨0, (underscored_zero name).symm, ?_, fun j _ => Nat.zero_le j⟩
    rw [Std.HashMap.contains_eq_isSome_getElem?, Option.not_isSome_iff_eq_none] at hfree
    rwa [Set.mem_ofPred_eq, underscored_zero]

theorem Reads.free (h : t.Reads s) (name : String) : t.free name = s.fresh name := by
  obtain ⟨j, hj, hleast⟩ := t.free_least name
  obtain ⟨k, hk, hleast'⟩ := fresh_least s name
  simp only [h.byName] at hleast
  rw [hj, hk, hleast.unique hleast']

theorem Reads.resolve (h : t.Reads s) (hs : s.Bijective) (id candidate : String) :
    (t.resolve id candidate).1 = (s.resolve id candidate).1 ∧
      (t.resolve id candidate).2.Reads (s.resolve id candidate).2 := by
  cases hn : s.nameOf? id with
  | some name =>
    rw [resolve_bound _ hn, Indexes.resolve, h.byId, hn]
    exact ⟨rfl, h⟩
  | none =>
    by_cases hc : candidate = ""
    · rw [hc, resolve_empty _ hn, Indexes.resolve, h.byId, hn]
      exact ⟨rfl, h⟩
    · have hbinds := hs.resolve_binds hn hc
      rw [resolve_new _ hn hc] at hbinds ⊢
      have hres : t.resolve id candidate = (s.fresh candidate,
          { byName := t.byName.insert (s.fresh candidate) id, byId := t.byId.insert id (s.fresh candidate) }) := by
        simp [Indexes.resolve, h.byId, hn, hc, h.free]
      rw [hres]
      refine ⟨rfl, fun x => ?_, fun n => ?_⟩
      · simp [Std.HashMap.getElem?_insert, hbinds.names, h.byId, @eq_comm _ id x]
      · simp [Std.HashMap.getElem?_insert, hbinds.owners, h.byName, hn, @eq_comm _ (s.fresh candidate) n]

theorem Reads.rename (h : t.Reads s) (hs : s.Bijective) (id name : String) :
    (t.rename id name).1 = (s.rename id name).1 ∧ (t.rename id name).2.Reads (s.rename id name).2 := by
  cases ho : s.owner? name with
  | some owner =>
    rw [rename_owned ho, Indexes.rename, h.byName, ho]
    exact ⟨rfl, h⟩
  | none =>
    have hf : ¬ s.IsForeign id name := by simp [IsForeign, ho]
    obtain ⟨hdone, hbinds⟩ := hs.rename_binds hf
    rw [hdone, Indexes.rename, h.byName, ho, h.byId]
    refine ⟨rfl, fun x => ?_, fun n => ?_⟩
    · rw [hbinds.names]
      by_cases hx : id = x
      · simp [hx]
      · simp [Std.HashMap.getElem?_insert, Std.HashMap.getElem?_erase, h.byId, hx, Ne.symm hx]
    · rw [hbinds.owners]
      cases hn : s.nameOf? id with
      | none => simp [Std.HashMap.getElem?_insert, h.byName, @eq_comm _ name n]
      | some old =>
        simp [Std.HashMap.getElem?_insert, Std.HashMap.getElem?_erase, h.byName, @eq_comm _ name n]

theorem Reads.empty : Reads {} Scope.empty where
  byId _ := Std.HashMap.getElem?_empty
  byName _ := Std.HashMap.getElem?_empty

theorem Reads.act (h : t.Reads s) (hs : s.Bijective) (a : ScopeAction) : (t.act a).Reads (s.act a) := by
  cases a with
  | resolve id candidate => exact (h.resolve hs id candidate).2
  | rename id name => exact (h.rename hs id name).2
  | clear => exact .empty

theorem Reads.foldl_act (h : t.Reads s) (hs : s.Bijective) (history : List ScopeAction) :
    (history.foldl Indexes.act t).Reads (history.foldl Scope.act s) := by
  induction history generalizing t s with
  | nil => exact h
  | cons a history ih => exact ih (h.act hs a) (hs.act a)

theorem mirrors_after (history : List ScopeAction) : (after history).Mirrors (Scope.after history) := by
  have h := Reads.empty.foldl_act .empty history
  have hs := bijective_after history
  exact ⟨h, fun id candidate => (h.resolve hs id candidate).1, fun id name => (h.rename hs id name).1⟩

end Indexes

/-! ## Histories -/

structure Orderly (s : Scope) : Prop where
  inverse : ∀ id name, s.nameOf? id = some name ↔ s.owner? name = some id
  known : ∀ id name candidate, s.nameOf? id = some name → s.resolve id candidate = (name, s)
  /-- An identity without a name gets the candidate, with as few underscores as make it free. -/
  new : ∀ id candidate, s.nameOf? id = none → candidate ≠ "" →
    ∃ k s', s.resolve id candidate = (underscored candidate k, s') ∧
      IsLeast {j | s.owner? (underscored candidate j) = none} k ∧ s.Binds id (underscored candidate k) s'
  refused_iff : ∀ id name, (s.rename id name).1 = false ↔ s.IsForeign id name
  refused : ∀ id name, s.IsForeign id name → (s.rename id name).2 = s
  renamed : ∀ id name, ¬ s.IsForeign id name → s.Binds id name (s.rename id name).2

/-- Whatever has happened in a scope, names and identities are in bijection and change only as they are told.
The same is so if the names are kept in one index and the identities in another. -/
theorem orderly_after (history : List ScopeAction) :
    (after history).Orderly ∧ (Indexes.after history).Mirrors (after history) := by
  refine ⟨?_, Indexes.mirrors_after history⟩
  have h := bijective_after history
  constructor
  case inverse => exact fun _ _ => h.owner?_eq_some_iff.symm
  case known => exact fun _ _ candidate hid => resolve_bound _ hid candidate
  case new =>
    intro id candidate hid hc
    obtain ⟨k, hk, hleast⟩ := fresh_least (after history) candidate
    have hbinds := h.resolve_binds hid hc
    rw [hk] at hbinds
    exact ⟨k, _, by rw [resolve_new _ hid hc, hk], hleast, hbinds⟩
  case refused_iff =>
    intro id name
    constructor
    · intro hfalse
      by_contra hf
      rw [(h.rename_binds hf).1] at hfalse
      cases hfalse
    · intro hf
      rw [rename_foreign hf]
  case refused =>
    intro id name hf
    rw [rename_foreign hf]
  case renamed => exact fun _ _ hf => (h.rename_binds hf).2

/-- A name that has been given up is free, and one that is taken cannot be had by renaming. -/
example : (after [.resolve "a" "Point", .resolve "b" "Point", .rename "a" "Point_", .rename "a" "Norm",
    .resolve "c" "Point"]).bindings = [("b", "Point_"), ("a", "Norm"), ("c", "Point")] := by
  decide +kernel

end Scope

end Bindery
