import Mathlib.Data.List.Forall2
import Mathlib.Data.List.Perm.Basic

/-!
# Lists side by side

Lists of which the elements correspond to each other, and lists taken apart at one place.
-/

namespace Bindery

variable {α β : Type}

/-! ## Corresponding elements -/

section
variable {R : α → β → Prop} {l : List α} {l' : List β} (h : List.Forall₂ R l l')
include h

/-- What an element of the first list corresponds to. -/
theorem exists_partner {a : α} (ha : a ∈ l) : ∃ b ∈ l', R a b := by
  obtain ⟨i, hi, rfl⟩ := List.getElem_of_mem ha
  have hi' : i < l'.length := h.length_eq ▸ hi
  exact ⟨l'[i], List.getElem_mem hi', h.get hi hi'⟩

theorem forall₂_zipIdx (k : Nat) : List.Forall₂ (fun x y => R x.1 y.1) (l.zipIdx k) (l'.zipIdx k) := by
  induction h generalizing k with
  | nil => exact .nil
  | cons h _ ih => exact .cons h (ih (k + 1))

end

/-! ## Elements at a place -/

theorem map_modify {f : α → α} {k : β → β} {g : α → β} (h : ∀ a, g (f a) = k (g a))
    (l : List α) (i : Nat) : (l.modify i f).map g = (l.map g).modify i k := by
  apply List.ext_getElem?
  intro j
  simp only [List.getElem?_map, List.getElem?_modify]
  cases l[j]? with
  | none => rfl
  | some a =>
    by_cases hij : i = j
    · simp [hij, h]
    · simp [hij]

/-- If two elements of a list have a property, and nothing before either has it, they are at one place. -/
theorem first_unique {P : α → Prop} {before before' after after' : List α} {a a' : α}
    (h : before ++ a :: after = before' ++ a' :: after') (ha : P a) (ha' : P a')
    (hbefore : ∀ x ∈ before, ¬ P x) (hbefore' : ∀ x ∈ before', ¬ P x) : a = a' := by
  rcases List.append_eq_append_iff.1 h with ⟨l, rfl, hl⟩ | ⟨l, rfl, hl⟩
  · cases l with
    | nil => exact (List.cons.inj hl).1
    | cons x l =>
      obtain ⟨rfl, -⟩ := List.cons.inj hl
      exact absurd ha (hbefore' a (by simp))
  · cases l with
    | nil => exact (List.cons.inj hl).1.symm
    | cons x l =>
      obtain ⟨rfl, -⟩ := List.cons.inj hl
      exact absurd ha' (hbefore a' (by simp))

/-- A list without repetitions, taken apart at one place. -/
theorem nodup_iff_eraseIdx {l : List α} {i : Nat} {a : α} (h : l[i]? = some a) :
    l.Nodup ↔ a ∉ l.eraseIdx i ∧ (l.eraseIdx i).Nodup := by
  obtain ⟨hi, rfl⟩ := List.getElem?_eq_some_iff.1 h
  rw [← List.nodup_cons]
  exact (List.getElem_cons_eraseIdx_perm hi).nodup_iff.symm

theorem eq_pair_of_map {f : α → β} {l : List α} {b b' : β} (h : l.map f = [b, b']) :
    ∃ a a', l = [a, a'] ∧ f a = b ∧ f a' = b' := by
  obtain ⟨a, rest, rfl, ha, hrest⟩ := List.map_eq_cons_iff.1 h
  obtain ⟨a', last, rfl, ha', hlast⟩ := List.map_eq_cons_iff.1 hrest
  obtain rfl := List.map_eq_nil_iff.1 hlast
  exact ⟨a, a', rfl, ha, ha'⟩

end Bindery
