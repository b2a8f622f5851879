import Bindery.Proofs.Callback.Trampoline
import Bindery.Proofs.LocalNames
import Bindery.Proofs.Lowering.Members

/-!
# Names of parameters

A parameter is named after its native argument alone, without regard to the others: by the local
form of the argument's name, or by its position if it has none. Only the result is named in view of
the parameters.
-/

namespace Bindery

open Native (Identity)

/-! ## Arguments without a name -/

/-- The name that an argument goes by, which is its position if it has no other. -/
def givenName (index : Nat) (native : String) : String :=
  if native.isEmpty then "arg" ++ toString index else native

def givenNames (as : List Native.Argument) : List String := as.zipIdx.map fun a => givenName a.2 a.1.name

section
variable (i : Nat)

theorem toList_arg : ("arg" ++ toString i).toList = 'a' :: 'r' :: 'g' :: Nat.toDigits 10 i := by
  have hdigits : (toString i).toList = Nat.toDigits 10 i := by
    rw [Nat.toString_eq_repr, Nat.repr, String.toList_ofList]
  rw [String.toList_append, hdigits]
  rfl

theorem isDigit_of_mem {x : Char} (h : x ∈ Nat.toDigits 10 i) : x.isDigit = true :=
  Nat.isDigit_of_mem_toDigits (by decide) (by decide) h

theorem isIdentifier_arg : isIdentifier ("arg" ++ toString i) = true := by
  have hall : ∀ x ∈ Nat.toDigits 10 i, isIdentifierChar x = true := fun x hx => by
    simp [isIdentifierChar, Char.isAlphanum, isDigit_of_mem i hx]
  unfold isIdentifier
  rw [toList_arg]
  simp only [Bool.and_eq_true, List.all_cons, List.all_eq_true]
  exact ⟨by decide, by decide, by decide, hall⟩

theorem isKept_arg : isKept ("arg" ++ toString i) = false := by
  unfold isKept
  rw [toList_arg]

theorem camelChars_arg : camelChars ("arg" ++ toString i).toList = 'A' :: 'r' :: 'g' :: Nat.toDigits 10 i := by
  have hunder : '_' ∉ 'a' :: 'r' :: 'g' :: Nat.toDigits 10 i := by
    simp only [List.mem_cons, not_or]
    refine ⟨by decide, by decide, by decide, fun h => ?_⟩
    cases isDigit_of_mem i h
  rw [toList_arg, camelChars, segments, pieces_of_notMem hunder, List.flatMap_singleton, settle, if_neg]
  · rfl
  · rw [List.flatMap_cons]
    intro h
    cases congrArg List.head? h

theorem lowerName_arg : lowerName ("arg" ++ toString i) = "arg" ++ toString i := by
  have hcamel : lowerCamel ("arg" ++ toString i) = "arg" ++ toString i := by
    rw [lowerCamel_long (toList_arg i), camelChars_arg, ← String.toList_inj, String.toList_ofList, toList_arg]
    rfl
  rcases lowerName_cases ("arg" ++ toString i) with ⟨h, -⟩ | ⟨-, hr⟩
  · rw [h, hcamel]
  · -- no reserved name has a digit
    obtain ⟨d, ds, hd⟩ := List.exists_cons_of_ne_nil (Nat.toDigits_ne_nil (n := i) (b := 10))
    have hmem : d ∈ ("arg" ++ toString i).toList := by
      rw [toList_arg, hd]
      simp
    have hnone : ∀ name ∈ reservedNames, name.toList.any Char.isDigit = false := by decide +kernel
    rw [hcamel] at hr
    exact absurd (isDigit_of_mem i (hd ▸ List.mem_cons_self)) (List.any_eq_false.1 (hnone _ hr) d hmem)

end

theorem givenName_empty (index : Nat) : givenName index "" = "arg" ++ toString index := rfl

theorem givenName_of_ne {native : String} (h : native ≠ "") (index : Nat) : givenName index native = native := by
  simp [givenName, h]

theorem parameterName_eq (index : Nat) (native : String) :
    parameterName index native = lowerName (givenName index native) := by
  by_cases h : native = ""
  · subst h
    exact (lowerName_arg index).symm
  · simp [parameterName, givenName, h]

/-- What makes a parameter have a name that is neither reserved nor one for a position. -/
theorem parameterName_eq_iff {i : Nat} {native name : String} (hr : name ∉ reservedNames)
    (hunder : '_' ∉ name.toList) (hne : name ≠ "") (ha : name.toList.head? ≠ some 'a') :
    parameterName i native = name ↔ lowerCamel native = name := by
  by_cases hnative : native = ""
  · subst hnative
    refine iff_of_false (fun h => ha ?_) (Ne.symm hne)
    rw [← h, parameterName_eq, givenName_empty, lowerName_arg, toList_arg]
    rfl
  · rw [parameterName_eq, givenName_of_ne hnative]
    rcases lowerName_cases native with ⟨h, -⟩ | ⟨h, hmem⟩
    · rw [h]
    · refine iff_of_false (fun heq => hunder ?_) fun heq => hr (heq ▸ hmem)
      rw [← heq, h, String.toList_append]
      exact List.mem_append_right _ List.mem_cons_self

section
variable {i j : Nat} {a b : String}

theorem isIdentifier_givenName (h : a ≠ "" → isIdentifier a = true) : isIdentifier (givenName i a) = true := by
  by_cases ha : a = ""
  · rw [ha, givenName_empty]
    exact isIdentifier_arg i
  · rw [givenName_of_ne ha]
    exact h ha

/-- Arguments that go by one name have names that meet, as at most one of them is so named. -/
theorem meet_of_givenName (hab : a ≠ "" → a ≠ b) (h : givenName i a = givenName j b) :
    Meet (givenName i a) (givenName j b) := by
  have hkept : isKept (givenName i a) = false := by
    by_cases ha : a = ""
    · rw [ha, givenName_empty]
      exact isKept_arg i
    · by_cases hb : b = ""
      · rw [h, hb, givenName_empty]
        exact isKept_arg j
      · rw [givenName_of_ne ha, givenName_of_ne hb] at h
        exact absurd h (hab ha)
  exact ⟨congrArg camel h, hkept, h ▸ hkept⟩

theorem lowerName_givenName_ne_empty (h : a ≠ "" → isIdentifier a = true) :
    lowerName (givenName i a) ≠ "" ↔ (a ≠ "" → (∀ x ∈ a.toList, x = '_') → a = "_") := by
  by_cases ha : a = ""
  · rw [ha, givenName_empty, lowerName_arg]
    simp
  · rw [givenName_of_ne ha, Ne, lowerName_eq_empty_iff (h ha)]
    simp [ha]

end

/-! ## Free names -/

def parameterScope (ps : List Parameter) : Scope := ⟨ps.map fun p => (p.name, p.name)⟩

theorem hasName_parameterScope (ps : List Parameter) (name : String) :
    (parameterScope ps).hasName name = true ↔ name ∈ ps.map (·.name) := by
  rw [Scope.hasName_iff, parameterScope, List.mem_map]
  constructor
  · rintro ⟨id, hid⟩
    obtain ⟨p, hp, he⟩ := List.mem_map.1 hid
    exact ⟨p, hp, congrArg Prod.snd he⟩
  · rintro ⟨p, hp, rfl⟩
    exact ⟨p.name, List.mem_map.2 ⟨p, hp, rfl⟩⟩

theorem unusedName_eq (ps : List Parameter) (more : Nat) (name : String) :
    unusedName ps more name = (parameterScope ps).freshWithin more name := by
  induction more generalizing name with
  | zero => rfl
  | succ more ih =>
    have htaken : ps.any (·.name == name) = (parameterScope ps).hasName name := by
      rw [Bool.eq_iff_iff, hasName_parameterScope]
      simp
    rw [unusedName, Scope.freshWithin, htaken, ih]

/-- The name of the result has the least number of underscores with which no parameter has it. -/
theorem resultParameter_spec {type : Option Descriptor} {ps : List Parameter} {p : Parameter}
    (h : resultParameter type ps = some p) :
    p.name ∉ ps.map (·.name) ∧ ∃ k, p.name = Scope.underscored "ret" k ∧
      ∀ j < k, Scope.underscored "ret" j ∈ ps.map (·.name) := by
  obtain ⟨t, -, rfl⟩ := Option.map_eq_some_iff.1 h
  have hname : unusedName ps ps.length "ret" = (parameterScope ps).fresh "ret" := by
    rw [unusedName_eq, Scope.fresh, Scope.size, parameterScope, List.length_map]
  obtain ⟨k, hk, hlt, hfree⟩ := (parameterScope ps).fresh_spec "ret"
  refine ⟨?_, k, hname.trans hk, fun j hj => (hasName_parameterScope ps _).1 (hlt j hj)⟩
  rw [← hasName_parameterScope, hname, hfree]
  exact Bool.false_ne_true

namespace LoweringContext

variable {c : LoweringContext} {r r' : Registry} {owner : String} {as : List Native.Argument}
  {ps : List Parameter} {xs : List CallArgument}

theorem lowerArguments_names (h : (c.lowerArguments owner as).run r = .ok ((ps, xs), r')) :
    ps.map (·.name) = (givenNames as).map lowerName := by
  obtain ⟨pairs, r₁, hpairs, h⟩ := Lowering.run_bind_ok.1 h
  obtain ⟨he, -⟩ := Lowering.run_pure_ok.1 h
  rw [List.unzip_eq_map] at he
  cases he
  have hall := Lowering.run_mapM_ok (I := fun _ => True)
    (Q := fun b a => b.1.name = parameterName a.2 a.1.name)
    (fun a _ b _ _ hb => ⟨(lowerArgument_ok hb).1, trivial⟩) trivial hpairs
  have heq : pairs.map (·.1.name) = as.zipIdx.map fun a => parameterName a.2 a.1.name := by
    rw [← List.forall₂_eq_eq_eq, List.forall₂_map_left_iff, List.forall₂_map_right_iff]
    exact hall
  simpa [givenNames, Function.comp_def, parameterName_eq] using heq

theorem natives_nodup_iff (h : (c.lowerArguments owner as).run r = .ok ((ps, xs), r')) :
    (xs.map (·.native)).Nodup ↔ (ps.map (·.name)).Nodup := by
  have hmap : xs.map (·.native) = (ps.map (·.name)).map ("_" ++ ·) := by
    rw [(lowerArguments_ok h).1, List.map_map, List.map_map]
    rfl
  rw [hmap]
  exact List.nodup_map_iff fun s t hst => (String.append_right_inj "_").1 hst

section
variable (hnames : ∀ a ∈ as, a.name ≠ "" → isIdentifier a.name = true)
  (h : (c.lowerArguments owner as).run r = .ok ((ps, xs), r'))
include hnames h

theorem names_ne_empty_iff : (∀ p ∈ ps, p.name ≠ "") ↔
    ∀ a ∈ as, a.name ≠ "" → (∀ x ∈ a.name.toList, x = '_') → a.name = "_" := by
  calc (∀ p ∈ ps, p.name ≠ "")
      ↔ ∀ name ∈ ps.map (·.name), name ≠ "" := by simp
    _ ↔ ∀ a ∈ as.zipIdx, lowerName (givenName a.2 a.1.name) ≠ "" := by
      rw [lowerArguments_names h, givenNames, List.map_map, List.forall_mem_map]
      rfl
    _ ↔ ∀ a ∈ as.zipIdx, a.1.name ≠ "" → (∀ x ∈ a.1.name.toList, x = '_') → a.1.name = "_" :=
      forall₂_congr fun a ha => lowerName_givenName_ne_empty (hnames a.1 (List.fst_mem_of_mem_zipIdx ha))
    _ ↔ ∀ a ∈ as.zipIdx.map Prod.fst, a.name ≠ "" → (∀ x ∈ a.name.toList, x = '_') → a.name = "_" :=
      by rw [List.forall_mem_map]
    _ ↔ _ := by rw [List.zipIdx_map_fst]

theorem names_nodup_iff (hdistinct : as.Pairwise fun a b => a.name ≠ "" → a.name ≠ b.name) :
    (ps.map (·.name)).Nodup ↔ (givenNames as).Pairwise fun s t => ¬ Meet s t := by
  have hgiven : ∀ a ∈ as.zipIdx, isIdentifier (givenName a.2 a.1.name) = true := fun a ha =>
    isIdentifier_givenName (hnames a.1 (List.fst_mem_of_mem_zipIdx ha))
  have hapart : as.zipIdx.Pairwise fun a b => a.1.name ≠ "" → a.1.name ≠ b.1.name := by
    rw [← List.zipIdx_map_fst 0 as, List.pairwise_map] at hdistinct
    exact hdistinct
  rw [lowerArguments_names h, givenNames, List.map_map, List.Nodup, List.pairwise_map, List.pairwise_map]
  constructor
  · intro hne
    exact hne.imp_of_mem fun ha hb hne hmeet => hne ((lowerName_eq_iff (hgiven _ ha) (hgiven _ hb)).2 (.inr hmeet))
  · intro hmeet
    refine (hmeet.and hapart).imp_of_mem fun ha hb hab heq => ?_
    rcases (lowerName_eq_iff (hgiven _ ha) (hgiven _ hb)).1 heq with hsame | hmeet
    · exact hab.1 (meet_of_givenName hab.2 hsame)
    · exact hab.1 hmeet

/-- Parameters have names of their own exactly if no argument is named by underscores alone and no
two names meet, that by which an argument without a name goes included. The result always has one. -/
theorem parameter_names_distinct_iff
    (hdistinct : as.Pairwise fun a b => a.name ≠ "" → a.name ≠ b.name) :
    ((∀ p ∈ ps, p.name ≠ "") ↔ ∀ a ∈ as, a.name ≠ "" → (∀ x ∈ a.name.toList, x = '_') → a.name = "_") ∧
    ((ps.map (·.name)).Nodup ↔ (givenNames as).Pairwise fun s t => ¬ Meet s t) ∧
    ((xs.map (·.native)).Nodup ↔ (ps.map (·.name)).Nodup) ∧
    ∀ type p, resultParameter type ps = some p → p.name ≠ "" ∧ p.name ∉ ps.map (·.name) := by
  refine ⟨names_ne_empty_iff hnames h, names_nodup_iff hnames h hdistinct, natives_nodup_iff h, ?_⟩
  intro type p hp
  obtain ⟨hfree, k, hk, -⟩ := resultParameter_spec hp
  exact ⟨hk ▸ Scope.underscored_ne_empty (by decide) k, hfree⟩

end

/-- The types of `void copy_range(int first_size, int, int type)` and `void resize(int size, int size_)`. -/
def ranges : LoweringContext where
  document := { files := [⟨"f", "ranges.h"⟩], types := Dict.ofList [("int", .fundamental "int" 4)] }
  rules := {}

theorem ranges_copy_named :
    ∃ ps xs r', (ranges.lowerArguments "function 'copy_range'"
        [⟨"first_size", "int", .unset⟩, ⟨"", "int", .unset⟩, ⟨"type", "int", .unset⟩]).run {} =
          .ok ((ps, xs), r') ∧
      (∀ p ∈ ps, p.name ≠ "") ∧ (ps.map (·.name)).Nodup ∧ (xs.map (·.native)).Nodup := by
  obtain ⟨ps, xs, r', hrun⟩ : ∃ ps xs r', (ranges.lowerArguments "function 'copy_range'"
      [⟨"first_size", "int", .unset⟩, ⟨"", "int", .unset⟩, ⟨"type", "int", .unset⟩]).run {} =
        .ok ((ps, xs), r') := ⟨_, _, _, rfl⟩
  obtain ⟨hempty, hnodup, hnatives, -⟩ :=
    parameter_names_distinct_iff (by decide +kernel) hrun (by decide +kernel)
  have hnames := hnodup.2 (by decide +kernel)
  exact ⟨ps, xs, r', hrun, hempty.2 (by simp), hnames, hnatives.2 hnames⟩

theorem ranges_resize_collides :
    isIdentifier "size" = true ∧ isIdentifier "size_" = true ∧ "size" ≠ "size_" ∧
    ∃ ps xs r', (ranges.lowerArguments "function 'resize'"
        [⟨"size", "int", .unset⟩, ⟨"size_", "int", .unset⟩]).run {} = .ok ((ps, xs), r') ∧
      ¬ (ps.map (·.name)).Nodup ∧ ¬ (xs.map (·.native)).Nodup :=
  ⟨by decide +kernel, by decide +kernel, by decide, _, _, _, rfl, by decide +kernel, by decide +kernel⟩

end LoweringContext

end Bindery
