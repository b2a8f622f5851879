import Bindery.Proofs.LocalNames

/-!
# Letters of cased names

The casing of a name drops its underscores and changes the case of some letters. On ASCII nothing
else happens, whichever way a segment goes. So names whose exported forms agree were alike up to
underscores and case, and a name has an exported form as soon as it has anything but underscores.
-/

namespace Bindery

def IsAscii (cs : List Char) : Prop := ∀ c ∈ cs, c.toNat < 0x80

/-- The characters of a name but for underscores and letter case. -/
def letters (s : String) : List Char := (s.toList.filter (· ≠ '_')).map Char.toLower

/-- The part of a native name that its exported form is made of. -/
def stem (s : String) : String :=
  if 3 < s.utf8ByteSize then (withoutEnd? "_t" s).getD s else s

section
variable {cs : List Char} {s t : String}

/-! ## Segments -/

theorem flatten_pieces (separator : Char) (cs : List Char) :
    (pieces separator cs).flatten = cs.filter (· ≠ separator) := by
  induction cs with
  | nil => rfl
  | cons c cs ih =>
    rw [pieces]
    split
    · rename_i hc
      simp [hc, ih]
    · rename_i hc
      rw [List.filter_cons_of_pos (by simpa using hc), ← ih]
      split
      · rename_i hp
        rw [hp]
        rfl
      · rename_i hp
        exact absurd hp (pieces_ne_nil separator cs)

theorem IsAscii.of_mem_segments {segment : List Char} (h : IsAscii cs) (hs : segment ∈ segments cs) :
    IsAscii segment :=
  fun c hc => h c (mem_pieces hs hc).1

/-- Whether a segment is lowered or kept, its letters are the same. -/
theorem IsAscii.settle (h : IsAscii cs) :
    IsAscii (settle cs) ∧ (settle cs).map Char.toLower = cs.map Char.toLower := by
  unfold Bindery.settle
  split
  · rw [lowerFrom_ascii h]
    constructor
    · intro x hx
      obtain ⟨c, hc, rfl⟩ := List.mem_map.1 hx
      exact (ascii_case_lt (h c hc)).2
    · simp only [List.map_map, Function.comp_def, Char.toLower_toLower_eq_toLower]
  · exact ⟨h, rfl⟩

theorem IsAscii.capitalize (h : IsAscii cs) :
    IsAscii (capitalize cs) ∧ (capitalize cs).map Char.toLower = cs.map Char.toLower := by
  cases cs with
  | nil => exact ⟨h, rfl⟩
  | cons c cs =>
    have hc : c.toNat < 0x80 := h c List.mem_cons_self
    rw [Bindery.capitalize, upperChar_ascii hc, List.singleton_append]
    constructor
    · exact List.forall_mem_cons.2 ⟨(ascii_case_lt hc).1, fun x hx => h x (List.mem_cons_of_mem c hx)⟩
    · rw [List.map_cons, List.map_cons, Char.toLower_toUpper_eq_toLower]

/-! ## Names -/

theorem IsAscii.camelChars (h : IsAscii cs) : IsAscii (camelChars cs) := by
  intro c hc
  obtain ⟨segment, hs, hc⟩ := List.mem_flatMap.1 hc
  exact (h.of_mem_segments hs).settle.1.capitalize.1 c hc

theorem IsAscii.map_camelChars (h : IsAscii cs) :
    (Bindery.camelChars cs).map Char.toLower = (cs.filter (· ≠ '_')).map Char.toLower := by
  have hsegment : ∀ segment ∈ segments cs,
      (Bindery.capitalize (Bindery.settle segment)).map Char.toLower = segment.map Char.toLower := by
    intro segment hs
    obtain ⟨ha, hl⟩ := (h.of_mem_segments hs).settle
    rw [ha.capitalize.2, hl]
  calc (Bindery.camelChars cs).map Char.toLower
      = (segments cs).flatMap fun segment =>
          (Bindery.capitalize (Bindery.settle segment)).map Char.toLower := List.map_flatMap
    _ = (segments cs).flatMap fun segment => segment.map Char.toLower := List.flatMap_congr hsegment
    _ = (segments cs).flatten.map Char.toLower := by rw [List.map_flatten, List.flatMap_def]
    _ = (cs.filter (· ≠ '_')).map Char.toLower := by rw [segments, flatten_pieces]

theorem map_camel (h : IsAscii s.toList) : (camel s).toList.map Char.toLower = letters s := by
  rw [camel, String.toList_ofList]
  exact h.map_camelChars

theorem upperName_eq_camel (s : String) : upperName s = camel (stem s) := rfl

theorem IsAscii.stem (h : IsAscii s.toList) : IsAscii (stem s).toList := by
  unfold Bindery.stem
  split
  · cases hw : withoutEnd? "_t" s with
    | none => exact h
    | some rest =>
      obtain ⟨cs, hcs, rfl⟩ := Option.map_eq_some_iff.1 hw
      rw [dropEnd?_eq_some_iff.1 hcs] at h
      rw [Option.getD_some, String.toList_ofList]
      exact fun c hc => h c (List.mem_append_left _ hc)
  · exact h

/-- A camel-cased name has the letters of its native name, in some case, and no underscore. So an
exported form tells the letters it is made of, and is empty only where there are none. -/
theorem camel_keeps_letters (s t : String) (hs : IsAscii s.toList) (ht : IsAscii t.toList) :
    (IsAscii (camel s).toList ∧ '_' ∉ (camel s).toList ∧ (camel s).toList.map Char.toLower = letters s) ∧
      (upperName s = upperName t → letters (stem s) = letters (stem t)) ∧
      (upperName s = "" ↔ ∀ c ∈ (stem s).toList, c = '_') := by
  refine ⟨⟨?_, ?_, map_camel hs⟩, fun h => ?_, ?_⟩
  · rw [camel, String.toList_ofList]
    exact hs.camelChars
  · rw [camel, String.toList_ofList]
    exact underscore_notMem_camelChars _
  · rw [upperName_eq_camel, upperName_eq_camel] at h
    rw [← map_camel hs.stem, ← map_camel ht.stem, h]
  · have hletters : letters (stem s) = [] ↔ ∀ c ∈ (stem s).toList, c = '_' := by
      simp [letters]
    rw [← hletters, ← map_camel hs.stem, List.map_eq_nil_iff, ← upperName_eq_camel, String.toList_eq_nil_iff]

/-- A segment that is lowered, an empty one, one of digits and one that is kept. -/
theorem rgb_keeps_letters :
    let s := "RGB__16_Value_t"
    let t := "rgb_16_value"
    IsAscii s.toList ∧ IsAscii t.toList ∧ upperName s = "Rgb16Value" ∧ upperName s = upperName t ∧
      (IsAscii (camel s).toList ∧ '_' ∉ (camel s).toList ∧ (camel s).toList.map Char.toLower = letters s) ∧
      letters (stem s) = letters (stem t) ∧ ¬∀ c ∈ (stem s).toList, c = '_' := by
  have hs : IsAscii "RGB__16_Value_t".toList := by simp [IsAscii]
  have ht : IsAscii "rgb_16_value".toList := by simp [IsAscii]
  have hname : upperName "RGB__16_Value_t" = "Rgb16Value" := by decide +kernel
  have heq : upperName "RGB__16_Value_t" = upperName "rgb_16_value" := by decide +kernel
  obtain ⟨hcamel, hagree, hempty⟩ := camel_keeps_letters "RGB__16_Value_t" "rgb_16_value" hs ht
  refine ⟨hs, ht, hname, heq, hcamel, hagree heq, mt hempty.2 ?_⟩
  rw [hname]
  decide

end

end Bindery
