import Bindery.Name.Filter

/-!
# Characters of cased names

A change of case replaces letters by letters and leaves every other character as it is. So
the exported form of a name has no characters other than letters and those of the name, and
no underscore.
-/

namespace Bindery

/-! ## Identifiers -/

def isIdentifierChar (c : Char) : Bool := c.isAlphanum || c == '_'

def isIdentifier (s : String) : Bool :=
  match s.toList with
  | [] => false
  | c :: cs => isIdentifierChar c && !c.isDigit && cs.all isIdentifierChar

/-! ## Letters -/

/-- The code points of letters, with all that are not in ASCII counted as such. -/
def letterCode (n : Nat) : Bool :=
  (0x41 ≤ n && n ≤ 0x5A) || (0x61 ≤ n && n ≤ 0x7A) || (0x80 ≤ n && n < 0xD800)
    || (0xE000 ≤ n && n < 0x110000)

theorem toNat_ofNat_of_letterCode {n : Nat} (h : letterCode n = true) : (Char.ofNat n).toNat = n := by
  have hv : n.isValidChar := by
    simp only [letterCode, Bool.or_eq_true, Bool.and_eq_true, decide_eq_true_eq] at h
    unfold Nat.isValidChar
    omega
  rw [Char.ofNat, dif_pos hv]
  rfl

def Run.movesToLetters (r : Run) (shift : Int) : Bool :=
  r.last < 0x80 || (r.first == r.last && letterCode ((r.first : Int) + shift).toNat)
    || (0x80 ≤ (r.first : Int) + shift && (r.last : Int) + shift < 0xD800)
    || (0xE000 ≤ (r.first : Int) + shift && (r.last : Int) + shift < 0x110000)

theorem Run.letterCode_image {r : Run} {shift : Int} (h : r.movesToLetters shift = true) {n : Nat}
    (hn : r.has n = true) (ha : 0x80 ≤ n) : letterCode ((n : Int) + shift).toNat = true := by
  simp only [Run.movesToLetters, Run.has, Bool.or_eq_true, Bool.and_eq_true, decide_eq_true_eq,
    beq_iff_eq] at h hn
  obtain ⟨⟨hlo, hhi⟩, -⟩ := hn
  rcases h with ((hlast | ⟨hone, hl⟩) | hlow) | hhigh
  · omega
  · obtain rfl : r.first = n := by omega
    exact hl
  · simp only [letterCode, Bool.or_eq_true, Bool.and_eq_true, decide_eq_true_eq]
    omega
  · simp only [letterCode, Bool.or_eq_true, Bool.and_eq_true, decide_eq_true_eq]
    omega

theorem Shifts.letterCode_image? {shifts : Shifts} (h : shifts.all (fun s => s.1.movesToLetters s.2) = true)
    {n m : Nat} (hm : shifts.image? n = some m) (ha : 0x80 ≤ n) : letterCode m = true := by
  unfold Shifts.image? at hm
  obtain ⟨s, hs, rfl⟩ := Option.map_eq_some_iff.1 hm
  have hall := List.all_eq_true.1 h s (List.mem_of_find?_eq_some hs)
  exact Run.letterCode_image hall (by simpa using List.find?_some hs) ha

theorem upperRuns_letters : upperRuns.all (fun s => s.1.movesToLetters s.2) = true := by
  decide +kernel

theorem lowerRuns_letters : lowerRuns.all (fun s => s.1.movesToLetters s.2) = true := by
  decide +kernel

theorem upperExpansions_letters : upperExpansions.all (fun e => e.2.all letterCode) = true := by
  decide +kernel

theorem lowerExpansions_letters : lowerExpansions.all (fun e => e.2.all letterCode) = true := by
  decide +kernel

theorem letterCode_expansion {table : List (Nat × List Nat)}
    (h : table.all (fun e => e.2.all letterCode) = true) {n : Nat} {image : List Nat}
    (hi : table.lookup n = some image) {x : Char} (hx : x ∈ image.map Char.ofNat) :
    letterCode x.toNat = true := by
  obtain ⟨l₁, l₂, rfl, -⟩ := List.lookup_eq_some_iff.1 hi
  obtain ⟨m, hm, rfl⟩ := List.mem_map.1 hx
  have hl : letterCode m = true := by
    have := List.all_eq_true.1 h (n, image) (by simp)
    exact List.all_eq_true.1 this m hm
  rwa [toNat_ofNat_of_letterCode hl]

/-! ## Characters -/

section
variable {x c : Char} {cs : List Char}

theorem ascii_case : ∀ n < 0x80,
    ((Char.ofNat n).toUpper = Char.ofNat n ∨ letterCode (Char.ofNat n).toUpper.toNat = true) ∧
      ((Char.ofNat n).toLower = Char.ofNat n ∨ letterCode (Char.ofNat n).toLower.toNat = true) := by
  decide +kernel

theorem ascii_case_of_lt (h : c.toNat < 0x80) :
    (c.toUpper = c ∨ letterCode c.toUpper.toNat = true) ∧
      (c.toLower = c ∨ letterCode c.toLower.toNat = true) := by
  have := ascii_case c.toNat h
  rwa [Char.ofNat_toNat] at this

theorem mem_caseImage {ascii : Char → Char} {expansions : List (Nat × List Nat)} {shifts : Shifts}
    (ha : c.toNat < 0x80 → ascii c = c ∨ letterCode (ascii c).toNat = true)
    (he : expansions.all (fun e => e.2.all letterCode) = true)
    (hs : shifts.all (fun s => s.1.movesToLetters s.2) = true)
    (h : x ∈ if c.toNat < 0x80 then [ascii c]
      else match expansions.lookup c.toNat with
        | some image => image.map Char.ofNat
        | none => [((shifts.image? c.toNat).map Char.ofNat).getD c]) :
    x = c ∨ letterCode x.toNat = true := by
  split at h
  · rename_i hc
    rw [List.mem_singleton] at h
    subst h
    exact ha hc
  · split at h
    · rename_i hi
      exact .inr (letterCode_expansion he hi h)
    · rename_i hc hi
      rw [List.mem_singleton] at h
      subst h
      cases hm : shifts.image? c.toNat with
      | none => exact .inl rfl
      | some m =>
        have hl := Shifts.letterCode_image? hs hm (by omega)
        refine .inr ?_
        rw [Option.map_some, Option.getD_some, toNat_ofNat_of_letterCode hl]
        exact hl

theorem mem_upperChar (h : x ∈ upperChar c) : x = c ∨ letterCode x.toNat = true :=
  mem_caseImage (fun hc => (ascii_case_of_lt hc).1) upperExpansions_letters upperRuns_letters h

theorem mem_lowerChar (h : x ∈ lowerChar c) : x = c ∨ letterCode x.toNat = true :=
  mem_caseImage (fun hc => (ascii_case_of_lt hc).2) lowerExpansions_letters lowerRuns_letters h

theorem mem_lowerFrom {inWord : Bool} (h : x ∈ lowerFrom inWord cs) :
    x ∈ cs ∨ letterCode x.toNat = true := by
  induction cs generalizing inWord with
  | nil => cases h
  | cons c cs ih =>
    rw [lowerFrom] at h
    rcases List.mem_append.1 h with h | h
    · split at h
      · split at h <;> rw [List.mem_singleton] at h <;> subst h <;> exact .inr (by decide)
      · exact (mem_lowerChar h).imp_left fun (he : x = c) => he ▸ List.mem_cons_self
    · exact (ih h).imp_left (List.mem_cons_of_mem c)

/-! ## Names -/

theorem mem_pieces {separator : Char} {piece : List Char} (hp : piece ∈ pieces separator cs)
    (hx : x ∈ piece) : x ∈ cs ∧ x ≠ separator := by
  induction cs generalizing piece with
  | nil =>
    rw [pieces, List.mem_singleton] at hp
    subst hp
    cases hx
  | cons c cs ih =>
    rw [pieces] at hp
    split at hp
    · rcases List.mem_cons.1 hp with rfl | hp
      · cases hx
      · exact (ih hp hx).imp_left (List.mem_cons_of_mem c)
    · rename_i hc
      split at hp
      · rename_i first rest hs
        rcases List.mem_cons.1 hp with rfl | hp
        · rcases List.mem_cons.1 hx with rfl | hx
          · exact ⟨List.mem_cons_self, hc⟩
          · exact (ih (hs ▸ List.mem_cons_self) hx).imp_left (List.mem_cons_of_mem c)
        · exact (ih (hs ▸ List.mem_cons_of_mem _ hp) hx).imp_left (List.mem_cons_of_mem c)
      · rename_i hs
        exact absurd hs (pieces_ne_nil separator cs)

theorem mem_settle (h : x ∈ settle cs) : x ∈ cs ∨ letterCode x.toNat = true := by
  unfold settle at h
  split at h
  · exact mem_lowerFrom h
  · exact .inl h

theorem mem_capitalize (h : x ∈ capitalize cs) : x ∈ cs ∨ letterCode x.toNat = true := by
  cases cs with
  | nil => cases h
  | cons c cs =>
    rcases List.mem_append.1 h with h | h
    · exact (mem_upperChar h).imp_left fun (he : x = c) => he ▸ List.mem_cons_self
    · exact .inl (List.mem_cons_of_mem c h)

theorem mem_camelChars (h : x ∈ camelChars cs) : x ∈ cs ∧ x ≠ '_' ∨ letterCode x.toNat = true := by
  obtain ⟨segment, hs, hx⟩ := List.mem_flatMap.1 h
  rcases mem_capitalize hx with hx | hx
  · exact (mem_settle hx).imp_left (mem_pieces hs)
  · exact .inr hx

theorem mem_upperName {s : String} (h : x ∈ (upperName s).toList) :
    x ∈ s.toList ∧ x ≠ '_' ∨ letterCode x.toNat = true := by
  unfold upperName camel at h
  rw [String.toList_ofList] at h
  refine (mem_camelChars h).imp_left fun ⟨hx, hne⟩ => ⟨?_, hne⟩
  split at hx
  · cases hw : withoutEnd? "_t" s with
    | none => rwa [hw] at hx
    | some rest =>
      obtain ⟨cs, hcs, rfl⟩ := Option.map_eq_some_iff.1 hw
      rw [hw, Option.getD_some, String.toList_ofList] at hx
      rw [dropEnd?_eq_some_iff.1 hcs]
      exact List.mem_append_left _ hx
  · exact hx

theorem mem_part {f : NameFilter} {native part : String} (h : f.part? native = some part)
    (hx : x ∈ part.toList) : x ∈ native.toList := by
  cases f with
  | pattern q =>
    obtain ⟨marks, -, h⟩ := Option.bind_eq_some_iff.1 h
    obtain ⟨start, -, h⟩ := Option.bind_eq_some_iff.1 h
    obtain ⟨stop, -, h⟩ := Option.bind_eq_some_iff.1 h
    obtain rfl := Option.some.inj h
    rw [String.toList_ofList] at hx
    exact List.mem_of_mem_take (List.mem_of_mem_drop hx)
  | beginning start =>
    replace h : (if start.isEmpty then none else withoutStart? start native) = some part := h
    split at h
    · cases h
    · obtain ⟨rest, hr, rfl⟩ := Option.map_eq_some_iff.1 h
      rw [String.toList_ofList] at hx
      rw [dropStart?_eq_some_iff.1 hr]
      exact List.mem_append_right _ hx

/-- A filter takes the characters of a name from the native name. -/
theorem mem_upperName_filter {f : NameFilter} {native : String}
    (h : x ∈ (f.upperName native).toList) :
    x ∈ native.toList ∧ x ≠ '_' ∨ letterCode x.toNat = true := by
  refine (mem_upperName h).imp_left fun ⟨hx, hne⟩ => ⟨?_, hne⟩
  cases hp : (f.part? native).filter (2 < ·.utf8ByteSize) with
  | none => rwa [hp] at hx
  | some part =>
    rw [hp] at hx
    exact mem_part (Option.filter_eq_some_iff.1 hp).1 hx

end

theorem underscore_notMem_upperName (s : String) : '_' ∉ (upperName s).toList := by
  intro h
  rcases mem_upperName h with ⟨-, h⟩ | h
  · exact h rfl
  · cases h

end Bindery
