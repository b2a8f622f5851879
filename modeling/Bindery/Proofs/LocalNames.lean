import Bindery.Lowering.Wrappers
import Bindery.Proofs.Casing
import Mathlib

/-!
# Local names

When two native names have the same local name. A local name is cased like an exported one and
begins in lower case, so the names that meet are those that have the same camel case. A single
capital letter or underscore is kept as it is, and meets no other name.
-/

namespace Bindery

/-! ## Letter case in ASCII -/

section
variable {c : Char} {cs : List Char}

theorem isIdentifierChar_lt (h : isIdentifierChar c = true) : c.toNat < 0x80 := by
  simp only [isIdentifierChar, Char.isAlphanum, Char.isAlpha, Char.isUpper, Char.isLower, Char.isDigit,
    Bool.or_eq_true, Bool.and_eq_true, decide_eq_true_eq, beq_iff_eq, UInt32.le_iff_toNat_le] at h
  rcases h with ((h | h) | h) | rfl
  · exact Nat.lt_of_le_of_lt h.2 (by decide)
  · exact Nat.lt_of_le_of_lt h.2 (by decide)
  · exact Nat.lt_of_le_of_lt h.2 (by decide)
  · decide

theorem ascii_case_lt (h : c.toNat < 0x80) : c.toUpper.toNat < 0x80 ∧ c.toLower.toNat < 0x80 := by
  have hall : ∀ n < 0x80, (Char.ofNat n).toUpper.toNat < 0x80 ∧ (Char.ofNat n).toLower.toNat < 0x80 := by
    decide +kernel
  have hc := hall c.toNat h
  rwa [Char.ofNat_toNat] at hc

theorem toUpper_ne_of_isLower (h : c.isLower = true) : c.toUpper ≠ c := by
  intro hc
  have hupper := Char.isLower_toUpper_eq_false c
  rw [hc, h] at hupper
  cases hupper

theorem toLower_eq_of_isLower (h : c.isLower = true) : c.toLower = c :=
  Char.toLower_eq_of_not_isUpper (Char.not_isUpper_of_isLower h)

theorem upperChar_ascii (h : c.toNat < 0x80) : upperChar c = [c.toUpper] := if_pos h

theorem lowerChar_ascii (h : c.toNat < 0x80) : lowerChar c = [c.toLower] := if_pos h

theorem lowerFrom_ascii (h : ∀ x ∈ cs, x.toNat < 0x80) (inWord : Bool) :
    lowerFrom inWord cs = cs.map Char.toLower := by
  induction cs generalizing inWord with
  | nil => rfl
  | cons c cs ih =>
    have hc := h c List.mem_cons_self
    have hne : (c.toNat == 0x3A3) = false := by
      simp only [beq_eq_false_iff_ne]
      omega
    rw [lowerFrom, hne, ih fun x hx => h x (List.mem_cons_of_mem c hx), lowerChar_ascii hc]
    rfl

end

/-! ## Camel case -/

section
variable {c : Char} {cs : List Char}

/-- A segment begins with the capital of its first letter, whichever way it is settled. -/
theorem capitalize_settle_cons (h : ∀ x ∈ c :: cs, x.toNat < 0x80) :
    ∃ rest, capitalize (settle (c :: cs)) = c.toUpper :: rest := by
  have hc := h c List.mem_cons_self
  unfold settle
  split
  · rw [lowerFrom_ascii h, List.map_cons, capitalize, upperChar_ascii (ascii_case_lt hc).2,
      Char.toUpper_toLower_eq_toUpper]
    exact ⟨_, rfl⟩
  · rw [capitalize, upperChar_ascii hc]
    exact ⟨_, rfl⟩

theorem camelChars_underscore (cs : List Char) : camelChars ('_' :: cs) = camelChars cs := by
  simp [camelChars, segments, pieces, settle, capitalize, lowerFrom]

theorem camelChars_cons (hc : c ≠ '_') (h : ∀ x ∈ c :: cs, x.toNat < 0x80) :
    ∃ rest, camelChars (c :: cs) = c.toUpper :: rest := by
  obtain ⟨piece, more, hpieces⟩ := List.exists_cons_of_ne_nil (pieces_ne_nil '_' cs)
  have hmem : ∀ x ∈ c :: piece, x.toNat < 0x80 := by
    intro x hx
    rcases List.mem_cons.1 hx with rfl | hx
    · exact h x List.mem_cons_self
    · exact h x (List.mem_cons_of_mem c (mem_pieces (hpieces ▸ List.mem_cons_self) hx).1)
  obtain ⟨rest, hrest⟩ := capitalize_settle_cons hmem
  have hcut : pieces '_' (c :: cs) = (c :: piece) :: more := by
    rw [pieces, if_neg hc, hpieces]
  refine ⟨rest ++ more.flatMap fun s => capitalize (settle s), ?_⟩
  rw [camelChars, segments, hcut, List.flatMap_cons, hrest, List.cons_append]

/-- The camel case of a name begins with the capital of its first character that is no underscore. -/
theorem camelChars_cases (h : ∀ x ∈ cs, x.toNat < 0x80) :
    (∀ x ∈ cs, x = '_') ∧ camelChars cs = [] ∨
      ∃ x ∈ cs, x ≠ '_' ∧ ∃ rest, camelChars cs = x.toUpper :: rest := by
  induction cs with
  | nil => exact .inl ⟨nofun, rfl⟩
  | cons c cs ih =>
    by_cases hc : c = '_'
    · subst hc
      rw [camelChars_underscore]
      rcases ih fun x hx => h x (List.mem_cons_of_mem _ hx) with ⟨hall, hnil⟩ | ⟨x, hx, hne, hrest⟩
      · exact .inl ⟨by simpa using hall, hnil⟩
      · exact .inr ⟨x, List.mem_cons_of_mem _ hx, hne, hrest⟩
    · exact .inr ⟨c, List.mem_cons_self, hc, camelChars_cons hc h⟩

theorem pieces_of_notMem {separator : Char} (h : separator ∉ cs) : pieces separator cs = [cs] := by
  induction cs with
  | nil => rfl
  | cons c cs ih =>
    simp only [List.mem_cons, not_or] at h
    rw [pieces, if_neg (Ne.symm h.1), ih h.2]

end

/-! ## Local names -/

theorem identifier_cases {s : String} (h : isIdentifier s = true) :
    ∃ c cs, s.toList = c :: cs ∧ c.isDigit = false ∧ ∀ x ∈ c :: cs, isIdentifierChar x = true := by
  unfold isIdentifier at h
  split at h
  · cases h
  · rename_i c cs hs
    simp only [Bool.and_eq_true, Bool.not_eq_true', List.all_eq_true] at h
    exact ⟨c, cs, hs, h.1.2, List.forall_mem_cons.2 ⟨h.1.1, h.2⟩⟩

theorem identifier_ascii {s : String} (h : isIdentifier s = true) : ∀ x ∈ s.toList, x.toNat < 0x80 := by
  obtain ⟨c, cs, hs, -, hall⟩ := identifier_cases h
  rw [hs]
  exact fun x hx => isIdentifierChar_lt (hall x hx)

/-- A single capital letter or underscore, which is a local name as it is. -/
def isKept (s : String) : Bool :=
  match s.toList with
  | [c] => !c.isLower
  | _ => false

def uncapitalize : List Char → List Char
  | [] => []
  | c :: cs => lowerChar c ++ cs

theorem lowerCamel_cases (s : String) :
    lowerCamel s = s ∧ s.utf8ByteSize ≤ 1 ∨ lowerCamel s = String.ofList (uncapitalize (camelChars s.toList)) := by
  unfold lowerCamel
  split
  · exact .inl ⟨rfl, ‹_›⟩
  · exact .inr (by cases camelChars s.toList <;> rfl)

theorem utf8ByteSize_of_cons {s : String} {c : Char} {cs : List Char} (hs : s.toList = c :: cs) :
    s.utf8ByteSize = c.utf8Size + (String.ofList cs).utf8ByteSize := by
  rw [← String.ofList_toList (s := s), hs, String.ofList_cons, String.utf8ByteSize_append,
    String.utf8ByteSize_singleton]

theorem lowerCamel_short {s : String} {c : Char} (hs : s.toList = [c]) (hc : c.toNat < 0x80) :
    lowerCamel s = s := by
  have hsize : s.utf8ByteSize = 1 := by
    rw [utf8ByteSize_of_cons hs, Char.utf8Size_eq_one_iff.2 (UInt32.le_iff_toNat_le.2 (Nat.le_of_lt_succ hc))]
    rfl
  unfold lowerCamel
  rw [if_pos (by omega)]

theorem lowerCamel_long {s : String} {c d : Char} {cs : List Char} (hs : s.toList = c :: d :: cs) :
    lowerCamel s = String.ofList (uncapitalize (camelChars s.toList)) := by
  have hsize : 1 < s.utf8ByteSize := by
    rw [utf8ByteSize_of_cons hs, utf8ByteSize_of_cons String.toList_ofList]
    have hc := c.utf8Size_pos
    have hd := d.utf8Size_pos
    omega
  rcases lowerCamel_cases s with ⟨-, hshort⟩ | h
  · omega
  · exact h

theorem short_cases {s : String} (h : s.utf8ByteSize ≤ 1) : s = "" ∨ ∃ c, s.toList = [c] := by
  cases hs : s.toList with
  | nil => exact .inl (String.toList_inj.1 hs)
  | cons c cs =>
    rw [utf8ByteSize_of_cons hs] at h
    have hc := c.utf8Size_pos
    have hcs : cs = [] := by
      rw [← String.ofList_eq_empty_iff, ← String.utf8ByteSize_eq_zero_iff]
      omega
    exact .inr ⟨c, by rw [hcs]⟩

theorem underscore_notMem_camelChars (cs : List Char) : '_' ∉ camelChars cs := by
  intro h
  rcases mem_camelChars h with ⟨-, hne⟩ | hletter
  · exact hne rfl
  · cases hletter

theorem underscore_notMem_uncapitalize {cs : List Char} (h : '_' ∉ cs) : '_' ∉ uncapitalize cs := by
  cases cs with
  | nil => exact h
  | cons c cs =>
    simp only [List.mem_cons, not_or] at h
    rw [uncapitalize, List.mem_append]
    rintro (hmem | hmem)
    · rcases mem_lowerChar hmem with hc | hletter
      · exact h.1 hc
      · cases hletter
    · exact h.2 hmem

/-- There is no underscore in a cased name, unless it is kept. -/
theorem eq_underscore_of_mem {s : String} (h : '_' ∈ (lowerCamel s).toList) : s = "_" := by
  rcases lowerCamel_cases s with ⟨hs, hsize⟩ | hs
  · rw [hs] at h
    rcases short_cases hsize with rfl | ⟨c, hc⟩
    · cases h
    · rw [hc, List.mem_singleton] at h
      rw [← String.toList_inj, hc, ← h]
      rfl
  · rw [hs, String.toList_ofList] at h
    exact (underscore_notMem_uncapitalize (underscore_notMem_camelChars _) h).elim

section
variable {s t : String}

theorem lowerCamel_of_kept (hs : isIdentifier s = true) (hk : isKept s = true) :
    lowerCamel s = s ∧ ∃ c, s.toList = [c] ∧ c.isLower = false ∧ c.isDigit = false := by
  obtain ⟨c, cs, hcs, hd, hall⟩ := identifier_cases hs
  unfold isKept at hk
  split at hk
  · rename_i x hx
    obtain ⟨rfl, rfl⟩ := List.cons.inj (hx.symm.trans hcs)
    exact ⟨lowerCamel_short hx (isIdentifierChar_lt (hall x List.mem_cons_self)), x, hx, by simpa using hk, hd⟩
  · cases hk

/-- Any name that is not kept is in camel case, but for its first letter. -/
theorem lowerCamel_of_not_kept (hs : isIdentifier s = true) (hk : isKept s = false) :
    lowerCamel s = String.ofList (uncapitalize (camelChars s.toList)) := by
  obtain ⟨c, cs, hcs, hd, hall⟩ := identifier_cases hs
  cases cs with
  | cons d cs => exact lowerCamel_long hcs
  | nil =>
    have hc := isIdentifierChar_lt (hall c List.mem_cons_self)
    have hlower : c.isLower = true := by simpa [isKept, hcs] using hk
    have hunder : c ≠ '_' := by
      rintro rfl
      cases hlower
    rw [lowerCamel_short hcs hc, hcs]
    have hcamel : camelChars [c] = [c.toUpper] := by
      simp [camelChars, segments, pieces_of_notMem, hunder.symm, settle, upperChar_ascii hc,
        toUpper_ne_of_isLower hlower, capitalize]
    rw [hcamel, uncapitalize, lowerChar_ascii (ascii_case_lt hc).1, Char.toLower_toUpper_eq_toLower,
      toLower_eq_of_isLower hlower, ← String.toList_inj, String.toList_ofList, hcs]
    rfl

/-- What a name that is not kept begins with, if it is not made of underscores alone. -/
theorem uncapitalize_cases (hs : isIdentifier s = true) :
    (∀ x ∈ s.toList, x = '_') ∧ camelChars s.toList = [] ∨
      ∃ x ∈ s.toList, x ≠ '_' ∧ ∃ rest, camelChars s.toList = x.toUpper :: rest ∧
        uncapitalize (camelChars s.toList) = x.toLower :: rest := by
  refine (camelChars_cases (identifier_ascii hs)).imp id ?_
  rintro ⟨x, hx, hne, rest, hrest⟩
  refine ⟨x, hx, hne, rest, hrest, ?_⟩
  rw [hrest, uncapitalize, lowerChar_ascii (ascii_case_lt (identifier_ascii hs x hx)).1,
    Char.toLower_toUpper_eq_toLower]
  rfl

/-- The case of the first letter is all that is lost, and it was that of a capital. -/
theorem uncapitalize_inj (hs : isIdentifier s = true) (ht : isIdentifier t = true)
    (h : uncapitalize (camelChars s.toList) = uncapitalize (camelChars t.toList)) :
    camelChars s.toList = camelChars t.toList := by
  rcases uncapitalize_cases hs with ⟨-, hnil⟩ | ⟨x, -, -, rest, hxs, hcons⟩
  · rcases uncapitalize_cases ht with ⟨-, hnil'⟩ | ⟨y, -, -, _, -, hcons'⟩
    · rw [hnil, hnil']
    · rw [hnil, hcons'] at h
      cases h
  · rcases uncapitalize_cases ht with ⟨-, hnil'⟩ | ⟨y, -, -, _, hys, hcons'⟩
    · rw [hcons, hnil'] at h
      cases h
    · rw [hcons, hcons'] at h
      obtain ⟨hxy, rfl⟩ := List.cons.inj h
      have hupper := congrArg Char.toUpper hxy
      rw [Char.toUpper_toLower_eq_toUpper, Char.toUpper_toLower_eq_toUpper] at hupper
      rw [hxs, hys, hupper]

theorem lowerCamel_ne_of_kept (hs : isIdentifier s = true) (ht : isIdentifier t = true)
    (hks : isKept s = true) (hkt : isKept t = false) : lowerCamel s ≠ lowerCamel t := by
  obtain ⟨hself, c, hc, hlower, hdigit⟩ := lowerCamel_of_kept hs hks
  intro h
  rw [hself, lowerCamel_of_not_kept ht hkt, ← String.toList_inj, hc, String.toList_ofList] at h
  rcases uncapitalize_cases ht with ⟨-, hnil⟩ | ⟨x, -, hne, rest, -, hcons⟩
  · rw [hnil] at h
    cases h
  · rw [hcons] at h
    obtain ⟨rfl, -⟩ := List.cons.inj h
    -- the first letter is neither a capital nor an underscore, which is all that is kept
    have hchar : isIdentifierChar x.toLower = true := by
      obtain ⟨_, _, hl, -, hall⟩ := identifier_cases hs
      exact hall _ (by rw [← hl, hc]; exact List.mem_singleton_self _)
    simp only [isIdentifierChar, Char.isAlphanum, Char.isAlpha, Char.isUpper_toLower_eq_false, hlower, hdigit,
      Bool.or_self, Bool.false_or, beq_iff_eq] at hchar
    have hsame : x.toLower = x := by
      refine Char.toLower_eq_of_not_isUpper fun hupper => ?_
      rw [Char.isLower_toLower_eq_isAlpha, Char.isAlpha, hupper] at hlower
      cases hlower
    exact hne (hsame.symm.trans hchar)

/-- Whether two names are the same but for the underscores and the case that casing takes away. -/
def Meet (s t : String) : Prop := camel s = camel t ∧ isKept s = false ∧ isKept t = false

instance : DecidableRel Meet := fun s t =>
  inferInstanceAs (Decidable (camel s = camel t ∧ isKept s = false ∧ isKept t = false))

theorem lowerCamel_eq_iff (hs : isIdentifier s = true) (ht : isIdentifier t = true) :
    lowerCamel s = lowerCamel t ↔ s = t ∨ Meet s t := by
  unfold Meet
  cases hks : isKept s with
  | true =>
    cases hkt : isKept t with
    | true => simp [(lowerCamel_of_kept hs hks).1, (lowerCamel_of_kept ht hkt).1]
    | false =>
      refine iff_of_false (lowerCamel_ne_of_kept hs ht hks hkt) ?_
      rintro (rfl | h)
      · cases hks.symm.trans hkt
      · cases h.2.1
  | false =>
    cases hkt : isKept t with
    | true =>
      refine iff_of_false (lowerCamel_ne_of_kept ht hs hkt hks).symm ?_
      rintro (rfl | h)
      · cases hks.symm.trans hkt
      · cases h.2.2
    | false =>
      rw [lowerCamel_of_not_kept hs hks, lowerCamel_of_not_kept ht hkt, String.ofList_inj]
      have hcamel : camel s = camel t ↔ camelChars s.toList = camelChars t.toList := String.ofList_inj
      constructor
      · intro h
        exact .inr ⟨hcamel.2 (uncapitalize_inj hs ht h), rfl, rfl⟩
      · rintro (rfl | ⟨h, -, -⟩)
        · rfl
        · rw [hcamel.1 h]

theorem lowerCamel_eq_empty_iff (hs : isIdentifier s = true) :
    lowerCamel s = "" ↔ (∀ x ∈ s.toList, x = '_') ∧ s ≠ "_" := by
  cases hk : isKept s with
  | true =>
    obtain ⟨hself, c, hc, -⟩ := lowerCamel_of_kept hs hk
    rw [hself]
    refine iff_of_false (fun h => ?_) ?_
    · rw [h] at hc
      cases hc
    · rintro ⟨hall, hne⟩
      rw [hc] at hall
      have hunder := hall c (List.mem_singleton_self c)
      exact hne (by rw [← String.toList_inj, hc, hunder]; rfl)
  | false =>
    have hne : s ≠ "_" := by
      rintro rfl
      cases hk
    rw [lowerCamel_of_not_kept hs hk, ← String.toList_inj, String.toList_ofList, String.toList_empty]
    rcases uncapitalize_cases hs with ⟨hall, hnil⟩ | ⟨x, hx, hx', rest, -, hcons⟩
    · exact iff_of_true (by rw [hnil]; rfl) ⟨hall, hne⟩
    · refine iff_of_false ?_ fun h => hx' (h.1 x hx)
      rw [hcons]
      exact List.cons_ne_nil _ _

/-! ## Reserved names -/

theorem lowerName_cases (s : String) :
    lowerName s = lowerCamel s ∧ lowerCamel s ∉ reservedNames ∨
      lowerName s = lowerCamel s ++ "_" ∧ lowerCamel s ∈ reservedNames := by
  unfold lowerName
  dsimp only
  by_cases h : lowerCamel s ∈ reservedNames
  · rw [if_pos (by simpa using h)]
    exact .inr ⟨rfl, h⟩
  · rw [if_neg (by simpa using h)]
    exact .inl ⟨rfl, h⟩

theorem underscore_notMem_reserved : ∀ name ∈ reservedNames, '_' ∉ name.toList := by decide +kernel

theorem lowerName_notMem_reserved (s : String) : lowerName s ∉ reservedNames := by
  rcases lowerName_cases s with ⟨h, hr⟩ | ⟨h, -⟩
  · rwa [h]
  · intro hmem
    refine underscore_notMem_reserved _ hmem ?_
    rw [h, String.toList_append]
    exact List.mem_append_right _ List.mem_cons_self

/-- A local name ends in an underscore only if that is all of it or keeps it apart from a reserved name. -/
theorem of_lowerName_underscored {name : String} (h : lowerName s = name ++ "_") :
    name = "" ∨ name ∈ reservedNames := by
  rcases lowerName_cases s with ⟨hs, -⟩ | ⟨hs, hr⟩
  · have hunder : s = "_" := by
      apply eq_underscore_of_mem
      rw [← hs, h, String.toList_append]
      exact List.mem_append_right _ List.mem_cons_self
    have hself : name ++ "_" = "" ++ "_" := by
      rw [← h, hunder]
      rfl
    exact .inl ((String.append_left_inj "_").1 hself)
  · exact .inr ((String.append_left_inj "_").1 (hs.symm.trans h) ▸ hr)

/-- The underscore that keeps a name apart from the reserved ones does not make it meet others. -/
theorem lowerName_eq_iff (hs : isIdentifier s = true) (ht : isIdentifier t = true) :
    lowerName s = lowerName t ↔ s = t ∨ Meet s t := by
  rw [← lowerCamel_eq_iff hs ht]
  -- a name that is suffixed has an underscore, which no other has but the name that is one
  have apart {a b : String} (ha : lowerCamel a ∈ reservedNames) : lowerCamel a ++ "_" ≠ lowerCamel b := by
    intro h
    have hb : b = "_" := eq_underscore_of_mem (by rw [← h]; simp)
    subst hb
    have hempty : lowerCamel a = "" := (String.append_left_inj "_").1 (h : _ = "" ++ "_")
    rw [hempty] at ha
    exact absurd ha (by decide)
  rcases lowerName_cases s with ⟨hs', hrs⟩ | ⟨hs', hrs⟩
  · rcases lowerName_cases t with ⟨ht', hrt⟩ | ⟨ht', hrt⟩
    · rw [hs', ht']
    · rw [hs', ht']
      refine iff_of_false (apart hrt).symm fun h => hrs (h ▸ hrt)
  · rcases lowerName_cases t with ⟨ht', hrt⟩ | ⟨ht', hrt⟩
    · rw [hs', ht']
      exact iff_of_false (apart hrs) fun h => hrt (h ▸ hrs)
    · rw [hs', ht', String.append_left_inj]

theorem lowerName_eq_empty_iff (hs : isIdentifier s = true) :
    lowerName s = "" ↔ (∀ x ∈ s.toList, x = '_') ∧ s ≠ "_" := by
  rw [← lowerCamel_eq_empty_iff hs]
  rcases lowerName_cases s with ⟨h, -⟩ | ⟨h, hr⟩
  · rw [h]
  · rw [h]
    refine iff_of_false (by simp) fun hempty => ?_
    rw [hempty] at hr
    exact absurd hr (by decide)

end

end Bindery
