import Bindery.Render.File

/-!
# Qualified names in a text

A text uses a package if it has the name of the package with a point after it and no part of a word
before it. Which names a text has before its points is found in one pass, and a text that is put together
from others has those of its parts, as long as no word and no point after a word goes from one part into
the next.
-/

namespace Bindery

/-- Whether no part of a word is at the end. -/
def EndsApart (cs : List Char) : Prop := ∀ c ∈ cs.getLast?, isWord c = false

def QualifiedBy (q s : String) : Prop :=
  ∃ before after, s.toList = before ++ q.toList ++ '.' :: after ∧ EndsApart before

/-- Whether a text can be the name of a package that is used in other texts than the fixed ones. -/
structure IsPackageName (q : String) : Prop where
  ne_empty : q ≠ ""
  word : ∀ c ∈ q.toList, isWord c = true
  ne_native : q ≠ "C"
  ne_unsafe : q ≠ "unsafe"

/-! ## The pass over a text -/

/-- The words before the points of a text; `word` is what of a word comes before it. -/
def qualifiersAfter (word : List Char) : List Char → List (List Char)
  | [] => []
  | c :: rest =>
    if isWord c then qualifiersAfter (word ++ [c]) rest
    else if c = '.' then word :: qualifiersAfter [] rest
    else qualifiersAfter [] rest

def qualifiers (s : String) : List (List Char) := qualifiersAfter [] s.toList

theorem endsApart_append {a b : List Char} {c : Char} (hc : isWord c = false) :
    EndsApart (a ++ c :: b) ↔ EndsApart b := by
  unfold EndsApart
  rcases List.eq_nil_or_concat b with rfl | ⟨l, x, rfl⟩
  · simp [hc]
  · have happend : a ++ c :: l.concat x = (a ++ c :: l).concat x := by simp
    rw [happend]
    simp only [List.concat_eq_append, List.getLast?_concat, Option.mem_some_iff, forall_eq']

section
variable {q word cs : List Char} (hq : ∀ c ∈ q, isWord c = true)
include hq

/-- Where a character that is no part of a word stands with respect to a qualified name. -/
theorem qualified_of_append {a b before after : List Char} {c : Char} (hc : isWord c = false)
    (h : a ++ c :: b = before ++ q ++ '.' :: after) :
    (∃ rest, a = before ++ q ++ '.' :: rest) ∨ (c = '.' ∧ a = before ++ q) ∨
      ∃ rest, before = a ++ c :: rest ∧ b = rest ++ q ++ '.' :: after := by
  have notMem : c ∉ q := fun hm => by simp [hq c hm] at hc
  rcases List.append_eq_append_iff.1 h with ⟨l, hl, htail⟩ | ⟨l, rfl, htail⟩
  · cases l with
    | nil =>
      obtain ⟨rfl, -⟩ := List.cons.inj htail
      exact .inr (.inl ⟨rfl, by simpa using hl.symm⟩)
    | cons d l =>
      obtain ⟨rfl, rfl⟩ := List.cons.inj htail
      rcases List.append_eq_append_iff.1 hl with ⟨m, rfl, hm⟩ | ⟨m, rfl, hm⟩
      · exact absurd (hm ▸ by simp) notMem
      · cases m with
        | nil => exact absurd (show c ∈ q by rw [← List.nil_append q, ← hm]; simp) notMem
        | cons d m =>
          obtain ⟨rfl, rfl⟩ := List.cons.inj hm
          exact .inr (.inr ⟨m, rfl, rfl⟩)
  · cases l with
    | nil =>
      obtain ⟨rfl, -⟩ := List.cons.inj htail
      exact .inr (.inl ⟨rfl, by simp⟩)
    | cons d l =>
      obtain ⟨rfl, -⟩ := List.cons.inj htail
      exact .inl ⟨l, rfl⟩

omit hq in
theorem ne_of_word {before after : List Char} (hword : ∀ c ∈ word, isWord c = true) :
    word ≠ before ++ q ++ '.' :: after := by
  intro h
  have hpoint := hword '.' (h ▸ by simp)
  revert hpoint
  decide

/-- The names that are qualified are the words before the points. -/
theorem mem_qualifiersAfter (hword : ∀ c ∈ word, isWord c = true) : q ∈ qualifiersAfter word cs ↔
    ∃ before after, word ++ cs = before ++ q ++ '.' :: after ∧ EndsApart before := by
  induction cs generalizing word with
  | nil =>
    refine iff_of_false (by simp [qualifiersAfter]) fun h => ?_
    obtain ⟨before, after, h, -⟩ := h
    exact ne_of_word hword ((List.append_nil word).symm.trans h)
  | cons c rest ih =>
    rw [qualifiersAfter]
    split
    · rename_i hc
      rw [ih fun x hx => (List.mem_append.1 hx).elim (hword x) fun hx => List.mem_singleton.1 hx ▸ hc]
      simp only [List.append_assoc, List.singleton_append]
    · rename_i hc
      rw [Bool.not_eq_true] at hc
      have hrest : q ∈ qualifiersAfter [] rest ↔
          ∃ before after, rest = before ++ q ++ '.' :: after ∧ EndsApart before := ih (by simp)
      have hsplit : (∃ before after, word ++ c :: rest = before ++ q ++ '.' :: after ∧ EndsApart before) ↔
          (c = '.' ∧ q = word) ∨ q ∈ qualifiersAfter [] rest := by
        rw [hrest]
        constructor
        · intro h
          obtain ⟨before, after, h, hends⟩ := h
          rcases qualified_of_append hq hc h with ⟨after, hb⟩ | ⟨rfl, hb⟩ | ⟨before, rfl, hb⟩
          · exact absurd hb (ne_of_word hword)
          · -- what is before the name would be a part of the word
            rcases List.eq_nil_or_concat before with rfl | ⟨l, x, rfl⟩
            · exact .inl ⟨rfl, hb.symm⟩
            · have hx := hword x (hb ▸ by simp)
              simp [hends x (by simp)] at hx
          · exact .inr ⟨before, after, hb, (endsApart_append hc).1 hends⟩
        · intro h
          rcases h with ⟨rfl, rfl⟩ | ⟨before, after, rfl, hends⟩
          · exact ⟨[], rest, rfl, by simp [EndsApart]⟩
          · exact ⟨word ++ c :: before, after, by simp, (endsApart_append hc).2 hends⟩
      rw [hsplit]
      split
      · rename_i hpoint
        rw [List.mem_cons, and_iff_right hpoint]
      · rename_i hpoint
        simp [hpoint]

end

theorem qualifiersAfter_append_cons {c : Char} (hc : isWord c = false) (word a b : List Char) :
    qualifiersAfter word (a ++ c :: b) = qualifiersAfter word (a ++ [c]) ++ qualifiersAfter [] b := by
  induction a generalizing word with
  | nil =>
    simp only [List.nil_append, qualifiersAfter, hc, Bool.false_eq_true, if_false]
    split <;> rfl
  | cons x a ih =>
    simp only [List.cons_append, qualifiersAfter, ih]
    split
    · rfl
    · split <;> rfl

theorem qualifiersAfter_concat {c : Char} (hc : isWord c = false) (hpoint : c ≠ '.') (word a : List Char) :
    qualifiersAfter word (a ++ [c]) = qualifiersAfter word a := by
  induction a generalizing word with
  | nil => simp [qualifiersAfter, hc, hpoint]
  | cons x a ih =>
    simp only [List.cons_append, qualifiersAfter, ih]

/-! ## Texts in parts -/

def StartsApart (cs : List Char) : Prop := ∀ c ∈ cs.head?, isWord c = false ∧ c ≠ '.'

theorem qualifiers_append {a b : String} (h : EndsApart a.toList ∨ StartsApart b.toList) :
    qualifiers (a ++ b) = qualifiers a ++ qualifiers b := by
  unfold qualifiers
  rw [String.toList_append]
  rcases h with h | h
  · rcases List.eq_nil_or_concat a.toList with ha | ⟨l, c, ha⟩
    · rw [ha]
      rfl
    · have hc := h c (by simp [ha])
      rw [ha, List.concat_eq_append, List.append_assoc, List.singleton_append, qualifiersAfter_append_cons hc]
  · cases hb : b.toList with
    | nil => simp [qualifiersAfter]
    | cons c cs =>
      obtain ⟨hc, hpoint⟩ := h c (by simp [hb])
      have hhead : qualifiersAfter [] (c :: cs) = qualifiersAfter [] cs := by simp [qualifiersAfter, hc, hpoint]
      rw [qualifiersAfter_append_cons hc, qualifiersAfter_concat hc hpoint, hhead]

instance (cs : List Char) : Decidable (EndsApart cs) := Option.decidableForallMem cs.getLast?

instance (cs : List Char) : Decidable (StartsApart cs) := Option.decidableForallMem cs.head?

/-- Whether no names but those of the native side and of the library for raw memory are qualified. -/
def IsFixed (s : String) : Prop := ∀ w ∈ qualifiers s, w = "C".toList ∨ w = "unsafe".toList

instance (s : String) : Decidable (IsFixed s) := inferInstanceAs (Decidable (∀ w ∈ qualifiers s, _))

namespace IsPackageName

variable {q a b s : String} (hq : IsPackageName q)
include hq

theorem qualifiedBy_iff : QualifiedBy q s ↔ q.toList ∈ qualifiers s := by
  rw [qualifiers, mem_qualifiersAfter hq.word (by simp)]
  rfl

theorem not_qualifiedBy (h : IsFixed s) : ¬ QualifiedBy q s := by
  rw [hq.qualifiedBy_iff]
  intro hm
  rcases h _ hm with hC | hunsafe
  · exact hq.ne_native (String.toList_inj.1 hC)
  · exact hq.ne_unsafe (String.toList_inj.1 hunsafe)

theorem qualifiedBy_append (h : EndsApart a.toList ∨ StartsApart b.toList) :
    QualifiedBy q (a ++ b) ↔ QualifiedBy q a ∨ QualifiedBy q b := by
  simp only [hq.qualifiedBy_iff, qualifiers_append h, List.mem_append]

/-- A fixed text and what comes after it. -/
theorem qualifiedBy_after (ha : EndsApart a.toList) (hfixed : IsFixed a) :
    QualifiedBy q (a ++ b) ↔ QualifiedBy q b := by
  rw [hq.qualifiedBy_append (.inl ha), or_iff_right (hq.not_qualifiedBy hfixed)]

/-- A fixed text and what comes before it. -/
theorem qualifiedBy_before (hb : StartsApart b.toList) (hfixed : IsFixed b) :
    QualifiedBy q (a ++ b) ↔ QualifiedBy q a := by
  rw [hq.qualifiedBy_append (.inr hb), or_iff_left (hq.not_qualifiedBy hfixed)]

/-- A fixed text between two others. -/
theorem qualifiedBy_between {fixed : String} (hne : fixed ≠ "") (hstart : StartsApart fixed.toList)
    (hend : EndsApart fixed.toList) (hfixed : IsFixed fixed) :
    QualifiedBy q (a ++ (fixed ++ b)) ↔ QualifiedBy q a ∨ QualifiedBy q b := by
  have hstart' : StartsApart (fixed ++ b).toList := by
    obtain ⟨c, cs, hl⟩ := List.exists_cons_of_ne_nil (mt String.toList_eq_nil_iff.1 hne)
    rw [StartsApart, String.toList_append, hl]
    rwa [StartsApart, hl] at hstart
  rw [hq.qualifiedBy_append (.inr hstart'), hq.qualifiedBy_after hend hfixed]

theorem qualifiedBy_unlines {lines : List String} :
    QualifiedBy q (unlines lines) ↔ ∃ l ∈ lines, QualifiedBy q l := by
  unfold unlines
  induction lines with
  | nil => simpa using hq.not_qualifiedBy (s := "") (by decide)
  | cons l lines ih =>
    rw [List.map_cons, String.join_cons, hq.qualifiedBy_append (.inl (by simp [EndsApart, isWord, isAsciiWord])),
      hq.qualifiedBy_before (by decide) (by decide), ih]
    simp only [List.mem_cons, exists_eq_or_imp]

theorem qualifiedBy_commaSeparated {items : List String} :
    QualifiedBy q (commaSeparated items) ↔ ∃ s ∈ items, QualifiedBy q s := by
  unfold commaSeparated
  induction items with
  | nil => simpa using hq.not_qualifiedBy (s := "") (by decide)
  | cons s items ih =>
    cases items with
    | nil => simp
    | cons t items =>
      rw [String.intercalate_cons_cons, String.append_assoc,
        hq.qualifiedBy_between (by decide) (by decide) (by decide) (by decide), ih]
      simp only [List.mem_cons, exists_eq_or_imp]

end IsPackageName

/-! ## The search for a package -/

theorem getLast?_cons_or (c : Char) (cs : List Char) (o : Option Char) :
    (c :: cs).getLast?.or o = cs.getLast?.or (some c) := by
  rw [List.getLast?_cons]
  cases cs.getLast? <;> rfl

theorem usesName_iff {q : List Char} (hne : q ≠ []) (hword : ∀ c ∈ q, isWord c = true) {preceding : Option Char}
    {cs : List Char} : usesName q preceding cs = true ↔ ∃ before after, cs = before ++ q ++ '.' :: after ∧
      ∀ c ∈ before.getLast?.or preceding, isWord c = false := by
  induction cs generalizing preceding with
  | nil => simp [usesName]
  | cons c cs ih =>
    rw [usesName, Bool.or_eq_true, ih, Bool.and_eq_true, Option.isSome_iff_exists]
    simp only [dropStart?_eq_some_iff]
    constructor
    · intro h
      rcases h with ⟨⟨rest, hrest⟩, hboundary⟩ | ⟨before, after, rfl, hends⟩
      · refine ⟨[], rest, by simpa using hrest, fun x hx => ?_⟩
        obtain ⟨d, q, rfl⟩ := List.exists_cons_of_ne_nil hne
        obtain ⟨rfl, -⟩ := List.cons.inj hrest
        have hx : preceding = some x := hx
        simpa [isWordBoundary, hx, hword c (by simp)] using hboundary
      · exact ⟨c :: before, after, rfl, (getLast?_cons_or c before preceding).symm ▸ hends⟩
    · intro h
      obtain ⟨before, after, he, hends⟩ := h
      cases before with
      | nil =>
        refine .inl ⟨⟨after, by simpa using he⟩, ?_⟩
        obtain ⟨d, q, rfl⟩ := List.exists_cons_of_ne_nil hne
        obtain ⟨rfl, -⟩ := List.cons.inj he
        have hpreceding : preceding.any isWord = false := by
          cases preceding with
          | none => rfl
          | some x => exact hends x rfl
        simp [isWordBoundary, hpreceding, hword c (by simp)]
      | cons d before =>
        obtain ⟨rfl, rfl⟩ := List.cons.inj he
        exact .inr ⟨before, after, rfl, getLast?_cons_or c before preceding ▸ hends⟩

theorem IsPackageName.usesPackage_iff {q body : String} (hq : IsPackageName q) :
    usesPackage body q = true ↔ QualifiedBy q body := by
  unfold usesPackage
  rw [usesName_iff (mt String.toList_eq_nil_iff.1 hq.ne_empty) hq.word]
  simp [QualifiedBy, EndsApart]

end Bindery
