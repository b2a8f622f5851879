import Bindery.Native.Fundamental
import Mathlib.Data.List.Induction
import Mathlib.Data.List.Perm.Basic

/-!
# Spellings of fundamental types

A text falls apart into words at its blanks, however many there are. A spelling is read if all of its
words are known and at most one of them names a base. What it denotes then depends on which words there
are, and on how often `long` is one of them, but not on their order, and where no word names a base it
is as if `int` did.
-/

namespace Bindery

/-! ## Words between blanks -/

structure Unbroken (word : String) : Prop where
  nonempty : word ≠ ""
  letters : ∀ c ∈ word.toList, isBlank c = false

/-- Texts made of the given words, with blanks between any two of them and perhaps around them. -/
inductive Spaced : List String → List Char → Prop
  | nil : Spaced [] []
  | blank {words c cs} (hc : isBlank c = true) (h : Spaced words cs) : Spaced words (c :: cs)
  | last {word} (hw : Unbroken word) : Spaced [word] word.toList
  | word {word words c cs} (hw : Unbroken word) (hc : isBlank c = true) (h : Spaced words cs) :
    Spaced (word :: words) (word.toList ++ c :: cs)

theorem wordsAfter_solid {letters : List Char} (h : ∀ c ∈ letters, isBlank c = false) (word cs : List Char) :
    wordsAfter word (letters ++ cs) = wordsAfter (letters.reverse ++ word) cs := by
  induction letters generalizing word with
  | nil => rfl
  | cons c letters ih =>
    have hc := h c List.mem_cons_self
    have hrest := ih (fun c hc => h c (List.mem_cons_of_mem _ hc)) (c :: word)
    simpa [wordsAfter, hc] using hrest

theorem Unbroken.wordsAfter {word : String} (hw : Unbroken word) (cs : List Char) :
    wordsAfter [] (word.toList ++ cs) = Bindery.wordsAfter word.toList.reverse cs := by
  rw [wordsAfter_solid hw.letters, List.append_nil]

theorem unbroken_reverse {word : List Char} (hne : word ≠ []) (h : ∀ c ∈ word, isBlank c = false) :
    Unbroken (String.ofList word.reverse) := by
  refine ⟨fun he => hne ?_, by simpa using h⟩
  simpa using congrArg String.toList he

theorem Spaced.wordsAfter {ws : List String} {cs : List Char} (h : Spaced ws cs) : wordsAfter [] cs = ws := by
  induction h with
  | nil => rfl
  | blank hc _ ih => simpa [Bindery.wordsAfter, hc] using ih
  | last hw =>
    have hletters := hw.wordsAfter []
    rw [List.append_nil] at hletters
    simp [hletters, Bindery.wordsAfter, hw.nonempty]
  | word hw hc _ ih =>
    rw [hw.wordsAfter]
    simp [Bindery.wordsAfter, hc, hw.nonempty, ih]

/-- A text consists of the words that are found in it, and of the letters of the one that is unfinished. -/
theorem spaced_wordsAfter {word : List Char} (hw : ∀ c ∈ word, isBlank c = false) (cs : List Char) :
    Spaced (wordsAfter word cs) (word.reverse ++ cs) := by
  induction cs generalizing word with
  | nil =>
    by_cases hne : word = []
    · subst hne
      exact .nil
    · have hlast := Spaced.last (unbroken_reverse hne hw)
      simpa [wordsAfter, hne] using hlast
  | cons c cs ih =>
    cases hc : isBlank c with
    | true =>
      have hrest : Spaced (wordsAfter [] cs) ([].reverse ++ cs) := ih (List.forall_mem_nil _)
      by_cases hne : word = []
      · subst hne
        simpa [wordsAfter, hc] using Spaced.blank hc hrest
      · have hword := Spaced.word (unbroken_reverse hne hw) hc hrest
        simpa [wordsAfter, hc, hne] using hword
    | false =>
      have hrest := ih (List.forall_mem_cons.2 ⟨hc, hw⟩)
      simpa [wordsAfter, hc] using hrest

theorem words_eq_iff {ws : List String} {s : String} : words s = ws ↔ Spaced ws s.toList := by
  constructor
  · rintro rfl
    exact spaced_wordsAfter (List.forall_mem_nil _) s.toList
  · exact Spaced.wordsAfter

/-! ## What a list of words denotes -/

namespace Native.Fundamental

def modifiers : List String := ["unsigned", "signed", "long", "short", "complex", "_Complex"]

def baseWords : List String := ["int", "char", "float", "double", "void", "_Bool", "bool", "__int128"]

def bases (words : List String) : List Base := words.filterMap Base.ofWord?

structure Readable (words : List String) : Prop where
  known : ∀ w ∈ words, w ∈ modifiers ∨ w ∈ baseWords
  base : (bases words).length ≤ 1

def Spelling.ofWords (words : List String) : Spelling where
  unsigned := words.contains "unsigned"
  signed := words.contains "signed"
  short := words.contains "short"
  complex := words.contains "complex" || words.contains "_Complex"
  longs := words.count "long"
  base := (bases words).head?

theorem Base.ofWord?_isSome_iff {word : String} : (Base.ofWord? word).isSome = true ↔ word ∈ baseWords := by
  constructor
  · intro h
    unfold Base.ofWord? at h
    split at h <;> simp_all [baseWords]
  · intro h
    revert word
    decide

theorem bases_eq_nil_iff {words : List String} : bases words = [] ↔ ∀ w ∈ words, w ∉ baseWords := by
  simp only [bases, List.filterMap_eq_nil_iff, ← Base.ofWord?_isSome_iff, Bool.not_eq_true,
    Option.isSome_eq_false_iff, Option.isNone_iff_eq_none]

theorem Base.ofWord?_of_modifier {word : String} (h : word ∈ modifiers) : Base.ofWord? word = none := by
  revert word
  decide

theorem bases_concat (words : List String) (word : String) :
    bases (words ++ [word]) = bases words ++ (Base.ofWord? word).toList := by
  unfold bases
  rw [List.filterMap_append]
  cases h : Base.ofWord? word <;> simp [h]

theorem readable_concat {words : List String} {word : String} : Readable (words ++ [word]) ↔
    Readable words ∧ (word ∈ modifiers ∨ word ∈ baseWords ∧ bases words = []) := by
  constructor
  · intro h
    obtain ⟨hknown, hbase⟩ := h
    rw [List.forall_mem_append, List.forall_mem_singleton] at hknown
    rw [bases_concat, List.length_append] at hbase
    refine ⟨⟨hknown.1, by omega⟩, hknown.2.imp_right fun hw => ⟨hw, ?_⟩⟩
    obtain ⟨b, hb⟩ := Option.isSome_iff_exists.1 (Base.ofWord?_isSome_iff.2 hw)
    rw [hb, Option.toList_some, List.length_singleton] at hbase
    exact List.eq_nil_of_length_eq_zero (by omega)
  · intro h
    obtain ⟨hwords, hword⟩ := h
    constructor
    · rw [List.forall_mem_append, List.forall_mem_singleton]
      exact ⟨hwords.known, hword.imp_right And.left⟩
    · rw [bases_concat]
      rcases hword with hword | ⟨-, hnone⟩
      · simpa [Base.ofWord?_of_modifier hword] using hwords.base
      · rw [hnone, List.nil_append]
        exact Option.length_toList_le

theorem ofWords_concat_base {words : List String} {word : String} {base : Base}
    (hb : Base.ofWord? word = some base) (hnone : bases words = []) :
    Spelling.ofWords (words ++ [word]) = { Spelling.ofWords words with base := some base } := by
  have hword : word ∉ modifiers := fun h => by simp [Base.ofWord?_of_modifier h] at hb
  simp only [modifiers, List.mem_cons, List.not_mem_nil, or_false, not_or] at hword
  simp [Spelling.ofWords, bases_concat, hb, hnone, List.count_append, hword, Ne.symm]

theorem addWord?_ofWords {words : List String} {word : String} {s : Spelling} :
    (Spelling.ofWords words).addWord? word = some s ↔
      (word ∈ modifiers ∨ word ∈ baseWords ∧ bases words = []) ∧ s = Spelling.ofWords (words ++ [word]) := by
  unfold Spelling.addWord?
  split
  case h_7 =>
    have hmodifier : word ∉ modifiers := by
      simp only [modifiers, List.mem_cons, List.not_mem_nil, or_false, not_or]
      refine ⟨?_, ?_, ?_, ?_, ?_, ?_⟩ <;> assumption
    split
    · rename_i base hnone hb
      have hword : word ∈ baseWords := Base.ofWord?_isSome_iff.1 (by rw [hb]; rfl)
      have hnil : bases words = [] := List.head?_eq_none_iff.1 hnone
      rw [ofWords_concat_base hb hnil, Option.some_inj, eq_comm]
      simp [hword, hnil]
    · rename_i hno
      refine ⟨nofun, fun h => ?_⟩
      obtain ⟨hword | ⟨hword, hnil⟩, -⟩ := h
      · exact absurd hword hmodifier
      · obtain ⟨base, hb⟩ := Option.isSome_iff_exists.1 (Base.ofWord?_isSome_iff.2 hword)
        exact absurd hb (hno base (by rw [Spelling.ofWords, hnil]; rfl))
  all_goals simp [modifiers, Spelling.ofWords, bases, Base.ofWord?, eq_comm]

/-- The words of a spelling are read one after the other, but what is made of them shows no order. -/
theorem foldlM_addWord? {words : List String} {s : Spelling} :
    words.foldlM Spelling.addWord? {} = some s ↔ Readable words ∧ s = Spelling.ofWords words := by
  induction words using List.reverseRecOn generalizing s with
  | nil =>
    have hnil : Readable [] := ⟨by simp, by simp [bases]⟩
    simp [hnil, Spelling.ofWords, bases, eq_comm]
  | append_singleton words word ih =>
    rw [List.foldlM_append, readable_concat]
    constructor
    · intro h
      obtain ⟨s', hs', hs⟩ := Option.bind_eq_some_iff.1 h
      obtain ⟨hwords, rfl⟩ := ih.1 hs'
      obtain ⟨hword, hs⟩ := addWord?_ofWords.1 (by simpa using hs)
      exact ⟨⟨hwords, hword⟩, hs⟩
    · intro h
      obtain ⟨⟨hwords, hword⟩, hs⟩ := h
      refine Option.bind_eq_some_iff.2 ⟨_, ih.2 ⟨hwords, rfl⟩, ?_⟩
      simpa using addWord?_ofWords.2 ⟨hword, hs⟩

theorem ofWords?_eq_some {words : List String} {f : Fundamental} :
    ofWords? words = some f ↔ Readable words ∧ (Spelling.ofWords words).denoted = f := by
  unfold ofWords?
  simp [foldlM_addWord?]

/-! ## Order and implied words -/

theorem Readable.perm {xs ys : List String} (h : Readable xs) (hp : xs.Perm ys) : Readable ys where
  known w hw := h.known w (hp.mem_iff.2 hw)
  base := (hp.filterMap Base.ofWord?).length_eq ▸ h.base

theorem Readable.ofWords_perm {xs ys : List String} (h : Readable xs) (hp : xs.Perm ys) :
    Spelling.ofWords xs = Spelling.ofWords ys := by
  -- with at most one base there is nothing to put in another order
  have hbases : (bases xs).Perm (bases ys) := hp.filterMap Base.ofWord?
  have hsame : bases xs = bases ys := by
    have hone := h.base
    cases hx : bases xs with
    | nil =>
      rw [hx] at hbases
      exact hbases.nil_eq
    | cons b rest =>
      rw [hx, List.length_cons] at hone
      obtain rfl : rest = [] := List.eq_nil_of_length_eq_zero (by omega)
      rw [hx] at hbases
      exact (List.perm_singleton.1 hbases.symm).symm
  simp [Spelling.ofWords, hp.mem_iff, hp.count_eq, hsame]

theorem ofWords?_perm {xs ys : List String} (hp : xs.Perm ys) : ofWords? xs = ofWords? ys := by
  have half {xs ys : List String} (hp : xs.Perm ys) {f : Fundamental} (h : ofWords? xs = some f) :
      ofWords? ys = some f := by
    obtain ⟨hr, rfl⟩ := ofWords?_eq_some.1 h
    exact ofWords?_eq_some.2 ⟨hr.perm hp, by rw [hr.ofWords_perm hp]⟩
  exact Option.ext fun f => ⟨half hp, half hp.symm⟩

theorem denoted_int {s : Spelling} (h : s.base = none) :
    { s with base := some .int }.denoted = s.denoted := by
  simp [Spelling.denoted, h]

theorem ofWords?_int {words : List String} (h : bases words = []) :
    ofWords? (words ++ ["int"]) = ofWords? words := by
  have hnone : (Spelling.ofWords words).base = none := by simp [Spelling.ofWords, h]
  refine Option.ext fun f => ?_
  rw [ofWords?_eq_some, ofWords?_eq_some, readable_concat, ofWords_concat_base rfl h, denoted_int hnone]
  simp [baseWords, h]

/-- Neither the order of the words of a spelling matters, nor how many blanks there are between them, and
`int` may be left out. A spelling is refused for an unknown word or a second base and for nothing else. -/
theorem spellings_interchangeable :
    (∀ {xs ys : List String} {s t : String}, Spaced xs s.toList → Spaced ys t.toList → xs.Perm ys →
      ofName? s = ofName? t) ∧
    (∀ {before after : List String} {s t : String}, Spaced (before ++ after) s.toList →
      Spaced (before ++ "int" :: after) t.toList → (∀ w ∈ before ++ after, w ∉ baseWords) →
      ofName? s = ofName? t) ∧
    ∀ {ws : List String} {s : String}, Spaced ws s.toList → ((ofName? s).isSome = true ↔ Readable ws) := by
  refine ⟨fun hs ht hp => ?_, fun {before after s t} hs ht hnone => ?_, fun {ws s} hs => ?_⟩
  · unfold ofName?
    rw [words_eq_iff.2 hs, words_eq_iff.2 ht]
    exact ofWords?_perm hp
  · unfold ofName?
    rw [words_eq_iff.2 hs, words_eq_iff.2 ht]
    have hlast : (before ++ "int" :: after).Perm (before ++ after ++ ["int"]) :=
      List.perm_middle.trans (List.perm_append_singleton _ _).symm
    rw [ofWords?_perm hlast, ofWords?_int (bases_eq_nil_iff.2 hnone)]
  · unfold ofName?
    rw [words_eq_iff.2 hs, Option.isSome_iff_exists]
    simp [ofWords?_eq_some]

/-- Blanks of all kinds, another order, and an `int` that is left out. -/
theorem unsigned_long_spellings :
    Spaced ["long", "unsigned", "int"] "long unsigned int".toList ∧
      Spaced ["int", "unsigned", "long"] "\tint\u2003unsigned \u3000long\n".toList ∧
      Spaced (["unsigned"] ++ ["long"]) "unsigned long".toList ∧
      Spaced (["unsigned"] ++ "int" :: ["long"]) "unsigned int  long".toList ∧
      ofName? "long unsigned int" = ofName? "\tint\u2003unsigned \u3000long\n" ∧
      ofName? "unsigned long" = ofName? "unsigned int  long" ∧ (ofName? "unsigned long").isSome = true := by
  have hlong : Spaced ["long", "unsigned", "int"] "long unsigned int".toList := words_eq_iff.1 (by decide +kernel)
  have hint : Spaced ["int", "unsigned", "long"] "\tint\u2003unsigned \u3000long\n".toList :=
    words_eq_iff.1 (by decide +kernel)
  have hshort : Spaced (["unsigned"] ++ ["long"]) "unsigned long".toList := words_eq_iff.1 (by decide +kernel)
  have hmiddle : Spaced (["unsigned"] ++ "int" :: ["long"]) "unsigned int  long".toList :=
    words_eq_iff.1 (by decide +kernel)
  obtain ⟨horder, himplied, hread⟩ := spellings_interchangeable
  exact ⟨hlong, hint, hshort, hmiddle, horder hlong hint (by decide), himplied hshort hmiddle (by decide),
    (hread hshort).2 ⟨by decide, by decide⟩⟩

end Native.Fundamental

end Bindery
