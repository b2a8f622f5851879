import Bindery.Json.Printer
import Bindery.Json.Reader
import Mathlib.Data.Nat.Digits.Defs

/-!
# Values printed and read back

The compact form of a value is read as that value. What is read of it does not depend on what comes
after, as long as that does not go on with a number.
-/

namespace Bindery.Json

/-! ## Numbers -/

/-- Whether a number that stands before these characters ends there. -/
def EndsNumber (cs : List Char) : Prop := ∀ c ∈ cs.head?, c.isDigit = false ∧ c ≠ '.' ∧ c ≠ 'e' ∧ c ≠ 'E'

theorem digits_append {ds rest : List Char} (hds : ∀ c ∈ ds, c.isDigit = true) (hrest : EndsNumber rest) :
    digits (ds ++ rest) = (ds, rest) := by
  induction ds with
  | nil =>
    cases rest with
    | nil => rfl
    | cons c rest =>
      obtain ⟨hc, -⟩ := hrest c rfl
      simp [digits, hc]
  | cons d ds ih =>
    have hd := hds d List.mem_cons_self
    have hds := ih fun c hc => hds c (List.mem_cons_of_mem _ hc)
    obtain ⟨htake, hdrop⟩ := Prod.ext_iff.1 hds
    have htake : (ds ++ rest).takeWhile Char.isDigit = ds := htake
    have hdrop : (ds ++ rest).dropWhile Char.isDigit = rest := hdrop
    simp [digits, hd, htake, hdrop]

theorem head_toDigits {n : Nat} (hn : 0 < n) : (Nat.toDigits 10 n).head? ≠ some '0' := by
  induction n using Nat.strongRecOn with
  | ind n ih =>
    rw [Nat.toDigits_eq_if (by decide)]
    split
    · rename_i h
      have hdigit : ∀ m < 10, 0 < m → [m.digitChar].head? ≠ some '0' := by decide
      exact hdigit n h hn
    · rename_i h
      have hrest := ih (n / 10) (by omega) (by omega)
      rwa [List.head?_append, Option.or_of_isSome (by simp [Nat.toDigits_ne_nil])]

theorem fraction_none {rest : List Char} (h : EndsNumber rest) : fraction? rest = some ([], rest) := by
  cases rest with
  | nil => rfl
  | cons c rest =>
    obtain ⟨-, hdot, -⟩ := h c rfl
    unfold fraction?
    split
    · rename_i he
      exact absurd (List.cons.inj he).1 hdot
    · rfl

theorem exponent_none {rest : List Char} (h : EndsNumber rest) : exponent? rest = some ([], rest) := by
  cases rest with
  | nil => rfl
  | cons c rest =>
    obtain ⟨-, -, hlower, hupper⟩ := h c rfl
    simp [exponent?, hlower, hupper]

/-- The digits that a whole number is printed with are read as this number. -/
theorem whole_digits (n : Nat) {rest : List Char} (h : EndsNumber rest) :
    digits (Nat.toDigits 10 n ++ rest) = (Nat.toDigits 10 n, rest) ∧ natOfDigits (Nat.toDigits 10 n) = n ∧
      ((Nat.toDigits 10 n).isEmpty ||
        ((Nat.toDigits 10 n).head? == some '0' && (Nat.toDigits 10 n).length > 1)) = false := by
  refine ⟨digits_append (fun c hc => ?_) h, Nat.ofDigitChars_toDigits (by decide) (by decide), ?_⟩
  · exact Nat.isDigit_of_mem_toDigits (by decide) (by decide) hc
  · rcases Nat.eq_zero_or_pos n with rfl | hpos
    · decide
    · simp [Nat.toDigits_ne_nil, head_toDigits hpos]

theorem toDigits_cons (n : Nat) : ∃ d ds, Nat.toDigits 10 n = d :: ds ∧ d.isDigit = true := by
  obtain ⟨d, ds, hd⟩ := List.exists_cons_of_ne_nil (Nat.toDigits_ne_nil (n := n) (b := 10))
  exact ⟨d, ds, hd, Nat.isDigit_of_mem_toDigits (by decide) (by decide) (hd ▸ List.mem_cons_self)⟩

theorem number_natural (n : Nat) {rest : List Char} (h : EndsNumber rest) :
    number? (Nat.toDigits 10 n ++ rest) = some (.whole n, rest) := by
  obtain ⟨hdigits, hvalue, hzero⟩ := whole_digits n h
  unfold number?
  split
  rename_i minus unsigned hsign
  split at hsign
  · rename_i he
    obtain ⟨d, ds, hd, hdigit⟩ := toDigits_cons n
    rw [hd] at he
    cases he
    exact absurd hdigit (by decide)
  · cases hsign
    simp [hdigits, hvalue, fraction_none h, exponent_none h, hzero]

theorem number_negative {n : Nat} (hn : n ≠ 0) {rest : List Char} (h : EndsNumber rest) :
    number? ('-' :: (Nat.toDigits 10 n ++ rest)) = some (.whole (-n), rest) := by
  obtain ⟨hdigits, hvalue, hzero⟩ := whole_digits n h
  simp [number?, hdigits, hvalue, fraction_none h, exponent_none h, hzero, hn]

theorem number_toString (i : Int) {rest : List Char} (h : EndsNumber rest) :
    number? ((toString i).toList ++ rest) = some (.whole i, rest) := by
  rw [Int.toString_eq_repr, Int.repr_eq_if]
  split
  · rename_i hi
    rw [Nat.repr_eq_ofList_toDigits, String.toList_ofList, number_natural _ h, Int.toNat_of_nonneg hi]
  · rename_i hi
    have hnumber := number_negative (n := (-i).toNat) (by omega) h
    rw [Int.toNat_of_nonneg (by omega), Int.neg_neg] at hnumber
    rwa [Nat.repr_eq_ofList_toDigits, String.toList_append, List.append_assoc, String.toList_ofList,
      String.toList_ofList]

/-! ## Texts -/

theorem hexDigit_hexDigit : ∀ d < 16, hexDigit? (hexDigit d) = some d := by decide

theorem unicodeEscape_control {n : Nat} (hn : n < 0x20) (rest : List Char) :
    unicodeEscape? ('0' :: '0' :: hexDigit (n / 16) :: hexDigit (n % 16) :: rest) =
      some (some (Char.ofNat n), rest) := by
  have hzero : hexDigit? '0' = some 0 := by decide
  have hhigh := hexDigit_hexDigit (n / 16) (by omega)
  have hlow := hexDigit_hexDigit (n % 16) (by omega)
  have hunit : unit? ('0' :: '0' :: hexDigit (n / 16) :: hexDigit (n % 16) :: rest) = some (n, rest) := by
    simp only [unit?, hzero, hhigh, hlow, Option.bind_eq_bind, Option.bind_some]
    simp [Nat.div_add_mod']
  have hnot : ¬ (0xD800 ≤ n ∧ n ≤ 0xDBFF) ∧ ¬ (0xDC00 ≤ n ∧ n ≤ 0xDFFF) := by omega
  simp [unicodeEscape?, hunit, hnot]

theorem textAfter_escapeChar (fuel : Nat) (read : List Char) (c : Char) (rest : List Char) :
    textAfter? true (fuel + 1) read (escapeChar c ++ rest) = textAfter? true fuel (c :: read) rest := by
  unfold escapeChar
  -- seven characters have an escape of their own
  iterate 7
    split
    next h =>
      obtain rfl := eq_of_beq h
      rfl
  split
  · rename_i h
    have hc := unicodeEscape_control h rest
    rw [Char.ofNat_toNat] at hc
    simp only [List.cons_append, List.nil_append, textAfter?, escape?, hc]
  · rename_i hquote hback _ _ _ _ _ hcontrol
    have hquote : c ≠ '"' := by simpa using hquote
    have hback : c ≠ '\\' := by simpa using hback
    simp [textAfter?, hcontrol]

theorem textAfter_quoted {cs : List Char} {fuel : Nat} (hfuel : cs.length < fuel) (read rest : List Char) :
    textAfter? true fuel read (cs.flatMap escapeChar ++ '"' :: rest) =
      some (some (String.ofList (read.reverse ++ cs)), rest) := by
  induction cs generalizing fuel read with
  | nil =>
    obtain ⟨fuel, rfl⟩ := Nat.exists_eq_succ_of_ne_zero (Nat.ne_of_gt hfuel)
    simp [textAfter?]
  | cons c cs ih =>
    obtain ⟨fuel, rfl⟩ := Nat.exists_eq_succ_of_ne_zero (Nat.ne_of_gt (Nat.zero_lt_of_lt hfuel))
    rw [List.flatMap_cons, List.append_assoc, textAfter_escapeChar, ih (Nat.lt_of_succ_lt_succ hfuel)]
    simp

theorem length_le_escaped (cs : List Char) : cs.length ≤ (cs.flatMap escapeChar).length := by
  have hpos (c : Char) : 1 ≤ (escapeChar c).length := by
    unfold escapeChar
    split_ifs <;> simp
  induction cs with
  | nil => simp
  | cons c cs ih =>
    have := hpos c
    simp only [List.flatMap_cons, List.length_append, List.length_cons]
    omega

theorem textLiteral_quoted (s : String) (rest : List Char) :
    textLiteral? (s.toList.flatMap escapeChar ++ '"' :: rest) = some (some s, rest) := by
  have hlen := length_le_escaped s.toList
  unfold textLiteral?
  rw [textAfter_quoted (by rw [List.length_append]; omega), List.reverse_nil, List.nil_append,
    String.ofList_toList]

theorem quote_append (s : String) (rest : List Char) :
    (quote s).toList ++ rest = '"' :: (s.toList.flatMap escapeChar ++ '"' :: rest) := by
  simp [quote]

theorem memberName_quote (name : String) (rest : List Char) :
    memberName? true ((quote name).toList ++ ':' :: rest) = some (some name, rest) := by
  have hquote (cs : List Char) : after? "\"" (skipSpace ('"' :: cs)) = some cs := rfl
  have hcolon : after? ":" (skipSpace (':' :: rest)) = some rest := rfl
  simp [memberName?, quote_append, hquote, textLiteral_quoted, hcolon]

/-! ## Values -/

/-- A value whose numbers are whole and of 64 bits, with at most so many lists and objects inside
one another. -/
inductive Plain : Nat → Json → Prop
  | null {depth} : Plain depth .null
  | bool {depth} (b : Bool) : Plain depth (.bool b)
  | whole {depth i} (h : i.natAbs < 0x10000000000000000) : Plain depth (.whole i)
  | text {depth} (s : String) : Plain depth (.text s)
  | list {depth items} (h : ∀ item ∈ items, Plain depth item) : Plain (depth + 1) (.list items)
  | object {depth members} (h : ∀ m ∈ members, Plain depth m.2) : Plain (depth + 1) (.object members)

attribute [simp] Plain.null Plain.bool Plain.text

@[simp] theorem plain_whole {depth : Nat} {i : Int} :
    Plain depth (.whole i) ↔ i.natAbs < 0x10000000000000000 := by
  constructor
  · intro h
    cases h
    assumption
  · exact .whole

@[simp] theorem plain_list {depth : Nat} {items : List Json} :
    Plain depth (.list items) ↔ 0 < depth ∧ ∀ item ∈ items, Plain (depth - 1) item := by
  constructor
  · intro h
    cases h with
    | list h => exact ⟨Nat.succ_pos _, h⟩
  · intro h
    obtain ⟨hpos, h⟩ := h
    obtain ⟨depth, rfl⟩ := Nat.exists_eq_succ_of_ne_zero (Nat.ne_of_gt hpos)
    exact .list h

@[simp] theorem plain_object {depth : Nat} {members : List (String × Json)} :
    Plain depth (.object members) ↔ 0 < depth ∧ ∀ m ∈ members, Plain (depth - 1) m.2 := by
  constructor
  · intro h
    cases h with
    | object h => exact ⟨Nat.succ_pos _, h⟩
  · intro h
    obtain ⟨hpos, h⟩ := h
    obtain ⟨depth, rfl⟩ := Nat.exists_eq_succ_of_ne_zero (Nat.ne_of_gt hpos)
    exact .object h

/-- Whether characters are read as the value `v`, and cannot be taken for the end of a list. -/
structure Spells (cs : List Char) (v : Json) : Prop where
  starts : ∃ c rest, cs = c :: rest ∧ isSpace c = false ∧ c ≠ ']'
  reads : ∀ rest, EndsNumber rest → ∃ b r k, begin? (cs ++ rest) = some (b, r) ∧ k < cs.length ∧
    ∀ fuel outer, finish? (fuel + k) b outer r = finish? fuel (.value v) outer rest

/-- What is read at once. -/
theorem Spells.of_begin {c : Char} {cs : List Char} {v : Json} (hspace : isSpace c = false) (hbracket : c ≠ ']')
    (h : ∀ rest, EndsNumber rest → begin? (c :: cs ++ rest) = some (.value v, rest)) : Spells (c :: cs) v where
  starts := ⟨c, cs, rfl, hspace, hbracket⟩
  reads rest hrest := ⟨.value v, rest, 0, h rest hrest, by simp, fun _ _ => rfl⟩

theorem spells_text (s : String) : Spells (quote s).toList (.text s) := by
  have hquote := quote_append s []
  rw [List.append_nil] at hquote
  rw [hquote]
  refine .of_begin (by decide) (by decide) fun rest _ => ?_
  have hliteral := textLiteral_quoted s rest
  show (textLiteral? _).map _ = _
  simp [hliteral]

def BeginsNumber (c : Char) : Prop := c.isDigit = true ∨ c = '-'

theorem BeginsNumber.ne {c d : Char} (hc : BeginsNumber c) (hd : (d.isDigit || d == '-') = false) : c ≠ d := by
  rintro rfl
  unfold BeginsNumber at hc
  simp_all

theorem BeginsNumber.not_space {c : Char} (hc : BeginsNumber c) : isSpace c = false := by
  simp [isSpace, hc.ne (d := ' ') rfl, hc.ne (d := '\t') rfl, hc.ne (d := '\n') rfl, hc.ne (d := '\r') rfl]

theorem begin_number {c : Char} (hc : BeginsNumber c) (cs : List Char) :
    begin? (c :: cs) = (number? (c :: cs)).map fun (v, rest) => (.value v, rest) := by
  have hskip : skipSpace (c :: cs) = c :: cs := by
    simp [skipSpace, hc.not_space]
  have hother : ∀ d ∈ ['"', '[', '\x7b', 't', 'f', 'n'], c ≠ d := by
    simp only [List.forall_mem_cons]
    exact ⟨hc.ne rfl, hc.ne rfl, hc.ne rfl, hc.ne rfl, hc.ne rfl, hc.ne rfl, List.forall_mem_nil _⟩
  unfold begin?
  rw [hskip]
  split <;> simp_all

theorem toString_begins (i : Int) : ∃ c cs, (toString i).toList = c :: cs ∧ BeginsNumber c := by
  rw [Int.toString_eq_repr, Int.repr_eq_if]
  split
  · obtain ⟨d, ds, hd, hdigit⟩ := toDigits_cons i.toNat
    refine ⟨d, ds, ?_, .inl hdigit⟩
    rw [Nat.repr_eq_ofList_toDigits, String.toList_ofList, hd]
  · exact ⟨'-', (-i).toNat.repr.toList, String.toList_append, .inr rfl⟩

theorem spells_whole (i : Int) : Spells (toString i).toList (.whole i) := by
  obtain ⟨c, cs, hcs, hc⟩ := toString_begins i
  rw [hcs]
  refine .of_begin hc.not_space (hc.ne rfl) fun rest hrest => ?_
  rw [List.cons_append, begin_number hc, ← List.cons_append, ← hcs, number_toString i hrest]
  rfl

theorem spells_null : Spells "null".toList .null :=
  .of_begin (by decide) (by decide) fun _ _ => rfl

theorem spells_bool (b : Bool) : Spells (if b then "true" else "false").toList (.bool b) := by
  cases b with
  | false => exact .of_begin (by decide) (by decide) fun _ _ => rfl
  | true => exact .of_begin (by decide) (by decide) fun _ _ => rfl

/-! ## Lists and objects -/

/-- A value is read in no more steps than it has characters, after a bracket or a comma. -/
theorem Spells.finish {cs : List Char} {v : Json} (h : Spells cs v) {rest : List Char}
    (hrest : EndsNumber rest) : ∃ k ≤ cs.length, ∀ fuel o outer,
      finish? (fuel + k) (.opening o) outer (cs ++ rest) = finish? fuel (.value v) (o :: outer) rest := by
  obtain ⟨b, r, k, hbegin, hk, hfinish⟩ := h.reads rest hrest
  refine ⟨k + 1, hk, fun fuel o outer => ?_⟩
  rw [← Nat.add_assoc, finish?, hbegin]
  cases b with
  | value => exact hfinish fuel (o :: outer)
  | opening => exact hfinish fuel (o :: outer)

theorem toList_intercalate (s : String) (l : List String) :
    (",".intercalate (s :: l)).toList = s.toList ++ l.flatMap fun t => ',' :: t.toList := by
  induction l generalizing s with
  | nil => simp
  | cons t l ih =>
    rw [String.intercalate_cons_cons, String.toList_append, ih]
    simp

theorem compactItems_eq (items : List Json) : compactItems items = items.map compact := by
  induction items with
  | nil => rfl
  | cons item items ih => rw [compactItems, ih, List.map_cons]

theorem compactMembers_eq (members : List (String × Json)) :
    compactMembers members = members.map fun m => quote m.1 ++ ":" ++ m.2.compact := by
  induction members with
  | nil => rfl
  | cons m members ih => rw [compactMembers, ih, List.map_cons]

theorem endsNumber_cons {c : Char} (rest : List Char)
    (hc : c.isDigit = false ∧ c ≠ '.' ∧ c ≠ 'e' ∧ c ≠ 'E') : EndsNumber (c :: rest) := by
  simpa [EndsNumber] using hc

/-- How the elements of a list, or of an object, stand between its brackets. Each has a label, which
is empty in a list, and a value; `opened` is what is open while the value is read. -/
structure Brackets (α : Type) where
  left : Char
  right : Char
  label : α → String
  value : α → Json
  whole : List α → Json
  opened : (done : List α) → α → OpenJson
  left_starts : isSpace left = false ∧ left ≠ ']'
  right_ends : ∀ rest, EndsNumber (right :: rest)
  compact_eq : ∀ as, (whole as).compact.toList =
    left :: ((",".intercalate (as.map fun a => label a ++ (value a).compact)).toList ++ [right])
  begin_eq : ∀ a rest, Spells (value a).compact.toList (value a) →
    begin? (left :: ((label a).toList ++ ((value a).compact.toList ++ rest))) =
      some (.opening (opened [] a), (value a).compact.toList ++ rest)
  next_eq : ∀ done a b cs, putInto? (opened done a) (value a) (',' :: ((label b).toList ++ cs)) =
    some (.opening (opened (a :: done) b), cs)
  close_eq : ∀ done a cs, putInto? (opened done a) (value a) (right :: cs) =
    some (.value (whole (a :: done).reverse), cs)

namespace Brackets

variable {α : Type} (b : Brackets α)

def more (rest : List Char) : List α → List Char
  | [] => b.right :: rest
  | a :: as => ',' :: ((b.label a).toList ++ ((b.value a).compact.toList ++ more rest as))

theorem compact_cons (a : α) (as : List α) (rest : List Char) :
    (b.whole (a :: as)).compact.toList ++ rest =
      b.left :: ((b.label a).toList ++ ((b.value a).compact.toList ++ b.more rest as)) := by
  have hmore : (as.map fun a => b.label a ++ (b.value a).compact).flatMap (fun t => ',' :: t.toList) ++
      b.right :: rest = b.more rest as := by
    induction as with
    | nil => rfl
    | cons a as ih => simp [more, ← ih]
  rw [b.compact_eq, List.map_cons, toList_intercalate]
  simp [← hmore]

theorem finish (rest : List Char) {a : α} {as : List α}
    (h : ∀ x ∈ a :: as, Spells (b.value x).compact.toList (b.value x)) :
    ∃ k, k + rest.length ≤ ((b.value a).compact.toList ++ b.more rest as).length ∧ ∀ fuel done outer,
      finish? (fuel + k) (.opening (b.opened done a)) outer ((b.value a).compact.toList ++ b.more rest as) =
        finish? fuel (.value (b.whole (done.reverse ++ a :: as))) outer rest := by
  induction as generalizing a with
  | nil =>
    obtain ⟨k, hk, hvalue⟩ := (h a List.mem_cons_self).finish (b.right_ends rest)
    refine ⟨1 + k, by simp [more]; omega, fun fuel done outer => ?_⟩
    rw [more, ← Nat.add_assoc, hvalue, finish?, b.close_eq, List.reverse_cons]
  | cons next as ih =>
    obtain ⟨j, hj, hmore⟩ := ih fun x hx => h x (List.mem_cons_of_mem _ hx)
    have hends := endsNumber_cons (c := ',')
      ((b.label next).toList ++ ((b.value next).compact.toList ++ b.more rest as)) (by decide)
    obtain ⟨k, hk, hvalue⟩ := (h a List.mem_cons_self).finish hends
    refine ⟨j + 1 + k, ?_, fun fuel done outer => ?_⟩
    · simp only [more, List.length_append, List.length_cons] at hj ⊢
      omega
    · rw [more, ← Nat.add_assoc, hvalue, ← Nat.add_assoc, finish?, b.next_eq]
      dsimp only
      rw [hmore, List.reverse_cons, List.append_assoc, List.singleton_append]

theorem spells {a : α} {as : List α} (h : ∀ x ∈ a :: as, Spells (b.value x).compact.toList (b.value x)) :
    Spells (b.whole (a :: as)).compact.toList (b.whole (a :: as)) := by
  constructor
  · have htext := b.compact_cons a as []
    rw [List.append_nil] at htext
    exact ⟨_, _, htext, b.left_starts⟩
  · intro rest _
    obtain ⟨k, hk, hfinish⟩ := b.finish rest h
    have htext := b.compact_cons a as rest
    have hlen := congrArg List.length htext
    rw [List.length_append, List.length_cons, List.length_append] at hlen
    refine ⟨.opening (b.opened [] a), (b.value a).compact.toList ++ b.more rest as, k, ?_, by omega,
      fun fuel outer => ?_⟩
    · rw [htext, b.begin_eq a _ (h a List.mem_cons_self)]
    · rw [hfinish, List.reverse_nil, List.nil_append]

def ofList : Brackets Json where
  left := '['
  right := ']'
  label _ := ""
  value item := item
  whole := .list
  opened done _ := .list done
  left_starts := by decide
  right_ends rest := endsNumber_cons rest (by decide)
  compact_eq items := by simp [compact, compactItems_eq]
  begin_eq item rest h := by
    obtain ⟨c, cs, hcs, hspace, hbracket⟩ := h.starts
    have hopen (cs : List Char) : skipSpace ('[' :: cs) = '[' :: cs := rfl
    have hskip : skipSpace (c :: (cs ++ rest)) = c :: (cs ++ rest) := by
      simp [skipSpace, hspace]
    simp [hcs, begin?, hopen, hskip, hbracket]
  next_eq _ _ _ _ := rfl
  close_eq _ _ _ := rfl

def ofObject : Brackets (String × Json) where
  left := '\x7b'
  right := '\x7d'
  label m := quote m.1 ++ ":"
  value m := m.2
  whole := .object
  opened done m := .object done (some m.1)
  left_starts := by decide
  right_ends rest := endsNumber_cons rest (by decide)
  compact_eq members := by simp [compact, compactMembers_eq]
  begin_eq m rest _ := by
    have hopen (cs : List Char) : skipSpace ('\x7b' :: cs) = '\x7b' :: cs := rfl
    have hquote (cs : List Char) : skipSpace ('"' :: cs) = '"' :: cs := rfl
    have hname := memberName_quote m.1 (m.2.compact.toList ++ rest)
    rw [quote_append] at hname
    simp [begin?, quote_append, hopen, hquote, hname]
  next_eq done m next cs := by
    have hcomma (cs : List Char) : skipSpace (',' :: cs) = ',' :: cs := rfl
    simp [putInto?, hcomma, memberName_quote]
  close_eq _ _ _ := rfl

end Brackets

theorem spells_list {items : List Json} (h : ∀ i ∈ items, Spells i.compact.toList i) :
    Spells (compact (.list items)).toList (.list items) := by
  cases items with
  | nil => exact .of_begin (by decide) (by decide) fun _ _ => rfl
  | cons item items => exact Brackets.ofList.spells h

theorem spells_object {members : List (String × Json)} (h : ∀ m ∈ members, Spells m.2.compact.toList m.2) :
    Spells (compact (.object members)).toList (.object members) := by
  cases members with
  | nil => exact .of_begin (by decide) (by decide) fun _ _ => rfl
  | cons m members => exact Brackets.ofObject.spells h

theorem Plain.spells {depth : Nat} {v : Json} (h : Plain depth v) : Spells v.compact.toList v := by
  induction h with
  | null => exact spells_null
  | bool b => exact spells_bool b
  | whole => exact spells_whole _
  | text s => exact spells_text s
  | list _ ih => exact spells_list ih
  | object _ ih => exact spells_object ih

/-- A plain value is read back from its compact form. -/
theorem Plain.read_compact {depth : Nat} {v : Json} (h : Plain depth v) : read? v.compact = some v := by
  have hends : EndsNumber [] := by simp [EndsNumber]
  obtain ⟨b, r, k, hbegin, hk, hfinish⟩ := h.spells.reads [] hends
  rw [List.append_nil] at hbegin
  obtain ⟨fuel, hfuel⟩ := Nat.exists_eq_add_of_lt hk
  have hvalue : finish? (v.compact.toList.length + 1) b [] r = some (v, []) := by
    rw [show v.compact.toList.length + 1 = fuel + 1 + 1 + k by omega, hfinish, finish?]
  have hrest : (skipSpace []).isEmpty = true := rfl
  simp only [read?, hbegin, hvalue, hrest, Option.bind_eq_bind, Option.bind_some, if_true]

end Bindery.Json
