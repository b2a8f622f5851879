import Bindery.Managed.Literal
import Mathlib.Algebra.Group.Nat.Defs
import Mathlib.Data.List.Forall2
import Mathlib.Order.Bounds.Defs

/-!
# Literals of enumerators read back

Each literal is read as the value that it is written for. Those in hexadecimal all have as many digits
as the largest value needs, and no fewer digits can be read as that value.
-/

namespace Bindery

/-! ## Digits -/

def upperDigits : List Char := "0123456789ABCDEF".toList

def digitValue? (base : Nat) (c : Char) : Option Nat := (upperDigits.take base).idxOf? c

/-- The number that the digits `cs` make when they come after those of `n`. -/
def readDigitsAfter? (base n : Nat) (cs : List Char) : Option Nat :=
  cs.foldlM (fun n c => (digitValue? base c).map (base * n + ·)) n

def readDigits? (base : Nat) (cs : List Char) : Option Nat :=
  if cs.isEmpty then none else readDigitsAfter? base 0 cs

variable {base n : Nat}

theorem mem_of_digitValue? {c : Char} {d : Nat} (h : digitValue? base c = some d) :
    d < base ∧ c ∈ upperDigits := by
  obtain ⟨hd, hc, -⟩ := List.idxOf?_eq_some_iff.1 h
  refine ⟨?_, List.mem_of_mem_take (hc ▸ List.getElem_mem hd)⟩
  rw [List.length_take] at hd
  omega

theorem digitValue?_zero (hbase : 0 < base) : digitValue? base '0' = some 0 := by
  obtain ⟨k, rfl⟩ := Nat.exists_eq_add_one_of_ne_zero (Nat.ne_of_gt hbase)
  rfl

theorem readDigitsAfter?_append (cs ds : List Char) :
    readDigitsAfter? base n (cs ++ ds) =
      (readDigitsAfter? base n cs).bind fun n => readDigitsAfter? base n ds := by
  simp [readDigitsAfter?, List.foldlM_append, Option.bind_eq_bind]

theorem readDigitsAfter?_singleton (c : Char) :
    readDigitsAfter? base n [c] = (digitValue? base c).map (base * n + ·) := by
  simp [readDigitsAfter?]

/-- A number is read from its digits, in whatever form they are written. -/
theorem readDigitsAfter?_toDigits (hbase : 1 < base) {form : Char → Char}
    (hform : ∀ d < base, digitValue? base (form d.digitChar) = some d) (n : Nat) :
    readDigitsAfter? base 0 ((Nat.toDigits base n).map form) = some n := by
  induction n using Nat.strongRecOn with
  | ind n ih =>
    rw [Nat.toDigits_eq_if hbase]
    split
    · rename_i hn
      rw [List.map_singleton, readDigitsAfter?_singleton, hform n hn]
      simp
    · rename_i hn
      have hrest := ih _ (Nat.div_lt_self (by omega) hbase)
      have hdigit := hform _ (Nat.mod_lt n (by omega : 0 < base))
      rw [List.map_append, readDigitsAfter?_append, hrest, Option.bind_some, List.map_singleton,
        readDigitsAfter?_singleton, hdigit, Option.map_some, Nat.div_add_mod]

theorem readDigitsAfter?_zeros (hbase : 0 < base) (k : Nat) (cs : List Char) :
    readDigitsAfter? base 0 (List.replicate k '0' ++ cs) = readDigitsAfter? base 0 cs := by
  induction k with
  | zero => rfl
  | succ k ih =>
    rw [List.replicate_succ, List.cons_append]
    simpa [readDigitsAfter?, digitValue?_zero hbase] using ih

/-- So many digits make no larger number. -/
theorem readDigitsAfter?_lt {cs : List Char} {m : Nat} (h : readDigitsAfter? base n cs = some m) :
    m < (n + 1) * base ^ cs.length := by
  induction cs generalizing n with
  | nil =>
    obtain rfl : n = m := by simpa [readDigitsAfter?] using h
    simp
  | cons c cs ih =>
    obtain ⟨n', hn', hrest⟩ := Option.bind_eq_some_iff.1 h
    obtain ⟨d, hd, rfl⟩ := Option.map_eq_some_iff.1 hn'
    have hdigit : base * n + d + 1 ≤ base * (n + 1) := by
      have := (mem_of_digitValue? hd).1
      rw [Nat.mul_add]
      omega
    calc m < (base * n + d + 1) * base ^ cs.length := ih hrest
      _ ≤ base * (n + 1) * base ^ cs.length := Nat.mul_le_mul_right _ hdigit
      _ = (n + 1) * base ^ (c :: cs).length := by
        rw [List.length_cons, Nat.pow_succ, Nat.mul_comm base, Nat.mul_assoc, Nat.mul_comm base]

theorem mem_upperDigits {cs : List Char} {m : Nat} (h : readDigitsAfter? base n cs = some m) :
    ∀ c ∈ cs, c ∈ upperDigits := by
  induction cs generalizing n with
  | nil => simp
  | cons c cs ih =>
    obtain ⟨n', hn', hrest⟩ := Option.bind_eq_some_iff.1 h
    obtain ⟨d, hd, -⟩ := Option.map_eq_some_iff.1 hn'
    exact List.forall_mem_cons.2 ⟨(mem_of_digitValue? hd).2, ih hrest⟩

theorem readDigits?_eq_some {cs : List Char} {m : Nat} :
    readDigits? base cs = some m ↔ cs ≠ [] ∧ readDigitsAfter? base 0 cs = some m := by
  unfold readDigits?
  cases cs <;> simp

/-! ## Literals -/

def readLiteral? : List Char → Option Int
  | '0' :: 'x' :: digits => (readDigits? 16 digits).map Int.ofNat
  | '-' :: digits => (readDigits? 10 digits).map fun n => -Int.ofNat n
  | digits => (readDigits? 10 digits).map Int.ofNat

def IsDecimal (cs : List Char) : Prop :=
  ∃ digits, (cs = digits ∨ cs = '-' :: digits) ∧ digits ≠ [] ∧ ∀ c ∈ digits, c.isDigit = true

structure LiteralOf (width : Nat) (v : Int) (text : String) : Prop where
  value : readLiteral? text.toList = some v
  decimal_iff : IsDecimal text.toList ↔ v < 0
  hexadecimal : 0 ≤ v → ∃ digits, text.toList = '0' :: 'x' :: digits ∧ digits.length = width ∧
    ∀ c ∈ digits, c ∈ upperDigits

variable {width : Nat} {v : Int}

theorem toList_toString_of_neg (hv : v < 0) : (toString v).toList = '-' :: Nat.toDigits 10 (-v).toNat := by
  rw [Int.toString_eq_repr, Int.repr_eq_if, if_neg (by omega), Nat.repr_eq_ofList_toDigits,
    String.toList_append, String.toList_ofList, String.toList_ofList]
  rfl

theorem readDigits?_ten (n : Nat) : readDigits? 10 (Nat.toDigits 10 n) = some n := by
  have hdigit : ∀ d < 10, digitValue? 10 (id d.digitChar) = some d := by decide
  have h := readDigitsAfter?_toDigits (by decide) hdigit n
  rw [List.map_id] at h
  exact readDigits?_eq_some.2 ⟨Nat.toDigits_ne_nil, h⟩

theorem literalOf_negative (hv : v < 0) : LiteralOf width v (literal width v) := by
  have hdigits : ∀ c ∈ Nat.toDigits 10 (-v).toNat, c.isDigit = true :=
    fun c hc => Nat.isDigit_of_mem_toDigits (by decide) (by decide) hc
  have htext : (literal width v).toList = '-' :: Nat.toDigits 10 (-v).toNat := by
    rw [literal, literalDigits?, if_pos hv]
    exact toList_toString_of_neg hv
  refine ⟨?_, ⟨fun _ => hv, fun _ => ?_⟩, fun h => absurd h (by omega)⟩
  · rw [htext, readLiteral?, readDigits?_ten, Option.map_some]
    exact congrArg some (by simp only [Int.ofNat_eq_natCast]; omega)
  · rw [htext]
    exact ⟨_, .inr rfl, Nat.toDigits_ne_nil, hdigits⟩

def paddedDigits (width n : Nat) : List Char :=
  List.replicate (width - (hexDigits n).length) '0' ++ hexDigits n

theorem readDigits?_paddedDigits (width n : Nat) : readDigits? 16 (paddedDigits width n) = some n := by
  refine readDigits?_eq_some.2 ⟨?_, ?_⟩
  · simp [paddedDigits, hexDigits, Nat.toDigits_ne_nil]
  · rw [paddedDigits, readDigitsAfter?_zeros (by decide)]
    exact readDigitsAfter?_toDigits (by decide) (by decide) n

theorem length_paddedDigits {n : Nat} (h : (hexDigits n).length ≤ width) :
    (paddedDigits width n).length = width := by
  rw [paddedDigits, List.length_append, List.length_replicate]
  omega

theorem literalOf_natural (hv : 0 ≤ v) (hwidth : (hexDigits v.toNat).length ≤ width) :
    LiteralOf width v (literal width v) := by
  have htext : (literal width v).toList = '0' :: 'x' :: paddedDigits width v.toNat := by
    rw [literal, literalDigits?, if_neg (by omega)]
    simp [paddedDigits]
  refine ⟨?_, ⟨fun hd => ?_, fun h => absurd h (by omega)⟩, fun _ => ⟨_, htext, length_paddedDigits hwidth, ?_⟩⟩
  · rw [htext, readLiteral?, readDigits?_paddedDigits, Option.map_some]
    exact congrArg some (Int.toNat_of_nonneg hv)
  · -- the mark of hexadecimal literals is no digit
    rw [htext] at hd
    obtain ⟨digits, hd | hd, -, hall⟩ := hd
    · exact absurd (hall 'x' (by simp [← hd])) (by decide)
    · cases hd
  · exact mem_upperDigits (readDigits?_eq_some.1 (readDigits?_paddedDigits width v.toNat)).2

/-! ## One width -/

theorem hexDigits_length_mono {m n : Nat} (h : m ≤ n) : (hexDigits m).length ≤ (hexDigits n).length := by
  simp only [hexDigits, List.length_map]
  have hn := (Nat.length_toDigits_le_iff (b := 16) (n := n) (by decide) Nat.length_toDigits_pos).1 (Nat.le_refl _)
  exact (Nat.length_toDigits_le_iff (by decide) Nat.length_toDigits_pos).2 (Nat.lt_of_le_of_lt h hn)

theorem mem_digitCounts {values : List Int} {k : Nat} :
    k ∈ values.filterMap (fun v => (literalDigits? v).map List.length) ↔
      ∃ v ∈ values, 0 ≤ v ∧ (hexDigits v.toNat).length = k := by
  simp only [List.mem_filterMap, literalDigits?, Option.map_eq_some_iff]
  refine exists_congr fun v => and_congr_right fun _ => ?_
  split
  · exact ⟨nofun, fun h => absurd h.1 (by omega)⟩
  · simpa using fun _ => by omega

theorem le_literalWidth {values : List Int} (hv : v ∈ values) (h : 0 ≤ v) :
    (hexDigits v.toNat).length ≤ literalWidth values := by
  have hmem := mem_digitCounts.2 ⟨v, hv, h, rfl⟩
  unfold literalWidth
  cases hmax : (values.filterMap fun v => (literalDigits? v).map List.length).max? with
  | none =>
    rw [List.max?_eq_none_iff.1 hmax] at hmem
    cases hmem
  | some k => exact (List.max?_eq_some_iff.1 hmax).2 _ hmem

theorem literalWidth_of_largest {values : List Int} (hv : v ∈ values) (h : 0 ≤ v) (hmax : ∀ w ∈ values, w ≤ v) :
    literalWidth values = (hexDigits v.toNat).length := by
  have hlargest : (values.filterMap fun v => (literalDigits? v).map List.length).max? =
      some (hexDigits v.toNat).length := by
    refine List.max?_eq_some_iff.2 ⟨mem_digitCounts.2 ⟨v, hv, h, rfl⟩, fun k hk => ?_⟩
    obtain ⟨w, hw, hw0, rfl⟩ := mem_digitCounts.1 hk
    exact hexDigits_length_mono (Int.toNat_le_toNat (hmax w hw))
  rw [literalWidth, hlargest, Option.getD_some]

def HexWidths (n : Nat) : Set Nat := {k | ∃ digits, digits.length = k ∧ readDigits? 16 digits = some n}

theorem isLeast_hexDigits (n : Nat) : IsLeast (HexWidths n) (hexDigits n).length := by
  have hwritten : paddedDigits 0 n = hexDigits n := by simp [paddedDigits]
  refine ⟨⟨_, rfl, hwritten ▸ readDigits?_paddedDigits 0 n⟩, fun k hk => ?_⟩
  obtain ⟨digits, rfl, hread⟩ := hk
  obtain ⟨hne, hread⟩ := readDigits?_eq_some.1 hread
  have hlt := readDigitsAfter?_lt hread
  rw [Nat.zero_add, Nat.one_mul] at hlt
  rw [hexDigits, List.length_map]
  exact (Nat.length_toDigits_le_iff (by decide) (List.length_pos_iff.2 hne)).2 hlt

/-- Every literal is read as its value and is in decimal for the negative values alone. The others have
one number of digits, the least with which the largest value can be written. -/
theorem enumLiterals_read_back (values : List Int) : ∃ width,
    List.Forall₂ (LiteralOf width) values (enumLiterals values) ∧
      ∀ m ∈ values, 0 ≤ m → (∀ v ∈ values, v ≤ m) → IsLeast (HexWidths m.toNat) width := by
  refine ⟨literalWidth values, ?_, fun m hm h0 hmax => ?_⟩
  · rw [enumLiterals, List.forall₂_map_right_iff, List.forall₂_same]
    intro v hv
    rcases Int.lt_or_le v 0 with h | h
    · exact literalOf_negative h
    · exact literalOf_natural h (le_literalWidth hv h)
  · rw [literalWidth_of_largest hm h0 hmax]
    exact isLeast_hexDigits m.toNat

/-- The least and the largest signed number of 64 bits. -/
theorem enumLiterals_extremes : ∃ width,
    List.Forall₂ (LiteralOf width) [-9223372036854775808, 0, 255, 9223372036854775807]
      (enumLiterals [-9223372036854775808, 0, 255, 9223372036854775807]) ∧
    IsLeast (HexWidths 9223372036854775807) width ∧
    enumLiterals [-9223372036854775808, 0, 255, 9223372036854775807] =
      ["-9223372036854775808", "0x0000000000000000", "0x00000000000000FF", "0x7FFFFFFFFFFFFFFF"] := by
  obtain ⟨width, hread, hleast⟩ := enumLiterals_read_back [-9223372036854775808, 0, 255, 9223372036854775807]
  exact ⟨width, hread, hleast 9223372036854775807 (by simp) (by decide) (by simp), by decide +kernel⟩

end Bindery
