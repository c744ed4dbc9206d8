import Mathlib.Data.List.Basic
import Mathlib.Data.List.TakeWhile
import Switchboard.Number.Numeral

/-!
# Whole numbers in digits

A text of digits is read as a whole number exactly where all of them are decimal digits, of whatever
script, and they are not too many; the number is then the one that their values write
(`readInt_of_digits_eq_ok_iff`). Superscripts and circled digits are digits as well, but no number is
read from a text with one of them.
-/

namespace Switchboard

namespace Text

/-- Whether a text is made of decimal digits. -/
def IsDecimal (text : String) : Prop := ∀ c ∈ text.toList, (decimalValue? c).isSome

/-- The number that the values of decimal digits write. -/
def decimalNumber (text : String) : Nat :=
  text.toList.foldl (fun total c => total * 10 + (decimalValue? c).getD 0) 0

variable {c : Char} {value : Nat} {text : String}

/-- A text is of digits where it has some and nothing else. -/
theorem isDigits_iff :
    isDigits text = true ↔ text.toList ≠ [] ∧ ∀ c ∈ text.toList, isDigit c = true := by
  simp [isDigits]

/-- A decimal digit comes that far after a zero of its script. -/
theorem exists_zero_of_decimalValue? (isValue : decimalValue? c = some value) :
    ∃ first ∈ zeros, c.toNat = first + value ∧ value < 10 := by
  obtain ⟨first, found, rfl⟩ := Option.map_eq_some_iff.mp isValue
  have bounds := List.find?_some found
  simp only [Bool.and_eq_true, decide_eq_true_eq] at bounds
  exact ⟨first, List.mem_of_find?_eq_some found, by omega, by omega⟩

/-- The spans of all digits. -/
def digitSpans : List (Nat × Nat) := zeros.map (fun first => (first, first + 9)) ++ loneDigitSpans

/-- A digit lies in a span of digits. -/
theorem exists_span_of_isDigit (digit : isDigit c = true) :
    ∃ span ∈ digitSpans, span.1 ≤ c.toNat ∧ c.toNat ≤ span.2 := by
  rcases Bool.or_eq_true_iff.mp digit with decimal | lone
  · obtain ⟨value, isValue⟩ := Option.isSome_iff_exists.mp decimal
    obtain ⟨first, member, point, small⟩ := exists_zero_of_decimalValue? isValue
    refine ⟨(first, first + 9), ?_, by omega, by omega⟩
    exact List.mem_append_left _ (List.mem_map.mpr ⟨first, member, rfl⟩)
  · obtain ⟨span, member, low, high⟩ := exists_span_of_covers lone
    exact ⟨span, List.mem_append_right _ member, low, high⟩

/-- No digit beyond the plain ones is a blank. -/
theorem isBlank_of_isDigit (digit : isDigit c = true) (beyond : 127 ≤ c.toNat) : isBlank c = false := by
  obtain ⟨span, member, low, high⟩ := exists_span_of_isDigit digit
  have spared : ∀ span ∈ digitSpans, (span.2 < 0x80 ∨ 0xA0 < span.1) ∧
      (span.2 < 0x1680 ∨ 0x1680 < span.1) ∧ (span.2 < 0x2000 ∨ 0x205F < span.1) ∧
      (span.2 < 0x3000 ∨ 0x3000 < span.1) := by decide
  have apart := spared span member
  simp only [isBlank, Bool.or_eq_false_iff, Bool.and_eq_false_iff, decide_eq_false_iff_not]
  omega

end Text

namespace Numeral

open Text (IsDecimal decimalNumber decimalValue? isDigit isDigits)

variable {c : Char} {value : Nat} {text : String} {digits : List Char}

/-- A decimal digit is read as the plain one of its value. -/
theorem plainChar_of_decimal (isValue : decimalValue? c = some value) :
    plainChar c = Char.ofNat ('0'.toNat + value) ∧ value < 10 := by
  obtain ⟨first, member, point, small⟩ := Text.exists_zero_of_decimalValue? isValue
  refine ⟨?_, small⟩
  unfold plainChar
  by_cases low : c.toNat < 127
  · have plainZero : ∀ first ∈ Text.zeros, first < 127 → first = 0x30 := by decide
    obtain rfl := plainZero first member (by omega)
    rw [if_pos low, ← Char.ofNat_toNat c, point]
    rfl
  · have digit : isDigit c = true := by simp [isDigit, isValue]
    simp [low, Text.isBlank_of_isDigit digit (Nat.le_of_not_lt low), isValue]

/-- A digit that is not decimal is read as nothing plain. -/
theorem plainChar_of_lone (digit : isDigit c = true) (lone : decimalValue? c = none) :
    plainChar c = '?' := by
  have covered : Text.covers Text.loneDigitSpans c.toNat = true := by simpa [isDigit, lone] using digit
  obtain ⟨span, member, low, -⟩ := Text.exists_span_of_covers covered
  have high : ∀ span ∈ Text.loneDigitSpans, 127 ≤ span.1 := by decide
  have beyond : 127 ≤ c.toNat := (high span member).trans low
  simp [plainChar, Nat.not_lt.mpr beyond, Text.isBlank_of_isDigit digit beyond, lone]

/-- The plain form of a decimal digit is the plain digit of the same value. -/
theorem isPlainDigit_plainChar (isValue : decimalValue? c = some value) :
    isPlainDigit (plainChar c) = true ∧ (plainChar c).toNat - '0'.toNat = value := by
  obtain ⟨form, small⟩ := plainChar_of_decimal isValue
  have plainDigits : ∀ value < 10, isPlainDigit (Char.ofNat ('0'.toNat + value)) = true ∧
      (Char.ofNat ('0'.toNat + value)).toNat - '0'.toNat = value := by decide
  rw [form]
  exact plainDigits value small

/-- Digits are plain digits in plain form, or the mark that no number holds. -/
theorem plainChar_of_digit (digit : isDigit c = true) :
    isPlainDigit (plainChar c) = true ∨ plainChar c = '?' := by
  cases isValue : decimalValue? c with
  | none => exact .inr (plainChar_of_lone digit isValue)
  | some value => exact .inl (isPlainDigit_plainChar isValue).1

/-- Neither a blank nor a sign stands in the plain form of digits. -/
theorem apart_of_digit (digit : isDigit c = true) :
    isPlainBlank (plainChar c) = false ∧ plainChar c ≠ '-' ∧ plainChar c ≠ '+' := by
  rcases plainChar_of_digit digit with plainDigit | mark
  · simp only [isPlainDigit, Bool.and_eq_true, decide_eq_true_eq, Char.le_def,
      UInt32.le_iff_toNat_le] at plainDigit
    obtain ⟨low, high⟩ : 0x30 ≤ (plainChar c).toNat ∧ (plainChar c).toNat ≤ 0x39 := plainDigit
    have notSpace : plainChar c ≠ ' ' := fun same => by simp [same] at low
    refine ⟨?_, fun same => by simp [same] at low, fun same => by simp [same] at low⟩
    simp only [isPlainBlank, notSpace, decide_false, Bool.false_or, Bool.and_eq_false_iff,
      decide_eq_false_iff_not]
    omega
  · rw [mark]
    decide

/-- Nothing is taken off the ends of digits. -/
theorem plain_of_digits (digits : isDigits text = true) : plain text = text.toList.map plainChar := by
  have noBlank : ∀ plainDigits : List Char, (∀ c ∈ plainDigits, isPlainBlank c = false) →
      plainDigits.dropWhile isPlainBlank = plainDigits := by
    intro plainDigits noBlank
    cases plainDigits with
    | nil => rfl
    | cons c rest => simp [noBlank c List.mem_cons_self]
  have apart : ∀ c ∈ text.toList.map plainChar, isPlainBlank c = false := by
    intro c member
    obtain ⟨d, inText, rfl⟩ := List.mem_map.mp member
    exact (apart_of_digit ((Text.isDigits_iff.mp digits).2 d inText)).1
  rw [plain, noBlank _ apart, noBlank _ fun c member => apart c (List.mem_reverse.mp member),
    List.reverse_reverse]

/-- Digits have no sign in front. -/
theorem splitSign_of_digits (digits : isDigits text = true) :
    splitSign (plain text) = (false, text.toList.map plainChar) := by
  rw [plain_of_digits digits]
  cases characters : text.toList with
  | nil => rfl
  | cons c rest =>
    have digit := (Text.isDigits_iff.mp digits).2 c (by simp [characters])
    obtain ⟨-, notMinus, notPlus⟩ := apart_of_digit digit
    rw [List.map_cons]
    unfold splitSign
    split
    next same => exact absurd (List.cons.inj same).1 notMinus
    next same => exact absurd (List.cons.inj same).1 notPlus
    next => rfl

/-- Plain digits are not grouped. -/
theorem ungroup?_of_digits {previous : Char} (after : previous ≠ '_')
    (plainDigits : ∀ c ∈ digits, isPlainDigit c = true) : ungroup? previous digits = some digits := by
  induction digits generalizing previous with
  | nil => simp [ungroup?, after]
  | cons c rest ih =>
    obtain ⟨digit, others⟩ := List.forall_mem_cons.mp plainDigits
    have notMark : c ≠ '_' := by
      rintro rfl
      exact absurd digit (by decide)
    simp [ungroup?, notMark, after, ih notMark others]

/-- The plain digits of a text have the number that it writes. -/
theorem valueOf_plain (decimal : IsDecimal text) :
    valueOf 10 (text.toList.map plainChar) = decimalNumber text := by
  rw [valueOf, decimalNumber, List.foldl_map]
  refine List.foldl_ext _ _ _ fun total c member => ?_
  obtain ⟨value, isValue⟩ := Option.isSome_iff_exists.mp (decimal c member)
  obtain ⟨plainDigit, size⟩ := isPlainDigit_plainChar isValue
  simp [plainDigit, isValue, ← size]

/-- Decimal digits are read as a whole number if they are not too many. -/
theorem readInt_of_decimal (digits : isDigits text = true) (decimal : IsDecimal text) :
    readInt text = readDigits false (text.toList.map plainChar) := by
  have plainDigits : ∀ c ∈ text.toList.map plainChar, isPlainDigit c = true := by
    intro c member
    obtain ⟨d, inText, rfl⟩ := List.mem_map.mp member
    obtain ⟨value, isValue⟩ := Option.isSome_iff_exists.mp (decimal d inText)
    exact (isPlainDigit_plainChar isValue).1
  have inNumber : ∀ c ∈ text.toList.map plainChar, (isPlainDigit c || c = '_') = true := by
    intro c member
    simp [plainDigits c member]
  have nonempty : text.toList ≠ [] := (Text.isDigits_iff.mp digits).1
  simp only [readInt, splitSign_of_digits digits]
  rw [List.takeWhile_eq_self_iff.mpr inNumber, List.dropWhile_eq_nil_iff.mpr inNumber,
    ungroup?_of_digits (by decide) plainDigits]
  cases read : readDigits false (text.toList.map plainChar) <;>
    simp [bind, Except.bind, pure, Except.pure, read, nonempty]

/-- The mark of a digit without a place in numbers stays behind them. -/
theorem readInt_of_lone (digits : isDigits text = true) (lone : ¬IsDecimal text) (number : Int) :
    readInt text ≠ .ok number := by
  obtain ⟨c, member, notDecimal⟩ : ∃ c ∈ text.toList, decimalValue? c = none := by
    simpa [IsDecimal] using lone
  have mark : plainChar c = '?' := plainChar_of_lone ((Text.isDigits_iff.mp digits).2 c member) notDecimal
  have behind : (text.toList.map plainChar).dropWhile (fun c => isPlainDigit c || c = '_') ≠ [] := by
    intro none
    have inNumber := List.dropWhile_eq_nil_iff.mp none '?' (List.mem_map.mpr ⟨c, member, mark⟩)
    exact absurd inNumber (by decide)
  simp only [readInt, splitSign_of_digits digits]
  split
  · simp
  · cases readDigits false _ <;> simp [bind, Except.bind, behind]

/-- Digits are read as a whole number where all of them are decimal digits and they are not too many. -/
theorem readInt_of_digits_eq_ok_iff {number : Int} (digits : isDigits text = true) :
    readInt text = .ok number ↔
      IsDecimal text ∧ text.length ≤ digitLimit ∧ number = decimalNumber text := by
  by_cases decimal : IsDecimal text
  · rw [readInt_of_decimal digits decimal, readDigits, valueOf_plain decimal, List.length_map,
      String.length_toList]
    by_cases long : digitLimit < text.length
    · simp [long, Nat.not_le.mpr long]
    · simp [long, Nat.not_lt.mp long, decimal, eq_comm]
  · simp [decimal, readInt_of_lone digits decimal]

end Numeral

end Switchboard
