import Mathlib.Tactic.Ring
import TitanShare.Library.ByteText

/-!
# Numerals in byte strings

Printing a number and reading it back, the texts that a C conversion reads as an integer, and
searching a delimiter from the right.
-/

namespace ByteText

variable {text : Bytes}

/-! ## The last delimiter -/

theorem rfind_append {delimiter : UInt8} (left : Bytes) {right : Bytes}
    (absent : delimiter ∉ right) :
    rfind delimiter (left ++ delimiter :: right) = some left.length := by
  have cut : cutAt delimiter (left ++ delimiter :: right).reverse =
      some (right.reverse, left.reverse) := by
    rw [cutAt_eq_some_iff]
    exact ⟨by simp, by simpa using absent⟩
  rw [rfind, cut]
  simp

/-! ## Printing and reading numbers -/

theorem digitsValue_concat (digits : Bytes) (last : UInt8) :
    digitsValue (digits ++ [last]) = 10 * digitsValue digits + (last.toNat - 48) := by
  simp [digitsValue]

theorem toNat_digit {digit : Nat} (small : digit < 10) :
    (UInt8.ofNat (48 + digit)).toNat = 48 + digit := by
  rw [UInt8.toNat_ofNat']
  omega

theorem isDigit_digit {digit : Nat} (small : digit < 10) :
    isDigit (UInt8.ofNat (48 + digit)) = true := by
  simp only [isDigit, Bool.and_eq_true, decide_eq_true_eq, UInt8.le_iff_toNat_le, toNat_digit small]
  constructor
  · exact Nat.le_add_right 48 digit
  · change 48 + digit ≤ 57
    omega

/-- The digits of a number, with the last one split off. -/
theorem decimal_eq_concat {value : Nat} (large : 10 ≤ value) :
    decimal value = decimal (value / 10) ++ [UInt8.ofNat (48 + value % 10)] := by
  have tens : value / 10 ≠ 0 := by omega
  have positive : 0 < value := by omega
  rw [decimal, decimal, if_neg positive.ne', if_neg tens,
    Nat.digits_def' (by decide) positive]
  simp

theorem decimal_of_lt {value : Nat} (small : value < 10) :
    decimal value = [UInt8.ofNat (48 + value)] := by
  unfold decimal
  split
  · rename_i zero
    subst zero
    rfl
  · rename_i nonzero
    rw [Nat.digits_of_lt 10 value nonzero small]
    rfl

theorem decimal_ne_nil (value : Nat) : decimal value ≠ [] := by
  rcases lt_or_ge value 10 with small | large
  · rw [decimal_of_lt small]
    exact List.cons_ne_nil _ _
  · rw [decimal_eq_concat large]
    simp

theorem isDigit_of_mem_decimal {value : Nat} :
    ∀ current ∈ decimal value, isDigit current = true := by
  induction value using Nat.strong_induction_on with
  | _ value ih =>
      rcases lt_or_ge value 10 with small | large
      · rw [decimal_of_lt small]
        simpa using isDigit_digit small
      · rw [decimal_eq_concat large]
        intro current member
        rcases List.mem_append.mp member with earlier | last
        · exact ih (value / 10) (by omega) current earlier
        · rw [List.mem_singleton.mp last]
          exact isDigit_digit (Nat.mod_lt value (by decide))

@[simp]
theorem digitsValue_decimal (value : Nat) : digitsValue (decimal value) = value := by
  induction value using Nat.strong_induction_on with
  | _ value ih =>
      rcases lt_or_ge value 10 with small | large
      · rw [decimal_of_lt small, ← List.nil_append [_], digitsValue_concat, toNat_digit small]
        simp [digitsValue]
      · rw [decimal_eq_concat large, digitsValue_concat, ih (value / 10) (by omega),
          toNat_digit (Nat.mod_lt value (by decide))]
        omega

/-- A number has as many digits as the powers of ten around it say. -/
theorem length_decimal {count value : Nat} (low : 10 ^ count ≤ value)
    (high : value < 10 ^ (count + 1)) :
    (decimal value).length = count + 1 := by
  induction count generalizing value with
  | zero =>
      rw [decimal_of_lt (by simpa using high)]
      rfl
  | succ count ih =>
      rw [pow_succ] at low high
      have positive : 0 < 10 ^ count := Nat.pow_pos (by decide)
      rw [decimal_eq_concat (by omega), List.length_append, ih (by omega) (by omega)]
      rfl

/-- A positive number is printed without a leading zero. -/
theorem head_decimal {value : Nat} (positive : 0 < value) : (decimal value).head? ≠ some 48 := by
  induction value using Nat.strong_induction_on with
  | _ value ih =>
      rcases lt_or_ge value 10 with small | large
      · rw [decimal_of_lt small, List.head?_cons]
        intro zero
        have digit := congrArg UInt8.toNat (Option.some.inj zero)
        rw [toNat_digit small] at digit
        change 48 + value = 48 at digit
        omega
      · rw [decimal_eq_concat large, List.head?_append_of_ne_nil _ (decimal_ne_nil _)]
        exact ih (value / 10) (by omega) (by omega)

/-! ## The texts that are read as integers -/

/-- A text that is read as an integer, in its parts: blanks, a sign, the digits, and a tail that is
ignored. -/
structure Scans (text blanks sign digits tail : Bytes) : Prop where
  split : text = blanks ++ (sign ++ (digits ++ tail))
  blank : ∀ current ∈ blanks, isSpace current = true
  signed : sign = [] ∨ sign = [byte '+'] ∨ sign = [byte '-']
  nonempty : digits ≠ []
  digit : ∀ current ∈ digits, isDigit current = true
  ends : ∀ current ∈ tail.head?, isDigit current = false

/-- A digit is neither a blank nor a sign. -/
theorem digit_plain {current : UInt8} (digit : isDigit current = true) :
    isSpace current = false ∧ current ≠ byte '-' ∧ current ≠ byte '+' := by
  simp only [isDigit, Bool.and_eq_true, decide_eq_true_eq, UInt8.le_iff_toNat_le] at digit
  have low : 48 ≤ current.toNat := digit.1
  refine ⟨?_, ?_, ?_⟩
  · have above : ¬ current ≤ 13 := by
      rw [UInt8.le_iff_toNat_le]
      exact fun small => absurd (low.trans small) (by decide)
    have notSpace : current ≠ 32 := by
      rintro rfl
      exact absurd low (by decide)
    simp [isSpace, above, notSpace]
  · rintro rfl
    exact absurd low (by decide)
  · rintro rfl
    exact absurd low (by decide)

namespace Scans

variable {blanks sign digits tail : Bytes} (scans : Scans text blanks sign digits tail)

include scans

/-- The digits begin with a digit. -/
theorem exists_digit : ∃ first later, digits = first :: later ∧ isDigit first = true := by
  obtain ⟨first, later, rfl⟩ := List.exists_cons_of_ne_nil scans.nonempty
  exact ⟨first, later, rfl, scans.digit first List.mem_cons_self⟩

theorem dropWhile_blanks : text.dropWhile isSpace = sign ++ (digits ++ tail) := by
  obtain ⟨first, later, rfl, digit⟩ := scans.exists_digit
  rw [scans.split, List.dropWhile_append_of_pos scans.blank]
  rcases scans.signed with rfl | rfl | rfl
  · exact List.dropWhile_cons_of_neg (by simp [(digit_plain digit).1])
  · exact List.dropWhile_cons_of_neg (by decide)
  · exact List.dropWhile_cons_of_neg (by decide)

theorem takeWhile_digits : (digits ++ tail).takeWhile isDigit = digits := by
  rw [List.takeWhile_append_of_pos scans.digit]
  cases tail with
  | nil => exact List.append_nil digits
  | cons first later =>
      rw [List.takeWhile_cons_of_neg (by simp [scans.ends first rfl])]
      exact List.append_nil digits

/-- The sign and the digits are what the conversion reads. -/
theorem scanInteger_eq :
    scanInteger text = some (decide (sign = [byte '-']), digitsValue digits) := by
  obtain ⟨first, later, shape, digit⟩ := scans.exists_digit
  have reads := scans.takeWhile_digits
  rw [scanInteger, scans.dropWhile_blanks]
  rcases scans.signed with rfl | rfl | rfl
  · have positive : (digits ++ tail).head? ≠ some (byte '-') := by
      simp [shape, (digit_plain digit).2.1]
    have unsigned : (digits ++ tail).head? ≠ some (byte '+') := by
      simp [shape, (digit_plain digit).2.2]
    simp [positive, unsigned, reads, scans.nonempty, -List.head?_append]
  · have signed : byte '+' ≠ byte '-' := by decide
    simp [reads, scans.nonempty, signed]
  · simp [reads, scans.nonempty]

end Scans

/-- The digits in front of the rest, behind the blanks and a sign. -/
theorem scans_of_split {sign rest : Bytes} (split : text.takeWhile isSpace ++ (sign ++ rest) = text)
    (nonempty : rest.takeWhile isDigit ≠ [])
    (signed : sign = [] ∨ sign = [byte '+'] ∨ sign = [byte '-']) :
    Scans text (text.takeWhile isSpace) sign (rest.takeWhile isDigit) (rest.dropWhile isDigit) := by
  have blank : ∀ current ∈ text.takeWhile isSpace, isSpace current = true :=
    fun _ member => List.mem_takeWhile_imp member
  refine ⟨?_, blank, signed, nonempty, fun _ member => List.mem_takeWhile_imp member, ?_⟩
  · rw [List.takeWhile_append_dropWhile, split]
  · intro current member
    have stops := List.head?_dropWhile_not isDigit rest
    rw [Option.mem_def] at member
    rwa [member] at stops

/-- Every text that is read as an integer has such parts. -/
theorem exists_scans {negative : Bool} {magnitude : Nat}
    (scanned : scanInteger text = some (negative, magnitude)) :
    ∃ blanks sign digits tail, Scans text blanks sign digits tail ∧
      negative = decide (sign = [byte '-']) ∧ magnitude = digitsValue digits := by
  have split := List.takeWhile_append_dropWhile (p := isSpace) (l := text)
  simp only [scanInteger] at scanned
  generalize text.dropWhile isSpace = body at split scanned
  by_cases signed : body.head? = some (byte '-') ∨ body.head? = some (byte '+')
  · rw [if_pos signed] at scanned
    split at scanned
    · cases scanned
    · rename_i nonempty
      obtain ⟨rfl, rfl⟩ := Prod.mk.inj (Option.some.inj scanned)
      cases body with
      | nil => simp at signed
      | cons first rest =>
          have sign : first = byte '-' ∨ first = byte '+' := by simpa using signed
          refine ⟨_, [first], _, _, scans_of_split split nonempty ?_, by simp, rfl⟩
          rcases sign with rfl | rfl
          · exact .inr (.inr rfl)
          · exact .inr (.inl rfl)
  · rw [if_neg signed] at scanned
    split at scanned
    · cases scanned
    · rename_i nonempty
      obtain ⟨rfl, rfl⟩ := Prod.mk.inj (Option.some.inj scanned)
      have positive : body.head? ≠ some (byte '-') := fun negative => signed (.inl negative)
      refine ⟨_, [], _, _, scans_of_split split nonempty (.inl rfl), ?_, rfl⟩
      simp [positive]

/-- A printed integer is read with its sign and all its digits. -/
theorem scanInteger_decimalInt (value : Int) :
    scanInteger (decimalInt value) = some (decide (value < 0), value.natAbs) := by
  have digits := fun current member => @isDigit_of_mem_decimal value.natAbs current member
  have printed : ∀ sign : Bytes, sign = [] ∨ sign = [byte '+'] ∨ sign = [byte '-'] →
      Scans (sign ++ decimal value.natAbs) [] sign (decimal value.natAbs) [] := by
    intro sign signed
    exact ⟨by simp, by simp, signed, decimal_ne_nil _, digits, by simp⟩
  unfold decimalInt
  split
  · rename_i negative
    rw [← List.singleton_append, (printed _ (.inr (.inr rfl))).scanInteger_eq]
    simp [negative]
  · rename_i positive
    have reads := (printed [] (.inl rfl)).scanInteger_eq
    rw [List.nil_append] at reads
    rw [reads]
    simp [positive]

end ByteText
