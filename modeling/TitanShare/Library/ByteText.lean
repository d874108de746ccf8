import Mathlib.Data.List.DropRight
import Mathlib.Data.Nat.Digits.Defs

/-!
# Byte strings

The string operations of a byte-oriented program: cutting at a delimiter, searching from the
right, trimming, reading lines and words, C integers and C strings.  A byte string is a list of
bytes without any assumption on its encoding.
-/

/-- A byte string. -/
abbrev Bytes := List UInt8

namespace ByteText

/-- The bytes of a text, one for each character below 256. -/
def ascii (text : String) : Bytes :=
  text.toList.map fun character => UInt8.ofNat character.toNat

/-- The byte of a character below 256. -/
def byte (character : Char) : UInt8 :=
  UInt8.ofNat character.toNat

/-! ## Delimiters -/

/-- The text before and the text behind the first delimiter. -/
def cutAt (delimiter : UInt8) : Bytes → Option (Bytes × Bytes)
  | [] => none
  | head :: tail =>
      if head = delimiter then
        some ([], tail)
      else
        (cutAt delimiter tail).map fun parts => (head :: parts.1, parts.2)

theorem cutAt_eq_some_iff {delimiter : UInt8} {text left right : Bytes} :
    cutAt delimiter text = some (left, right) ↔
      text = left ++ delimiter :: right ∧ delimiter ∉ left := by
  induction text generalizing left with
  | nil => simp [cutAt]
  | cons head tail ih =>
      by_cases found : head = delimiter
      · subst head
        cases left with
        | nil => simp [cutAt, eq_comm]
        | cons first rest =>
            simp only [cutAt, if_true, Option.some.injEq, Prod.mk.injEq, List.nil_eq,
              List.cons_append, List.cons.injEq, List.mem_cons, not_or]
            constructor
            · rintro ⟨impossible, _⟩
              cases impossible
            · rintro ⟨⟨same, _⟩, different, _⟩
              exact absurd same different
      · cases left with
        | nil => simp [cutAt, found]
        | cons first rest =>
            simp only [cutAt, found, if_false, Option.map_eq_some_iff, Prod.exists,
              Prod.mk.injEq, List.cons.injEq, List.cons_append, List.mem_cons, not_or]
            constructor
            · rintro ⟨front, back, cut, ⟨rfl, rfl⟩, rfl⟩
              obtain ⟨split, absent⟩ := ih.mp cut
              exact ⟨⟨rfl, split⟩, fun same => found same.symm, absent⟩
            · rintro ⟨⟨rfl, split⟩, _, absent⟩
              exact ⟨rest, right, ih.mpr ⟨split, absent⟩, ⟨rfl, rfl⟩, rfl⟩

theorem cutAt_eq_none_iff {delimiter : UInt8} {text : Bytes} :
    cutAt delimiter text = none ↔ delimiter ∉ text := by
  induction text with
  | nil => simp [cutAt]
  | cons head tail ih =>
      by_cases found : head = delimiter
      · simp [cutAt, found]
      · simp only [cutAt, found, if_false, Option.map_eq_none_iff, ih, List.mem_cons, not_or]
        exact (and_iff_right fun same => found same.symm).symm

/-- A beginning of a text that holds a delimiter holds all in front of the first one. -/
theorem eq_append_of_mem {delimiter : UInt8} {front back left right : Bytes}
    (shape : front ++ back = left ++ delimiter :: right) (absent : delimiter ∉ left)
    (member : delimiter ∈ front) : ∃ rest, front = left ++ delimiter :: rest := by
  rcases List.append_eq_append_iff.mp shape with ⟨more, longer, _⟩ | ⟨more, shorter, rest⟩
  · rw [longer] at absent
    exact absurd (List.mem_append_left _ member) absent
  · cases more with
    | nil =>
        rw [shorter, List.append_nil] at member
        exact absurd member absent
    | cons head tail =>
        rw [List.cons_append, List.cons.injEq] at rest
        exact ⟨tail, by rw [shorter, rest.1]⟩

theorem length_of_cutAt {delimiter : UInt8} {text left right : Bytes}
    (cut : cutAt delimiter text = some (left, right)) :
    text.length = left.length + 1 + right.length := by
  rw [(cutAt_eq_some_iff.mp cut).1]
  simp
  omega

/-- The position of the last delimiter (`std::string::rfind`). -/
def rfind (delimiter : UInt8) (text : Bytes) : Option Nat :=
  (cutAt delimiter text.reverse).map fun parts => text.length - 1 - parts.1.length

/-- The text before its first NUL, as a C interface reads it. -/
def cString (text : Bytes) : Bytes :=
  text.takeWhile (· ≠ 0)

/-- Replace every occurrence of one byte (`std::replace`). -/
def replace (old new : UInt8) (text : Bytes) : Bytes :=
  text.map fun current => if current = old then new else current

/-! ## White space, lines and words -/

/-- `std::isspace` in the C locale. -/
def isSpace (current : UInt8) : Bool :=
  current == 32 || (9 ≤ current && current ≤ 13)

/-- `std::getline` until it fails: the lines of `rest` behind the started line `current`. -/
def linesFrom (current : Bytes) : Bytes → List Bytes
  | [] => if current = [] then [] else [current]
  | head :: tail =>
      if head = 10 then current :: linesFrom [] tail else linesFrom (current ++ [head]) tail

/-- The lines of a text. -/
def lines (text : Bytes) : List Bytes :=
  linesFrom [] text

/-- Stream extraction of one word: skip white space, then take the bytes up to white space. -/
def word (text : Bytes) : Option (Bytes × Bytes) :=
  let body := text.dropWhile isSpace
  if body = [] then none
  else some (body.takeWhile (!isSpace ·), body.dropWhile (!isSpace ·))

/-! ## Integers -/

/-- An ASCII decimal digit. -/
def isDigit (current : UInt8) : Bool :=
  48 ≤ current && current ≤ 57

/-- The value of a string of digits. -/
def digitsValue (digits : Bytes) : Nat :=
  digits.foldl (fun value digit => 10 * value + (digit.toNat - 48)) 0

/-- The sign and the magnitude that `strtol` reads: leading white space, an optional sign and the
longest run of digits.  There is no conversion when the run is empty. -/
def scanInteger (text : Bytes) : Option (Bool × Nat) :=
  let body := text.dropWhile isSpace
  let signed := body.head? = some (byte '-') ∨ body.head? = some (byte '+')
  let digits := (if signed then body.tail else body).takeWhile isDigit
  if digits = [] then none
  else some (body.head? = some (byte '-'), digitsValue digits)

/-- `std::to_string` of an unsigned value. -/
def decimal (value : Nat) : Bytes :=
  if value = 0 then [48]
  else (Nat.digits 10 value).reverse.map fun digit => UInt8.ofNat (48 + digit)

/-- `std::to_string` of a signed value. -/
def decimalInt (value : Int) : Bytes :=
  if value < 0 then byte '-' :: decimal value.natAbs else decimal value.natAbs

end ByteText
