import TitanShare.Library.ByteText
import TitanShare.Library.Outcome

/-!
# Exceptions, conversions and JSON text

The standard conversions that throw, and the part of the vendored JSON serialiser the daemon uses:
compact objects and arrays, and strings checked byte by byte as UTF-8 by the strict default
handler.
-/

namespace TitanShare

open ByteText Outcome

/-- The C++ exceptions that the modelled code can raise. -/
inductive Exception
  | invalidArgument
  | outOfRange
  | filesystemError
  | typeError
  | systemError
  deriving DecidableEq

/-- `std::stoi` -/
def stoi (text : Bytes) : Except Exception Int :=
  match scanInteger text with
  | none => .error .invalidArgument
  | some (negative, magnitude) =>
      let value : Int := if negative then -magnitude else magnitude
      if -2 ^ 31 ≤ value ∧ value < 2 ^ 31 then .ok value else .error .outOfRange

/-- `std::stoull`; a sign is accepted and wraps. -/
def stoull (text : Bytes) : Except Exception Nat :=
  match scanInteger text with
  | none => .error .invalidArgument
  | some (negative, magnitude) =>
      if 2 ^ 64 ≤ magnitude then .error .outOfRange
      else if negative then .ok ((2 ^ 64 - magnitude) % 2 ^ 64)
      else .ok magnitude

namespace Json

/-! ## The UTF-8 automaton of the serialiser -/

/-- The character class of a byte, the first 256 entries of `utf8d`. -/
def byteClass (current : UInt8) : Nat :=
  if current < 0x80 then 0
  else if current < 0x90 then 1
  else if current < 0xA0 then 9
  else if current < 0xC0 then 7
  else if current < 0xC2 then 8
  else if current < 0xE0 then 2
  else if current = 0xE0 then 10
  else if current = 0xED then 4
  else if current < 0xF0 then 3
  else if current = 0xF0 then 11
  else if current < 0xF4 then 6
  else if current = 0xF4 then 5
  else 8

/-- The transition rows of `utf8d`, states `s0` to `s8`. -/
def transitions : List (List Nat) :=
  [[0, 1, 2, 3, 5, 8, 7, 1, 1, 1, 4, 6, 1, 1, 1, 1],
   [1, 1, 1, 1, 1, 1, 1, 1, 1, 1, 1, 1, 1, 1, 1, 1],
   [1, 0, 1, 1, 1, 1, 1, 0, 1, 0, 1, 1, 1, 1, 1, 1],
   [1, 2, 1, 1, 1, 1, 1, 2, 1, 2, 1, 1, 1, 1, 1, 1],
   [1, 1, 1, 1, 1, 1, 1, 2, 1, 1, 1, 1, 1, 1, 1, 1],
   [1, 2, 1, 1, 1, 1, 1, 1, 1, 2, 1, 1, 1, 1, 1, 1],
   [1, 1, 1, 1, 1, 1, 1, 3, 1, 3, 1, 1, 1, 1, 1, 1],
   [1, 3, 1, 1, 1, 1, 1, 3, 1, 3, 1, 1, 1, 1, 1, 1],
   [1, 3, 1, 1, 1, 1, 1, 1, 1, 1, 1, 1, 1, 1, 1, 1]]

/-- `decode`: the state after one more byte; 0 accepts and 1 rejects. -/
def decode (state : Nat) (current : UInt8) : Nat :=
  (transitions.getD state []).getD (byteClass current) 1

/-- The automaton ends in its accepting state without ever rejecting. -/
def accepts : Nat → Bytes → Bool
  | state, [] => state == 0
  | state, head :: tail => decode state head != 1 && accepts (decode state head) tail

/-- Well-formed UTF-8, as the serialiser decides it. -/
def validUtf8 (text : Bytes) : Bool :=
  accepts 0 text

/-! ## Serialisation -/

/-- The lower-case hexadecimal digit of a value below 16. -/
def hexDigit (value : Nat) : UInt8 :=
  if value < 10 then UInt8.ofNat (48 + value) else UInt8.ofNat (87 + value)

/-- The escaped form of a one-byte code point. -/
def escape (current : UInt8) : Bytes :=
  if current = 0x08 then ascii "\\b"
  else if current = 0x09 then ascii "\\t"
  else if current = 0x0A then ascii "\\n"
  else if current = 0x0C then ascii "\\f"
  else if current = 0x0D then ascii "\\r"
  else if current = 0x22 then ascii "\\\""
  else if current = 0x5C then ascii "\\\\"
  else if current ≤ 0x1F then
    ascii "\\u00" ++ [hexDigit (current.toNat / 16), hexDigit (current.toNat % 16)]
  else [current]

/-- `dump_escaped` from a decoder state.  Only one-byte code points are ever escaped, since the
automaton rejects overlong forms. -/
def dumpEscapedFrom : Nat → Bytes → Except Exception Bytes
  | state, [] => if state = 0 then .ok [] else .error .typeError
  | state, head :: tail =>
      if decode state head = 1 then .error .typeError
      else
        match dumpEscapedFrom (decode state head) tail with
        | .error exception => .error exception
        | .ok rest =>
            .ok ((if state = 0 ∧ decode state head = 0 then escape head else [head]) ++ rest)

/-- A JSON string. -/
def string (text : Bytes) : Except Exception Bytes :=
  match dumpEscapedFrom 0 text with
  | .error exception => .error exception
  | .ok body => .ok (byte '"' :: body ++ [byte '"'])

/-- A JSON array of serialised elements. -/
def array (elements : List Bytes) : Bytes :=
  byte '[' :: List.intercalate [byte ','] elements ++ [byte ']']

/-- A JSON object of serialised members; the keys are given in their sorted order. -/
def object (members : List (String × Bytes)) : Bytes :=
  byte '{' ::
    List.intercalate [byte ',']
      (members.map fun member => byte '"' :: ascii member.1 ++ ascii "\":" ++ member.2) ++
    [byte '}']

theorem dumpEscapedFrom_yields_iff (state : Nat) (text : Bytes) :
    Yields (dumpEscapedFrom state text) ↔ accepts state text = true := by
  induction text generalizing state with
  | nil =>
      by_cases accepting : state = 0
      · simp [dumpEscapedFrom, accepts, accepting]
      · simp [dumpEscapedFrom, accepts, accepting]
  | cons head tail ih =>
      by_cases rejected : decode state head = 1
      · simp [dumpEscapedFrom, accepts, rejected]
      · have later := ih (decode state head)
        simp only [dumpEscapedFrom, accepts, rejected, if_false, Bool.and_eq_true, bne_iff_ne,
          ne_eq, not_false_eq_true, true_and, ← later]
        cases dumpEscapedFrom (decode state head) tail with
        | error exception => simp
        | ok rest => simp

/-- The strict handler raises exactly on text that is not UTF-8. -/
@[simp]
theorem string_yields_iff (text : Bytes) :
    Yields (string text) ↔ validUtf8 text = true := by
  rw [validUtf8, ← dumpEscapedFrom_yields_iff, string]
  cases dumpEscapedFrom 0 text with
  | error exception => simp
  | ok body => simp

end Json
end TitanShare
