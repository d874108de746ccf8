import TitanShare.Json
import TitanShare.Library.PassLoop

/-!
# Reading JSON text

The vendored JSON parser as `json::parse` runs it: the scanner byte by byte, and the loop of
`sax_parse_internal` with its stack of unfinished arrays and objects.  Every pass of the loop moves
forward in the text, so the loop ends by itself.
-/

namespace TitanShare
namespace Json

open ByteText PassLoop

/-- A JSON value.  A number is kept as its text, and the members of an object in the order of a
`std::map`. -/
inductive Value
  | null
  | boolean (value : Bool)
  | number (text : Bytes)
  | string (text : Bytes)
  | array (elements : List Value)
  | object (members : List (Bytes × Value))

/-- The tokens that `scan` returns. -/
inductive Token
  | literalTrue
  | literalFalse
  | literalNull
  | valueString (text : Bytes)
  | valueNumber (text : Bytes)
  | beginArray
  | beginObject
  | endArray
  | endObject
  | nameSeparator
  | valueSeparator
  | parseError
  | endOfInput
  deriving DecidableEq

/-! ## Strings -/

/-- The ranges that `next_byte_in_range` gets for the first byte of a character. -/
def followers (current : UInt8) : Option (List (UInt8 × UInt8)) :=
  if current < 0x20 then none
  else if current < 0x80 then some []
  else if current < 0xC2 then none
  else if current < 0xE0 then some [(0x80, 0xBF)]
  else if current = 0xE0 then some [(0xA0, 0xBF), (0x80, 0xBF)]
  else if current = 0xED then some [(0x80, 0x9F), (0x80, 0xBF)]
  else if current < 0xF0 then some [(0x80, 0xBF), (0x80, 0xBF)]
  else if current = 0xF0 then some [(0x90, 0xBF), (0x80, 0xBF), (0x80, 0xBF)]
  else if current < 0xF4 then some [(0x80, 0xBF), (0x80, 0xBF), (0x80, 0xBF)]
  else if current = 0xF4 then some [(0x80, 0x8F), (0x80, 0xBF), (0x80, 0xBF)]
  else none

def hexValue (current : UInt8) : Option Nat :=
  if byte '0' ≤ current ∧ current ≤ byte '9' then some (current.toNat - 0x30)
  else if byte 'A' ≤ current ∧ current ≤ byte 'F' then some (current.toNat - 0x37)
  else if byte 'a' ≤ current ∧ current ≤ byte 'f' then some (current.toNat - 0x57)
  else none

/-- The bytes of a code point. -/
def utf8Bytes (codepoint : Nat) : Bytes :=
  if codepoint < 0x80 then [UInt8.ofNat codepoint]
  else if codepoint ≤ 0x7FF then
    [UInt8.ofNat (0xC0 + codepoint / 64), UInt8.ofNat (0x80 + codepoint % 64)]
  else if codepoint ≤ 0xFFFF then
    [UInt8.ofNat (0xE0 + codepoint / 4096), UInt8.ofNat (0x80 + codepoint / 64 % 64),
      UInt8.ofNat (0x80 + codepoint % 64)]
  else
    [UInt8.ofNat (0xF0 + codepoint / 262144), UInt8.ofNat (0x80 + codepoint / 4096 % 64),
      UInt8.ofNat (0x80 + codepoint / 64 % 64), UInt8.ofNat (0x80 + codepoint % 64)]

/-- Where `scan_string` stands in front of its next `get`. -/
inductive StringPlace
  /-- In front of a character. -/
  | character
  /-- Inside a character that goes on with bytes of these ranges. -/
  | inside (range : UInt8 × UInt8) (later : List (UInt8 × UInt8))
  | escape
  /-- Inside `\u`, behind a high surrogate if there is one. -/
  | hex (high : Option Nat) (value missing : Nat)
  /-- Behind a high surrogate, in front of the backslash. -/
  | lowEscape (high : Nat)
  /-- Behind that backslash. -/
  | lowUnicode (high : Nat)
  deriving DecidableEq

def StringPlace.expecting : List (UInt8 × UInt8) → StringPlace
  | [] => character
  | range :: later => inside range later

/-- What one `get` of `scan_string` leads to. -/
inductive StringStep
  | adds (bytes : Bytes) (place : StringPlace)
  | closes
  | fails
  deriving DecidableEq

/-- The four digits of `\u` have been read. -/
def codepointRead (high : Option Nat) (codepoint : Nat) : StringStep :=
  match high with
  | none =>
      if 0xD800 ≤ codepoint ∧ codepoint ≤ 0xDBFF then .adds [] (.lowEscape codepoint)
      else if 0xDC00 ≤ codepoint ∧ codepoint ≤ 0xDFFF then .fails
      else .adds (utf8Bytes codepoint) .character
  | some first =>
      if 0xDC00 ≤ codepoint ∧ codepoint ≤ 0xDFFF then
        .adds (utf8Bytes (first * 1024 + codepoint - 0x35FDC00)) .character
      else .fails

def StringPlace.get (current : UInt8) : StringPlace → StringStep
  | character =>
      if current = byte '"' then .closes
      else if current = byte '\\' then .adds [] escape
      else
        match followers current with
        | none => .fails
        | some ranges => .adds [current] (expecting ranges)
  | inside range later =>
      if range.1 ≤ current ∧ current ≤ range.2 then .adds [current] (expecting later) else .fails
  | escape =>
      if current = byte '"' ∨ current = byte '\\' ∨
        current = byte '/' then .adds [current] character
      else if current = byte 'b' then .adds [0x08] character
      else if current = byte 'f' then .adds [0x0C] character
      else if current = byte 'n' then .adds [0x0A] character
      else if current = byte 'r' then .adds [0x0D] character
      else if current = byte 't' then .adds [0x09] character
      else if current = byte 'u' then .adds [] (hex none 0 4)
      else .fails
  | hex high value missing =>
      match hexValue current with
      | none => .fails
      | some digit =>
          if 1 < missing then .adds [] (hex high (value * 16 + digit) (missing - 1))
          else codepointRead high (value * 16 + digit)
  | lowEscape high => if current = byte '\\' then .adds [] (lowUnicode high) else .fails
  | lowUnicode high => if current = byte 'u' then .adds [] (hex (some high) 0 4) else .fails

/-- `scan_string` behind the opening quote: the string, and the text behind its closing quote. -/
def scanString : StringPlace → Bytes → Option (Bytes × Bytes)
  | _, [] => none
  | place, current :: rest =>
      match place.get current with
      | .fails => none
      | .closes => some ([], rest)
      | .adds bytes next => (scanString next rest).map fun scanned =>
          (bytes ++ scanned.1, scanned.2)

/-! ## Numbers -/

/-- The labels of `scan_number`. -/
inductive NumberPlace
  | minus
  | zero
  | any1
  | decimal1
  | decimal2
  | exponent
  | sign
  | any2
  deriving DecidableEq

def isExponent (current : UInt8) : Bool :=
  current == byte 'e' || current == byte 'E'

/-- The label behind one more byte of the number, if the byte belongs to it. -/
def NumberPlace.next (current : UInt8) : NumberPlace → Option NumberPlace
  | minus => if current = byte '0' then some zero else if isDigit current then some any1 else none
  | zero =>
      if current = byte '.' then some decimal1
        else if isExponent current then some exponent else none
  | any1 =>
      if isDigit current then some any1
      else if current = byte '.' then some decimal1
      else if isExponent current then some exponent
      else none
  | decimal1 => if isDigit current then some decimal2 else none
  | decimal2 =>
      if isDigit current then some decimal2 else if isExponent current then some exponent else none
  | exponent =>
      if current = byte '+' ∨ current = byte '-' then some sign
      else if isDigit current then some any2
      else none
  | sign => if isDigit current then some any2 else none
  | any2 => if isDigit current then some any2 else none

/-- The labels from which `scan_number` can go to `scan_number_done`. -/
def NumberPlace.complete : NumberPlace → Bool
  | zero | any1 | decimal2 | any2 => true
  | minus | decimal1 | exponent | sign => false

/-- `scan_number` behind its first byte: the rest of the number, and the text behind it. -/
def scanNumber : NumberPlace → Bytes → Option (Bytes × Bytes)
  | place, [] => if place.complete then some ([], []) else none
  | place, current :: rest =>
      match place.next current with
      | some next => (scanNumber next rest).map fun scanned => (current :: scanned.1, scanned.2)
      | none => if place.complete then some ([], current :: rest) else none

/-- The label for the first byte of a number. -/
def numberStart (current : UInt8) : Option NumberPlace :=
  if current = byte '-' then some .minus
  else if current = byte '0' then some .zero
  else if isDigit current then some .any1
  else none

/-- Half a step above the largest `double`. -/
def doubleBound (power : Nat) : Nat :=
  (2 ^ 54 - 1) * 2 ^ power

/-- The value of a number text does not fit into a `double`: it is rounded to infinity. -/
def exceedsDouble (text : Bytes) : Bool :=
  let body := if text.head? = some (byte '-') then text.tail else text
  let mantissa := body.takeWhile (!isExponent ·)
  let exponent := (body.dropWhile (!isExponent ·)).tail
  let whole := mantissa.takeWhile isDigit
  let fraction := (mantissa.dropWhile isDigit).tail
  let digits := digitsValue (whole ++ fraction)
  let power : Int :=
    match scanInteger exponent with
    | none => 0
    | some (negative, magnitude) => if negative then -magnitude else magnitude
  let scale := power - fraction.length
  digits != 0 && decide (doubleBound 970 * 10 ^ (-scale).toNat ≤ digits * 10 ^ scale.toNat)

/-! ## Tokens -/

/-- `scan_literal` behind its first byte. -/
def scanLiteral (literal : Bytes) (token : Token) (text : Bytes) : Token × Bytes :=
  if literal.isPrefixOf text then (token, text.drop literal.length) else (.parseError, [])

def isJsonSpace (current : UInt8) : Bool :=
  current == byte ' ' || current == 9 || current == 10 || current == 13

def stringToken (rest : Bytes) : Token × Bytes :=
  match scanString .character rest with
  | none => (.parseError, [])
  | some (text, later) => (.valueString text, later)

/-- A number, or no token at all. -/
def numberToken (current : UInt8) (rest : Bytes) : Token × Bytes :=
  match (numberStart current).bind (scanNumber · rest) with
  | none => (.parseError, [])
  | some (text, later) => (.valueNumber (current :: text), later)

/-- The token that begins with a byte; the scanner does not go on behind an error. -/
def tokenAt (current : UInt8) (rest : Bytes) : Token × Bytes :=
  if current = byte '[' then (.beginArray, rest)
  else if current = byte ']' then (.endArray, rest)
  else if current = 123 then (.beginObject, rest)
  else if current = 125 then (.endObject, rest)
  else if current = byte ':' then (.nameSeparator, rest)
  else if current = byte ',' then (.valueSeparator, rest)
  else if current = byte 't' then scanLiteral (ascii "rue") .literalTrue rest
  else if current = byte 'f' then scanLiteral (ascii "alse") .literalFalse rest
  else if current = byte 'n' then scanLiteral (ascii "ull") .literalNull rest
  else if current = byte '"' then stringToken rest
  else if current = 0 then (.endOfInput, rest)
  else numberToken current rest

/-- `scan`, behind the byte order mark: the next token and the text behind it. -/
def scan (text : Bytes) : Token × Bytes :=
  match text.dropWhile isJsonSpace with
  | [] => (.endOfInput, [])
  | current :: rest => tokenAt current rest

/-! ## Values -/

/-- An unfinished array or object of the stack, an object with the key whose value is awaited. -/
inductive Frame
  | array (elements : List Value)
  | object (members : List (Bytes × Value)) (key : Bytes)

/-- `operator[]` of the `std::map`, and the assignment to it. -/
def insertMember (key : Bytes) (value : Value) : List (Bytes × Value) → List (Bytes × Value)
  | [] => [(key, value)]
  | (other, held) :: rest =>
      if key = other then (key, value) :: rest
      else if key < other then (key, value) :: (other, held) :: rest
      else (other, held) :: insertMember key value rest

/-- The loop of `sax_parse_internal`, in front of the switch on the last token or, with a value
behind it, in front of the evaluation of the state. -/
inductive Parsing
  | token (stack : List Frame) (token : Token) (rest : Bytes)
  | value (stack : List Frame) (value : Value) (rest : Bytes)

namespace Parsing

/-- A member begins: its key, the separator, and the first token of its value. -/
def member (stack : List Frame) (members : List (Bytes × Value)) (scanned : Token × Bytes) :
    Pass Parsing (Option (Value × Bytes)) :=
  match scanned with
  | (.valueString key, rest) =>
      match scan rest with
      | (.nameSeparator, later) =>
          .again (token (.object members key :: stack) (scan later).1 (scan later).2)
      | _ => .leave none
  | _ => .leave none

/-- One pass of the loop; `none` stands for the exception. -/
def pass : Parsing → Pass Parsing (Option (Value × Bytes))
  | token stack .beginObject rest =>
      if (scan rest).1 = .endObject then .again (value stack (.object []) (scan rest).2)
      else member stack [] (scan rest)
  | token stack .beginArray rest =>
      if (scan rest).1 = .endArray then .again (value stack (.array []) (scan rest).2)
      else .again (token (.array [] :: stack) (scan rest).1 (scan rest).2)
  | token stack .literalTrue rest => .again (value stack (.boolean true) rest)
  | token stack .literalFalse rest => .again (value stack (.boolean false) rest)
  | token stack .literalNull rest => .again (value stack .null rest)
  | token stack (.valueString text) rest => .again (value stack (.string text) rest)
  | token stack (.valueNumber text) rest =>
      if exceedsDouble text then .leave none else .again (value stack (.number text) rest)
  | token _ _ _ => .leave none
  | value [] result rest => .leave (some (result, rest))
  | value (.array elements :: stack) result rest =>
      match scan rest with
      | (.valueSeparator, later) =>
          .again (token (.array (elements ++ [result]) :: stack) (scan later).1 (scan later).2)
      | (.endArray, later) => .again (value stack (.array (elements ++ [result])) later)
      | _ => .leave none
  | value (.object members key :: stack) result rest =>
      match scan rest with
      | (.valueSeparator, later) => member stack (insertMember key result members) (scan later)
      | (.endObject, later) =>
          .again (value stack (.object (insertMember key result members)) later)
      | _ => .leave none

/-- The text in front of the loop; a token that is still to be looked at counts too. -/
def measure : Parsing → Nat
  | token _ .endOfInput rest => 3 * rest.length + 1
  | token _ _ rest => 3 * rest.length + 2
  | value _ _ rest => 3 * rest.length

end Parsing

/-! ## The loop ends -/

theorem scanString_shortens {place : StringPlace} {text read rest : Bytes}
    (scanned : scanString place text = some (read, rest)) : rest.length < text.length := by
  induction text generalizing place read with
  | nil => cases scanned
  | cons current later ih =>
      rw [scanString] at scanned
      split at scanned
      · cases scanned
      · cases scanned
        exact Nat.lt_succ_self _
      · obtain ⟨⟨front, back⟩, inner, same⟩ := Option.map_eq_some_iff.mp scanned
        obtain ⟨-, rfl⟩ := Prod.mk.inj same
        exact (ih inner).trans (Nat.lt_succ_self _)

theorem scanNumber_length {place : NumberPlace} {text read rest : Bytes}
    (scanned : scanNumber place text = some (read, rest)) : rest.length ≤ text.length := by
  induction text generalizing place read with
  | nil =>
      rw [scanNumber] at scanned
      split at scanned
      · cases scanned
        exact le_refl _
      · cases scanned
  | cons current later ih =>
      rw [scanNumber] at scanned
      split at scanned
      · obtain ⟨⟨front, back⟩, inner, same⟩ := Option.map_eq_some_iff.mp scanned
        obtain ⟨-, rfl⟩ := Prod.mk.inj same
        exact (ih inner).trans (Nat.le_succ _)
      · split at scanned
        · cases scanned
          exact le_refl _
        · cases scanned

theorem scanLiteral_length (literal : Bytes) (token : Token) (text : Bytes) :
    (scanLiteral literal token text).2.length ≤ text.length := by
  unfold scanLiteral
  split
  · rw [List.length_drop]
    exact Nat.sub_le _ _
  · exact Nat.zero_le _

theorem stringToken_length (rest : Bytes) : (stringToken rest).2.length ≤ rest.length := by
  unfold stringToken
  split
  · exact Nat.zero_le _
  · rename_i scanned
    exact (scanString_shortens scanned).le

theorem numberToken_length (current : UInt8) (rest : Bytes) :
    (numberToken current rest).2.length ≤ rest.length := by
  unfold numberToken
  split
  · exact Nat.zero_le _
  · rename_i found
    obtain ⟨place, _, scanned⟩ := Option.bind_eq_some_iff.mp found
    exact scanNumber_length scanned

theorem tokenAt_length (current : UInt8) (rest : Bytes) :
    (tokenAt current rest).2.length ≤ rest.length := by
  unfold tokenAt
  repeat' split
  all_goals first
    | exact le_refl _
    | exact scanLiteral_length _ _ _
    | exact stringToken_length rest
    | exact numberToken_length current rest

/-- A token takes at least one byte, unless the text is over. -/
theorem scan_shortens (text : Bytes) :
    (scan text).2.length < text.length ∨ scan text = (.endOfInput, []) := by
  have shorter := List.length_dropWhile_le isJsonSpace text
  unfold scan
  generalize text.dropWhile isJsonSpace = body at shorter ⊢
  cases body with
  | nil => exact .inr rfl
  | cons current rest =>
      rw [List.length_cons] at shorter
      have length := tokenAt_length current rest
      refine .inl ?_
      change (tokenAt current rest).2.length < _
      omega

namespace Parsing

theorem measure_token_le (stack : List Frame) (token : Token) (rest : Bytes) :
    (Parsing.token stack token rest).measure ≤ 3 * rest.length + 2 := by
  cases token with
  | endOfInput => exact Nat.le_succ _
  | _ => exact le_refl _

/-- The next token is in front of less text than there was. -/
theorem measure_scan (stack : List Frame) (text : Bytes) :
    (Parsing.token stack (scan text).1 (scan text).2).measure ≤ 3 * text.length + 1 := by
  rcases scan_shortens text with shorter | done
  · have bound := measure_token_le stack (scan text).1 (scan text).2
    omega
  · rw [done]
    exact Nat.le_add_left _ _

theorem member_shortens {stack : List Frame} {members : List (Bytes × Value)} {text : Bytes}
    {next : Parsing} (goes : member stack members (scan text) = .again next) :
    next.measure ≤ 3 * text.length + 1 := by
  have first := scan_shortens text
  unfold member at goes
  split at goes
  · rename_i key rest scanned
    rw [scanned] at first
    split at goes
    · rename_i later separated
      have second := scan_shortens rest
      rw [separated] at second
      obtain rfl := Pass.again.inj goes
      have third := measure_scan (.object members key :: stack) later
      simp only [Prod.mk.injEq, reduceCtorEq, false_and, or_false] at first second
      omega
    · cases goes
  · cases goes

theorem goes_shortens {before after : Parsing} (goes : Goes pass before after) :
    after.measure < before.measure := by
  unfold Goes at goes
  cases before with
  | token stack token rest =>
      have next := scan_shortens rest
      cases token with
      | beginObject =>
          simp only [pass] at goes
          change _ < 3 * rest.length + 2
          split at goes
          · obtain rfl := Pass.again.inj goes
            change 3 * (scan rest).2.length < _
            rcases next with shorter | done
            · omega
            · rw [done]
              exact Nat.lt_add_left _ (by decide)
          · exact Nat.lt_succ_of_le (member_shortens goes)
      | beginArray =>
          simp only [pass] at goes
          change _ < 3 * rest.length + 2
          split at goes
          · obtain rfl := Pass.again.inj goes
            change 3 * (scan rest).2.length < _
            rcases next with shorter | done
            · omega
            · rw [done]
              exact Nat.lt_add_left _ (by decide)
          · obtain rfl := Pass.again.inj goes
            exact Nat.lt_succ_of_le (measure_scan _ _)
      | literalTrue | literalFalse | literalNull | valueString =>
          obtain rfl := Pass.again.inj goes
          exact Nat.lt_add_of_pos_right (by decide)
      | valueNumber text =>
          simp only [pass] at goes
          split at goes
          · cases goes
          · obtain rfl := Pass.again.inj goes
            exact Nat.lt_add_of_pos_right (by decide)
      | endArray | endObject | nameSeparator | valueSeparator | parseError | endOfInput =>
          cases goes
  | value stack result rest =>
      have next := scan_shortens rest
      change _ < 3 * rest.length
      cases stack with
      | nil => cases goes
      | cons frame stack =>
          cases frame with
          | array elements =>
              simp only [pass] at goes
              split at goes
              · rename_i later scanned
                rw [scanned] at next
                obtain rfl := Pass.again.inj goes
                have bound := measure_scan (.array (elements ++ [result]) :: stack) later
                simp only [Prod.mk.injEq, reduceCtorEq, false_and, or_false] at next
                omega
              · rename_i later scanned
                rw [scanned] at next
                obtain rfl := Pass.again.inj goes
                simp only [Prod.mk.injEq, reduceCtorEq, false_and, or_false] at next
                change 3 * later.length < _
                omega
              · cases goes
          | object members key =>
              simp only [pass] at goes
              split at goes
              · rename_i later scanned
                rw [scanned] at next
                have bound := member_shortens goes
                simp only [Prod.mk.injEq, reduceCtorEq, false_and, or_false] at next
                omega
              · rename_i later scanned
                rw [scanned] at next
                obtain rfl := Pass.again.inj goes
                simp only [Prod.mk.injEq, reduceCtorEq, false_and, or_false] at next
                change 3 * later.length < _
                omega
              · cases goes

end Parsing

/-- `skip_bom` -/
def skipBom (text : Bytes) : Option Bytes :=
  if text.head? = some 0xEF then
    if text.take 3 = [0xEF, 0xBB, 0xBF] then some (text.drop 3) else none
  else some text

/-- The check of strict mode that the text is over. -/
def finish : Option (Value × Bytes) → Option Value
  | some (result, rest) => if (scan rest).1 = .endOfInput then some result else none
  | none => none

/-- `json::parse` of a whole text; `none` stands for its exceptions. -/
def parse (text : Bytes) : Option Value :=
  match skipBom text with
  | none => none
  | some body =>
      let start : Parsing := .token [] (scan body).1 (scan body).2
      finish (run Parsing.pass (fun _ => none) (start.measure + 1) start)

/-- A text without byte order mark holds the value at which its loop leaves. -/
theorem parse_eq_some {text rest : Bytes} {result : Value} (unmarked : text.head? ≠ some 0xEF)
    (exits : Exits Parsing.pass (.token [] (scan text).1 (scan text).2) (some (result, rest)))
    (ends : (scan rest).1 = .endOfInput) : parse text = some result := by
  let start : Parsing := .token [] (scan text).1 (scan text).2
  have runs : Exits Parsing.pass start
      (run Parsing.pass (fun _ => none) (start.measure + 1) start) :=
    run_exits _ Parsing.measure Parsing.goes_shortens (Nat.lt_succ_self _)
  obtain ⟨last, visits, leaves⟩ := exits
  have same := runs.eq_of_leave visits leaves
  simp only [parse, skipBom, if_neg unmarked]
  rw [show run Parsing.pass (fun _ => none) (start.measure + 1) start =
    some (result, rest) from same]
  exact if_pos ends

end Json
end TitanShare
