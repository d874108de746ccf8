import TitanShare.JsonParser
import TitanShare.Library.Numerals

/-!
# JSON text that is read back

What the serialiser writes, the parser reads as the same value: the scanner follows the UTF-8
automaton of the serialiser through a string, and the loop takes the members of an array or object
one by one.  The rules compose, so the text of a nested value is read back as soon as its parts are.
-/

namespace TitanShare
namespace Json

open ByteText PassLoop

/-! ## Strings -/

/-- Where the scanner stands when the serialiser is in a state of its automaton. -/
def placeOf : Nat → StringPlace
  | 2 => .expecting [(0x80, 0xBF)]
  | 3 => .expecting [(0x80, 0xBF), (0x80, 0xBF)]
  | 4 => .expecting [(0xA0, 0xBF), (0x80, 0xBF)]
  | 5 => .expecting [(0x80, 0x9F), (0x80, 0xBF)]
  | 6 => .expecting [(0x90, 0xBF), (0x80, 0xBF), (0x80, 0xBF)]
  | 7 => .expecting [(0x80, 0xBF), (0x80, 0xBF), (0x80, 0xBF)]
  | 8 => .expecting [(0x80, 0x8F), (0x80, 0xBF), (0x80, 0xBF)]
  | _ => .character

/-- The bytes that a piece of text adds, and the place behind it. -/
def StringPlace.follow : StringPlace → Bytes → Option (Bytes × StringPlace)
  | place, [] => some ([], place)
  | place, current :: rest =>
      match place.get current with
      | .adds bytes next => (follow next rest).map fun end_ => (bytes ++ end_.1, end_.2)
      | _ => none

theorem scanString_append {place next : StringPlace} {piece added : Bytes}
    (follows : place.follow piece = some (added, next)) (rest : Bytes) :
    scanString place (piece ++ rest) =
      (scanString next rest).map fun scanned => (added ++ scanned.1, scanned.2) := by
  induction piece generalizing place added with
  | nil =>
      cases follows
      simp
  | cons current later ih =>
      rw [StringPlace.follow] at follows
      split at follows
      · rename_i bytes middle got
        obtain ⟨⟨front, last⟩, inner, same⟩ := Option.map_eq_some_iff.mp follows
        obtain ⟨rfl, rfl⟩ := Prod.mk.inj same
        rw [List.cons_append, scanString, got]
        simp only [ih inner, Option.map_map]
        congr 1
        funext scanned
        simp
      · cases follows

/-- What the serialiser writes for a byte in a state of its automaton. -/
def written (state : Nat) (current : UInt8) : Bytes :=
  if state = 0 ∧ decode state current = 0 then escape current else [current]

/-- The automaton has nine states. -/
theorem decode_lt : ∀ state < 9, ∀ code < 256, decode state (UInt8.ofNat code) < 9 :=
  by decide +kernel

/-- The scanner takes what is written for a byte as this byte, and follows the automaton. -/
theorem follow_written : ∀ state < 9, ∀ code < 256,
    state = 1 ∨ decode state (UInt8.ofNat code) = 1 ∨
      (placeOf state).follow (written state (UInt8.ofNat code)) =
        some ([UInt8.ofNat code], placeOf (decode state (UInt8.ofNat code))) :=
  by decide +kernel

/-- A serialised text is scanned as the text, up to the quote behind it. -/
theorem scanString_dumped {state : Nat} {text body : Bytes} (small : state < 9) (sound : state ≠ 1)
    (dumped : dumpEscapedFrom state text = .ok body) (rest : Bytes) :
    scanString (placeOf state) (body ++ byte '"' :: rest) = some (text, rest) := by
  induction text generalizing state body with
  | nil =>
      rw [dumpEscapedFrom] at dumped
      split at dumped
      · rename_i accepting
        obtain rfl := Except.ok.inj dumped
        rw [accepting]
        rfl
      · cases dumped
  | cons head tail ih =>
      rw [dumpEscapedFrom] at dumped
      split at dumped
      · cases dumped
      · rename_i continues
        split at dumped
        · cases dumped
        · rename_i later behind
          obtain rfl := Except.ok.inj dumped
          have code : UInt8.ofNat head.toNat = head := UInt8.ofNat_toNat
          have follows := follow_written state small head.toNat head.toNat_lt
          have next := decode_lt state small head.toNat head.toNat_lt
          rw [code] at follows next
          rw [List.append_assoc]
          rw [show (if state = 0 ∧ decode state head = 0 then escape head else [head]) =
            written state head from rfl]
          rw [scanString_append ((follows.resolve_left sound).resolve_left continues),
            ih next continues behind]
          rfl

theorem scan_string {text quoted : Bytes} (dumps : string text = .ok quoted) (rest : Bytes) :
    scan (quoted ++ rest) = (.valueString text, rest) := by
  rw [string] at dumps
  split at dumps
  · cases dumps
  · rename_i body dumped
    obtain rfl := Except.ok.inj dumps
    have scanned := scanString_dumped (by decide) (by decide) dumped rest
    have shape : byte '"' :: body ++ [byte '"'] ++ rest =
        byte '"' :: (body ++ byte '"' :: rest) := by
      simp
    rw [shape]
    change stringToken (body ++ byte '"' :: rest) = _
    rw [stringToken, show scanString .character (body ++ byte '"' :: rest) = some (text, rest) from
      scanned]

/-! ## Texts that are read as values -/

/-- What may stand behind a value: nothing, or a byte that goes on with the array or object. -/
def Resumes (rest : Bytes) : Prop :=
  ∀ current ∈ rest.head?, current = byte ',' ∨ current = byte ']' ∨ current = byte '}'

theorem resumes_nil : Resumes [] := by
  intro current member
  cases member

theorem resumes_cons {current : UInt8} (rest : Bytes)
    (goesOn : current = byte ',' ∨ current = byte ']' ∨ current = byte '}') :
    Resumes (current :: rest) := by
  rintro _ ⟨⟩
  exact goesOn

/-- The tokens with which a value begins. -/
def Token.opens : Token → Bool
  | endArray | endObject | nameSeparator | valueSeparator | parseError | endOfInput => false
  | _ => true

/-- The loop takes a text as a value, whatever it stands in. -/
structure Reads (value : Value) (text : Bytes) : Prop where
  opens : ∀ rest, Resumes rest → (scan (text ++ rest)).1.opens = true
  visits : ∀ stack rest, Resumes rest →
    Visits Parsing.pass (.token stack (scan (text ++ rest)).1 (scan (text ++ rest)).2)
      (.value stack value rest)

/-- A text that is one token. -/
theorem reads_token {value : Value} {text : Bytes} {token : Token}
    (scanned : ∀ rest, Resumes rest → scan (text ++ rest) = (token, rest))
    (opens : token.opens = true)
    (goes : ∀ stack rest, Goes Parsing.pass (.token stack token rest) (.value stack value rest)) :
    Reads value text where
  opens := by
    intro rest resumes
    rw [scanned rest resumes]
    exact opens
  visits := by
    intro stack rest resumes
    rw [scanned rest resumes]
    exact .single (goes stack rest)

theorem reads_string {text quoted : Bytes} (dumps : string text = .ok quoted) :
    Reads (.string text) quoted :=
  reads_token (fun rest _ => scan_string dumps rest) rfl fun _ _ => rfl

theorem tokenAt_digit {current : UInt8} (digit : isDigit current = true) (rest : Bytes) :
    tokenAt current rest = numberToken current rest := by
  have low : 48 ≤ current.toNat := by
    simp only [isDigit, Bool.and_eq_true, decide_eq_true_eq, UInt8.le_iff_toNat_le] at digit
    exact digit.1
  have apart : ∀ other : UInt8, isDigit other = false → current ≠ other := by
    rintro other none rfl
    rw [none] at digit
    cases digit
  unfold tokenAt
  rw [if_neg (apart _ (by decide)), if_neg (apart _ (by decide)), if_neg (apart _ (by decide)),
    if_neg (apart _ (by decide)), if_neg (apart _ (by decide)), if_neg (apart _ (by decide)),
    if_neg (apart _ (by decide)), if_neg (apart _ (by decide)), if_neg (apart _ (by decide)),
    if_neg (apart _ (by decide)), if_neg (apart _ (by decide))]

theorem isJsonSpace_digit {current : UInt8} (digit : isDigit current = true) :
    isJsonSpace current = false := by
  have apart : ∀ other : UInt8, isDigit other = false → (current == other) = false := by
    intro other none
    rw [beq_eq_false_iff_ne]
    rintro rfl
    rw [none] at digit
    cases digit
  simp only [isJsonSpace, apart _ (by decide : isDigit (byte ' ') = false),
    apart 9 (by decide), apart 10 (by decide), apart 13 (by decide), Bool.or_self]

theorem scanNumber_digits {digits rest : Bytes} (digit : ∀ current ∈ digits, isDigit current = true)
    (resumes : Resumes rest) : scanNumber .any1 (digits ++ rest) = some (digits, rest) := by
  induction digits with
  | nil =>
      cases rest with
      | nil => rfl
      | cons current later =>
          obtain rfl | rfl | rfl := resumes current rfl
          · rfl
          · rfl
          · rfl
  | cons first later ih =>
      have goesOn : NumberPlace.any1.next first = some .any1 := by
        simp [NumberPlace.next, digit first List.mem_cons_self]
      rw [List.cons_append, scanNumber, goesOn]
      simp [ih fun current member => digit current (List.mem_cons_of_mem _ member)]

/-- A printed number is scanned up to its last digit. -/
theorem scanNumber_decimal {value : Nat} {first : UInt8} {later rest : Bytes}
    (shape : decimal value = first :: later) (resumes : Resumes rest) :
    ∃ place, (if first = byte '0' then NumberPlace.zero else .any1) = place ∧
      scanNumber place (later ++ rest) = some (later, rest) := by
  refine ⟨_, rfl, ?_⟩
  have digits : ∀ current ∈ decimal value, isDigit current = true := isDigit_of_mem_decimal
  rw [shape] at digits
  rcases Nat.eq_zero_or_pos value with rfl | positive
  · obtain ⟨rfl, rfl⟩ := List.cons.inj shape
    cases rest with
    | nil => rfl
    | cons current behind =>
        obtain rfl | rfl | rfl := resumes current rfl
        · rfl
        · rfl
        · rfl
  · have nonzero := head_decimal positive
    rw [shape, List.head?_cons] at nonzero
    have notZero : first ≠ byte '0' := fun zero => nonzero (congrArg some zero)
    rw [if_neg notZero]
    exact scanNumber_digits (fun current member => digits current (List.mem_cons_of_mem _ member))
      resumes

theorem numberStart_digit {current : UInt8} (digit : isDigit current = true) :
    numberStart current = some (if current = byte '0' then .zero else .any1) := by
  have positive : current ≠ byte '-' := (digit_plain digit).2.1
  simp only [numberStart, if_neg positive, digit, if_true]
  split
  · rfl
  · rfl

theorem scan_decimal (value : Nat) {rest : Bytes} (resumes : Resumes rest) :
    scan (decimal value ++ rest) = (.valueNumber (decimal value), rest) := by
  obtain ⟨first, later, shape⟩ := List.exists_cons_of_ne_nil (decimal_ne_nil value)
  have digit : isDigit first = true :=
    isDigit_of_mem_decimal first (by rw [shape]; exact List.mem_cons_self)
  obtain ⟨place, start, scanned⟩ := scanNumber_decimal shape resumes
  rw [shape, List.cons_append, scan, List.dropWhile_cons_of_neg (by simp [isJsonSpace_digit digit])]
  change tokenAt first (later ++ rest) = _
  rw [tokenAt_digit digit, numberToken, numberStart_digit digit, start, Option.bind_some, scanned]

theorem scan_negative (value : Nat) {rest : Bytes} (resumes : Resumes rest) :
    scan (byte '-' :: decimal value ++ rest) =
      (.valueNumber (byte '-' :: decimal value), rest) := by
  obtain ⟨first, later, shape⟩ := List.exists_cons_of_ne_nil (decimal_ne_nil value)
  have digit : isDigit first = true :=
    isDigit_of_mem_decimal first (by rw [shape]; exact List.mem_cons_self)
  obtain ⟨place, start, scanned⟩ := scanNumber_decimal shape resumes
  have goesOn : NumberPlace.minus.next first = some place := by
    rw [← start]
    simp only [NumberPlace.next, digit, if_true]
    split
    · rfl
    · rfl
  rw [List.cons_append, shape]
  change numberToken (byte '-') (first :: later ++ rest) = _
  rw [numberToken, show numberStart (byte '-') = some .minus from rfl, Option.bind_some,
    List.cons_append, scanNumber, goesOn]
  simp [scanned]

theorem isExponent_digit {current : UInt8} (digit : isDigit current = true) :
    isExponent current = false := by
  simp only [isExponent, Bool.or_eq_false_iff, beq_eq_false_iff_ne]
  constructor
  · rintro rfl
    cases digit
  · rintro rfl
    cases digit

theorem le_doubleBound {bits power : Nat} (le : bits ≤ power) : 2 ^ bits ≤ doubleBound power :=
  (Nat.pow_le_pow_right (by decide) le).trans (Nat.le_mul_of_pos_left _ (by decide))

/-- A number of 64 bits fits into a `double`. -/
theorem exceedsDouble_digits {value : Nat} (small : value < 2 ^ 64) {text : Bytes}
    (body : (if text.head? = some (byte '-') then text.tail else text) = decimal value) :
    exceedsDouble text = false := by
  have digits : ∀ current ∈ decimal value, isDigit current = true := isDigit_of_mem_decimal
  have plain : ∀ current ∈ decimal value, (!isExponent current) = true := by
    intro current member
    rw [isExponent_digit (digits current member)]
    rfl
  have whole : (decimal value).takeWhile (!isExponent ·) = decimal value :=
    List.takeWhile_eq_self_iff.mpr plain
  have nothing : (decimal value).dropWhile (!isExponent ·) = [] :=
    List.dropWhile_eq_nil_iff.mpr plain
  have allDigits : (decimal value).takeWhile isDigit = decimal value :=
    List.takeWhile_eq_self_iff.mpr digits
  have noPoint : (decimal value).dropWhile isDigit = [] := List.dropWhile_eq_nil_iff.mpr digits
  have bound := small.trans_le (le_doubleBound (by decide : 64 ≤ 970))
  simp only [exceedsDouble, body, whole, nothing, allDigits, noPoint, List.tail_nil,
    List.append_nil, digitsValue_decimal, List.length_nil]
  have noExponent : scanInteger [] = none := rfl
  rw [noExponent]
  simp only [Nat.cast_zero, sub_zero, neg_zero, Int.toNat_zero, pow_zero, mul_one,
    Bool.and_eq_false_imp, decide_eq_false_iff_not, not_le]
  exact fun _ => bound

theorem reads_decimalInt {value : Int} (small : value.natAbs < 2 ^ 64) :
    Reads (.number (decimalInt value)) (decimalInt value) := by
  have fits : exceedsDouble (decimalInt value) = false := by
    apply exceedsDouble_digits small
    obtain ⟨first, later, shape⟩ := List.exists_cons_of_ne_nil (decimal_ne_nil value.natAbs)
    have digit : isDigit first = true :=
      isDigit_of_mem_decimal first (by rw [shape]; exact List.mem_cons_self)
    have positive : first ≠ byte '-' := (digit_plain digit).2.1
    unfold decimalInt
    split
    · rfl
    · rw [shape, List.head?_cons, if_neg (by simpa using positive)]
  refine @reads_token _ _ (.valueNumber (decimalInt value)) ?_ rfl ?_
  · intro rest resumes
    unfold decimalInt
    split
    · exact scan_negative _ resumes
    · exact scan_decimal _ resumes
  · intro stack rest
    simp [Goes, Parsing.pass, fits]

theorem reads_decimal {value : Nat} (small : value < 2 ^ 64) :
    Reads (.number (decimal value)) (decimal value) := by
  have printed : decimalInt value = decimal value := by
    rw [decimalInt, if_neg (by omega), Int.natAbs_natCast]
  rw [← printed]
  exact reads_decimalInt (by simpa using small)

/-! ## Arrays and objects -/

/-- The elements of an array behind those that were read already. -/
theorem visits_elements {parts : List (Value × Bytes)} (reads : ∀ part ∈ parts, Reads part.1 part.2)
    (nonempty : parts ≠ []) (done : List Value) (stack : List Frame) (rest : Bytes) :
    let text := List.intercalate [byte ','] (parts.map Prod.snd) ++ byte ']' :: rest
    Visits Parsing.pass (.token (.array done :: stack) (scan text).1 (scan text).2)
      (.value stack (.array (done ++ parts.map Prod.fst)) rest) := by
  induction parts generalizing done with
  | nil => exact absurd rfl nonempty
  | cons part parts ih =>
      have first := reads part List.mem_cons_self
      cases parts with
      | nil =>
          have visits := first.visits (.array done :: stack) (byte ']' :: rest)
            (resumes_cons _ (.inr (.inl rfl)))
          have closes : Goes Parsing.pass (.value (.array done :: stack) part.1 (byte ']' :: rest))
              (.value stack (.array (done ++ [part.1])) rest) := rfl
          simp only [List.map_cons, List.map_nil, List.intercalate_singleton]
          exact visits.tail closes
      | cons second later =>
          have visits := first.visits (.array done :: stack)
            (byte ',' :: (List.intercalate [byte ','] ((second :: later).map Prod.snd) ++
              byte ']' :: rest)) (resumes_cons _ (.inl rfl))
          have more := ih (fun part member => reads part (List.mem_cons_of_mem _ member)) (by simp)
            (done ++ [part.1])
          have separates : ∀ behind, Goes Parsing.pass
              (.value (.array done :: stack) part.1 (byte ',' :: behind))
              (.token (.array (done ++ [part.1]) :: stack) (scan behind).1 (scan behind).2) :=
            fun _ => rfl
          simp only [List.map_cons, List.intercalate_cons_cons, List.append_assoc, List.cons_append,
            List.nil_append] at visits more ⊢
          exact (visits.tail (separates _)).trans more

theorem reads_array {parts : List (Value × Bytes)} (reads : ∀ part ∈ parts, Reads part.1 part.2) :
    Reads (.array (parts.map Prod.fst)) (array (parts.map Prod.snd)) := by
  have shape : ∀ rest, array (parts.map Prod.snd) ++ rest =
      byte '[' :: (List.intercalate [byte ','] (parts.map Prod.snd) ++ byte ']' :: rest) := by
    intro rest
    simp [array]
  have opening : ∀ rest, scan (array (parts.map Prod.snd) ++ rest) =
      (.beginArray, List.intercalate [byte ','] (parts.map Prod.snd) ++ byte ']' :: rest) := by
    intro rest
    rw [shape]
    rfl
  refine ⟨fun rest _ => by rw [opening]; rfl, ?_⟩
  intro stack rest _
  rw [opening]
  cases parts with
  | nil => exact .single rfl
  | cons part later =>
      have first := reads part List.mem_cons_self
      have inside := visits_elements reads (by simp) [] stack rest
      -- the first token is not the bracket that would close an empty array
      have notClosing : (scan (List.intercalate [byte ','] ((part :: later).map Prod.snd) ++
          byte ']' :: rest)).1 ≠ .endArray := by
        intro closing
        cases later with
        | nil =>
            have opens := first.opens (byte ']' :: rest) (resumes_cons _ (.inr (.inl rfl)))
            simp only [List.map_cons, List.map_nil, List.intercalate_singleton] at closing
            rw [closing] at opens
            cases opens
        | cons second later =>
            have opens := first.opens _ (resumes_cons
              (List.intercalate [byte ','] ((second :: later).map Prod.snd) ++ byte ']' :: rest)
              (.inl rfl))
            simp only [List.map_cons, List.intercalate_cons_cons, List.append_assoc,
              List.cons_append, List.nil_append] at closing opens
            rw [closing] at opens
            cases opens
      refine Relation.ReflTransGen.head ?_ inside
      simp only [Goes, Parsing.pass, if_neg notClosing]

/-- A member of an object that is serialised. -/
structure Field where
  key : String
  value : Value
  text : Bytes

/-- A key that is written as it is. -/
def PlainKey (key : String) : Prop :=
  string (ascii key) = .ok (byte '"' :: ascii key ++ [byte '"'])

instance (key : String) : Decidable (PlainKey key) :=
  inferInstanceAs (Decidable (_ = _))

/-- Keys in the order of the map. -/
def Ascending (keys : List String) : Prop :=
  keys.Pairwise fun first later => ascii later ≠ ascii first ∧ ¬ ascii later < ascii first

instance (keys : List String) : Decidable (Ascending keys) :=
  inferInstanceAs (Decidable (List.Pairwise _ _))

def Field.member (field : Field) : Bytes × Value :=
  (ascii field.key, field.value)

/-- A member as `object` writes it. -/
def Field.piece (field : Field) : Bytes :=
  byte '"' :: ascii field.key ++ ascii "\":" ++ field.text

theorem insertMember_last {key : Bytes} {value : Value} {members : List (Bytes × Value)}
    (last : ∀ member ∈ members, key ≠ member.1 ∧ ¬ key < member.1) :
    insertMember key value members = members ++ [(key, value)] := by
  induction members with
  | nil => rfl
  | cons first later ih =>
      obtain ⟨differs, above⟩ := last first List.mem_cons_self
      rw [insertMember, if_neg differs, if_neg above,
        ih fun member inside => last member (List.mem_cons_of_mem _ inside)]
      rfl

/-- A key with its separator leads to the first token of the value. -/
theorem member_piece {field : Field} (plain : PlainKey field.key) (stack : List Frame)
    (done : List (Bytes × Value)) (rest : Bytes) :
    Parsing.member stack done (scan (field.piece ++ rest)) =
      .again (.token (.object done (ascii field.key) :: stack) (scan (field.text ++ rest)).1
        (scan (field.text ++ rest)).2) := by
  have shape : field.piece ++ rest =
      (byte '"' :: ascii field.key ++ [byte '"']) ++ byte ':' :: (field.text ++ rest) := by
    simp [Field.piece, show ascii "\":" = [byte '"', byte ':'] from rfl]
  have separator : scan (byte ':' :: (field.text ++ rest)) =
      (.nameSeparator, field.text ++ rest) := rfl
  rw [shape, scan_string plain]
  simp only [Parsing.member, separator]

/-- The members of an object behind those that were read already. -/
theorem visits_members {fields : List Field}
    (reads : ∀ field ∈ fields, Reads field.value field.text)
    (plain : ∀ field ∈ fields, PlainKey field.key) (nonempty : fields ≠ [])
    (done : List (Bytes × Value)) (ordered : Ascending (fields.map Field.key))
      (above : ∀ field ∈ fields, ∀ member ∈ done, ascii field.key ≠ member.1 ∧
        ¬ ascii field.key < member.1)
    (stack : List Frame) (rest : Bytes) :
    ∃ next, Parsing.member stack done (scan (List.intercalate [byte ','] (fields.map Field.piece) ++
        byte '}' :: rest)) = .again next ∧
      Visits Parsing.pass next (.value stack (.object (done ++ fields.map Field.member)) rest) := by
  induction fields generalizing done with
  | nil => exact absurd rfl nonempty
  | cons field fields ih =>
      have first := reads field List.mem_cons_self
      have inserts : insertMember (ascii field.key) field.value done = done ++ [field.member] :=
        insertMember_last (above field List.mem_cons_self)
      have begins := member_piece (plain field List.mem_cons_self) stack done
      obtain ⟨before, later⟩ := List.pairwise_cons.mp ordered
      cases fields with
      | nil =>
          have visits := first.visits (.object done (ascii field.key) :: stack) (byte '}' :: rest)
            (resumes_cons _ (.inr (.inr rfl)))
          have closes : Goes Parsing.pass
              (.value (.object done (ascii field.key) :: stack) field.value (byte '}' :: rest))
              (.value stack (.object (insertMember (ascii field.key) field.value done)) rest) := rfl
          rw [inserts] at closes
          simp only [List.map_cons, List.map_nil, List.intercalate_singleton]
          exact ⟨_, begins _, visits.tail closes⟩
      | cons second others =>
          let behind := List.intercalate [byte ','] ((second :: others).map Field.piece) ++
            byte '}' :: rest
          have visits := first.visits (.object done (ascii field.key) :: stack) (byte ',' :: behind)
            (resumes_cons _ (.inl rfl))
          obtain ⟨next, started, more⟩ :=
            ih (fun field member => reads field (List.mem_cons_of_mem _ member))
              (fun field member => plain field (List.mem_cons_of_mem _ member)) (by simp)
              (done ++ [field.member]) later (by
                intro other inside member found
                rcases List.mem_append.mp found with old | new
                · exact above other (List.mem_cons_of_mem _ inside) member old
                · rw [List.mem_singleton.mp new]
                  exact before _ (List.mem_map_of_mem inside))
          have separates : Goes Parsing.pass
              (.value (.object done (ascii field.key) :: stack) field.value (byte ',' :: behind))
              next := by
            rw [← inserts] at started
            exact started
          have joined : List.intercalate [byte ','] ((field :: second :: others).map Field.piece) ++
              byte '}' :: rest = field.piece ++ byte ',' :: behind := by
            simp [behind]
          rw [joined]
          rw [List.append_assoc] at more
          exact ⟨_, begins _, (visits.tail separates).trans more⟩

theorem reads_object {fields : List Field} (reads : ∀ field ∈ fields, Reads field.value field.text)
    (plain : ∀ key ∈ fields.map Field.key, PlainKey key)
    (ordered : Ascending (fields.map Field.key)) :
    Reads (.object (fields.map Field.member))
      (object (fields.map fun field => (field.key, field.text))) := by
  have pieces : (fields.map fun field => (field.key, field.text)).map
      (fun member => byte '"' :: ascii member.1 ++ ascii "\":" ++ member.2) =
      fields.map Field.piece := by
    rw [List.map_map]
    rfl
  have opening : ∀ rest, scan (object (fields.map fun field => (field.key, field.text)) ++ rest) =
      (.beginObject, List.intercalate [byte ','] (fields.map Field.piece) ++ byte '}' :: rest) := by
    intro rest
    have shape : object (fields.map fun field => (field.key, field.text)) ++ rest =
        byte '{' :: (List.intercalate [byte ','] (fields.map Field.piece) ++ byte '}' :: rest) := by
      rw [object, pieces]
      simp
    rw [shape]
    rfl
  refine ⟨fun rest _ => by rw [opening]; rfl, ?_⟩
  intro stack rest _
  rw [opening]
  cases fields with
  | nil => exact .single rfl
  | cons field later =>
      obtain ⟨next, started, more⟩ := visits_members reads
        (fun field member => plain field.key (List.mem_map_of_mem member)) (by simp) [] ordered
        (by simp) stack rest
      refine Relation.ReflTransGen.head ?_ more
      -- the first token is the key, and not the brace that would close an empty object
      have notClosing : (scan (List.intercalate [byte ','] ((field :: later).map Field.piece) ++
          byte '}' :: rest)).1 ≠ .endObject := by
        intro closing
        rw [Parsing.member.eq_def] at started
        split at started
        · rename_i key behind scanned
          rw [scanned] at closing
          cases closing
        · cases started
      simp only [Goes, Parsing.pass, if_neg notClosing]
      exact started

/-! ## Whole texts -/

/-- A text that is read as a value is parsed to it. -/
theorem Reads.parse_eq {value : Value} {text : Bytes} (reads : Reads value text) :
    parse text = some value := by
  have opens := reads.opens [] resumes_nil
  have visits := reads.visits [] [] resumes_nil
  rw [List.append_nil] at opens visits
  have unmarked : text.head? ≠ some 0xEF := by
    intro marked
    cases text with
    | nil => cases marked
    | cons first later =>
        obtain rfl := Option.some.inj marked
        cases opens
  exact parse_eq_some unmarked ⟨_, visits, rfl⟩ rfl

end Json
end TitanShare
