import TitanShare.Library.Numerals

/-!
# Processor times

The processor lines of `/proc/stat` as the kernel prints them, and the two functions of `SystemInfo`
that read them.  What they read of a snapshot are its sums of working and resting time; the numbers
of the cores are not among it.
-/

namespace TitanShare

open ByteText

/-! ## Snapshots -/

/-- The counters of one processor line, in ticks of a hundredth of a second.  The kernel counts
nanoseconds in 64 bits, so all of them together fit a `long long`. -/
structure Counters where
  user : Nat
  nice : Nat
  system : Nat
  idle : Nat
  iowait : Nat
  irq : Nat
  softirq : Nat
  steal : Nat
  guest : Nat
  guestNice : Nat
  fits : user + nice + system + idle + iowait + irq + softirq + steal + guest + guestNice < 2 ^ 63
  deriving DecidableEq

namespace Counters

def fields (counters : Counters) : List Nat :=
  [counters.user, counters.nice, counters.system, counters.idle, counters.iowait, counters.irq,
    counters.softirq, counters.steal, counters.guest, counters.guestNice]

theorem field_lt (counters : Counters) : ∀ field ∈ counters.fields, field < 2 ^ 63 := by
  have fits := counters.fits
  simp only [fields, List.forall_mem_cons]
  refine ⟨?_, ?_, ?_, ?_, ?_, ?_, ?_, ?_, ?_, ?_, List.forall_mem_nil _⟩ <;> omega

/-- Time spent working. -/
def busy (counters : Counters) : Nat :=
  counters.user + counters.nice + counters.system + counters.irq + counters.softirq + counters.steal

/-- Time spent idle or waiting. -/
def resting (counters : Counters) : Nat :=
  counters.idle + counters.iowait

/-- No counter of working time has decreased. -/
structure WorkLe (earlier later : Counters) : Prop where
  user : earlier.user ≤ later.user
  nice : earlier.nice ≤ later.nice
  system : earlier.system ≤ later.system
  irq : earlier.irq ≤ later.irq
  softirq : earlier.softirq ≤ later.softirq
  steal : earlier.steal ≤ later.steal

instance (earlier later : Counters) : Decidable (WorkLe earlier later) :=
  decidable_of_iff
    (earlier.user ≤ later.user ∧ earlier.nice ≤ later.nice ∧ earlier.system ≤ later.system ∧
      earlier.irq ≤ later.irq ∧ earlier.softirq ≤ later.softirq ∧ earlier.steal ≤ later.steal)
    ⟨fun ⟨user, nice, system, irq, softirq, steal⟩ => ⟨user, nice, system, irq, softirq, steal⟩,
      fun ⟨user, nice, system, irq, softirq, steal⟩ => ⟨user, nice, system, irq, softirq, steal⟩⟩

theorem WorkLe.busy {earlier later : Counters} (works : WorkLe earlier later) :
    earlier.busy ≤ later.busy := by
  have user := works.user
  have nice := works.nice
  have system := works.system
  have irq := works.irq
  have softirq := works.softirq
  have steal := works.steal
  unfold Counters.busy
  omega

end Counters

/-- What `/proc/stat` shows at one moment. -/
structure Snapshot where
  cpu : Counters
  /-- The cores that are online, with their numbers. -/
  cores : List (Nat × Counters)
  /-- The lines behind those of the processors. -/
  others : Bytes
  foreign : others.take 3 ≠ ascii "cpu"

/-- The fields of a line, each behind a blank. -/
def fieldText (fields : List Nat) : Bytes :=
  fields.flatMap fun field => 32 :: decimal field

namespace Snapshot

/-- The aggregate has a second blank behind its label. -/
def cpuLine (snapshot : Snapshot) : Bytes :=
  ascii "cpu" ++ 32 :: fieldText snapshot.cpu.fields

def coreLine (core : Nat × Counters) : Bytes :=
  (ascii "cpu" ++ decimal core.1) ++ fieldText core.2.fields

/-- The text of the file. -/
def render (snapshot : Snapshot) : Bytes :=
  (snapshot.cpuLine ++ [10]) ++ (snapshot.cores.flatMap fun core => coreLine core ++ [10]) ++
    snapshot.others

end Snapshot

/-! ## Reading -/

/-- `SystemInfo::CpuTimes` -/
structure CpuTimes where
  work : Int
  total : Int
  deriving DecidableEq

/-- A number as far as a signed integer of 64 bits reaches. -/
def saturate (value : Int) : Int :=
  max (-2 ^ 63) (min value (2 ^ 63 - 1))

/-- Stream extraction of one `long long`: the value that is stored, and what is left of the text
unless the extraction fails.  It fails on what is no number, and on one that is too large for the
type. -/
def extractLong (text : Bytes) : Int × Option Bytes :=
  let body := text.dropWhile isSpace
  let signed := body.head? = some (byte '-') ∨ body.head? = some (byte '+')
  let rest := (if signed then body.tail else body).dropWhile isDigit
  match scanInteger text with
  | none => (0, none)
  | some (negative, magnitude) =>
      let value : Int := if negative then -(magnitude : Int) else magnitude
      (saturate value, if saturate value = value then some rest else none)

/-- Extraction until it fails, of at most `count` values. -/
def extractLongs : Nat → Bytes → List Int
  | 0, _ => []
  | count + 1, text =>
      match extractLong text with
      | (value, none) => [value]
      | (value, some rest) => value :: extractLongs count rest

/-- The sums of one line; fields that are missing count as zero. -/
def lineTimes (line : Bytes) : CpuTimes :=
  let values := extractLongs 10 (match word line with
    | none => []
    | some (_, rest) => rest)
  let work := values.getD 0 0 + values.getD 1 0 + values.getD 2 0 + values.getD 5 0 +
    values.getD 6 0 + values.getD 7 0
  { work
    total := work + (values.getD 3 0 + values.getD 4 0) }

/-- `readCpuTimes`; no text stands for a file that cannot be opened. -/
def readCpuTimes : Option Bytes → CpuTimes
  | none => ⟨0, 0⟩
  | some content => lineTimes ((lines content).headD [])

/-- The loop of `readAllCoreTimes` over the lines. -/
def coreTimes : List Bytes → List CpuTimes
  | [] => []
  | line :: rest =>
      if line.length < 4 ∨ line.take 3 ≠ ascii "cpu" then []
      else if isDigit (line.getD 3 0) = false then coreTimes rest
      else lineTimes line :: coreTimes rest

/-- `readAllCoreTimes` -/
def readAllCoreTimes : Option Bytes → List CpuTimes
  | none => []
  | some content => coreTimes (lines content)

/-! ## What is read of a snapshot -/

/-- The sums of a line. -/
def Counters.times (counters : Counters) : CpuTimes where
  work := counters.busy
  total := counters.busy + counters.resting

theorem linesFrom_append {line : Bytes} (unbroken : 10 ∉ line) (current rest : Bytes) :
    linesFrom current (line ++ 10 :: rest) = (current ++ line) :: linesFrom [] rest := by
  induction line generalizing current with
  | nil => simp [linesFrom]
  | cons head tail ih =>
      rw [List.mem_cons, not_or] at unbroken
      rw [List.cons_append, linesFrom, if_neg (Ne.symm unbroken.1), ih unbroken.2,
        List.append_assoc, List.singleton_append]

theorem lines_append {line : Bytes} (unbroken : 10 ∉ line) (rest : Bytes) :
    lines (line ++ 10 :: rest) = line :: lines rest :=
  linesFrom_append unbroken [] rest

/-- A label is one word, whatever follows behind a blank. -/
theorem word_append {label : Bytes} (something : label ≠ [])
    (solid : ∀ entry ∈ label, isSpace entry = false) (rest : Bytes) :
    word (label ++ 32 :: rest) = some (label, 32 :: rest) := by
  obtain ⟨first, later, rfl⟩ := List.exists_cons_of_ne_nil something
  have front : (first :: later ++ 32 :: rest).dropWhile isSpace = first :: later ++ 32 :: rest :=
    List.dropWhile_cons_of_neg (by simp [solid first List.mem_cons_self])
  have blank : (!isSpace 32) = false := by decide
  have letters : ∀ entry ∈ first :: later, (!isSpace entry) = true := by
    intro entry member
    simp [solid entry member]
  unfold word
  simp only [front]
  rw [if_neg (by simp), List.takeWhile_append_of_pos letters, List.dropWhile_append_of_pos letters,
    List.takeWhile_cons_of_neg (by simp [blank]), List.dropWhile_cons_of_neg (by simp [blank]),
    List.append_nil]

theorem saturate_of_lt {value : Nat} (fits : value < 2 ^ 63) : saturate value = value := by
  unfold saturate
  omega

/-- A field is read back, and the next one begins with a blank. -/
theorem extractLong_field {field : Nat} (fits : field < 2 ^ 63) {rest : Bytes}
    (ends : ∀ current ∈ rest.head?, isDigit current = false) :
    extractLong (32 :: decimal field ++ rest) = ((field : Int), some rest) := by
  have scans : Scans (32 :: decimal field ++ rest) [32] [] (decimal field) rest := {
    split := by simp
    blank := by simp [isSpace]
    signed := .inl rfl
    nonempty := decimal_ne_nil field
    digit := isDigit_of_mem_decimal
    ends := ends }
  obtain ⟨first, later, shape, digit⟩ := scans.exists_digit
  have unsigned : ¬((decimal field ++ rest).head? = some (byte '-') ∨
      (decimal field ++ rest).head? = some (byte '+')) := by
    simp [shape, (digit_plain digit).2]
  have behind : (decimal field ++ rest).dropWhile isDigit = rest := by
    have split := List.takeWhile_append_dropWhile (p := isDigit) (l := decimal field ++ rest)
    rw [scans.takeWhile_digits] at split
    exact List.append_cancel_left split
  have body := scans.dropWhile_blanks
  rw [List.nil_append] at body
  simp only [extractLong, scans.scanInteger_eq, body, if_neg unsigned, behind, digitsValue_decimal]
  simp [saturate_of_lt fits]

theorem head_fieldText (fields : List Nat) :
    ∀ current ∈ (fieldText fields).head?, isDigit current = false := by
  cases fields with
  | nil => simp [fieldText]
  | cons field rest =>
      intro current member
      simp only [fieldText, List.flatMap_cons, List.cons_append, List.head?_cons,
        Option.mem_some_iff] at member
      rw [← member]
      decide

/-- As many fields are read back as are asked for. -/
theorem extractLongs_fieldText {fields : List Nat} (fits : ∀ field ∈ fields, field < 2 ^ 63) :
    extractLongs fields.length (fieldText fields) = fields.map Int.ofNat := by
  induction fields with
  | nil => rfl
  | cons field rest ih =>
      rw [List.forall_mem_cons] at fits
      have taken := extractLong_field fits.1 (head_fieldText rest)
      have shape : fieldText (field :: rest) = 32 :: decimal field ++ fieldText rest := rfl
      rw [List.length_cons, extractLongs, shape, taken]
      simp only [ih fits.2]
      rfl

-- a number that is too large is stored as the largest one, and ends the extraction
example : extractLongs 10 (ascii " 5 9223372036854775808 7") = [5, 9223372036854775807] := by
  decide +kernel

/-- One more blank in front of a field does not matter. -/
theorem extractLongs_blank (count : Nat) (text : Bytes) :
    extractLongs count (32 :: text) = extractLongs count text := by
  have skips : (32 :: text).dropWhile isSpace = text.dropWhile isSpace :=
    List.dropWhile_cons_of_pos (by decide)
  cases count with
  | zero => rfl
  | succ count =>
      have same : extractLong (32 :: text) = extractLong text := by
        simp only [extractLong, scanInteger, skips]
      rw [extractLongs, extractLongs, same]

/-- The sums are those of the values behind the label. -/
theorem lineTimes_of_word {line label rest : Bytes} {counters : Counters}
    (taken : word line = some (label, rest))
    (values : extractLongs 10 rest = counters.fields.map Int.ofNat) :
    lineTimes line = counters.times := by
  simp only [lineTimes, taken, values]
  simp [Counters.fields, Counters.times, Counters.busy, Counters.resting]

theorem solid_cpu : ∀ entry ∈ ascii "cpu", isSpace entry = false := by
  have solid : ∀ entry ∈ ascii "cpu", (!isSpace entry) = true := List.all_eq_true.mp (by decide)
  simpa using solid

theorem lineTimes_cpuLine (snapshot : Snapshot) :
    lineTimes snapshot.cpuLine = snapshot.cpu.times := by
  refine lineTimes_of_word (word_append (by decide) solid_cpu _) ?_
  rw [extractLongs_blank]
  exact extractLongs_fieldText snapshot.cpu.field_lt

theorem solid_coreLabel (number : Nat) :
    ∀ entry ∈ ascii "cpu" ++ decimal number, isSpace entry = false := by
  intro entry member
  rcases List.mem_append.mp member with letter | digit
  · exact solid_cpu entry letter
  · exact (digit_plain (isDigit_of_mem_decimal entry digit)).1

theorem lineTimes_coreLine (core : Nat × Counters) :
    lineTimes (Snapshot.coreLine core) = core.2.times := by
  have something : ascii "cpu" ++ decimal core.1 ≠ [] :=
    List.append_ne_nil_of_right_ne_nil _ (decimal_ne_nil _)
  exact lineTimes_of_word (word_append something (solid_coreLabel core.1) _)
    (extractLongs_fieldText core.2.field_lt)

/-! ## Reading a snapshot -/

theorem unbroken_fieldText (fields : List Nat) : 10 ∉ fieldText fields := by
  intro member
  obtain ⟨field, _, inField⟩ := List.mem_flatMap.mp member
  rcases List.mem_cons.mp inField with impossible | digit
  · exact absurd impossible (by decide)
  · exact absurd (isDigit_of_mem_decimal 10 digit) (by decide)

theorem unbroken_cpuLine (snapshot : Snapshot) : 10 ∉ snapshot.cpuLine := by
  have label : 10 ∉ ascii "cpu" := by decide
  have blank : (10 : UInt8) ≠ 32 := by decide
  simp [Snapshot.cpuLine, label, blank, unbroken_fieldText]

theorem unbroken_coreLine (core : Nat × Counters) : 10 ∉ Snapshot.coreLine core := by
  have label : 10 ∉ ascii "cpu" := by decide
  have digits : 10 ∉ decimal core.1 := fun digit =>
    absurd (isDigit_of_mem_decimal 10 digit) (by decide)
  simp [Snapshot.coreLine, label, digits, unbroken_fieldText]

/-- The aggregate is the first line. -/
theorem readCpuTimes_render (snapshot : Snapshot) :
    readCpuTimes (some snapshot.render) = snapshot.cpu.times := by
  have first : (lines snapshot.render).headD [] = snapshot.cpuLine := by
    rw [Snapshot.render, List.append_assoc, List.append_assoc, List.singleton_append,
      lines_append (unbroken_cpuLine snapshot)]
    rfl
  rw [readCpuTimes, first, lineTimes_cpuLine]

/-- The first line is the beginning of the text. -/
theorem prefix_of_linesFrom {current text line : Bytes} {rest : List Bytes}
    (shape : linesFrom current text = line :: rest) : line <+: current ++ text := by
  induction text generalizing current with
  | nil =>
      rw [linesFrom] at shape
      split at shape
      · cases shape
      · obtain ⟨rfl, _⟩ := List.cons.inj shape
        exact List.prefix_append _ _
  | cons head tail ih =>
      rw [linesFrom] at shape
      split at shape
      · obtain ⟨rfl, _⟩ := List.cons.inj shape
        exact List.prefix_append _ _
      · have before := ih shape
        rwa [List.append_assoc, List.singleton_append] at before

/-- What follows the processors is not looked at. -/
theorem coreTimes_foreign {text : Bytes} (foreign : text.take 3 ≠ ascii "cpu") :
    coreTimes (lines text) = [] := by
  cases shape : lines text with
  | nil => rfl
  | cons line rest =>
      obtain ⟨more, rfl⟩ := prefix_of_linesFrom shape
      have stops : line.length < 4 ∨ line.take 3 ≠ ascii "cpu" := by
        rcases Nat.lt_or_ge line.length 4 with short | long
        · exact .inl short
        · refine .inr fun same => foreign ?_
          rw [List.take_append_of_le_length (by omega), same]
      rw [coreTimes, if_pos stops]

theorem coreTimes_lines (cores : List (Nat × Counters)) {others : Bytes}
    (foreign : others.take 3 ≠ ascii "cpu") :
    coreTimes (lines ((cores.flatMap fun core => Snapshot.coreLine core ++ [10]) ++ others)) =
      cores.map fun core => core.2.times := by
  induction cores with
  | nil => exact coreTimes_foreign foreign
  | cons core rest ih =>
      have split : ((core :: rest).flatMap fun core => Snapshot.coreLine core ++ [10]) ++ others =
          Snapshot.coreLine core ++
            10 :: ((rest.flatMap fun core => Snapshot.coreLine core ++ [10]) ++ others) := by
        simp
      obtain ⟨first, later, digits⟩ := List.exists_cons_of_ne_nil (decimal_ne_nil core.1)
      have numbered : isDigit first = true :=
        isDigit_of_mem_decimal first (by rw [digits]; exact List.mem_cons_self)
      have shape : Snapshot.coreLine core =
          99 :: 112 :: 117 :: first :: (later ++ fieldText core.2.fields) := by
        rw [Snapshot.coreLine, digits]
        rfl
      have goes : ¬((Snapshot.coreLine core).length < 4 ∨
          (Snapshot.coreLine core).take 3 ≠ ascii "cpu") := by
        rw [shape]
        rintro (short | other)
        · simp only [List.length_cons] at short
          omega
        · exact other rfl
      have isCore : isDigit ((Snapshot.coreLine core).getD 3 0) = true := by
        rw [shape]
        exact numbered
      rw [split, lines_append (unbroken_coreLine core), coreTimes, if_neg goes, isCore,
        if_neg (by decide), List.map_cons, ih, lineTimes_coreLine]

/-- The cores are read in the order of their lines, without their numbers. -/
theorem readAllCoreTimes_render (snapshot : Snapshot) :
    readAllCoreTimes (some snapshot.render) = snapshot.cores.map fun core => core.2.times := by
  have skipped : coreTimes (lines snapshot.render) =
      coreTimes (lines ((snapshot.cores.flatMap fun core => Snapshot.coreLine core ++ [10]) ++
        snapshot.others)) := by
    rw [Snapshot.render, List.append_assoc, List.append_assoc, List.singleton_append,
      lines_append (unbroken_cpuLine snapshot), coreTimes]
    have goes : ¬(snapshot.cpuLine.length < 4 ∨ snapshot.cpuLine.take 3 ≠ ascii "cpu") := by
      rintro (short | other)
      · simp [Snapshot.cpuLine, ascii] at short
        omega
      · exact other rfl
    have isAggregate : isDigit (snapshot.cpuLine.getD 3 0) = false := by
      have blank : snapshot.cpuLine.getD 3 0 = 32 := rfl
      rw [blank]
      decide
    rw [if_neg goes, if_pos isAggregate]
  rw [readAllCoreTimes, skipped, coreTimes_lines _ snapshot.foreign]

end TitanShare
