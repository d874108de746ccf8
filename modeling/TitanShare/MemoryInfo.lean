import TitanShare.CpuUsage

/-!
# Memory

`getMemoryInfo` reads two of the lines of `/proc/meminfo`, wherever they stand among the others.
The kernel promises nothing about the available memory and the whole, and the shares are percentages
only as long as the one is within the other.
-/

namespace TitanShare

open ByteText

/-! ## Reading -/

/-- What `getMemoryInfo` hands back. -/
structure MemoryInfo where
  usagePercent : ℚ
  usedMB : Int
  totalMB : Int

/-- Extraction of a `long` into a variable.  Without anything but blanks the variable stays as it
is, and what is no number makes it zero. -/
def extractInto (current : Int) (text : Bytes) : Int :=
  if text.dropWhile isSpace = [] then current
  else
    match scanInteger text with
    | none => 0
    | some (negative, magnitude) => saturate (if negative then -(magnitude : Int) else magnitude)

/-- `memTotal` and `memAvailable` after a line. -/
def memoryStep (found : Int × Int) (line : Bytes) : Int × Int :=
  if line.take 9 = ascii "MemTotal:" then (extractInto found.1 (line.drop 9), found.2)
  else if line.take 13 = ascii "MemAvailable:" then (found.1, extractInto found.2 (line.drop 13))
  else found

/-- `getMemoryInfo`; no text stands for a file that cannot be opened. -/
def getMemoryInfo : Option Bytes → MemoryInfo
  | none => ⟨0, 0, 0⟩
  | some content =>
      let found := (lines content).foldl memoryStep (0, 0)
      let usedKB := found.1 - found.2
      { totalMB := found.1.tdiv 1024
        usedMB := usedKB.tdiv 1024
        usagePercent := if 0 < found.1 then percent usedKB found.1 else 0 }

/-! ## The file -/

/-- A line of `/proc/meminfo`: a name, a colon, blanks, a number and mostly a unit. -/
structure MemoryLine where
  name : Bytes
  blanks : Nat
  value : Nat
  unit : Bytes
  named : 58 ∉ name ∧ 10 ∉ name
  fits : value < 2 ^ 63
  apart : 10 ∉ unit ∧ ∀ current ∈ unit.head?, isDigit current = false

namespace MemoryLine

/-- The text behind the colon. -/
def field (line : MemoryLine) : Bytes :=
  List.replicate line.blanks 32 ++ (decimal line.value ++ line.unit)

def text (line : MemoryLine) : Bytes :=
  line.name ++ 58 :: line.field

/-- The text of the file. -/
def render (file : List MemoryLine) : Bytes :=
  file.flatMap fun line => line.text ++ [10]

/-- What the last line of a name says, if there is one. -/
def latest (name : Bytes) (start : Int) (file : List MemoryLine) : Int :=
  ((file.filter fun line => line.name = name).getLast?.map fun line =>
    (line.value : Int)).getD start

theorem unbroken (line : MemoryLine) : 10 ∉ line.text := by
  have digits : 10 ∉ decimal line.value := by
    intro member
    have digit := isDigit_of_mem_decimal 10 member
    exact absurd digit (by decide)
  have blanks : 10 ∉ List.replicate line.blanks (32 : UInt8) := by simp
  simp [text, field, line.named.2, line.apart.1, digits, blanks]

theorem lines_render (file : List MemoryLine) : lines (render file) = file.map text := by
  induction file with
  | nil => rfl
  | cons line file ih =>
      have shape : render (line :: file) = line.text ++ 10 :: render file := by simp [render]
      rw [shape, lines_append line.unbroken, ih, List.map_cons]

/-- The number is what is extracted. -/
theorem extractInto_field (line : MemoryLine) (current : Int) :
    extractInto current line.field = line.value := by
  have scans : Scans line.field (List.replicate line.blanks 32) []
      (decimal line.value) line.unit := {
    split := rfl
    blank := by
      intro blank member
      rw [List.eq_of_mem_replicate member]
      decide
    signed := .inl rfl
    nonempty := decimal_ne_nil line.value
    digit := isDigit_of_mem_decimal
    ends := line.apart.2 }
  have something : line.field.dropWhile isSpace ≠ [] := by
    rw [scans.dropWhile_blanks]
    simp [decimal_ne_nil]
  have fits := line.fits
  rw [extractInto, if_neg something, scans.scanInteger_eq, digitsValue_decimal]
  simp [saturate]
  omega

/-- The prefix tells the name. -/
theorem take_text (line : MemoryLine) {name : Bytes} (plain : 58 ∉ name) :
    line.text.take (name.length + 1) = name ++ [58] ↔ line.name = name := by
  constructor
  · intro front
    have split := List.take_append_drop (name.length + 1) line.text
    rw [front, List.append_assoc, List.singleton_append] at split
    have cut := cutAt_eq_some_iff.mpr ⟨split.symm, plain⟩
    rw [cutAt_eq_some_iff.mpr (⟨rfl, line.named.1⟩ : line.text = _ ∧ _)] at cut
    exact (Prod.mk.inj (Option.some.inj cut)).1
  · rintro rfl
    simp [text, List.take_append, List.take_of_length_le]

theorem drop_text (line : MemoryLine) : line.text.drop (line.name.length + 1) = line.field := by
  simp [text, List.drop_append]

theorem memoryStep_text (line : MemoryLine) (found : Int × Int) :
    memoryStep found line.text =
      (if line.name = ascii "MemTotal" then (line.value : Int) else found.1,
        if line.name = ascii "MemAvailable" then (line.value : Int) else found.2) := by
  have total := line.take_text (show 58 ∉ ascii "MemTotal" by decide)
  have available := line.take_text (show 58 ∉ ascii "MemAvailable" by decide)
  have behind := line.drop_text
  unfold memoryStep
  by_cases first : line.name = ascii "MemTotal"
  · have front : line.text.take 9 = ascii "MemTotal:" := total.mpr first
    have other : line.name ≠ ascii "MemAvailable" := by
      rw [first]
      decide
    rw [first] at behind
    have rest : line.text.drop 9 = line.field := behind
    rw [if_pos front, rest, line.extractInto_field, if_pos first, if_neg other]
  · have front : line.text.take 9 ≠ ascii "MemTotal:" := fun same => first (total.mp same)
    rw [if_neg front, if_neg first]
    by_cases second : line.name = ascii "MemAvailable"
    · have next : line.text.take 13 = ascii "MemAvailable:" := available.mpr second
      rw [second] at behind
      have rest : line.text.drop 13 = line.field := behind
      rw [if_pos next, rest, line.extractInto_field, if_pos second]
    · have next : line.text.take 13 ≠ ascii "MemAvailable:" := fun same =>
        second (available.mp same)
      rw [if_neg next, if_neg second]

theorem latest_cons (name : Bytes) (start : Int) (line : MemoryLine) (file : List MemoryLine) :
    latest name start (line :: file) =
      latest name (if line.name = name then (line.value : Int) else start) file := by
  unfold latest
  by_cases named : line.name = name
  · rw [List.filter_cons_of_pos (by simpa using named), if_pos named]
    cases file.filter fun line => line.name = name with
    | nil => rfl
    | cons first later =>
        rw [List.getLast?_cons_cons, List.getLast?_cons]
        rfl
  · rw [List.filter_cons_of_neg (by simpa using named), if_neg named]

/-- The two variables hold what the last line of their name says. -/
theorem foldl_memoryStep (file : List MemoryLine) (found : Int × Int) :
    (file.map text).foldl memoryStep found =
      (latest (ascii "MemTotal") found.1 file, latest (ascii "MemAvailable") found.2 file) := by
  induction file generalizing found with
  | nil => rfl
  | cons line file ih =>
      rw [List.map_cons, List.foldl_cons, memoryStep_text, ih, latest_cons, latest_cons]

theorem latest_nonneg (name : Bytes) (file : List MemoryLine) : 0 ≤ latest name 0 file := by
  unfold latest
  cases (file.filter fun line => line.name = name).getLast? with
  | none => exact Int.le_refl 0
  | some line => exact Int.natCast_nonneg line.value

/-- The whole memory, in kilobytes. -/
def total (file : List MemoryLine) : Int :=
  latest (ascii "MemTotal") 0 file

/-- The available memory, in kilobytes. -/
def available (file : List MemoryLine) : Int :=
  latest (ascii "MemAvailable") 0 file

theorem getMemoryInfo_render (file : List MemoryLine) :
    getMemoryInfo (some (render file)) =
      { totalMB := (total file).tdiv 1024
        usedMB := (total file - available file).tdiv 1024
        usagePercent :=
          if 0 < total file then percent (total file - available file) (total file) else 0 } := by
  simp only [getMemoryInfo, lines_render, foldl_memoryStep, total, available]
  rfl

end MemoryLine

/-- Rounding towards zero takes less than a megabyte of too much for none. -/
theorem tdiv_nonneg_iff (kilobytes : Int) : 0 ≤ kilobytes.tdiv 1024 ↔ -1024 < kilobytes := by
  rw [Int.tdiv_eq_ediv]
  split
  case isTrue => omega
  case isFalse outside =>
      have sign : Int.sign 1024 = 1 := rfl
      rw [sign]
      omega

open MemoryLine in
/-- Of whatever lines the kernel prints the last ones of the two names are read, the used memory is
never more than the whole, and what is shown is a share exactly as long as the available memory is
within the whole. -/
theorem memory_read_back (file : List MemoryLine) :
    (getMemoryInfo (some (render file))).totalMB = total file / 1024 ∧
      (available file ≤ total file →
        (getMemoryInfo (some (render file))).usedMB = (total file - available file) / 1024) ∧
      (getMemoryInfo (some (render file))).usedMB ≤ (getMemoryInfo (some (render file))).totalMB ∧
      (0 ≤ (getMemoryInfo (some (render file))).usedMB ↔ available file < total file + 1024) ∧
      (0 < total file →
        (0 ≤ (getMemoryInfo (some (render file))).usagePercent ∧
            (getMemoryInfo (some (render file))).usagePercent ≤ 100 ↔
              available file ≤ total file)) := by
  have whole : 0 ≤ total file := latest_nonneg _ file
  have free : 0 ≤ available file := latest_nonneg _ file
  rw [getMemoryInfo_render]
  refine ⟨Int.tdiv_eq_ediv_of_nonneg whole, fun within => ?_, ?_, ?_, fun some => ?_⟩
  · exact Int.tdiv_eq_ediv_of_nonneg (Int.sub_nonneg_of_le within)
  · exact Int.tdiv_le_tdiv (by decide) (Int.sub_le_self _ free)
  · rw [tdiv_nonneg_iff]
    omega
  · simp only [if_pos some]
    rw [percent_mem_iff some]
    omega

end TitanShare
