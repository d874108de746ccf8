import Mathlib.Data.List.DropRight

/-!
# The words of a text

The words of a text are the nonempty pieces between its blanks.  A scanner that takes one word at a
time reads off exactly these, in order.
-/

namespace Words

variable {α : Type*} {blank : α → Bool}

/-- The nonempty pieces between blanks. -/
def words (blank : α → Bool) (text : List α) : List (List α) :=
  (text.splitOnP blank).filter fun piece => !piece.isEmpty

@[simp]
theorem words_nil : words blank [] = [] := rfl

/-- A blank separates what is in front of it from what is behind. -/
theorem words_append_blank {entry : α} (isBlank : blank entry = true) (front back : List α) :
    words blank (front ++ entry :: back) = words blank front ++ words blank back := by
  unfold words
  rw [List.splitOnP_append_cons front back isBlank, List.filter_append]

theorem words_cons_blank {entry : α} (isBlank : blank entry = true) (text : List α) :
    words blank (entry :: text) = words blank text := by
  simpa using words_append_blank isBlank [] text

/-- A nonempty text without blanks is one word. -/
theorem words_of_solid {word : List α} (something : word ≠ [])
    (solid : ∀ entry ∈ word, blank entry = false) : words blank word = [word] := by
  rw [words, List.splitOnP_eq_singleton solid]
  simp [something]

@[simp]
theorem words_dropWhile (text : List α) :
    words blank (text.dropWhile blank) = words blank text := by
  induction text with
  | nil => rfl
  | cons head tail ih =>
      cases isBlank : blank head with
      | true => rw [List.dropWhile_cons_of_pos isBlank, ih, words_cons_blank isBlank]
      | false => rw [List.dropWhile_cons_of_neg (by simp [isBlank])]

/-- A text that does not begin with a blank begins with its first word. -/
theorem words_eq_cons {head : α} (tail : List α) (solid : blank head = false) :
    words blank (head :: tail) =
      (head :: tail).takeWhile (!blank ·) :: words blank ((head :: tail).dropWhile (!blank ·)) := by
  have first : ∀ entry ∈ (head :: tail).takeWhile (!blank ·), blank entry = false := by
    intro entry member
    simpa using List.mem_takeWhile_imp member
  have something : (head :: tail).takeWhile (!blank ·) ≠ [] := by simp [solid]
  have joined := List.takeWhile_append_dropWhile (l := head :: tail) (p := (!blank ·))
  cases behind : (head :: tail).dropWhile (!blank ·) with
  | nil =>
      rw [behind, List.append_nil] at joined
      rw [words_nil, ← words_of_solid something first, joined]
  | cons next rest =>
      have isBlank : blank next = true := by
        have stops := List.head_dropWhile_not (!blank ·) (l := head :: tail) (by simp [behind])
        simpa [behind] using stops
      have split := words_append_blank isBlank ((head :: tail).takeWhile (!blank ·)) rest
      rw [← behind, joined, words_of_solid something first] at split
      rw [split, words_cons_blank isBlank]
      rfl

/-- There is no blank in a word. -/
theorem solid_of_mem {text word : List α} (member : word ∈ words blank text) :
    ∀ entry ∈ word, blank entry = false := by
  induction count : text.length using Nat.strong_induction_on generalizing text with
  | _ count ih =>
      cases text with
      | nil => cases member
      | cons head tail =>
          subst count
          cases solid : blank head with
          | true =>
              rw [words_cons_blank solid] at member
              exact ih tail.length (Nat.lt_succ_self _) member rfl
          | false =>
              rw [words_eq_cons tail solid] at member
              rcases List.mem_cons.mp member with rfl | later
              · intro entry inside
                simpa using List.mem_takeWhile_imp inside
              · refine ih _ ?_ later rfl
                rw [List.dropWhile_cons_of_pos (by simp [solid]), List.length_cons]
                exact Nat.lt_succ_of_le (List.dropWhile_suffix _).length_le

theorem ne_nil_of_mem {text word : List α} (member : word ∈ words blank text) : word ≠ [] := by
  have something := (List.mem_filter.mp member).2
  simpa using something

end Words
