import Mathlib.Data.List.DropRight

/-!
# Trimming

Padding is dropped from both ends of a text, with a set of its own for each end.  A token without
padding is what is left of exactly the texts that consist of padding, the token and padding.
-/

namespace Trimming

variable {α : Type*} {front back : α → Bool} {token text : List α}

/-- A text consists of padding, a token and padding. -/
def Padded (front back : α → Bool) (token text : List α) : Prop :=
  ∃ left right, text = left ++ token ++ right ∧ (∀ entry ∈ left, front entry = true) ∧
    ∀ entry ∈ right, back entry = true

theorem rdropWhile_append (text : List α) {padding : List α}
    (pads : ∀ entry ∈ padding, back entry = true) :
    (text ++ padding).rdropWhile back = text.rdropWhile back := by
  have reversed : ∀ entry ∈ padding.reverse, back entry = true := fun entry member =>
    pads entry (List.mem_reverse.mp member)
  rw [List.rdropWhile, List.reverse_append, List.dropWhile_append_of_pos reversed, List.rdropWhile]

/-- What is trimmed away is padding. -/
theorem padded_trim (front back : α → Bool) (text : List α) :
    Padded front back ((text.rdropWhile back).dropWhile front) text := by
  refine ⟨(text.rdropWhile back).takeWhile front, text.rtakeWhile back, ?_, ?_, ?_⟩
  · rw [List.takeWhile_append_dropWhile, List.rdropWhile_append_rtakeWhile]
  · exact fun entry member => List.mem_takeWhile_imp member
  · exact fun entry member => List.mem_rtakeWhile_imp member

/-- A token without padding is trimmed from exactly its padded texts. -/
theorem trim_eq_iff (something : token ≠ [])
    (plain : ∀ entry ∈ token, front entry = false ∧ back entry = false) :
    (text.rdropWhile back).dropWhile front = token ↔ Padded front back token text := by
  constructor
  · rintro rfl
    exact padded_trim front back text
  · rintro ⟨left, right, rfl, leftPads, rightPads⟩
    have solid : (left ++ token).rdropWhile back = left ++ token := by
      rw [List.rdropWhile_eq_self_iff]
      intro nonempty
      rw [List.getLast_append_of_ne_nil nonempty something]
      simpa using (plain _ (List.getLast_mem something)).2
    rw [rdropWhile_append _ rightPads, solid, List.dropWhile_append_of_pos leftPads,
      List.dropWhile_eq_self_iff]
    intro positive
    simpa using (plain _ (List.getElem_mem positive)).1

/-- Padding behind a text does not matter. -/
theorem padded_append_iff (something : token ≠ [])
    (plain : ∀ entry ∈ token, front entry = false ∧ back entry = false) {padding : List α}
    (pads : ∀ entry ∈ padding, back entry = true) :
    Padded front back token (text ++ padding) ↔ Padded front back token text := by
  rw [← trim_eq_iff something plain, ← trim_eq_iff something plain, rdropWhile_append text pads]

end Trimming
