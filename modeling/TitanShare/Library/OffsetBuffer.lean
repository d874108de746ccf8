import Mathlib.Data.List.Basic

/-!
# A byte buffer with a read head

New elements are appended behind the old ones and a read head moves over the front.  The elements
before the head are dead space, dropped when the head passes a limit.  Seen through `view`, the
buffer is a plain queue.
-/

/-- A list with a read head that never passes its end. -/
structure OffsetBuffer (α : Type*) where
  /-- All retained elements, dead space included. -/
  data : List α
  /-- Number of elements already read. -/
  offset : Nat
  offset_le : offset ≤ data.length

namespace OffsetBuffer

variable {α : Type*}

/-- Number of unread elements. -/
def size (buffer : OffsetBuffer α) : Nat :=
  buffer.data.length - buffer.offset

/-- The unread elements. -/
def view (buffer : OffsetBuffer α) : List α :=
  buffer.data.drop buffer.offset

/-- A buffer without elements. -/
def empty : OffsetBuffer α := ⟨[], 0, Nat.le_refl 0⟩

/-- Append a chunk behind the unread elements. -/
def append (buffer : OffsetBuffer α) (chunk : List α) : OffsetBuffer α where
  data := buffer.data ++ chunk
  offset := buffer.offset
  offset_le := by
    have within := buffer.offset_le
    simp only [List.length_append]
    omega

/-- Move the unread elements to the front and drop the dead space. -/
def compact (buffer : OffsetBuffer α) : OffsetBuffer α :=
  if buffer.offset = 0 then buffer else ⟨buffer.view, 0, Nat.zero_le _⟩

/-- Advance the read head over `count` unread elements; compact when it passes `limit`. -/
def consume (buffer : OffsetBuffer α) (limit count : Nat) (within : count ≤ buffer.size) :
    OffsetBuffer α :=
  let moved : OffsetBuffer α :=
    { data := buffer.data
      offset := buffer.offset + count
      offset_le := by
        have inside := buffer.offset_le
        simp only [size] at within
        omega }
  if limit < moved.offset then moved.compact else moved

@[simp]
theorem length_view (buffer : OffsetBuffer α) : buffer.view.length = buffer.size := by
  simp [view, size]

@[simp]
theorem view_empty : (empty : OffsetBuffer α).view = [] := rfl

@[simp]
theorem size_empty : (empty : OffsetBuffer α).size = 0 := rfl

theorem view_eq_nil_iff (buffer : OffsetBuffer α) : buffer.view = [] ↔ buffer.size = 0 := by
  rw [← length_view, List.length_eq_zero_iff]

@[simp]
theorem view_append (buffer : OffsetBuffer α) (chunk : List α) :
    (buffer.append chunk).view = buffer.view ++ chunk := by
  have within := buffer.offset_le
  simp only [append, view]
  rw [List.drop_append_of_le_length within]

@[simp]
theorem size_append (buffer : OffsetBuffer α) (chunk : List α) :
    (buffer.append chunk).size = buffer.size + chunk.length := by
  rw [← length_view, view_append, List.length_append, length_view]

@[simp]
theorem view_compact (buffer : OffsetBuffer α) : buffer.compact.view = buffer.view := by
  unfold compact
  split
  · rfl
  · simp [view]

@[simp]
theorem size_compact (buffer : OffsetBuffer α) : buffer.compact.size = buffer.size := by
  rw [← length_view, view_compact, length_view]

/-- Consuming drops elements from the front of the queue, compacted or not. -/
@[simp]
theorem view_consume (buffer : OffsetBuffer α) (limit count : Nat)
    (within : count ≤ buffer.size) :
    (buffer.consume limit count within).view = buffer.view.drop count := by
  simp only [consume]
  split
  · rw [view_compact]
    simp [view, List.drop_drop, Nat.add_comm]
  · simp [view, List.drop_drop, Nat.add_comm]

@[simp]
theorem size_consume (buffer : OffsetBuffer α) (limit count : Nat)
    (within : count ≤ buffer.size) :
    (buffer.consume limit count within).size = buffer.size - count := by
  rw [← length_view, view_consume, List.length_drop, length_view]

/-! ## Retained elements -/

@[simp]
theorem offset_compact (buffer : OffsetBuffer α) : buffer.compact.offset = 0 := by
  unfold compact
  split
  · assumption
  · rfl

theorem length_data_compact_le (buffer : OffsetBuffer α) :
    buffer.compact.data.length ≤ buffer.data.length := by
  unfold compact
  split
  · exact Nat.le_refl _
  · simp [view]

/-- The dead space in front of the head stays within the limit. -/
theorem offset_consume_le (buffer : OffsetBuffer α) (limit count : Nat)
    (within : count ≤ buffer.size) : (buffer.consume limit count within).offset ≤ limit := by
  simp only [consume]
  split
  · rw [offset_compact]
    exact Nat.zero_le _
  · rename_i few
    exact Nat.le_of_not_lt few

theorem length_data_consume_le (buffer : OffsetBuffer α) (limit count : Nat)
    (within : count ≤ buffer.size) :
    (buffer.consume limit count within).data.length ≤ buffer.data.length := by
  simp only [consume]
  split
  · exact length_data_compact_le _
  · exact Nat.le_refl _

end OffsetBuffer
