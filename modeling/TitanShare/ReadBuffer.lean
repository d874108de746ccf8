import TitanShare.RejectedUpload

/-!
# The read buffer as memory

`m_buffer` and `m_bufferOffset` with the arithmetic of `size_t`: differences wrap below zero, bytes
are moved by `memmove`, and no operation checks its argument.  A session on this buffer logs every
operation it performs.  The operations of every session keep the head inside the buffer, and seen
through `bufData` and `bufSize` they are those of a plain queue.
-/

namespace TitanShare

open ByteText PassLoop

/-- The difference of two `size_t` values. -/
def sizeSub (left right : Nat) : Nat :=
  if right ≤ left then left - right else left + 2 ^ 64 - right

/-- `std::memmove` of `count` bytes to the front of a region. -/
def memmove (bytes : Bytes) (source count : Nat) : Bytes :=
  let moved := (bytes.drop source).take count
  moved ++ bytes.drop moved.length

/-- `std::vector::resize` -/
def resize (bytes : Bytes) (count : Nat) : Bytes :=
  bytes.take count ++ List.replicate (count - bytes.length) 0

/-- The receive buffer of a session. -/
structure ReadBuffer where
  /-- `m_buffer` -/
  buffer : Bytes
  /-- `m_bufferOffset` -/
  bufferOffset : Nat

/-- What a session does to its receive buffer. -/
inductive BufferOp
  /-- `m_buffer.insert` at the end -/
  | append (chunk : Bytes)
  /-- `consumeBuffer` -/
  | consume (count : Nat)
  /-- `compactBuffer` -/
  | compact
  /-- `m_buffer.clear()`, with the offset reset -/
  | clear

namespace ReadBuffer

def empty : ReadBuffer := ⟨[], 0⟩

/-- `bufSize()` -/
def bufSize (raw : ReadBuffer) : Nat :=
  sizeSub raw.buffer.length raw.bufferOffset

/-- The `bufSize()` bytes at `bufData()`. -/
def readable (raw : ReadBuffer) : Bytes :=
  (raw.buffer.drop raw.bufferOffset).take raw.bufSize

/-- `compactBuffer` -/
def compactBuffer (raw : ReadBuffer) : ReadBuffer :=
  if raw.bufferOffset = 0 then raw
  else
    let remaining := sizeSub raw.buffer.length raw.bufferOffset
    let moved :=
      if 0 < remaining then memmove raw.buffer raw.bufferOffset remaining else raw.buffer
    ⟨resize moved remaining, 0⟩

/-- `consumeBuffer` -/
def consumeBuffer (raw : ReadBuffer) (count : Nat) : ReadBuffer :=
  let moved : ReadBuffer := { raw with bufferOffset := raw.bufferOffset + count }
  if Config.compactThreshold < moved.bufferOffset then moved.compactBuffer else moved

def perform (raw : ReadBuffer) : BufferOp → ReadBuffer
  | .append chunk => { raw with buffer := raw.buffer ++ chunk }
  | .consume count => raw.consumeBuffer count
  | .compact => raw.compactBuffer
  | .clear => empty

def performAll (raw : ReadBuffer) (operations : List BufferOp) : ReadBuffer :=
  operations.foldl perform raw

end ReadBuffer

/-- The number of unread bytes an operation takes. -/
def BufferOp.takes : BufferOp → Nat
  | consume count => count
  | append _ | compact | clear => 0

/-- The chunk an operation appends. -/
def BufferOp.appends : BufferOp → Option Bytes
  | append chunk => some chunk
  | consume _ | compact | clear => none

/-- What an operation means for a plain queue. -/
def BufferOp.onQueue (queue : Bytes) : BufferOp → Bytes
  | append chunk => queue ++ chunk
  | consume count => queue.drop count
  | compact => queue
  | clear => []

/-- A plain queue after some operations. -/
def queueAfter (operations : List BufferOp) : Bytes :=
  operations.foldl BufferOp.onQueue []

/-! ## Operations on a sound buffer -/

namespace ReadBuffer

/-- The memory of a buffer whose head is inside. -/
def of (buffer : OffsetBuffer UInt8) : ReadBuffer :=
  ⟨buffer.data, buffer.offset⟩

theorem sizeSub_of_le {left right : Nat} (le : right ≤ left) : sizeSub left right = left - right :=
  if_pos le

/-- With the head inside the buffer the size does not wrap. -/
@[simp]
theorem bufSize_of (buffer : OffsetBuffer UInt8) : (of buffer).bufSize = buffer.size :=
  sizeSub_of_le buffer.offset_le

@[simp]
theorem readable_of (buffer : OffsetBuffer UInt8) : (of buffer).readable = buffer.view := by
  rw [readable, bufSize_of, ← OffsetBuffer.length_view]
  exact List.take_length

theorem perform_append (buffer : OffsetBuffer UInt8) (chunk : Bytes) :
    (of buffer).perform (.append chunk) = of (buffer.append chunk) := rfl

/-- The bytes behind the head fit into the region they are moved to, so that nothing else is left in
it once the dead space is cut off. -/
theorem resize_memmove {bytes : Bytes} {source count : Nat}
    (within : count ≤ (bytes.drop source).length) :
    resize (memmove bytes source count) count = (bytes.drop source).take count := by
  have slice : ((bytes.drop source).take count).length = count := List.length_take_of_le within
  have long : count ≤ (memmove bytes source count).length := by
    simp only [memmove, List.length_append, slice]
    omega
  have front : (memmove bytes source count).take count = (bytes.drop source).take count := by
    unfold memmove
    exact List.take_left' slice
  rw [resize, front, Nat.sub_eq_zero_of_le long, List.replicate_zero, List.append_nil]

theorem perform_compact (buffer : OffsetBuffer UInt8) :
    (of buffer).perform .compact = of buffer.compact := by
  change (of buffer).compactBuffer = of buffer.compact
  unfold compactBuffer OffsetBuffer.compact
  by_cases fresh : buffer.offset = 0
  · rw [if_pos fresh, if_pos (show (of buffer).bufferOffset = 0 from fresh)]
  · rw [if_neg fresh, if_neg (show ¬(of buffer).bufferOffset = 0 from fresh)]
    have remaining : sizeSub (of buffer).buffer.length (of buffer).bufferOffset =
        (buffer.data.drop buffer.offset).length := by
      rw [List.length_drop]
      exact sizeSub_of_le buffer.offset_le
    have left : resize
        (if 0 < (buffer.data.drop buffer.offset).length then
          memmove buffer.data buffer.offset (buffer.data.drop buffer.offset).length
        else buffer.data) (buffer.data.drop buffer.offset).length = buffer.view := by
      split
      · rw [resize_memmove (Nat.le_refl _), List.take_length]
        rfl
      · have empty : buffer.data.drop buffer.offset = [] := List.length_eq_zero_iff.mp (by omega)
        simp [OffsetBuffer.view, resize, empty]
    simp only [remaining]
    exact congrArg (fun bytes => ReadBuffer.mk bytes 0) left

theorem perform_consume (buffer : OffsetBuffer UInt8) {count : Nat} (within : count ≤ buffer.size) :
    (of buffer).perform (.consume count) =
      of (buffer.consume Config.compactThreshold count within) := by
  change (if Config.compactThreshold < buffer.offset + count then
      compactBuffer ⟨buffer.data, buffer.offset + count⟩
    else ⟨buffer.data, buffer.offset + count⟩) = _
  have inside : buffer.offset + count ≤ buffer.data.length := by
    have head := buffer.offset_le
    simp only [OffsetBuffer.size] at within
    omega
  unfold OffsetBuffer.consume
  by_cases dead : Config.compactThreshold < buffer.offset + count
  · simp only [if_pos dead]
    exact perform_compact ⟨buffer.data, buffer.offset + count, inside⟩
  · simp only [if_neg dead]
    rfl

/-- The head is inside the buffer, behind a bounded dead space. -/
structure Sound (raw : ReadBuffer) : Prop where
  inside : raw.bufferOffset ≤ raw.buffer.length
  dead : raw.bufferOffset ≤ Config.compactThreshold

theorem sound_empty : Sound empty where
  inside := Nat.le_refl 0
  dead := Nat.zero_le _

theorem Sound.exists_of {raw : ReadBuffer} (sound : raw.Sound) :
    ∃ buffer : OffsetBuffer UInt8, raw = of buffer :=
  ⟨⟨raw.buffer, raw.bufferOffset, sound.inside⟩, rfl⟩

theorem Sound.length_readable {raw : ReadBuffer} (sound : raw.Sound) :
    raw.readable.length = raw.bufSize := by
  obtain ⟨buffer, rfl⟩ := sound.exists_of
  rw [readable_of, bufSize_of, OffsetBuffer.length_view]

/-- An operation that takes no more than there is keeps the buffer sound and does to the readable
bytes what it does to a queue. -/
theorem Sound.perform {raw : ReadBuffer} (sound : raw.Sound) {operation : BufferOp}
    (covered : operation.takes ≤ raw.bufSize) :
    (raw.perform operation).Sound ∧
      (raw.perform operation).readable = operation.onQueue raw.readable := by
  obtain ⟨buffer, rfl⟩ := sound.exists_of
  cases operation with
  | append chunk =>
      rw [perform_append, readable_of, readable_of]
      exact ⟨⟨(buffer.append chunk).offset_le, sound.dead⟩, buffer.view_append chunk⟩
  | consume count =>
      rw [bufSize_of] at covered
      change count ≤ buffer.size at covered
      rw [perform_consume buffer covered, readable_of, readable_of]
      exact ⟨⟨OffsetBuffer.offset_le _, buffer.offset_consume_le _ _ covered⟩,
        buffer.view_consume _ _ covered⟩
  | compact =>
      rw [perform_compact, readable_of, readable_of]
      refine ⟨⟨OffsetBuffer.offset_le _, ?_⟩, buffer.view_compact⟩
      change buffer.compact.offset ≤ _
      rw [OffsetBuffer.offset_compact]
      exact Nat.zero_le _
  | clear => exact ⟨sound_empty, rfl⟩

/-- No operation of a run takes more than there is. -/
def Covered (raw : ReadBuffer) : List BufferOp → Prop
  | [] => True
  | operation :: rest => operation.takes ≤ raw.bufSize ∧ Covered (raw.perform operation) rest

@[simp]
theorem performAll_concat (raw : ReadBuffer) (operations : List BufferOp) (last : BufferOp) :
    raw.performAll (operations ++ [last]) = (raw.performAll operations).perform last := by
  simp [performAll]

theorem covered_concat {raw : ReadBuffer} {operations : List BufferOp} {last : BufferOp} :
    raw.Covered (operations ++ [last]) ↔
      raw.Covered operations ∧ last.takes ≤ (raw.performAll operations).bufSize := by
  induction operations generalizing raw with
  | nil => simp [Covered, performAll]
  | cons first rest ih =>
      simp only [List.cons_append, Covered, ih, and_assoc]
      rfl

theorem Covered.of_prefix {raw : ReadBuffer} {operations earlier : List BufferOp}
    (covered : raw.Covered operations) (before : earlier <+: operations) : raw.Covered earlier := by
  induction earlier generalizing raw operations with
  | nil => trivial
  | cons first rest ih =>
      obtain ⟨later, rfl⟩ := before
      exact ⟨covered.1, ih covered.2 ⟨later, rfl⟩⟩

/-- The buffer refines the queue along a run. -/
theorem sound_performAll {operations : List BufferOp} (covered : empty.Covered operations) :
    (empty.performAll operations).Sound ∧
      (empty.performAll operations).readable = queueAfter operations := by
  induction operations using List.reverseRecOn with
  | nil => exact ⟨sound_empty, rfl⟩
  | append_singleton earlier last ih =>
      obtain ⟨before, takes⟩ := covered_concat.mp covered
      obtain ⟨sound, readable⟩ := ih before
      obtain ⟨kept, moved⟩ := sound.perform takes
      rw [performAll_concat]
      refine ⟨kept, ?_⟩
      rw [moved, readable]
      simp [queueAfter]

end ReadBuffer
end TitanShare
