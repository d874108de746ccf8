import Mathlib.Data.List.Infix
import Mathlib.Tactic.Common

/-!
# Reading messages off a stream

A reader takes one message after the other off the front of a stream that arrives piece by piece.  A
message that was read is not taken back when more arrives, so the messages that were read at any
time are the first ones of all that the stream holds.
-/

/-- How one message is taken off the front of a stream, if it has arrived. -/
structure Reader (Letter Message : Type*) where
  next : List Letter → Option (Message × List Letter)
  /-- A message has letters. -/
  shorter : ∀ {stream message rest}, next stream = some (message, rest) →
    rest.length < stream.length
  /-- What comes behind a message does not change it. -/
  stable : ∀ {stream message rest} (more : List Letter), next stream = some (message, rest) →
    next (stream ++ more) = some (message, rest ++ more)

namespace Reader

variable {Letter Message : Type*} (reader : Reader Letter Message)

/-- The messages that a number of attempts take off, and what is left. -/
def attempts : Nat → List Letter → List Message × List Letter
  | 0, stream => ([], stream)
  | count + 1, stream =>
      match reader.next stream with
      | none => ([], stream)
      | some (message, rest) =>
          let (later, left) := attempts count rest
          (message :: later, left)

/-- Everything that can be read. -/
def read (stream : List Letter) : List Message × List Letter :=
  reader.attempts stream.length stream

variable {reader} {stream rest : List Letter} {message : Message}

theorem attempts_of_le {count more : Nat} (enough : stream.length ≤ count) (le : count ≤ more) :
    reader.attempts more stream = reader.attempts count stream := by
  induction count generalizing stream more with
  | zero =>
      obtain rfl := List.length_eq_zero_iff.mp (Nat.le_zero.mp enough)
      cases more with
      | zero => rfl
      | succ more =>
          cases found : reader.next [] with
          | none => simp [attempts, found]
          | some read => exact absurd (reader.shorter found) (Nat.not_lt_zero _)
  | succ count ih =>
      obtain ⟨more, rfl⟩ := Nat.exists_eq_add_of_le' (Nat.zero_lt_of_lt le)
      cases found : reader.next stream with
      | none => simp [attempts, found]
      | some read =>
          have shorter := reader.shorter found
          simp only [attempts, found]
          rw [ih (by omega) (by omega)]

theorem read_of_none (waits : reader.next stream = none) : reader.read stream = ([], stream) := by
  unfold read
  cases stream.length with
  | zero => rfl
  | succ count => simp [attempts, waits]

theorem read_of_some (takes : reader.next stream = some (message, rest)) :
    reader.read stream = (message :: (reader.read rest).1, (reader.read rest).2) := by
  have shorter := reader.shorter takes
  unfold read
  obtain ⟨count, length⟩ := Nat.exists_eq_add_of_le' (Nat.zero_lt_of_lt shorter)
  rw [length]
  simp only [attempts, takes]
  rw [attempts_of_le le_rfl (by omega)]

/-- Reading goes on where it stopped when more arrives. -/
theorem read_append (stream more : List Letter) :
    reader.read (stream ++ more) =
      ((reader.read stream).1 ++ (reader.read ((reader.read stream).2 ++ more)).1,
        (reader.read ((reader.read stream).2 ++ more)).2) := by
  induction length : stream.length using Nat.strong_induction_on generalizing stream with
  | _ count ih =>
      cases found : reader.next stream with
      | none => simp [read_of_none found]
      | some taken =>
          obtain ⟨message, rest⟩ := taken
          have shorter := reader.shorter found
          rw [read_of_some found, read_of_some (reader.stable more found),
            ih rest.length (by omega) rest rfl]
          simp

/-- The messages that were read when only a part of the stream had arrived. -/
theorem read_take_prefix (stream : List Letter) (count : Nat) :
    (reader.read (stream.take count)).1 <+: (reader.read stream).1 := by
  have arrives := @read_append _ _ reader (stream.take count) (stream.drop count)
  rw [List.take_append_drop] at arrives
  rw [arrives]
  exact List.prefix_append _ _

/-- Messages are read back from their encodings. -/
theorem read_encoded {encode : Message → List Letter} {messages : List Message}
    (readable : ∀ message ∈ messages, ∀ rest,
      reader.next (encode message ++ rest) = some (message, rest)) (rest : List Letter) :
    reader.read (messages.flatMap encode ++ rest) =
      (messages ++ (reader.read rest).1, (reader.read rest).2) := by
  induction messages with
  | nil => rfl
  | cons message later ih =>
      rw [List.flatMap_cons, List.append_assoc,
        read_of_some (readable message List.mem_cons_self _),
        ih fun other member => readable other (List.mem_cons_of_mem _ member)]
      rfl

end Reader
