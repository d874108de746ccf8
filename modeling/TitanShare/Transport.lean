import Mathlib.Data.List.TakeDrop
import TitanShare.Library.ByteText

/-!
# Sending on a client socket

The three send loops of the session code, each run against the results its `send` or `SSL_write`
calls return.  A list of results is exhausted eventually; from then on everything is accepted.
-/

namespace TitanShare

/-- The result of one `send` or `SSL_write` call. -/
inductive SendResult
  /-- A return value that is not negative; a count above the request means all of it. -/
  | accepted (count : Nat)
  /-- A negative return value: whether `SSL_get_error` reports a WANT code, and whether `errno` is
  `EAGAIN` or `EWOULDBLOCK`. -/
  | refused (wants again : Bool)
  deriving DecidableEq

namespace Transport

/-- The single plain `send` of `sendResponse`, whose result is ignored: what it accepted. -/
def sendPlain : List SendResult → Bytes → Bytes
  | [], bytes => bytes
  | .accepted count :: _, bytes => bytes.take count
  | .refused _ _ :: _, _ => []

/-- The `SSL_write` loop of `sendResponse`: it waits on a WANT code and gives up on any other
error or on zero. -/
def sendTls : List SendResult → Bytes → Bytes
  | [], bytes => bytes
  | result :: rest, bytes =>
      if bytes = [] then []
      else
        match result with
        | .refused true _ => sendTls rest bytes
        | .refused false _ => []
        | .accepted 0 => []
        | .accepted (count + 1) => bytes.take (count + 1) ++ sendTls rest (bytes.drop (count + 1))

/-- The bytes of a response that the socket accepted. -/
def transmit (ssl : Bool) (results : List SendResult) (bytes : Bytes) : Bytes :=
  if ssl then sendTls results bytes else sendPlain results bytes

/-- The first call accepts the whole text. -/
def TakenAtOnce : List SendResult → Bytes → Prop
  | [], _ => True
  | .accepted count :: _, bytes => bytes.length ≤ count
  | .refused _ _ :: _, bytes => bytes = []

theorem sendPlain_eq_iff (results : List SendResult) (bytes : Bytes) :
    sendPlain results bytes = bytes ↔ TakenAtOnce results bytes := by
  cases results with
  | nil => simp [sendPlain, TakenAtOnce]
  | cons result rest =>
      cases result with
      | accepted count => simp [sendPlain, TakenAtOnce]
      | refused wants again => simp [sendPlain, TakenAtOnce, eq_comm]

/-- The results of `SSL_write` until a text of this length is out: WANT codes and counts that are
not zero. -/
def TakenByTls : List SendResult → Nat → Prop
  | [], _ => True
  | result :: rest, length =>
      length = 0 ∨
        match result with
        | .refused wants _ => wants = true ∧ TakenByTls rest length
        | .accepted count => count ≠ 0 ∧ TakenByTls rest (length - count)

theorem sendTls_eq_iff (results : List SendResult) (bytes : Bytes) :
    sendTls results bytes = bytes ↔ TakenByTls results bytes.length := by
  induction results generalizing bytes with
  | nil => simp [sendTls, TakenByTls]
  | cons result rest ih =>
      by_cases nothing : bytes = []
      · simp [sendTls, TakenByTls, nothing]
      · have positive : bytes.length ≠ 0 := by simpa using nothing
        cases result with
        | refused wants again =>
            cases wants with
            | true => simp [sendTls, TakenByTls, nothing, ih]
            | false => simp [sendTls, TakenByTls, nothing, eq_comm]
        | accepted count =>
            cases count with
            | zero => simp [sendTls, TakenByTls, nothing, eq_comm]
            | succ count =>
                have later := ih (bytes.drop (count + 1))
                rw [List.length_drop] at later
                simp only [sendTls, TakenByTls, nothing, if_false,
                  List.length_eq_zero_iff, false_or, ← later]
                constructor
                · intro whole
                  refine ⟨Nat.succ_ne_zero _, ?_⟩
                  have split := List.take_append_drop (count + 1) bytes
                  exact List.append_cancel_left (whole.trans split.symm)
                · rintro ⟨_, tail⟩
                  rw [tail, List.take_append_drop]

/-- The connection takes the whole text. -/
def Taken (ssl : Bool) (results : List SendResult) (bytes : Bytes) : Prop :=
  if ssl then TakenByTls results bytes.length else TakenAtOnce results bytes

theorem transmit_eq_iff (ssl : Bool) (results : List SendResult) (bytes : Bytes) :
    transmit ssl results bytes = bytes ↔ Taken ssl results bytes := by
  cases ssl with
  | false => exact sendPlain_eq_iff results bytes
  | true => exact sendTls_eq_iff results bytes

instance (ssl : Bool) (results : List SendResult) (bytes : Bytes) :
    Decidable (Taken ssl results bytes) :=
  decidable_of_iff _ (transmit_eq_iff ssl results bytes)

/-- The sending loop of `pushFile` for one chunk: it waits on `EAGAIN` and fails on any other
error.  The flag tells whether the whole chunk was accepted. -/
def sendChunk : List SendResult → Bytes → Bytes × Bool
  | [], bytes => (bytes, true)
  | result :: rest, bytes =>
      if bytes = [] then ([], true)
      else
        match result with
        | .refused _ true => sendChunk rest bytes
        | .refused _ false => ([], false)
        | .accepted count =>
            let later := sendChunk rest (bytes.drop count)
            (bytes.take count ++ later.1, later.2)

/-- Among the results consumed until `length` bytes are accepted there is no hard error. -/
def carries : List SendResult → Nat → Bool
  | [], _ => true
  | result :: rest, length =>
      length == 0 ||
        match result with
        | .refused _ again => again && carries rest length
        | .accepted count => carries rest (length - count)

theorem sendChunk_complete (results : List SendResult) (bytes : Bytes) :
    (sendChunk results bytes).2 = carries results bytes.length := by
  induction results generalizing bytes with
  | nil => rfl
  | cons result rest ih =>
      by_cases nothing : bytes = []
      · simp [sendChunk, carries, nothing]
      · have positive : bytes.length ≠ 0 := by simpa using nothing
        cases result with
        | accepted count => simp [sendChunk, carries, nothing, positive, ih]
        | refused wants again =>
            cases again with
            | true => simp [sendChunk, carries, nothing, positive, ih]
            | false => simp [sendChunk, carries, nothing, positive]

/-- A chunk that was accepted was sent whole, and otherwise a proper part of it was. -/
theorem sendChunk_sent (results : List SendResult) (bytes : Bytes) :
    if carries results bytes.length then (sendChunk results bytes).1 = bytes
    else (sendChunk results bytes).1.length < bytes.length := by
  induction results generalizing bytes with
  | nil => simp [sendChunk, carries]
  | cons result rest ih =>
      by_cases nothing : bytes = []
      · simp [sendChunk, carries, nothing]
      · have positive : bytes.length ≠ 0 := by simpa using nothing
        cases result with
        | refused wants again =>
            cases again with
            | true => simpa [sendChunk, carries, nothing, positive] using ih bytes
            | false =>
                simp only [sendChunk, carries, nothing, positive, if_false, Bool.false_and,
                  Bool.or_false, beq_iff_eq]
                exact List.length_pos_of_ne_nil nothing
        | accepted count =>
            have later := ih (bytes.drop count)
            rw [List.length_drop] at later
            simp only [sendChunk, carries, nothing, if_false, positive, beq_iff_eq,
              Bool.or_eq_true, false_or]
            by_cases carried : carries rest (bytes.length - count) = true
            · rw [if_pos carried] at later ⊢
              rw [later, List.take_append_drop]
            · rw [if_neg carried] at later ⊢
              rw [List.length_append, List.length_take]
              omega

end Transport
end TitanShare
