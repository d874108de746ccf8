import Mathlib.Computability.StateTransition
import TitanShare.ProcessBuffer

/-!
# A session with its whole stream before it

What a session does is meant not to depend on how its stream is cut into chunks.  Here there are no
chunks: a cursor reads lines and single payload bytes from a stream that is there from the start,
and goes on for as long as it can.  It completes an upload when the last payload byte is stored, and
drains the sentinel if the stream goes on with it.
-/

namespace TitanShare

open ByteText StateTransition

/-- A session at a position of its stream. -/
structure Cursor extends Context where
  /-- The number of calls of the authentication handler. -/
  auths : Nat
  /-- The number of calls of the request handler. -/
  headers : Nat
  unread : Bytes

namespace Cursor

/-- Store payload bytes through the descriptor of the upload. -/
def store (descriptor : Nat) (bytes rest : Bytes) (cursor : Cursor) : Cursor :=
  { cursor with
    session :=
      { cursor.session with
        receivedBytes := cursor.session.receivedBytes + bytes.length }
    world := { cursor.world with files := cursor.world.files.write descriptor bytes }
    consumed := cursor.consumed + bytes.length
    unread := rest }

/-- The upload is complete. -/
def finish (descriptor : Nat) (cursor : Cursor) : Cursor :=
  let skipped := Receiver.sentinelLength cursor.unread
  { cursor with
    toContext :=
      Receiver.completeUpload [] descriptor
        { cursor.toContext with consumed := cursor.consumed + skipped }
    unread := cursor.unread.drop skipped }

/-- Answer a line that has been read up to `stop`. -/
def handleLine (env : Env) (raw rest : Bytes) (cursor : Cursor) : Option Cursor :=
  let line := Receiver.stripReturn raw
  let stop := cursor.consumed + (raw.length + 1)
  match cursor.session.stage with
  | .auth =>
      some
        { cursor with
          toContext :=
            handleAuth (env.auth cursor.auths) line { cursor.toContext with consumed := stop }
          auths := cursor.auths + 1
          unread := rest }
  | .header =>
      match handleHeader (env.header cursor.headers) line
          ({ cursor.toContext with consumed := stop }.emit
            [.headerLine cursor.consumed stop line]) with
      | .returned context =>
          some
            { cursor with
              toContext := context
              headers := cursor.headers + 1
              unread := rest }
      | .threw _ _ => none
  | .data => none

/-- Store one payload byte. -/
def handleByte (cursor : Cursor) : Option Cursor :=
  match cursor.session.fileFd, cursor.unread with
  | some descriptor, byte :: rest =>
      let stored := cursor.store descriptor [byte] rest
      if stored.session.expectedBytes ≤ stored.session.receivedBytes then
        some (stored.finish descriptor)
      else some stored
  | _, _ => none

/-- One step, if there is something to do. -/
def advance (env : Env) (cursor : Cursor) : Option Cursor :=
  if cursor.session.closed = true then none
  else
    match cursor.session.stage with
    | .data => cursor.handleByte
    | .auth | .header =>
        match cutAt 10 cursor.unread with
        | none => none
        | some (raw, rest) => cursor.handleLine env raw rest

/-! ## Storing several bytes -/

theorem store_append (descriptor : Nat) (first second rest : Bytes) (cursor : Cursor) :
    (cursor.store descriptor first (second ++ rest)).store descriptor second rest =
      cursor.store descriptor (first ++ second) rest := by
  simp [store, FileTable.write_append, Nat.add_assoc]

variable {env : Env} {cursor : Cursor} {descriptor : Nat}

/-- An open session that waits for payload. -/
structure Receives (cursor : Cursor) (descriptor : Nat) : Prop where
  isOpen : cursor.session.closed = false
  stage : cursor.session.stage = .data
  fileFd : cursor.session.fileFd = some descriptor

theorem Receives.store (receives : cursor.Receives descriptor) (bytes rest : Bytes) :
    (cursor.store descriptor bytes rest).Receives descriptor :=
  ⟨receives.isOpen, receives.stage, receives.fileFd⟩

theorem Receives.advance (receives : cursor.Receives descriptor) {byte : UInt8} {rest : Bytes}
    (unread : cursor.unread = byte :: rest) :
    cursor.advance env =
      if cursor.session.expectedBytes ≤ cursor.session.receivedBytes + 1 then
        some ((cursor.store descriptor [byte] rest).finish descriptor)
      else some (cursor.store descriptor [byte] rest) := by
  simp [Cursor.advance, handleByte, receives.isOpen, receives.stage, receives.fileFd, unread,
    Cursor.store]

/-- Bytes that do not complete the upload. -/
theorem Receives.reaches_store (receives : cursor.Receives descriptor) {bytes rest : Bytes}
    (unread : cursor.unread = bytes ++ rest)
    (incomplete : cursor.session.receivedBytes + bytes.length < cursor.session.expectedBytes) :
    Reaches (Cursor.advance env) cursor (cursor.store descriptor bytes rest) := by
  induction bytes generalizing cursor with
  | nil =>
      have same : cursor.store descriptor [] rest = cursor := by
        simp only [List.nil_append] at unread
        simp [Cursor.store, ← unread]
      rw [same]
      exact .refl
  | cons byte bytes ih =>
      have first : cursor.advance env = some (cursor.store descriptor [byte] (bytes ++ rest)) := by
        have more : ¬ cursor.session.expectedBytes ≤ cursor.session.receivedBytes + 1 := by
          simp only [List.length_cons] at incomplete
          omega
        have cut : cursor.unread = byte :: (bytes ++ rest) := unread
        rw [receives.advance cut, if_neg more]
      have later := ih (receives.store [byte] (bytes ++ rest)) rfl (by
        simp only [Cursor.store, List.length_cons, List.length_nil] at incomplete ⊢
        omega)
      rw [store_append] at later
      exact .head first later

/-- Bytes that complete the upload. -/
theorem Receives.reaches_finish (receives : cursor.Receives descriptor) {bytes rest : Bytes}
    (unread : cursor.unread = bytes ++ rest) (some_bytes : bytes ≠ [])
    (complete : cursor.session.receivedBytes + bytes.length = cursor.session.expectedBytes) :
    Reaches (Cursor.advance env) cursor
      ((cursor.store descriptor bytes rest).finish descriptor) := by
  obtain ⟨init, last, rfl⟩ : ∃ init last, bytes = init ++ [last] := by
    rcases List.eq_nil_or_concat bytes with none | ⟨init, last, same⟩
    · exact absurd none some_bytes
    · exact ⟨init, last, by rw [same, List.concat_eq_append]⟩
  have lengths : init.length + 1 = (init ++ [last]).length := by simp
  have before : Reaches (Cursor.advance env) cursor
      (cursor.store descriptor init (last :: rest)) :=
    receives.reaches_store (by simpa using unread) (by omega)
  have step : (cursor.store descriptor init (last :: rest)).advance env = _ :=
    (receives.store init (last :: rest)).advance rfl
  have full : (cursor.store descriptor init (last :: rest)).session.expectedBytes ≤
      (cursor.store descriptor init (last :: rest)).session.receivedBytes + 1 := by
    simp only [Cursor.store]
    omega
  have merged : (cursor.store descriptor init (last :: rest)).store descriptor [last] rest =
      cursor.store descriptor (init ++ [last]) rest :=
    store_append descriptor init [last] rest cursor
  rw [if_pos full, merged] at step
  exact before.tail step

end Cursor
end TitanShare
