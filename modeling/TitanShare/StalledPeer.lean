import TitanShare.Library.Attempts
import TitanShare.PushStreaming

/-!
# A peer that takes no more bytes

The loops of `sendResponse` and of `pushFile` against an infinite sequence of results in which from
some call on nothing more is accepted.  Both wait for at most ten seconds and then try again,
whatever the wait has shown.  So they leave exactly if nothing is left to send or if a later call
ends them: any error but one that asks for another try, and in `sendResponse` also a count of zero.
-/

namespace TitanShare

open ByteText PassLoop

/-- From this call on no byte is accepted. -/
def Stalled (send : Nat → SendResult) (first : Nat) : Prop :=
  ∀ call, first ≤ call → ∀ count, send call ≠ .accepted (count + 1)

/-! ## A response -/

/-- `INT_MAX` -/
def intMax : Nat := 2147483647

/-- The variables of `sendResponse`. -/
structure Responding where
  sent : Nat
  calls : Nat

/-- One pass through the loop of `sendResponse`, which leaves with the number of accepted bytes.
Without TLS there is only one `send`. -/
def responsePass (ssl : Bool) (send : Nat → SendResult) (response : Bytes) (state : Responding) :
    Pass Responding Nat :=
  if ssl = false then
    match send state.calls with
    | .accepted count => .leave (min count response.length)
    | .refused _ _ => .leave 0
  else if state.sent < response.length then
    let chunk := min (response.length - state.sent) intMax
    match send state.calls with
    -- `poll` waits for the socket, and its result is ignored
    | .refused true _ => .again { state with calls := state.calls + 1 }
    | .refused false _ => .leave state.sent
    | .accepted 0 => .leave state.sent
    | .accepted (count + 1) => .again ⟨state.sent + min (count + 1) chunk, state.calls + 1⟩
  else .leave state.sent

namespace Responding

/-- Nothing has been sent. -/
def start : Responding := ⟨0, 0⟩

/-- The next pass calls `SSL_write`, and may have to do so again. -/
def Waits (ssl : Bool) (response : Bytes) (state : Responding) : Prop :=
  ssl = true ∧ state.sent < response.length

/-- The results that end the loop: zero, and every error that is not a WANT code. -/
def Ends (send : Nat → SendResult) (call : Nat) : Prop :=
  send call = .accepted 0 ∨ ∃ again, send call = .refused false again

variable {ssl : Bool} {send : Nat → SendResult} {response : Bytes}

theorem leaves_of_not_waits {state : Responding} (resting : ¬ state.Waits ssl response) :
    ∃ sent, responsePass ssl send response state = .leave sent := by
  cases ssl with
  | false =>
      unfold responsePass
      cases send state.calls with
      | accepted count => exact ⟨_, rfl⟩
      | refused wants again => exact ⟨_, rfl⟩
  | true =>
      have finished : ¬ state.sent < response.length := fun more => resting ⟨rfl, more⟩
      simp [responsePass, finished]

section Pass

variable {state : Responding} (more : state.sent < response.length)

include more

theorem goes_refused {again : Bool} (refused : send state.calls = .refused true again) :
    Goes (responsePass true send response) state { state with calls := state.calls + 1 } := by
  simp [Goes, responsePass, more, refused]

theorem goes_accepted {count : Nat} (accepted : send state.calls = .accepted (count + 1)) :
    Goes (responsePass true send response) state
      ⟨state.sent + min (count + 1) (min (response.length - state.sent) intMax),
        state.calls + 1⟩ := by
  simp [Goes, responsePass, more, accepted]

theorem leaves_ended (ended : Ends send state.calls) :
    responsePass true send response state = .leave state.sent := by
  rcases ended with zero | ⟨again, failed⟩
  · simp [responsePass, more, zero]
  · simp [responsePass, more, failed]

end Pass

theorem attempting :
    Attempting (responsePass ssl send response) calls (Waits ssl response) fun _ => 0 where
  tries := by
    rintro before after ⟨rfl, more⟩ goes
    simp only [Goes, responsePass, Bool.true_eq_false, if_false, if_pos more] at goes
    split at goes
    · rw [← Pass.again.inj goes]
    · cases goes
    · cases goes
    · rw [← Pass.again.inj goes]
  rests := by
    intro before after resting goes
    obtain ⟨sent, leaves⟩ := @leaves_of_not_waits ssl send response before resting
    rw [Goes, leaves] at goes
    cases goes

theorem repeating {first : Nat} (stalled : Stalled send first) :
    Repeating (responsePass ssl send response) calls (Waits ssl response) first (Ends send) where
  leaves := by
    rintro state ⟨rfl, more⟩ _ ended
    exact ⟨state.sent, leaves_ended more ended⟩
  repeats := by
    rintro state ⟨rfl, more⟩ late goesOn
    cases result : send state.calls with
    | accepted count =>
        cases count with
        | zero => exact absurd (Or.inl result) goesOn
        | succ count => exact absurd result (stalled _ late count)
    | refused wants again =>
        cases wants with
        | false => exact absurd (Or.inr ⟨again, result⟩) goesOn
        | true => exact ⟨_, goes_refused more result, rfl, more⟩

theorem leaves_finished {state : Responding} (finished : response.length ≤ state.sent) :
    responsePass true send response state = .leave state.sent := by
  simp [responsePass, not_lt.mpr finished]

/-- The loop leaves, and with what it had sent it has sent this. -/
def Sends (send : Nat → SendResult) (response : Bytes) (state : Responding) (bytes : Bytes) :
    Prop :=
  ∃ sent, Exits (responsePass true send response) state sent ∧
    response.take sent = response.take state.sent ++ bytes

theorem sends_nothing {state : Responding}
    (leaves : responsePass true send response state = .leave state.sent) :
    state.Sends send response [] :=
  ⟨state.sent, ⟨state, .refl, leaves⟩, (List.append_nil _).symm⟩

/-- What a pass sends comes in front of what is sent later. -/
theorem Sends.head {before after : Responding} {taken later : Bytes}
    (goes : Goes (responsePass true send response) before after)
    (takes : response.take after.sent = response.take before.sent ++ taken)
    (sends : after.Sends send response later) : before.Sends send response (taken ++ later) := by
  obtain ⟨sent, ⟨last, visits, leaves⟩, bytes⟩ := sends
  refine ⟨sent, ⟨last, .head goes visits, leaves⟩, ?_⟩
  rw [bytes, takes, List.append_assoc]

/-- A pass takes no more than there is. -/
theorem take_accepted (short : response.length ≤ intMax) (sent count : Nat) :
    response.take (sent + min count (min (response.length - sent) intMax)) =
        response.take sent ++ (response.drop sent).take count ∧
      response.drop (sent + min count (min (response.length - sent) intMax)) =
        (response.drop sent).drop count := by
  have taken : min count (min (response.length - sent) intMax) =
      min count (response.drop sent).length := by
    rw [List.length_drop]
    omega
  rw [taken]
  constructor
  · rw [List.take_add, ← List.take_eq_take_min]
  · rw [← List.drop_drop, ← List.drop_eq_drop_min]

theorem sends_finished {state : Responding} (finished : state.sent = response.length)
    (results : List SendResult) :
    state.Sends send response (Transport.sendTls results (response.drop state.sent)) := by
  have nothing : Transport.sendTls results [] = [] := by
    cases results with
    | nil => rfl
    | cons result rest => simp [Transport.sendTls]
  rw [finished, List.drop_length, nothing]
  exact sends_nothing (leaves_finished finished.ge)

/-- The loop sends what the loop over a list of results sends, if behind the list everything is
accepted. The induction is on the list. -/
theorem sends_sendTls (short : response.length ≤ intMax) (results : List SendResult)
    (state : Responding) (within : state.sent ≤ response.length)
    (agrees : ∀ turn, send (state.calls + turn) = results.getD turn (.accepted intMax)) :
    state.Sends send response (Transport.sendTls results (response.drop state.sent)) := by
  induction results generalizing state with
  | nil =>
      rcases within.eq_or_lt with finished | more
      · exact sends_finished finished []
      · have whole : state.sent + min (2147483646 + 1) (min (response.length - state.sent) intMax) =
            response.length := by
          unfold intMax at short ⊢
          omega
        refine ⟨response.length, ⟨_, .single (goes_accepted more (agrees 0)), ?_⟩, ?_⟩
        · rw [whole]
          exact leaves_finished (le_refl _)
        · simp [Transport.sendTls]
  | cons result rest ih =>
      have now : send state.calls = result := agrees 0
      have later : ∀ turn, send (state.calls + 1 + turn) = rest.getD turn (.accepted intMax) := by
        intro turn
        rw [Nat.add_assoc, Nat.add_comm 1 turn]
        exact agrees (turn + 1)
      rcases within.eq_or_lt with finished | more
      · exact sends_finished finished _
      · have something : response.drop state.sent ≠ [] := by
          rw [Ne, List.drop_eq_nil_iff, not_le]
          exact more
        cases result with
        | refused wants again =>
            cases wants with
            | false =>
                simp only [Transport.sendTls, if_neg something]
                exact sends_nothing (leaves_ended more (.inr ⟨again, now⟩))
            | true =>
                simp only [Transport.sendTls, if_neg something]
                have sends := ih { state with calls := state.calls + 1 } within later
                exact sends.head (goes_refused more now) (List.append_nil _).symm
        | accepted count =>
            cases count with
            | zero =>
                simp only [Transport.sendTls, if_neg something]
                exact sends_nothing (leaves_ended more (.inl now))
            | succ count =>
                simp only [Transport.sendTls, if_neg something]
                obtain ⟨takes, drops⟩ := take_accepted short state.sent (count + 1)
                have sends := ih
                  ⟨state.sent + min (count + 1) (min (response.length - state.sent) intMax),
                    state.calls + 1⟩ (by simp only; omega) later
                rw [drops] at sends
                exact sends.head (goes_accepted more now) takes

/-- Against a list of results a response is sent as in the model with lists. -/
theorem exits_transmit (short : response.length ≤ intMax) (results : List SendResult) :
    ∃ sent, Exits (responsePass ssl (results.getD · (.accepted intMax)) response) start sent ∧
      response.take sent = Transport.transmit ssl results response := by
  cases ssl with
  | true =>
      exact sends_sendTls short results start (Nat.zero_le _) fun turn => by
        rw [start, Nat.zero_add]
  | false =>
      cases results with
      | nil =>
          refine ⟨min intMax response.length, ⟨start, .refl, rfl⟩, ?_⟩
          rw [min_eq_right short, List.take_length]
          rfl
      | cons result rest =>
          cases result with
          | refused wants again => exact ⟨0, ⟨start, .refl, rfl⟩, rfl⟩
          | accepted count =>
              exact ⟨min count response.length, ⟨start, .refl, rfl⟩, List.take_eq_take_min.symm⟩

end Responding

/-! ## A push -/

namespace Pushing

/-- The inner loop is about to send. -/
def Waits (state : Pushing) : Prop :=
  ∃ bytes totalWritten, state.place = .writing bytes totalWritten ∧ totalWritten < bytes.length

/-- The results that end the push: every error that is not `EAGAIN`. -/
def Fails (send : Nat → SendResult) (call : Nat) : Prop :=
  ∃ wants, send call = .refused wants false

/-- The passes in front of the next call. -/
def distance (state : Pushing) : Nat :=
  match state.place with
  | .reading => 1
  | .writing bytes totalWritten => if totalWritten < bytes.length then 0 else 2

variable {env : StreamEnv} {name : Bytes} {size : Nat}

/-- A round of the outer loop begins with a chunk or is the last. -/
theorem goes_reading {before after : Pushing} (place : before.place = .reading)
    (goes : Goes (streamPass env name size) before after) :
    after.calls = before.calls ∧ ∃ bytes, bytes ≠ [] ∧ after.place = .writing bytes 0 := by
  simp only [Goes, streamPass, place] at goes
  split at goes
  · cases goes
  · by_cases good : before.good = true
    · simp only [if_pos good] at goes
      split at goes
      · cases goes
      · rename_i something
        rw [← Pass.again.inj goes]
        exact ⟨rfl, _, something, rfl⟩
    · simp only [if_neg good, if_true] at goes
      cases goes

/-- A chunk that was sent leads back to the outer loop, unless its status update throws. -/
theorem goes_written {before after : Pushing} {bytes : Bytes} {total : Nat}
    (place : before.place = .writing bytes total) (done : bytes.length ≤ total)
    (goes : Goes (streamPass env name size) before after) :
    after.calls = before.calls ∧ after.place = .reading := by
  simp only [Goes, streamPass, place, if_pos done] at goes
  split at goes
  · cases goes
  · rw [← Pass.again.inj goes]
    exact ⟨rfl, rfl⟩

theorem attempting : Attempting (streamPass env name size) calls Waits distance where
  tries := by
    rintro before after ⟨bytes, total, place, below⟩ goes
    simp only [Goes, streamPass, place, if_neg (not_le.mpr below)] at goes
    split at goes
    · cases goes
    · rw [← Pass.again.inj goes]
    · rw [← Pass.again.inj goes]
  rests := by
    intro before after resting goes
    cases place : before.place with
    | reading =>
        obtain ⟨same, bytes, something, next⟩ := goes_reading place goes
        have more : 0 < bytes.length := List.length_pos_of_ne_nil something
        refine ⟨same, ?_⟩
        simp [distance, place, next, more]
    | writing bytes total =>
        have done : ¬ total < bytes.length := fun below => resting ⟨bytes, total, place, below⟩
        obtain ⟨same, next⟩ := goes_written place (not_lt.mp done) goes
        refine ⟨same, ?_⟩
        simp [distance, place, next, done]

theorem repeating {first : Nat} (stalled : Stalled env.send first) :
    Repeating (streamPass env name size) calls Waits first (Fails env.send) where
  leaves := by
    rintro state ⟨bytes, total, place, below⟩ _ ⟨wants, failed⟩
    simp [streamPass, place, not_le.mpr below, failed]
  repeats := by
    rintro state ⟨bytes, total, place, below⟩ late goesOn
    cases result : env.send state.calls with
    | accepted count =>
        cases count with
        | zero =>
            -- a count of zero is added to what was written
            refine ⟨_, goes_accepted place below result, bytes, total, ?_, below⟩
            simp
        | succ count => exact absurd result (stalled _ late count)
    | refused wants again =>
        cases again with
        | false => exact absurd ⟨wants, result⟩ goesOn
        | true => exact ⟨_, goes_blocked place below result, bytes, total, place, below⟩

end Pushing

/-! ## Both loops -/

/-- A response and a push leave their loops, with so many further calls, exactly if they do not wait
for the first call that accepts nothing more, or if one of these calls ends them. -/
theorem stalled_loops_leave_iff (first more : Nat) :
    (∀ ssl send response, Stalled send first →
      (LeavesBy (responsePass ssl send response) Responding.calls (first + more) .start ↔
        ∀ state, Visits (responsePass ssl send response) .start state →
          state.Waits ssl response → state.calls = first →
            ∃ call, first ≤ call ∧ call ≤ first + more ∧ Responding.Ends send call)) ∧
    ∀ (env : StreamEnv) name size context, Stalled env.send first →
      (LeavesBy (streamPass env name size) Pushing.calls (first + more) (.start context) ↔
        ∀ state, Visits (streamPass env name size) (.start context) state →
          state.Waits → state.calls = first →
            ∃ call, first ≤ call ∧ call ≤ first + more ∧ Pushing.Fails env.send call) := by
  constructor
  · intro ssl send response stalled
    exact (Responding.repeating stalled).leavesBy_iff Responding.attempting (Nat.zero_le first) more
  · intro env name size context stalled
    exact (Pushing.repeating stalled).leavesBy_iff Pushing.attempting (Nat.zero_le first) more

/-- The peer takes one byte and no more, and some calls later the connection fails. -/
def failing (call : Nat) : SendResult :=
  if call = 0 then .accepted 1 else if call = 3 then .refused false false else .refused true true

theorem stalled_loops_leave_iff_failing :
    LeavesBy (responsePass true failing (ascii "PONG\n")) Responding.calls (1 + 2) .start ∧
      LeavesBy (streamPass { trickling with send := failing } (ascii "f") 3) Pushing.calls (1 + 2)
        (.start (pairedReceiver []).toContext) := by
  have stalled : Stalled failing 1 := by
    intro call late count same
    unfold failing at same
    split at same
    · omega
    · split at same <;> cases same
  constructor
  · apply ((stalled_loops_leave_iff 1 2).1 true failing (ascii "PONG\n") stalled).mpr
    intro state _ _ _
    exact ⟨3, by decide, le_refl 3, Or.inr ⟨false, rfl⟩⟩
  · apply ((stalled_loops_leave_iff 1 2).2 { trickling with send := failing } (ascii "f") 3
      (pairedReceiver []).toContext stalled).mpr
    intro state _ _ _
    exact ⟨3, by decide, le_refl 3, false, rfl⟩

/-- The peer has stopped reading: `SSL_write` asks for another try each time. -/
def stuck (_ : Nat) : SendResult :=
  .refused true true

/-- A push to this peer. -/
def stuckPush : StreamEnv :=
  { trickling with send := stuck }

theorem stalled_stuck : Stalled stuck 0 := by
  intro call _ count same
  cases same

/-- A peer that only stops reading holds both loops forever. -/
theorem stalled_loops_stay :
    (¬ ∃ more, LeavesBy (responsePass true stuck (ascii "PONG\n")) Responding.calls
      (0 + more) .start) ∧
      ¬ ∃ more, LeavesBy (streamPass stuckPush (ascii "f") 3) Pushing.calls (0 + more)
        (.start (pairedReceiver []).toContext) := by
  constructor
  · rintro ⟨more, leaves⟩
    obtain ⟨call, _, _, ends⟩ := (Responding.repeating stalled_stuck).ends_of_leavesBy
      Responding.attempting ⟨rfl, by decide⟩ (le_refl 0) leaves
    rcases ends with zero | ⟨again, failed⟩
    · cases zero
    · cases failed
  · rintro ⟨more, leaves⟩
    have reads : Goes (streamPass stuckPush (ascii "f") 3) (.start (pairedReceiver []).toContext)
        { Pushing.start (pairedReceiver []).toContext with
          place := .writing (ascii "abc") 0
          good := true } := rfl
    obtain ⟨call, _, _, _, failed⟩ := ((Pushing.repeating stalled_stuck).leavesBy_iff
      Pushing.attempting (le_refl 0) more).mp leaves _ (.single reads) ⟨_, _, rfl, by decide⟩ rfl
    cases failed

end TitanShare
