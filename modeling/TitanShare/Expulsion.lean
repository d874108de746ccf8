import TitanShare.Survival
import TitanShare.AuthGate

/-!
# Sessions that close their own socket

A session closes its socket when it has too much in the buffer before authentication, when a PIN
line comes from a banned address, and when a PIN is wrong once too often.  Which chunks lead to that
is decided by the states in front of these branches.
-/

namespace TitanShare

open ByteText PassLoop

/-- A PIN line the authentication handler answers by closing the socket: the address is banned, or
this is the last wrong PIN it allows. -/
def AuthFrame.Expels (frame : AuthFrame) (line : Bytes) (context : Context) : Prop :=
  let checked := context.world.checkIp frame.check context.session.remoteIp
  checked.1 = true ∨
    (checked.2.guess frame.guess context.session.remoteIp (normalisePin line)).1 = false ∧
      Config.authAttemptsPerConnection ≤ context.session.authAttempts + 1

theorem AuthStep.closed_iff {frame : AuthFrame} {line : Bytes} {before after : Context}
    (step : AuthStep frame line before after) (isOpen : before.session.closed = false) :
    after.session.closed = true ↔ frame.Expels line before := by
  unfold AuthFrame.Expels
  cases step with
  | blocked isBlocked world session sent trace => simp [session, isBlocked]
  | accepted unblocked guessed isFree isValid world session member sent trace =>
      simp [session, isOpen, isFree, isValid]
  | refused unblocked guessed isFree isWrong world closed closes session window sent trace =>
      simp [session, isOpen, isFree, isWrong, closes]

namespace Receiver

/-- The next pass over the buffer reads a PIN line that closes the socket. -/
def ReadsExpelling (env : Env) (receiver : Receiver) : Prop :=
  receiver.session.closed = false ∧ receiver.session.stage = .auth ∧
    ∃ line taken, receiver.takeLine = some (line, taken) ∧
      (env.auth taken.calls.auth).Expels line taken.toContext

/-- A chunk in answer to which an open session closes its socket: the buffer guard strikes, or the
loop comes to a PIN line that closes it. -/
def Expels (env : Env) (chunk : Bytes) (receiver : Receiver) : Prop :=
  (receiver.receive chunk).overflows = true ∨
    (receiver.receive chunk).overflows = false ∧
      ∃ reached, Visits (pass env) (receiver.receive chunk) reached ∧ reached.ReadsExpelling env

/-- Serving a request does not close the socket. -/
theorem handleHeader_closed (frame : HeaderFrame) (line : Bytes) (context : Context) :
    (handleHeader frame line context).state.session.closed = context.session.closed :=
  (handleHeader_step frame line context).serves.closed

theorem headerLine_closed (env : Env) (start : Nat) (line : Bytes) (receiver : Receiver) :
    (receiver.headerLine env start line).state.session.closed = receiver.session.closed := by
  unfold headerLine
  rw [Outcome.state_map]
  exact handleHeader_closed _ _ _

/-- A session that is left by an exception has not closed its socket. -/
theorem threw_open {env : Env} {chunk : Bytes} {receiver after : Receiver} {exception : Exception}
    (threw : receiver.onData env chunk = .threw exception after) :
    after.session.closed = false := by
  have survives : Survives fun _ => True := fun _ _ => trivial
  have ends : Ends _ (receiver.onData env chunk) := survives.onData env chunk trivial
  rw [threw] at ends
  cases ends with
  | request holds requests =>
      obtain ⟨raw, frame, stop, handled⟩ := requests.handled
      have closed := congrArg (fun outcome : Outcome Exception Context =>
        outcome.state.session.closed) handled
      exact closed.trans ((handleHeader_closed _ _ _).trans requests.isOpen)
  | data holds isOpen stage handles => exact handles.serves.closed.trans isOpen

/-- One repeated pass closes the socket exactly when it reads such a PIN line. -/
theorem goes_closed_iff {env : Env} {before after : Receiver}
    (goes : Goes (pass env) before after) :
    after.session.closed = true ↔ before.ReadsExpelling env := by
  obtain ⟨isOpen, line, taken, taking, ⟨stage, rfl⟩ | ⟨stage, handled⟩⟩ := goes_iff.mp goes
  · have step := handleAuth_step (env.auth taken.calls.auth) line taken.toContext
    rw [authLine, step.closed_iff (by rw [takeLine_session taking]; exact isOpen), ReadsExpelling]
    simp [isOpen, stage, taking]
  · have stays := headerLine_closed env before.consumed line taken
    rw [handled, Outcome.state_returned, takeLine_session taking, isOpen] at stays
    rw [ReadsExpelling, stage, stays]
    simp

/-- Leaving the loop closes nothing. -/
theorem leaves_closed {env : Env} {last : Receiver} {outcome : Outcome Exception Receiver}
    (leaving : pass env last = .leave outcome) :
    outcome.state.session.closed = last.session.closed := by
  cases leaves_of_pass leaving with
  | idle nothing => rfl
  | unfinished stage missing => rfl
  | @throws line taken next exception stillOpen stage taking handled =>
      have stays := headerLine_closed env last.consumed line taken
      rw [handled] at stays
      exact stays.trans (congrArg ClientSession.closed (takeLine_session taking))
  | data stillOpen buffered stage => exact (handleFileData_step _ _).serves.closed

/-- An open session is closed after a chunk exactly when the chunk expels it. -/
theorem onData_closed_iff {receiver : Receiver} (env : Env) (chunk : Bytes)
    (isOpen : receiver.session.closed = false) :
    (receiver.onData env chunk).state.session.closed = true ↔ receiver.Expels env chunk := by
  unfold onData Expels
  rw [if_neg (by simp [isOpen])]
  simp only
  by_cases overflows : (receiver.receive chunk).overflows = true
  · simp [overflows, Context.abort]
  · rw [if_neg overflows]
    have fits : (receiver.receive chunk).overflows = false := by simpa using overflows
    have exits := processBuffer_exits env (receiver.receive chunk)
    simp only [fits, Bool.false_eq_true, false_or, true_and]
    constructor
    · intro closed
      obtain ⟨last, visits, leaving⟩ := exits
      rw [leaves_closed leaving] at closed
      rcases visits.cases_tail with rfl | ⟨before, earlier, pass⟩
      · rw [show (receiver.receive chunk).session.closed = false from isOpen] at closed
        cases closed
      · exact ⟨before, earlier, (goes_closed_iff pass).mp closed⟩
    · rintro ⟨reached, visits, reads⟩
      obtain ⟨stillOpen, stage, line, taken, taking, _⟩ := id reads
      have passes : Goes (pass env) reached (taken.authLine env line) :=
        goes_iff.mpr ⟨stillOpen, line, taken, taking, .inl ⟨stage, rfl⟩⟩
      have closed := (goes_closed_iff passes).mpr reads
      have leaving : pass env (taken.authLine env line) =
          .leave (.returned (taken.authLine env line)) := by
        simp [pass, closed]
      rw [exits.eq_of_leave (visits.tail passes) leaving]
      exact closed

end Receiver
end TitanShare
