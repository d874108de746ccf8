import TitanShare.Daemon

/-!
# The calls of the data handler

A delivery calls the data handler at most once, in its last pass over the buffer.  Whether that call
returns depends on its publish calls alone; when it returns, the session is still waiting for
payload or its upload is over.
-/

namespace TitanShare

open ByteText PassLoop

namespace Receiver

/-- The payload bytes of the upload that have not been written. -/
def missing (receiver : Receiver) : Nat :=
  receiver.session.expectedBytes - receiver.session.receivedBytes

end Receiver

/-- How many bytes `write` takes. -/
def DataFrame.takes (frame : DataFrame) (receiver : Receiver) : Nat :=
  min (frame.write.getD 0) (min receiver.bufSize receiver.missing)

/-- The publish calls that the data handler makes behind `write` return. -/
structure DataFrame.Publishes (frame : DataFrame) (receiver : Receiver) : Prop where
  progress : frame.due = true ∨
      receiver.session.receivedBytes + frame.takes receiver = receiver.session.expectedBytes →
    frame.progress.Succeeds receiver.session.fileName
  finish : receiver.session.expectedBytes ≤ receiver.session.receivedBytes + frame.takes receiver →
    frame.finish.createsDir = true

namespace Receiver

/-- What one call of the data handler does that returns. -/
inductive DataReturn (frame : DataFrame) (before after : Receiver) : Prop
  | idle (same : after = before) (nothing : before.session.fileFd = none ∨ before.bufSize = 0)
  | failed (descriptor : Nat) (owned : before.session.fileFd = some descriptor)
      (refused : frame.write = none)
      (fails : after = before.failWrite frame descriptor before.missing)
  | stored (descriptor : Nat) (owned : before.session.fileFd = some descriptor)
      (stores : Stores descriptor (frame.takes before) before after)
      (incomplete : after.session.receivedBytes < after.session.expectedBytes)
  | completed (descriptor : Nat) (owned : before.session.fileFd = some descriptor)
      (middle : Receiver) (stores : Stores descriptor (frame.takes before) before middle)
      (complete : middle.session.expectedBytes ≤ middle.session.receivedBytes)
      (finishes : after = middle.finishUpload frame descriptor)

theorem DataReturn.step {frame : DataFrame} {before after : Receiver}
    (returns : DataReturn frame before after) : DataStep frame before after := by
  cases returns with
  | idle same nothing => exact .idle same
  | failed descriptor owned refused fails => exact .failed descriptor owned refused fails
  | stored descriptor owned stores incomplete =>
      exact .stored descriptor _ owned (min_le_right _ _) stores
  | completed descriptor owned middle stores complete finishes =>
      exact .completed descriptor _ owned (min_le_right _ _) middle stores complete finishes

theorem handleFileData_returned {frame : DataFrame} {receiver after : Receiver}
    (returns : receiver.handleFileData frame = .returned after) :
    DataReturn frame receiver after := by
  have settled : ∀ descriptor middle,
      receiver.session.fileFd = some descriptor →
      Stores descriptor (frame.takes receiver) receiver middle →
      (middle.reportProgress frame).andThen (checkCompletion frame descriptor) = .returned after →
      DataReturn frame receiver after := by
    intro descriptor middle owned stores settles
    have stored := reportProgress_stores frame stores
    cases progress : middle.reportProgress frame with
    | threw exception reached =>
        rw [progress] at settles
        cases settles
    | returned reached =>
        rw [progress, Outcome.state_returned] at stored
        rw [progress, Outcome.returned_andThen, checkCompletion] at settles
        split at settles
        case isFalse incomplete =>
            obtain rfl := Outcome.returned.inj settles
            exact .stored descriptor owned stored (not_le.mp incomplete)
        case isTrue complete =>
            have published := publish_stores frame.finish ⟨false, false, [], 1, 1⟩ _ _ stored
            cases result : reached.publish frame.finish ⟨false, false, [], 1, 1⟩ with
            | threw exception final =>
                rw [result] at settles
                cases settles
            | returned final =>
                rw [result, Outcome.returned_andThen] at settles
                obtain rfl := Outcome.returned.inj settles
                rw [result, Outcome.state_returned] at published
                refine .completed descriptor owned final published ?_ rfl
                rw [published.session, ← stored.session]
                exact complete
  unfold handleFileData at returns
  split at returns
  case h_1 nothing =>
      obtain rfl := Outcome.returned.inj returns
      exact .idle rfl (.inl nothing)
  case h_2 descriptor owned =>
      split at returns
      case isTrue empty =>
          obtain rfl := Outcome.returned.inj returns
          exact .idle rfl (.inr empty)
      case isFalse =>
          simp only at returns
          split at returns
          case isTrue nothing =>
              have none : frame.takes receiver = 0 := by
                rw [DataFrame.takes, missing, nothing, Nat.min_zero]
              refine settled descriptor receiver owned ?_ returns
              rw [none]
              exact stores_nothing descriptor receiver
          case isFalse =>
              split at returns
              case h_1 refused =>
                  obtain rfl := Outcome.returned.inj returns
                  exact .failed descriptor owned refused rfl
              case h_2 count wrote =>
                  have takes : frame.takes receiver = min count (min receiver.bufSize
                      (receiver.session.expectedBytes - receiver.session.receivedBytes)) := by
                    rw [DataFrame.takes, wrote, Option.getD_some, missing]
                  refine settled descriptor _ owned ?_ returns
                  rw [takes]
                  exact stores_storeBytes _ _ _ _

/-- What the handler does behind `write` returns exactly when its publish calls do. -/
theorem settle_returns_iff {frame : DataFrame} {receiver stored : Receiver} {descriptor : Nat}
    (stores : Stores descriptor (frame.takes receiver) receiver stored) :
    ((stored.reportProgress frame).andThen (checkCompletion frame descriptor)).Returns ↔
      frame.Publishes receiver := by
  have session := stores.session
  have reported := reportProgress_stores frame stores
  have progress : (stored.reportProgress frame).Returns ↔
      (frame.due = true ∨ receiver.session.receivedBytes + frame.takes receiver =
          receiver.session.expectedBytes →
        frame.progress.Succeeds receiver.session.fileName) := by
    simp only [reportProgress, session]
    split
    case isTrue made => simp [publish, publishTransferState_returns_iff, made]
    case isFalse skipped => simp [skipped]
  have finish : ∀ middle : Receiver, middle.session = stored.session →
      ((middle.checkCompletion frame descriptor).Returns ↔
        (receiver.session.expectedBytes ≤ receiver.session.receivedBytes + frame.takes receiver →
          frame.finish.createsDir = true)) := by
    intro middle same
    simp only [checkCompletion, same, session]
    split
    case isTrue complete =>
        have named : (middle.publish frame.finish ⟨false, false, [], 1, 1⟩).Returns ↔
            frame.finish.createsDir = true := by
          have empty : Json.validUtf8 [] = true := rfl
          simp [publish, publishTransferState_returns_iff, PublishEnv.Succeeds, empty]
        have last : ∀ published : Receiver,
            (Outcome.returned (published.finishUpload frame descriptor) :
              Outcome Exception Receiver).Returns ↔ True :=
          fun published => iff_true_intro (Outcome.returns_returned _)
        rw [Outcome.returns_andThen_iff named last]
        simp [complete]
    case isFalse incomplete => simp [incomplete]
  cases result : stored.reportProgress frame with
  | threw exception reached =>
      rw [result] at progress
      simp only [Outcome.not_returns_threw, false_iff] at progress
      simp only [Outcome.threw_andThen, Outcome.not_returns_threw, false_iff]
      exact fun publishes => progress publishes.progress
  | returned reached =>
      rw [result] at progress reported
      have same : reached.session = stored.session := by
        rw [session]
        exact reported.session
      rw [Outcome.returned_andThen, finish reached same]
      simp only [Outcome.returns_returned, true_iff] at progress
      exact ⟨fun made => ⟨progress, made⟩, fun publishes => publishes.finish⟩

theorem handleFileData_refused {frame : DataFrame} {receiver : Receiver} {descriptor : Nat}
    (owned : receiver.session.fileFd = some descriptor) (buffered : receiver.bufSize ≠ 0)
    (waiting : receiver.missing ≠ 0) (refused : frame.write = none) :
    receiver.handleFileData frame =
      .returned (receiver.failWrite frame descriptor receiver.missing) := by
  have more : min receiver.bufSize
      (receiver.session.expectedBytes - receiver.session.receivedBytes) ≠ 0 := by
    unfold missing at waiting
    omega
  simp only [handleFileData, owned, if_neg buffered, if_neg more, refused]
  rfl

/-- The data handler returns when `write` fails and when its publish calls return. -/
theorem handleFileData_returns_iff {frame : DataFrame} {receiver : Receiver} {descriptor : Nat}
    (owned : receiver.session.fileFd = some descriptor) (buffered : receiver.bufSize ≠ 0)
    (waiting : receiver.missing ≠ 0) :
    (receiver.handleFileData frame).Returns ↔ frame.write = none ∨ frame.Publishes receiver := by
  have more : min receiver.bufSize
      (receiver.session.expectedBytes - receiver.session.receivedBytes) ≠ 0 := by
    unfold missing at waiting
    omega
  cases wrote : frame.write with
  | none => simp [handleFileData_refused owned buffered waiting wrote]
  | some count =>
      have takes : frame.takes receiver = min count (min receiver.bufSize
          (receiver.session.expectedBytes - receiver.session.receivedBytes)) := by
        rw [DataFrame.takes, wrote, Option.getD_some, missing]
      have within : frame.takes receiver ≤ receiver.bufSize :=
        (min_le_right _ _).trans (min_le_left _ _)
      have stores := stores_storeBytes descriptor (frame.takes receiver) receiver within
      have settles := settle_returns_iff stores
      simp only [takes] at settles
      simp only [handleFileData, owned, if_neg buffered, if_neg more, wrote]
      simpa using settles

/-! ## Deliveries -/

/-- During a delivery the data handler is called in the state `last`. -/
structure DataCall (env : Env) (chunk : Bytes) (receiver last : Receiver) : Prop where
  isOpen : receiver.session.closed = false
  fits : (receiver.receive chunk).overflows = false
  visits : Visits (pass env) (receiver.receive chunk) last
  stillOpen : last.session.closed = false
  buffered : last.bufSize ≠ 0
  stage : last.session.stage = .data

variable {env : Env} {chunk : Bytes} {receiver last : Receiver}

/-- The call of the data handler is the last thing a delivery does. -/
theorem DataCall.onData (call : DataCall env chunk receiver last) :
    receiver.onData env chunk = last.fileData env := by
  have leaves : pass env last = .leave (last.fileData env) := by
    simp [pass, call.stillOpen, call.buffered, call.stage]
  have exits := (receiver.receive chunk).processBuffer_exits env
  have result := exits.eq_of_leave call.visits leaves
  rw [onData_fits env call.isOpen call.fits]
  exact result

/-- How a delivery ends. -/
inductive Delivered (env : Env) (chunk : Bytes) (receiver : Receiver) :
    Outcome Exception Receiver → Prop
  | closed (isClosed : receiver.session.closed = true) :
      Delivered env chunk receiver (.returned receiver)
  | overflow (isOpen : receiver.session.closed = false)
      (overflows : (receiver.receive chunk).overflows = true) :
      Delivered env chunk receiver
        (.returned
          { receiver.receive chunk with toContext := (receiver.receive chunk).toContext.abort })
  | waits (last : Receiver) (isOpen : receiver.session.closed = false)
      (visits : Visits (pass env) (receiver.receive chunk) last)
      (idle : last.session.closed = true ∨ last.bufSize = 0 ∨ last.session.stage ≠ .data) :
      Delivered env chunk receiver (.returned last)
  | throws (last : Receiver) (isOpen : receiver.session.closed = false)
      (visits : Visits (pass env) (receiver.receive chunk) last)
      (stillOpen : last.session.closed = false) (stage : last.session.stage = .header)
      (line : Bytes) (taken : Receiver) (taking : last.takeLine = some (line, taken))
      (exception : Exception) (next : Receiver)
      (handled : taken.headerLine env last.consumed line = .threw exception next) :
      Delivered env chunk receiver (.threw exception next)
  | data (last : Receiver) (call : DataCall env chunk receiver last) :
      Delivered env chunk receiver (last.fileData env)

theorem onData_delivered (env : Env) (chunk : Bytes) (receiver : Receiver) :
    Delivered env chunk receiver (receiver.onData env chunk) := by
  by_cases closed : receiver.session.closed = true
  · rw [onData_closed env chunk closed]
    exact .closed closed
  have isOpen : receiver.session.closed = false := by simpa using closed
  cases overflows : (receiver.receive chunk).overflows with
  | true =>
      rw [onData_overflow env isOpen overflows]
      exact .overflow isOpen overflows
  | false =>
      rw [onData_fits env isOpen overflows]
      obtain ⟨last, visits, leaves⟩ := (receiver.receive chunk).processBuffer_exits env
      generalize (receiver.receive chunk).processBuffer env = outcome at leaves ⊢
      cases leaves_of_pass leaves with
      | idle nothing =>
          refine .waits last isOpen visits ?_
          rcases nothing with isClosed | empty
          · exact .inl isClosed
          · exact .inr (.inl empty)
      | unfinished stage missing => exact .waits last isOpen visits (.inr (.inr stage))
      | throws stillOpen stage taking handled =>
          exact .throws last isOpen visits stillOpen stage _ _ taking _ _ handled
      | data stillOpen buffered stage =>
          exact .data last ⟨isOpen, overflows, visits, stillOpen, buffered, stage⟩

/-- A request handler that throws leaves the stage and the descriptor alone. -/
theorem handleHeader_threw {frame : HeaderFrame} {line : Bytes} {context after : Context}
    {exception : Exception} (threw : handleHeader frame line context = .threw exception after) :
    after.session.stage = context.session.stage ∧
      after.session.fileFd = context.session.fileFd := by
  have answered : ∀ {opener : Event} {outcome : Outcome Exception Context},
      Context.Emits .answer (context.emit [opener]) outcome.state →
        outcome = .threw exception after →
      after.session.stage = context.session.stage ∧
        after.session.fileFd = context.session.fileFd := by
    rintro opener outcome emits rfl
    have session := emits.session
    rw [Outcome.state_threw] at session
    rw [session]
    exact ⟨rfl, rfl⟩
  simp only [handleHeader] at threw
  split at threw
  · split at threw
    · exact answered (pushFileList_emits frame context) threw
    · split at threw
      · exact answered (pushFile_emits frame _ context) threw
      · exact answered (runCommand_emits frame _ context) threw
  · split at threw
    · cases fileStart_exit frame line context with
      | refused _ _ _ _ _ same | begun _ _ _ _ _ same =>
          rw [same] at threw
          cases threw
      -- only a folder that cannot be created throws
      | threw _ _ _ _ _ same =>
          rw [same] at threw
          cases threw
          exact ⟨rfl, rfl⟩
    · cases threw

/-- A delivery ends in the data stage when there is nothing left to read, or behind a call of the
data handler. -/
theorem Delivered.of_data {outcome : Outcome Exception Receiver}
    (delivered : Delivered env chunk receiver outcome)
    (stage : outcome.state.session.stage = .data) :
    outcome.state.session.closed = true ∨ outcome.state.bufSize = 0 ∨
      ∃ last, DataCall env chunk receiver last ∧ outcome = last.fileData env := by
  cases delivered with
  | closed isClosed => exact .inl isClosed
  | overflow isOpen overflows => exact .inl rfl
  | waits last isOpen visits idle =>
      rcases idle with isClosed | empty | notData
      · exact .inl isClosed
      · exact .inr (.inl empty)
      · exact absurd stage notData
  | throws last isOpen visits stillOpen inHeader line taken taking exception next handled =>
      unfold headerLine at handled
      cases result : handleHeader (env.header taken.calls.header) line
          (taken.emit [.headerLine last.consumed taken.consumed line]) with
      | returned context => simp [result, Outcome.map] at handled
      | threw other left =>
          have unchanged := (handleHeader_threw result).1
          simp only [result, Outcome.map, Outcome.threw.injEq] at handled
          rw [Outcome.state_threw, ← handled.2, unchanged, Context.emit_session,
            takeLine_session taking, inHeader] at stage
          cases stage
  | data last call => exact .inr (.inr ⟨last, call, rfl⟩)

section Keeps

variable {invariant : Receiver → Prop}
  (quiet : ∀ {before after}, invariant before → Step before after → before.session.stage ≠ .data →
    invariant after)
  (receives : ∀ {before} chunk, invariant before → before.session.closed = false →
    invariant (before.receive chunk))

include quiet

/-- What the handlers of lines keep, every pass keeps that is repeated. -/
theorem goes_keeps {before after : Receiver} (holds : invariant before)
    (goes : Goes (pass env) before after) : invariant after := by
  obtain ⟨isOpen, line, taken, taking, ⟨stage, rfl⟩ | ⟨stage, handled⟩⟩ := goes_iff.mp goes
  · exact quiet holds (step_auth _ _ isOpen stage taking) (by rw [stage]; decide)
  · have step := step_header (env.header taken.calls.header)
      { taken.calls with header := taken.calls.header + 1 } isOpen stage taking
    have after_eq : (taken.headerLine env before.consumed line).state = after := by
      rw [handled, Outcome.state_returned]
    rw [← after_eq, headerLine, Outcome.state_map]
    exact quiet holds step (by rw [stage]; decide)

include receives

/-- What the handlers of lines and the one call of the data handler keep, a delivery keeps. -/
theorem onData_keeps (holds : invariant receiver)
    (data : ∀ {last}, DataCall env chunk receiver last → invariant last →
      invariant (last.fileData env).state) :
    invariant (receiver.onData env chunk).state := by
  have delivered := receiver.onData_delivered env chunk
  generalize receiver.onData env chunk = outcome at delivered ⊢
  cases delivered with
  | closed isClosed => exact holds
  | overflow isOpen overflows =>
      have stage := stage_of_overflows overflows
      exact quiet (receives chunk holds isOpen) (.overflow isOpen stage rfl) (by rw [stage]; decide)
  | waits last isOpen visits idle =>
      exact visits.keeps (goes_keeps quiet) (receives chunk holds isOpen)
  | throws last isOpen visits stillOpen stage line taken taking exception next handled =>
      have reached : invariant last :=
        visits.keeps (goes_keeps quiet) (receives chunk holds isOpen)
      have next_eq : (taken.headerLine env last.consumed line).state = next := by
        rw [handled, Outcome.state_threw]
      rw [Outcome.state_threw, ← next_eq, headerLine, Outcome.state_map]
      exact quiet reached (step_header _ _ stillOpen stage taking) (by rw [stage]; decide)
  | data last call =>
      exact data call (call.visits.keeps (goes_keeps quiet) (receives chunk holds call.isOpen))

end Keeps

end Receiver

/-- While the daemon takes an input, the data handler is called in the state `last`. -/
structure Daemon.CallsData (daemon : Daemon) (input : Input) (env : Env) (last : Receiver) :
    Prop where
  running : daemon.crashed = false
  call : ∃ conn chunk client, input = .data conn chunk env ∧ daemon.clients conn = some client ∧
    client.gone = false ∧ Receiver.DataCall env chunk (client.receiver daemon.world) last

/-- The data handler returns. -/
def Daemon.DataReturns (daemon : Daemon) (input : Input) : Prop :=
  ∀ env last, daemon.CallsData input env last → (last.fileData env).Returns

/-- While the daemon runs, no call of the data handler has thrown. -/
theorem Daemon.returns_of_running {startup : Startup} {inputs : List Input}
    (running : (run startup inputs).crashed = false) : Along DataReturns startup inputs := by
  rintro earlier input later split env last
    ⟨alive, conn, chunk, client, rfl, present, connected, call⟩
  cases handled : last.fileData env with
  | returned after => exact ⟨after, rfl⟩
  | threw exception left =>
      have crashes : (run startup (earlier ++ [.data conn chunk env])).crashed = true := by
        rw [run_append, step_data alive present connected, deliver, call.onData, handled]
      have stays := crashed_append crashes later
      rw [List.append_assoc, List.singleton_append, ← split, running] at stays
      cases stays

/-- Every publish call that the data handler makes behind `write` returns. -/
def Daemon.PublishReturns (daemon : Daemon) (input : Input) : Prop :=
  ∀ env last, daemon.CallsData input env last →
    (env.data last.calls.data).write = none ∨ (env.data last.calls.data).Publishes last

/-- A status file that cannot be opened is no reason to throw. -/
theorem Daemon.publishReturns_of_unopened {startup : Startup} {inputs : List Input}
    (unopened : ∀ conn chunk env, .data conn chunk env ∈ inputs → ∀ index,
      (env.data index).progress = ⟨true, false⟩ ∧ (env.data index).finish.createsDir = true) :
    Along PublishReturns startup inputs := by
  rintro earlier input later split env last ⟨_, conn, chunk, client, rfl, _⟩
  have member : Input.data conn chunk env ∈ inputs := by
    rw [split]
    simp
  obtain ⟨progress, finish⟩ := unopened conn chunk env member last.calls.data
  refine .inr ⟨fun _ => ?_, fun _ => finish⟩
  rw [progress]
  exact ⟨rfl, nofun⟩

end TitanShare
