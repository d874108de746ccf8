import TitanShare.HandleAuth
import TitanShare.HandleHeader
import TitanShare.Library.PassLoop

/-!
# The receive buffer and the processing loop

`onData`, `processBuffer` and `handleFileData`.  The loop makes passes over the buffer: each reads
one line or drains file data.  A receiver also remembers the whole stream received so far and
counts the handler calls, so that the surroundings of the next call can be looked up.
-/

namespace TitanShare

open ByteText PassLoop

/-- The surroundings of one `handleFileData` call. -/
structure DataFrame where
  /-- The result of `write`; `none` is -1, and a count is cut to the request. -/
  write : Option Nat
  /-- More than 100 ms passed since the last progress update. -/
  due : Bool
  progress : PublishEnv
  finish : PublishEnv
  sends : List SendResult

/-- The surroundings of the handler calls, by the number of earlier calls of the same kind. -/
structure Env where
  auth : Nat → AuthFrame
  header : Nat → HeaderFrame
  data : Nat → DataFrame

structure Calls where
  auth : Nat
  header : Nat
  data : Nat

/-- A session with its receive buffer, in the world. -/
structure Receiver extends Context where
  buffer : OffsetBuffer UInt8
  calls : Calls
  /-- All bytes delivered to this session. -/
  stream : Bytes

namespace Receiver

/-- `bufSize()` -/
def bufSize (receiver : Receiver) : Nat :=
  receiver.buffer.size

/-- `consumeBuffer` -/
def consumeBuffer (receiver : Receiver) (count : Nat) (within : count ≤ receiver.bufSize) :
    Receiver :=
  { receiver with
    buffer := receiver.buffer.consume Config.compactThreshold count within
    consumed := receiver.consumed + count }

@[simp]
theorem consumeBuffer_view (receiver : Receiver) (count : Nat)
    (within : count ≤ receiver.bufSize) :
    (receiver.consumeBuffer count within).buffer.view = receiver.buffer.view.drop count :=
  OffsetBuffer.view_consume _ _ _ within

@[simp]
theorem consumeBuffer_toContext (receiver : Receiver) (count : Nat)
    (within : count ≤ receiver.bufSize) :
    (receiver.consumeBuffer count within).toContext =
      { receiver.toContext with consumed := receiver.consumed + count } := rfl

/-- `line.pop_back()` for a trailing carriage return. -/
def stripReturn (line : Bytes) : Bytes :=
  if line.getLast? = some 13 then line.dropLast else line

theorem takeLine_within {receiver : Receiver} {raw rest : Bytes}
    (cut : cutAt 10 receiver.buffer.view = some (raw, rest)) :
    raw.length + 1 ≤ receiver.bufSize := by
  have length := length_of_cutAt cut
  rw [OffsetBuffer.length_view] at length
  unfold bufSize
  omega

/-- Read one line up to its newline, if the newline is buffered. -/
def takeLine (receiver : Receiver) : Option (Bytes × Receiver) :=
  match cut : cutAt 10 receiver.buffer.view with
  | none => none
  | some (raw, _) =>
      some (stripReturn raw, receiver.consumeBuffer (raw.length + 1) (takeLine_within cut))

/-! ## File data -/

/-- `write` failed: the file is closed and the client told. -/
def failUpload (sends : List SendResult) (descriptor buffered missing : Nat) (context : Context) :
    Context :=
  let closed :=
    { context.emit [.writeFailed buffered missing] with
      world := { context.world with files := context.world.files.close descriptor }
      session := { context.session with fileFd := none } }
  let answered := closed.sendResponse sends .cmdFail
  { answered with session := { answered.session with stage := .header } }

theorem failUpload_trace (sends : List SendResult) (descriptor buffered missing : Nat)
    (context : Context) :
    (failUpload sends descriptor buffered missing context).trace =
      context.trace ++
        [.writeFailed buffered missing, .reply .cmdFail,
          .sent (Transport.transmit context.session.ssl sends Reply.cmdFail.text)] := by
  simp [failUpload, Context.sendResponse, Context.emit]

/-- After a failed `write` the whole buffer is thrown away. -/
def failWrite (frame : DataFrame) (descriptor missing : Nat) (receiver : Receiver) : Receiver :=
  let failed := failUpload frame.sends descriptor receiver.bufSize missing receiver.toContext
  { receiver with
    toContext := { failed with consumed := failed.consumed + receiver.bufSize }
    buffer := .empty }

/-- `write` took `count` bytes from the read head. -/
def storeBytes (descriptor count : Nat) (receiver : Receiver) (within : count ≤ receiver.bufSize) :
    Receiver :=
  let bytes := receiver.buffer.view.take count
  { receiver.consumeBuffer count within with
    world := { receiver.world with files := receiver.world.files.write descriptor bytes }
    session := { receiver.session with receivedBytes := receiver.session.receivedBytes + count } }

def sentinel : Bytes := ascii "FILE_END\n"

/-- Drain the legacy sentinel when it is buffered in full. -/
def drainSentinel (receiver : Receiver) : Receiver :=
  if within : sentinel.length ≤ receiver.bufSize then
    if receiver.buffer.view.take sentinel.length = sentinel then
      receiver.consumeBuffer sentinel.length within
    else receiver
  else receiver

/-- The upload is complete: the file is closed and the client told. -/
def completeUpload (sends : List SendResult) (descriptor : Nat) (context : Context) : Context :=
  let files := context.world.files
  let path := uploadPath context.world context.session.fileName
  let closed :=
    { context.emit
        [.uploadDone descriptor path (files.written descriptor) (files.contentAt path)] with
      world := { context.world with files := files.close descriptor }
      session := { context.session with fileFd := none, receivedBytes := 0, stage := .header } }
  closed.sendResponse sends .fileOk

theorem completeUpload_trace (sends : List SendResult) (descriptor : Nat) (context : Context) :
    (completeUpload sends descriptor context).trace =
      context.trace ++
        [.uploadDone descriptor (uploadPath context.world context.session.fileName)
            (context.world.files.written descriptor)
            (context.world.files.contentAt (uploadPath context.world context.session.fileName)),
          .reply .fileOk,
          .sent (Transport.transmit context.session.ssl sends Reply.fileOk.text)] := by
  simp [completeUpload, Context.sendResponse, Context.emit]

/-- The branch of `handleFileData` for a complete upload, behind the status update. -/
def finishUpload (frame : DataFrame) (descriptor : Nat) (receiver : Receiver) : Receiver :=
  let drained := receiver.drainSentinel
  { drained with
    toContext := completeUpload frame.sends descriptor drained.toContext
    buffer := drained.buffer.compact }

/-- `publishTransferState`, called in the data handler. -/
def publish (env : PublishEnv) (state : TransferState) (receiver : Receiver) :
    Outcome Exception Receiver :=
  (publishTransferState env state receiver.toContext).map fun context =>
    { receiver with toContext := context }

/-- The throttled progress update, which is always made for the last byte. -/
def reportProgress (frame : DataFrame) (receiver : Receiver) : Outcome Exception Receiver :=
  let session := receiver.session
  if frame.due = true ∨ session.receivedBytes = session.expectedBytes then
    receiver.publish frame.progress
      ⟨true, false, session.fileName, session.receivedBytes, session.expectedBytes⟩
  else .returned receiver

/-- Finish the upload when the declared number of bytes has arrived. -/
def checkCompletion (frame : DataFrame) (descriptor : Nat) (receiver : Receiver) :
    Outcome Exception Receiver :=
  if receiver.session.expectedBytes ≤ receiver.session.receivedBytes then
    (receiver.publish frame.finish ⟨false, false, [], 1, 1⟩).andThen fun receiver =>
      .returned (receiver.finishUpload frame descriptor)
  else .returned receiver

/-- `ClientSession::handleFileData` -/
def handleFileData (frame : DataFrame) (receiver : Receiver) : Outcome Exception Receiver :=
  match receiver.session.fileFd with
  | none => .returned receiver
  | some descriptor =>
      if receiver.bufSize = 0 then .returned receiver
      else
        -- the counters never cross, so the unsigned difference does not wrap
        let missing := receiver.session.expectedBytes - receiver.session.receivedBytes
        let toWrite := min receiver.bufSize missing
        let settle (receiver : Receiver) : Outcome Exception Receiver :=
          (receiver.reportProgress frame).andThen (checkCompletion frame descriptor)
        if toWrite = 0 then settle receiver
        else
          match frame.write with
          | none => .returned (receiver.failWrite frame descriptor missing)
          | some count =>
              settle
                (receiver.storeBytes descriptor (min count toWrite)
                  ((min_le_right _ _).trans (min_le_left _ _)))

/-! ## The loop -/

/-- Run the authentication handler on a line. -/
def authLine (env : Env) (line : Bytes) (receiver : Receiver) : Receiver :=
  { receiver with
    toContext := handleAuth (env.auth receiver.calls.auth) line receiver.toContext
    calls := { receiver.calls with auth := receiver.calls.auth + 1 } }

/-- Run the request handler on a line that starts at `start`. -/
def headerLine (env : Env) (start : Nat) (line : Bytes) (receiver : Receiver) :
    Outcome Exception Receiver :=
  let counted := { receiver with calls :=
    { receiver.calls with header := receiver.calls.header + 1 } }
  (handleHeader (env.header receiver.calls.header) line
      (receiver.emit [.headerLine start receiver.consumed line])).map fun context =>
    { counted with toContext := context }

/-- Run the data handler. -/
def fileData (env : Env) (receiver : Receiver) : Outcome Exception Receiver :=
  ({ receiver with calls := { receiver.calls with data := receiver.calls.data + 1 } } :
    Receiver).handleFileData (env.data receiver.calls.data)

/-- One pass of the loop of `processBuffer`. -/
def pass (env : Env) (receiver : Receiver) : Pass Receiver (Outcome Exception Receiver) :=
  if receiver.session.closed = true ∨ receiver.bufSize = 0 then .leave (.returned receiver)
  else
    match receiver.session.stage with
    | .auth =>
        match receiver.takeLine with
        | none => .leave (.returned receiver)
        | some (line, taken) => .again (taken.authLine env line)
    | .header =>
        match receiver.takeLine with
        | none => .leave (.returned receiver)
        | some (line, taken) =>
            match taken.headerLine env receiver.consumed line with
            | .returned next => .again next
            | .threw exception next => .leave (.threw exception next)
    | .data => .leave (receiver.fileData env)

/-- `ClientSession::processBuffer`.  Every repeated pass shortens the buffer. -/
def processBuffer (env : Env) (receiver : Receiver) : Outcome Exception Receiver :=
  run (pass env) .returned (receiver.bufSize + 1) receiver

/-- Append a chunk to the receive buffer. -/
def receive (chunk : Bytes) (receiver : Receiver) : Receiver :=
  { receiver with
    buffer := receiver.buffer.append chunk
    stream := receiver.stream ++ chunk }

/-- An unauthenticated client has more in the buffer than it may have. -/
def overflows (receiver : Receiver) : Bool :=
  receiver.session.stage == .auth && decide (Config.authMaxBuffer < receiver.buffer.data.length)

/-- `ClientSession::onData` -/
def onData (env : Env) (chunk : Bytes) (receiver : Receiver) : Outcome Exception Receiver :=
  if receiver.session.closed = true then .returned receiver
  else
    let received := receiver.receive chunk
    if received.overflows = true then
      .returned { received with toContext := received.abort }
    else received.processBuffer env

/-! ## What the steps do -/

theorem takeLine_eq_some {receiver taken : Receiver} {line : Bytes}
    (taking : receiver.takeLine = some (line, taken)) :
    ∃ raw rest,
      receiver.buffer.view = raw ++ 10 :: rest ∧ 10 ∉ raw ∧ line = stripReturn raw ∧
        taken.buffer.view = rest ∧ taken.calls = receiver.calls ∧
        taken.stream = receiver.stream ∧
        taken.toContext =
          { receiver.toContext with consumed := receiver.consumed + (raw.length + 1) } := by
  unfold takeLine at taking
  split at taking
  · cases taking
  · rename_i raw rest cut
    obtain ⟨rfl, rfl⟩ := Prod.mk.inj (Option.some.inj taking)
    obtain ⟨shape, absent⟩ := cutAt_eq_some_iff.mp cut
    refine ⟨raw, rest, shape, absent, rfl, ?_, rfl, rfl, rfl⟩
    simp [shape]

theorem takeLine_session {receiver taken : Receiver} {line : Bytes}
    (taking : receiver.takeLine = some (line, taken)) : taken.session = receiver.session := by
  obtain ⟨_, _, _, _, _, _, _, _, context⟩ := takeLine_eq_some taking
  rw [context]

theorem takeLine_world {receiver taken : Receiver} {line : Bytes}
    (taking : receiver.takeLine = some (line, taken)) : taken.world = receiver.world := by
  obtain ⟨_, _, _, _, _, _, _, _, context⟩ := takeLine_eq_some taking
  rw [context]

theorem takeLine_calls {receiver taken : Receiver} {line : Bytes}
    (taking : receiver.takeLine = some (line, taken)) : taken.calls = receiver.calls := by
  obtain ⟨_, _, _, _, _, _, calls, _⟩ := takeLine_eq_some taking
  exact calls

theorem bufSize_of_takeLine {receiver taken : Receiver} {line : Bytes}
    (taking : receiver.takeLine = some (line, taken)) : receiver.bufSize ≠ 0 := by
  obtain ⟨raw, rest, view, _⟩ := takeLine_eq_some taking
  rw [bufSize, ← OffsetBuffer.length_view, view]
  simp

theorem takeLine_eq_none_iff {receiver : Receiver} :
    receiver.takeLine = none ↔ 10 ∉ receiver.buffer.view := by
  rw [← cutAt_eq_none_iff]
  unfold takeLine
  constructor
  · intro nothing
    split at nothing
    · assumption
    · cases nothing
  · intro absent
    split
    · rfl
    · rename_i cut
      rw [absent] at cut
      cases cut

/-- The next line of a buffer that holds its newline. -/
theorem takeLine_of_view {receiver : Receiver} {raw rest : Bytes}
    (view : receiver.buffer.view = raw ++ 10 :: rest) (absent : 10 ∉ raw) :
    ∃ taken, receiver.takeLine = some (stripReturn raw, taken) ∧ taken.buffer.view = rest ∧
      taken.calls = receiver.calls ∧ taken.stream = receiver.stream ∧
        taken.toContext =
          { receiver.toContext with consumed := receiver.consumed + (raw.length + 1) } := by
  cases taking : receiver.takeLine with
  | none =>
      have missing := takeLine_eq_none_iff.mp taking
      rw [view] at missing
      simp at missing
  | some pair =>
      obtain ⟨line, taken⟩ := pair
      obtain ⟨other, behind, shape, otherAbsent, rfl, unread, calls, stream, context⟩ :=
        takeLine_eq_some taking
      have first := cutAt_eq_some_iff.mpr ⟨shape, otherAbsent⟩
      have second := cutAt_eq_some_iff.mpr ⟨view, absent⟩
      rw [first, Option.some.injEq, Prod.mk.injEq] at second
      obtain ⟨rfl, rfl⟩ := second
      exact ⟨taken, rfl, unread, calls, stream, context⟩

/-- What the request handler is given for a line. -/
def lineContext (receiver : Receiver) (raw : Bytes) : Context :=
  { receiver.toContext with consumed := receiver.consumed + (raw.length + 1) }.emit
    [.headerLine receiver.consumed (receiver.consumed + (raw.length + 1)) (stripReturn raw)]

theorem lineContext_trace (receiver : Receiver) (raw : Bytes) :
    (receiver.lineContext raw).trace = receiver.trace ++
      [.headerLine receiver.consumed (receiver.consumed + (raw.length + 1))
        (stripReturn raw)] := rfl

/-- How long the drained sentinel is. -/
def sentinelLength (view : Bytes) : Nat :=
  if view.take sentinel.length = sentinel then sentinel.length else 0

theorem sentinelLength_le (view : Bytes) : sentinelLength view ≤ view.length := by
  unfold sentinelLength
  split
  · rename_i whole
    have lengths := congrArg List.length whole
    rw [List.length_take] at lengths
    omega
  · omega

/-- The sentinel is drained exactly when the unread bytes begin with it. -/
theorem drainSentinel_eq (receiver : Receiver) :
    receiver.drainSentinel.toContext =
        { receiver.toContext with
          consumed := receiver.consumed + sentinelLength receiver.buffer.view } ∧
      receiver.drainSentinel.buffer.view =
        receiver.buffer.view.drop (sentinelLength receiver.buffer.view) := by
  unfold drainSentinel sentinelLength
  by_cases within : sentinel.length ≤ receiver.bufSize
  · rw [dif_pos within]
    split
    · simp
    · exact ⟨rfl, rfl⟩
  · have partial_sentinel : receiver.buffer.view.take sentinel.length ≠ sentinel := by
      intro whole
      have lengths := congrArg List.length whole
      rw [List.length_take, OffsetBuffer.length_view] at lengths
      unfold bufSize at within
      omega
    rw [dif_neg within, if_neg partial_sentinel]
    exact ⟨rfl, rfl⟩

/-- Bytes from the read head were written; the status file may have been rewritten. -/
def Stores (descriptor count : Nat) (before after : Receiver) : Prop :=
  (∃ transfer, after.toContext =
    { before.toContext with
      session :=
        { before.session with receivedBytes := before.session.receivedBytes + count }
      world :=
        { before.world with
          files := before.world.files.write descriptor (before.buffer.view.take count)
          transfer }
      consumed := before.consumed + count }) ∧
    after.buffer.view = before.buffer.view.drop count ∧ after.calls = before.calls ∧
      after.stream = before.stream

/-- What one call of the data handler does. -/
inductive DataStep (frame : DataFrame) (before after : Receiver) : Prop
  | idle (same : after = before)
  | failed (descriptor : Nat) (isOpen : before.session.fileFd = some descriptor)
      (refused : frame.write = none)
      (fails : after =
        before.failWrite frame descriptor
          (before.session.expectedBytes - before.session.receivedBytes))
  | stored (descriptor count : Nat) (isOpen : before.session.fileFd = some descriptor)
      (within : count ≤
        min before.bufSize (before.session.expectedBytes - before.session.receivedBytes))
      (stores : Stores descriptor count before after)
  | completed (descriptor count : Nat) (isOpen : before.session.fileFd = some descriptor)
      (within : count ≤
        min before.bufSize (before.session.expectedBytes - before.session.receivedBytes))
      (middle : Receiver) (stores : Stores descriptor count before middle)
      (complete : middle.session.expectedBytes ≤ middle.session.receivedBytes)
      (finishes : after = middle.finishUpload frame descriptor)

theorem Stores.session {descriptor count : Nat} {before after : Receiver}
    (stores : Stores descriptor count before after) :
    after.session =
      { before.session with receivedBytes := before.session.receivedBytes + count } := by
  obtain ⟨⟨transfer, context⟩, _⟩ := stores
  rw [context]

theorem publish_stores (env : PublishEnv) (state : TransferState) (descriptor count : Nat)
    {before middle : Receiver} (stores : Stores descriptor count before middle) :
    Stores descriptor count before (middle.publish env state).state := by
  obtain ⟨⟨earlier, context⟩, view, calls, stream⟩ := stores
  obtain ⟨transfer, published⟩ := publishTransferState_state env state middle.toContext
  unfold publish
  rw [Outcome.state_map, published]
  refine ⟨⟨transfer, ?_⟩, view, calls, stream⟩
  rw [context]
  rfl

theorem stores_storeBytes (descriptor count : Nat) (receiver : Receiver)
    (within : count ≤ receiver.bufSize) :
    Stores descriptor count receiver (receiver.storeBytes descriptor count within) := by
  refine ⟨⟨receiver.world.transfer, rfl⟩, ?_, rfl, rfl⟩
  exact receiver.consumeBuffer_view count within

theorem stores_nothing (descriptor : Nat) (receiver : Receiver) :
    Stores descriptor 0 receiver receiver := by
  refine ⟨⟨receiver.world.transfer, ?_⟩, rfl, rfl, rfl⟩
  simp

theorem reportProgress_stores (frame : DataFrame) {descriptor count : Nat}
    {before middle : Receiver} (stores : Stores descriptor count before middle) :
    Stores descriptor count before (middle.reportProgress frame).state := by
  unfold reportProgress
  simp only
  split
  · exact publish_stores _ _ _ _ stores
  · exact stores

theorem handleFileData_step (frame : DataFrame) (receiver : Receiver) :
    DataStep frame receiver (receiver.handleFileData frame).state := by
  have settled : ∀ descriptor count middle,
      receiver.session.fileFd = some descriptor →
      count ≤ min receiver.bufSize
        (receiver.session.expectedBytes - receiver.session.receivedBytes) →
      Stores descriptor count receiver middle →
      DataStep frame receiver
        ((middle.reportProgress frame).andThen (checkCompletion frame descriptor)).state := by
    intro descriptor count middle isOpen within stores
    have stored := reportProgress_stores frame stores
    cases progress : middle.reportProgress frame with
    | threw exception reached =>
        rw [progress, Outcome.state_threw] at stored
        exact .stored descriptor count isOpen within stored
    | returned reached =>
        rw [progress, Outcome.state_returned] at stored
        simp only [Outcome.returned_andThen, checkCompletion]
        split
        · rename_i complete
          have published := publish_stores frame.finish ⟨false, false, [], 1, 1⟩ _ _ stored
          cases result : reached.publish frame.finish ⟨false, false, [], 1, 1⟩ with
          | threw exception final =>
              rw [result, Outcome.state_threw] at published
              exact .stored descriptor count isOpen within published
          | returned final =>
              rw [result, Outcome.state_returned] at published
              have sameSession : final.session = reached.session := by
                rw [published.session, stored.session]
              rw [← sameSession] at complete
              exact .completed descriptor count isOpen within final published complete rfl
        · exact .stored descriptor count isOpen within stored
  unfold handleFileData
  split
  · exact .idle rfl
  · rename_i descriptor isOpen
    split
    · exact .idle rfl
    · simp only
      split
      · exact settled descriptor 0 receiver isOpen (Nat.zero_le _) (stores_nothing _ _)
      · split
        · rename_i refused
          exact .failed descriptor isOpen refused rfl
        · exact settled descriptor _ _ isOpen (min_le_right _ _) (stores_storeBytes _ _ _ _)

theorem failWrite_trace (frame : DataFrame) (descriptor missing : Nat) (receiver : Receiver) :
    (receiver.failWrite frame descriptor missing).trace =
      receiver.trace ++
        [.writeFailed receiver.bufSize missing, .reply .cmdFail,
          .sent (Transport.transmit receiver.session.ssl frame.sends Reply.cmdFail.text)] :=
  failUpload_trace frame.sends descriptor receiver.bufSize missing receiver.toContext

theorem finishUpload_trace (frame : DataFrame) (descriptor : Nat) (receiver : Receiver) :
    (receiver.finishUpload frame descriptor).trace =
      receiver.trace ++
        [.uploadDone descriptor (uploadPath receiver.world receiver.session.fileName)
            (receiver.world.files.written descriptor)
            (receiver.world.files.contentAt
              (uploadPath receiver.world receiver.session.fileName)),
          .reply .fileOk,
          .sent (Transport.transmit receiver.session.ssl frame.sends Reply.fileOk.text)] := by
  have trace := completeUpload_trace frame.sends descriptor receiver.drainSentinel.toContext
  rw [(drainSentinel_eq receiver).1] at trace
  rw [← trace]
  simp only [finishUpload, (drainSentinel_eq receiver).1]

theorem finishUpload_consumed (frame : DataFrame) (descriptor : Nat) (receiver : Receiver) :
    (receiver.finishUpload frame descriptor).consumed =
      receiver.consumed + sentinelLength receiver.buffer.view := by
  simp [finishUpload, completeUpload, (drainSentinel_eq receiver).1]

theorem finishUpload_view (frame : DataFrame) (descriptor : Nat) (receiver : Receiver) :
    (receiver.finishUpload frame descriptor).buffer.view =
      receiver.buffer.view.drop (sentinelLength receiver.buffer.view) := by
  simp [finishUpload, (drainSentinel_eq receiver).2]

theorem finishUpload_session (frame : DataFrame) (descriptor : Nat) (receiver : Receiver) :
    (receiver.finishUpload frame descriptor).session =
      { receiver.session with fileFd := none, receivedBytes := 0, stage := .header } := by
  simp [finishUpload, completeUpload, (drainSentinel_eq receiver).1]

theorem finishUpload_world (frame : DataFrame) (descriptor : Nat) (receiver : Receiver) :
    (receiver.finishUpload frame descriptor).world =
      { receiver.world with files := receiver.world.files.close descriptor } := by
  simp [finishUpload, completeUpload, (drainSentinel_eq receiver).1]

/-- Draining and finishing neither deliver bytes nor count as a handler call. -/
theorem finishUpload_stream (frame : DataFrame) (descriptor : Nat) (receiver : Receiver) :
    (receiver.finishUpload frame descriptor).stream = receiver.stream ∧
      (receiver.finishUpload frame descriptor).calls = receiver.calls := by
  simp only [finishUpload, drainSentinel]
  split
  · split
    · exact ⟨rfl, rfl⟩
    · exact ⟨rfl, rfl⟩
  · exact ⟨rfl, rfl⟩

theorem Stores.trace {descriptor count : Nat} {before after : Receiver}
    (stores : Stores descriptor count before after) : after.trace = before.trace := by
  obtain ⟨⟨transfer, context⟩, _⟩ := stores
  rw [context]

theorem Stores.consumed {descriptor count : Nat} {before after : Receiver}
    (stores : Stores descriptor count before after) :
    after.consumed = before.consumed + count := by
  obtain ⟨⟨transfer, context⟩, _⟩ := stores
  rw [context]

/-- The data handler records only the end of an upload. -/
theorem DataStep.kinds {frame : DataFrame} {before after : Receiver}
    (step : DataStep frame before after) :
    Trace.Extends (fun event => event.kind = .data ∨ event.kind = .answer)
      before.trace after.trace := by
  cases step with
  | idle same => rw [same]
  | failed descriptor isOpen refused fails =>
      rw [fails, failWrite_trace]
      exact Trace.extends_append (by simp [Event.kind])
  | stored descriptor count isOpen within stores => rw [stores.trace]
  | completed descriptor count isOpen within middle stores complete finishes =>
      rw [finishes, finishUpload_trace, stores.trace]
      exact Trace.extends_append (by simp [Event.kind])

/-! ## The passes of the loop -/

/-- A repeated pass has read one line, for authentication or for a request. -/
theorem goes_iff {env : Env} {before after : Receiver} :
    Goes (pass env) before after ↔
      before.session.closed = false ∧
        ∃ line taken, before.takeLine = some (line, taken) ∧
          (before.session.stage = .auth ∧ taken.authLine env line = after ∨
            before.session.stage = .header ∧
              taken.headerLine env before.consumed line = .returned after) := by
  unfold Goes pass
  by_cases nonempty : before.session.closed = true ∨ before.bufSize = 0
  · rw [if_pos nonempty]
    constructor
    · intro impossible
      cases impossible
    · rintro ⟨isOpen, line, taken, taking, _⟩
      rcases nonempty with closed | empty
      · rw [isOpen] at closed
        cases closed
      · exact absurd empty (bufSize_of_takeLine taking)
  · rw [if_neg nonempty]
    have isOpen : before.session.closed = false := by
      simpa using fun closed => nonempty (.inl closed)
    cases stage : before.session.stage with
    | auth =>
        cases taking : before.takeLine with
        | none => simp
        | some pair => simp [isOpen, Prod.ext_iff]
    | header =>
        cases taking : before.takeLine with
        | none => simp
        | some pair =>
            obtain ⟨line, taken⟩ := pair
            cases handled : taken.headerLine env before.consumed line with
            | returned next => simp [isOpen, handled]
            | threw exception next => simp [handled]
    | data => simp

theorem goes_shortens {env : Env} {before after : Receiver} (goes : Goes (pass env) before after) :
    after.bufSize < before.bufSize := by
  obtain ⟨_, line, taken, taking, handled⟩ := goes_iff.mp goes
  obtain ⟨raw, rest, shape, _, _, view, _⟩ := takeLine_eq_some taking
  have sameBuffer : after.buffer = taken.buffer := by
    rcases handled with ⟨_, rfl⟩ | ⟨_, handled⟩
    · rfl
    · have buffers := congrArg (fun outcome : Outcome Exception Receiver => outcome.state.buffer)
        handled
      simpa [headerLine] using buffers.symm
  unfold bufSize
  rw [sameBuffer, ← OffsetBuffer.length_view, ← OffsetBuffer.length_view, view, shape]
  simp
  omega

/-- The loop leaves of its own accord. -/
theorem processBuffer_exits (env : Env) (receiver : Receiver) :
    Exits (pass env) receiver (receiver.processBuffer env) :=
  run_exits .returned bufSize goes_shortens (Nat.lt_succ_self _)

/-- How the loop is left: with nothing to do, in front of an unfinished line, by an exception of the
request handler, or with a call of the data handler. -/
inductive Leaves (env : Env) (last : Receiver) : Outcome Exception Receiver → Prop
  | idle (nothing : last.session.closed = true ∨ last.bufSize = 0) :
      Leaves env last (.returned last)
  | unfinished (stage : last.session.stage ≠ .data) (missing : last.takeLine = none) :
      Leaves env last (.returned last)
  | throws {line : Bytes} {taken next : Receiver} {exception : Exception}
      (stillOpen : last.session.closed = false) (stage : last.session.stage = .header)
      (taking : last.takeLine = some (line, taken))
      (handled : taken.headerLine env last.consumed line = .threw exception next) :
      Leaves env last (.threw exception next)
  | data (stillOpen : last.session.closed = false) (buffered : last.bufSize ≠ 0)
      (stage : last.session.stage = .data) : Leaves env last (last.fileData env)

theorem leaves_of_pass {env : Env} {last : Receiver} {outcome : Outcome Exception Receiver}
    (leaving : pass env last = .leave outcome) : Leaves env last outcome := by
  unfold pass at leaving
  split at leaving
  case isTrue nothing =>
      rw [← Pass.leave.inj leaving]
      exact .idle nothing
  case isFalse working =>
      rw [not_or, Bool.not_eq_true] at working
      cases stage : last.session.stage with
      | auth =>
          simp only [stage] at leaving
          split at leaving
          case h_1 missing =>
              rw [← Pass.leave.inj leaving]
              exact .unfinished (by rw [stage]; decide) missing
          case h_2 => cases leaving
      | header =>
          simp only [stage] at leaving
          split at leaving
          case h_1 missing =>
              rw [← Pass.leave.inj leaving]
              exact .unfinished (by rw [stage]; decide) missing
          case h_2 line taken taking =>
              split at leaving
              case h_1 => cases leaving
              case h_2 exception next handled =>
                  rw [← Pass.leave.inj leaving]
                  exact .throws working.1 stage taking handled
      | data =>
          simp only [stage] at leaving
          rw [← Pass.leave.inj leaving]
          exact .data working.1 working.2 stage

/-! ## Calls of `onData` -/

theorem onData_closed (env : Env) (chunk : Bytes) {receiver : Receiver}
    (closed : receiver.session.closed = true) : receiver.onData env chunk = .returned receiver := by
  rw [onData, if_pos closed]

theorem onData_overflow (env : Env) {chunk : Bytes} {receiver : Receiver}
    (isOpen : receiver.session.closed = false)
    (overflows : (receiver.receive chunk).overflows = true) :
    receiver.onData env chunk =
      .returned { receiver.receive chunk with toContext := (receiver.receive chunk).abort } := by
  simp [onData, isOpen, overflows]

theorem onData_fits (env : Env) {chunk : Bytes} {receiver : Receiver}
    (isOpen : receiver.session.closed = false)
    (fits : (receiver.receive chunk).overflows = false) :
    receiver.onData env chunk = (receiver.receive chunk).processBuffer env := by
  simp [onData, isOpen, fits]

/-- Only a stranger can overrun the limit. -/
theorem stage_of_overflows {receiver : Receiver} (overflows : receiver.overflows = true) :
    receiver.session.stage = .auth := by
  simp only [Receiver.overflows, Bool.and_eq_true, beq_iff_eq] at overflows
  exact overflows.1

/-! ## Steps -/

/-- One step of a session, whatever the surroundings do: a chunk arrives, the pre-authentication
guard strikes, or one of the three handlers runs. -/
inductive Step (before after : Receiver) : Prop
  | receive (chunk : Bytes) (isOpen : before.session.closed = false)
      (receives : after = before.receive chunk)
  | overflow (isOpen : before.session.closed = false) (stage : before.session.stage = .auth)
      (aborts : after = { before with toContext := before.abort })
  | auth (raw rest : Bytes) (frame : AuthFrame) (isOpen : before.session.closed = false)
      (stage : before.session.stage = .auth)
      (view : before.buffer.view = raw ++ 10 :: rest) (absent : 10 ∉ raw)
      (handles : AuthStep frame (stripReturn raw)
        { before.toContext with consumed := before.consumed + (raw.length + 1) } after.toContext)
      (consumed : after.consumed = before.consumed + (raw.length + 1))
      (files : after.world.files = before.world.files ∧
        after.world.receivedDir = before.world.receivedDir)
      (unread : after.buffer.view = rest) (stream : after.stream = before.stream)
  | header (raw rest : Bytes) (frame : HeaderFrame) (isOpen : before.session.closed = false)
      (stage : before.session.stage = .header)
      (view : before.buffer.view = raw ++ 10 :: rest) (absent : 10 ∉ raw) (stop : Nat)
      (consumed : stop = before.consumed + (raw.length + 1))
      (handles : HeaderStep frame (stripReturn raw)
        ({ before.toContext with consumed := stop }.emit
          [.headerLine before.consumed stop (stripReturn raw)]) after.toContext)
      (unread : after.buffer.view = rest) (stream : after.stream = before.stream)
      (handled : (handleHeader frame (stripReturn raw)
        ({ before.toContext with consumed := stop }.emit
          [.headerLine before.consumed stop (stripReturn raw)])).state = after.toContext)
  | data (frame : DataFrame) (calls : Calls) (isOpen : before.session.closed = false)
      (stage : before.session.stage = .data)
      (handles : DataStep frame { before with calls } after)

theorem step_auth {receiver taken : Receiver} {line : Bytes} (frame : AuthFrame) (calls : Calls)
    (isOpen : receiver.session.closed = false) (stage : receiver.session.stage = .auth)
    (taking : receiver.takeLine = some (line, taken)) :
    Step receiver
      { taken with toContext := handleAuth frame line taken.toContext, calls } := by
  obtain ⟨raw, rest, view, absent, rfl, unread, _, stream, context⟩ := takeLine_eq_some taking
  refine .auth raw rest frame isOpen stage view absent ?_ ?_ ?_ unread stream
  · rw [context]
    exact handleAuth_step _ _ _
  · rw [handleAuth_consumed, context]
  · rw [(handleAuth_files _ _ _).1, (handleAuth_files _ _ _).2, context]
    exact ⟨rfl, rfl⟩

theorem step_header {receiver taken : Receiver} {line : Bytes} (frame : HeaderFrame)
    (calls : Calls) (isOpen : receiver.session.closed = false)
    (stage : receiver.session.stage = .header)
    (taking : receiver.takeLine = some (line, taken)) :
    Step receiver
      { taken with
        toContext :=
          (handleHeader frame line
            (taken.emit [.headerLine receiver.consumed taken.consumed line])).state
        calls } := by
  obtain ⟨raw, rest, view, absent, rfl, unread, _, stream, context⟩ := takeLine_eq_some taking
  refine .header raw rest frame isOpen stage view absent _ rfl ?_ unread stream ?_
  · rw [context]
    exact handleHeader_step _ _ _
  · rw [context]

/-- The trace of a session only grows. -/
theorem Step.grows {before after : Receiver} (step : Step before after) :
    before.trace <+: after.trace := by
  have grown : ∀ {kind : Event → Prop} {earlier later : List Event},
      Trace.Extends kind earlier later → earlier <+: later := by
    rintro kind earlier later ⟨added, rfl, _⟩
    exact List.prefix_append earlier added
  cases step with
  | receive chunk isOpen receives =>
      rw [receives]
      exact List.prefix_refl _
  | overflow isOpen stage aborts =>
      rw [aborts]
      exact List.prefix_append _ _
  | auth raw rest frame isOpen stage view absent handles consumed files unread stream =>
      exact grown handles.kinds
  | header raw rest frame isOpen stage view absent stop consumed handles unread stream =>
      exact (List.prefix_append _ _).trans (grown handles.kinds)
  | data frame calls isOpen stage handles => exact grown handles.kinds

/-- Outside stage DATA no upload ends. -/
theorem Step.recorded {before after : Receiver} (step : Step before after)
    (notData : before.session.stage ≠ .data) :
    Trace.Extends (fun event => event.kind ≠ .data) before.trace after.trace := by
  cases step with
  | receive chunk isOpen receives =>
      rw [receives]
      exact .refl _
  | overflow isOpen stage aborts =>
      rw [aborts]
      exact ⟨[.closeSocket], rfl, by simp [Event.kind]⟩
  | auth raw rest frame isOpen stage view absent handles consumed files unread stream =>
      apply handles.kinds.mono
      rintro event (authentication | answer)
      · rw [authentication]
        decide
      · rw [answer]
        decide
  | header raw rest frame isOpen stage view absent stop consumed handles unread stream =>
      have line : Trace.Extends (fun event => event.kind ≠ .data) before.trace
          (before.trace ++ [.headerLine before.consumed stop (stripReturn raw)]) :=
        Trace.extends_append (by simp [Event.kind])
      refine line.trans (handles.kinds.mono ?_)
      rintro event (request | upload | answer)
      · rw [request]
        decide
      · rw [upload]
        decide
      · rw [answer]
        decide
  | data frame calls isOpen stage handles => exact absurd stage notData

theorem step_of_goes {env : Env} {before after : Receiver} (goes : Goes (pass env) before after) :
    Step before after := by
  obtain ⟨isOpen, line, taken, taking, ⟨stage, rfl⟩ | ⟨stage, handled⟩⟩ := goes_iff.mp goes
  · exact step_auth _ _ isOpen stage taking
  · have after_eq : (taken.headerLine env before.consumed line).state = after := by
      rw [handled, Outcome.state_returned]
    rw [← after_eq, headerLine, Outcome.state_map]
    exact step_header _ _ isOpen stage taking

/-- The last pass changes nothing, or is a step of a session that is past authentication. -/
theorem step_of_leave {env : Env} {last : Receiver} {outcome : Outcome Exception Receiver}
    (leaving : pass env last = .leave outcome) :
    outcome.state = last ∨ last.session.stage ≠ .auth ∧ Step last outcome.state := by
  cases leaves_of_pass leaving with
  | idle nothing => exact .inl rfl
  | unfinished stage missing => exact .inl rfl
  | throws stillOpen stage taking handled =>
      have next_eq := congrArg Outcome.state handled
      rw [headerLine, Outcome.state_map] at next_eq
      rw [← next_eq]
      exact .inr ⟨by rw [stage]; decide, step_header _ _ stillOpen stage taking⟩
  | data stillOpen buffered stage =>
      exact .inr ⟨by rw [stage]; decide, .data _ _ stillOpen stage (handleFileData_step _ _)⟩

/-! ## Invariants -/

/-- A property that every step of a session keeps. -/
def Kept (invariant : Receiver → Prop) : Prop :=
  ∀ {before after}, invariant before → Step before after → invariant after

namespace Kept

variable {invariant : Receiver → Prop}

theorem goes (kept : Kept invariant) {env : Env} {before after : Receiver}
    (holds : invariant before) (step : Goes (pass env) before after) : invariant after :=
  kept holds (step_of_goes step)

theorem leaves (kept : Kept invariant) {env : Env} {last : Receiver}
    {outcome : Outcome Exception Receiver}
    (holds : invariant last) (leaving : pass env last = .leave outcome) :
    invariant outcome.state := by
  rcases step_of_leave leaving with same | ⟨_, step⟩
  · rw [same]
    exact holds
  · exact kept holds step

theorem processBuffer (kept : Kept invariant) (env : Env) {receiver : Receiver}
    (holds : invariant receiver) : invariant (receiver.processBuffer env).state :=
  Exits.keeps kept.goes kept.leaves (receiver.processBuffer_exits env) holds

theorem onData (kept : Kept invariant) (env : Env) (chunk : Bytes) {receiver : Receiver}
    (holds : invariant receiver) : invariant (receiver.onData env chunk).state := by
  by_cases closed : receiver.session.closed = true
  · rw [onData_closed env chunk closed]
    exact holds
  · have isOpen : receiver.session.closed = false := by simpa using closed
    have received := kept holds (.receive chunk isOpen rfl)
    cases overflows : (receiver.receive chunk).overflows with
    | true =>
        rw [onData_overflow env isOpen overflows]
        exact kept received (.overflow isOpen (stage_of_overflows overflows) rfl)
    | false =>
        rw [onData_fits env isOpen overflows]
        exact kept.processBuffer env received

end Kept

/-- What a session has done stays done. -/
theorem trace_kept (initial : Receiver) : Kept fun receiver => initial.trace <+: receiver.trace :=
  fun grown step => grown.trans step.grows

end Receiver
end TitanShare
