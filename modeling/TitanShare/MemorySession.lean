import TitanShare.AuthGate
import TitanShare.ReadBuffer

/-!
# Sessions on raw memory

`onData`, `processBuffer` and `handleFileData` once more, on the buffer of bytes and offset: no
call of `consumeBuffer` is checked, and every operation on the buffer is logged.  The session with
the checked buffer follows step by step, so that no caller ever takes more than there is.
-/

namespace TitanShare

open ByteText PassLoop Receiver

/-- A session with the memory of its receive buffer. -/
structure MemorySession extends Context where
  memory : ReadBuffer
  calls : Calls
  stream : Bytes
  /-- All operations on the buffer so far. -/
  operations : List BufferOp

namespace MemorySession

def perform (operation : BufferOp) (session : MemorySession) : MemorySession :=
  { session with
    memory := session.memory.perform operation
    operations := session.operations ++ [operation] }

/-- `consumeBuffer` -/
def consumeBuffer (count : Nat) (session : MemorySession) : MemorySession :=
  { session.perform (.consume count) with consumed := session.consumed + count }

/-- Read one line up to its newline, if `memchr` finds one. -/
def takeLine (session : MemorySession) : Option (Bytes × MemorySession) :=
  match cutAt 10 session.memory.readable with
  | none => none
  | some (line, _) => some (stripReturn line, session.consumeBuffer (line.length + 1))

/-- After a failed `write` the whole buffer is thrown away. -/
def failWrite (frame : DataFrame) (descriptor missing : Nat) (session : MemorySession) :
    MemorySession :=
  let failed := failUpload frame.sends descriptor session.memory.bufSize missing session.toContext
  { session.perform .clear with
    toContext := { failed with consumed := failed.consumed + session.memory.bufSize } }

/-- `write` took `count` bytes from the read head. -/
def storeBytes (descriptor count : Nat) (session : MemorySession) : MemorySession :=
  let bytes := session.memory.readable.take count
  { session.consumeBuffer count with
    world := { session.world with files := session.world.files.write descriptor bytes }
    session := { session.session with receivedBytes := session.session.receivedBytes + count } }

/-- Drain the legacy sentinel when it is buffered in full. -/
def drainSentinel (session : MemorySession) : MemorySession :=
  if sentinel.length ≤ session.memory.bufSize ∧
      session.memory.readable.take sentinel.length = sentinel then
    session.consumeBuffer sentinel.length
  else session

def finishUpload (frame : DataFrame) (descriptor : Nat) (session : MemorySession) :
    MemorySession :=
  let drained := session.drainSentinel
  { drained.perform .compact with
    toContext := completeUpload frame.sends descriptor drained.toContext }

def publish (env : PublishEnv) (state : TransferState) (session : MemorySession) :
    Outcome Exception MemorySession :=
  (publishTransferState env state session.toContext).map fun context =>
    { session with toContext := context }

def reportProgress (frame : DataFrame) (session : MemorySession) :
    Outcome Exception MemorySession :=
  if frame.due = true ∨ session.session.receivedBytes = session.session.expectedBytes then
    session.publish frame.progress
      ⟨true, false, session.session.fileName, session.session.receivedBytes,
        session.session.expectedBytes⟩
  else .returned session

def checkCompletion (frame : DataFrame) (descriptor : Nat) (session : MemorySession) :
    Outcome Exception MemorySession :=
  if session.session.expectedBytes ≤ session.session.receivedBytes then
    (session.publish frame.finish ⟨false, false, [], 1, 1⟩).andThen fun session =>
      .returned (session.finishUpload frame descriptor)
  else .returned session

/-- `ClientSession::handleFileData` -/
def handleFileData (frame : DataFrame) (session : MemorySession) :
    Outcome Exception MemorySession :=
  match session.session.fileFd with
  | none => .returned session
  | some descriptor =>
      if session.memory.bufSize = 0 then .returned session
      else
        let missing := session.session.expectedBytes - session.session.receivedBytes
        let toWrite := min session.memory.bufSize missing
        let settle (session : MemorySession) : Outcome Exception MemorySession :=
          (session.reportProgress frame).andThen (checkCompletion frame descriptor)
        if toWrite = 0 then settle session
        else
          match frame.write with
          | none => .returned (session.failWrite frame descriptor missing)
          | some count => settle (session.storeBytes descriptor (min count toWrite))

def authLine (env : Env) (line : Bytes) (session : MemorySession) : MemorySession :=
  { session with
    toContext := handleAuth (env.auth session.calls.auth) line session.toContext
    calls := { session.calls with auth := session.calls.auth + 1 } }

def headerLine (env : Env) (start : Nat) (line : Bytes) (session : MemorySession) :
    Outcome Exception MemorySession :=
  let counted :=
    { session with calls := { session.calls with header := session.calls.header + 1 } }
  (handleHeader (env.header session.calls.header) line
      (session.emit [.headerLine start session.consumed line])).map fun context =>
    { counted with toContext := context }

def fileData (env : Env) (session : MemorySession) : Outcome Exception MemorySession :=
  ({ session with calls := { session.calls with data := session.calls.data + 1 } } :
    MemorySession).handleFileData (env.data session.calls.data)

/-- One pass of the loop of `processBuffer`. -/
def pass (env : Env) (session : MemorySession) :
    Pass MemorySession (Outcome Exception MemorySession) :=
  if session.session.closed = true ∨ session.memory.bufSize = 0 then .leave (.returned session)
  else
    match session.session.stage with
    | .auth =>
        match session.takeLine with
        | none => .leave (.returned session)
        | some (line, taken) => .again (taken.authLine env line)
    | .header =>
        match session.takeLine with
        | none => .leave (.returned session)
        | some (line, taken) =>
            match taken.headerLine env session.consumed line with
            | .returned next => .again next
            | .threw exception next => .leave (.threw exception next)
    | .data => .leave (session.fileData env)

/-- `ClientSession::processBuffer` -/
def processBuffer (env : Env) (session : MemorySession) : Outcome Exception MemorySession :=
  run (pass env) .returned (session.memory.bufSize + 1) session

def receive (chunk : Bytes) (session : MemorySession) : MemorySession :=
  { session.perform (.append chunk) with stream := session.stream ++ chunk }

/-- An unauthenticated client has more in `m_buffer` than it may have. -/
def overflows (session : MemorySession) : Bool :=
  session.session.stage == .auth &&
    decide (Config.authMaxBuffer < session.memory.buffer.length)

/-- `ClientSession::onData` -/
def onData (env : Env) (chunk : Bytes) (session : MemorySession) :
    Outcome Exception MemorySession :=
  if session.session.closed = true then .returned session
  else
    let received := session.receive chunk
    if received.overflows = true then .returned { received with toContext := received.abort }
    else received.processBuffer env

/-- A session as accepted. -/
def initial (ssl : Bool) (remoteIp : Ip) (world : World) : MemorySession where
  session := .initial ssl remoteIp
  trace := []
  world := world
  consumed := 0
  memory := .empty
  calls := ⟨0, 0, 0⟩
  stream := []
  operations := []

/-- Chunks arrive one after the other. -/
def attend : List Arrival → MemorySession → Outcome Exception MemorySession
  | [], session => .returned session
  | arrival :: rest, session =>
      (({ session with world := arrival.change session.world } : MemorySession).onData arrival.env
        arrival.chunk).andThen (attend rest)

end MemorySession

/-! ## The checked session follows -/

/-- What a log of covered operations leaves in memory, and the chunks that it appends. -/
structure Records (chunks : List Bytes) (operations : List BufferOp) (buffer : OffsetBuffer UInt8) :
    Prop where
  appends : operations.filterMap BufferOp.appends = chunks
  covered : ReadBuffer.empty.Covered operations
  performed : ReadBuffer.empty.performAll operations = ReadBuffer.of buffer

theorem Records.append {chunks : List Bytes} {operations : List BufferOp}
    {buffer : OffsetBuffer UInt8} (records : Records chunks operations buffer) (chunk : Bytes) :
    Records (chunks ++ [chunk]) (operations ++ [.append chunk]) (buffer.append chunk) where
  appends := by
    rw [List.filterMap_append, records.appends]
    rfl
  covered := ReadBuffer.covered_concat.mpr ⟨records.covered, Nat.zero_le _⟩
  performed := by rw [ReadBuffer.performAll_concat, records.performed, ReadBuffer.perform_append]

theorem Records.perform {chunks : List Bytes} {operations : List BufferOp}
    {before after : OffsetBuffer UInt8} (records : Records chunks operations before)
    (operation : BufferOp) (nothing : operation.appends = none)
    (takes : operation.takes ≤ before.size)
    (performs : (ReadBuffer.of before).perform operation = ReadBuffer.of after) :
    Records chunks (operations ++ [operation]) after where
  appends := by
    rw [List.filterMap_append, records.appends, List.filterMap_cons_none nothing]
    exact List.append_nil chunks
  covered := ReadBuffer.covered_concat.mpr
    ⟨records.covered, by rw [records.performed, ReadBuffer.bufSize_of]; exact takes⟩
  performed := by rw [ReadBuffer.performAll_concat, records.performed, performs]

/-- The session whose buffer is this memory. -/
def Receiver.inMemory (operations : List BufferOp) (receiver : Receiver) : MemorySession where
  toContext := receiver.toContext
  memory := .of receiver.buffer
  calls := receiver.calls
  stream := receiver.stream
  operations := operations

/-- Both sessions are in the same state, and the log accounts for the memory and appends these
chunks. -/
def Mirrors (chunks : List Bytes) (session : MemorySession) (receiver : Receiver) : Prop :=
  ∃ operations, session = receiver.inMemory operations ∧
    Records chunks operations receiver.buffer

namespace Mirrors

variable {chunks : List Bytes} {session : MemorySession} {receiver : Receiver}

theorem bufSize (mirrors : Mirrors chunks session receiver) :
    session.memory.bufSize = receiver.bufSize := by
  obtain ⟨operations, rfl, _⟩ := mirrors
  exact ReadBuffer.bufSize_of receiver.buffer

theorem readable (mirrors : Mirrors chunks session receiver) :
    session.memory.readable = receiver.buffer.view := by
  obtain ⟨operations, rfl, _⟩ := mirrors
  exact ReadBuffer.readable_of receiver.buffer

theorem context (mirrors : Mirrors chunks session receiver) :
    session.toContext = receiver.toContext := by
  obtain ⟨operations, rfl, _⟩ := mirrors
  rfl

/-- A handler works on the context and leaves the buffer alone. -/
theorem withContext (mirrors : Mirrors chunks session receiver) (context : Context) :
    Mirrors chunks { session with toContext := context }
      { receiver with toContext := context } := by
  obtain ⟨operations, rfl, records⟩ := mirrors
  exact ⟨operations, rfl, records⟩

theorem consumeBuffer (mirrors : Mirrors chunks session receiver) {count : Nat}
    (within : count ≤ receiver.bufSize) :
    Mirrors chunks (session.consumeBuffer count) (receiver.consumeBuffer count within) := by
  obtain ⟨operations, rfl, records⟩ := mirrors
  have performs := ReadBuffer.perform_consume receiver.buffer within
  refine ⟨operations ++ [.consume count], ?_, records.perform (.consume count) rfl within performs⟩
  simp only [MemorySession.consumeBuffer, MemorySession.perform, inMemory, performs]
  rfl

theorem receive (mirrors : Mirrors chunks session receiver) (chunk : Bytes) :
    Mirrors (chunks ++ [chunk]) (session.receive chunk) (receiver.receive chunk) := by
  obtain ⟨operations, rfl, records⟩ := mirrors
  exact ⟨operations ++ [.append chunk], rfl, records.append chunk⟩

/-- A line is taken with its newline, which was found among the readable bytes. -/
theorem takeLine (mirrors : Mirrors chunks session receiver) :
    session.takeLine = none ∧ receiver.takeLine = none ∨
      ∃ line next taken, session.takeLine = some (line, next) ∧
        receiver.takeLine = some (line, taken) ∧ Mirrors chunks next taken := by
  unfold MemorySession.takeLine Receiver.takeLine
  rw [mirrors.readable]
  split
  · rename_i missing
    refine .inl ⟨rfl, ?_⟩
    split
    · rfl
    · rename_i found
      rw [missing] at found
      cases found
  · rename_i line rest found
    split
    · rename_i missing
      rw [missing] at found
      cases found
    · rename_i raw behind cut
      obtain ⟨rfl, rfl⟩ := Prod.mk.inj (Option.some.inj (found.symm.trans cut))
      exact .inr ⟨_, _, _, rfl, rfl, mirrors.consumeBuffer _⟩

theorem publish (mirrors : Mirrors chunks session receiver) (env : PublishEnv)
    (state : TransferState) :
    Outcome.Both (Mirrors chunks) (session.publish env state) (receiver.publish env state) := by
  obtain ⟨operations, rfl, records⟩ := mirrors
  exact Outcome.both_map _ ⟨operations, rfl, records⟩

theorem reportProgress (mirrors : Mirrors chunks session receiver) (frame : DataFrame) :
    Outcome.Both (Mirrors chunks) (session.reportProgress frame)
      (receiver.reportProgress frame) := by
  unfold MemorySession.reportProgress Receiver.reportProgress
  simp only [mirrors.context]
  split
  · exact mirrors.publish _ _
  · exact .returned mirrors

theorem drainSentinel (mirrors : Mirrors chunks session receiver) :
    Mirrors chunks session.drainSentinel receiver.drainSentinel := by
  unfold MemorySession.drainSentinel Receiver.drainSentinel
  rw [mirrors.bufSize, mirrors.readable]
  by_cases within : sentinel.length ≤ receiver.bufSize
  · rw [dif_pos within]
    by_cases whole : receiver.buffer.view.take sentinel.length = sentinel
    · rw [if_pos whole, if_pos ⟨within, whole⟩]
      exact mirrors.consumeBuffer within
    · rw [if_neg whole, if_neg fun both => whole both.2]
      exact mirrors
  · rw [dif_neg within, if_neg fun both => within both.1]
    exact mirrors

theorem finishUpload (mirrors : Mirrors chunks session receiver) (frame : DataFrame)
    (descriptor : Nat) :
    Mirrors chunks (session.finishUpload frame descriptor)
      (receiver.finishUpload frame descriptor) := by
  unfold MemorySession.finishUpload Receiver.finishUpload
  simp only [mirrors.drainSentinel.context]
  obtain ⟨operations, drained, records⟩ := mirrors.drainSentinel
  have performs := ReadBuffer.perform_compact receiver.drainSentinel.buffer
  refine ⟨operations ++ [.compact], ?_, records.perform .compact rfl (Nat.zero_le _) performs⟩
  rw [drained]
  simp only [MemorySession.perform, inMemory, performs]

theorem checkCompletion (mirrors : Mirrors chunks session receiver) (frame : DataFrame)
    (descriptor : Nat) :
    Outcome.Both (Mirrors chunks) (session.checkCompletion frame descriptor)
      (receiver.checkCompletion frame descriptor) := by
  unfold MemorySession.checkCompletion Receiver.checkCompletion
  rw [mirrors.context]
  split
  · exact (mirrors.publish _ _).andThen fun later => .returned (later.finishUpload frame descriptor)
  · exact .returned mirrors

theorem failWrite (mirrors : Mirrors chunks session receiver) (frame : DataFrame)
    (descriptor missing : Nat) :
    Mirrors chunks (session.failWrite frame descriptor missing)
      (receiver.failWrite frame descriptor missing) := by
  unfold MemorySession.failWrite Receiver.failWrite
  rw [mirrors.bufSize, mirrors.context]
  obtain ⟨operations, rfl, records⟩ := mirrors
  exact ⟨operations ++ [.clear], rfl, records.perform .clear rfl (Nat.zero_le _) rfl⟩

theorem storeBytes (mirrors : Mirrors chunks session receiver) (descriptor : Nat) {count : Nat}
    (within : count ≤ receiver.bufSize) :
    Mirrors chunks (session.storeBytes descriptor count)
      (receiver.storeBytes descriptor count within) := by
  have taken := mirrors.consumeBuffer within
  have wrote := taken.withContext
    { (receiver.consumeBuffer count within).toContext with
      world := { receiver.world with
        files := receiver.world.files.write descriptor (receiver.buffer.view.take count) }
      session := { receiver.session with
        receivedBytes := receiver.session.receivedBytes + count } }
  unfold MemorySession.storeBytes Receiver.storeBytes
  rw [mirrors.readable]
  obtain ⟨operations, rfl, records⟩ := mirrors
  exact wrote

theorem settle (mirrors : Mirrors chunks session receiver) (frame : DataFrame) (descriptor : Nat) :
    Outcome.Both (Mirrors chunks)
      ((session.reportProgress frame).andThen (MemorySession.checkCompletion frame descriptor))
      ((receiver.reportProgress frame).andThen (Receiver.checkCompletion frame descriptor)) :=
  (mirrors.reportProgress frame).andThen fun later => later.checkCompletion frame descriptor

/-- `write` gets at most what is buffered, and no more than it took is consumed. -/
theorem handleFileData (mirrors : Mirrors chunks session receiver) (frame : DataFrame) :
    Outcome.Both (Mirrors chunks) (session.handleFileData frame)
      (receiver.handleFileData frame) := by
  have sameContext := mirrors.context
  have sameSize := mirrors.bufSize
  unfold MemorySession.handleFileData Receiver.handleFileData
  simp only [sameContext, sameSize]
  cases receiver.session.fileFd with
  | none => exact .returned mirrors
  | some descriptor =>
      by_cases nothing : receiver.bufSize = 0
      · simp only [if_pos nothing]
        exact .returned mirrors
      · simp only [if_neg nothing]
        split
        · exact mirrors.settle frame descriptor
        · cases frame.write with
          | none => exact .returned (mirrors.failWrite frame descriptor _)
          | some count => exact (mirrors.storeBytes descriptor _).settle frame descriptor

theorem fileData (mirrors : Mirrors chunks session receiver) (env : Env) :
    Outcome.Both (Mirrors chunks) (session.fileData env) (receiver.fileData env) := by
  obtain ⟨operations, rfl, records⟩ := mirrors
  let counted : Receiver :=
    { receiver with calls := { receiver.calls with data := receiver.calls.data + 1 } }
  have mirrors : Mirrors chunks (counted.inMemory operations) counted := ⟨operations, rfl, records⟩
  exact mirrors.handleFileData _

theorem authLine (mirrors : Mirrors chunks session receiver) (env : Env) (line : Bytes) :
    Mirrors chunks (session.authLine env line) (receiver.authLine env line) := by
  obtain ⟨operations, rfl, records⟩ := mirrors
  exact ⟨operations, rfl, records⟩

theorem headerLine (mirrors : Mirrors chunks session receiver) (env : Env) (start : Nat)
    (line : Bytes) :
    Outcome.Both (Mirrors chunks) (session.headerLine env start line)
      (receiver.headerLine env start line) := by
  obtain ⟨operations, rfl, records⟩ := mirrors
  exact Outcome.both_map _ ⟨operations, rfl, records⟩

/-- Both loops make the same pass. -/
theorem pass (mirrors : Mirrors chunks session receiver) (env : Env) :
    (∃ next other, session.pass env = .again next ∧ receiver.pass env = .again other ∧
        Mirrors chunks next other) ∨
      ∃ outcome ending, session.pass env = .leave outcome ∧ receiver.pass env = .leave ending ∧
        Outcome.Both (Mirrors chunks) outcome ending := by
  have sameContext := mirrors.context
  unfold MemorySession.pass Receiver.pass
  simp only [sameContext, mirrors.bufSize]
  by_cases nothing : receiver.session.closed = true ∨ receiver.bufSize = 0
  · rw [if_pos nothing, if_pos nothing]
    exact .inr ⟨_, _, rfl, rfl, .returned mirrors⟩
  · rw [if_neg nothing, if_neg nothing]
    cases receiver.session.stage with
    | data => exact .inr ⟨_, _, rfl, rfl, mirrors.fileData env⟩
    | auth =>
        obtain ⟨missing, absent⟩ | ⟨line, next, taken, takes, taking, later⟩ := mirrors.takeLine
        · simp only [missing, absent]
          exact .inr ⟨_, _, rfl, rfl, .returned mirrors⟩
        · simp only [takes, taking]
          exact .inl ⟨_, _, rfl, rfl, later.authLine env line⟩
    | header =>
        obtain ⟨missing, absent⟩ | ⟨line, next, taken, takes, taking, later⟩ := mirrors.takeLine
        · simp only [missing, absent]
          exact .inr ⟨_, _, rfl, rfl, .returned mirrors⟩
        · simp only [takes, taking]
          have handled := later.headerLine env receiver.consumed line
          generalize next.headerLine env receiver.consumed line = outcome at handled ⊢
          generalize taken.headerLine env receiver.consumed line = ending at handled ⊢
          cases handled with
          | returned related => exact .inl ⟨_, _, rfl, rfl, related⟩
          | threw exception related => exact .inr ⟨_, _, rfl, rfl, .threw exception related⟩

theorem processBuffer (mirrors : Mirrors chunks session receiver) (env : Env) :
    Outcome.Both (Mirrors chunks) (session.processBuffer env) (receiver.processBuffer env) := by
  rw [MemorySession.processBuffer, Receiver.processBuffer, mirrors.bufSize]
  exact run_both (fun related => related.pass env) (fun related => .returned related) _ mirrors

theorem onData (mirrors : Mirrors chunks session receiver)
    (isOpen : receiver.session.closed = false) (env : Env) (chunk : Bytes) :
    Outcome.Both (Mirrors (chunks ++ [chunk])) (session.onData env chunk)
      (receiver.onData env chunk) := by
  have received := mirrors.receive chunk
  have sameOverflow :
      (session.receive chunk).overflows = (receiver.receive chunk).overflows := by
    obtain ⟨operations, same, _⟩ := received
    rw [same]
    rfl
  unfold MemorySession.onData Receiver.onData
  simp only [mirrors.context, sameOverflow, isOpen, Bool.false_eq_true, if_false]
  split
  · rw [received.context]
    exact .returned (received.withContext _)
  · exact received.processBuffer env

/-- A closed session appends nothing any more. -/
theorem attend_closed (mirrors : Mirrors chunks session receiver)
    (closed : receiver.session.closed = true) (arrivals : List Arrival) :
    Outcome.Both (Mirrors chunks) (session.attend arrivals) (receiver.attend arrivals) ∧
      (receiver.attend arrivals).state.session.closed = true := by
  induction arrivals generalizing session receiver with
  | nil => exact ⟨.returned mirrors, closed⟩
  | cons arrival rest ih =>
      obtain ⟨operations, rfl, records⟩ := mirrors
      let changed : Receiver := { receiver with world := arrival.change receiver.world }
      have ignores : changed.onData arrival.env arrival.chunk = .returned changed :=
        Receiver.onData_closed _ _ closed
      have alike : (changed.inMemory operations).onData arrival.env arrival.chunk =
          .returned (changed.inMemory operations) := if_pos closed
      have later := @ih (changed.inMemory operations) changed ⟨operations, rfl, records⟩ closed
      unfold MemorySession.attend Receiver.attend
      change Outcome.Both (Mirrors chunks)
        (((changed.inMemory operations).onData arrival.env arrival.chunk).andThen _)
        ((changed.onData arrival.env arrival.chunk).andThen _) ∧
          ((changed.onData arrival.env arrival.chunk).andThen _).state.session.closed = true
      rw [ignores, alike]
      exact later

/-- The chunks that are appended are those that are delivered, up to the one at which the session
ends. -/
theorem attend (mirrors : Mirrors chunks session receiver) (arrivals : List Arrival) :
    ∃ taken, taken <+: arrivals.map Arrival.chunk ∧
      ((receiver.attend arrivals).Returns →
        (receiver.attend arrivals).state.session.closed = false →
          taken = arrivals.map Arrival.chunk) ∧
      Outcome.Both (Mirrors (chunks ++ taken)) (session.attend arrivals)
        (receiver.attend arrivals) := by
  induction arrivals generalizing chunks session receiver with
  | nil =>
      refine ⟨[], List.nil_prefix, fun _ _ => rfl, ?_⟩
      rw [List.append_nil]
      exact .returned mirrors
  | cons arrival rest ih =>
      by_cases closed : receiver.session.closed = true
      · obtain ⟨both, still⟩ := mirrors.attend_closed closed (arrival :: rest)
        refine ⟨[], List.nil_prefix, ?_, by rwa [List.append_nil]⟩
        intro _ isOpen
        rw [still] at isOpen
        cases isOpen
      · have isOpen : receiver.session.closed = false := by simpa using closed
        have changed : Mirrors chunks { session with world := arrival.change session.world }
            { receiver with world := arrival.change receiver.world } := by
          obtain ⟨operations, rfl, records⟩ := mirrors
          exact ⟨operations, rfl, records⟩
        have delivered := changed.onData isOpen arrival.env arrival.chunk
        unfold MemorySession.attend Receiver.attend
        generalize MemorySession.onData arrival.env arrival.chunk _ = outcome at delivered ⊢
        generalize Receiver.onData arrival.env arrival.chunk _ = ending at delivered ⊢
        cases delivered with
        | returned related =>
            obtain ⟨taken, before, all, both⟩ := ih related
            refine ⟨arrival.chunk :: taken, List.prefix_cons_inj _ |>.mpr before, ?_, ?_⟩
            · intro returns stillOpen
              rw [all returns stillOpen]
              rfl
            · rwa [List.append_assoc] at both
        | threw exception related =>
            refine ⟨[arrival.chunk], ⟨rest.map Arrival.chunk, rfl⟩, ?_, .threw exception related⟩
            intro returns
            exact absurd returns (Outcome.not_returns_threw _ _)

end Mirrors

theorem mirrors_initial (ssl : Bool) (remoteIp : Ip) (world : World) :
    Mirrors [] (.initial ssl remoteIp world) ((Client.initial ssl remoteIp).receiver world) :=
  ⟨[], rfl, rfl, trivial, rfl⟩

/-! ## What a stranger can make the server hold -/

namespace Receiver

/-- A session that has left authentication never returns to it. -/
theorem admitted_kept : Kept fun receiver => receiver.session.stage ≠ .auth := by
  refine @kept_of_auth (fun context => context.session.stage ≠ .auth) ?_ ?_ ?_ ?_
  · exact fun consumed admitted => admitted
  · intro before after admitted isOpen stage serves
    rcases serves.stage with same | other
    · rw [same]
      exact admitted
    · exact other
  · exact fun admitted isOpen stage => absurd stage admitted
  · exact fun admitted isOpen stage handles => absurd stage admitted

/-- A stranger has no more in the buffer than it may have. -/
def Modest (receiver : Receiver) : Prop :=
  receiver.session.stage = .auth → receiver.buffer.data.length ≤ Config.authMaxBuffer

theorem length_takeLine_le {receiver taken : Receiver} {line : Bytes}
    (taking : receiver.takeLine = some (line, taken)) :
    taken.buffer.data.length ≤ receiver.buffer.data.length := by
  unfold takeLine at taking
  split at taking
  · cases taking
  · rename_i raw rest cut
    obtain ⟨rfl, rfl⟩ := Prod.mk.inj (Option.some.inj taking)
    exact receiver.buffer.length_data_consume_le _ _ (takeLine_within cut)

theorem Modest.goes {env : Env} {before after : Receiver} (modest : before.Modest)
    (goes : Goes (pass env) before after) : after.Modest := by
  intro stranger
  by_cases stage : before.session.stage = .auth
  · obtain ⟨_, line, taken, taking, ⟨_, rfl⟩ | ⟨header, _⟩⟩ := goes_iff.mp goes
    · exact (length_takeLine_le taking).trans (modest stage)
    · rw [stage] at header
      cases header
  · exact absurd stranger (admitted_kept.goes stage goes)

theorem Modest.leaves {env : Env} {last : Receiver} {outcome : Outcome Exception Receiver}
    (modest : last.Modest) (leaving : pass env last = .leave outcome) : outcome.state.Modest := by
  cases leaves_of_pass leaving with
  | idle nothing => exact modest
  | unfinished stage missing => exact modest
  | throws stillOpen stage taking handled =>
      have admitted := admitted_kept.leaves (by rw [stage]; decide) leaving
      exact fun stranger => absurd stranger admitted
  | data stillOpen buffered stage =>
      have admitted := admitted_kept.leaves (by rw [stage]; decide) leaving
      exact fun stranger => absurd stranger admitted

/-- Whatever came before, a delivery leaves a stranger that is still connected within the limit. -/
theorem onData_modest (env : Env) (chunk : Bytes) (receiver : Receiver)
    (stillOpen : (receiver.onData env chunk).state.session.closed = false) :
    (receiver.onData env chunk).state.Modest := by
  by_cases closed : receiver.session.closed = true
  · rw [onData_closed env chunk closed, Outcome.state_returned, closed] at stillOpen
    cases stillOpen
  · have isOpen : receiver.session.closed = false := by simpa using closed
    cases overflows : (receiver.receive chunk).overflows with
    | true =>
        rw [onData_overflow env isOpen overflows] at stillOpen
        cases stillOpen
    | false =>
        rw [onData_fits env isOpen overflows]
        have received : (receiver.receive chunk).Modest := by
          intro stage
          simpa [Receiver.overflows, stage] using overflows
        exact Exits.keeps Modest.goes Modest.leaves
          ((receiver.receive chunk).processBuffer_exits env)
          received

theorem attend_modest (arrivals : List Arrival) {receiver : Receiver}
    (modest : receiver.session.closed = false → receiver.Modest)
    (stillOpen : (receiver.attend arrivals).state.session.closed = false) :
    (receiver.attend arrivals).state.Modest := by
  induction arrivals generalizing receiver with
  | nil => exact modest stillOpen
  | cons arrival rest ih =>
      exact @Outcome.andThen_keeps _ _
        (fun reached : Receiver => reached.session.closed = false → reached.Modest) _ _
        (onData_modest arrival.env arrival.chunk _) (fun _ modest => ih modest) stillOpen

end Receiver

/-- A session that was accepted and given some chunks, whatever happened around it. -/
def MemorySession.reached (ssl : Bool) (remoteIp : Ip) (world : World) (arrivals : List Arrival) :
    MemorySession :=
  ((initial ssl remoteIp world).attend arrivals).state

/-- The buffer of every session refines a queue.  After every operation the readable bytes are those
of the queue, the head is inside the buffer and the dead space bounded; no operation takes more than
there is; the chunks that are appended are those delivered until the session ends; and a connected
stranger never has more in the buffer than it may have. -/
theorem read_buffer_refines_queue (ssl : Bool) (remoteIp : Ip) (world : World)
    (arrivals : List Arrival) :
    (MemorySession.reached ssl remoteIp world arrivals).memory =
        ReadBuffer.empty.performAll
          (MemorySession.reached ssl remoteIp world arrivals).operations ∧
      (∀ done, done <+: (MemorySession.reached ssl remoteIp world arrivals).operations →
        (ReadBuffer.empty.performAll done).readable = queueAfter done ∧
          (ReadBuffer.empty.performAll done).bufSize = (queueAfter done).length ∧
          (ReadBuffer.empty.performAll done).bufferOffset ≤
            (ReadBuffer.empty.performAll done).buffer.length ∧
          (ReadBuffer.empty.performAll done).bufferOffset ≤ Config.compactThreshold) ∧
      (∀ done operation,
        done ++ [operation] <+: (MemorySession.reached ssl remoteIp world arrivals).operations →
          operation.takes ≤ (ReadBuffer.empty.performAll done).bufSize) ∧
      ((MemorySession.reached ssl remoteIp world arrivals).operations.filterMap BufferOp.appends <+:
          arrivals.map Arrival.chunk ∧
        (((MemorySession.initial ssl remoteIp world).attend arrivals).Returns →
          (MemorySession.reached ssl remoteIp world arrivals).session.closed = false →
            (MemorySession.reached ssl remoteIp world arrivals).operations.filterMap
              BufferOp.appends = arrivals.map Arrival.chunk)) ∧
      ((MemorySession.reached ssl remoteIp world arrivals).session.stage = .auth →
        (MemorySession.reached ssl remoteIp world arrivals).session.closed = false →
          (MemorySession.reached ssl remoteIp world arrivals).memory.buffer.length ≤
            Config.authMaxBuffer) := by
  obtain ⟨taken, before, all, both⟩ := (mirrors_initial ssl remoteIp world).attend arrivals
  have modest := @Receiver.attend_modest arrivals ((Client.initial ssl remoteIp).receiver world)
    fun _ _ => Nat.zero_le _
  have returns := both.returns_iff
  have mirrors := both.state
  change Mirrors taken (MemorySession.reached ssl remoteIp world arrivals) _ at mirrors
  generalize MemorySession.reached ssl remoteIp world arrivals = session at mirrors ⊢
  generalize (((Client.initial ssl remoteIp).receiver world).attend arrivals).state = receiver
    at mirrors modest all
  obtain ⟨operations, rfl, appends, covered, performed⟩ := mirrors
  have appended : (receiver.inMemory operations).operations.filterMap BufferOp.appends = taken :=
    appends
  refine ⟨performed.symm, ?_, ?_, ⟨?_, ?_⟩, ?_⟩
  · intro done before
    obtain ⟨sound, readable⟩ := ReadBuffer.sound_performAll (covered.of_prefix before)
    refine ⟨readable, ?_, sound.inside, sound.dead⟩
    rw [← readable]
    exact sound.length_readable.symm
  · intro done operation before
    exact (ReadBuffer.covered_concat.mp (covered.of_prefix before)).2
  · rw [appended]
    exact before
  · intro returned stillOpen
    rw [appended]
    exact all (returns.mp returned) stillOpen
  · exact fun stage stillOpen => modest stillOpen stage

/-- A PIN line with the beginning of a request behind it, and the next bytes of the request. -/
def unfinishedRequest : List Arrival :=
  [⟨id, .quiet, ascii "123456\nCMD:s"⟩, ⟨id, .quiet, ascii "tat"⟩]

/-- The line is gone, and what came of the request waits in the queue. -/
theorem read_buffer_refines_queue_unread :
    let world := (Startup.fresh (ascii "123456")).world
    (MemorySession.reached false [1] world unfinishedRequest).memory.readable = ascii "CMD:stat" ∧
      (MemorySession.reached false [1] world unfinishedRequest).operations.filterMap
        BufferOp.appends = [ascii "123456\nCMD:s", ascii "tat"] := by
  intro world
  have refines := read_buffer_refines_queue false [1] world unfinishedRequest
  have queue : queueAfter (MemorySession.reached false [1] world unfinishedRequest).operations =
      ascii "CMD:stat" := by decide +kernel
  refine ⟨?_, refines.2.2.2.1.2 (by decide +kernel) (by decide +kernel)⟩
  rw [refines.1, (refines.2.1 _ (List.prefix_refl _)).1]
  exact queue

end TitanShare
