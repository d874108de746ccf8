import TitanShare.DataHandler
import TitanShare.Library.Handles
import TitanShare.UploadIntegrity

/-!
# The state of a session between deliveries

The stage, the descriptor and the two counters of a session fit together wherever a delivery leaves
it, and the history of its uploads is a ledger of descriptors: each one that `open` handed out is
closed once, by the data handler or by the destructor.
-/

namespace TitanShare

open ByteText PassLoop

namespace Receiver

/-- A step outside the data stage that begins no upload. -/
structure Passes (before after : Receiver) : Prop where
  stage : after.session.stage ≠ .data
  fileFd : after.session.fileFd = before.session.fileFd ∨ after.session.fileFd = none
  files : after.world.files = before.world.files
  recorded : Trace.Extends (fun event => event.kind ≠ .upload ∧ event.kind ≠ .data)
    before.trace after.trace

/-- A request line begins an upload. -/
structure Begins (before after : Receiver) (fileName : Bytes) (size : Nat) : Prop where
  isOpen : before.session.closed = false
  positive : 0 < size
  bounded : size ≤ Config.maxReceiveFileBytes
  begins : ∃ sends first stop line, after.toContext =
    Context.beginUpload
      { { before.toContext with consumed := stop }.emit [.headerLine first stop line] with
        session := { before.session with fileName, expectedBytes := size } } sends

theorem Step.outside {before after : Receiver} (step : Step before after)
    (notData : before.session.stage ≠ .data) :
    Passes before after ∨ ∃ fileName size, Begins before after fileName size := by
  cases step with
  | receive chunk isOpen receives =>
      subst receives
      exact .inl ⟨notData, .inl rfl, rfl, .refl _⟩
  | overflow isOpen stage aborts =>
      subst aborts
      exact .inl ⟨notData, .inl rfl, rfl, [.closeSocket], rfl, by simp [Event.kind]⟩
  | auth raw rest frame isOpen stage view absent handles consumed files unread stream =>
      have recorded : Trace.Extends (fun event => event.kind ≠ .upload ∧ event.kind ≠ .data)
          before.trace after.trace := by
        apply handles.kinds.mono
        rintro event (authentication | answer)
        · simp [authentication]
        · simp [answer]
      obtain ⟨outside, fileFd⟩ := handles.outside notData
      exact .inl ⟨outside, .inl fileFd, files.1, recorded⟩
  | header raw rest frame isOpen stage view absent stop consumed handles unread stream =>
      cases handles with
      | request opener kind answers =>
          obtain ⟨added, transfer, kinds, after_eq⟩ := answers
          refine .inl ⟨by rw [after_eq]; exact notData, .inl (by rw [after_eq]; rfl),
            by rw [after_eq]; rfl,
            [.headerLine before.consumed stop (stripReturn raw), opener] ++ added, ?_, ?_⟩
          · rw [after_eq]
            simp [Context.emit, Context.withTransfer]
          · intro event member
            simp only [List.cons_append, List.nil_append, List.mem_cons] at member
            rcases member with rfl | rfl | member
            · simp [Event.kind]
            · simp [kind]
            · simp [kinds event member]
      | refusal fileName expectedBytes fileFd freed answers =>
          obtain ⟨added, transfer, kinds, after_eq⟩ := answers
          refine .inl ⟨by rw [after_eq]; exact notData, ?_, by rw [after_eq]; rfl,
            [.headerLine before.consumed stop (stripReturn raw)] ++ added, ?_, ?_⟩
          · rw [after_eq]
            exact freed
          · rw [after_eq]
            simp [Context.emit, Context.withTransfer]
          · intro event member
            simp only [List.cons_append, List.nil_append, List.mem_cons] at member
            rcases member with rfl | member
            · simp [Event.kind]
            · simp [kinds event member]
      | upload fileName expectedBytes declares positive bounded begins =>
          exact .inr ⟨fileName, expectedBytes, isOpen, positive, bounded, _, _, _, _, begins⟩
  | data frame calls isOpen stage handles => exact absurd stage notData

theorem Begins.session {before after : Receiver} {fileName : Bytes} {size : Nat}
    (begins : Begins before after fileName size) :
    after.session =
      { before.session with
        fileName
        expectedBytes := size
        fileFd := some before.world.files.nextDescriptor
        receivedBytes := 0
        stage := .data } := by
  obtain ⟨sends, first, stop, line, context⟩ := begins.begins
  rw [context]
  rfl

/-- The upload begins at the read head. -/
theorem Begins.trace {before after : Receiver} {fileName : Bytes} {size : Nat}
    (begins : Begins before after fileName size) :
    ∃ first line path shared sent, after.trace = before.trace ++
      [.headerLine first after.consumed line,
        .openUpload after.consumed before.world.files.nextDescriptor path size shared,
        .reply .readyForFile, .sent sent] := by
  obtain ⟨sends, first, stop, line, context⟩ := begins.begins
  have consumed : after.consumed = stop := by
    rw [context]
    rfl
  rw [consumed, context, Context.beginUpload_trace]
  exact ⟨first, line, _, _, _, List.append_assoc _ _ _⟩

theorem Begins.files {before after : Receiver} {fileName : Bytes} {size : Nat}
    (begins : Begins before after fileName size) :
    ∃ path, after.world.files = before.world.files.create path := by
  obtain ⟨sends, first, stop, line, context⟩ := begins.begins
  rw [context]
  exact ⟨_, rfl⟩

end Receiver

/-! ## The ledger of upload descriptors -/

/-- The descriptor operations of a history, and the descriptor of its last upload. -/
structure Ledger where
  last : Option Nat
  ops : List Handles.Op

namespace Ledger

/-- `open`, and the two places of the data handler that close; a failed `write` closes the
descriptor of the upload under way. -/
def note (ledger : Ledger) : Event → Ledger
  | .openUpload _ descriptor _ _ _ =>
      { last := some descriptor, ops := ledger.ops ++ [.acquire descriptor] }
  | .writeFailed _ _ =>
      { ledger with ops := ledger.ops ++ (ledger.last.map Handles.Op.release).toList }
  | .uploadDone descriptor _ _ _ =>
      { ledger with ops := ledger.ops ++ [.release descriptor] }
  | _ => ledger

def entries (trace : List Event) : Ledger :=
  trace.foldl note { last := none, ops := [] }

theorem entries_append (trace added : List Event) :
    entries (trace ++ added) = added.foldl note (entries trace) := by
  simp [entries]

theorem note_other {event : Event} (notUpload : event.kind ≠ .upload) (notData : event.kind ≠ .data)
    (ledger : Ledger) : ledger.note event = ledger := by
  cases event with
  | openUpload start descriptor path size shared => exact absurd rfl notUpload
  | writeFailed buffered missing => exact absurd rfl notData
  | uploadDone descriptor path written held => exact absurd rfl notData
  | _ => rfl

/-- Events of other kinds leave the ledger as it is. -/
theorem entries_extend {trace later : List Event}
    (extended : Trace.Extends (fun event => event.kind ≠ .upload ∧ event.kind ≠ .data)
      trace later) :
    entries later = entries trace :=
  extended.foldl_eq fun _ other => note_other other.1 other.2 _

end Ledger

/-- The descriptor operations over the life of a session; the destructor closes what is still
open. -/
def Client.descriptorOps (client : Client) : List Handles.Op :=
  (Ledger.entries client.trace).ops ++
    if client.gone = true then (client.session.fileFd.map Handles.Op.release).toList else []

/-! ## Consistent sessions -/

/-- The stage, the descriptor and the counters fit together, and the ledger knows the descriptor. -/
structure Consistent (receiver : Receiver) : Prop where
  stage : receiver.session.stage = .data ↔ receiver.session.fileFd ≠ none
  bounded : receiver.session.stage = .data →
    receiver.session.receivedBytes ≤ receiver.session.expectedBytes ∧
      receiver.session.expectedBytes ≤ Config.maxReceiveFileBytes
  closed : receiver.session.closed = true → receiver.session.fileFd = none
  owned : Handles.Owned (Ledger.entries receiver.trace).ops
  held : ∀ descriptor, Handles.held descriptor (Ledger.entries receiver.trace).ops = true ↔
    receiver.session.fileFd = some descriptor
  last : ∀ descriptor, receiver.session.fileFd = some descriptor →
    (Ledger.entries receiver.trace).last = some descriptor

theorem Consistent.released {receiver : Receiver} (consistent : Consistent receiver)
    (notData : receiver.session.stage ≠ .data) : receiver.session.fileFd = none := by
  by_contra owned
  exact notData (consistent.stage.mpr owned)

theorem Consistent.pass {before after : Receiver} (consistent : Consistent before)
    (notData : before.session.stage ≠ .data) (passes : Receiver.Passes before after) :
    Consistent after := by
  have releasedBefore := consistent.released notData
  have released : after.session.fileFd = none := by
    rcases passes.fileFd with same | none
    · exact same.trans releasedBefore
    · exact none
  have ledger := Ledger.entries_extend passes.recorded
  refine ⟨?_, fun receiving => absurd receiving passes.stage, fun _ => released, ?_, ?_, ?_⟩
  · simp [passes.stage, released]
  · rw [ledger]
    exact consistent.owned
  · intro descriptor
    rw [ledger, consistent.held, releasedBefore, released]
  · intro descriptor owned
    rw [released] at owned
    cases owned

/-- A step that releases the descriptor. -/
theorem Consistent.release {before after : Receiver} {descriptor : Nat}
    (consistent : Consistent before) (owned : before.session.fileFd = some descriptor)
    (stage : after.session.stage ≠ .data) (released : after.session.fileFd = none)
    (ops : (Ledger.entries after.trace).ops =
      (Ledger.entries before.trace).ops ++ [.release descriptor]) : Consistent after := by
  refine ⟨?_, fun receiving => absurd receiving stage, fun _ => released, ?_, ?_, ?_⟩
  · simp [stage, released]
  · rw [ops]
    exact consistent.owned.append ((consistent.held descriptor).mpr owned)
  · intro other
    have held := consistent.held other
    rw [owned, Option.some.injEq] at held
    rw [ops, Handles.held_release, released, Bool.and_eq_true, held]
    simp
  · intro other impossible
    rw [released] at impossible
    cases impossible

/-- An accepted request line acquires a descriptor. -/
theorem Consistent.begins {before after : Receiver} (consistent : Consistent before)
    (notData : before.session.stage ≠ .data) {fileName : Bytes} {size : Nat}
    (begins : Receiver.Begins before after fileName size) : Consistent after := by
  have released := consistent.released notData
  have session := begins.session
  have ledger : Ledger.entries after.trace =
      { last := some before.world.files.nextDescriptor
        ops := (Ledger.entries before.trace).ops ++
          [.acquire before.world.files.nextDescriptor] } := by
    obtain ⟨first, line, path, shared, sent, trace⟩ := begins.trace
    rw [trace]
    simp [Ledger.entries, Ledger.note]
  have nothing : ∀ descriptor,
      Handles.held descriptor (Ledger.entries before.trace).ops = false := by
    intro descriptor
    have held := consistent.held descriptor
    rw [released] at held
    simpa using held
  refine ⟨?_, ?_, ?_, ?_, ?_, ?_⟩
  · simp [session]
  · intro _
    simp only [session]
    exact ⟨Nat.zero_le _, begins.bounded⟩
  · intro isClosed
    simp only [session, begins.isOpen] at isClosed
    cases isClosed
  · rw [ledger]
    exact consistent.owned.append (nothing _)
  · intro descriptor
    simp [ledger, session, nothing]
  · intro descriptor owned
    rw [session] at owned
    rw [ledger]
    exact owned

/-- What the data handler does keeps a session consistent. -/
theorem Consistent.data {before after : Receiver} (consistent : Consistent before)
    (stage : before.session.stage = .data) {frame : DataFrame} {calls : Calls}
    (handles : Receiver.DataStep frame { before with calls } after) : Consistent after := by
  cases handles with
  | idle same =>
      subst same
      exact ⟨consistent.stage, consistent.bounded, consistent.closed, consistent.owned,
        consistent.held, consistent.last⟩
  | failed descriptor owned refused fails =>
      subst fails
      refine consistent.release owned ?_ rfl ?_
      · simp [Receiver.failWrite, Receiver.failUpload]
      · rw [Receiver.failWrite_trace, Ledger.entries_append]
        have last : (Ledger.entries before.trace).last = some descriptor :=
          consistent.last descriptor owned
        simp [Ledger.note, last]
  | stored descriptor count owned within stores =>
      have session := stores.session
      have trace := stores.trace
      have bounded := consistent.bounded stage
      refine ⟨?_, ?_, ?_, ?_, ?_, ?_⟩
      · rw [session]
        exact consistent.stage
      · intro _
        rw [session]
        refine ⟨?_, bounded.2⟩
        have few := within.trans (min_le_right _ _)
        simp only at few ⊢
        omega
      · rw [session]
        exact consistent.closed
      · rw [trace]
        exact consistent.owned
      · rw [trace, session]
        exact consistent.held
      · rw [trace, session]
        exact consistent.last
  | completed descriptor count owned within middle stores complete finishes =>
      subst finishes
      refine consistent.release owned ?_ ?_ ?_
      · rw [Receiver.finishUpload_session]
        simp
      · rw [Receiver.finishUpload_session]
      · rw [Receiver.finishUpload_trace, stores.trace, Ledger.entries_append]
        simp [Ledger.note]

theorem consistent_kept : Receiver.Kept Consistent := by
  intro before after consistent step
  by_cases receiving : before.session.stage = .data
  · cases step with
    | receive chunk isOpen receives =>
        subst receives
        exact ⟨consistent.stage, consistent.bounded, consistent.closed, consistent.owned,
          consistent.held, consistent.last⟩
    | data frame calls isOpen stage handles => exact consistent.data stage handles
    | overflow isOpen stage aborts => simp [stage] at receiving
    | auth raw rest frame isOpen stage view absent handles consumed files unread stream =>
        simp [stage] at receiving
    | header raw rest frame isOpen stage view absent stop consumed handles unread stream =>
        simp [stage] at receiving
  · rcases step.outside receiving with passes | ⟨fileName, size, begins⟩
    · exact consistent.pass receiving passes
    · exact consistent.begins receiving begins

theorem consistent_initial (ssl : Bool) (remoteIp : Ip) (world : World) :
    Consistent ((Client.initial ssl remoteIp).receiver world) := by
  refine ⟨?_, ?_, ?_, Trace.justified_nil _, ?_, ?_⟩
  · simp [Client.receiver, Client.initial, ClientSession.initial]
  · simp [Client.receiver, Client.initial, ClientSession.initial]
  · simp [Client.receiver, Client.initial, ClientSession.initial]
  · simp [Client.receiver, Client.initial, ClientSession.initial, Ledger.entries, Handles.held]
  · simp [Client.receiver, Client.initial, ClientSession.initial]

theorem consistent_of_run {startup : Startup} {inputs : List Input} {conn : Nat} {client : Client}
    (present : (Daemon.run startup inputs).clients conn = some client) (world : World) :
    Consistent (client.receiver world) :=
  Daemon.clients_keep consistent_kept consistent_initial
    (fun _ _ consistent => ⟨consistent.stage, consistent.bounded, consistent.closed,
      consistent.owned, consistent.held, consistent.last⟩)
    startup inputs conn client present world

/-! ## Payload to come -/

/-- A session that receives an upload waits for more of it. -/
structure Waiting (receiver : Receiver) : Prop where
  consistent : Consistent receiver
  incomplete : receiver.session.stage = .data →
    receiver.session.receivedBytes < receiver.session.expectedBytes

theorem Waiting.step {before after : Receiver} (waiting : Waiting before)
    (step : Receiver.Step before after) (notData : before.session.stage ≠ .data) :
    Waiting after := by
  refine ⟨consistent_kept waiting.consistent step, ?_⟩
  intro receiving
  rcases step.outside notData with passes | ⟨fileName, size, begins⟩
  · exact absurd receiving passes.stage
  · rw [begins.session]
    exact begins.positive

/-- The call of the data handler returns when `write` fails or the publish calls return. -/
theorem Waiting.returns_iff {env : Env} {receiver : Receiver} (waiting : Waiting receiver)
    (stage : receiver.session.stage = .data) (buffered : receiver.bufSize ≠ 0) :
    (receiver.fileData env).Returns ↔ (env.data receiver.calls.data).write = none ∨
      (env.data receiver.calls.data).Publishes receiver := by
  obtain ⟨descriptor, owned⟩ := Option.ne_none_iff_exists'.mp (waiting.consistent.stage.mp stage)
  have incomplete := waiting.incomplete stage
  have positive : receiver.missing ≠ 0 := by
    unfold Receiver.missing
    omega
  have returns := @Receiver.handleFileData_returns_iff (env.data receiver.calls.data)
    { receiver with calls := { receiver.calls with data := receiver.calls.data + 1 } } descriptor
    owned buffered positive
  unfold Receiver.fileData
  rw [returns]
  exact or_congr_right ⟨fun made => ⟨made.progress, made.finish⟩,
    fun made => ⟨made.progress, made.finish⟩⟩

theorem Waiting.fileData {env : Env} {before after : Receiver} (waiting : Waiting before)
    (isOpen : before.session.closed = false) (stage : before.session.stage = .data)
    (returned : before.fileData env = .returned after) : Waiting after := by
  have handles := Receiver.handleFileData_returned returned
  refine ⟨consistent_kept waiting.consistent (.data _ _ isOpen stage handles.step), ?_⟩
  intro receiving
  cases handles with
  | idle same nothing =>
      rw [same]
      exact waiting.incomplete stage
  | failed descriptor owned refused fails =>
      rw [fails] at receiving
      cases receiving
  | stored descriptor owned stores incomplete => exact incomplete
  | completed descriptor owned middle stores complete finishes =>
      rw [finishes, Receiver.finishUpload_session] at receiving
      cases receiving

theorem Waiting.receive {receiver : Receiver} (waiting : Waiting receiver) (chunk : Bytes)
    (isOpen : receiver.session.closed = false) : Waiting (receiver.receive chunk) :=
  ⟨consistent_kept waiting.consistent (.receive chunk isOpen rfl), waiting.incomplete⟩

/-- The session waits wherever the data handler is called. -/
theorem Waiting.called {env : Env} {chunk : Bytes} {receiver last : Receiver}
    (waiting : Waiting receiver) (call : Receiver.DataCall env chunk receiver last) :
    Waiting last :=
  call.visits.keeps (Receiver.goes_keeps Waiting.step) (waiting.receive chunk call.isOpen)

theorem Waiting.onData {env : Env} {chunk : Bytes} {receiver : Receiver}
    (waiting : Waiting receiver)
    (returns : ∀ last, Receiver.DataCall env chunk receiver last → (last.fileData env).Returns) :
    Waiting (receiver.onData env chunk).state := by
  refine Receiver.onData_keeps Waiting.step (fun chunk waiting => waiting.receive chunk) waiting ?_
  intro last call waiting
  obtain ⟨after, returned⟩ := returns last call
  rw [returned]
  exact waiting.fileData call.stillOpen call.stage returned

theorem waiting_initial (ssl : Bool) (remoteIp : Ip) (world : World) :
    Waiting ((Client.initial ssl remoteIp).receiver world) := by
  refine ⟨consistent_initial ssl remoteIp world, ?_⟩
  intro impossible
  cases impossible

theorem Waiting.anywhere (receiver : Receiver) (world : World) (waiting : Waiting receiver) :
    Waiting { receiver with world } := by
  obtain ⟨⟨stage, bounded, closed, owned, held, last⟩, incomplete⟩ := waiting
  exact ⟨⟨stage, bounded, closed, owned, held, last⟩, incomplete⟩

/-- While the data handler returns, sessions that receive an upload wait for more of it. -/
theorem waiting_of_returns {startup : Startup} {inputs : List Input}
    (returns : Daemon.Along Daemon.DataReturns startup inputs) :
    ∀ conn client, (Daemon.run startup inputs).clients conn = some client →
      ∀ world, Waiting (client.receiver world) := by
  refine Daemon.clients_along waiting_initial Waiting.anywhere ?_ startup inputs returns
  intro daemon conn client chunk env running slot connected returns waiting
  apply waiting.onData
  intro last call
  exact returns env last ⟨running, conn, chunk, client, rfl, slot, connected, call⟩

theorem waiting_of_run {startup : Startup} {inputs : List Input}
    (publishes : Daemon.Along Daemon.PublishReturns startup inputs) :
    ∀ conn client, (Daemon.run startup inputs).clients conn = some client →
      ∀ world, Waiting (client.receiver world) := by
  refine Daemon.clients_along waiting_initial Waiting.anywhere ?_ startup inputs publishes
  intro daemon conn client chunk env running slot connected publishes waiting
  apply waiting.onData
  intro last call
  exact ((waiting.called call).returns_iff call.stage call.buffered).mpr
    (publishes env last ⟨running, conn, chunk, client, rfl, slot, connected, call⟩)

/-- The data handler returns throughout a run exactly when its publish calls do. -/
theorem returns_iff_publishes {startup : Startup} {inputs : List Input} :
    Daemon.Along Daemon.DataReturns startup inputs ↔
      Daemon.Along Daemon.PublishReturns startup inputs := by
  constructor
  · intro returns earlier input later split env last called
    obtain ⟨running, conn, chunk, client, rfl, slot, connected, call⟩ := called
    have waiting := waiting_of_returns (returns.front split) conn client slot
      (Daemon.run startup earlier).world
    exact ((waiting.called call).returns_iff call.stage call.buffered).mp
      (returns earlier _ later split env last
        ⟨running, conn, chunk, client, rfl, slot, connected, call⟩)
  · intro publishes earlier input later split env last called
    obtain ⟨running, conn, chunk, client, rfl, slot, connected, call⟩ := called
    have waiting := waiting_of_run (publishes.front split) conn client slot
      (Daemon.run startup earlier).world
    exact ((waiting.called call).returns_iff call.stage call.buffered).mpr
      (publishes earlier _ later split env last
        ⟨running, conn, chunk, client, rfl, slot, connected, call⟩)

/-! ## The open descriptors of the daemon -/

/-- What was opened since is the own descriptor, and a descriptor that is given up is closed. -/
def Tidies (before after : Receiver) : Prop :=
  ∀ descriptor, after.world.files.opened descriptor ≠ none →
    after.session.fileFd = some descriptor ∨
      before.world.files.opened descriptor ≠ none ∧ before.session.fileFd ≠ some descriptor

theorem Tidies.of_opened {before after : Receiver}
    (opened : after.world.files.opened = before.world.files.opened)
    (fileFd : after.session.fileFd = before.session.fileFd) : Tidies before after := by
  intro descriptor isOpen
  rw [opened] at isOpen
  rw [fileFd]
  by_cases own : before.session.fileFd = some descriptor
  · exact .inl own
  · exact .inr ⟨isOpen, own⟩

theorem Tidies.trans {first second third : Receiver} (left : Tidies first second)
    (right : Tidies second third) : Tidies first third := by
  intro descriptor isOpen
  rcases right descriptor isOpen with own | ⟨stillOpen, given⟩
  · exact .inl own
  · rcases left descriptor stillOpen with own | before
    · exact absurd own given
    · exact .inr before

theorem Tidies.of_close {before after : Receiver} {descriptor : Nat}
    (owned : before.session.fileFd = some descriptor)
    (opened : after.world.files.opened =
      Function.update before.world.files.opened descriptor none) : Tidies before after := by
  intro other isOpen
  rw [opened] at isOpen
  by_cases same : other = descriptor
  · subst same
    simp at isOpen
  · rw [Function.update_of_ne same] at isOpen
    refine .inr ⟨isOpen, ?_⟩
    rw [owned, Ne, Option.some.injEq]
    exact Ne.symm same

/-- What the data handler does leaves nothing open. -/
theorem Receiver.DataStep.tidies {frame : DataFrame} {before after : Receiver}
    (handles : Receiver.DataStep frame before after) : Tidies before after := by
  cases handles with
  | idle same =>
      subst same
      exact .of_opened rfl rfl
  | failed descriptor owned refused fails =>
      subst fails
      exact .of_close owned rfl
  | stored descriptor count owned within stores =>
      obtain ⟨⟨transfer, context⟩, _⟩ := stores
      exact .of_opened (by rw [context]; simp) (by rw [context])
  | completed descriptor count owned within middle stores complete finishes =>
      subst finishes
      obtain ⟨⟨transfer, context⟩, _⟩ := stores
      refine .of_close owned ?_
      rw [Receiver.finishUpload_world, context]
      simp

theorem Consistent.tidies {before after : Receiver} (consistent : Consistent before)
    (step : Receiver.Step before after) : Tidies before after := by
  by_cases receiving : before.session.stage = .data
  · cases step with
    | receive chunk isOpen receives =>
        subst receives
        exact .of_opened rfl rfl
    | data frame calls isOpen stage handles => exact handles.tidies
    | overflow isOpen stage aborts => simp [stage] at receiving
    | auth raw rest frame isOpen stage view absent handles consumed files unread stream =>
        simp [stage] at receiving
    | header raw rest frame isOpen stage view absent stop consumed handles unread stream =>
        simp [stage] at receiving
  · have released := consistent.released receiving
    rcases step.outside receiving with passes | ⟨fileName, size, begins⟩
    · refine .of_opened (by rw [passes.files]) ?_
      rcases passes.fileFd with same | none
      · exact same
      · exact none.trans released.symm
    · obtain ⟨path, files⟩ := begins.files
      intro descriptor isOpen
      rw [begins.session, Option.some.injEq, released]
      by_cases new : descriptor = before.world.files.nextDescriptor
      · exact .inl new.symm
      · rw [files, FileTable.create_opened_of_ne path new] at isOpen
        exact .inr ⟨isOpen, nofun⟩

theorem Consistent.onData_tidies (env : Env) (chunk : Bytes) {receiver : Receiver}
    (consistent : Consistent receiver) : Tidies receiver (receiver.onData env chunk).state := by
  have kept : Receiver.Kept fun reached => Consistent reached ∧ Tidies receiver reached := by
    rintro before after ⟨consistent, tidies⟩ step
    exact ⟨consistent_kept consistent step, tidies.trans (consistent.tidies step)⟩
  exact (kept.onData env chunk ⟨consistent, .of_opened rfl rfl⟩).2

/-- Every open descriptor belongs to a connected session. -/
def Daemon.Accounted (daemon : Daemon) : Prop :=
  ∀ descriptor, daemon.world.files.opened descriptor ≠ none →
    ∃ conn client, daemon.clients conn = some client ∧ client.gone = false ∧
      client.session.fileFd = some descriptor

/-- A connected session whose slot is rewritten gives up no descriptor that stays open. -/
theorem Daemon.Accounted.replace {daemon : Daemon} (accounted : daemon.Accounted) {conn : Nat}
    {client : Client} (present : daemon.clients conn = some client) {world : World}
    {later : Client} {crashed : Bool}
    (leaves : ∀ descriptor, world.files.opened descriptor ≠ none →
      later.gone = false ∧ later.session.fileFd = some descriptor ∨
        daemon.world.files.opened descriptor ≠ none ∧ client.session.fileFd ≠ some descriptor) :
    Daemon.Accounted ⟨world, Function.update daemon.clients conn (some later), crashed⟩ := by
  intro descriptor isOpen
  rcases leaves descriptor isOpen with ⟨connected, own⟩ | ⟨wasOpen, foreign⟩
  · exact ⟨conn, later, by simp, connected, own⟩
  · obtain ⟨other, owner, slot, connected, owned⟩ := accounted descriptor wasOpen
    have different : other ≠ conn := by
      rintro rfl
      rw [present] at slot
      obtain rfl := Option.some.inj slot
      exact foreign owned
    exact ⟨other, owner, by simpa [Function.update_of_ne different] using slot, connected, owned⟩

theorem accounted_of_run (startup : Startup) (inputs : List Input) :
    (Daemon.run startup inputs).Accounted := by
  have consistent : Daemon.Along (fun daemon _ => ∀ conn client,
      daemon.clients conn = some client → ∀ world, Consistent (client.receiver world))
      startup inputs := fun _ _ _ _ _ _ present world => consistent_of_run present world
  refine Daemon.run_along Daemon.Accounted startup ?_ ?_ ?_ ?_ inputs consistent
  · intro descriptor isOpen
    exact absurd (congrFun startup.noneOpen descriptor) isOpen
  · intro daemon conn ssl remoteIp accounted _ free _ descriptor isOpen
    obtain ⟨other, owner, slot, connected, owned⟩ := accounted descriptor isOpen
    have different : other ≠ conn := by
      rintro rfl
      rw [free] at slot
      cases slot
    exact ⟨other, owner, by simpa [Function.update_of_ne different] using slot, connected, owned⟩
  · intro daemon conn client chunk env accounted _ slot _ consistent
    have tidies := (consistent conn client slot daemon.world).onData_tidies env chunk
    have replaced := @Daemon.Accounted.replace daemon accounted conn client slot
      ((client.receiver daemon.world).onData env chunk).state.world
      ((client.receiver daemon.world).onData env chunk).state.client
      (daemon.deliver conn client chunk env).crashed ?_
    · rw [← Daemon.deliver_world, ← Daemon.deliver_clients] at replaced
      exact replaced
    · intro descriptor isOpen
      rcases tidies descriptor isOpen with own | before
      · exact .inl ⟨rfl, own⟩
      · exact .inr before
  · intro daemon conn client accounted _ slot _ _
    apply accounted.replace slot
    intro descriptor isOpen
    right
    cases owned : client.session.fileFd with
    | none =>
        simp only [owned] at isOpen
        exact ⟨isOpen, nofun⟩
    | some closed =>
        simp only [owned, FileTable.close_opened] at isOpen
        by_cases same : descriptor = closed
        · simp [same] at isOpen
        · rw [Function.update_of_ne same] at isOpen
          refine ⟨isOpen, ?_⟩
          rw [Ne, Option.some.injEq]
          exact Ne.symm same

/-! ## The whole life of a session -/

theorem Consistent.ledger {client : Client} {world : World}
    (consistent : Consistent (client.receiver world)) :
    Handles.Owned client.descriptorOps ∧
      ∀ descriptor, Handles.held descriptor client.descriptorOps = true ↔
        client.gone = false ∧ client.session.fileFd = some descriptor := by
  have owned : Handles.Owned (Ledger.entries client.trace).ops := consistent.owned
  have held : ∀ descriptor, Handles.held descriptor (Ledger.entries client.trace).ops = true ↔
      client.session.fileFd = some descriptor := consistent.held
  cases gone : client.gone with
  | false => simpa [Client.descriptorOps, gone] using ⟨owned, held⟩
  | true =>
      cases own : client.session.fileFd with
      | none =>
          simp only [own] at held
          simpa [Client.descriptorOps, gone, own] using ⟨owned, by simpa using held⟩
      | some descriptor =>
          have holds := (held descriptor).mpr own
          have ops : client.descriptorOps =
              (Ledger.entries client.trace).ops ++ [.release descriptor] := by
            simp [Client.descriptorOps, gone, own]
          rw [ops]
          refine ⟨owned.append holds, ?_⟩
          intro other
          have others := held other
          rw [own, Option.some.injEq] at others
          rw [Handles.held_release, Bool.and_eq_true, others]
          simp

/-- In every run in which the publish calls return, between any two deliveries: the stage is DATA
exactly when a descriptor is held, payload is missing then and its size is within the limit, a
closed session holds none, and over the life of a session every descriptor opened for an upload is
closed once. -/
theorem session_state (startup : Startup) (inputs : List Input)
    (publishes : Daemon.Along Daemon.PublishReturns startup inputs) (conn : Nat) (client : Client)
    (present : (Daemon.run startup inputs).clients conn = some client) :
    (client.session.stage = .data ↔ client.session.fileFd ≠ none) ∧
      (client.session.stage = .data →
        client.session.receivedBytes < client.session.expectedBytes ∧
          client.session.expectedBytes ≤ Config.maxReceiveFileBytes) ∧
      (client.session.closed = true → client.session.fileFd = none) ∧
      Handles.Owned client.descriptorOps ∧
      (∀ descriptor, client.descriptorOps.count (.acquire descriptor) =
        client.descriptorOps.count (.release descriptor) +
          if client.gone = false ∧ client.session.fileFd = some descriptor then 1 else 0) ∧
      (∀ descriptor, (Daemon.run startup inputs).world.files.opened descriptor ≠ none ↔
        ∃ conn client, (Daemon.run startup inputs).clients conn = some client ∧
          client.gone = false ∧ client.session.fileFd = some descriptor) := by
  have waiting := waiting_of_run publishes conn client present (Daemon.run startup inputs).world
  have consistent := waiting.consistent
  obtain ⟨owned, held⟩ := consistent.ledger
  refine ⟨consistent.stage, ?_, consistent.closed, owned, ?_, ?_⟩
  · intro receiving
    exact ⟨waiting.incomplete receiving, (consistent.bounded receiving).2⟩
  · intro descriptor
    rw [owned.count_acquire descriptor]
    congr 1
    by_cases holds : client.gone = false ∧ client.session.fileFd = some descriptor
    · rw [if_pos holds, (held descriptor).mpr holds]
      rfl
    · have free : Handles.held descriptor client.descriptorOps = false := by
        simpa using fun isHeld => holds ((held descriptor).mp isHeld)
      rw [if_neg holds, free]
      rfl
  · intro descriptor
    constructor
    · exact accounted_of_run startup inputs descriptor
    · rintro ⟨owner, session, slot, connected, own⟩
      have faithful := (fleet_of_run startup inputs).faithful slot connected
      have stage : session.session.stage = .data := by
        by_contra notData
        have released : session.session.fileFd = none := faithful.idle notData
        rw [own] at released
        cases released
      obtain ⟨upload, receiving⟩ := faithful.receiving stage
      obtain ⟨file, isOpen, _⟩ := receiving.isOpen
      have same : upload.descriptor = descriptor :=
        Option.some.inj (receiving.owned.symm.trans own)
      rw [same] at isOpen
      rw [show (Daemon.run startup inputs).world.files.opened descriptor = some file from isOpen]
      exact nofun

/-- Every `write` takes at most two bytes, and the status file cannot be opened. -/
def Env.shortUnpublished : Env :=
  { Env.short with
    data := fun index => { Env.short.data index with progress := ⟨true, false⟩ } }

theorem session_state_hungUp :
    ∃ client, (Daemon.run (.fresh (ascii "123456"))
        [.connect 0 false [1], .data 0 (ascii "123456\nFILE_START:f:5\nabcd") .shortUnpublished,
          .hangup 0]).clients 0 = some client ∧
      client.gone = true ∧ client.session.stage = .data ∧
      client.descriptorOps.count (.release 0) = client.descriptorOps.count (.acquire 0) := by
  let inputs : List Input :=
    [.connect 0 false [1], .data 0 (ascii "123456\nFILE_START:f:5\nabcd") .shortUnpublished,
      .hangup 0]
  let client := ((Daemon.run (.fresh (ascii "123456")) inputs).clients 0).getD (.initial false [])
  have present : (Daemon.run (.fresh (ascii "123456")) inputs).clients 0 = some client := rfl
  have gone : client.gone = true := rfl
  have publishes : Daemon.Along Daemon.PublishReturns (.fresh (ascii "123456")) inputs := by
    apply Daemon.publishReturns_of_unopened
    intro conn chunk env member index
    simp only [inputs, List.mem_cons, Input.data.injEq, reduceCtorEq, false_or, List.not_mem_nil,
      or_false] at member
    rw [member.2.2]
    exact ⟨rfl, rfl⟩
  obtain ⟨_, _, _, _, counted, _⟩ :=
    session_state (.fresh (ascii "123456")) inputs publishes 0 client present
  refine ⟨client, present, gone, by decide, ?_⟩
  simpa [gone] using (counted 0).symm

end TitanShare
