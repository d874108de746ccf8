import TitanShare.Daemon

/-!
# Where requests and payloads stand in the stream

The read head of a session is a position of the stream it received.  Request lines and upload
payloads are segments of that stream.  They stay apart on every path through the data handler but
one: a failing `write` that finds only a part of the missing payload in the buffer.
-/

namespace TitanShare

open ByteText

/-! ## The read head -/

/-- A line of the stream, from its first byte to the position behind its newline. -/
def ReadsLine (stream : Bytes) (first stop : Nat) (line : Bytes) : Prop :=
  ∃ raw rest, stream.drop first = raw ++ 10 :: rest ∧ 10 ∉ raw ∧
    line = Receiver.stripReturn raw ∧ stop = first + (raw.length + 1)

theorem ReadsLine.append {stream : Bytes} {first stop : Nat} {line : Bytes}
    (reads : ReadsLine stream first stop line) (chunk : Bytes) :
    ReadsLine (stream ++ chunk) first stop line := by
  obtain ⟨raw, rest, shape, absent, line_eq, stop_eq⟩ := reads
  have inside : first ≤ stream.length := by
    have lengths := congrArg List.length shape
    simp at lengths
    omega
  refine ⟨raw, rest ++ chunk, ?_, absent, line_eq, stop_eq⟩
  rw [List.drop_append_of_le_length inside, shape]
  simp

/-- The buffer holds the stream from the read head on, and the recorded request lines are lines of
the stream before it. -/
structure Aligned (receiver : Receiver) : Prop where
  consumed_le : receiver.consumed ≤ receiver.stream.length
  view : receiver.buffer.view = receiver.stream.drop receiver.consumed
  lines : ∀ first stop line, .headerLine first stop line ∈ receiver.trace →
    ReadsLine receiver.stream first stop line ∧ stop ≤ receiver.consumed

/-- Counting a handler call moves nothing. -/
theorem Aligned.recount {receiver : Receiver} (aligned : Aligned receiver) (calls : Calls) :
    Aligned { receiver with calls } :=
  ⟨aligned.consumed_le, aligned.view, aligned.lines⟩

/-- Moving the read head over buffered bytes. -/
theorem drop_view {receiver : Receiver} (aligned : Aligned receiver) (count : Nat) :
    receiver.buffer.view.drop count = receiver.stream.drop (receiver.consumed + count) := by
  rw [aligned.view, List.drop_drop]

theorem Aligned.bufSize {receiver : Receiver} (aligned : Aligned receiver) :
    receiver.consumed + receiver.bufSize = receiver.stream.length := by
  have lengths := congrArg List.length aligned.view
  rw [OffsetBuffer.length_view, List.length_drop] at lengths
  have within := aligned.consumed_le
  unfold Receiver.bufSize
  omega

/-- A step that reads on without recording a request line. -/
theorem Aligned.advance {before after : Receiver} (aligned : Aligned before) (count : Nat)
    (within : count ≤ before.bufSize) (consumed : after.consumed = before.consumed + count)
    (view : after.buffer.view = before.buffer.view.drop count)
    (stream : after.stream = before.stream)
    (lines : ∀ first stop line, .headerLine first stop line ∈ after.trace →
      .headerLine first stop line ∈ before.trace) : Aligned after := by
  have size := aligned.bufSize
  refine ⟨?_, ?_, ?_⟩
  · rw [consumed, stream]
    omega
  · rw [view, drop_view aligned, consumed, stream]
  · intro first stop line member
    obtain ⟨reads, below⟩ := aligned.lines first stop line (lines first stop line member)
    rw [stream, consumed]
    exact ⟨reads, by omega⟩

theorem aligned_kept : Receiver.Kept Aligned := by
  intro before after aligned step
  have size := aligned.bufSize
  cases step with
  | receive chunk isOpen receives =>
      subst receives
      have inside := aligned.consumed_le
      refine ⟨?_, ?_, ?_⟩
      · simp only [Receiver.receive, List.length_append]
        omega
      · simp only [Receiver.receive, OffsetBuffer.view_append]
        rw [aligned.view, List.drop_append_of_le_length inside]
      · intro first stop line member
        obtain ⟨reads, below⟩ := aligned.lines first stop line member
        exact ⟨reads.append chunk, below⟩
  | overflow isOpen stage aborts =>
      subst aborts
      refine aligned.advance 0 (Nat.zero_le _) rfl rfl rfl ?_
      intro first stop line member
      simpa [Context.abort] using member
  | auth raw rest frame isOpen stage view absent handles consumed files unread stream =>
      have length : raw.length + 1 ≤ before.bufSize := by
        have lengths := congrArg List.length view
        rw [OffsetBuffer.length_view] at lengths
        simp [Receiver.bufSize, lengths]
      refine aligned.advance (raw.length + 1) length consumed ?_ stream ?_
      · rw [unread, view]
        simp
      · intro first stop line member
        exact (handles.kinds.mem_iff (by simp [Event.kind])).mp member
  | header raw rest frame isOpen stage view absent stop consumed handles unread stream =>
      have length : raw.length + 1 ≤ before.bufSize := by
        have lengths := congrArg List.length view
        rw [OffsetBuffer.length_view] at lengths
        simp [Receiver.bufSize, lengths]
      have reached : after.consumed = before.consumed + (raw.length + 1) := by
        rw [handles.consumed, ← consumed]
        rfl
      refine ⟨?_, ?_, ?_⟩
      · rw [reached, stream]
        omega
      · rw [unread, reached, stream, ← drop_view aligned, view]
        simp
      · intro first last line member
        rw [stream, reached]
        have recorded := (handles.kinds.mem_iff (by simp [Event.kind])).mp member
        simp only [Context.emit_trace, List.mem_append, List.mem_singleton,
          Event.headerLine.injEq] at recorded
        rcases recorded with old | ⟨rfl, rfl, rfl⟩
        · obtain ⟨reads, below⟩ := aligned.lines first last line old
          exact ⟨reads, by omega⟩
        · refine ⟨⟨raw, rest, ?_, absent, rfl, consumed⟩, consumed.le⟩
          rw [← aligned.view, view]
  | data frame calls isOpen stage handles =>
      have unrecorded : ∀ first stop line, .headerLine first stop line ∈ after.trace →
          .headerLine first stop line ∈ before.trace := by
        intro first stop line member
        exact (handles.kinds.mem_iff (by simp [Event.kind])).mp member
      cases handles with
      | idle same =>
          subst same
          exact ⟨aligned.consumed_le, aligned.view, aligned.lines⟩
      | failed descriptor opened refused fails =>
          subst fails
          refine aligned.advance before.bufSize (le_refl _) rfl ?_ rfl unrecorded
          rw [drop_view aligned, size]
          simp [Receiver.failWrite]
      | stored descriptor count opened within stores =>
          refine aligned.advance count (le_trans within (min_le_left _ _)) stores.consumed
            stores.2.1 stores.2.2.2 unrecorded
      | completed descriptor count opened within middle stores complete finishes =>
          subst finishes
          have left : middle.buffer.view = before.buffer.view.drop count := stores.2.1
          have reached : middle.consumed = before.consumed + count := stores.consumed
          have drained := Receiver.sentinelLength_le (before.buffer.view.drop count)
          rw [List.length_drop, OffsetBuffer.length_view] at drained
          have inside : count ≤ before.bufSize := le_trans within (min_le_left _ _)
          refine aligned.advance
            (count + Receiver.sentinelLength (before.buffer.view.drop count)) ?_ ?_ ?_ ?_ unrecorded
          · unfold Receiver.bufSize at inside ⊢
            omega
          · rw [Receiver.finishUpload_consumed, reached, left, Nat.add_assoc]
          · rw [Receiver.finishUpload_view, left, List.drop_drop]
          · rw [(middle.finishUpload_stream frame descriptor).1]
            exact stores.2.2.2

/-! ## Payloads and request lines -/

/-- A request line causes this event. -/
def Event.Begins : Event → Prop
  | dispatch _ | pushFileList | pushFile _ | reply .unknownRequest => True
  | openUpload _ _ _ _ _ => True
  | _ => False

/-- What begins a request stands directly behind its request line. -/
def Caused (before : List Event) (event : Event) : Prop :=
  event.Begins → ∃ earlier first stop line, before = earlier ++ [.headerLine first stop line]

/-- A failing `write` found all bytes of the payload that were still missing in the buffer. -/
def Event.failsBuffered : Event → Bool
  | writeFailed buffered missing => missing ≤ buffered
  | _ => true

/-- Every failing `write` did. -/
def FailuresBuffered (trace : List Event) : Prop :=
  ∀ event ∈ trace, event.failsBuffered = true

/-- An upload is past the read head, or it is the one being received. -/
def Passed (receiver : Receiver) (start size : Nat) : Prop :=
  start + size ≤ receiver.consumed ∨
    receiver.session.stage = .data ∧ size = receiver.session.expectedBytes ∧
      start + receiver.session.receivedBytes = receiver.consumed

/-- Request lines and payloads do not overlap, as long as failing writes are buffered. -/
structure Separated (receiver : Receiver) : Prop where
  received_le : receiver.session.stage = .data →
    receiver.session.receivedBytes ≤ receiver.session.expectedBytes
  caused : Trace.Justified Caused receiver.trace
  passed : FailuresBuffered receiver.trace → ∀ start descriptor path size shared,
    .openUpload start descriptor path size shared ∈ receiver.trace → Passed receiver start size
  apart : FailuresBuffered receiver.trace → ∀ first stop line start descriptor path size shared,
    .headerLine first stop line ∈ receiver.trace →
    .openUpload start descriptor path size shared ∈ receiver.trace →
    stop ≤ start ∨ start + size ≤ first

theorem FailuresBuffered.earlier {kind : Event → Prop} {earlier later : List Event}
    (buffered : FailuresBuffered later) (extended : Trace.Extends kind earlier later) :
    FailuresBuffered earlier := by
  obtain ⟨added, rfl, _⟩ := extended
  intro event member
  exact buffered event (List.mem_append_left _ member)

theorem Event.Begins.kind {event : Event} (begins : event.Begins) :
    event.kind = .request ∨ event.kind = .upload := by
  unfold Event.Begins at begins
  split at begins
  · exact .inl rfl
  · exact .inl rfl
  · exact .inl rfl
  · exact .inl rfl
  · exact .inr rfl
  · exact begins.elim

/-- A step that records neither a line nor an upload nor a request. -/
theorem Separated.advance {before after : Receiver} (separated : Separated before)
    (extended : Trace.Extends
      (fun event => event.kind ≠ .line ∧ event.kind ≠ .upload ∧ event.kind ≠ .request)
      before.trace after.trace)
    (received : after.session.stage = .data →
      after.session.receivedBytes ≤ after.session.expectedBytes)
    (passes : FailuresBuffered after.trace → ∀ start size,
      Passed before start size → Passed after start size) : Separated after := by
  have sameLines : ∀ first stop line,
      .headerLine first stop line ∈ after.trace ↔ .headerLine first stop line ∈ before.trace := by
    intro first stop line
    exact extended.mem_iff (by simp [Event.kind])
  have sameUploads : ∀ start descriptor path size shared,
      .openUpload start descriptor path size shared ∈ after.trace ↔
        .openUpload start descriptor path size shared ∈ before.trace := by
    intro start descriptor path size shared
    exact extended.mem_iff (by simp [Event.kind])
  refine ⟨received, ?_, ?_, ?_⟩
  · apply separated.caused.extend extended
    intro between event _ kind begins
    rcases begins.kind with request | upload
    · exact absurd request kind.2.2
    · exact absurd upload kind.2.1
  · intro buffered start descriptor path size shared member
    rw [sameUploads] at member
    exact passes buffered start size
      (separated.passed (buffered.earlier extended) start descriptor path size shared member)
  · intro buffered first stop line start descriptor path size shared lineMember uploadMember
    rw [sameLines] at lineMember
    rw [sameUploads] at uploadMember
    exact separated.apart (buffered.earlier extended) first stop line start descriptor path size
      shared lineMember uploadMember

/-- A request line is read while every earlier payload is past. -/
theorem Separated.readLine {before : Receiver} (separated : Separated before)
    (stage : before.session.stage = .header) (stop : Nat)
    (line : Bytes) (reached : before.consumed ≤ stop) :
    Separated
      { before with
        toContext :=
          { before.toContext with consumed := stop }.emit
            [.headerLine before.consumed stop line] } := by
  have passed : FailuresBuffered before.trace → ∀ start descriptor path size shared,
      .openUpload start descriptor path size shared ∈ before.trace →
        start + size ≤ before.consumed := by
    intro buffered start descriptor path size shared member
    rcases separated.passed buffered start descriptor path size shared member with
      past | ⟨receiving, _⟩
    · exact past
    · rw [stage] at receiving
      cases receiving
  have earlier : FailuresBuffered (before.trace ++ [.headerLine before.consumed stop line]) →
      FailuresBuffered before.trace := by
    intro buffered event member
    exact buffered event (List.mem_append_left _ member)
  refine ⟨separated.received_le, ?_, ?_, ?_⟩
  · refine Trace.justified_append_iff.mpr ⟨separated.caused, ?_⟩
    rw [Trace.justified_cons_iff]
    refine ⟨?_, Trace.justified_nil _⟩
    simp [Caused, Event.Begins]
  · intro buffered start descriptor path size shared member
    have old : .openUpload start descriptor path size shared ∈ before.trace := by
      simpa using member
    have past := passed (earlier buffered) start descriptor path size shared old
    exact .inl (past.trans reached)
  · intro buffered first last text start descriptor path size shared lineMember uploadMember
    have old : .openUpload start descriptor path size shared ∈ before.trace := by
      simpa using uploadMember
    have past := passed (earlier buffered) start descriptor path size shared old
    have recorded : .headerLine first last text ∈ before.trace ∨
        first = before.consumed ∧ last = stop ∧ text = line := by
      simpa using lineMember
    rcases recorded with known | ⟨rfl, rfl, rfl⟩
    · exact separated.apart (earlier buffered) first last text start descriptor path size shared
        known old
    · exact .inr past

/-- A step outside the data stage leaves what is past behind. -/
theorem Passed.beyond {before after : Receiver} {start size : Nat}
    (passed : Passed before start size) (stage : before.session.stage ≠ .data)
    (reached : before.consumed ≤ after.consumed) : Passed after start size := by
  rcases passed with past | ⟨receiving, _⟩
  · exact .inl (past.trans reached)
  · exact absurd receiving stage

/-- A request begins directly behind its line. -/
theorem Separated.begin {middle : Receiver} (separated : Separated middle)
    (behind : ∃ earlier first stop text,
      middle.trace = earlier ++ [.headerLine first stop text])
    {opener : Event} (kind : opener.kind = .request) :
    Separated { middle with toContext := middle.toContext.emit [opener] } := by
  have older : ∀ event : Event, event.kind ≠ .request → event ∈ middle.trace ++ [opener] →
      event ∈ middle.trace := by
    intro event other member
    rcases List.mem_append.mp member with old | new
    · exact old
    · rw [List.mem_singleton.mp new] at other
      exact absurd kind other
  have earlier : FailuresBuffered (middle.trace ++ [opener]) → FailuresBuffered middle.trace :=
    fun buffered event member => buffered event (List.mem_append_left _ member)
  refine ⟨separated.received_le, ?_, ?_, ?_⟩
  · refine Trace.justified_append_iff.mpr ⟨separated.caused, ?_⟩
    rw [Trace.justified_cons_iff]
    refine ⟨fun _ => ?_, Trace.justified_nil _⟩
    simpa using behind
  · intro buffered start descriptor path size shared member
    exact separated.passed (earlier buffered) start descriptor path size shared
      (older _ (by simp [Event.kind]) member)
  · intro buffered first stop text start descriptor path size shared lineMember uploadMember
    exact separated.apart (earlier buffered) first stop text start descriptor path size shared
      (older _ (by simp [Event.kind]) lineMember) (older _ (by simp [Event.kind]) uploadMember)

/-- An upload begins directly behind its line: its payload starts at the read head. -/
theorem Separated.beginUpload {middle after : Receiver} (separated : Separated middle)
    (stage : middle.session.stage ≠ .data)
    (behind : ∃ earlier first stop text,
      middle.trace = earlier ++ [.headerLine first stop text])
    (lines : ∀ first stop text, .headerLine first stop text ∈ middle.trace →
      stop ≤ middle.consumed)
    (opens : ∃ descriptor path shared sent, after.trace = middle.trace ++
      [.openUpload middle.consumed descriptor path after.session.expectedBytes shared,
        .reply .readyForFile, .sent sent])
    (receiving : after.session.stage = .data) (received : after.session.receivedBytes = 0)
    (reached : after.consumed = middle.consumed) : Separated after := by
  obtain ⟨_, _, _, _, trace⟩ := opens
  have earlier : FailuresBuffered after.trace → FailuresBuffered middle.trace := by
    intro buffered event member
    rw [trace] at buffered
    exact buffered event (List.mem_append_left _ member)
  have uploads : ∀ start descriptor path size shared,
      .openUpload start descriptor path size shared ∈ after.trace →
        .openUpload start descriptor path size shared ∈ middle.trace ∨
          start = middle.consumed ∧ size = after.session.expectedBytes := by
    intro start descriptor path size shared member
    rw [trace] at member
    rcases List.mem_append.mp member with old | new
    · exact .inl old
    · simp only [List.mem_cons, Event.openUpload.injEq, reduceCtorEq, List.not_mem_nil, or_false]
        at new
      exact .inr ⟨new.1, new.2.2.2.1⟩
  refine ⟨?_, ?_, ?_, ?_⟩
  · intro _
    rw [received]
    exact Nat.zero_le _
  · rw [trace]
    refine Trace.justified_append_iff.mpr ⟨separated.caused, ?_⟩
    simp only [Trace.justified_cons_iff, Trace.justified_nil, and_true]
    refine ⟨fun _ => ?_, ?_, ?_⟩
    · simpa using behind
    · simp [Caused, Event.Begins]
    · simp [Caused, Event.Begins]
  · intro buffered start descriptor path size shared member
    rcases uploads start descriptor path size shared member with old | ⟨rfl, rfl⟩
    · have passed := separated.passed (earlier buffered) start descriptor path size shared old
      exact passed.beyond stage reached.ge
    · refine .inr ⟨receiving, rfl, ?_⟩
      rw [received, reached, Nat.add_zero]
  · intro buffered first stop text start descriptor path size shared lineMember uploadMember
    have oldLine : .headerLine first stop text ∈ middle.trace := by
      rw [trace] at lineMember
      simpa using lineMember
    rcases uploads start descriptor path size shared uploadMember with old | ⟨rfl, rfl⟩
    · exact separated.apart (earlier buffered) first stop text start descriptor path size shared
        oldLine old
    · exact .inl (lines first stop text oldLine)

/-- The request handler, behind its line. -/
theorem Separated.handle {middle after : Receiver} (separated : Separated middle)
    (stage : middle.session.stage = .header) {frame : HeaderFrame} {line : Bytes}
    (behind : ∃ earlier first stop text,
      middle.trace = earlier ++ [.headerLine first stop text])
    (lines : ∀ first stop text, .headerLine first stop text ∈ middle.trace →
      stop ≤ middle.consumed)
    (handles : HeaderStep frame line middle.toContext after.toContext) : Separated after := by
  have notData : middle.session.stage ≠ .data := by
    rw [stage]
    decide
  have reached := handles.consumed
  cases handles with
  | request opener kind answers =>
      obtain ⟨added, transfer, kinds, after_eq⟩ := answers
      refine (separated.begin behind kind).advance ⟨added, by rw [after_eq]; rfl, ?_⟩ ?_ ?_
      · intro event member
        rw [kinds event member]
        decide
      · intro receiving
        rw [after_eq] at receiving
        exact absurd receiving notData
      · intro _ start size passed
        exact passed.beyond notData reached.ge
  | refusal fileName expectedBytes fileFd released answers =>
      obtain ⟨added, transfer, kinds, after_eq⟩ := answers
      refine separated.advance ⟨added, by rw [after_eq]; rfl, ?_⟩ ?_ ?_
      · intro event member
        rw [kinds event member]
        decide
      · intro receiving
        rw [after_eq] at receiving
        exact absurd receiving notData
      · intro _ start size passed
        exact passed.beyond notData reached.ge
  | upload fileName expectedBytes declares positive bounded begins =>
      have trace := congrArg Context.trace begins
      rw [Context.beginUpload_trace] at trace
      have session := congrArg Context.session begins
      refine separated.beginUpload notData behind lines ?_ ?_ ?_ reached
      · refine ⟨middle.world.files.nextDescriptor, uploadPath middle.world fileName,
          middle.world.files.busy (uploadPath middle.world fileName),
          Transport.transmit middle.session.ssl frame.sends Reply.readyForFile.text, ?_⟩
        rw [trace, session]
        rfl
      · rw [session]
        rfl
      · rw [session]
        rfl

/-- The data handler either stays within the payload or leaves it behind. -/
theorem Separated.receive {before after : Receiver} (separated : Separated before)
    {frame : DataFrame} (stage : before.session.stage = .data)
    (handles : Receiver.DataStep frame before after) : Separated after := by
  have kinds := handles.kinds
  have unrecorded : Trace.Extends
      (fun event => event.kind ≠ .line ∧ event.kind ≠ .upload ∧ event.kind ≠ .request)
      before.trace after.trace := by
    apply kinds.mono
    rintro event (data | answer)
    · rw [data]
      decide
    · rw [answer]
      decide
  have received := separated.received_le stage
  cases handles with
  | idle same =>
      subst same
      exact separated
  | failed descriptor opened refused fails =>
      subst fails
      refine separated.advance unrecorded ?_ ?_
      · intro receiving
        cases receiving
      · intro buffered start size passed
        have enough : before.session.expectedBytes - before.session.receivedBytes ≤
            before.bufSize := by
          have failure := buffered (.writeFailed before.bufSize
            (before.session.expectedBytes - before.session.receivedBytes)) (by
              rw [Receiver.failWrite_trace]
              simp)
          simpa [Event.failsBuffered] using failure
        refine .inl ?_
        have reached : (before.failWrite frame descriptor
            (before.session.expectedBytes - before.session.receivedBytes)).consumed =
            before.consumed + before.bufSize := rfl
        rw [reached]
        rcases passed with past | ⟨_, size_eq, head⟩
        · omega
        · omega
  | stored descriptor count opened within stores =>
      have session := stores.session
      have reached := stores.consumed
      have room : count ≤ before.session.expectedBytes - before.session.receivedBytes :=
        within.trans (min_le_right _ _)
      refine separated.advance unrecorded ?_ ?_
      · intro _
        rw [session]
        simp only
        omega
      · rintro _ start size (past | ⟨_, size_eq, head⟩)
        · exact .inl (by omega)
        · refine .inr ⟨?_, ?_, ?_⟩
          · rw [session]
            exact stage
          · rw [session]
            exact size_eq
          · rw [session]
            simp only
            omega
  | completed descriptor count opened within middle stores complete finishes =>
      subst finishes
      have session := stores.session
      have reached := stores.consumed
      have left := middle.finishUpload_consumed frame descriptor
      refine separated.advance unrecorded ?_ ?_
      · intro receiving
        rw [Receiver.finishUpload_session] at receiving
        cases receiving
      · rw [session] at complete
        simp only at complete
        rintro _ start size (past | ⟨_, size_eq, head⟩)
        · exact .inl (by omega)
        · exact .inl (by omega)

theorem separated_kept :
    Receiver.Kept fun receiver => Aligned receiver ∧ Separated receiver := by
  rintro before after ⟨aligned, separated⟩ step
  refine ⟨aligned_kept aligned step, ?_⟩
  cases step with
  | receive chunk isOpen receives =>
      subst receives
      exact ⟨separated.received_le, separated.caused, separated.passed, separated.apart⟩
  | overflow isOpen stage aborts =>
      subst aborts
      refine separated.advance ⟨[.closeSocket], rfl, by simp [Event.kind]⟩ separated.received_le ?_
      intro _ start size passed
      exact passed
  | auth raw rest frame isOpen stage view absent handles consumed files unread stream =>
      have notData : before.session.stage ≠ .data := by
        rw [stage]
        decide
      refine separated.advance (handles.kinds.mono ?_) ?_ ?_
      · rintro event (authentication | answer)
        · rw [authentication]
          decide
        · rw [answer]
          decide
      · exact fun receiving => absurd receiving (handles.outside notData).1
      · intro _ start size passed
        exact passed.beyond notData (by omega)
  | header raw rest frame isOpen stage view absent stop consumed handles unread stream =>
      have reached : before.consumed ≤ stop := by omega
      refine (separated.readLine stage stop (Receiver.stripReturn raw) reached).handle stage
        ⟨before.trace, before.consumed, stop, Receiver.stripReturn raw, rfl⟩ ?_ handles
      intro first last text member
      have recorded : .headerLine first last text ∈ before.trace ∨
          first = before.consumed ∧ last = stop ∧ text = Receiver.stripReturn raw := by
        simpa using member
      rcases recorded with old | ⟨_, rfl, _⟩
      · exact (aligned.lines first last text old).2.trans reached
      · exact le_refl _
  | data frame calls isOpen stage handles =>
      have counted : Separated { before with calls } :=
        ⟨separated.received_le, separated.caused, separated.passed, separated.apart⟩
      exact counted.receive stage handles

theorem separated_initial (ssl : Bool) (remoteIp : Ip) (world : World) :
    Aligned ((Client.initial ssl remoteIp).receiver world) ∧
      Separated ((Client.initial ssl remoteIp).receiver world) := by
  refine ⟨⟨?_, ?_, ?_⟩, ⟨?_, ?_, ?_, ?_⟩⟩
  all_goals simp [Client.initial, Client.receiver, ClientSession.initial]

/-- Every session of a run keeps requests and payloads apart. -/
theorem separated_of_run {startup : Startup} {inputs : List Input} {conn : Nat} {client : Client}
    (present : (Daemon.run startup inputs).clients conn = some client) (world : World) :
    Aligned (client.receiver world) ∧ Separated (client.receiver world) :=
  Daemon.clients_keep separated_kept separated_initial
    (fun _ _ both => ⟨⟨both.1.1, both.1.2, both.1.3⟩, ⟨both.2.1, both.2.2, both.2.3, both.2.4⟩⟩)
    startup inputs conn client present world

/-! ## The payload of an upload is not interpreted -/

/-- No request line overlaps a payload, and whatever begins a request stands directly behind its
request line. -/
def PayloadUninterpreted (trace : List Event) : Prop :=
  (∀ first stop line start descriptor path size shared,
      .headerLine first stop line ∈ trace →
      .openUpload start descriptor path size shared ∈ trace → stop ≤ start ∨ start + size ≤ first) ∧
    Trace.Justified Caused trace

/-- A failing `write` with a part of the payload still to come leaves the session in the request
stage with its read head inside the payload. -/
theorem failWrite_inside {receiver : Receiver} {start size : Nat} (frame : DataFrame)
    (descriptor : Nat) (head : start + receiver.session.receivedBytes = receiver.consumed)
    (declared : size = receiver.session.expectedBytes)
    (unbuffered : receiver.bufSize < receiver.session.expectedBytes -
      receiver.session.receivedBytes) :
    let after := receiver.failWrite frame descriptor
      (receiver.session.expectedBytes - receiver.session.receivedBytes)
    after.session.stage = .header ∧ start ≤ after.consumed ∧ after.consumed < start + size := by
  have reached : (receiver.failWrite frame descriptor
      (receiver.session.expectedBytes - receiver.session.receivedBytes)).consumed =
      receiver.consumed + receiver.bufSize := rfl
  refine ⟨rfl, ?_, ?_⟩
  · rw [reached]
    omega
  · rw [reached]
    omega

/-- In every run, a session whose failing writes found the rest of the payload in the buffer never
takes a byte of a payload for a request, and its request lines are lines of the stream. -/
theorem payload_uninterpreted (startup : Startup) (inputs : List Input) (conn : Nat)
    (client : Client) (present : (Daemon.run startup inputs).clients conn = some client)
    (buffered : FailuresBuffered client.trace) :
    PayloadUninterpreted client.trace ∧
      ∀ first stop line, .headerLine first stop line ∈ client.trace →
        ReadsLine client.stream first stop line := by
  obtain ⟨aligned, separated⟩ := separated_of_run present startup.world
  refine ⟨⟨separated.apart buffered, separated.caused⟩, ?_⟩
  intro first stop line member
  exact (aligned.lines first stop line member).1

/-- Every `write` fails. -/
def Env.failing : Env :=
  { Env.quiet with data := fun index => { Env.quiet.data index with write := none } }

/-- A failing `write` with the whole payload buffered, and a command behind it. -/
def bufferedFailure : List Input :=
  [.connect 0 false [1], .data 0 (ascii "123456\nFILE_START:f:3\nabc") .failing,
    .data 0 (ascii "CMD:shutdown\n") .quiet]

theorem payload_uninterpreted_buffered :
    ∃ client, (Daemon.run (.fresh (ascii "123456")) bufferedFailure).clients 0 = some client ∧
      .writeFailed 3 3 ∈ client.trace ∧ .dispatch (ascii "shutdown") ∈ client.trace ∧
      PayloadUninterpreted client.trace := by
  let client := ((Daemon.run (.fresh (ascii "123456")) bufferedFailure).clients 0).getD
    (.initial false [])
  have present :
      (Daemon.run (.fresh (ascii "123456")) bufferedFailure).clients 0 = some client := rfl
  have buffered : FailuresBuffered client.trace := by
    unfold FailuresBuffered
    decide
  have safe := payload_uninterpreted (.fresh (ascii "123456")) bufferedFailure 0 client present
    buffered
  exact ⟨client, present, by decide, by decide, safe.1⟩

/-- A `write` fails after three of thirty bytes; the next bytes of the file read like a command. -/
def unbufferedFailure : List Input :=
  [.connect 0 false [1], .data 0 (ascii "123456\nFILE_START:f:30\nabc") .failing,
    .data 0 (ascii "CMD:shutdown\n") .quiet]

theorem payload_interpreted :
    ¬ ∀ (startup : Startup) (inputs : List Input) (conn : Nat) (client : Client),
      (Daemon.run startup inputs).clients conn = some client →
        PayloadUninterpreted client.trace := by
  intro claim
  let client := ((Daemon.run (.fresh (ascii "123456")) unbufferedFailure).clients 0).getD
    (.initial false [])
  have safe := claim (.fresh (ascii "123456")) unbufferedFailure 0 client rfl
  have overlap := safe.1 26 39 (ascii "CMD:shutdown") 23 0 (ascii "/f") 30 false (by decide)
    (by decide)
  omega

end TitanShare
