import TitanShare.FinalAnswer
import TitanShare.PathConfinement

/-!
# Names of uploads in the status file

A request line may carry any bytes as the name of an upload, and the file is opened under them.  The
status file is JSON text, and its serialiser throws on bytes that are not UTF-8: an upload whose
writes are all complete is received unless a progress update meets such a name.
-/

namespace TitanShare

open ByteText PassLoop

/-! ## Replacing separators keeps a text well formed -/

namespace Json

theorem accepts_replace {old new : UInt8} (sameClass : byteClass new = byteClass old) (state : Nat)
    (text : Bytes) : accepts state (replace old new text) = accepts state text := by
  induction text generalizing state with
  | nil => rfl
  | cons head tail ih =>
      have decoded : decode state (if head = old then new else head) = decode state head := by
        by_cases same : head = old
        · rw [if_pos same, same, decode, decode, sameClass]
        · rw [if_neg same]
      have step : replace old new (head :: tail) =
          (if head = old then new else head) :: replace old new tail := rfl
      rw [step, accepts, accepts, decoded, ih]

end Json

/-- The name of an upload as its request line carries it. -/
def wireName (line : Bytes) : Bytes :=
  match rfind (byte ':') line with
  | none => []
  | some lastColon => (line.drop 11).take (lastColon - 11)

theorem uploadName_eq (line : Bytes) :
    uploadName line =
      replace (byte '\\') (byte '_') (replace (byte '/') (byte '_') (wireName line)) := by
  unfold uploadName wireName
  cases rfind (byte ':') line with
  | none => rfl
  | some lastColon => rfl

theorem validUtf8_uploadName (line : Bytes) :
    Json.validUtf8 (uploadName line) = Json.validUtf8 (wireName line) := by
  rw [uploadName_eq, Json.validUtf8, Json.validUtf8, Json.accepts_replace (by decide),
    Json.accepts_replace (by decide)]

/-! ## The name of the upload under way -/

theorem fileStart_fileName (frame : HeaderFrame) (line : Bytes) (context : Context)
    (notData : context.session.stage ≠ .data)
    (begins : (fileStart frame line context).state.session.stage = .data) :
    (fileStart frame line context).state.session.fileName = uploadName line := by
  cases found : rfind (byte ':') line with
  | none =>
      simp only [fileStart, found] at begins
      exact absurd begins notData
  | some lastColon =>
      simp only [uploadName, fileStart, found] at begins ⊢
      by_cases behind : lastColon ≤ 11
      · rw [if_pos behind] at begins
        exact absurd begins notData
      · rw [if_neg behind]
        cases stoull (line.drop (lastColon + 1)) with
        | error exception => rfl
        | ok size =>
            simp only
            split
            · rfl
            · split
              · rfl
              · split
                · rfl
                · split
                  · rfl
                  · rfl

/-- A request line that begins an upload names it. -/
theorem handleHeader_fileName (frame : HeaderFrame) (line : Bytes) (context : Context)
    (notData : context.session.stage ≠ .data)
    (begins : (handleHeader frame line context).state.session.stage = .data) :
    (handleHeader frame line context).state.session.fileName = uploadName line := by
  have answered : ∀ {opener : Event} {after : Context},
      Context.Emits .answer (context.emit [opener]) after → after.session.stage ≠ .data := by
    intro opener after answers
    rw [answers.session]
    exact notData
  simp only [handleHeader] at begins ⊢
  split at begins
  · split at begins
    · exact absurd begins (answered (pushFileList_emits frame context))
    · split at begins
      · exact absurd begins (answered (pushFile_emits frame _ context))
      · exact absurd begins (answered (runCommand_emits frame _ context))
  · rename_i notCommand
    rw [if_neg notCommand]
    split at begins
    · rename_i announces
      rw [if_pos announces]
      exact fileStart_fileName frame line context notData begins
    · exact absurd begins notData

/-- The last request line of a history. -/
def lastLine (trace : List Event) : Option Bytes :=
  trace.foldl
    (fun last event =>
      match event with
      | .headerLine _ _ line => some line
      | _ => last)
    none

theorem lastLine_extend {trace later : List Event}
    (extended : Trace.Extends (fun event => event.kind ≠ .line) trace later) :
    lastLine later = lastLine trace := by
  apply extended.foldl_eq
  intro event other
  cases event with
  | headerLine start stop line => exact absurd rfl other
  | _ => rfl

/-- The upload under way has the name that the last request line carries. -/
def Named (receiver : Receiver) : Prop :=
  receiver.session.stage = .data → ∃ line, lastLine receiver.trace = some line ∧
    receiver.session.fileName = uploadName line

theorem named_kept : Receiver.Kept Named := by
  intro before after named step receiving
  cases step with
  | receive chunk isOpen receives =>
      subst receives
      exact named receiving
  | overflow isOpen stage aborts =>
      subst aborts
      rw [show before.abort.session.stage = before.session.stage from rfl, stage] at receiving
      cases receiving
  | auth raw rest frame isOpen stage view absent handles consumed files unread stream =>
      exact absurd receiving (handles.outside (by rw [stage]; decide)).1
  | header raw rest frame isOpen stage view absent stop consumed handles unread stream handled =>
      refine ⟨Receiver.stripReturn raw, ?_, ?_⟩
      · have quiet : Trace.Extends (fun event => event.kind ≠ .line)
            (before.trace ++ [.headerLine before.consumed stop (Receiver.stripReturn raw)])
            after.trace := by
          apply handles.kinds.mono
          rintro event (request | upload | answer)
          · simp [request]
          · simp [upload]
          · simp [answer]
        rw [lastLine_extend quiet]
        simp [lastLine]
      · have session := congrArg Context.session handled
        have named := handleHeader_fileName frame (Receiver.stripReturn raw)
          ({ before.toContext with consumed := stop }.emit
            [.headerLine before.consumed stop (Receiver.stripReturn raw)])
          (by rw [Context.emit_session, stage]; decide) (by rw [session]; exact receiving)
        rw [session] at named
        exact named
  | data frame calls isOpen stage handles =>
      cases handles with
      | idle same =>
          subst same
          exact named receiving
      | failed descriptor owned refused fails =>
          subst fails
          simp [Receiver.failWrite, Receiver.failUpload] at receiving
      | stored descriptor count owned within stores =>
          rw [stores.trace, stores.session]
          exact named stage
      | completed descriptor count owned within middle stores complete finishes =>
          subst finishes
          simp [Receiver.finishUpload_session] at receiving

theorem named_initial (ssl : Bool) (remoteIp : Ip) (world : World) :
    Named ((Client.initial ssl remoteIp).receiver world) := by
  intro impossible
  cases impossible

/-! ## Complete writes -/

/-- Every `write` takes all it is given. -/
def Daemon.WritesComplete (daemon : Daemon) (input : Input) : Prop :=
  ∀ env last, daemon.CallsData input env last →
    ∃ count, (env.data last.calls.data).write = some count ∧ min last.bufSize last.missing ≤ count

theorem Daemon.WritesComplete.suffice {daemon : Daemon} {input : Input}
    (complete : daemon.WritesComplete input) : daemon.WritesSuffice input := by
  intro env last called covered
  obtain ⟨count, wrote, all⟩ := complete env last called
  exact .inr ⟨count, wrote, by omega⟩

/-- No upload was answered with `CMD_FAIL`. -/
structure Unfailed (receiver : Receiver) : Prop where
  answering : Answering receiver
  unfailed : ∀ upload ∈ (AnswerLog.entries receiver.trace).uploads, .cmdFail ∉ upload.answers

theorem Unfailed.of_trace {before after : Receiver} (unfailed : Unfailed before)
    (answering : Answering after)
    (log : (AnswerLog.entries after.trace).uploads = (AnswerLog.entries before.trace).uploads) :
    Unfailed after :=
  ⟨answering, by rw [log]; exact unfailed.unfailed⟩

theorem Unfailed.step {before after : Receiver} (unfailed : Unfailed before)
    (step : Receiver.Step before after) (notData : before.session.stage ≠ .data) :
    Unfailed after := by
  have answering := answering_kept unfailed.answering step
  rcases step.outside notData with passes | ⟨fileName, size, begins⟩
  · exact unfailed.of_trace answering (step.uploads_eq notData passes)
  · refine ⟨answering, ?_⟩
    rw [log_begins begins]
    intro upload member
    rcases List.mem_cons.mp member with rfl | old
    · exact List.not_mem_nil
    · exact unfailed.unfailed upload old

theorem Unfailed.data {before after : Receiver} (unfailed : Unfailed before)
    (isOpen : before.session.closed = false) (stage : before.session.stage = .data)
    {frame : DataFrame} {calls : Calls} (writes : frame.write ≠ none)
    (handles : Receiver.DataStep frame { before with calls } after) : Unfailed after := by
  have answering := answering_kept unfailed.answering (.data frame calls isOpen stage handles)
  cases handles with
  | idle same => exact unfailed.of_trace answering (by rw [same])
  | failed descriptor owned refused fails => exact absurd refused writes
  | stored descriptor count owned within stores =>
      exact unfailed.of_trace answering (by rw [stores.trace])
  | completed descriptor count owned within middle stores complete finishes =>
      have trace := middle.finishUpload_trace frame descriptor
      rw [← finishes, stores.trace] at trace
      obtain ⟨latest, earlier, uploads, _, log⟩ :=
        unfailed.answering.log_finish stage (fun _ => rfl) (.inl rfl) trace
      refine ⟨answering, ?_⟩
      rw [log]
      intro upload member
      rcases List.mem_cons.mp member with rfl | old
      · simp
      · exact unfailed.unfailed upload (by rw [uploads]; exact List.mem_cons_of_mem _ old)

theorem unfailed_of_run {startup : Startup} {inputs : List Input}
    (writes : Daemon.Along Daemon.WritesComplete startup inputs) :
    ∀ conn client, (Daemon.run startup inputs).clients conn = some client →
      ∀ world, Unfailed (client.receiver world) := by
  refine Daemon.clients_along ?_ ?_ ?_ startup inputs writes
  · intro ssl remoteIp world
    refine ⟨answering_initial ssl remoteIp world, ?_⟩
    intro upload impossible
    cases impossible
  · rintro receiver world ⟨⟨⟨consumed, view, lines⟩, settled, underway⟩, unfailed⟩
    exact ⟨⟨⟨consumed, view, lines⟩, settled, underway⟩, unfailed⟩
  · intro daemon conn client chunk env running slot connected writes unfailed
    refine Receiver.onData_keeps Unfailed.step ?_ unfailed ?_
    · intro before chunk unfailed isOpen
      exact ⟨answering_kept unfailed.answering (.receive chunk isOpen rfl), unfailed.unfailed⟩
    · intro last call unfailed
      obtain ⟨count, wrote, _⟩ :=
        writes env last ⟨running, conn, chunk, client, rfl, slot, connected, call⟩
      exact unfailed.data call.stillOpen call.stage (by rw [wrote]; exact nofun)
        (Receiver.handleFileData_step _ _)

/-! ## Names that can be published -/

/-- Every progress update is made for a name that is UTF-8, unless the status file does not open,
and the folder of the status file is there or can be created. -/
def Daemon.NamesPublish (daemon : Daemon) (input : Input) : Prop :=
  ∀ env last, daemon.CallsData input env last → ∃ line, lastLine last.trace = some line ∧
    ((env.data last.calls.data).due = true ∨ last.missing ≤ last.bufSize →
      (env.data last.calls.data).progress.Succeeds (wireName line)) ∧
    (last.missing ≤ last.bufSize → (env.data last.calls.data).finish.createsDir = true)

/-- Under a complete write, the publish calls return exactly when the name can be published. -/
theorem Waiting.publishes_iff {receiver : Receiver} (waiting : Waiting receiver)
    (stage : receiver.session.stage = .data) {frame : DataFrame} {count : Nat}
    (wrote : frame.write = some count) (all : min receiver.bufSize receiver.missing ≤ count)
    {line : Bytes} (fileName : receiver.session.fileName = uploadName line) :
    frame.Publishes receiver ↔
      (frame.due = true ∨ receiver.missing ≤ receiver.bufSize →
        frame.progress.Succeeds (wireName line)) ∧
      (receiver.missing ≤ receiver.bufSize → frame.finish.createsDir = true) := by
  have incomplete := waiting.incomplete stage
  have takes : frame.takes receiver = min receiver.bufSize receiver.missing := by
    rw [DataFrame.takes, wrote, Option.getD_some]
    exact min_eq_right all
  have missing : receiver.missing =
      receiver.session.expectedBytes - receiver.session.receivedBytes := rfl
  have whole : receiver.session.receivedBytes + frame.takes receiver =
      receiver.session.expectedBytes ↔ receiver.missing ≤ receiver.bufSize := by
    rw [takes]
    omega
  have ends : receiver.session.expectedBytes ≤
      receiver.session.receivedBytes + frame.takes receiver ↔
        receiver.missing ≤ receiver.bufSize := by
    rw [takes]
    omega
  have named : frame.progress.Succeeds receiver.session.fileName ↔
      frame.progress.Succeeds (wireName line) := by
    rw [fileName, PublishEnv.Succeeds, PublishEnv.Succeeds, validUtf8_uploadName]
  constructor
  · rintro ⟨progress, finish⟩
    rw [whole, named] at progress
    rw [ends] at finish
    exact ⟨progress, finish⟩
  · rintro ⟨progress, finish⟩
    refine ⟨?_, ?_⟩
    · rw [whole, named]
      exact progress
    · rw [ends]
      exact finish

/-- Wherever the data handler is called, the last request line names the upload. -/
theorem named_of_call {startup : Startup} {inputs : List Input} {input : Input} {env : Env}
    {last : Receiver} (called : (Daemon.run startup inputs).CallsData input env last) :
    ∃ line, lastLine last.trace = some line ∧ last.session.fileName = uploadName line := by
  obtain ⟨_, conn, chunk, client, rfl, slot, _, call⟩ := called
  have named : Named (client.receiver (Daemon.run startup inputs).world) :=
    Daemon.clients_keep named_kept named_initial (fun _ _ named => named) startup inputs conn client
      slot _
  have received : Named ((client.receiver (Daemon.run startup inputs).world).receive chunk) := named
  exact call.visits.keeps named_kept.goes received call.stage

/-- While writes are complete, the data handler returns throughout a run exactly when the names of
the uploads can be published. -/
theorem returns_iff_names {startup : Startup} {inputs : List Input}
    (writes : Daemon.Along Daemon.WritesComplete startup inputs) :
    Daemon.Along Daemon.DataReturns startup inputs ↔
      Daemon.Along Daemon.NamesPublish startup inputs := by
  constructor
  · intro returns earlier input later split env last called
    obtain ⟨line, read, fileName⟩ := named_of_call called
    obtain ⟨count, wrote, all⟩ := writes earlier input later split env last called
    have returned := returns earlier input later split env last called
    obtain ⟨running, conn, chunk, client, rfl, slot, connected, call⟩ := called
    have waiting := (waiting_of_returns (returns.front split) conn client slot
      (Daemon.run startup earlier).world).called call
    have publishes := (waiting.returns_iff call.stage call.buffered).mp returned
    rw [wrote] at publishes
    have made := publishes.resolve_left nofun
    exact ⟨line, read, (waiting.publishes_iff call.stage wrote all fileName).mp made⟩
  · intro names
    -- the names tell that the handler returns only in a session that waits for payload
    have known : Daemon.Along (fun daemon input => ∀ env last, daemon.CallsData input env last →
        Waiting last → (last.fileData env).Returns) startup inputs := by
      intro earlier input later split env last called waiting
      obtain ⟨line, read, fileName⟩ := named_of_call called
      obtain ⟨other, sameRead, published⟩ := names earlier input later split env last called
      obtain rfl : line = other := by
        rw [read] at sameRead
        exact Option.some.inj sameRead
      obtain ⟨count, wrote, all⟩ := writes earlier input later split env last called
      obtain ⟨running, conn, chunk, client, rfl, slot, connected, call⟩ := called
      exact (waiting.returns_iff call.stage call.buffered).mpr
        (.inr ((waiting.publishes_iff call.stage wrote all fileName).mpr published))
    have waits : ∀ {earlier later}, inputs = earlier ++ later → ∀ conn client,
        (Daemon.run startup earlier).clients conn = some client →
        ∀ world, Waiting (client.receiver world) := by
      intro earlier later split
      refine Daemon.clients_along waiting_initial Waiting.anywhere ?_ startup earlier
        (known.front split)
      intro daemon conn client chunk env running slot connected known waiting
      apply waiting.onData
      intro last call
      exact known env last ⟨running, conn, chunk, client, rfl, slot, connected, call⟩
        (waiting.called call)
    intro earlier input later split env last called
    refine known earlier input later split env last called ?_
    obtain ⟨running, conn, chunk, client, rfl, slot, connected, call⟩ := called
    exact (waits split conn client slot _).called call

/-- In every run whose writes are complete: the data handler always returns and every upload whose
payload was delivered in full ends with `FILE_OK`, in every state reached, if and only if every
progress update that opens the status file is made for a name that is UTF-8 (and its folder can be
created). -/
theorem uploads_complete_iff (startup : Startup) (inputs : List Input)
    (writes : Daemon.Along Daemon.WritesComplete startup inputs) :
    (Daemon.Along Daemon.DataReturns startup inputs ∧
      ∀ earlier later conn client, inputs = earlier ++ later →
        (Daemon.run startup earlier).clients conn = some client →
        ∀ upload ∈ (AnswerLog.entries client.trace).uploads,
          upload.start + upload.size ≤ client.stream.length → upload.answers = [.fileOk]) ↔
    Daemon.Along Daemon.NamesPublish startup inputs := by
  constructor
  · rintro ⟨returns, _⟩
    exact (returns_iff_names writes).mp returns
  · intro names
    have returns := (returns_iff_names writes).mpr names
    refine ⟨returns, ?_⟩
    intro earlier later conn client split present upload member whole
    have suffice : Daemon.Along Daemon.WritesSuffice startup earlier :=
      fun before input after cut =>
      (writes.front split before input after cut).suffice
    have hungry := hungry_of_run (returns.front split) suffice conn client present
      (Daemon.run startup earlier).world
    have answered := ((answering_of_run present (Daemon.run startup earlier).world).answered_iff
      fun stage => (hungry.1.consistent.bounded stage).1).mpr hungry.2
    have unfailed := unfailed_of_run (writes.front split) conn client present
      (Daemon.run startup earlier).world
    rcases answered.final upload member whole with ok | fail
    · exact ok
    · exact absurd (by rw [fail]; exact List.mem_singleton_self _) (unfailed.unfailed upload member)

/-! ## A name that is not text -/

theorem writesComplete_of_full {startup : Startup} {inputs : List Input}
    (full : ∀ conn chunk env, .data conn chunk env ∈ inputs → ∀ index,
      (env.data index).write = some Config.maxReceiveFileBytes) :
    Daemon.Along Daemon.WritesComplete startup inputs := by
  rintro earlier input later split env last ⟨_, conn, chunk, client, rfl, slot, _, call⟩
  have before : Consistent (client.receiver (Daemon.run startup earlier).world) :=
    consistent_of_run slot _
  have received := consistent_kept before (.receive chunk call.isOpen rfl)
  have consistent : Consistent last := call.visits.keeps consistent_kept.goes received
  have bounded := (consistent.bounded call.stage).2
  refine ⟨_, full conn chunk env (by rw [split]; simp) _, ?_⟩
  unfold Receiver.missing
  omega

/-- The name is the byte 255; the payload follows in the same chunk. -/
def untextedUpload : List Input :=
  [.connect 0 false [1],
    .data 0 (ascii "123456\nFILE_START:" ++ [255] ++ ascii ":5\nabcde") .quiet]

theorem untextedUpload_env {conn : Nat} {chunk : Bytes} {env : Env}
    (member : .data conn chunk env ∈ untextedUpload) : env = .quiet := by
  simp only [untextedUpload, List.mem_cons, Input.data.injEq, reduceCtorEq, false_or,
    List.not_mem_nil, or_false] at member
  exact member.2.2

theorem untextedUpload_writes :
    Daemon.Along Daemon.WritesComplete (.fresh (ascii "123456")) untextedUpload := by
  apply writesComplete_of_full
  intro conn chunk env member index
  rw [untextedUpload_env member]
  rfl

theorem untextedUpload_unanswered : ∃ client,
    (Daemon.run (.fresh (ascii "123456")) untextedUpload).clients 0 = some client ∧
      ∃ upload ∈ (AnswerLog.entries client.trace).uploads,
        upload.start + upload.size ≤ client.stream.length ∧ upload.answers ≠ [.fileOk] := by
  let client :=
    ((Daemon.run (.fresh (ascii "123456")) untextedUpload).clients 0).getD (.initial false [])
  have uploads : (AnswerLog.entries client.trace).uploads =
      [{ start := 22, size := 5, answers := [] }] := rfl
  have length : client.stream.length = 27 := rfl
  refine ⟨client, rfl, { start := 22, size := 5, answers := [] }, ?_, ?_, nofun⟩
  · rw [uploads]
    exact List.mem_singleton_self _
  · exact length.ge

theorem uploads_complete_iff_untexted :
    ¬ Daemon.Along Daemon.NamesPublish (.fresh (ascii "123456")) untextedUpload := by
  intro names
  obtain ⟨client, present, upload, member, whole, unanswered⟩ := untextedUpload_unanswered
  have completed := (uploads_complete_iff _ untextedUpload untextedUpload_writes).mpr names
  exact unanswered (completed.2 untextedUpload [] 0 client (List.append_nil _).symm present upload
    member whole)

/-- An upload whose file was opened and whose writes are complete can be aborted by its name. -/
theorem upload_aborted :
    ¬ ∀ startup inputs, Daemon.Along Daemon.WritesComplete startup inputs →
      (∀ conn chunk env, .data conn chunk env ∈ inputs → ∀ index,
        (env.data index).progress.createsDir = true ∧ (env.data index).finish.createsDir = true) →
      Daemon.Along Daemon.DataReturns startup inputs ∧
        ∀ earlier later conn client, inputs = earlier ++ later →
          (Daemon.run startup earlier).clients conn = some client →
          ∀ upload ∈ (AnswerLog.entries client.trace).uploads,
            upload.start + upload.size ≤ client.stream.length → upload.answers = [.fileOk] := by
  intro always
  obtain ⟨client, present, upload, member, whole, unanswered⟩ := untextedUpload_unanswered
  have creates : ∀ conn chunk env, .data conn chunk env ∈ untextedUpload → ∀ index,
      (env.data index).progress.createsDir = true ∧
        (env.data index).finish.createsDir = true := by
    intro conn chunk env member index
    rw [untextedUpload_env member]
    exact ⟨rfl, rfl⟩
  have completed := always _ untextedUpload untextedUpload_writes creates
  exact unanswered (completed.2 untextedUpload [] 0 client (List.append_nil _).symm present upload
    member whole)

end TitanShare
