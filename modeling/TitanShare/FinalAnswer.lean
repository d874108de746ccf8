import TitanShare.SessionState

/-!
# The final answer to an upload

An upload ends with `FILE_OK` or with `CMD_FAIL`, sent between the open of its file and the next
request line.  A delivery writes at most once, so a client that has sent its whole payload is left
without an answer when a `write` takes less than is missing although all of it is buffered.
-/

namespace TitanShare

open ByteText PassLoop

/-! ## The uploads of a history -/

/-- An accepted upload, and every `FILE_OK` and `CMD_FAIL` since it was opened up to the next
request line. -/
structure UploadAnswers where
  start : Nat
  size : Nat
  answers : List Reply

/-- Exactly one final answer was sent. -/
def UploadAnswers.Final (upload : UploadAnswers) : Prop :=
  upload.answers = [.fileOk] ∨ upload.answers = [.cmdFail]

/-- The uploads of a history, the latest first. -/
structure AnswerLog where
  uploads : List UploadAnswers
  /-- No request line was read since the latest upload was opened. -/
  current : Bool

namespace AnswerLog

/-- The latest upload is answered, unless a request line was read since. -/
def answer (reply : Reply) (log : AnswerLog) : AnswerLog :=
  match log.current, log.uploads with
  | true, latest :: earlier =>
      { log with uploads := { latest with answers := latest.answers ++ [reply] } :: earlier }
  | _, _ => log

def note (log : AnswerLog) : Event → AnswerLog
  | .openUpload start _ _ size _ =>
      { uploads := { start, size, answers := [] } :: log.uploads, current := true }
  | .headerLine _ _ _ => { log with current := false }
  | .reply .fileOk => log.answer .fileOk
  | .reply .cmdFail => log.answer .cmdFail
  | _ => log

def entries (trace : List Event) : AnswerLog :=
  trace.foldl note { uploads := [], current := false }

theorem entries_append (trace added : List Event) :
    entries (trace ++ added) = added.foldl note (entries trace) := by
  simp [entries]

/-- Behind a request line only an upload is noted. -/
theorem note_other {event : Event} (notUpload : event.kind ≠ .upload) {log : AnswerLog}
    (past : log.current = false) : log.note event = log := by
  obtain ⟨uploads, current⟩ := log
  obtain rfl : current = false := past
  cases event with
  | openUpload start descriptor path size shared => exact absurd rfl notUpload
  | reply reply => cases reply <;> rfl
  | _ => rfl

theorem entries_extend {trace later : List Event} (past : (entries trace).current = false)
    (extended : Trace.Extends (fun event => event.kind ≠ .upload) trace later) :
    entries later = entries trace :=
  extended.foldl_eq fun _ other => note_other other past

end AnswerLog

/-- Every upload whose payload was delivered in full has its one final answer, and a session in
stage DATA is waiting for payload of its latest upload. -/
structure Answered (receiver : Receiver) : Prop where
  final : ∀ upload ∈ (AnswerLog.entries receiver.trace).uploads,
    upload.start + upload.size ≤ receiver.stream.length → upload.Final
  back : receiver.session.stage = .data → ∃ latest earlier,
    (AnswerLog.entries receiver.trace).uploads = latest :: earlier ∧
      receiver.stream.length < latest.start + latest.size

/-! ## Ended uploads are answered -/

/-- A step outside the data stage that begins no upload answers none. -/
theorem Receiver.Step.uploads_eq {before after : Receiver} (step : Receiver.Step before after)
    (notData : before.session.stage ≠ .data) (passes : Receiver.Passes before after) :
    (AnswerLog.entries after.trace).uploads = (AnswerLog.entries before.trace).uploads := by
  cases step with
  | receive chunk isOpen receives =>
      subst receives
      rfl
  | overflow isOpen stage aborts =>
      have trace : after.trace = before.trace ++ [.closeSocket] := by
        rw [aborts]
        rfl
      rw [trace, AnswerLog.entries_append]
      rfl
  | auth raw rest frame isOpen stage view absent handles consumed files unread stream =>
      cases handles with
      | blocked isBlocked world session sent trace =>
          rw [trace, AnswerLog.entries_append]
          rfl
      | accepted unblocked guessed isFree isValid world session member sent trace =>
          rw [trace, AnswerLog.entries_append]
          rfl
      | refused unblocked guessed isFree isWrong world closed closes session window sent trace =>
          rw [trace, List.append_assoc, AnswerLog.entries_append]
          cases closed with
          | true => rfl
          | false => rfl
  | header raw rest frame isOpen stage view absent stop consumed handles unread stream =>
      obtain ⟨added, grown, _⟩ := handles.kinds
      obtain ⟨all, whole, kinds⟩ := passes.recorded
      rw [Context.emit_trace, List.append_assoc] at grown
      obtain rfl := List.append_cancel_left (grown.symm.trans whole)
      -- from the request line on nothing is an answer to an upload
      have line : AnswerLog.entries (before.trace ++
          [.headerLine before.consumed stop (Receiver.stripReturn raw)]) =
          { AnswerLog.entries before.trace with current := false } := by
        rw [AnswerLog.entries_append]
        rfl
      have later := AnswerLog.entries_extend (by rw [line])
        (Trace.extends_append fun event member =>
        (kinds event (List.mem_append_right _ member)).1)
      rw [whole, ← List.append_assoc, later, line]
  | data frame calls isOpen stage handles => exact absurd stage notData

/-- Every upload but the one under way has its final answer. -/
structure Answering (receiver : Receiver) : Prop where
  aligned : Aligned receiver
  settled : receiver.session.stage ≠ .data →
    ∀ upload ∈ (AnswerLog.entries receiver.trace).uploads, upload.Final
  underway : receiver.session.stage = .data → ∃ latest earlier,
    AnswerLog.entries receiver.trace = { uploads := latest :: earlier, current := true } ∧
      latest.answers = [] ∧ (∀ upload ∈ earlier, upload.Final) ∧
      receiver.consumed = latest.start + receiver.session.receivedBytes ∧
      latest.size = receiver.session.expectedBytes

/-- The data handler ends the latest upload. -/
theorem Answering.log_finish {before : Receiver} (answering : Answering before)
    (stage : before.session.stage = .data) {trace : List Event} {ends : Event} {reply : Reply}
    {sent : Bytes} (quiet : ∀ log : AnswerLog, log.note ends = log)
    (final : reply = .fileOk ∨ reply = .cmdFail)
    (finishes : trace = before.trace ++ [ends, .reply reply, .sent sent]) :
    ∃ latest earlier, (AnswerLog.entries before.trace).uploads = latest :: earlier ∧
      (∀ upload ∈ earlier, upload.Final) ∧
      (AnswerLog.entries trace).uploads = { latest with answers := [reply] } :: earlier := by
  obtain ⟨latest, earlier, log, unanswered, finals, _, _⟩ := answering.underway stage
  refine ⟨latest, earlier, by rw [log], finals, ?_⟩
  rw [finishes, AnswerLog.entries_append, List.foldl_cons, quiet, log]
  rcases final with rfl | rfl
  · simp [AnswerLog.note, AnswerLog.answer, unanswered]
  · simp [AnswerLog.note, AnswerLog.answer, unanswered]

theorem Answering.finish {before after : Receiver} (answering : Answering before)
    (stage : before.session.stage = .data) (aligned : Aligned after)
    (left : after.session.stage ≠ .data) {ends : Event} {reply : Reply} {sent : Bytes}
    (quiet : ∀ log : AnswerLog, log.note ends = log)
    (final : reply = .fileOk ∨ reply = .cmdFail)
    (trace : after.trace = before.trace ++ [ends, .reply reply, .sent sent]) : Answering after := by
  obtain ⟨latest, earlier, _, finals, log⟩ := answering.log_finish stage quiet final trace
  refine ⟨aligned, ?_, fun receiving => absurd receiving left⟩
  intro _ upload member
  rw [log] at member
  rcases List.mem_cons.mp member with rfl | old
  · rcases final with rfl | rfl
    · exact .inl rfl
    · exact .inr rfl
  · exact finals upload old

/-- A new upload has no answer yet. -/
theorem log_begins {before after : Receiver} {fileName : Bytes} {size : Nat}
    (begins : Receiver.Begins before after fileName size) :
    AnswerLog.entries after.trace =
      { uploads := { start := after.consumed, size, answers := [] } ::
          (AnswerLog.entries before.trace).uploads
        current := true } := by
  obtain ⟨first, line, path, shared, sent, trace⟩ := begins.trace
  rw [trace, AnswerLog.entries_append]
  rfl

theorem answering_kept : Receiver.Kept Answering := by
  intro before after answering step
  have aligned := aligned_kept answering.aligned step
  by_cases receiving : before.session.stage = .data
  · cases step with
    | receive chunk isOpen receives =>
        subst receives
        exact ⟨aligned, answering.settled, answering.underway⟩
    | overflow isOpen stage aborts => simp [stage] at receiving
    | auth raw rest frame isOpen stage view absent handles consumed files unread stream =>
        simp [stage] at receiving
    | header raw rest frame isOpen stage view absent stop consumed handles unread stream =>
        simp [stage] at receiving
    | data frame calls isOpen stage handles =>
        cases handles with
        | idle same =>
            subst same
            exact ⟨aligned, answering.settled, answering.underway⟩
        | failed descriptor owned refused fails =>
            subst fails
            refine answering.finish stage aligned ?_ (fun _ => rfl) (.inr rfl)
              (Receiver.failWrite_trace _ _ _ _)
            simp [Receiver.failWrite, Receiver.failUpload]
        | stored descriptor count owned within stores =>
            have session := stores.session
            have trace : after.trace = before.trace := stores.trace
            have moved : after.consumed = before.consumed + count := stores.consumed
            obtain ⟨latest, earlier, log, unanswered, finals, head, size⟩ :=
              answering.underway stage
            refine ⟨aligned, ?_, ?_⟩
            · intro notData
              rw [session] at notData
              exact absurd stage notData
            · intro _
              refine ⟨latest, earlier, by rw [trace]; exact log, unanswered, finals, ?_, ?_⟩
              · rw [moved, session, head]
                exact Nat.add_assoc _ _ _
              · rw [session]
                exact size
        | completed descriptor count owned within middle stores complete finishes =>
            subst finishes
            have trace := middle.finishUpload_trace frame descriptor
            rw [stores.trace] at trace
            refine answering.finish stage aligned ?_ (fun _ => rfl) (.inl rfl) trace
            simp [Receiver.finishUpload_session]
  · rcases step.outside receiving with passes | ⟨fileName, size, begins⟩
    · refine ⟨aligned, ?_, fun still => absurd still passes.stage⟩
      rw [step.uploads_eq receiving passes]
      exact fun _ => answering.settled receiving
    · refine ⟨aligned, ?_, ?_⟩
      · rw [begins.session]
        exact fun impossible => absurd rfl impossible
      · intro _
        refine ⟨_, _, log_begins begins, rfl, answering.settled receiving, ?_, ?_⟩
        · rw [begins.session]
          rfl
        · rw [begins.session]

theorem answering_initial (ssl : Bool) (remoteIp : Ip) (world : World) :
    Answering ((Client.initial ssl remoteIp).receiver world) := by
  refine ⟨(faithful_initial ssl remoteIp world).aligned, ?_, ?_⟩
  · intro _ upload impossible
    cases impossible
  · intro impossible
    cases impossible

theorem answering_of_run {startup : Startup} {inputs : List Input} {conn : Nat} {client : Client}
    (present : (Daemon.run startup inputs).clients conn = some client) (world : World) :
    Answering (client.receiver world) := by
  refine Daemon.clients_keep answering_kept answering_initial ?_ startup inputs conn client present
    world
  rintro receiver world ⟨⟨consumed, view, lines⟩, settled, underway⟩
  exact ⟨⟨consumed, view, lines⟩, settled, underway⟩

/-- Answers are complete exactly when payload of the upload under way is still to come. -/
theorem Answering.answered_iff {receiver : Receiver} (answering : Answering receiver)
    (within : receiver.session.stage = .data →
      receiver.session.receivedBytes ≤ receiver.session.expectedBytes) :
    Answered receiver ↔ (receiver.session.stage = .data → receiver.bufSize < receiver.missing) := by
  have size := answering.aligned.bufSize
  have reached : receiver.session.stage = .data → ∀ latest : UploadAnswers,
      receiver.consumed = latest.start + receiver.session.receivedBytes →
      latest.size = receiver.session.expectedBytes →
      (receiver.stream.length < latest.start + latest.size ↔
        receiver.bufSize < receiver.missing) := by
    intro stage latest head expected
    have below := within stage
    unfold Receiver.missing
    omega
  constructor
  · intro answered stage
    obtain ⟨latest, earlier, log, _, _, head, expected⟩ := answering.underway stage
    obtain ⟨other, others, same, behind⟩ := answered.back stage
    rw [log] at same
    obtain ⟨rfl, _⟩ := List.cons.inj same
    exact (reached stage latest head expected).mp behind
  · intro waits
    by_cases stage : receiver.session.stage = .data
    · obtain ⟨latest, earlier, log, _, finals, head, expected⟩ := answering.underway stage
      have behind := (reached stage latest head expected).mpr (waits stage)
      refine ⟨?_, fun _ => ⟨latest, earlier, by rw [log], behind⟩⟩
      intro upload member whole
      rw [log] at member
      rcases List.mem_cons.mp member with rfl | old
      · omega
      · exact finals upload old
    · exact ⟨fun upload member _ => answering.settled stage upload member,
        fun receiving => absurd receiving stage⟩

/-! ## Enough is written -/

/-- Every call of the data handler that finds all of the missing payload in the buffer writes all of
it, unless `write` fails. -/
def Daemon.WritesSuffice (daemon : Daemon) (input : Input) : Prop :=
  ∀ env last, daemon.CallsData input env last → last.missing ≤ last.bufSize →
    (env.data last.calls.data).write = none ∨
      ∃ count, (env.data last.calls.data).write = some count ∧ last.missing ≤ count

theorem Receiver.Stores.bufSize {descriptor count : Nat} {before after : Receiver}
    (stores : Receiver.Stores descriptor count before after) :
    after.bufSize = before.bufSize - count := by
  have lengths := congrArg List.length stores.2.1
  simpa [Receiver.bufSize] using lengths

theorem Receiver.Stores.missing {descriptor count : Nat} {before after : Receiver}
    (stores : Receiver.Stores descriptor count before after) :
    after.missing = before.missing - count := by
  simp only [Receiver.missing, stores.session]
  omega

section Call

variable {env : Env} {last after : Receiver}

theorem Waiting.missing_pos {receiver : Receiver} (waiting : Waiting receiver)
    (stage : receiver.session.stage = .data) : 0 < receiver.missing := by
  have incomplete := waiting.incomplete stage
  unfold Receiver.missing
  omega

/-- The data handler of a waiting session has something to do. -/
theorem Waiting.busy {receiver : Receiver} (waiting : Waiting receiver)
    (stage : receiver.session.stage = .data) (buffered : receiver.bufSize ≠ 0) :
    ¬ (receiver.session.fileFd = none ∨ receiver.bufSize = 0) := by
  rintro (released | empty)
  · exact waiting.consistent.stage.mp stage released
  · exact buffered empty

/-- A call of the data handler that writes enough leaves the data stage, or the buffer short of the
missing payload. -/
theorem Waiting.short_of_suffices (waiting : Waiting last) (stage : last.session.stage = .data)
    (buffered : last.bufSize ≠ 0)
    (enough : last.missing ≤ last.bufSize → (env.data last.calls.data).write = none ∨
      ∃ count, (env.data last.calls.data).write = some count ∧ last.missing ≤ count)
    (returned : last.fileData env = .returned after) (still : after.session.stage = .data) :
    after.bufSize < after.missing := by
  have positive := waiting.missing_pos stage
  obtain ⟨descriptor, owned⟩ := Option.ne_none_iff_exists'.mp (waiting.consistent.stage.mp stage)
  cases Receiver.handleFileData_returned returned with
  | idle same nothing => exact absurd nothing (waiting.busy stage buffered)
  | failed other isOwned refused fails =>
      rw [fails] at still
      cases still
  | completed other isOwned middle stores complete finishes =>
      rw [finishes, Receiver.finishUpload_session] at still
      cases still
  | stored other isOwned stores incomplete =>
      have size : after.bufSize = last.bufSize - _ := stores.bufSize
      have rest : after.missing = last.missing - _ := stores.missing
      have more : 0 < after.missing := by
        unfold Receiver.missing
        omega
      have takes : (env.data last.calls.data).takes last =
          min ((env.data last.calls.data).write.getD 0) (min last.bufSize last.missing) := rfl
      have counted : ∀ calls, (env.data last.calls.data).takes { last with calls } =
          (env.data last.calls.data).takes last := fun _ => rfl
      rw [counted] at size rest
      by_contra covered
      rcases enough (by omega) with refused | ⟨count, wrote, covers⟩
      · have fails : last.fileData env = _ := @Receiver.handleFileData_refused
          (env.data last.calls.data)
          { last with calls := { last.calls with data := last.calls.data + 1 } } descriptor owned
          buffered (Nat.pos_iff_ne_zero.mp positive) refused
        rw [fails] at returned
        rw [← Outcome.returned.inj returned] at still
        cases still
      · rw [wrote, Option.getD_some] at takes
        omega

/-- A call of the data handler that could have ended the upload and wrote too little leaves all of
the missing payload in the buffer. -/
theorem Waiting.stuck (waiting : Waiting last) (stage : last.session.stage = .data)
    (buffered : last.bufSize ≠ 0) (covered : last.missing ≤ last.bufSize) {count : Nat}
    (wrote : (env.data last.calls.data).write = some count) (few : count < last.missing)
    (returned : last.fileData env = .returned after) :
    after.session.stage = .data ∧ after.missing ≤ after.bufSize := by
  have takes : (env.data last.calls.data).takes last = count := by
    rw [DataFrame.takes, wrote, Option.getD_some]
    omega
  have counted : ∀ calls, (env.data last.calls.data).takes { last with calls } = count :=
    fun _ => takes
  cases Receiver.handleFileData_returned returned with
  | idle same nothing => exact absurd nothing (waiting.busy stage buffered)
  | failed other isOwned refused fails =>
      rw [wrote] at refused
      cases refused
  | completed other isOwned middle stores complete finishes =>
      have rest : middle.missing = last.missing - _ := stores.missing
      rw [counted] at rest
      unfold Receiver.missing at rest few
      omega
  | stored other isOwned stores incomplete =>
      have size : after.bufSize = last.bufSize - _ := stores.bufSize
      have rest : after.missing = last.missing - _ := stores.missing
      rw [counted] at size rest
      refine ⟨?_, by omega⟩
      rw [stores.session]
      exact stage

end Call

/-- A session that waits, and does not have all of the missing payload in its buffer. -/
def Hungry (receiver : Receiver) : Prop :=
  Waiting receiver ∧ (receiver.session.stage = .data → receiver.bufSize < receiver.missing)

theorem Hungry.onData {env : Env} {chunk : Bytes} {receiver : Receiver} (hungry : Hungry receiver)
    (returns : ∀ last, Receiver.DataCall env chunk receiver last → (last.fileData env).Returns)
    (enough : ∀ last, Receiver.DataCall env chunk receiver last → last.missing ≤ last.bufSize →
      (env.data last.calls.data).write = none ∨
        ∃ count, (env.data last.calls.data).write = some count ∧ last.missing ≤ count) :
    Hungry (receiver.onData env chunk).state := by
  have waiting := hungry.1.onData returns
  refine ⟨waiting, ?_⟩
  intro stage
  have positive := waiting.missing_pos stage
  rcases (receiver.onData_delivered env chunk).of_data stage with
      closed | empty | ⟨last, call, same⟩
  · have released := waiting.consistent.closed closed
    exact absurd released (waiting.consistent.stage.mp stage)
  · omega
  · have before := hungry.1.called call
    obtain ⟨after, returned⟩ := returns last call
    rw [same, returned, Outcome.state_returned] at stage ⊢
    exact before.short_of_suffices call.stage call.buffered (enough last call) returned stage

theorem hungry_of_run {startup : Startup} {inputs : List Input}
    (returns : Daemon.Along Daemon.DataReturns startup inputs)
    (writes : Daemon.Along Daemon.WritesSuffice startup inputs) :
    ∀ conn client, (Daemon.run startup inputs).clients conn = some client →
      ∀ world, Hungry (client.receiver world) := by
  have both : Daemon.Along (fun daemon input => daemon.DataReturns input ∧
      daemon.WritesSuffice input) startup inputs := fun earlier input later split =>
    ⟨returns earlier input later split, writes earlier input later split⟩
  refine Daemon.clients_along ?_ ?_ ?_ startup inputs both
  · intro ssl remoteIp world
    refine ⟨waiting_initial ssl remoteIp world, ?_⟩
    intro impossible
    cases impossible
  · rintro receiver world ⟨waiting, short⟩
    exact ⟨Waiting.anywhere receiver world waiting, short⟩
  · rintro daemon conn client chunk env running slot connected ⟨returns, writes⟩ hungry
    have called : ∀ last, Receiver.DataCall env chunk (client.receiver daemon.world) last →
        daemon.CallsData (.data conn chunk env) env last := fun last call =>
      ⟨running, conn, chunk, client, rfl, slot, connected, call⟩
    exact hungry.onData (fun last call => returns env last (called last call))
      (fun last call => writes env last (called last call))

/-- In every run in which the publish calls return: every upload whose payload was delivered in full
has exactly one final answer, in every state reached, if and only if no `write` stops short of the
missing payload when all of it is buffered. -/
theorem final_answers_iff (startup : Startup) (inputs : List Input)
    (publishes : Daemon.Along Daemon.PublishReturns startup inputs) :
    (∀ earlier later conn client, inputs = earlier ++ later →
      (Daemon.run startup earlier).clients conn = some client →
      Answered (client.receiver (Daemon.run startup earlier).world)) ↔
    Daemon.Along Daemon.WritesSuffice startup inputs := by
  have returns := returns_iff_publishes.mpr publishes
  have short_iff : ∀ {earlier later conn client}, inputs = earlier ++ later →
      (Daemon.run startup earlier).clients conn = some client → ∀ world,
      (Answered (client.receiver world) ↔ ((client.receiver world).session.stage = .data →
        (client.receiver world).bufSize < (client.receiver world).missing)) := by
    intro earlier later conn client split present world
    have waiting := waiting_of_returns (returns.front split) conn client present world
    exact (answering_of_run present world).answered_iff fun stage =>
      (waiting.consistent.bounded stage).1
  constructor
  · intro answered earlier input later split env last called covered
    obtain ⟨after, returned⟩ := returns earlier input later split env last called
    obtain ⟨running, conn, chunk, client, rfl, slot, connected, call⟩ := called
    have waiting := waiting_of_returns (returns.front split) conn client slot
      (Daemon.run startup earlier).world
    have before := waiting.called call
    cases wrote : (env.data last.calls.data).write with
    | none => exact .inl rfl
    | some count =>
        refine .inr ⟨count, rfl, ?_⟩
        by_contra few
        obtain ⟨stage, stuck⟩ :=
          before.stuck call.stage call.buffered covered wrote (not_le.mp few) returned
        have present : (Daemon.run startup (earlier ++ [.data conn chunk env])).clients conn =
            some after.client := by
          rw [Daemon.run_append, Daemon.step_data running slot connected, Daemon.deliver_clients,
            Function.update_self, call.onData, returned, Outcome.state_returned]
        have behind : inputs = (earlier ++ [.data conn chunk env]) ++ later := by
          rw [split]
          simp
        have short := (short_iff behind present _).mp (answered _ later conn _ behind present) stage
        exact absurd stuck (not_le.mpr short)
  · intro writes earlier later conn client split present
    exact (short_iff split present _).mpr
      (hungry_of_run (returns.front split) (writes.front split) conn client present _).2

/-- The request line and all five bytes in one chunk; `write` takes two. -/
def wholeUpload : List Input :=
  [.connect 0 false [1], .data 0 (ascii "123456\nFILE_START:f:5\nabcde") .shortUnpublished]

theorem wholeUpload_env {conn : Nat} {chunk : Bytes} {env : Env}
    (member : .data conn chunk env ∈ wholeUpload) : env = .shortUnpublished := by
  simp only [wholeUpload, List.mem_cons, Input.data.injEq, reduceCtorEq, false_or,
    List.not_mem_nil, or_false] at member
  exact member.2.2

theorem wholeUpload_publishes :
    Daemon.Along Daemon.PublishReturns (.fresh (ascii "123456")) wholeUpload := by
  apply Daemon.publishReturns_of_unopened
  intro conn chunk env member index
  rw [wholeUpload_env member]
  exact ⟨rfl, rfl⟩

theorem wholeUpload_unanswered : ∃ client,
    (Daemon.run (.fresh (ascii "123456")) wholeUpload).clients 0 = some client ∧
      ∀ world, ¬ Answered (client.receiver world) := by
  let client :=
    ((Daemon.run (.fresh (ascii "123456")) wholeUpload).clients 0).getD (.initial false [])
  have uploads : (AnswerLog.entries client.trace).uploads =
      [{ start := 22, size := 5, answers := [] }] :=
    rfl
  refine ⟨client, rfl, ?_⟩
  intro world answered
  obtain ⟨latest, earlier, same, short⟩ := answered.back rfl
  have cut : [{ start := 22, size := 5, answers := [] }] = latest :: earlier :=
    uploads.symm.trans same
  obtain ⟨rfl, _⟩ := List.cons.inj cut
  have length : client.stream.length = 27 := rfl
  have behind : client.stream.length < 22 + 5 := short
  omega

theorem final_answers_iff_short :
    ¬ Daemon.Along Daemon.WritesSuffice (.fresh (ascii "123456")) wholeUpload := by
  intro writes
  obtain ⟨client, present, unanswered⟩ := wholeUpload_unanswered
  exact unanswered _ ((final_answers_iff _ wholeUpload wholeUpload_publishes).mpr writes wholeUpload
    [] 0 client (List.append_nil _).symm present)

/-- A client that has sent its whole file can be left without an answer. -/
theorem final_answers_missing :
    ¬ ∀ startup inputs, Daemon.Along Daemon.PublishReturns startup inputs →
      (∀ conn chunk env, .data conn chunk env ∈ inputs → ∀ index,
        (env.data index).write ≠ some 0) →
      ∀ conn client, (Daemon.run startup inputs).clients conn = some client →
        Answered (client.receiver (Daemon.run startup inputs).world) := by
  intro always
  obtain ⟨client, present, unanswered⟩ := wholeUpload_unanswered
  refine unanswered _ (always _ wholeUpload wholeUpload_publishes ?_ 0 client present)
  intro conn chunk env member index
  rw [wholeUpload_env member]
  simp [Env.shortUnpublished, Env.short]

end TitanShare
