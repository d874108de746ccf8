import TitanShare.PushFraming
import TitanShare.ReplyLines

/-!
# Requests and their answers

Requests are served one after the other.  What is sent between two request lines answers the first
of them: one reply, two for an upload, none for an input command.  So a client that sends many lines
at once knows which of them each reply belongs to.
-/

namespace TitanShare

open ByteText

/-- What a client expects of a request line. -/
inductive RequestKind
  | upload
  /-- An input command, which is not answered. -/
  | input
  | list
  | push
  | command
  | unknown
  deriving DecidableEq

def requestKind (line : Bytes) : RequestKind :=
  if line.take 4 = ascii "CMD:" then
    let cmd := commandOf line
    if cmd = ascii "push_file_list" then .list
    else if 10 < cmd.length ∧ cmd.take 10 = ascii "push_file:" then .push
    else if CommandDispatcher.isInputCommand cmd then .input
    else .command
  else if line.take 11 = ascii "FILE_START:" then .upload
  else .unknown

/-- A request line, and the replies up to the next one. -/
structure Exchange where
  line : Bytes
  replies : List Reply
  deriving DecidableEq

/-- The replies are those that the request line asks for. -/
def Exchange.Complete (exchange : Exchange) : Prop :=
  match requestKind exchange.line with
  | .upload => exchange.replies = [.cmdFail] ∨ exchange.replies = [.readyForFile, .fileOk] ∨
      exchange.replies = [.readyForFile, .cmdFail]
  | .input => exchange.replies = [] ∨ exchange.replies = [.dispatched cmdFail]
  | .list => ∃ listing, exchange.replies = [.fileList listing]
  | .push => ∃ reply, exchange.replies = [reply] ∧
      (reply = .fileNotFound ∨ reply = .emptyFile ∨ reply = .cannotOpen ∨
        ∃ size, reply = .filePush (requestedName exchange.line) size)
  | .command => ∃ response, exchange.replies = [.dispatched response] ∧ response ≠ []
  | .unknown => exchange.replies = [.unknownRequest]

namespace Exchange

/-- The reply to the latest request. -/
def answer (reply : Reply) : List Exchange → List Exchange
  | [] => []
  | latest :: earlier => { latest with replies := latest.replies ++ [reply] } :: earlier

def note (log : List Exchange) : Event → List Exchange
  | .headerLine _ _ line => ⟨line, []⟩ :: log
  | .reply reply => answer reply log
  | _ => log

/-- The exchanges of a history, the latest first. -/
def log (trace : List Event) : List Exchange :=
  trace.foldl note []

theorem log_append (trace added : List Event) :
    log (trace ++ added) = added.foldl note (log trace) := by
  rw [log, List.foldl_append]
  rfl

@[simp]
theorem tail_answer (reply : Reply) (log : List Exchange) : (answer reply log).tail = log.tail := by
  cases log with
  | nil => rfl
  | cons latest earlier => rfl

/-- Without a new request line the earlier exchanges stay as they are. -/
theorem tail_log {trace later : List Event}
    (extended : Trace.Extends (fun event => event.kind ≠ .line) trace later) :
    (log later).tail = (log trace).tail := by
  obtain ⟨added, rfl, kinds⟩ := extended
  rw [log_append]
  generalize log trace = before
  induction added generalizing before with
  | nil => rfl
  | cons event rest ih =>
      have here := kinds event List.mem_cons_self
      rw [List.foldl_cons, ih fun other member => kinds other (List.mem_cons_of_mem _ member)]
      cases event with
      | headerLine start stop line => exact absurd rfl here
      | reply reply => exact tail_answer reply before
      | _ => rfl

/-- An event that takes part in no exchange. -/
def apart : Event → Bool
  | .headerLine _ _ _ | .reply _ => false
  | _ => true

theorem foldl_apart {events : List Event} (others : ∀ event ∈ events, apart event = true)
    (before : List Exchange) : events.foldl note before = before := by
  induction events generalizing before with
  | nil => rfl
  | cons event rest ih =>
      have here := others event List.mem_cons_self
      rw [List.foldl_cons, ih fun other member => others other (List.mem_cons_of_mem _ member)]
      cases event with
      | headerLine start stop line => cases here
      | reply reply => cases here
      | _ => rfl

/-- One reply among other events. -/
theorem log_reply {trace front back : List Event} {line : Bytes} {replies : List Reply}
    {earlier : List Exchange} {reply : Reply} (opened : log trace = ⟨line, replies⟩ :: earlier)
    (before : ∀ event ∈ front, apart event = true) (behind : ∀ event ∈ back, apart event = true) :
    log (trace ++ (front ++ .reply reply :: back)) = ⟨line, replies ++ [reply]⟩ :: earlier := by
  rw [log_append, List.foldl_append, foldl_apart before, List.foldl_cons,
    foldl_apart behind, opened]
  rfl

/-! ## Requests -/

variable {context after : Context} {line : Bytes} {replies : List Reply} {earlier : List Exchange}

theorem log_sendResponse (opened : log context.trace = ⟨line, replies⟩ :: earlier)
    (sends : List SendResult) (reply : Reply) :
    log (context.sendResponse sends reply).trace = ⟨line, replies ++ [reply]⟩ :: earlier :=
  @log_reply _ [] _ line replies earlier reply opened (by simp) (by simp [apart])

theorem log_emit (opened : log context.trace = ⟨line, replies⟩ :: earlier) {events : List Event}
    (others : ∀ event ∈ events, apart event = true) :
    log (context.emit events).trace = ⟨line, replies⟩ :: earlier := by
  rw [Context.emit_trace, log_append, foldl_apart others, opened]

/-- How a request line is answered before the next line is read. -/
inductive Served (line : Bytes) (before after : Context) (earlier : List Exchange) : Prop
  | answered (replies : List Reply) (log : log after.trace = ⟨line, replies⟩ :: earlier)
      (complete : Complete ⟨line, replies⟩) (stage : after.session.stage = before.session.stage)
  | accepted (log : log after.trace = ⟨line, [.readyForFile]⟩ :: earlier)
      (kind : requestKind line = .upload) (stage : after.session.stage = .data)

theorem served_list (opened : log context.trace = ⟨line, []⟩ :: earlier)
    (kind : requestKind line = .list) {frame : HeaderFrame}
    (returned : pushFileList frame context = .returned after) :
    Served line context after earlier := by
  have started : log (context.emit [.pushFileList]).trace = ⟨line, []⟩ :: earlier :=
    log_emit opened (by simp [apart])
  simp only [pushFileList] at returned
  split at returned
  · cases returned
  · rename_i listing dumped
    obtain rfl := Outcome.returned.inj returned
    refine .answered [.fileList listing] (log_sendResponse started _ _) ?_ rfl
    rw [Complete, kind]
    exact ⟨listing, rfl⟩

theorem served_push (opened : log context.trace = ⟨line, []⟩ :: earlier)
    (kind : requestKind line = .push) {frame : HeaderFrame}
    (returned : pushFile frame ((commandOf line).drop 10) context = .returned after) :
    Served line context after earlier := by
  have started : log (context.emit [.pushFile ((commandOf line).drop 10)]).trace =
      ⟨line, []⟩ :: earlier := log_emit opened (by simp [apart])
  cases pushFile_exit frame ((commandOf line).drop 10) context with
  | threw exception missing same =>
      rw [same] at returned
      cases returned
  | refused reply refusal missing same =>
      rw [same] at returned
      obtain rfl := Outcome.returned.inj returned
      refine .answered [reply] (log_sendResponse started _ _) ?_ rfl
      rw [Complete, kind]
      exact ⟨reply, rfl, by tauto⟩
  | streamed size offers same =>
      rw [same] at returned
      let name := baseName ((commandOf line).drop 10)
      have promised : log (frame.promised ((commandOf line).drop 10) size context).trace =
          ⟨line, [.filePush name size]⟩ :: earlier :=
        log_sendResponse (log_emit started (by simp [apart])) _ _
      obtain ⟨blocks, trace⟩ := streamFile_pushes frame.push.finish name size frame.push.chunks 0
        true (frame.promised ((commandOf line).drop 10) size context)
      have session := (streamFile_emits frame.push.finish name size frame.push.chunks 0 true
        (frame.promised ((commandOf line).drop 10) size context)).session
      rw [returned, Outcome.state_returned] at trace session
      refine .answered [.filePush name size] ?_ ?_ ?_
      · rw [trace, log_append, foldl_apart (by simp [apart]), promised]
      · rw [Complete, kind]
        exact ⟨_, rfl, .inr (.inr (.inr ⟨size, rfl⟩))⟩
      · rw [session]
        rfl

theorem served_command (opened : log context.trace = ⟨line, []⟩ :: earlier)
    (kind : requestKind line =
      if CommandDispatcher.isInputCommand (commandOf line) then .input else .command)
    {frame : HeaderFrame}
    (returned : runCommand frame (commandOf line) context = .returned after) :
    Served line context after earlier := by
  have acted : ∀ actions : List Action,
      log (context.emit (.dispatch (commandOf line) :: actions.map Event.act)).trace =
        ⟨line, []⟩ :: earlier := by
    intro actions
    refine log_emit opened ?_
    simp [apart]
  simp only [runCommand] at returned
  split at returned
  · cases returned
  · rename_i response replied
    obtain rfl := Outcome.returned.inj returned
    split
    · rename_i nothing
      refine .answered [] (acted _) ?_ rfl
      rw [Complete, kind]
      cases input : CommandDispatcher.isInputCommand (commandOf line) with
      | true => exact .inl rfl
      | false =>
          obtain ⟨body, shape, _⟩ := CommandDispatcher.lined_dispatch frame.command input response
            replied
          rw [nothing] at shape
          simp at shape
    · rename_i something
      refine .answered [.dispatched response] (log_sendResponse (acted _) _ _) ?_ rfl
      rw [Complete, kind]
      cases input : CommandDispatcher.isInputCommand (commandOf line) with
      | false => exact ⟨response, rfl, something⟩
      | true =>
          rw [CommandDispatcher.dispatch_input frame.command input] at replied
          rw [(CommandDispatcher.input_reply replied).resolve_left something]
          exact .inr rfl

theorem served_upload (opened : log context.trace = ⟨line, []⟩ :: earlier)
    (kind : requestKind line = .upload) {frame : HeaderFrame}
    (returned : fileStart frame line context = .returned after) :
    Served line context after earlier := by
  cases fileStart_exit frame line context with
  | threw fileName colon size allows missing same =>
      rw [same] at returned
      cases returned
  | refused fileName expectedBytes fileFd released refusal same =>
      rw [same] at returned
      obtain rfl := Outcome.returned.inj returned
      refine .answered [.cmdFail] (log_sendResponse opened _ _) ?_ rfl
      rw [Complete, kind]
      exact .inl rfl
  | begun colon size allows created opens same =>
      rw [same] at returned
      obtain rfl := Outcome.returned.inj returned
      refine .accepted ?_ kind rfl
      rw [Context.beginUpload_trace]
      exact @log_reply _ [_] [_] line [] earlier .readyForFile opened (by simp [apart])
        (by simp [apart])

/-- A request line that is worked on to its end is answered, or it begins an upload. -/
theorem served_request (opened : log context.trace = ⟨line, []⟩ :: earlier) {frame : HeaderFrame}
    (returned : handleHeader frame line context = .returned after) :
    Served line context after earlier := by
  simp only [handleHeader] at returned
  split at returned
  · rename_i isCommand
    split at returned
    · rename_i listing
      exact served_list opened (by simp [requestKind, isCommand, listing]) returned
    · rename_i notListing
      split at returned
      · rename_i pushing
        exact served_push opened (by simp [requestKind, isCommand, notListing, pushing]) returned
      · rename_i notPushing
        exact served_command opened (by simp [requestKind, isCommand, notListing, notPushing])
          returned
  · rename_i notCommand
    split at returned
    · rename_i uploading
      exact served_upload opened (by simp [requestKind, notCommand, uploading]) returned
    · rename_i notUploading
      obtain rfl := Outcome.returned.inj returned
      refine .answered [.unknownRequest] (log_sendResponse opened _ _) ?_ rfl
      have kind : requestKind line = .unknown := by simp [requestKind, notCommand, notUploading]
      rw [Complete, kind]

/-! ## Sessions -/

/-- Every request but the one under way is answered. -/
structure InStep (receiver : Receiver) : Prop where
  settled : ∀ exchange ∈ (log receiver.trace).tail, exchange.Complete
  waits : receiver.session.stage = .header → ∀ exchange ∈ log receiver.trace, exchange.Complete
  receives : receiver.session.stage = .data → ∃ line earlier,
    log receiver.trace = ⟨line, [.readyForFile]⟩ :: earlier ∧ requestKind line = .upload
  stranger : receiver.session.stage = .auth → log receiver.trace = []

theorem log_auth {frame : AuthFrame} {before after : Context}
    (step : AuthStep frame line before after) (stage : before.session.stage = .auth)
    (empty : log before.trace = []) : log after.trace = [] ∧ after.session.stage ≠ .data := by
  cases step with
  | blocked isBlocked world session sent trace =>
      rw [trace, log_append, empty, session]
      exact ⟨rfl, by simp [stage]⟩
  | accepted unblocked guessed isFree isValid world session member sent trace =>
      rw [trace, log_append, empty, session]
      exact ⟨rfl, by simp⟩
  | refused unblocked guessed isFree isWrong world closed closes session window sent trace =>
      rw [trace, log_append, log_append, empty, session]
      refine ⟨?_, by simp [stage]⟩
      cases closed with
      | true => rfl
      | false => rfl

/-- An upload ends with its last reply. -/
theorem InStep.finish {before after : Receiver} (inStep : InStep before)
    (stage : before.session.stage = .data) {ends : Event} {reply : Reply} {sent : Bytes}
    (other : apart ends = true) (final : reply = .fileOk ∨ reply = .cmdFail)
    (trace : after.trace = before.trace ++ [ends, .reply reply, .sent sent])
    (leaves : after.session.stage = .header) : InStep after := by
  obtain ⟨line, earlier, latest, kind⟩ := inStep.receives stage
  have ended : log after.trace = ⟨line, [.readyForFile, reply]⟩ :: earlier := by
    rw [trace]
    exact @log_reply _ [ends] [.sent sent] line _ earlier reply latest (by simp [other])
      (by simp [apart])
  have complete : Complete ⟨line, [.readyForFile, reply]⟩ := by
    rw [Complete, kind]
    rcases final with rfl | rfl
    · exact .inr (.inl rfl)
    · exact .inr (.inr rfl)
  have older := inStep.settled
  rw [latest] at older
  refine ⟨?_, fun _ => ?_, fun data => ?_, fun auth => ?_⟩
  · rw [ended]
    exact older
  · rw [ended]
    exact List.forall_mem_cons.mpr ⟨complete, older⟩
  · rw [leaves] at data
    cases data
  · rw [leaves] at auth
    cases auth

theorem InStep.data {frame : DataFrame} {before after : Receiver} (inStep : InStep before)
    (stage : before.session.stage = .data) (step : Receiver.DataStep frame before after) :
    InStep after := by
  cases step with
  | idle same =>
      rw [same]
      exact inStep
  | failed descriptor owned refused fails =>
      subst fails
      exact inStep.finish stage rfl (.inr rfl) (Receiver.failWrite_trace _ _ _ _)
        (by simp [Receiver.failWrite, Receiver.failUpload])
  | stored descriptor count owned within stores =>
      have session := stores.session
      have trace : after.trace = before.trace := stores.trace
      refine ⟨?_, ?_, ?_, ?_⟩
      · rw [trace]
        exact inStep.settled
      · rw [trace, session]
        exact inStep.waits
      · rw [trace, session]
        exact inStep.receives
      · rw [trace, session]
        exact inStep.stranger
  | completed descriptor count owned within middle stores complete finishes =>
      subst finishes
      have trace := middle.finishUpload_trace frame descriptor
      rw [stores.trace] at trace
      exact inStep.finish stage rfl (.inl rfl) trace (by simp [Receiver.finishUpload_session])

theorem InStep.step {before after : Receiver} (inStep : InStep before)
    (step : Receiver.Step before after) (stage : before.session.stage ≠ .header) :
    InStep after := by
  cases step with
  | receive chunk isOpen receives =>
      rw [receives]
      exact ⟨inStep.settled, inStep.waits, inStep.receives, inStep.stranger⟩
  | overflow isOpen authStage aborts =>
      have empty : log after.trace = [] := by
        rw [aborts]
        change log (before.trace ++ [.closeSocket]) = []
        rw [log_append, inStep.stranger authStage]
        rfl
      have still : after.session.stage = .auth := by
        rw [aborts]
        exact authStage
      refine ⟨by simp [empty], by simp [empty], fun data => ?_, fun _ => empty⟩
      rw [still] at data
      cases data
  | auth raw rest frame isOpen authStage view absent handles consumed files unread stream =>
      obtain ⟨empty, outside⟩ := log_auth handles authStage (inStep.stranger authStage)
      exact ⟨by simp [empty], by simp [empty], fun data => absurd data outside, fun _ => empty⟩
  | header raw rest frame isOpen headerStage view absent stop consumed handles unread stream =>
      exact absurd headerStage stage
  | data frame calls isOpen dataStage handles =>
      have counted : InStep { before with calls } :=
        ⟨inStep.settled, inStep.waits, inStep.receives, inStep.stranger⟩
      exact counted.data dataStage handles

/-- A request line is taken up when everything before it is answered. -/
theorem InStep.requests {before : Receiver} {outcome : Outcome Exception Context}
    (inStep : InStep before) (requests : before.Requests outcome) :
    (∀ exchange ∈ (log outcome.state.trace).tail, exchange.Complete) ∧
      ∀ after, outcome = .returned after → ∃ line taken, taken.session = before.session ∧
        Served line taken after (log before.trace) := by
  obtain ⟨raw, frame, stop, handled⟩ := requests.handled
  let line := Receiver.stripReturn raw
  let taken := ({ before.toContext with consumed := stop }).emit
    [.headerLine before.consumed stop line]
  have opened : log taken.trace = ⟨line, []⟩ :: log before.trace := by
    rw [Context.emit_trace, log_append]
    rfl
  have settled := inStep.waits requests.stage
  rw [handled]
  refine ⟨?_, ?_⟩
  · have other : ∀ event : Event,
        event.kind = .request ∨ event.kind = .upload ∨ event.kind = .answer →
          event.kind ≠ .line := by
      rintro event (kind | kind | kind)
      · simp [kind]
      · simp [kind]
      · simp [kind]
    rw [tail_log ((handleHeader_step frame line taken).kinds.mono other), opened]
    exact settled
  · intro after returned
    exact ⟨line, taken, rfl, served_request opened returned⟩

theorem Served.inStep {line : Bytes} {before : Context} {after : Receiver}
    {earlier : List Exchange} (served : Served line before after.toContext earlier)
    (settled : ∀ exchange ∈ earlier, exchange.Complete) (stage : before.session.stage = .header) :
    InStep after := by
  cases served with
  | answered replies log complete same =>
      rw [stage] at same
      refine ⟨?_, fun _ => ?_, fun data => ?_, fun auth => ?_⟩
      · rw [log]
        exact settled
      · rw [log]
        exact List.forall_mem_cons.mpr ⟨complete, settled⟩
      · rw [same] at data
        cases data
      · rw [same] at auth
        cases auth
  | accepted log kind data =>
      refine ⟨?_, fun header => ?_, fun _ => ⟨line, earlier, log, kind⟩, fun auth => ?_⟩
      · rw [log]
        exact settled
      · rw [data] at header
        cases header
      · rw [data] at auth
        cases auth

theorem inStep_survives : Receiver.Survives InStep := by
  intro before after inStep proceeds
  cases proceeds with
  | step step stage => exact inStep.step step stage
  | receive chunk receives =>
      rw [receives]
      exact ⟨inStep.settled, inStep.waits, inStep.receives, inStep.stranger⟩
  | request requests =>
      obtain ⟨line, taken, session, served⟩ := (inStep.requests requests).2 _ rfl
      exact served.inStep (inStep.waits requests.stage) (by rw [session]; exact requests.stage)

theorem settled_breaks {receiver : Receiver} (breaks : Receiver.Breaks InStep receiver) :
    ∀ exchange ∈ (log receiver.trace).tail, exchange.Complete := by
  cases breaks with
  | request inStep requests => exact (inStep.requests requests).1
  | @data before frame calls inStep isOpen stage handles =>
      have counted : InStep { before with calls } :=
        ⟨inStep.settled, inStep.waits, inStep.receives, inStep.stranger⟩
      exact (counted.data stage handles).settled

/-- In every run, every request line but the last one of a session has got exactly the replies it
asks for before the next line is worked on, and the last one too, as soon as the session waits for
requests again. -/
theorem requests_answered_in_turn (startup : Startup) (inputs : List Input) (conn : Nat)
    (client : Client) (present : (Daemon.run startup inputs).clients conn = some client) :
    (∀ exchange ∈ (log client.trace).tail, exchange.Complete) ∧
      ((Daemon.run startup inputs).crashed = false → client.session.stage = .header →
        ∀ exchange ∈ log client.trace, exchange.Complete) := by
  have initial : ∀ ssl remoteIp world, InStep ((Client.initial ssl remoteIp).receiver world) :=
    fun _ _ _ => ⟨nofun, fun _ => nofun, nofun, fun _ => rfl⟩
  have run := @Daemon.run_survives InStep
    (fun receiver => ∀ exchange ∈ (log receiver.trace).tail, exchange.Complete)
    inStep_survives (fun inStep => inStep.settled) settled_breaks initial
    (fun _ _ inStep => ⟨inStep.settled, inStep.waits, inStep.receives, inStep.stranger⟩)
    (fun _ _ settled => settled) startup inputs conn client present startup.world
  exact ⟨run.1, fun running stage => (run.2 running).waits stage⟩

/-- A push and another request behind it on the same packet. -/
theorem requests_answered_in_turn_push :
    ∃ client,
      (Daemon.run (.fresh (ascii "123456")) (pushAndAsk (ascii "abcd"))).clients 0 = some client ∧
      log client.trace = [⟨ascii "x", [.unknownRequest]⟩,
        ⟨ascii "CMD:push_file:f", [.filePush (ascii "f") 4]⟩] ∧
      ∀ exchange ∈ log client.trace, exchange.Complete := by
  let daemon := Daemon.run (.fresh (ascii "123456")) (pushAndAsk (ascii "abcd"))
  let client := (daemon.clients 0).getD (.initial false [])
  have present : daemon.clients 0 = some client := rfl
  refine ⟨client, present, by decide, ?_⟩
  exact (requests_answered_in_turn (.fresh (ascii "123456")) (pushAndAsk (ascii "abcd")) 0 client
    present).2 (by decide) (by decide)

end Exchange
end TitanShare
