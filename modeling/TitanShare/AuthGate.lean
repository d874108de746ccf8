import TitanShare.Daemon
import TitanShare.Library.Trace

/-!
# The authentication gate

A session serves nobody before it has sent `AUTH_OK`, sends `AUTH_OK` only after an unblocked,
successful PIN lookup, and falls silent once its socket is closed.  Serving requests and receiving
files leaves everything authentication reads alone, so only the authentication handler has to be
looked at.
-/

namespace TitanShare

open ByteText

/-! ## Serving leaves authentication alone -/

/-- What a request handler or the data handler may do to a session, as far as authentication is
concerned. -/
structure Context.Serves (before after : Context) : Prop where
  trace : Trace.Extends (fun event => event.kind ≠ .authentication) before.trace after.trace
  closed : after.session.closed = before.session.closed
  attempts : after.session.authAttempts = before.session.authAttempts
  remoteIp : after.session.remoteIp = before.session.remoteIp
  stage : after.session.stage = before.session.stage ∨ after.session.stage ≠ .auth
  manager : after.world.manager = before.world.manager
  now : after.world.now = before.world.now
  authLog : after.world.authLog = before.world.authLog

theorem Context.Serves.trans {first second third : Context} (left : first.Serves second)
    (right : second.Serves third) : first.Serves third where
  trace := left.trace.trans right.trace
  closed := right.closed.trans left.closed
  attempts := right.attempts.trans left.attempts
  remoteIp := right.remoteIp.trans left.remoteIp
  stage := by
    rcases right.stage with same | admitted
    · rw [same]
      exact left.stage
    · exact .inr admitted
  manager := right.manager.trans left.manager
  now := right.now.trans left.now
  authLog := right.authLog.trans left.authLog

theorem Context.Emits.serves {kind : EventKind} {before after : Context}
    (emits : Context.Emits kind before after) (served : kind ≠ .authentication) :
    before.Serves after := by
  obtain ⟨added, transfer, kinds, rfl⟩ := emits
  refine ⟨⟨added, rfl, ?_⟩, rfl, rfl, rfl, .inl rfl, rfl, rfl, rfl⟩
  intro event member
  rw [kinds event member]
  exact served

theorem HeaderStep.serves {frame : HeaderFrame} {line : Bytes} {before after : Context}
    (step : HeaderStep frame line before after) : before.Serves after := by
  cases step with
  | request opener kind answers =>
      have opens : Context.Emits .request before (before.emit [opener]) :=
        Context.emits_emit before (by simpa using kind)
      exact (opens.serves (by decide)).trans (answers.serves (by decide))
  | refusal fileName expectedBytes fileFd released answers =>
      have renamed : before.Serves
          { before with session := { before.session with fileName, expectedBytes, fileFd } } :=
        ⟨.refl _, rfl, rfl, rfl, .inl rfl, rfl, rfl, rfl⟩
      exact renamed.trans (answers.serves (by decide))
  | upload fileName expectedBytes declares positive bounded begins =>
      subst begins
      refine ⟨⟨_, Context.beginUpload_trace _ _, ?_⟩, rfl, rfl, rfl, .inr ?_, rfl, rfl, rfl⟩
      · simp [Event.kind]
      · simp [Context.beginUpload]

theorem Receiver.Stores.serves {descriptor count : Nat} {before after : Receiver}
    (stores : Receiver.Stores descriptor count before after) :
    before.toContext.Serves after.toContext := by
  obtain ⟨⟨transfer, context⟩, _⟩ := stores
  rw [context]
  exact ⟨.refl _, rfl, rfl, rfl, .inl rfl, rfl, rfl, rfl⟩

theorem Receiver.DataStep.serves {frame : DataFrame} {before after : Receiver}
    (step : Receiver.DataStep frame before after) : before.toContext.Serves after.toContext := by
  cases step with
  | idle same =>
      subst same
      exact ⟨.refl _, rfl, rfl, rfl, .inl rfl, rfl, rfl, rfl⟩
  | failed descriptor isOpen refused fails =>
      subst fails
      refine ⟨⟨_, Receiver.failWrite_trace _ _ _ _, ?_⟩, rfl, rfl, rfl, .inr ?_, rfl, rfl, rfl⟩
      · simp [Event.kind]
      · simp [Receiver.failWrite, Receiver.failUpload]
  | stored descriptor count isOpen within stores => exact stores.serves
  | completed descriptor count isOpen within middle stores complete finishes =>
      subst finishes
      refine stores.serves.trans ?_
      have finished := middle.finishUpload_session frame descriptor
      have world := middle.finishUpload_world frame descriptor
      refine ⟨⟨_, middle.finishUpload_trace frame descriptor, by simp [Event.kind]⟩, ?_, ?_, ?_,
        .inr ?_, ?_, ?_, ?_⟩
      all_goals simp [finished, world]

/-- What authentication decides only has to be proved of the authentication handler. -/
theorem Receiver.kept_of_auth {invariant : Context → Prop}
    (consuming : ∀ {context : Context} consumed, invariant context →
      invariant { context with consumed })
    (serves : ∀ {before after : Context}, invariant before → before.session.closed = false →
      before.session.stage ≠ .auth → before.Serves after → invariant after)
    (abort : ∀ {context : Context}, invariant context → context.session.closed = false →
      context.session.stage = .auth → invariant context.abort)
    (auth : ∀ {before after : Context} {frame line}, invariant before →
      before.session.closed = false → before.session.stage = .auth →
      AuthStep frame line before after → invariant after) :
    Receiver.Kept fun receiver => invariant receiver.toContext := by
  intro before after holds step
  cases step with
  | receive chunk isOpen receives =>
      rw [receives]
      exact holds
  | overflow isOpen stage aborts =>
      rw [aborts]
      exact abort holds isOpen stage
  | auth raw rest frame isOpen stage view absent handles consumed files unread stream =>
      exact auth (consuming (before.consumed + (raw.length + 1)) holds) isOpen stage handles
  | header raw rest frame isOpen stage view absent stop consumed handles unread stream =>
      have reads : before.toContext.Serves
          ({ before.toContext with consumed := stop }.emit
            [.headerLine before.consumed stop (stripReturn raw)]) := by
        refine ⟨Trace.extends_append ?_, rfl, rfl, rfl, .inl rfl, rfl, rfl, rfl⟩
        simp [Event.kind]
      exact serves holds isOpen (by rw [stage]; decide) (reads.trans handles.serves)
  | data frame calls isOpen stage handles =>
      exact serves holds isOpen (by rw [stage]; decide) handles.serves

/-! ## The gate -/

/-- An event that only an authenticated client may cause. -/
def Event.Privileged : Event → Prop
  | dispatch _ | pushFileList | pushFile _ | openUpload _ _ _ _ _ => True
  | _ => False

/-- What may happen after a history of a session. -/
def Gated (before : List Event) (event : Event) : Prop :=
  .closeSocket ∉ before ∧
    (event.Privileged → .reply .authOk ∈ before) ∧
    (∀ reply, event = .reply reply → .reply .authOk ∉ before →
      reply = .authOk ∨
        reply = .authFail ∧
          before.count (.reply .authFail) < Config.authAttemptsPerConnection ∨
        reply = .authBlocked ∧ .reply .authBlocked ∉ before)

/-- The history of a session is gated, and the session knows where it stands. -/
structure Gate (session : ClientSession) (trace : List Event) : Prop where
  gated : Trace.Justified Gated trace
  closed_iff : session.closed = true ↔ .closeSocket ∈ trace
  admitted_iff : session.stage ≠ .auth ↔ .reply .authOk ∈ trace
  attempts : session.authAttempts = trace.count (.reply .authFail)
  below : session.closed = false → session.authAttempts < Config.authAttemptsPerConnection
  unblocked : session.closed = false → .reply .authBlocked ∉ trace

/-- Behind the gate everything but authentication is allowed. -/
theorem gated_of_admitted {before : List Event} (event : Event)
    (isOpen : .closeSocket ∉ before) (admitted : .reply .authOk ∈ before) : Gated before event :=
  ⟨isOpen, fun _ => admitted, fun _ _ absent => absurd admitted absent⟩

theorem Gate.serves {before after : Context} (gate : Gate before.session before.trace)
    (isOpen : before.session.closed = false) (admitted : before.session.stage ≠ .auth)
    (step : before.Serves after) : Gate after.session after.trace := by
  have openTrace : .closeSocket ∉ before.trace := by
    rw [← gate.closed_iff, isOpen]
    simp
  have welcome : .reply .authOk ∈ before.trace := gate.admitted_iff.mp admitted
  have stillAdmitted : after.session.stage ≠ .auth := by
    rcases step.stage with same | other
    · rw [same]
      exact admitted
    · exact other
  have unchanged : ∀ event : Event, event.kind = .authentication →
      (event ∈ after.trace ↔ event ∈ before.trace) := by
    intro event kind
    exact step.trace.mem_iff (by simpa using kind)
  refine ⟨?_, ?_, ?_, ?_, ?_, ?_⟩
  · apply gate.gated.extend step.trace
    intro between event kinds kind
    refine gated_of_admitted event ?_ (List.mem_append_left _ welcome)
    rw [List.mem_append, not_or]
    exact ⟨openTrace, fun member => kinds _ member rfl⟩
  · rw [step.closed, unchanged _ rfl]
    exact gate.closed_iff
  · rw [unchanged _ rfl]
    exact iff_of_true stillAdmitted welcome
  · obtain ⟨added, extended, kinds⟩ := step.trace
    have none : added.count (.reply .authFail) = 0 :=
      List.count_eq_zero.mpr fun member => kinds _ member rfl
    rw [step.attempts, extended, List.count_append, none]
    exact gate.attempts
  · rw [step.closed, step.attempts]
    exact gate.below
  · rw [step.closed, unchanged _ rfl]
    exact gate.unblocked

/-- An event that is allowed as long as the socket is open. -/
def Event.Silent (event : Event) : Prop :=
  (∀ reply, event ≠ .reply reply) ∧ ¬ event.Privileged

theorem gated_of_silent {before : List Event} {event : Event} (isOpen : .closeSocket ∉ before)
    (silent : event.Silent) : Gated before event :=
  ⟨isOpen, fun privileged => absurd privileged silent.2,
    fun reply same => absurd same (silent.1 reply)⟩

theorem justified_silently {trace : List Event} (added : List Event)
    (justified : Trace.Justified Gated trace)
    (isOpen : .closeSocket ∉ trace)
    (silent : ∀ event ∈ added, event.Silent ∧ event ≠ .closeSocket) :
    Trace.Justified Gated (trace ++ added) := by
  apply justified.extend (Trace.extends_append silent)
  intro between event kinds kind
  refine gated_of_silent ?_ kind.1
  rw [List.mem_append, not_or]
  exact ⟨isOpen, fun member => (kinds _ member).2 rfl⟩

theorem justified_close {trace : List Event} (justified : Trace.Justified Gated trace)
    (isOpen : .closeSocket ∉ trace) : Trace.Justified Gated (trace ++ [.closeSocket]) := by
  refine Trace.justified_append_iff.mpr ⟨justified, ?_⟩
  rw [Trace.justified_cons_iff]
  refine ⟨gated_of_silent (by simpa using isOpen) ?_, Trace.justified_nil _⟩
  simp [Event.Silent, Event.Privileged]

theorem justified_reply {trace : List Event} (reply : Reply) (sent : Bytes)
    (justified : Trace.Justified Gated trace) (isOpen : .closeSocket ∉ trace)
    (may : Gated trace (.reply reply)) :
    Trace.Justified Gated (trace ++ [.reply reply, .sent sent]) := by
  have replied : Trace.Justified Gated (trace ++ [.reply reply]) := by
    refine Trace.justified_append_iff.mpr ⟨justified, ?_⟩
    rw [Trace.justified_cons_iff]
    exact ⟨by simpa using may, Trace.justified_nil _⟩
  have more := justified_silently [.sent sent] replied (by simpa using isOpen)
    (by simp [Event.Silent, Event.Privileged])
  simpa using more

theorem Gate.abort {context : Context} (gate : Gate context.session context.trace)
    (isOpen : context.session.closed = false) :
    Gate context.abort.session context.abort.trace := by
  have openTrace : .closeSocket ∉ context.trace := by
    rw [← gate.closed_iff, isOpen]
    simp
  refine ⟨justified_close gate.gated openTrace, ?_, ?_, ?_, ?_, ?_⟩
  · simp [Context.abort]
  · simpa [Context.abort] using gate.admitted_iff
  · simpa [Context.abort] using gate.attempts
  · simp [Context.abort]
  · simp [Context.abort]

/-- The three ways through the authentication handler keep the gate. -/
theorem Gate.auth {context after : Context} (gate : Gate context.session context.trace)
    {frame : AuthFrame} {line : Bytes} (isOpen : context.session.closed = false)
    (stage : context.session.stage = .auth) (step : AuthStep frame line context after) :
    Gate after.session after.trace := by
  have openTrace : .closeSocket ∉ context.trace := by
    rw [← gate.closed_iff, isOpen]
    simp
  have stranger : .reply .authOk ∉ context.trace := by
    rw [← gate.admitted_iff, stage]
    simp
  have unblocked := gate.unblocked isOpen
  have attempts := gate.attempts
  have below := gate.below isOpen
  have enter : ∀ events : List Event, (∀ event ∈ events, event.Silent ∧ event ≠ .closeSocket) →
      Trace.Justified Gated (context.trace ++ events) := by
    intro events silent
    exact justified_silently events gate.gated openTrace silent
  cases step with
  | blocked isBlocked world session sent trace =>
      have entered := enter [.authLine line, .blockCheck true]
        (by simp [Event.Silent, Event.Privileged])
      have replied := justified_reply .authBlocked sent entered
        (by simpa using openTrace)
        ⟨by simpa using openTrace, by simp [Event.Privileged],
          by simpa using fun _ => unblocked⟩
      have closed := justified_close replied (by simpa using openTrace)
      refine ⟨?_, ?_, ?_, ?_, ?_, ?_⟩
      · simpa [trace] using closed
      · simp [session, trace]
      · simp [session, trace, stage, stranger]
      · simp [session, trace, attempts]
      · simp [session]
      · simp [session]
  | accepted unblockedWorld guessed isFree isValid world session member sent trace =>
      let window := (unblockedWorld.advance frame.guess).manager.recentPins
      have entered := enter [.authLine line, .blockCheck false,
        .keyCheck (normalisePin line) window]
        (by simp [Event.Silent, Event.Privileged])
      have replied := justified_reply .authOk sent entered (by simpa using openTrace)
        ⟨by simpa using openTrace, by simp [Event.Privileged], by simp⟩
      refine ⟨?_, ?_, ?_, ?_, ?_, ?_⟩
      · simpa [trace] using replied
      · simp [session, trace, isOpen, openTrace]
      · simp [session, trace]
      · simp [session, trace, attempts]
      · simpa [session] using fun _ => below
      · simpa [session, trace] using fun _ => unblocked
  | refused unblockedWorld guessed isFree isWrong world closed closes session window sent trace =>
      have entered := enter [.authLine line, .blockCheck false,
        .keyCheck (normalisePin line) window]
        (by simp [Event.Silent, Event.Privileged])
      have replied := justified_reply .authFail sent entered (by simpa using openTrace)
        ⟨by simpa using openTrace, by simp [Event.Privileged],
          by simpa [← attempts] using fun _ => below⟩
      refine ⟨?_, ?_, ?_, ?_, ?_, ?_⟩
      · rw [trace]
        cases closed with
        | true => simpa using justified_close replied (by simpa using openTrace)
        | false => simpa using replied
      · cases closed with
        | true => simp [session, trace]
        | false => simp [session, trace, isOpen, openTrace]
      · cases closed with
        | true => simp [session, trace, stage, stranger]
        | false => simp [session, trace, stage, stranger]
      · cases closed with
        | true => simp [session, trace, attempts]
        | false => simp [session, trace, attempts]
      · rw [session]
        intro stillOpen
        have more : ¬ Config.authAttemptsPerConnection ≤ context.session.authAttempts + 1 := by
          simpa [closes, isOpen] using stillOpen
        exact not_le.mp more
      · cases closed with
        | true => simp [session]
        | false => simpa [session, trace] using fun _ => unblocked

theorem gate_kept : Receiver.Kept fun receiver => Gate receiver.session receiver.trace :=
  Receiver.kept_of_auth (fun _ gate => gate) Gate.serves (fun gate isOpen _ => gate.abort isOpen)
    fun gate isOpen stage step => Gate.auth gate isOpen stage step

theorem gate_initial (ssl : Bool) (remoteIp : Ip) : Gate (.initial ssl remoteIp) [] := by
  refine ⟨Trace.justified_nil _, ?_, ?_, ?_, ?_, ?_⟩
  all_goals simp [ClientSession.initial, Config.authAttemptsPerConnection]

/-- Every session of a run stands behind its gate. -/
theorem gate_of_run {startup : Startup} {inputs : List Input} {conn : Nat} {client : Client}
    (present : (Daemon.run startup inputs).clients conn = some client) :
    Gate client.session client.trace :=
  Daemon.clients_keep gate_kept (fun ssl remoteIp _ => gate_initial ssl remoteIp)
    (fun _ _ gate => gate) startup inputs conn client present startup.world

/-! ## Where `AUTH_OK` is sent -/

/-- During a run a session that authenticates is about to take this line off its buffer. -/
inductive Daemon.Reads (startup : Startup) (inputs : List Input) (conn : Nat) :
    Env → Receiver → Bytes → Prop
  | line {earlier later : List Input} {chunk : Bytes} {env : Env} {client : Client}
      {receiver taken : Receiver} {text : Bytes}
      (delivered : inputs = earlier ++ .data conn chunk env :: later)
      (running : (Daemon.run startup earlier).crashed = false)
      (present : (Daemon.run startup earlier).clients conn = some client)
      (connected : client.gone = false) (isOpen : client.session.closed = false)
      (fits : ((client.receiver (Daemon.run startup earlier).world).receive chunk).overflows =
        false)
      (visits : PassLoop.Visits (Receiver.pass env)
        ((client.receiver (Daemon.run startup earlier).world).receive chunk) receiver)
      (stillOpen : receiver.session.closed = false) (stage : receiver.session.stage = .auth)
      (taking : receiver.takeLine = some (text, taken)) :
      Reads startup inputs conn env receiver text

/-- At the two calls of `handleAuth` into the session manager the address of the session is not
blocked and the text of the line is among the recent PINs; `history` is what the session has done
before it answers. -/
def Receiver.Admits (env : Env) (receiver : Receiver) (line : Bytes) (history : List Event) :
    Prop :=
  let frame := env.auth receiver.calls.auth
  let ip := receiver.session.remoteIp
  let checking := receiver.world.advance frame.check
  let looking := (receiver.world.checkIp frame.check ip).2.advance frame.guess
  (checking.manager.isIpBlocked ip checking.now).1 = false ∧
    normalisePin line ∈ looking.manager.recentPins ∧
    history = receiver.trace ++
      [.authLine line, .blockCheck false, .keyCheck (normalisePin line) looking.manager.recentPins]

/-- An `AUTH_OK` at this place of a history was sent for a line that was read. -/
def Admitted (reads : Env → Receiver → Bytes → Prop) (before : List Event) (event : Event) : Prop :=
  event = .reply .authOk →
    ∃ env receiver line, reads env receiver line ∧ receiver.Admits env line before

/-- Histories that grow without `AUTH_OK` need no further reason. -/
theorem admitted_extend {reads : Env → Receiver → Bytes → Prop} {trace later : List Event}
    (admitted : Trace.Justified (Admitted reads) trace)
    (extended : Trace.Extends (· ≠ .reply .authOk) trace later) :
    Trace.Justified (Admitted reads) later :=
  admitted.extend extended fun _ _ _ other same => absurd same other

/-- A session that is past authentication does not send `AUTH_OK` again. -/
theorem Receiver.Step.past {before after : Receiver} (step : Receiver.Step before after)
    (notAuth : before.session.stage ≠ .auth) :
    Trace.Extends (· ≠ .reply .authOk) before.trace after.trace := by
  have other : ∀ event : Event, event.kind ≠ .authentication → event ≠ .reply .authOk := by
    rintro event kind rfl
    exact kind rfl
  cases step with
  | receive chunk isOpen receives =>
      rw [receives]
      exact .refl _
  | overflow isOpen stage aborts => exact absurd stage notAuth
  | auth raw rest frame isOpen stage view absent handles consumed files unread stream =>
      exact absurd stage notAuth
  | header raw rest frame isOpen stage view absent stop consumed handles unread stream =>
      have line : Trace.Extends (· ≠ .reply .authOk) before.trace
          (before.trace ++ [.headerLine before.consumed stop (Receiver.stripReturn raw)]) :=
        Trace.extends_append (by simp)
      exact line.trans (handles.serves.trace.mono other)
  | data frame calls isOpen stage handles => exact handles.serves.trace.mono other

/-- A call of the handler admits for a reason. -/
theorem admitted_authLine {reads : Env → Receiver → Bytes → Prop} {env : Env}
    {receiver taken : Receiver} {line : Bytes} (taking : receiver.takeLine = some (line, taken))
    (read : reads env receiver line) (admitted : Trace.Justified (Admitted reads) receiver.trace) :
    Trace.Justified (Admitted reads) (taken.authLine env line).trace := by
  obtain ⟨_, _, _, _, _, _, calls, _, context⟩ := Receiver.takeLine_eq_some taking
  have trace : taken.trace = receiver.trace := by rw [context]
  have world : taken.world = receiver.world := by rw [context]
  have session : taken.session = receiver.session := by rw [context]
  have step := handleAuth_step (env.auth taken.calls.auth) line taken.toContext
  have silent : ∀ events : List Event, .reply .authOk ∉ events →
      Trace.Justified (Admitted reads) (receiver.trace ++ events) := by
    intro events absent
    refine admitted_extend admitted (Trace.extends_append ?_)
    rintro event member rfl
    exact absent member
  unfold Receiver.authLine
  cases step with
  | blocked isBlocked world' session' sent added =>
      rw [added, trace]
      exact silent _ (by simp)
  | accepted unblocked guessed isFree isValid world' session' member sent added =>
      let window := (unblocked.advance (env.auth taken.calls.auth).guess).manager.recentPins
      let asked : List Event :=
        [.authLine line, .blockCheck false, .keyCheck (normalisePin line) window]
      have checked : receiver.world.checkIp (env.auth receiver.calls.auth).check
          receiver.session.remoteIp = (false, unblocked) := by
        rw [← calls, ← world, ← session]
        exact isFree
      have reason : Admitted reads (receiver.trace ++ asked) (.reply .authOk) := by
        rintro -
        refine ⟨env, receiver, line, read, congrArg Prod.fst checked, ?_, ?_⟩
        · simp only [checked]
          rw [← calls]
          exact member
        · simp only [checked, asked, window, calls]
      have answered : (handleAuth (env.auth taken.calls.auth) line taken.toContext).trace =
          (receiver.trace ++ asked) ++ [.reply .authOk, .sent sent] := by
        rw [added, trace, List.append_assoc]
        rfl
      rw [answered]
      refine Trace.justified_append_iff.mpr ⟨silent asked (by simp [asked]), ?_⟩
      rw [Trace.justified_cons_iff, List.append_nil]
      refine ⟨reason, ?_⟩
      rw [Trace.justified_cons_iff]
      exact ⟨nofun, Trace.justified_nil _⟩
  | refused unblocked guessed isFree isWrong world' closed closes session' window sent added =>
      rw [added, trace, List.append_assoc]
      apply silent
      cases closed with
      | true => simp
      | false => simp

theorem admitted_onData {reads : Env → Receiver → Bytes → Prop} {env : Env} {chunk : Bytes}
    {start : Receiver} (admitted : Trace.Justified (Admitted reads) start.trace)
    (read : ∀ {receiver taken line}, start.session.closed = false →
      (start.receive chunk).overflows = false →
      PassLoop.Visits (Receiver.pass env) (start.receive chunk) receiver →
      receiver.session.closed = false → receiver.session.stage = .auth →
      receiver.takeLine = some (line, taken) → reads env receiver line) :
    Trace.Justified (Admitted reads) (start.onData env chunk).state.trace := by
  by_cases closed : start.session.closed = true
  · rw [Receiver.onData_closed env chunk closed]
    exact admitted
  have isOpen : start.session.closed = false := by simpa using closed
  cases overflows : (start.receive chunk).overflows with
  | true =>
      rw [Receiver.onData_overflow env isOpen overflows]
      exact admitted_extend admitted (Trace.extends_append (by simp))
  | false =>
      rw [Receiver.onData_fits env isOpen overflows]
      refine @PassLoop.Exits.keeps _ _ (Receiver.pass env)
        (fun receiver => PassLoop.Visits (Receiver.pass env) (start.receive chunk) receiver ∧
          Trace.Justified (Admitted reads) receiver.trace)
        (fun outcome => Trace.Justified (Admitted reads) outcome.state.trace) ?_ ?_ _ _
        ((start.receive chunk).processBuffer_exits env) ⟨.refl, admitted⟩
      · rintro before after ⟨visits, admitted⟩ goes
        refine ⟨visits.tail goes, ?_⟩
        obtain ⟨stillOpen, line, taken, taking, ⟨stage, rfl⟩ | ⟨stage, _⟩⟩ :=
          Receiver.goes_iff.mp goes
        · exact admitted_authLine taking
            (read isOpen overflows visits stillOpen stage taking) admitted
        · exact admitted_extend admitted
            ((Receiver.step_of_goes goes).past (by rw [stage]; decide))
      · rintro last outcome ⟨_, admitted⟩ leaving
        rcases Receiver.step_of_leave leaving with same | ⟨notAuth, step⟩
        · rw [same]
          exact admitted
        · exact admitted_extend admitted (step.past notAuth)

/-- Every `AUTH_OK` of a run was sent for a reason. -/
theorem admitted_of_run {startup : Startup} {inputs : List Input} {conn : Nat} {client : Client}
    (present : (Daemon.run startup inputs).clients conn = some client) :
    Trace.Justified (Admitted (Daemon.Reads startup inputs conn)) client.trace := by
  have here : Daemon.Along
      (fun daemon input => ∃ earlier later, inputs = earlier ++ input :: later ∧
        Daemon.run startup earlier = daemon) startup inputs :=
    fun earlier input later split => ⟨earlier, later, split, rfl⟩
  refine Daemon.run_along (fun daemon => ∀ client, daemon.clients conn = some client →
    Trace.Justified (Admitted (Daemon.Reads startup inputs conn)) client.trace) startup ?_ ?_ ?_ ?_
    inputs here client present
  · intro client none
    cases none
  · intro daemon other ssl remoteIp holds _ _ _ found present
    rcases Daemon.client_of_update present with ⟨_, rfl⟩ | ⟨_, old⟩
    · exact Trace.justified_nil _
    · exact holds found old
  · intro daemon other client chunk env holds running slot connected placed found present
    rw [Daemon.deliver_clients] at present
    rcases Daemon.client_of_update present with ⟨rfl, rfl⟩ | ⟨_, old⟩
    · obtain ⟨earlier, later, split, rfl⟩ := placed
      refine admitted_onData (holds client slot) ?_
      intro receiver taken line isOpen fits visits stillOpen stage taking
      exact .line split running slot connected isOpen fits visits stillOpen stage taking
    · exact holds found old
  · intro daemon other client holds _ slot _ _ found present
    rcases Daemon.client_of_update present with ⟨rfl, rfl⟩ | ⟨_, old⟩
    · exact holds client slot
    · exact holds found old

/-- Before `AUTH_OK` there are at most three `AUTH_FAIL` and one `AUTH_BLOCKED`. -/
theorem replies_of_stranger {trace : List Event} (gated : Trace.Justified Gated trace)
    (stranger : .reply .authOk ∉ trace) :
    (∀ reply, .reply reply ∈ trace → reply = .authFail ∨ reply = .authBlocked) ∧
      trace.count (.reply .authFail) ≤ Config.authAttemptsPerConnection ∧
      trace.count (.reply .authBlocked) ≤ 1 := by
  induction trace using List.reverseRecOn with
  | nil => simp
  | append_singleton trace event ih =>
      obtain ⟨earlier, last⟩ := Trace.justified_append_iff.mp gated
      obtain ⟨absent, other⟩ : .reply .authOk ∉ trace ∧ .reply .authOk ≠ event := by
        simpa using stranger
      obtain ⟨replies, fails, blocks⟩ := ih earlier absent
      have may : Gated trace event := by
        simpa using (Trace.justified_cons_iff.mp last).1
      have answers := may.2.2
      by_cases isReply : ∃ reply, event = .reply reply
      · obtain ⟨reply, rfl⟩ := isReply
        rcases answers reply rfl absent with rfl | ⟨rfl, few⟩ | ⟨rfl, first⟩
        · exact absurd rfl other
        · refine ⟨?_, ?_, ?_⟩
          · simpa [or_imp, forall_and] using replies
          · simpa using Nat.succ_le_of_lt few
          · simpa using blocks
        · refine ⟨?_, ?_, ?_⟩
          · simpa [or_imp, forall_and] using replies
          · simpa using fails
          · simp [List.count_eq_zero.mpr first]
      · have notReply : ∀ reply, event ≠ .reply reply := fun reply same => isReply ⟨reply, same⟩
        refine ⟨?_, ?_, ?_⟩
        · intro reply member
          rcases List.mem_append.mp member with old | new
          · exact replies reply old
          · exact absurd (List.mem_singleton.mp new).symm (notReply reply)
        · have none : [event].count (.reply .authFail) = 0 :=
            List.count_eq_zero.mpr (by simpa using (notReply .authFail).symm)
          rw [List.count_append, none]
          exact fails
        · have none : [event].count (.reply .authBlocked) = 0 :=
            List.count_eq_zero.mpr (by simpa using (notReply .authBlocked).symm)
          rw [List.count_append, none]
          exact blocks

/-- A closed session ignores what is buffered and what arrives. -/
theorem closed_ignores (receiver : Receiver) (closed : receiver.session.closed = true) (env : Env)
    (chunk : Bytes) :
    receiver.onData env chunk = .returned receiver ∧
      receiver.processBuffer env = .returned receiver := by
  constructor
  · exact Receiver.onData_closed env chunk closed
  · simp [Receiver.processBuffer, PassLoop.run, Receiver.pass, closed]

/-- The authentication gate, for every session of every run: nothing privileged happens before
`AUTH_OK`; `AUTH_OK` follows an unblocked address and a PIN found in the window; before it the
session sends only a few refusals; and a closed session does nothing any more. -/
theorem authentication_gate (startup : Startup) (inputs : List Input) (conn : Nat)
    (client : Client) (present : (Daemon.run startup inputs).clients conn = some client) :
    (∀ before event after, client.trace = before ++ event :: after → event.Privileged →
        .reply .authOk ∈ before) ∧
      (∀ before after, client.trace = before ++ .reply .authOk :: after →
        ∃ env receiver line, Daemon.Reads startup inputs conn env receiver line ∧
          receiver.Admits env line before) ∧
      (∀ before after, client.trace = before ++ after → .reply .authOk ∉ before →
        (∀ reply, .reply reply ∈ before → reply = .authFail ∨ reply = .authBlocked) ∧
          before.count (.reply .authFail) ≤ Config.authAttemptsPerConnection ∧
          before.count (.reply .authBlocked) ≤ 1) ∧
      (∀ before after, client.trace = before ++ .closeSocket :: after → after = []) ∧
      (client.session.closed = true ↔ .closeSocket ∈ client.trace) ∧
      (client.session.closed = true → ∀ env chunk world,
        (client.receiver world).onData env chunk = .returned (client.receiver world) ∧
          (client.receiver world).processBuffer env = .returned (client.receiver world)) := by
  have gate := gate_of_run present
  refine ⟨?_, ?_, ?_, ?_, gate.closed_iff, ?_⟩
  · intro before event after split privileged
    exact (gate.gated before event after split).2.1 privileged
  · intro before after split
    exact admitted_of_run present before _ after split rfl
  · intro before after split stranger
    have gated := gate.gated
    rw [split] at gated
    exact replies_of_stranger gated.of_append stranger
  · intro before after split
    cases after with
    | nil => rfl
    | cons next rest =>
        have later : client.trace = (before ++ [.closeSocket]) ++ next :: rest := by simp [split]
        have isOpen := (gate.gated _ next rest later).1
        simp at isOpen
  · intro closed env chunk world
    exact closed_ignores (client.receiver world) closed env chunk

/-- Three wrong PINs and the right one, pipelined in one chunk: the session is closed before it
reads the fourth line. -/
def pipelinedGuesses : List Input :=
  [.connect 0 false [1], .data 0 (ascii "1\n2\n3\n123456\n") .quiet]

theorem authentication_gate_pipelined :
    ∃ client,
      (Daemon.run (.fresh (ascii "123456")) pipelinedGuesses).clients 0 = some client ∧
        client.session.closed = true ∧ .closeSocket ∈ client.trace ∧
        .reply .authOk ∉ client.trace ∧
        client.trace.count (.reply .authFail) ≤ Config.authAttemptsPerConnection := by
  let client := ((Daemon.run (.fresh (ascii "123456")) pipelinedGuesses).clients 0).getD
    (.initial false [])
  have present :
      (Daemon.run (.fresh (ascii "123456")) pipelinedGuesses).clients 0 = some client := rfl
  have gate := authentication_gate (.fresh (ascii "123456")) pipelinedGuesses 0 client present
  have closed : client.session.closed = true := by decide
  have stranger : .reply .authOk ∉ client.trace := by decide
  have bounds := gate.2.2.1 client.trace [] (by simp) stranger
  exact ⟨client, present, closed, gate.2.2.2.2.1.mp closed, stranger, bounds.2.1⟩

end TitanShare
