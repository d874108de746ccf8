import TitanShare.Likeness
import TitanShare.UploadHeader

/-!
# Upload requests that are refused

A refused `FILE_START:` line leaves its name and its size behind in the session, but outside stage
DATA nothing reads them.  From there on the session does what it would have done without the line.
-/

namespace TitanShare

open ByteText PassLoop

/-- The fields of a session that only an upload under way uses. -/
structure Leftover where
  fileName : Bytes
  expectedBytes : Nat
  fileFd : Option Nat

def ClientSession.leftover (session : ClientSession) : Leftover :=
  ⟨session.fileName, session.expectedBytes, session.fileFd⟩

namespace Context

/-- The same context behind other events, with other leftovers. -/
def behind (earlier : List Event) (leftover : Leftover) (context : Context) : Context :=
  { context with
    trace := earlier ++ context.trace
    session :=
      { context.session with
        fileName := leftover.fileName
        expectedBytes := leftover.expectedBytes
        fileFd := leftover.fileFd } }

variable (earlier : List Event) (leftover : Leftover) (context : Context)

theorem emit_behind (events : List Event) :
    (context.behind earlier leftover).emit events =
      (context.emit events).behind earlier leftover := by
  simp [behind, emit]

theorem sendResponse_behind (sends : List SendResult) (reply : Reply) :
    (context.behind earlier leftover).sendResponse sends reply =
      (context.sendResponse sends reply).behind earlier leftover :=
  emit_behind earlier leftover context _

theorem abort_behind :
    (context.behind earlier leftover).abort = context.abort.behind earlier leftover := by
  simp [behind, abort, emit]

end Context

/-! ## Handlers that do not use the leftovers -/

/-- A handler that neither looks at the events so far nor touches the leftovers. -/
def Uniform (handler : Context → Outcome Exception Context) : Prop :=
  ∀ earlier leftover context, handler (context.behind earlier leftover) =
    (handler context).map (Context.behind earlier leftover)

theorem Uniform.andThen {first second : Context → Outcome Exception Context}
    (uniform : Uniform first) (next : Uniform second) : Uniform fun context =>
    (first context).andThen second := by
  intro earlier leftover context
  simp only [uniform earlier leftover context]
  cases first context with
  | returned state => exact next earlier leftover state
  | threw exception state => rfl

theorem publishTransferState_uniform (env : PublishEnv) (state : TransferState) :
    Uniform (publishTransferState env state) := by
  intro earlier leftover context
  unfold publishTransferState
  split
  · rfl
  · split
    · rfl
    · split
      · rfl
      · rfl

theorem pushFileList_uniform (frame : HeaderFrame) : Uniform (pushFileList frame) := by
  intro earlier leftover context
  simp only [pushFileList, Context.emit_behind, Context.sendResponse_behind]
  cases frame.listing.dump with
  | error exception => rfl
  | ok listing => rfl

theorem streamFile_uniform (finish : PublishEnv) (name : Bytes) (size : Nat)
    (chunks : List ChunkEnv) (sent : Nat) (good : Bool) :
    Uniform (streamFile finish name size chunks sent good) := by
  induction chunks generalizing sent good with
  | nil => exact publishTransferState_uniform _ _
  | cons chunk rest ih =>
      intro earlier leftover context
      simp only [streamFile]
      split
      · exact publishTransferState_uniform _ _ _ _ context
      · split
        · rw [Context.emit_behind]
          exact publishTransferState_uniform _ _ _ _ (context.emit _)
        · let total := sent + (chunk.delivers good (min Config.pushChunk (size - sent))).length
          let progress (written : Context) : Outcome Exception Context :=
            if chunk.due = true ∨ total = size then
              publishTransferState chunk.publish ⟨true, true, name, total, size⟩ written
            else .returned written
          have uniform : Uniform progress := by
            intro earlier leftover written
            simp only [progress]
            split
            · exact publishTransferState_uniform _ _ _ _ written
            · rfl
          rw [Context.emit_behind]
          exact uniform.andThen (ih _ _) _ _ (context.emit _)

theorem pushFile_uniform (frame : HeaderFrame) (filename : Bytes) :
    Uniform (pushFile frame filename) := by
  intro earlier leftover context
  simp only [pushFile, Context.emit_behind, Context.sendResponse_behind]
  cases frame.push.found with
  | error exception => rfl
  | ok found =>
      cases found with
      | false => rfl
      | true =>
          cases frame.push.regular with
          | error exception => rfl
          | ok regular =>
              cases regular with
              | false => rfl
              | true =>
                  cases frame.push.fileSize with
                  | error exception => rfl
                  | ok size =>
                      simp only
                      split
                      · rfl
                      · split
                        · rfl
                        · exact streamFile_uniform _ _ _ _ _ _ _ _ _

theorem runCommand_uniform (frame : HeaderFrame) (cmd : Bytes) :
    Uniform (runCommand frame cmd) := by
  intro earlier leftover context
  simp only [runCommand, Context.emit_behind, Context.sendResponse_behind]
  cases (CommandDispatcher.dispatch frame.command cmd).reply with
  | error exception => rfl
  | ok response =>
      by_cases empty : response = []
      · simp only [empty, if_true]
        rfl
      · simp only [empty, if_false]
        rfl

section Authentication

variable (frame : AuthFrame) (earlier : List Event) (leftover : Leftover) (context : Context)

theorem acceptPin_behind (pin : Bytes) :
    acceptPin frame pin (context.behind earlier leftover) =
      (acceptPin frame pin context).behind earlier leftover := by
  simp [acceptPin, Context.sendResponse, Context.emit, Context.behind]

theorem refusePin_behind :
    refusePin frame (context.behind earlier leftover) =
      (refusePin frame context).behind earlier leftover := by
  by_cases last : Config.authAttemptsPerConnection ≤ context.session.authAttempts + 1
  · simp [refusePin, Context.sendResponse, Context.emit, Context.abort, Context.behind, last]
  · simp [refusePin, Context.sendResponse, Context.emit, Context.behind, last]

theorem handleAuth_behind (line : Bytes) :
    handleAuth frame line (context.behind earlier leftover) =
      (handleAuth frame line context).behind earlier leftover := by
  let guessed := (context.world.checkIp frame.check context.session.remoteIp).2.guess frame.guess
    context.session.remoteIp (normalisePin line)
  cases blocked : (context.world.checkIp frame.check context.session.remoteIp).1 with
  | true =>
      rw [handleAuth_of_blocked blocked, ← Context.abort_behind, ← Context.sendResponse_behind,
        @handleAuth_of_blocked frame (context.behind earlier leftover) line blocked]
      simp [Context.emit, Context.behind]
  | false =>
      have looks : lookedUp frame line (context.behind earlier leftover) =
          (lookedUp frame line context).behind earlier leftover := by
        simp [lookedUp, Context.emit, Context.behind]
      rw [handleAuth_of_free blocked,
        @handleAuth_of_free frame (context.behind earlier leftover) line blocked, looks,
        acceptPin_behind, refusePin_behind]
      exact (apply_ite (Context.behind earlier leftover) (guessed.1 = true) _ _).symm

end Authentication

/-- An upload request replaces leftovers, all of them when the upload begins. -/
theorem fileStart_behind (frame : HeaderFrame) (line : Bytes) (earlier : List Event)
    (leftover : Leftover) (context : Context) (outside : context.session.stage ≠ .data) :
    ∃ left, fileStart frame line (context.behind earlier leftover) =
        (fileStart frame line context).map (Context.behind earlier left) ∧
      ((fileStart frame line context).state.session.stage = .data →
        left = (fileStart frame line context).state.session.leftover) := by
  let name := fun colon => replace (byte '\\') (byte '_')
    (replace (byte '/') (byte '_') ((line.drop 11).take (colon - 11)))
  unfold fileStart
  split
  · exact ⟨leftover, congrArg _ (Context.sendResponse_behind _ _ _ _ _),
        fun begun => absurd begun outside⟩
  · rename_i colon found
    split
    · exact ⟨leftover, congrArg _ (Context.sendResponse_behind _ _ _ _ _),
        fun begun => absurd begun outside⟩
    · simp only
      split
      · refine ⟨{ leftover with fileName := name colon }, ?_, fun begun => absurd begun outside⟩
        simp [Context.behind, Context.sendResponse, Context.emit, Outcome.map, name]
      · rename_i size parsed
        let sized : Leftover := ⟨name colon, size, leftover.fileFd⟩
        split
        · refine ⟨sized, ?_, fun begun => absurd begun outside⟩
          simp [Context.behind, Context.sendResponse, Context.emit, Outcome.map, sized, name]
        · split
          · refine ⟨sized, ?_, fun begun => absurd begun outside⟩
            simp [Context.behind, Context.sendResponse, Context.emit, Outcome.map, sized, name]
          · split
            · exact ⟨sized, rfl, fun begun => absurd begun outside⟩
            · split
              · refine ⟨{ sized with fileFd := none }, ?_, fun begun => absurd begun outside⟩
                simp [Context.behind, Context.sendResponse, Context.emit, Outcome.map, sized, name]
              · refine ⟨{ sized with fileFd := some context.world.files.nextDescriptor }, ?_,
                  fun _ => rfl⟩
                simp [Context.behind, Context.beginUpload, Context.sendResponse, Context.emit,
                  Outcome.map, sized, name]

/-- Outside stage DATA a request line is handled in the same way, whatever happened before it and
whatever is left over. -/
theorem handleHeader_behind (frame : HeaderFrame) (line : Bytes) (earlier : List Event)
    (leftover : Leftover) (context : Context) (outside : context.session.stage ≠ .data) :
    ∃ left, handleHeader frame line (context.behind earlier leftover) =
        (handleHeader frame line context).map (Context.behind earlier left) ∧
      ((handleHeader frame line context).state.session.stage = .data →
        left = (handleHeader frame line context).state.session.leftover) := by
  have other : ∀ {started : Context} {outcome : Outcome Exception Context},
      Context.Emits .answer started outcome.state → started.session = context.session →
        outcome.state.session.stage = .data → leftover = outcome.state.session.leftover := by
    intro started outcome emits same begun
    rw [emits.session, same] at begun
    exact absurd begun outside
  unfold handleHeader
  split
  · simp only
    split
    · exact ⟨leftover, pushFileList_uniform frame _ _ _, other (pushFileList_emits _ _) rfl⟩
    · split
      · exact ⟨leftover, pushFile_uniform frame _ _ _ _, other (pushFile_emits _ _ _) rfl⟩
      · exact ⟨leftover, runCommand_uniform frame _ _ _ _, other (runCommand_emits _ _ _) rfl⟩
  · split
    · exact fileStart_behind frame line earlier leftover context outside
    · exact ⟨leftover, congrArg _ (Context.sendResponse_behind _ _ _ _ _),
        fun begun => absurd begun outside⟩

/-! ## The data handler -/

namespace Receiver

/-- The same receiver behind other events. -/
def behind (earlier : List Event) (leftover : Leftover) (receiver : Receiver) : Receiver :=
  { receiver with toContext := receiver.toContext.behind earlier leftover }

/-- The same receiver behind other events, with its own leftovers. -/
def later (earlier : List Event) (receiver : Receiver) : Receiver :=
  receiver.behind earlier receiver.session.leftover

variable (earlier : List Event) (receiver : Receiver)

theorem publish_later (env : PublishEnv) (state : TransferState) :
    (receiver.later earlier).publish env state =
      (receiver.publish env state).map (later earlier) := by
  unfold publish publishTransferState
  split
  · rfl
  · split
    · rfl
    · split
      · rfl
      · rfl

theorem reportProgress_later (frame : DataFrame) :
    (receiver.later earlier).reportProgress frame =
      (receiver.reportProgress frame).map (later earlier) := by
  simp only [reportProgress]
  by_cases due : frame.due = true ∨ receiver.session.receivedBytes = receiver.session.expectedBytes
  · rw [if_pos due]
    exact (if_pos due).trans (publish_later earlier receiver _ _)
  · rw [if_neg due]
    exact if_neg due

theorem drainSentinel_later :
    (receiver.later earlier).drainSentinel = receiver.drainSentinel.later earlier := by
  unfold drainSentinel
  by_cases within : sentinel.length ≤ receiver.bufSize
  · rw [dif_pos within]
    refine (dif_pos within).trans ?_
    by_cases drains : receiver.buffer.view.take sentinel.length = sentinel
    · rw [if_pos drains]
      exact if_pos drains
    · rw [if_neg drains]
      exact if_neg drains
  · rw [dif_neg within]
    exact dif_neg within

theorem finishUpload_later (frame : DataFrame) (descriptor : Nat) :
    (receiver.later earlier).finishUpload frame descriptor =
      (receiver.finishUpload frame descriptor).later earlier := by
  simp only [finishUpload, drainSentinel_later]
  generalize receiver.drainSentinel = drained
  simp [completeUpload, Context.sendResponse, Context.emit, later, behind, Context.behind,
    ClientSession.leftover]

theorem checkCompletion_later (frame : DataFrame) (descriptor : Nat) :
    checkCompletion frame descriptor (receiver.later earlier) =
      (checkCompletion frame descriptor receiver).map (later earlier) := by
  unfold checkCompletion
  by_cases complete : receiver.session.expectedBytes ≤ receiver.session.receivedBytes
  · rw [if_pos complete]
    refine (if_pos complete).trans ?_
    rw [publish_later]
    cases receiver.publish frame.finish ⟨false, false, [], 1, 1⟩ with
    | returned state => exact congrArg _ (finishUpload_later earlier state frame descriptor)
    | threw exception state => rfl
  · rw [if_neg complete]
    exact if_neg complete

theorem failWrite_later (frame : DataFrame) (descriptor missing : Nat) :
    (receiver.later earlier).failWrite frame descriptor missing =
      (receiver.failWrite frame descriptor missing).later earlier := by
  simp [failWrite, failUpload, Context.sendResponse, Context.emit, later, behind, Context.behind,
    ClientSession.leftover, bufSize]

theorem settle_later (frame : DataFrame) (descriptor : Nat) :
    ((receiver.later earlier).reportProgress frame).andThen (checkCompletion frame descriptor) =
      ((receiver.reportProgress frame).andThen (checkCompletion frame descriptor)).map
        (later earlier) := by
  rw [reportProgress_later]
  cases receiver.reportProgress frame with
  | returned state => exact checkCompletion_later earlier state frame descriptor
  | threw exception state => rfl

/-- The data handler does not look at the events so far. -/
theorem handleFileData_later (frame : DataFrame) :
    (receiver.later earlier).handleFileData frame =
      (receiver.handleFileData frame).map (later earlier) := by
  unfold handleFileData
  cases isOpen : receiver.session.fileFd with
  | none =>
      have same : (receiver.later earlier).session.fileFd = none := isOpen
      simp only [same]
      rfl
  | some descriptor =>
      have same : (receiver.later earlier).session.fileFd = some descriptor := isOpen
      simp only [same]
      by_cases empty : receiver.bufSize = 0
      · rw [if_pos empty]
        exact if_pos empty
      · rw [if_neg empty]
        refine (if_neg empty).trans ?_
        by_cases nothing : min receiver.bufSize
            (receiver.session.expectedBytes - receiver.session.receivedBytes) = 0
        · rw [if_pos nothing]
          exact (if_pos nothing).trans (settle_later earlier receiver frame descriptor)
        · rw [if_neg nothing]
          refine (if_neg nothing).trans ?_
          cases frame.write with
          | none => exact congrArg _ (failWrite_later earlier receiver frame descriptor _)
          | some count =>
              exact settle_later earlier (receiver.storeBytes descriptor _ _) frame descriptor

end Receiver

/-! ## Sessions side by side -/

/-- Two sessions that differ in their events so far and, outside stage DATA, in their leftovers. -/
def Twins (first second : List Event) (left right : Receiver) : Prop :=
  ∃ base one two, left = Receiver.behind first one base ∧ right = Receiver.behind second two base ∧
    (base.session.stage = .data → one = base.session.leftover ∧ two = base.session.leftover)

namespace Receiver

theorem takeLine_behind (earlier : List Event) (leftover : Leftover) {receiver taken : Receiver}
    {line : Bytes} (taking : receiver.takeLine = some (line, taken)) :
    (receiver.behind earlier leftover).takeLine = some (line, taken.behind earlier leftover) := by
  unfold takeLine at taking ⊢
  split at taking
  · cases taking
  · rename_i raw rest cut
    obtain ⟨rfl, rfl⟩ := Prod.mk.inj (Option.some.inj taking)
    split
    · rename_i other
      exact absurd (cut.symm.trans other) (by simp)
    · rename_i raw' rest' other
      obtain ⟨rfl, rfl⟩ := Prod.mk.inj (Option.some.inj (cut.symm.trans other))
      rfl

theorem authLine_behind (env : Env) (line : Bytes) (earlier : List Event) (leftover : Leftover)
    (receiver : Receiver) :
    (receiver.behind earlier leftover).authLine env line =
      (receiver.authLine env line).behind earlier leftover := by
  have handled := handleAuth_behind (env.auth receiver.calls.auth) earlier leftover
    receiver.toContext line
  unfold authLine behind
  rw [handled]

theorem headerLine_behind (env : Env) (start : Nat) (line : Bytes) (earlier : List Event)
    (leftover : Leftover) {receiver : Receiver} (outside : receiver.session.stage ≠ .data) :
    ∃ left, (receiver.behind earlier leftover).headerLine env start line =
        (receiver.headerLine env start line).map (behind earlier left) ∧
      ((receiver.headerLine env start line).state.session.stage = .data →
        left = (receiver.headerLine env start line).state.session.leftover) := by
  obtain ⟨left, handled, all⟩ := handleHeader_behind (env.header receiver.calls.header) line earlier
    leftover (receiver.emit [.headerLine start receiver.consumed line]) outside
  rw [← Context.emit_behind] at handled
  refine ⟨left, ?_, ?_⟩
  · refine (congrArg (Outcome.map _) handled).trans ?_
    unfold headerLine
    cases handleHeader (env.header receiver.calls.header) line
      (receiver.emit [.headerLine start receiver.consumed line]) with
    | returned state => rfl
    | threw exception state => rfl
  · unfold headerLine
    rw [Outcome.state_map]
    exact all

theorem twins_behind {first second : List Event} {base : Receiver} (one two : Leftover)
    (outside : base.session.stage ≠ .data) :
    Twins first second (base.behind first one) (base.behind second two) :=
  ⟨base, one, two, rfl, rfl, fun data => absurd data outside⟩

theorem twins_later (first second : List Event) (base : Receiver) :
    Twins first second (base.later first) (base.later second) :=
  ⟨base, _, _, rfl, rfl, fun _ => ⟨rfl, rfl⟩⟩

/-- The loop goes round after a request line if nothing is thrown. -/
def rounds : Outcome Exception Receiver → Pass Receiver (Outcome Exception Receiver)
  | .returned next => .again next
  | .threw exception next => .leave (.threw exception next)

section Passes

variable {env : Env} {receiver : Receiver}

theorem pass_idle (nothing : receiver.session.closed = true ∨ receiver.bufSize = 0) :
    pass env receiver = .leave (.returned receiver) :=
  if_pos nothing

variable (working : ¬ (receiver.session.closed = true ∨ receiver.bufSize = 0))

include working

theorem pass_unfinished (stage : receiver.session.stage ≠ .data)
    (missing : receiver.takeLine = none) :
    pass env receiver = .leave (.returned receiver) := by
  rw [pass, if_neg working]
  cases named : receiver.session.stage with
  | auth => simp only [missing]
  | header => simp only [missing]
  | data => exact absurd named stage

theorem pass_data (stage : receiver.session.stage = .data) :
    pass env receiver = .leave (receiver.fileData env) := by
  rw [pass, if_neg working]
  simp only [stage]

theorem pass_header {line : Bytes} {taken : Receiver} {outcome : Outcome Exception Receiver}
    (stage : receiver.session.stage = .header)
    (taking : receiver.takeLine = some (line, taken))
    (handled : taken.headerLine env receiver.consumed line = outcome) :
    pass env receiver = rounds outcome := by
  rw [pass, if_neg working]
  simp only [stage, taking, handled]
  cases outcome with
  | returned next => rfl
  | threw exception next => rfl

theorem pass_auth {line : Bytes} {taken : Receiver} (stage : receiver.session.stage = .auth)
    (taking : receiver.takeLine = some (line, taken)) :
    pass env receiver = .again (taken.authLine env line) := by
  rw [pass, if_neg working]
  simp only [stage, taking]

end Passes

/-- Both sessions do the same in one pass of the loop. -/
theorem pass_twins (env : Env) {first second : List Event} {left right : Receiver}
    (twins : Twins first second left right) :
    (∃ next other, pass env left = .again next ∧ pass env right = .again other ∧
        Twins first second next other) ∨
      ∃ outcome ending, pass env left = .leave outcome ∧ pass env right = .leave ending ∧
        Outcome.Both (Twins first second) outcome ending := by
  obtain ⟨base, one, two, rfl, rfl, data⟩ := twins
  have again : Twins first second (base.behind first one) (base.behind second two) :=
    ⟨base, one, two, rfl, rfl, data⟩
  by_cases nothing : base.session.closed = true ∨ base.bufSize = 0
  · exact .inr ⟨_, _, pass_idle nothing, pass_idle nothing, .returned again⟩
  · by_cases stage : base.session.stage = .data
    · obtain ⟨rfl, rfl⟩ := data stage
      have handled : ∀ earlier, (base.later earlier).fileData env = _ := fun earlier =>
        handleFileData_later earlier
          { base with calls := { base.calls with data := base.calls.data + 1 } } _
      have leaves : ∀ earlier, pass env (base.later earlier) = _ := fun earlier =>
        (@pass_data env (base.later earlier) nothing stage).trans (congrArg _ (handled earlier))
      exact .inr ⟨_, _, leaves first, leaves second,
        Outcome.both_map _ (twins_later first second _)⟩
    · cases taking : base.takeLine with
      | none =>
          have leaves : ∀ earlier leftover, pass env (base.behind earlier leftover) = _ :=
            fun earlier leftover =>
              @pass_unfinished env (base.behind earlier leftover) nothing stage
              (takeLine_eq_none_iff.mpr (@takeLine_eq_none_iff base |>.mp taking))
          exact .inr ⟨_, _, leaves first one, leaves second two, .returned again⟩
      | some found =>
          obtain ⟨line, taken⟩ := found
          have outside : taken.session.stage ≠ .data := by
            rw [takeLine_session taking]
            exact stage
          have takes : ∀ earlier leftover, (base.behind earlier leftover).takeLine = _ :=
            fun earlier leftover => takeLine_behind earlier leftover taking
          cases named : base.session.stage with
          | data => exact absurd named stage
          | auth =>
              have goes : ∀ earlier leftover, pass env (base.behind earlier leftover) =
                  .again ((taken.authLine env line).behind earlier leftover) :=
                fun earlier leftover =>
                  (@pass_auth env (base.behind earlier leftover) nothing _ _ named
                    (takes earlier leftover)).trans
                    (congrArg _ (authLine_behind env line earlier leftover taken))
              refine .inl ⟨_, _, goes first one, goes second two, twins_behind one two ?_⟩
              exact ((handleAuth_step _ _ _).outside outside).1
          | header =>
              obtain ⟨left, leftHandled, leftAll⟩ :=
                headerLine_behind env base.consumed line first one outside
              obtain ⟨right, rightHandled, rightAll⟩ :=
                headerLine_behind env base.consumed line second two outside
              have leftPass := @pass_header env (base.behind first one) nothing _ _ _ named
                (takes first one) leftHandled
              have rightPass := @pass_header env (base.behind second two) nothing _ _ _ named
                (takes second two) rightHandled
              cases handled : taken.headerLine env base.consumed line with
              | returned next =>
                  rw [handled] at leftPass rightPass leftAll rightAll
                  exact .inl ⟨_, _, leftPass, rightPass, next, left, right, rfl, rfl,
                    fun begun => ⟨leftAll begun, rightAll begun⟩⟩
              | threw exception next =>
                  rw [handled] at leftPass rightPass leftAll rightAll
                  exact .inr ⟨_, _, leftPass, rightPass, .threw exception
                    ⟨next, left, right, rfl, rfl, fun begun => ⟨leftAll begun, rightAll begun⟩⟩⟩

theorem processBuffer_twins (env : Env) {first second : List Event} {left right : Receiver}
    (twins : Twins first second left right) :
    Outcome.Both (Twins first second) (left.processBuffer env) (right.processBuffer env) := by
  have sameSize : left.bufSize = right.bufSize := by
    obtain ⟨base, one, two, rfl, rfl, _⟩ := twins
    rfl
  rw [processBuffer, processBuffer, sameSize]
  exact run_both (pass_twins env) (fun related => .returned related) _ twins

theorem onData_twins (env : Env) (chunk : Bytes) {first second : List Event} {left right : Receiver}
    (twins : Twins first second left right) :
    Outcome.Both (Twins first second) (left.onData env chunk) (right.onData env chunk) := by
  obtain ⟨base, one, two, rfl, rfl, data⟩ := twins
  cases closed : base.session.closed with
  | true =>
      rw [@onData_closed env chunk (base.behind first one) closed,
        @onData_closed env chunk (base.behind second two) closed]
      exact .returned ⟨base, one, two, rfl, rfl, data⟩
  | false =>
      cases overflows : (base.receive chunk).overflows with
      | true =>
          rw [@onData_overflow env chunk (base.behind first one) closed overflows,
            @onData_overflow env chunk (base.behind second two) closed overflows]
          refine .returned ⟨{ base.receive chunk with toContext := (base.receive chunk).abort },
            one, two, ?_, ?_, data⟩
          · exact congrArg (fun context => { base.receive chunk with toContext := context })
              (Context.abort_behind _ _ _)
          · exact congrArg (fun context => { base.receive chunk with toContext := context })
              (Context.abort_behind _ _ _)
      | false =>
          rw [@onData_fits env chunk (base.behind first one) closed overflows,
            @onData_fits env chunk (base.behind second two) closed overflows]
          exact processBuffer_twins env ⟨base.receive chunk, one, two, rfl, rfl, data⟩

end Receiver

/-! ## Continuations -/

/-- The rest of the world has changed, and a chunk arrives. -/
structure Arrival where
  change : World → World
  env : Env
  chunk : Bytes

namespace Receiver

/-- Chunks arrive one after the other. -/
def attend : List Arrival → Receiver → Outcome Exception Receiver
  | [], receiver => .returned receiver
  | arrival :: rest, receiver =>
      (({ receiver with world := arrival.change receiver.world } : Receiver).onData arrival.env
        arrival.chunk).andThen (attend rest)

theorem attend_twins (arrivals : List Arrival) {first second : List Event} {left right : Receiver}
    (twins : Twins first second left right) :
    Outcome.Both (Twins first second) (left.attend arrivals) (right.attend arrivals) := by
  induction arrivals generalizing left right with
  | nil => exact .returned twins
  | cons arrival rest ih =>
      obtain ⟨base, one, two, rfl, rfl, data⟩ := twins
      exact (onData_twins arrival.env arrival.chunk
        ⟨{ base with world := arrival.change base.world }, one, two, rfl, rfl, data⟩).andThen ih

/-- The session in which the next line is taken from the buffer without a call of its handler.  The
call is counted, so that later calls meet the same surroundings. -/
def skipLine (receiver : Receiver) : Receiver :=
  match receiver.takeLine with
  | none => receiver
  | some (_, taken) =>
      { taken with calls := { taken.calls with header := taken.calls.header + 1 } }

/-- A pass that goes round is the beginning of the loop. -/
theorem processBuffer_of_goes {env : Env} {before after : Receiver}
    (goes : Goes (pass env) before after) :
    before.processBuffer env = after.processBuffer env := by
  obtain ⟨last, visits, leaves⟩ := after.processBuffer_exits env
  exact (before.processBuffer_exits env).eq_of_leave (.head goes visits) leaves

end Receiver

/-- What two sessions did that were twins: the same behind different events, in the same world. -/
theorem added_of_both {first second : List Event} {one two : Outcome Exception Receiver}
    (both : one.Both (Twins first second) two) :
    ∃ added, one.Both (fun left right => left.trace = first ++ added ∧
      right.trace = second ++ added ∧
      left.world = right.world ∧ left.session.stage = right.session.stage) two := by
  cases both with
  | returned related =>
      obtain ⟨base, left, right, rfl, rfl, _⟩ := related
      exact ⟨base.trace, .returned ⟨rfl, rfl, rfl, rfl⟩⟩
  | threw exception related =>
      obtain ⟨base, left, right, rfl, rfl, _⟩ := related
      exact ⟨base.trace, .threw exception ⟨rfl, rfl, rfl, rfl⟩⟩

/-- A refused upload request changes neither the stage nor the world, and from there on the session
does the same as if the line had only been taken from the buffer. -/
theorem rejected_upload_ignored (env : Env) {receiver taken refused : Receiver} {line : Bytes}
    (stage : receiver.session.stage = .header) (taking : receiver.takeLine = some (line, taken))
    (announces : line.take 11 = ascii "FILE_START:")
    (passes : Receiver.pass env receiver = .again refused)
    (answers : Answers receiver.toContext (.returned refused.toContext) .cmdFail) :
    refused.session.stage = .header ∧ refused.world = receiver.world ∧
      (∃ first stop sent, refused.trace = receiver.trace ++
        [.headerLine first stop line, .reply .cmdFail, .sent sent]) ∧
      ∀ arrivals, ∃ added,
        Outcome.Both
          (fun left right => left.trace = refused.trace ++ added ∧
            right.trace = receiver.skipLine.trace ++ added ∧ left.world = right.world ∧
            left.session.stage = right.session.stage)
          ((receiver.processBuffer env).andThen (Receiver.attend arrivals))
          ((receiver.skipLine.processBuffer env).andThen (Receiver.attend arrivals)) := by
  have handled : taken.headerLine env receiver.consumed line = .returned refused := by
    obtain ⟨_, found, other, again, ⟨authenticating, _⟩ | ⟨_, handled⟩⟩ :=
      Receiver.goes_iff.mp passes
    · rw [stage] at authenticating
      cases authenticating
    · obtain ⟨rfl, rfl⟩ := Prod.mk.inj (Option.some.inj (taking.symm.trans again))
      exact handled
  obtain ⟨_, _, _, _, _, _, _, _, context⟩ := Receiver.takeLine_eq_some taking
  have skipped : receiver.skipLine =
      { taken with calls := { taken.calls with header := taken.calls.header + 1 } } := by
    rw [Receiver.skipLine, taking]
  have sameTrace : taken.trace = receiver.trace := by rw [context]
  have sameStage : taken.session.stage = .header := by
    rw [Receiver.takeLine_session taking]
    exact stage
  unfold Receiver.headerLine at handled
  rw [handleHeader_start announces] at handled
  cases fileStart_exit (env.header taken.calls.header) line
    (taken.emit [.headerLine receiver.consumed taken.consumed line]) with
  | threw fileName colon size allows missing same =>
      rw [same] at handled
      cases handled
  | begun colon size allows created opens same =>
      rw [same] at handled
      obtain rfl := Outcome.returned.inj handled
      cases answers.unique (answers_beginUpload (congrArg (· ++ _) sameTrace) _)
  | refused fileName expectedBytes fileFd released refusal same =>
      rw [same] at handled
      have shape := Outcome.returned.inj handled
      have sameWorld := Receiver.takeLine_world taking
      have twins : Twins refused.trace receiver.skipLine.trace refused receiver.skipLine := by
        rw [← shape, skipped]
        refine ⟨{ taken with
            trace := []
            calls := { taken.calls with header := taken.calls.header + 1 } },
          ⟨fileName, expectedBytes, fileFd⟩, taken.session.leftover, ?_, ?_, ?_⟩
        · simp [Receiver.behind, Context.behind, Context.sendResponse, Context.emit]
        · simp [Receiver.behind, Context.behind, ClientSession.leftover]
        · intro data
          cases sameStage.symm.trans data
      refine ⟨?_, ?_, ⟨receiver.consumed, taken.consumed,
        Transport.transmit taken.session.ssl
          (env.header taken.calls.header).sends Reply.cmdFail.text, ?_⟩, ?_⟩
      · rw [← shape]
        exact sameStage
      · rw [← shape]
        exact sameWorld
      · rw [← shape, ← sameTrace]
        exact List.append_assoc _ _ _
      · intro arrivals
        rw [Receiver.processBuffer_of_goes passes]
        exact added_of_both ((Receiver.processBuffer_twins env twins).andThen
          (Receiver.attend_twins arrivals))

/-- An upload without bytes is refused, and a request line arrives behind it. -/
def emptyUpload : Receiver :=
  pairedReceiver (ascii "FILE_START:f:0\n")

theorem rejected_upload_ignored_empty :
    let arrivals := [⟨id, .quiet, ascii "x\n"⟩]
    ∃ refused, Receiver.pass .quiet emptyUpload = .again refused ∧ refused.session.stage = .header ∧
      ∃ added,
        Outcome.Both
          (fun left right => left.trace = refused.trace ++ added ∧
            right.trace = emptyUpload.skipLine.trace ++ added)
          ((emptyUpload.processBuffer .quiet).andThen (Receiver.attend arrivals))
          ((emptyUpload.skipLine.processBuffer .quiet).andThen (Receiver.attend arrivals)) := by
  intro arrivals
  have answers : ∃ refused, Receiver.pass .quiet emptyUpload = .again refused ∧
      Answers emptyUpload.toContext (.returned refused.toContext) .cmdFail :=
    ⟨_, rfl, _, [_], _, rfl, rfl⟩
  obtain ⟨refused, passes, answered⟩ := answers
  obtain ⟨stage, _, _, same⟩ := @rejected_upload_ignored .quiet emptyUpload _ refused
    (ascii "FILE_START:f:0") rfl rfl (by decide) passes answered
  obtain ⟨added, both⟩ := same arrivals
  exact ⟨refused, passes, stage, added, both.mono fun related => ⟨related.1, related.2.1⟩⟩

end TitanShare
