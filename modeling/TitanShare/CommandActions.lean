import TitanShare.Daemon
import TitanShare.PushFraming
import TitanShare.SeatLookup

/-!
# What commands set in motion

A command makes the daemon run shell commands, start and stop the mirror, or feed the virtual input.
The text of a shell command is put together from words of the source and from the session that
`loginctl` lists: nothing that a client sends gets into a shell, neither in a command nor elsewhere.
-/

namespace TitanShare

open ByteText Words

/-! ## Shell commands -/

/-- In front of a volume command. -/
def volumePrefix (env : CommandEnv) : Bytes :=
  runuserPrefix env (VolumeCommands.sessionUser env)

/-- What is run for the session on seat0. -/
def sessionTexts (env : CommandEnv) (session : Bytes × Bytes) : List Bytes :=
  [lockCmd env session.1 session.2, LockCommands.unlockCmd env session.1 session.2,
    LockCommands.activateCmd env session.1 session.2, LockCommands.xsetCmd env session.2]

/-- All texts that a command can hand to a shell. -/
def CommandEnv.shellTexts (env : CommandEnv) : List Bytes :=
  [ascii "systemctl poweroff", ascii "systemctl reboot", ascii "systemctl suspend", listSessions,
    ascii "xset dpms force on 2>/dev/null || true",
    volumePrefix env ++ ascii "pactl set-sink-volume @DEFAULT_SINK@ +5%",
    volumePrefix env ++ ascii "pactl set-sink-volume @DEFAULT_SINK@ -5%",
    volumePrefix env ++ ascii "pactl set-sink-mute @DEFAULT_SINK@ toggle"] ++
  ((seatSession (env.exec listSessions)).map (sessionTexts env)).getD []

/-- An action that runs a shell command, with its text. -/
def Action.shellText : Action → Option Bytes
  | .exec text | .execDetached text => some text
  | _ => none

/-- Every action runs one of these texts. -/
def Runs (texts : List Bytes) (actions : List Action) : Prop :=
  ∀ action ∈ actions, ∃ text ∈ texts, action.shellText = some text

theorem runs_nil (texts : List Bytes) : Runs texts [] := by
  intro action acts
  cases acts

theorem runs_cons {texts : List Bytes} {action : Action} {actions : List Action} {text : Bytes}
    (shell : action.shellText = some text) (member : text ∈ texts) (later : Runs texts actions) :
    Runs texts (action :: actions) := by
  intro acted acts
  rcases List.mem_cons.mp acts with rfl | behind
  · exact ⟨text, member, shell⟩
  · exact later acted behind

theorem runs_execAnswer {env : CommandEnv} {before : List Action} {texts : List Bytes}
    {text : Bytes} (earlier : Runs texts before) (member : text ∈ texts) :
    Runs texts (execAnswer env before text).actions := by
  intro action acts
  rcases List.mem_append.mp acts with old | new
  · exact earlier action old
  · exact ⟨text, member, by rw [List.mem_singleton.mp new]; rfl⟩

section Handlers

variable (env : CommandEnv)

theorem runs_listing : Runs env.shellTexts [.exec listSessions] :=
  runs_cons rfl (by simp [CommandEnv.shellTexts]) (runs_nil _)

theorem sessionTexts_mem {env : CommandEnv} {session : Bytes × Bytes} {text : Bytes}
    (listed : seatSession (env.exec listSessions) = some session)
    (member : text ∈ sessionTexts env session) : text ∈ env.shellTexts := by
  rw [CommandEnv.shellTexts, listed]
  exact List.mem_append_right _ member

theorem runs_power (cmd : Bytes) : Runs env.shellTexts (PowerCommands.execute env cmd).actions := by
  unfold PowerCommands.execute
  split
  · exact runs_execAnswer (runs_nil _) (by simp [CommandEnv.shellTexts])
  · split
    · exact runs_execAnswer (runs_nil _) (by simp [CommandEnv.shellTexts])
    · split
      · exact runs_execAnswer (runs_nil _) (by simp [CommandEnv.shellTexts])
      · exact runs_nil _

theorem runs_volume (cmd : Bytes) :
    Runs env.shellTexts (VolumeCommands.execute env cmd).actions := by
  have texts : ∀ ending : Bytes, volumePrefix env ++ ending ∈ env.shellTexts →
      Runs env.shellTexts
        (execAnswer env [.exec listSessions] (volumePrefix env ++ ending)).actions :=
    fun _ member => runs_execAnswer (runs_listing env) member
  simp only [VolumeCommands.execute]
  split
  · exact texts _ (by simp [CommandEnv.shellTexts])
  · split
    · exact texts _ (by simp [CommandEnv.shellTexts])
    · split
      · exact texts _ (by simp [CommandEnv.shellTexts])
      · exact runs_listing env

theorem runs_unlock : Runs env.shellTexts (LockCommands.unlockSession env).actions := by
  unfold LockCommands.unlockSession
  rw [unlockTarget_eq]
  cases listed : seatSession (env.exec listSessions) with
  | none => exact runs_listing env
  | some session =>
      obtain ⟨sessionId, sessionUser⟩ := session
      have listing : listSessions ∈ env.shellTexts := by simp [CommandEnv.shellTexts]
      have unlock : LockCommands.unlockCmd env sessionId sessionUser ∈ env.shellTexts :=
        sessionTexts_mem listed (by simp [sessionTexts])
      have activate : LockCommands.activateCmd env sessionId sessionUser ∈ env.shellTexts :=
        sessionTexts_mem listed (by simp [sessionTexts])
      have wake : LockCommands.xsetCmd env sessionUser ∈ env.shellTexts :=
        sessionTexts_mem listed (by simp [sessionTexts])
      have opening : ∀ {later : List Action}, Runs env.shellTexts later → Runs env.shellTexts
          (.exec listSessions :: .exec (LockCommands.unlockCmd env sessionId sessionUser) ::
            .execDetached (LockCommands.activateCmd env sessionId sessionUser) :: later) :=
        fun later => runs_cons rfl listing (runs_cons rfl unlock (runs_cons rfl activate later))
      simp only
      split
      · exact opening (runs_nil _)
      · exact opening (runs_cons rfl wake (runs_nil _))

theorem runs_lock (cmd : Bytes) : Runs env.shellTexts (LockCommands.execute env cmd).actions := by
  by_cases locks : cmd = ascii "lock"
  · rw [locks, lock_eq]
    cases listed : seatSession (env.exec listSessions) with
    | none => exact runs_listing env
    | some session =>
        exact runs_execAnswer (runs_listing env) (sessionTexts_mem listed (by simp [sessionTexts]))
  · simp only [LockCommands.execute, if_neg locks]
    split
    · exact runs_unlock env
    · split
      · exact runs_cons rfl (by simp [CommandEnv.shellTexts]) (runs_nil _)
      · exact runs_nil _

end Handlers

/-! ## Actions of a command -/

/-- What a command may set in motion, by its text. -/
inductive Prompts (env : CommandEnv) (cmd : Bytes) : Action → Prop
  | shell {action : Action} (text : Bytes) (runs : action.shellText = some text)
      (member : text ∈ env.shellTexts) : Prompts env cmd action
  | startMirror (named : cmd = ascii "START_MIRROR") : Prompts env cmd .startMirror
  | stopMirror (named : cmd = ascii "STOP_MIRROR") : Prompts env cmd .stopMirror
  | input {action : Action} (isInput : CommandDispatcher.isInputCommand cmd = true)
      (acts : action ∈ (CommandDispatcher.handleInputCommand env cmd).actions) :
      Prompts env cmd action

theorem Runs.prompts {env : CommandEnv} {cmd : Bytes} {actions : List Action} {action : Action}
    (runs : Runs env.shellTexts actions) (acts : action ∈ actions) : Prompts env cmd action := by
  obtain ⟨text, member, shell⟩ := runs action acts
  exact .shell text shell member

theorem prompts_mirror {env : CommandEnv} {cmd : Bytes} {action : Action}
    (acts : action ∈ (CommandDispatcher.handleMirrorCommand env cmd).actions) :
    Prompts env cmd action := by
  unfold CommandDispatcher.handleMirrorCommand at acts
  split at acts
  · rename_i named
    split at acts
    · cases acts
    · split at acts
      all_goals
        rw [List.mem_singleton.mp acts]
        exact .startMirror named
  · split at acts
    · rename_i named
      have member : action ∈ [Action.stopMirror] := by
        simp only at acts
        split at acts
        · exact acts
        · cases acts
      rw [List.mem_singleton.mp member]
      exact .stopMirror named
    · cases acts

/-- The actions of a command are prompted by it. -/
theorem prompts_dispatch {env : CommandEnv} {cmd : Bytes} {action : Action}
    (acts : action ∈ (CommandDispatcher.dispatch env cmd).actions) : Prompts env cmd action := by
  unfold CommandDispatcher.dispatch at acts
  split at acts
  · exact (runs_power env cmd).prompts acts
  · split at acts
    · exact (runs_volume env cmd).prompts acts
    · split at acts
      · exact (runs_lock env cmd).prompts acts
      · split at acts
        · cases acts
        · split at acts
          · exact prompts_mirror acts
          · split at acts
            · rename_i isInput
              exact .input isInput acts
            · cases acts

/-- Input commands run nothing. -/
theorem handleInputCommand_silent {env : CommandEnv} {cmd : Bytes} {action : Action}
    (acts : action ∈ (CommandDispatcher.handleInputCommand env cmd).actions) :
    action.shellText = none := by
  unfold CommandDispatcher.handleInputCommand at acts
  repeat' split at acts
  all_goals first | (rw [List.mem_singleton.mp acts]; rfl) | cases acts

/-- What a command runs is one of the texts, whatever the command is. -/
theorem shellText_of_dispatch {env : CommandEnv} {cmd : Bytes} {action : Action} {text : Bytes}
    (acts : action ∈ (CommandDispatcher.dispatch env cmd).actions)
    (shell : action.shellText = some text) : text ∈ env.shellTexts := by
  cases prompts_dispatch acts with
  | shell other runs member =>
      obtain rfl := Option.some.inj (runs.symm.trans shell)
      exact member
  | startMirror named => cases shell
  | stopMirror named => cases shell
  | input isInput prompted =>
      rw [handleInputCommand_silent prompted] at shell
      cases shell

/-! ## The texts -/

/-- The texts depend on the user that runs the daemon and on the listing of the sessions only. -/
theorem shellTexts_congr {env other : CommandEnv} (root : env.root = other.root)
    (listing : env.exec listSessions = other.exec listSessions) :
    env.shellTexts = other.shellTexts := by
  have user : VolumeCommands.sessionUser env = VolumeCommands.sessionUser other := by
    rw [sessionUser_eq, sessionUser_eq, listing]
  have session : sessionTexts env = sessionTexts other := by
    funext session
    simp only [sessionTexts, lockCmd, LockCommands.unlockCmd, LockCommands.activateCmd,
      LockCommands.xsetCmd, root]
  simp only [CommandEnv.shellTexts, volumePrefix, runuserPrefix, session, root, listing, user]

/-- The session and the user that are found are single words. -/
theorem seatSession_solid {listResult : ExecResult} {session : Bytes × Bytes}
    (found : seatSession listResult = some session) : 10 ∉ session.1 ∧ 10 ∉ session.2 := by
  unfold seatSession at found
  split at found
  · obtain ⟨line, _, rfl⟩ := Option.map_eq_some_iff.mp found
    have single : ∀ place : Nat, (10 : UInt8) ∉ (words isSpace line)[place]?.getD [] := by
      intro place
      cases isWord : (words isSpace line)[place]? with
      | none => exact List.not_mem_nil
      | some word =>
          intro member
          exact absurd (solid_of_mem (List.mem_of_getElem? isWord) 10 member) (by decide)
    exact ⟨single 0, single 2⟩
  · cases found

theorem sessionUser_solid (env : CommandEnv) : 10 ∉ VolumeCommands.sessionUser env := by
  rw [sessionUser_eq]
  cases found : seatSession (env.exec listSessions) with
  | none => decide
  | some session => exact (seatSession_solid found).2

/-- Every text is a single line, whatever the listing is. -/
theorem shellTexts_solid {env : CommandEnv} {text : Bytes} (member : text ∈ env.shellTexts) :
    10 ∉ text := by
  have before : 10 ∉ volumePrefix env := by
    have first : 10 ∉ ascii "runuser -u " := by decide
    have middle : 10 ∉ ascii " -- env XDG_RUNTIME_DIR=/run/user/$(id -u " := by decide
    have last : 10 ∉ ascii ") " := by decide
    unfold volumePrefix runuserPrefix
    split
    · simp only [List.mem_append, not_or]
      exact ⟨⟨⟨⟨first, sessionUser_solid env⟩, middle⟩, sessionUser_solid env⟩, last⟩
    · exact List.not_mem_nil
  have volume : ∀ ending : Bytes, 10 ∉ ending → 10 ∉ volumePrefix env ++ ending := by
    intro ending solid
    rw [List.mem_append, not_or]
    exact ⟨before, solid⟩
  rcases List.mem_append.mp member with fixed | listed
  · simp only [List.mem_cons, List.not_mem_nil, or_false] at fixed
    rcases fixed with rfl | rfl | rfl | rfl | rfl | rfl | rfl | rfl
    · decide
    · decide
    · decide
    · decide
    · decide
    · exact volume _ (by decide)
    · exact volume _ (by decide)
    · exact volume _ (by decide)
  · cases found : seatSession (env.exec listSessions) with
    | none =>
        rw [found] at listed
        cases listed
    | some session =>
        obtain ⟨idSolid, userSolid⟩ := seatSession_solid found
        have runuser : 10 ∉ ascii "runuser -u " := by decide
        have dashes : 10 ∉ ascii " -- " := by decide
        have asUser : 10 ∉
            if env.root then ascii "runuser -u " ++ session.2 ++ ascii " -- " else [] := by
          split
          · simp only [List.mem_append, not_or]
            exact ⟨⟨runuser, userSolid⟩, dashes⟩
          · exact List.not_mem_nil
        have login : ∀ verb : Bytes, 10 ∉ verb → 10 ∉
            (if env.root then ascii "runuser -u " ++ session.2 ++ ascii " -- " else []) ++ verb ++
              session.1 := by
          intro verb solid
          rw [List.mem_append, List.mem_append, not_or, not_or]
          exact ⟨⟨asUser, solid⟩, idSolid⟩
        rw [found] at listed
        simp only [sessionTexts, Option.map_some, Option.getD_some, List.mem_cons, List.not_mem_nil,
          or_false] at listed
        rcases listed with rfl | rfl | rfl | rfl
        · exact login _ (by decide)
        · exact login _ (by decide)
        · exact login _ (by decide)
        · have ending : 10 ∉ ascii " -- env DISPLAY=:0 xset dpms force on" := by decide
          unfold LockCommands.xsetCmd
          split
          · simp only [List.mem_append, not_or]
            exact ⟨⟨runuser, userSolid⟩, ending⟩
          · decide

/-! ## Runs -/

/-- Actions and the answers of commands were prompted by a command in these surroundings, and a
listing is that of a folder in them. -/
def Env.Prompted (env : Env) : Event → Prop
  | .act action =>
      ∃ count cmd, action ∈ (CommandDispatcher.dispatch (env.header count).command cmd).actions
  | .reply (.dispatched response) =>
      response ≠ [] ∧ ∃ count cmd,
        (CommandDispatcher.dispatch (env.header count).command cmd).reply = .ok response
  | .reply (.fileList listing) => ∃ count, (env.header count).listing.dump = .ok listing
  | _ => True

section Surroundings

variable {env : Env}

/-- Appended events that need no prompt. -/
theorem prompted_quiet {before : List Event} {added : List Event}
    (quiet : ∀ event ∈ added, env.Prompted event) :
    Trace.Extends env.Prompted before (before ++ added) :=
  Trace.extends_append quiet

theorem prompted_runCommand (count : Nat) (cmd : Bytes) (context : Context) :
    Trace.Extends env.Prompted context.trace
      (runCommand (env.header count) cmd context).state.trace := by
  have acted : Trace.Extends env.Prompted context.trace (context.emit (.dispatch cmd ::
      (CommandDispatcher.dispatch (env.header count).command cmd).actions.map
        Event.act)).trace := by
    refine Trace.extends_append ?_
    intro event member
    rcases List.mem_cons.mp member with rfl | listed
    · trivial
    · obtain ⟨action, prompted, rfl⟩ := List.mem_map.mp listed
      exact ⟨count, cmd, prompted⟩
  simp only [runCommand]
  split
  · exact acted
  · rename_i response replied
    split
    · exact acted
    · rename_i nonempty
      refine acted.trans (prompted_quiet ?_)
      intro event member
      rcases List.mem_cons.mp member with rfl | sent
      · exact ⟨nonempty, count, cmd, replied⟩
      · rw [List.mem_singleton.mp sent]
        trivial

theorem prompted_pushFile (count : Nat) (filename : Bytes) (context : Context) :
    Trace.Extends env.Prompted context.trace
      (pushFile (env.header count) filename context).state.trace := by
  cases pushFile_exit (env.header count) filename context with
  | threw exception missing same =>
      rw [same]
      exact prompted_quiet (by simp [Env.Prompted])
  | refused reply refusal missing same =>
      rw [same]
      simp only [Outcome.state_returned, Context.sendResponse_trace, Context.emit_trace,
        List.append_assoc]
      rcases refusal with rfl | rfl | rfl
      · exact prompted_quiet (by simp [Env.Prompted])
      · exact prompted_quiet (by simp [Env.Prompted])
      · exact prompted_quiet (by simp [Env.Prompted])
  | streamed size offers same =>
      rw [same]
      obtain ⟨blocks, trace⟩ := streamFile_pushes (env.header count).push.finish (baseName filename)
        size (env.header count).push.chunks 0 true
        ((env.header count).promised filename size context)
      rw [trace]
      simp only [HeaderFrame.promised, Context.sendResponse_trace, Context.emit_trace,
        List.append_assoc]
      exact prompted_quiet (by simp [Env.Prompted])

theorem prompted_handleHeader (count : Nat) (line : Bytes) (context : Context) :
    Trace.Extends env.Prompted context.trace
      (handleHeader (env.header count) line context).state.trace := by
  simp only [handleHeader]
  split
  · split
    · simp only [pushFileList]
      split
      · exact prompted_quiet (by simp [Env.Prompted])
      · rename_i listing dumped
        simp only [Outcome.state_returned, Context.sendResponse_trace, Context.emit_trace,
          List.append_assoc]
        refine prompted_quiet ?_
        intro event member
        simp only [List.mem_append, List.mem_cons, List.not_mem_nil, or_false] at member
        rcases member with rfl | rfl | rfl
        · trivial
        · exact ⟨count, dumped⟩
        · trivial
    · split
      · exact prompted_pushFile count _ context
      · exact prompted_runCommand count _ context
  · split
    · cases fileStart_exit (env.header count) line context with
      | refused fileName expectedBytes fileFd released refusal same =>
          rw [same]
          exact prompted_quiet (by simp [Env.Prompted])
      | threw fileName colon size allows missing same =>
          rw [same]
          exact .refl _
      | begun colon size allows created opens same =>
          rw [same, Outcome.state_returned, Context.beginUpload_trace]
          exact prompted_quiet (by simp [Env.Prompted])
    · exact prompted_quiet (by simp [Env.Prompted])

theorem prompted_headerLine {receiver taken : Receiver} {line : Bytes}
    (taking : receiver.takeLine = some (line, taken)) :
    Trace.Extends env.Prompted receiver.trace
      (taken.headerLine env receiver.consumed line).state.trace := by
  obtain ⟨_, _, _, _, _, _, _, _, context⟩ := Receiver.takeLine_eq_some taking
  have recorded : Trace.Extends env.Prompted receiver.trace
      (taken.emit [.headerLine receiver.consumed taken.consumed line]).trace := by
    rw [context]
    exact prompted_quiet (by simp [Env.Prompted])
  rw [Receiver.headerLine, Outcome.state_map]
  exact recorded.trans (prompted_handleHeader _ _ _)

theorem prompted_authLine {receiver taken : Receiver} {line : Bytes}
    (taking : receiver.takeLine = some (line, taken)) :
    Trace.Extends env.Prompted receiver.trace (taken.authLine env line).trace := by
  obtain ⟨_, _, _, _, _, _, _, _, context⟩ := Receiver.takeLine_eq_some taking
  have same : taken.trace = receiver.trace := by rw [context]
  rw [← same]
  cases handleAuth_step (env.auth taken.calls.auth) line taken.toContext with
  | blocked isBlocked world session sent trace =>
      exact trace ▸ prompted_quiet (by simp [Env.Prompted])
  | accepted unblocked guessed isFree isValid world session member sent trace =>
      exact trace ▸ prompted_quiet (by simp [Env.Prompted])
  | refused unblocked guessed isFree isWrong world closed closes session window sent trace =>
      rw [List.append_assoc] at trace
      refine trace ▸ prompted_quiet ?_
      cases closed with
      | true => simp [Env.Prompted]
      | false => simp [Env.Prompted]

theorem prompted_data {frame : DataFrame} {before after : Receiver}
    (handles : Receiver.DataStep frame before after) :
    Trace.Extends env.Prompted before.trace after.trace := by
  cases handles with
  | idle same => rw [same]
  | failed descriptor isOpen refused fails =>
      rw [fails, Receiver.failWrite_trace]
      exact prompted_quiet (by simp [Env.Prompted])
  | stored descriptor count isOpen within stores => rw [stores.trace]
  | completed descriptor count isOpen within middle stores complete finishes =>
      rw [finishes, Receiver.finishUpload_trace, stores.trace]
      exact prompted_quiet (by simp [Env.Prompted])

/-- What a chunk sets in motion is prompted in its surroundings. -/
theorem prompted_onData (receiver : Receiver) (chunk : Bytes) :
    Trace.Extends env.Prompted receiver.trace (receiver.onData env chunk).state.trace := by
  by_cases closed : receiver.session.closed = true
  · rw [Receiver.onData_closed env chunk closed]
    exact .refl _
  have isOpen : receiver.session.closed = false := by simpa using closed
  cases overflows : (receiver.receive chunk).overflows with
  | true =>
      rw [Receiver.onData_overflow env isOpen overflows]
      exact prompted_quiet (by simp [Env.Prompted])
  | false =>
      rw [Receiver.onData_fits env isOpen overflows]
      refine @PassLoop.Exits.keeps _ _ _
        (fun current => Trace.Extends env.Prompted receiver.trace current.trace)
        (fun outcome : Outcome Exception Receiver =>
          Trace.Extends env.Prompted receiver.trace outcome.state.trace)
        ?_ ?_ _ _ (Receiver.processBuffer_exits env (receiver.receive chunk)) (.refl _)
      · intro before after extended goes
        obtain ⟨_, line, taken, taking, ⟨_, rfl⟩ | ⟨_, handled⟩⟩ := Receiver.goes_iff.mp goes
        · exact extended.trans (prompted_authLine taking)
        · have next := @prompted_headerLine env _ _ _ taking
          rw [handled] at next
          exact extended.trans next
      · intro last outcome extended leaving
        cases Receiver.leaves_of_pass leaving with
        | idle nothing => exact extended
        | unfinished stage missing => exact extended
        | throws stillOpen stage taking handled =>
            have next := @prompted_headerLine env _ _ _ taking
            rw [handled] at next
            exact extended.trans next
        | data stillOpen buffered stage =>
            have handles := Receiver.handleFileData_step (env.data last.calls.data)
              { last with calls := { last.calls with data := last.calls.data + 1 } }
            have next := @prompted_data env _ _ _ handles
            exact extended.trans next

end Surroundings

/-- Every event of a session is prompted in the surroundings of one of the chunks of the run. -/
theorem prompted_run (startup : Startup) (inputs : List Input) (conn : Nat) (client : Client)
    (present : (Daemon.run startup inputs).clients conn = some client) :
    ∀ event ∈ client.trace,
      ∃ other chunk env, Input.data other chunk env ∈ inputs ∧ env.Prompted event := by
  have along : Daemon.Along (fun _ input => input ∈ inputs) startup inputs := by
    rintro earlier input later split
    rw [split]
    simp
  have kept := @Daemon.clients_along (fun _ input => input ∈ inputs)
    (fun receiver => ∀ event ∈ receiver.trace,
      ∃ other chunk env, Input.data other chunk env ∈ inputs ∧ env.Prompted event)
    (fun _ _ _ event member => absurd member List.not_mem_nil) (fun _ _ holds => holds) ?_ startup
    inputs along conn client present startup.world
  · exact kept
  · intro daemon conn client chunk env _ _ _ listed holds event member
    obtain ⟨added, trace, prompted⟩ :=
      @prompted_onData env (client.receiver daemon.world) chunk
    rw [trace] at member
    rcases List.mem_append.mp member with old | new
    · exact holds event old
    · exact ⟨conn, chunk, env, listed, prompted event new⟩

/-- In every run, whatever the clients send, a session hands a text to a shell only if it is one of
a dozen that the surroundings determine: the user that runs the daemon and the listing of the login
sessions.  Each of them is a single line. -/
theorem no_client_byte_in_shell (startup : Startup) (inputs : List Input) (conn : Nat)
    (client : Client) (present : (Daemon.run startup inputs).clients conn = some client)
    (action : Action) (text : Bytes) (acts : Event.act action ∈ client.trace)
    (runs : action.shellText = some text) :
    (∃ other chunk env count, Input.data other chunk env ∈ inputs ∧
      text ∈ (env.header count).command.shellTexts) ∧
      10 ∉ text ∧
      (∀ env : CommandEnv, env.shellTexts.length ≤ 12) ∧
      ∀ env other : CommandEnv, env.root = other.root →
        env.exec listSessions = other.exec listSessions → env.shellTexts = other.shellTexts := by
  obtain ⟨other, chunk, env, listed, count, cmd, dispatched⟩ :=
    prompted_run startup inputs conn client present _ acts
  have member := shellText_of_dispatch dispatched runs
  refine ⟨⟨other, chunk, env, count, listed, member⟩, shellTexts_solid member, ?_, ?_⟩
  · intro env
    unfold CommandEnv.shellTexts
    cases seatSession (env.exec listSessions) with
    | none => simp
    | some session => simp [sessionTexts]
  · intro env other root listing
    exact shellTexts_congr root listing

/-- A client that pairs and shuts the machine down. -/
theorem no_client_byte_in_shell_shutdown :
    ∃ client, (Daemon.run (.fresh (ascii "123456"))
        [.connect 0 false (ascii "10.0.0.2"),
          .data 0 (ascii "123456\nCMD:shutdown\n") .quiet]).clients 0 = some client ∧
      10 ∉ ascii "systemctl poweroff" := by
  obtain ⟨client, present, acts⟩ : ∃ client, (Daemon.run (.fresh (ascii "123456"))
      [.connect 0 false (ascii "10.0.0.2"),
        .data 0 (ascii "123456\nCMD:shutdown\n") .quiet]).clients 0 = some client ∧
      Event.act (.exec (ascii "systemctl poweroff")) ∈ client.trace :=
    ⟨_, rfl, by decide +kernel⟩
  exact ⟨client, present, (no_client_byte_in_shell _ _ 0 client present _ _ acts rfl).2.1⟩

end TitanShare
