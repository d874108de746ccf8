import TitanShare.Daemon

/-!
# Exceptions of the request handler

`handleHeader` and everything it calls, as far as exceptions are concerned: which request lines
return normally in which surroundings.  Only the conversion of the size of an upload is guarded.
-/

namespace TitanShare

open ByteText Outcome

/-! ## Commands -/

/-- The text begins with an integer that fits an `int`. -/
def ReadsInt (text : Bytes) : Prop :=
  Yields (stoi text)

/-- A command that no exception ends. -/
structure CommandEnv.Safe (env : CommandEnv) (cmd : Bytes) : Prop where
  /-- Both threads of an unlock start. -/
  unlock : cmd = ascii "unlock" → ∀ sessionId sessionUser,
    LockCommands.unlockTarget env = some (sessionId, sessionUser) →
      Yields (env.detach (LockCommands.activateCmd env sessionId sessionUser)) ∧
        Yields (env.detach (LockCommands.xsetCmd env sessionUser))
  /-- The metrics are UTF-8. -/
  getInfo : cmd = ascii "get_info" → ∀ text ∈ SystemInfo.texts env.readings,
    Json.validUtf8 text = true
  /-- The thread of the mirror starts, if it does not run already, and the address is UTF-8. -/
  startMirror : cmd = ascii "START_MIRROR" →
    (¬ (env.hasMirror = true ∧ env.mirrorRunning = true) → Yields env.mirrorStart) ∧
      Json.validUtf8 env.localIp = true
  mouseMove : cmd.take 11 = ascii "MOUSE_MOVE:" → env.hasInput = true → ∀ left right,
    cutAt (byte ':') (cmd.drop 11) = some (left, right) → ReadsInt left ∧ ReadsInt right
  mouseScroll : cmd.take 13 = ascii "MOUSE_SCROLL:" → env.hasInput = true →
    ReadsInt (cmd.drop 13)

theorem dump_yields_iff (readings : SystemReadings) :
    Yields (SystemInfo.dump readings) ↔
      ∀ text ∈ SystemInfo.texts readings, Json.validUtf8 text = true := by
  simp only [SystemInfo.dump, yields_bind_iff, yields_pure, and_true, exists_and_right,
    exists_ok_iff, yields_mapM_iff, Json.string_yields_iff, SystemInfo.texts,
    List.forall_mem_append, List.forall_mem_cons, List.not_mem_nil, false_implies, implies_true]
  rw [and_left_comm]

theorem handleSystemInfo_yields_iff (env : CommandEnv) :
    Yields (CommandDispatcher.handleSystemInfo env).reply ↔
      ∀ text ∈ SystemInfo.texts env.readings, Json.validUtf8 text = true := by
  have type : Json.validUtf8 (ascii "system_info") = true := by decide
  simp only [CommandDispatcher.handleSystemInfo, yields_bind_iff, yields_pure, and_true,
    exists_ok_iff, dump_yields_iff, Json.string_yields_iff, type]

theorem mirrorReply_yields_iff (env : CommandEnv) {type : Bytes}
    (valid : Json.validUtf8 type = true) :
    Yields (CommandDispatcher.mirrorReply env type) ↔ Json.validUtf8 env.localIp = true := by
  simp only [CommandDispatcher.mirrorReply, yields_bind_iff, yields_pure, and_true,
    exists_ok_iff, Json.string_yields_iff, valid]

theorem startMirror_yields_iff (env : CommandEnv) :
    Yields (CommandDispatcher.handleMirrorCommand env (ascii "START_MIRROR")).reply ↔
      (¬ (env.hasMirror = true ∧ env.mirrorRunning = true) → Yields env.mirrorStart) ∧
        Json.validUtf8 env.localIp = true := by
  have ready : Json.validUtf8 (ascii "MIRROR_READY") = true := by decide
  have error : Json.validUtf8 (ascii "MIRROR_ERROR") = true := by decide
  simp only [CommandDispatcher.handleMirrorCommand, if_true]
  by_cases running : env.hasMirror = true ∧ env.mirrorRunning = true
  · rw [if_pos running]
    simp [mirrorReply_yields_iff env ready, running]
  · rw [if_neg running]
    cases started : env.mirrorStart with
    | error exception => simp [running]
    | ok isStarted =>
        cases isStarted with
        | true => simp [mirrorReply_yields_iff env ready]
        | false => simp [mirrorReply_yields_iff env error]

theorem unlockSession_yields_iff (env : CommandEnv) :
    Yields (LockCommands.unlockSession env).reply ↔
      ∀ sessionId sessionUser, LockCommands.unlockTarget env = some (sessionId, sessionUser) →
        Yields (env.detach (LockCommands.activateCmd env sessionId sessionUser)) ∧
          Yields (env.detach (LockCommands.xsetCmd env sessionUser)) := by
  simp only [LockCommands.unlockSession]
  cases target : LockCommands.unlockTarget env with
  | none => simp
  | some pair =>
      obtain ⟨sessionId, sessionUser⟩ := pair
      cases activated : env.detach (LockCommands.activateCmd env sessionId sessionUser) with
      | error exception =>
          simp only [activated, Option.some.injEq, Prod.mk.injEq, not_yields_error, false_iff]
          intro starts
          have both := starts sessionId sessionUser ⟨rfl, rfl⟩
          rw [activated] at both
          exact not_yields_error exception both.1
      | ok _ =>
          simp only [activated, Option.some.injEq, Prod.mk.injEq, yields_map_iff]
          constructor
          · rintro wakes _ _ ⟨rfl, rfl⟩
            rw [activated]
            exact ⟨yields_ok _, wakes⟩
          · intro starts
            exact (starts sessionId sessionUser ⟨rfl, rfl⟩).2

theorem mouseMove_yields_iff {env : CommandEnv} {cmd : Bytes}
    (isMove : cmd.take 11 = ascii "MOUSE_MOVE:") :
    Yields (CommandDispatcher.handleInputCommand env cmd).reply ↔
      (env.hasInput = true → ∀ left right,
        cutAt (byte ':') (cmd.drop 11) = some (left, right) → ReadsInt left ∧ ReadsInt right) := by
  simp only [CommandDispatcher.handleInputCommand, ReadsInt]
  cases env.hasInput with
  | false => simp
  | true =>
      rw [if_neg (by decide), if_pos isMove]
      cases cut : cutAt (byte ':') (cmd.drop 11) with
      | none => simp
      | some pair =>
          obtain ⟨left, right⟩ := pair
          simp only [true_implies, Option.some.injEq, Prod.mk.injEq]
          have only_pair : (∀ first second, left = first ∧ right = second →
              Yields (stoi first) ∧ Yields (stoi second)) ↔
              Yields (stoi left) ∧ Yields (stoi right) := by
            constructor
            · intro all
              exact all left right ⟨rfl, rfl⟩
            · rintro both _ _ ⟨rfl, rfl⟩
              exact both
          rw [only_pair]
          cases stoi left with
          | error exception => simp
          | ok dx =>
              cases stoi right with
              | error exception => simp
              | ok dy => simp

/-- Input commands beside these two convert nothing. -/
theorem handleInputCommand_yields_iff (env : CommandEnv) (cmd : Bytes) :
    Yields (CommandDispatcher.handleInputCommand env cmd).reply ↔
      (cmd.take 11 = ascii "MOUSE_MOVE:" → env.hasInput = true → ∀ left right,
          cutAt (byte ':') (cmd.drop 11) = some (left, right) →
            ReadsInt left ∧ ReadsInt right) ∧
        (cmd.take 13 = ascii "MOUSE_SCROLL:" → env.hasInput = true → ReadsInt (cmd.drop 13)) := by
  by_cases isMove : cmd.take 11 = ascii "MOUSE_MOVE:"
  · have notScroll : cmd.take 13 ≠ ascii "MOUSE_SCROLL:" := by
      intro isScroll
      have front := congrArg (List.take 11) isScroll
      rw [List.take_take, show min 11 13 = 11 from rfl, isMove] at front
      exact absurd front (by decide)
    rw [mouseMove_yields_iff isMove]
    simp [isMove, notScroll]
  · by_cases isScroll : cmd.take 13 = ascii "MOUSE_SCROLL:"
    · simp only [CommandDispatcher.handleInputCommand, ReadsInt, isMove, isScroll]
      cases env.hasInput with
      | false => simp
      | true =>
          cases stoi (cmd.drop 13) with
          | error exception => simp
          | ok dy => simp
    · simp only [isMove, isScroll, false_implies, and_true, iff_true,
        CommandDispatcher.handleInputCommand, if_false]
      repeat' split
      all_goals exact yields_ok _

theorem power_yields (env : CommandEnv) (cmd : Bytes) :
    Yields (PowerCommands.execute env cmd).reply := by
  unfold PowerCommands.execute
  repeat' split
  all_goals exact yields_ok _

theorem volume_yields (env : CommandEnv) (cmd : Bytes) :
    Yields (VolumeCommands.execute env cmd).reply := by
  simp only [VolumeCommands.execute]
  repeat' split
  all_goals exact yields_ok _

/-- Locking and waking up cannot fail. -/
theorem lock_yields {env : CommandEnv} {cmd : Bytes} (other : cmd ≠ ascii "unlock") :
    Yields (LockCommands.execute env cmd).reply := by
  simp only [LockCommands.execute, other, if_false]
  repeat' split
  all_goals exact yields_ok _

/-- A command that is none of those that can fail. -/
theorem CommandEnv.Safe.of_other {env : CommandEnv} {cmd : Bytes} (notUnlock : cmd ≠ ascii "unlock")
    (notInfo : cmd ≠ ascii "get_info") (notMirror : cmd ≠ ascii "START_MIRROR")
    (notMove : cmd.take 11 ≠ ascii "MOUSE_MOVE:")
    (notScroll : cmd.take 13 ≠ ascii "MOUSE_SCROLL:") :
    env.Safe cmd where
  unlock same := absurd same notUnlock
  getInfo same := absurd same notInfo
  startMirror same := absurd same notMirror
  mouseMove same := absurd same notMove
  mouseScroll same := absurd same notScroll

/-- An exception ends a command exactly if the command is not safe. -/
theorem dispatch_yields_iff (env : CommandEnv) (cmd : Bytes) :
    Yields (CommandDispatcher.dispatch env cmd).reply ↔ env.Safe cmd := by
  unfold CommandDispatcher.dispatch
  split
  · rename_i power
    refine iff_of_true (power_yields env cmd) ?_
    obtain rfl | rfl | rfl := power
    all_goals exact .of_other (by decide) (by decide) (by decide) (by decide) (by decide)
  · split
    · rename_i volume
      refine iff_of_true (volume_yields env cmd) ?_
      obtain rfl | rfl | rfl := volume
      all_goals exact .of_other (by decide) (by decide) (by decide) (by decide) (by decide)
    · split
      · rename_i lock
        by_cases unlock : cmd = ascii "unlock"
        · subst unlock
          have executes : LockCommands.execute env (ascii "unlock") =
              LockCommands.unlockSession env := by
            rw [LockCommands.execute, if_neg (by decide), if_pos rfl]
          rw [executes, unlockSession_yields_iff]
          constructor
          · intro starts
            exact ⟨fun _ => starts, fun same => absurd same (by decide),
              fun same => absurd same (by decide), fun same => absurd same (by decide),
              fun same => absurd same (by decide)⟩
          · intro safe
            exact safe.unlock rfl
        · refine iff_of_true (lock_yields unlock) ?_
          obtain rfl | same | rfl := lock
          · exact .of_other unlock (by decide) (by decide) (by decide) (by decide)
          · exact absurd same unlock
          · exact .of_other unlock (by decide) (by decide) (by decide) (by decide)
      · rename_i notLock
        have notUnlock : cmd ≠ ascii "unlock" := fun same => notLock (.inr (.inl same))
        split
        · rename_i info
          subst info
          rw [handleSystemInfo_yields_iff]
          constructor
          · intro valid
            exact ⟨fun same => absurd same (by decide), fun _ => valid,
              fun same => absurd same (by decide), fun same => absurd same (by decide),
              fun same => absurd same (by decide)⟩
          · intro safe
            exact safe.getInfo rfl
        · rename_i notInfo
          split
          · rename_i mirror
            obtain rfl | rfl := mirror
            · rw [startMirror_yields_iff]
              constructor
              · intro starts
                exact ⟨fun same => absurd same (by decide), fun same => absurd same (by decide),
                  fun _ => starts, fun same => absurd same (by decide),
                  fun same => absurd same (by decide)⟩
              · intro safe
                exact safe.startMirror rfl
            · refine iff_of_true ?_
                (.of_other (by decide) (by decide) (by decide) (by decide) (by decide))
              rw [CommandDispatcher.handleMirrorCommand, if_neg (by decide), if_pos rfl]
              exact yields_ok _
          · rename_i noMirror
            have notMirror : cmd ≠ ascii "START_MIRROR" := fun same => noMirror (.inl same)
            split
            · rw [handleInputCommand_yields_iff]
              constructor
              · rintro ⟨moves, scrolls⟩
                exact ⟨fun same => absurd same notUnlock, fun same => absurd same notInfo,
                  fun same => absurd same notMirror, moves, scrolls⟩
              · intro safe
                exact ⟨safe.mouseMove, safe.mouseScroll⟩
            · rename_i notInput
              refine iff_of_true (yields_ok _) (.of_other notUnlock notInfo notMirror ?_ ?_)
              · intro isMove
                exact notInput (by simp [CommandDispatcher.isInputCommand, isMove])
              · intro isScroll
                exact notInput (by simp [CommandDispatcher.isInputCommand, isScroll])

/-! ## The drop folder -/

/-- An entry of the drop folder that can be listed. -/
def DirEntry.Readable (entry : DirEntry) : Prop :=
  entry.advances = true ∧
    (entry.regular = .ok false ∨
      entry.regular = .ok true ∧ Yields entry.fileSize ∧ Json.validUtf8 entry.name = true)

/-- A drop folder that can be listed. -/
def ListingEnv.Readable (env : ListingEnv) : Prop :=
  env.found = .ok false ∨ env.found = .ok true ∧ ∀ entry ∈ env.entries, entry.Readable

theorem dumpFile_yields_iff (file : Bytes × Nat) :
    Yields (dumpFile file) ↔ Json.validUtf8 file.1 = true := by
  rw [dumpFile, yields_map_iff, Json.string_yields_iff]

theorem collectFiles_yields_iff (entries : List DirEntry) :
    (∃ files, collectFiles entries = .ok files ∧
        ∀ file ∈ files, Json.validUtf8 file.1 = true) ↔
      ∀ entry ∈ entries, entry.Readable := by
  induction entries with
  | nil => simp [collectFiles]
  | cons entry rest ih =>
      rw [List.forall_mem_cons, ← ih]
      unfold DirEntry.Readable
      simp only [collectFiles, bind, Except.bind]
      cases regular : entry.regular with
      | error exception => simp
      | ok isRegular =>
          cases isRegular with
          | false =>
              cases entry.advances with
              | false => simp
              | true =>
                  cases collectFiles rest with
                  | error exception => simp
                  | ok later => simp [pure, Except.pure]
          | true =>
              cases size : entry.fileSize with
              | error exception => simp [Except.map]
              | ok bytes =>
                  cases entry.advances with
                  | false => simp [Except.map]
                  | true =>
                      cases collectFiles rest with
                      | error exception => simp [Except.map]
                      | ok later => simp [Except.map, pure, Except.pure, or_imp, forall_and]

theorem listing_yields_iff (env : ListingEnv) : Yields env.dump ↔ env.Readable := by
  have type : Json.validUtf8 (ascii "push_file_list") = true := by decide
  have serialises : ∀ files : List (Bytes × Nat),
      Yields (do
        let dumped ← files.mapM dumpFile
        let type ← Json.string (ascii "push_file_list")
        return Json.object [("files", Json.array dumped), ("type", type)]) ↔
      ∀ file ∈ files, Json.validUtf8 file.1 = true := by
    intro files
    simp only [yields_bind_iff, yields_pure, and_true, exists_ok_iff, yields_mapM_iff,
      dumpFile_yields_iff, Json.string_yields_iff, type]
  unfold ListingEnv.Readable
  rw [← collectFiles_yields_iff, ListingEnv.dump, yields_bind_iff]
  cases env.found with
  | error exception => simp
  | ok isFound =>
      cases isFound with
      | false =>
          simp only [Except.ok.injEq, exists_eq_left', Bool.false_eq_true, if_false]
          rw [yields_bind_iff]
          simp only [serialises]
          simp
      | true =>
          simp only [Except.ok.injEq, exists_eq_left', if_true]
          rw [yields_bind_iff]
          simp only [serialises]
          simp

theorem pushFileList_returns_iff (frame : HeaderFrame) (context : Context) :
    (pushFileList frame context).Returns ↔ frame.listing.Readable := by
  rw [← listing_yields_iff]
  simp only [pushFileList]
  cases frame.listing.dump with
  | error exception => simp
  | ok listing => simp

/-! ## Pushing a file -/

/-- The status updates of the streaming loop, each with the name it is given. -/
def streamPublishes (finish : PublishEnv) (name : Bytes) (size : Nat) :
    List ChunkEnv → Nat → Bool → List (PublishEnv × Bytes)
  | [], _, _ => [(finish, [])]
  | chunk :: rest, sent, good =>
      let wanted := min Config.pushChunk (size - sent)
      let count := if good then min wanted chunk.read.length else 0
      if count = 0 then [(finish, [])]
      else if Transport.carries chunk.sends count = false then [(finish, [])]
      else
        let total := sent + count
        (if chunk.due = true ∨ total = size then [(chunk.publish, name)] else []) ++
          streamPublishes finish name size rest total (good && count == wanted)

theorem streamFile_returns_iff (finish : PublishEnv) (name : Bytes) (size : Nat)
    (chunks : List ChunkEnv) (sent : Nat) (good : Bool) (context : Context) :
    (streamFile finish name size chunks sent good context).Returns ↔
      ∀ call ∈ streamPublishes finish name size chunks sent good, call.1.Succeeds call.2 := by
  induction chunks generalizing sent good context with
  | nil => simp [streamFile, streamPublishes, publishTransferState_returns_iff]
  | cons chunk rest ih =>
      have length : (chunk.delivers good (min Config.pushChunk (size - sent))).length =
          if good then min (min Config.pushChunk (size - sent)) chunk.read.length else 0 := by
        cases good with
        | false => rfl
        | true => exact List.length_take
      simp only [streamFile, streamPublishes, ← length]
      generalize chunk.delivers good (min Config.pushChunk (size - sent)) = bytes
      simp only [Transport.sendChunk_complete, List.length_eq_zero_iff]
      split
      · simp [publishTransferState_returns_iff]
      · split
        · simp [publishTransferState_returns_iff]
        · rw [List.forall_mem_append]
          refine returns_andThen_iff ?_ fun state => ih _ _ _
          split
          · simp [publishTransferState_returns_iff]
          · simp

/-- A push that no exception ends. -/
def PushEnv.Safe (env : PushEnv) (name : Bytes) : Prop :=
  env.found = .ok false ∨
    env.found = .ok true ∧
      (env.regular = .ok false ∨
        env.regular = .ok true ∧ ∃ size, env.fileSize = .ok size ∧
          (size ≠ 0 → env.opens = true →
            ∀ call ∈ streamPublishes env.finish name size env.chunks 0 true,
              call.1.Succeeds call.2))

theorem pushFile_returns_iff (frame : HeaderFrame) (filename : Bytes) (context : Context) :
    (pushFile frame filename context).Returns ↔ frame.push.Safe (baseName filename) := by
  unfold PushEnv.Safe
  simp only [pushFile]
  cases frame.push.found with
  | error exception => simp
  | ok found =>
      cases found with
      | false => simp
      | true =>
          cases frame.push.regular with
          | error exception => simp
          | ok regular =>
              cases regular with
              | false => simp
              | true =>
                  cases frame.push.fileSize with
                  | error exception => simp
                  | ok size =>
                      by_cases empty : size = 0
                      · simp [empty]
                      · cases opens : frame.push.opens with
                        | false => simp [empty]
                        | true => simp [empty, streamFile_returns_iff]

/-! ## Uploads and whole lines -/

/-- Of the upload requests only one that is accepted can fail, at creating the folder. -/
theorem fileStart_returns_iff {frame : HeaderFrame} {line : Bytes} {context : Context}
    (announces : line.take 11 = ascii "FILE_START:") :
    (fileStart frame line context).Returns ↔
      ∀ size, Declares line size → 0 < size → size ≤ Config.maxReceiveFileBytes →
        frame.createsDir = true := by
  cases fileStart_exit frame line context with
  | refused fileName expectedBytes fileFd released refusal same =>
      rw [same]
      refine iff_of_true (returns_returned _) ?_
      intro size declares positive bounded
      obtain ⟨colon, allows⟩ := declares.allows positive bounded
      exact (refusal colon size allows).1
  | threw fileName colon size allows missing same =>
      rw [same]
      refine iff_of_false (not_returns_threw _ _) ?_
      intro creates
      have created := creates size (allows.declares announces) allows.positive allows.bounded
      rw [missing] at created
      cases created
  | begun colon size allows created opens same =>
      rw [same]
      exact iff_of_true (returns_returned _) fun _ _ _ _ => created

/-- A request line that no exception ends. -/
def RequestSafe (frame : HeaderFrame) (line : Bytes) : Prop :=
  if line.take 4 = ascii "CMD:" then
    if commandOf line = ascii "push_file_list" then frame.listing.Readable
    else if 10 < (commandOf line).length ∧ (commandOf line).take 10 = ascii "push_file:" then
      frame.push.Safe (baseName ((commandOf line).drop 10))
    else frame.command.Safe (commandOf line)
  else if line.take 11 = ascii "FILE_START:" then
    ∀ size, Declares line size → 0 < size → size ≤ Config.maxReceiveFileBytes →
      frame.createsDir = true
  else True

theorem runCommand_returns_iff (frame : HeaderFrame) (cmd : Bytes) (context : Context) :
    (runCommand frame cmd context).Returns ↔ frame.command.Safe cmd := by
  rw [← dispatch_yields_iff]
  simp only [runCommand]
  cases (CommandDispatcher.dispatch frame.command cmd).reply with
  | error exception => simp
  | ok response => simp

theorem handleHeader_returns_iff (frame : HeaderFrame) (line : Bytes) (context : Context) :
    (handleHeader frame line context).Returns ↔ RequestSafe frame line := by
  simp only [handleHeader, RequestSafe]
  split
  · split
    · exact pushFileList_returns_iff frame context
    · split
      · exact pushFile_returns_iff frame _ context
      · exact runCommand_returns_iff frame _ context
  · split
    · rename_i announces
      exact fileStart_returns_iff announces
    · simp

/-! ## Exceptions leave the event loop's call -/

namespace Receiver

/-- An exception of the request handler leaves the loop, and a line that returns ends it. -/
theorem processBuffer_line {receiver : Receiver} {env : Env} {raw : Bytes}
    (isOpen : receiver.session.closed = false) (stage : receiver.session.stage = .header)
    (view : receiver.buffer.view = raw ++ [10]) (absent : 10 ∉ raw) :
    ∃ taken, receiver.takeLine = some (stripReturn raw, taken) ∧ taken.calls = receiver.calls ∧
      receiver.processBuffer env = taken.headerLine env receiver.consumed (stripReturn raw) := by
  obtain ⟨taken, taking, unread, calls, _, _⟩ := takeLine_of_view view absent
  have empty : taken.bufSize = 0 := by
    rw [bufSize, ← OffsetBuffer.length_view, unread]
    rfl
  have size : receiver.bufSize = raw.length + 1 := by
    rw [bufSize, ← OffsetBuffer.length_view, view]
    simp
  have working : ¬ (receiver.session.closed = true ∨ receiver.bufSize = 0) := by
    simp [isOpen, size]
  refine ⟨taken, taking, calls, ?_⟩
  rw [processBuffer, size]
  simp only [PassLoop.run, pass, if_neg working, stage, taking]
  cases handled : taken.headerLine env receiver.consumed (stripReturn raw) with
  | threw exception next => simp
  | returned next =>
      have buffer : next.buffer = taken.buffer := by
        have buffers := congrArg (fun outcome : Outcome Exception Receiver => outcome.state.buffer)
          handled
        simpa [headerLine] using buffers.symm
      have done : next.session.closed = true ∨ next.bufSize = 0 := by
        rw [bufSize, buffer]
        exact .inr empty
      simp [done]

theorem processBuffer_returns_iff {receiver : Receiver} {env : Env} {raw : Bytes}
    (isOpen : receiver.session.closed = false) (stage : receiver.session.stage = .header)
    (view : receiver.buffer.view = raw ++ [10]) (absent : 10 ∉ raw) :
    (receiver.processBuffer env).Returns ↔
      RequestSafe (env.header receiver.calls.header) (stripReturn raw) := by
  obtain ⟨taken, _, calls, handled⟩ := processBuffer_line isOpen stage view absent
  rw [handled, headerLine, returns_map, handleHeader_returns_iff, calls]

end Receiver

/-- A request line of an authenticated session: whatever the session is, its handler returns
normally exactly if the line is safe in its surroundings, and when the line completes, an exception
of its handler leaves `onData`. -/
theorem request_line_returns (receiver : Receiver) (env : Env) (chunk raw : Bytes)
    (isOpen : receiver.session.closed = false) (stage : receiver.session.stage = .header)
    (completes : receiver.buffer.view ++ chunk = raw ++ [10]) (absent : 10 ∉ raw) :
    (∀ context,
        (handleHeader (env.header receiver.calls.header) (Receiver.stripReturn raw)
          context).Returns ↔
          RequestSafe (env.header receiver.calls.header) (Receiver.stripReturn raw)) ∧
      ((receiver.onData env chunk).Returns ↔
        RequestSafe (env.header receiver.calls.header) (Receiver.stripReturn raw)) := by
  refine ⟨handleHeader_returns_iff _ _, ?_⟩
  have view : (receiver.receive chunk).buffer.view = raw ++ [10] := by
    rw [← completes]
    exact OffsetBuffer.view_append _ _
  have authenticated : (receiver.receive chunk).overflows = false := by
    simp [Receiver.overflows, Receiver.receive, stage]
  rw [Receiver.onData_fits env isOpen authenticated]
  exact Receiver.processBuffer_returns_iff isOpen stage view absent

/-- A session that has authenticated. -/
def paired : List Input :=
  [.connect 0 false [1], .data 0 (ascii "123456\n") .quiet]

theorem request_line_returns_mouse :
    ∃ client, (Daemon.run (.fresh (ascii "123456")) paired).clients 0 = some client ∧
      RequestSafe (Env.quiet.header client.calls.header) (ascii "CMD:MOUSE_MOVE:-1:2") ∧
      ((client.receiver (Daemon.run (.fresh (ascii "123456")) paired).world).onData .quiet
        (ascii "CMD:MOUSE_MOVE:-1:2\n")).Returns := by
  let daemon := Daemon.run (.fresh (ascii "123456")) paired
  let client := (daemon.clients 0).getD (.initial false [])
  let receiver := client.receiver daemon.world
  have lines := request_line_returns receiver .quiet (ascii "CMD:MOUSE_MOVE:-1:2\n")
    (ascii "CMD:MOUSE_MOVE:-1:2") rfl rfl (by decide) (by decide)
  have strip : Receiver.stripReturn (ascii "CMD:MOUSE_MOVE:-1:2") =
      ascii "CMD:MOUSE_MOVE:-1:2" := by
    decide
  rw [strip] at lines
  have safe : RequestSafe (Env.quiet.header receiver.calls.header)
      (ascii "CMD:MOUSE_MOVE:-1:2") :=
    (lines.1 receiver.toContext).mp ⟨_, rfl⟩
  exact ⟨client, rfl, safe, lines.2.mpr safe⟩

theorem request_line_throws :
    ¬ ∀ (startup : Startup) (inputs : List Input) (conn : Nat) (client : Client),
      (Daemon.run startup inputs).clients conn = some client → client.session.closed = false →
      client.session.stage = .header → ∀ (env : Env) (chunk raw : Bytes),
        client.buffer.view ++ chunk = raw ++ [10] → 10 ∉ raw →
          ((client.receiver (Daemon.run startup inputs).world).onData env chunk).Returns := by
  intro claim
  let client := ((Daemon.run (.fresh (ascii "123456")) paired).clients 0).getD (.initial false [])
  obtain ⟨after, returned⟩ := claim (.fresh (ascii "123456")) paired 0 client rfl rfl rfl .quiet
    (ascii "CMD:MOUSE_MOVE:a:b\n") (ascii "CMD:MOUSE_MOVE:a:b") (by decide) (by decide)
  cases returned

end TitanShare
