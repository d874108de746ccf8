import TitanShare.ClientSession

/-!
# The request handler

`ClientSession::handleHeader` with the two requests of the push direction and the start of an
upload.
-/

namespace TitanShare

open ByteText

/-- What the iteration over the drop folder finds in one entry. -/
structure DirEntry where
  name : Bytes
  /-- `entry.is_regular_file()` -/
  regular : Except Exception Bool
  /-- `entry.file_size()` -/
  fileSize : Except Exception Nat
  /-- The increment of the iterator behind this entry does not throw. -/
  advances : Bool

/-- The drop folder as `pushFileList` finds it. -/
structure ListingEnv where
  /-- `fs::exists` of the folder -/
  found : Except Exception Bool
  entries : List DirEntry

/-- A requested file as `pushFile` finds it. -/
structure PushEnv where
  /-- `fs::exists` -/
  found : Except Exception Bool
  /-- `fs::is_regular_file` -/
  regular : Except Exception Bool
  /-- `fs::file_size` -/
  fileSize : Except Exception Nat
  opens : Bool
  chunks : List ChunkEnv
  /-- The last publish call. -/
  finish : PublishEnv

/-- The surroundings of one `handleHeader` call. -/
structure HeaderFrame where
  command : CommandEnv
  listing : ListingEnv
  push : PushEnv
  /-- `create_directories` of the folder for uploads does not throw. -/
  createsDir : Bool
  /-- `open` of the upload file succeeds. -/
  opens : Bool
  sends : List SendResult

/-! ## Listing the drop folder -/

/-- The loop of `pushFileList` over the directory entries: the regular files with their sizes. -/
def collectFiles : List DirEntry → Except Exception (List (Bytes × Nat))
  | [] => .ok []
  | entry :: rest => do
      let regular ← entry.regular
      let here ← if regular then (entry.fileSize.map fun size => [(entry.name, size)]) else .ok []
      if entry.advances = false then .error .filesystemError
      else
        let later ← collectFiles rest
        return here ++ later

/-- The serialised object of one file. -/
def dumpFile (file : Bytes × Nat) : Except Exception Bytes :=
  (Json.string file.1).map fun name => Json.object [("name", name), ("size", decimal file.2)]

/-- The text `pushFileList` sends, without its newline. -/
def ListingEnv.dump (env : ListingEnv) : Except Exception Bytes := do
  let found ← env.found
  let files ← if found then collectFiles env.entries else .ok []
  let dumped ← files.mapM dumpFile
  let type ← Json.string (ascii "push_file_list")
  return Json.object [("files", Json.array dumped), ("type", type)]

/-- `ClientSession::pushFileList` -/
def pushFileList (frame : HeaderFrame) (context : Context) : Outcome Exception Context :=
  let started := context.emit [.pushFileList]
  match frame.listing.dump with
  | .error exception => .threw exception started
  | .ok listing => .returned (started.sendResponse frame.sends (.fileList listing))

/-! ## Pushing one file -/

/-- The part of a requested name behind its last slash or backslash. -/
def baseName (filename : Bytes) : Bytes :=
  filename.rtakeWhile fun current => current != byte '/' && current != byte '\\'

/-- The bytes one `ifs.read` delivers; a failed stream delivers none. -/
def ChunkEnv.delivers (chunk : ChunkEnv) (good : Bool) (wanted : Nat) : Bytes :=
  if good then chunk.read.take wanted else []

/-- The streaming loop of `pushFile` and what follows it.  `good` is the state of the input stream,
which a short read fails. -/
def streamFile (finish : PublishEnv) (name : Bytes) (size : Nat) :
    List ChunkEnv → Nat → Bool → Context → Outcome Exception Context
  | [], _, _, context => publishTransferState finish ⟨false, true, [], 1, 1⟩ context
  | chunk :: rest, sent, good, context =>
      let wanted := min Config.pushChunk (size - sent)
      let bytes := chunk.delivers good wanted
      if bytes = [] then publishTransferState finish ⟨false, true, [], 1, 1⟩ context
      else
        let pushed := Transport.sendChunk chunk.sends bytes
        let written := context.emit [.pushed pushed.1]
        if pushed.2 = false then publishTransferState finish ⟨false, true, [], 0, 1⟩ written
        else
          let total := sent + bytes.length
          let published :=
            if chunk.due = true ∨ total = size then
              publishTransferState chunk.publish ⟨true, true, name, total, size⟩ written
            else .returned written
          published.andThen
            (streamFile finish name size rest total (good && bytes.length == wanted))

/-- The connection takes the whole line that promises a file. -/
def HeaderFrame.takes (frame : HeaderFrame) (ssl : Bool) (name : Bytes) (size : Nat) : Bool :=
  decide (Transport.Taken ssl frame.sends (Reply.filePush name size).text)

theorem HeaderFrame.takes_iff (frame : HeaderFrame) (ssl : Bool) (name : Bytes) (size : Nat) :
    frame.takes ssl name size = true ↔
      Transport.transmit ssl frame.sends (Reply.filePush name size).text =
        (Reply.filePush name size).text := by
  rw [Transport.transmit_eq_iff]
  exact decide_eq_true_iff

/-- `ClientSession::pushFile` -/
def pushFile (frame : HeaderFrame) (filename : Bytes) (context : Context) :
    Outcome Exception Context :=
  let started := context.emit [.pushFile filename]
  let answer (reply : Reply) : Outcome Exception Context :=
    .returned (started.sendResponse frame.sends reply)
  let safe := baseName filename
  let path := context.world.sendDir ++ ascii "/" ++ safe
  match frame.push.found with
  | .error exception => .threw exception started
  | .ok false => answer .fileNotFound
  | .ok true =>
      match frame.push.regular with
      | .error exception => .threw exception started
      | .ok false => answer .fileNotFound
      | .ok true =>
          match frame.push.fileSize with
          | .error exception => .threw exception started
          | .ok size =>
              if size = 0 then answer .emptyFile
              else if frame.push.opens = false then answer .cannotOpen
              else
                let opened :=
                  started.emit
                    [.openPush path size (frame.takes context.session.ssl safe size)
                      frame.push.chunks]
                streamFile frame.push.finish safe size frame.push.chunks 0 true
                  (opened.sendResponse frame.sends (.filePush safe size))

/-! ## Starting an upload -/

/-- The path an upload is stored under, as `open` reads it. -/
def uploadPath (world : World) (fileName : Bytes) : Bytes :=
  cString (world.receivedDir ++ ascii "/" ++ fileName)

/-- `open` of the upload file succeeded. -/
def Context.beginUpload (context : Context) (sends : List SendResult) : Context :=
  let files := context.world.files
  let path := uploadPath context.world context.session.fileName
  let opened :=
    { context.emit
        [.openUpload context.consumed files.nextDescriptor path context.session.expectedBytes
          (files.busy path)] with
      world := { context.world with files := files.create path }
      session :=
        { context.session with
          fileFd := some files.nextDescriptor
          receivedBytes := 0
          stage := .data } }
  opened.sendResponse sends .readyForFile

theorem Context.beginUpload_trace (context : Context) (sends : List SendResult) :
    (context.beginUpload sends).trace =
      context.trace ++
        [.openUpload context.consumed context.world.files.nextDescriptor
            (uploadPath context.world context.session.fileName) context.session.expectedBytes
            (context.world.files.busy (uploadPath context.world context.session.fileName)),
          .reply .readyForFile,
          .sent (Transport.transmit context.session.ssl sends Reply.readyForFile.text)] := by
  simp [beginUpload, sendResponse, emit]

/-- A request line announces an upload of this size. -/
def Declares (line : Bytes) (size : Nat) : Prop :=
  line.take 11 = ascii "FILE_START:" ∧
    ∃ colon, rfind (byte ':') line = some colon ∧ 11 < colon ∧
      stoull (line.drop (colon + 1)) = .ok size

/-- The `FILE_START:` branch of `handleHeader`. -/
def fileStart (frame : HeaderFrame) (line : Bytes) (context : Context) :
    Outcome Exception Context :=
  let refuse (context : Context) : Outcome Exception Context :=
    .returned (context.sendResponse frame.sends .cmdFail)
  match rfind (byte ':') line with
  | none => refuse context
  | some lastColon =>
      if lastColon ≤ 11 then refuse context
      else
        let fileName :=
          replace (byte '\\') (byte '_')
            (replace (byte '/') (byte '_') ((line.drop 11).take (lastColon - 11)))
        let named := { context with session := { context.session with fileName } }
        match stoull (line.drop (lastColon + 1)) with
        | .error _ => refuse named
        | .ok size =>
            let sized := { named with session := { named.session with expectedBytes := size } }
            if size = 0 then refuse sized
            else if Config.maxReceiveFileBytes < size then refuse sized
            else if frame.createsDir = false then .threw .filesystemError sized
            else if frame.opens = false then
              refuse { sized with session := { sized.session with fileFd := none } }
            else .returned (sized.beginUpload frame.sends)

/-! ## The grammar of requests -/

/-- The command of a `CMD:` line. -/
def commandOf (line : Bytes) : Bytes :=
  (line.drop 4).dropWhile (· == 32)

/-- The name of the file that a push request asks for. -/
def requestedName (line : Bytes) : Bytes :=
  baseName ((commandOf line).drop 10)

/-- Hand a command to the dispatcher and send its response, if any. -/
def runCommand (frame : HeaderFrame) (cmd : Bytes) (context : Context) :
    Outcome Exception Context :=
  let answer := CommandDispatcher.dispatch frame.command cmd
  let acted := context.emit (.dispatch cmd :: answer.actions.map Event.act)
  match answer.reply with
  | .error exception => .threw exception acted
  | .ok response =>
      .returned
        (if response = [] then acted
        else acted.sendResponse frame.sends (.dispatched response))

/-- `ClientSession::handleHeader` -/
def handleHeader (frame : HeaderFrame) (line : Bytes) (context : Context) :
    Outcome Exception Context :=
  if line.take 4 = ascii "CMD:" then
    let cmd := commandOf line
    if cmd = ascii "push_file_list" then pushFileList frame context
    else if 10 < cmd.length ∧ cmd.take 10 = ascii "push_file:" then
      pushFile frame (cmd.drop 10) context
    else runCommand frame cmd context
  else if line.take 11 = ascii "FILE_START:" then fileStart frame line context
  else .returned (context.sendResponse frame.sends .unknownRequest)

/-! ## What a request line does -/

/-- The effects of one request line: it begins a request and answers it, or it is an upload request
that is refused, or it begins an upload. -/
inductive HeaderStep (frame : HeaderFrame) (line : Bytes) (before after : Context) : Prop
  | request (opener : Event) (kind : opener.kind = .request)
      (answers : Context.Emits .answer (before.emit [opener]) after)
  | refusal (fileName : Bytes) (expectedBytes : Nat) (fileFd : Option Nat)
      (released : fileFd = before.session.fileFd ∨ fileFd = none)
      (answers : Context.Emits .answer
        { before with session := { before.session with fileName, expectedBytes, fileFd } } after)
  | upload (fileName : Bytes) (expectedBytes : Nat) (declares : Declares line expectedBytes)
      (positive : 0 < expectedBytes) (bounded : expectedBytes ≤ Config.maxReceiveFileBytes)
      (begins : after =
        Context.beginUpload
          { before with session := { before.session with fileName, expectedBytes } } frame.sends)

theorem publishTransferState_emits (kind : EventKind) (env : PublishEnv) (state : TransferState)
    (context : Context) :
    Context.Emits kind context (publishTransferState env state context).state := by
  obtain ⟨transfer, published⟩ := publishTransferState_state env state context
  rw [published]
  exact Context.emits_withTransfer kind context transfer

theorem pushFileList_emits (frame : HeaderFrame) (context : Context) :
    Context.Emits .answer (context.emit [.pushFileList]) (pushFileList frame context).state := by
  simp only [pushFileList]
  split
  · exact .refl _
  · exact Context.emits_sendResponse _ _ rfl

theorem streamFile_emits (finish : PublishEnv) (name : Bytes) (size : Nat)
    (chunks : List ChunkEnv) (sent : Nat) (good : Bool) (context : Context) :
    Context.Emits .answer context (streamFile finish name size chunks sent good context).state := by
  induction chunks generalizing sent good context with
  | nil => exact publishTransferState_emits _ _ _ _
  | cons chunk rest ih =>
      simp only [streamFile]
      generalize chunk.delivers good (min Config.pushChunk (size - sent)) = bytes
      have pushes : Context.Emits .answer context
          (context.emit [.pushed (Transport.sendChunk chunk.sends bytes).1]) :=
        Context.emits_emit _ (by simp [Event.kind])
      split
      · exact publishTransferState_emits _ _ _ _
      · split
        · exact pushes.trans (publishTransferState_emits _ _ _ _)
        · refine pushes.trans ?_
          apply Outcome.andThen_keeps
          · split
            · exact publishTransferState_emits _ _ _ _
            · exact .refl _
          · intro state emitted
            exact emitted.trans (ih _ _ _)

/-- A push finds a file of this size to send. -/
structure PushEnv.Offers (env : PushEnv) (size : Nat) : Prop where
  found : env.found = .ok true
  regular : env.regular = .ok true
  fileSize : env.fileSize = .ok size
  nonempty : size ≠ 0
  opens : env.opens = true

/-- The state in which the loop of `pushFile` starts: the file is open and its size is promised. -/
def HeaderFrame.promised (frame : HeaderFrame) (filename : Bytes) (size : Nat)
    (context : Context) : Context :=
  let path := context.world.sendDir ++ ascii "/" ++ baseName filename
  let opened := (context.emit [.pushFile filename]).emit
    [.openPush path size (frame.takes context.session.ssl (baseName filename) size)
      frame.push.chunks]
  opened.sendResponse frame.sends (.filePush (baseName filename) size)

/-- The ways out of `pushFile`. -/
inductive PushExit (frame : HeaderFrame) (filename : Bytes) (context : Context)
    (outcome : Outcome Exception Context) : Prop
  | threw (exception : Exception) (missing : ∀ size, ¬ frame.push.Offers size)
      (same : outcome = .threw exception (context.emit [.pushFile filename]))
  | refused (reply : Reply)
      (refusal : reply = .fileNotFound ∨ reply = .emptyFile ∨ reply = .cannotOpen)
        (missing : ∀ size, ¬ frame.push.Offers size)
      (same : outcome =
        .returned ((context.emit [.pushFile filename]).sendResponse frame.sends reply))
  | streamed (size : Nat) (offers : frame.push.Offers size)
      (same : outcome = streamFile frame.push.finish (baseName filename) size frame.push.chunks 0
        true (frame.promised filename size context))

theorem pushFile_exit (frame : HeaderFrame) (filename : Bytes) (context : Context) :
    PushExit frame filename context (pushFile frame filename context) := by
  simp only [pushFile]
  split
  · rename_i failed
    exact .threw _ (fun _ offers => by simp [offers.found] at failed) rfl
  · rename_i absent
    exact .refused _ (by simp) (fun _ offers => by simp [offers.found] at absent) rfl
  · rename_i found
    split
    · rename_i failed
      exact .threw _ (fun _ offers => by simp [offers.regular] at failed) rfl
    · rename_i irregular
      exact .refused _ (by simp) (fun _ offers => by simp [offers.regular] at irregular) rfl
    · rename_i regular
      split
      · rename_i failed
        exact .threw _ (fun _ offers => by simp [offers.fileSize] at failed) rfl
      · rename_i size fileSize
        split
        · rename_i empty
          refine .refused _ (by simp) ?_ rfl
          intro other offers
          have sizes := Except.ok.inj (offers.fileSize.symm.trans fileSize)
          exact offers.nonempty (sizes.trans empty)
        · rename_i nonempty
          split
          · rename_i closed
            exact .refused _ (by simp) (fun _ offers => by simp [offers.opens] at closed) rfl
          · rename_i opens
            exact .streamed size ⟨found, regular, fileSize, nonempty, by simpa using opens⟩ rfl

theorem pushFile_emits (frame : HeaderFrame) (filename : Bytes) (context : Context) :
    Context.Emits .answer (context.emit [.pushFile filename])
      (pushFile frame filename context).state := by
  cases pushFile_exit frame filename context with
  | threw exception missing same =>
      rw [same]
      exact .refl _
  | refused reply refusal missing same =>
      rw [same]
      obtain rfl | rfl | rfl := refusal <;> exact Context.emits_sendResponse _ _ rfl
  | streamed size offers same =>
      rw [same]
      refine .trans ?_ (streamFile_emits _ _ _ _ _ _ _)
      refine .trans ?_ (Context.emits_sendResponse _ _ rfl)
      exact Context.emits_emit _ (by simp [Event.kind])

theorem runCommand_emits (frame : HeaderFrame) (cmd : Bytes) (context : Context) :
    Context.Emits .answer (context.emit [.dispatch cmd]) (runCommand frame cmd context).state := by
  have acts : ∀ actions : List Action,
      Context.Emits .answer (context.emit [.dispatch cmd])
        (context.emit (.dispatch cmd :: actions.map Event.act)) := by
    intro actions
    have appended : context.emit (.dispatch cmd :: actions.map Event.act) =
        (context.emit [.dispatch cmd]).emit (actions.map Event.act) := by
      simp [Context.emit]
    rw [appended]
    apply Context.emits_emit
    intro event member
    obtain ⟨action, _, rfl⟩ := List.mem_map.mp member
    rfl
  simp only [runCommand]
  split
  · exact acts _
  · split
    · exact acts _
    · exact (acts _).trans (Context.emits_sendResponse _ _ rfl)

/-- `fileStart` finds a name in front of this colon and a size it allows behind it. -/
structure AllowsUpload (line : Bytes) (colon size : Nat) : Prop where
  found : rfind (byte ':') line = some colon
  behind : 11 < colon
  parsed : stoull (line.drop (colon + 1)) = .ok size
  positive : 0 < size
  bounded : size ≤ Config.maxReceiveFileBytes

theorem AllowsUpload.declares {line : Bytes} {colon size : Nat}
    (allows : AllowsUpload line colon size) (announces : line.take 11 = ascii "FILE_START:") :
    Declares line size :=
  ⟨announces, colon, allows.found, allows.behind, allows.parsed⟩

theorem Declares.allows {line : Bytes} {size : Nat} (declares : Declares line size)
    (positive : 0 < size) (bounded : size ≤ Config.maxReceiveFileBytes) :
    ∃ colon, AllowsUpload line colon size := by
  obtain ⟨_, colon, found, behind, parsed⟩ := declares
  exact ⟨colon, found, behind, parsed, positive, bounded⟩

/-- The ways out of `fileStart`. -/
inductive StartExit (frame : HeaderFrame) (line : Bytes) (context : Context)
    (outcome : Outcome Exception Context) : Prop
  | refused (fileName : Bytes) (expectedBytes : Nat) (fileFd : Option Nat)
      (released : fileFd = context.session.fileFd ∨ fileFd = none)
      (refusal : ∀ colon size, AllowsUpload line colon size →
        frame.createsDir = true ∧ frame.opens = false)
      (same : outcome = .returned (Context.sendResponse
        { context with session := { context.session with fileName, expectedBytes, fileFd } }
        frame.sends .cmdFail))
  | threw (fileName : Bytes) (colon size : Nat) (allows : AllowsUpload line colon size)
      (missing : frame.createsDir = false)
      (same : outcome = .threw .filesystemError
        { context with session := { context.session with fileName, expectedBytes := size } })
  | begun (colon size : Nat) (allows : AllowsUpload line colon size)
      (created : frame.createsDir = true) (opens : frame.opens = true)
      (same : outcome = .returned (Context.beginUpload
        { context with
          session :=
            { context.session with
              fileName := replace (byte '\\') (byte '_')
                (replace (byte '/') (byte '_') ((line.drop 11).take (colon - 11)))
              expectedBytes := size } }
        frame.sends))

theorem fileStart_exit (frame : HeaderFrame) (line : Bytes) (context : Context) :
    StartExit frame line context (fileStart frame line context) := by
  simp only [fileStart]
  split
  · rename_i absent
    refine .refused _ _ _ (.inl rfl) ?_ rfl
    intro colon size allows
    simp [allows.found] at absent
  · rename_i lastColon found
    have last : ∀ {colon size}, AllowsUpload line colon size → colon = lastColon := by
      intro colon size allows
      exact Option.some.inj (allows.found.symm.trans found)
    split
    · rename_i early
      refine .refused _ _ _ (.inl rfl) ?_ rfl
      intro colon size allows
      obtain rfl := last allows
      exact absurd early (not_le.mpr allows.behind)
    · rename_i behind
      split
      · rename_i unread
        refine .refused _ _ _ (.inl rfl) ?_ rfl
        intro colon size allows
        obtain rfl := last allows
        simp [allows.parsed] at unread
      · rename_i size parsed
        have read : ∀ {colon other}, AllowsUpload line colon other → other = size := by
          intro colon other allows
          obtain rfl := last allows
          exact Except.ok.inj (allows.parsed.symm.trans parsed)
        split
        · rename_i empty
          refine .refused _ _ _ (.inl rfl) ?_ rfl
          intro colon other allows
          exact absurd ((read allows).trans empty) allows.positive.ne'
        · rename_i nonempty
          split
          · rename_i large
            refine .refused _ _ _ (.inl rfl) ?_ rfl
            intro colon other allows
            obtain rfl := read allows
            exact absurd large (not_lt.mpr allows.bounded)
          · rename_i bounded
            have allows : AllowsUpload line lastColon size :=
              ⟨found, not_le.mp behind, parsed, Nat.pos_of_ne_zero nonempty, not_lt.mp bounded⟩
            split
            · rename_i missing
              exact .threw _ lastColon size allows missing rfl
            · rename_i present
              have created : frame.createsDir = true := by simpa using present
              split
              · rename_i closed
                exact .refused _ _ _ (.inr rfl) (fun _ _ _ => ⟨created, closed⟩) rfl
              · rename_i opens
                exact .begun lastColon size allows created (by simpa using opens) rfl

theorem fileStart_step (frame : HeaderFrame) (line : Bytes) (context : Context)
    (announces : line.take 11 = ascii "FILE_START:") :
    HeaderStep frame line context (fileStart frame line context).state := by
  cases fileStart_exit frame line context with
  | refused fileName expectedBytes fileFd released refusal same =>
      rw [same]
      exact .refusal fileName expectedBytes fileFd released (Context.emits_sendResponse _ _ rfl)
  | threw fileName colon size allows missing same =>
      rw [same]
      exact .refusal fileName size _ (.inl rfl) (.refl _)
  | begun colon size allows created opens same =>
      rw [same]
      exact .upload _ size (allows.declares announces) allows.positive allows.bounded rfl

theorem handleHeader_step (frame : HeaderFrame) (line : Bytes) (context : Context) :
    HeaderStep frame line context (handleHeader frame line context).state := by
  simp only [handleHeader]
  split
  · split
    · exact .request .pushFileList rfl (pushFileList_emits _ _)
    · split
      · exact .request (.pushFile _) rfl (pushFile_emits _ _ _)
      · exact .request (.dispatch _) rfl (runCommand_emits _ _ _)
  · split
    · rename_i announces
      exact fileStart_step frame line context announces
    · refine .request (.reply .unknownRequest) rfl ?_
      rw [Outcome.state_returned, Context.sendResponse_eq]
      exact Context.emits_emit _ (by simp [Event.kind])

/-- A request line records what it begins and how it is answered. -/
theorem HeaderStep.kinds {frame : HeaderFrame} {line : Bytes} {before after : Context}
    (step : HeaderStep frame line before after) :
    Trace.Extends (fun event => event.kind = .request ∨ event.kind = .upload ∨ event.kind = .answer)
      before.trace after.trace := by
  cases step with
  | request opener kind answers =>
      have opens : Trace.Extends
          (fun event => event.kind = .request ∨ event.kind = .upload ∨ event.kind = .answer)
          before.trace (before.emit [opener]).trace :=
        Trace.extends_append (by simp [kind])
      exact opens.trans (answers.kinds.mono fun _ answer => .inr (.inr answer))
  | refusal fileName expectedBytes fileFd released answers =>
      exact answers.kinds.mono fun _ answer => .inr (.inr answer)
  | upload fileName expectedBytes declares positive bounded begins =>
      rw [begins, Context.beginUpload_trace]
      exact Trace.extends_append (by simp [Event.kind])

theorem HeaderStep.consumed {frame : HeaderFrame} {line : Bytes} {before after : Context}
    (step : HeaderStep frame line before after) : after.consumed = before.consumed := by
  cases step with
  | request opener kind answers =>
      obtain ⟨_, _, _, rfl⟩ := answers
      rfl
  | refusal fileName expectedBytes fileFd released answers =>
      obtain ⟨_, _, _, rfl⟩ := answers
      rfl
  | upload fileName expectedBytes declares positive bounded begins =>
      rw [begins]
      rfl

end TitanShare
