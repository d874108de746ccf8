import TitanShare.UploadStream

/-!
# Upload integrity

What was written through the descriptor of an upload is a prefix of its payload as it stands in the
stream, and `FILE_OK` means the whole payload.  Sessions share the table of files, so the invariant
of one session comes with the guarantee that the steps of the others leave its descriptor alone.
-/

namespace TitanShare

open ByteText

/-! ## Descriptors of other sessions -/

/-- What the steps of a session guarantee to the others: it writes through and closes its own
descriptor only, and takes only new ones. -/
structure Receiver.Spares (before after : Receiver) : Prop where
  next : before.world.files.nextDescriptor ≤ after.world.files.nextDescriptor
  others : ∀ descriptor, descriptor < before.world.files.nextDescriptor →
    before.session.fileFd ≠ some descriptor →
    after.world.files.opened descriptor = before.world.files.opened descriptor ∧
      after.world.files.written descriptor = before.world.files.written descriptor
  own : ∀ descriptor, after.session.fileFd = some descriptor →
    before.session.fileFd = some descriptor ∨
      before.world.files.nextDescriptor ≤ descriptor
  bound : ∀ name file, before.world.files.directory name = some file →
    after.world.files.directory name = some file
  folder : after.world.receivedDir = before.world.receivedDir

namespace Receiver

theorem Spares.of_files {before after : Receiver} (files : after.world.files = before.world.files)
    (folder : after.world.receivedDir = before.world.receivedDir)
    (fileFd : after.session.fileFd = before.session.fileFd ∨ after.session.fileFd = none) :
    before.Spares after := by
  refine ⟨?_, ?_, ?_, ?_, folder⟩
  · rw [files]
  · intro descriptor _ _
    rw [files]
    exact ⟨rfl, rfl⟩
  · intro descriptor own
    rcases fileFd with same | released
    · exact .inl (same ▸ own)
    · rw [released] at own
      cases own
  · intro name file bound
    rw [files]
    exact bound

theorem Spares.refl (receiver : Receiver) : receiver.Spares receiver :=
  .of_files rfl rfl (.inl rfl)

theorem Spares.trans {first second third : Receiver} (left : first.Spares second)
    (right : second.Spares third) : first.Spares third := by
  refine ⟨left.next.trans right.next, ?_, ?_, ?_, right.folder.trans left.folder⟩
  · intro descriptor old foreign
    have stillForeign : second.session.fileFd ≠ some descriptor := by
      intro owned
      rcases left.own descriptor owned with before | new
      · exact foreign before
      · omega
    obtain ⟨opened, written⟩ := left.others descriptor old foreign
    obtain ⟨openedLater, writtenLater⟩ :=
      right.others descriptor (lt_of_lt_of_le old left.next) stillForeign
    exact ⟨openedLater.trans opened, writtenLater.trans written⟩
  · intro descriptor owned
    rcases right.own descriptor owned with before | new
    · exact left.own descriptor before
    · exact .inr (left.next.trans new)
  · intro name file bound
    exact right.bound name file (left.bound name file bound)

/-- Writing through the own descriptor. -/
theorem Stores.spares {descriptor count : Nat} {before after : Receiver}
    (owned : before.session.fileFd = some descriptor)
    (stores : Stores descriptor count before after) : before.Spares after := by
  have session := stores.session
  obtain ⟨⟨transfer, context⟩, _⟩ := stores
  have files := congrArg (fun context => context.world.files) context
  simp only at files
  refine ⟨?_, ?_, ?_, ?_, ?_⟩
  · rw [files]
    simp
  · intro other _ foreign
    have different : other ≠ descriptor := by
      rintro rfl
      exact foreign owned
    rw [files]
    refine ⟨by simp, ?_⟩
    cases isOpen : before.world.files.opened descriptor with
    | none => simp [FileTable.write, isOpen]
    | some file => rw [FileTable.write_written isOpen, Function.update_of_ne different]
  · intro other own
    rw [session] at own
    exact .inl own
  · intro name file bound
    rw [files]
    simpa using bound
  · rw [context]

/-- Closing the own descriptor. -/
theorem Spares.of_close {before after : Receiver} {descriptor : Nat}
    (owned : before.session.fileFd = some descriptor)
    (files : after.world.files = before.world.files.close descriptor)
    (folder : after.world.receivedDir = before.world.receivedDir)
    (released : after.session.fileFd = none) : before.Spares after := by
  refine ⟨?_, ?_, ?_, ?_, folder⟩
  · rw [files]
    rfl
  · intro other _ foreign
    have different : other ≠ descriptor := by
      rintro rfl
      exact foreign owned
    rw [files]
    simp [Function.update_of_ne different]
  · intro other own
    rw [released] at own
    cases own
  · intro name file bound
    rw [files]
    exact bound

theorem DataStep.spares {frame : DataFrame} {before after : Receiver}
    (step : DataStep frame before after) : before.Spares after := by
  cases step with
  | idle same =>
      subst same
      exact .refl _
  | failed descriptor owned refused fails =>
      subst fails
      exact .of_close owned rfl rfl rfl
  | stored descriptor count owned within stores => exact stores.spares owned
  | completed descriptor count owned within middle stores complete finishes =>
      subst finishes
      have stillOwned : middle.session.fileFd = some descriptor := by
        rw [stores.session]
        exact owned
      refine (stores.spares owned).trans (.of_close stillOwned ?_ ?_ ?_)
      · rw [finishUpload_world]
      · rw [finishUpload_world]
      · rw [finishUpload_session]

theorem Step.spares {before after : Receiver} (step : Step before after) :
    before.Spares after := by
  cases step with
  | receive chunk isOpen receives =>
      subst receives
      exact .of_files rfl rfl (.inl rfl)
  | overflow isOpen stage aborts =>
      subst aborts
      exact .of_files rfl rfl (.inl rfl)
  | auth raw rest frame isOpen stage view absent handles consumed files unread stream =>
      exact .of_files files.1 files.2 (.inl (handles.outside (by rw [stage]; decide)).2)
  | header raw rest frame isOpen stage view absent stop consumed handles unread stream =>
      cases handles with
      | request opener kind answers =>
          refine .of_files answers.files.1 answers.files.2 (.inl ?_)
          rw [answers.session]
          rfl
      | refusal fileName expectedBytes fileFd released answers =>
          refine .of_files answers.files.1 answers.files.2 ?_
          rw [answers.session]
          exact released
      | upload fileName expectedBytes declares positive bounded begins =>
          have fileFd := congrArg (fun context : Context => context.session.fileFd) begins
          have files := congrArg (fun context : Context => context.world.files) begins
          simp only [Context.beginUpload, Context.sendResponse_session,
            Context.sendResponse_world] at fileFd files
          refine ⟨?_, ?_, ?_, ?_, ?_⟩
          · rw [files]
            exact Nat.le_succ _
          · intro descriptor old foreign
            have different : descriptor ≠ before.world.files.nextDescriptor := by omega
            rw [files]
            simp [FileTable.create, Function.update_of_ne different]
          · intro descriptor owned
            rw [fileFd, Option.some.injEq] at owned
            exact .inr owned.le
          · intro name file bound
            rw [files]
            exact FileTable.create_directory_of_bound bound _
          · rw [begins]
            rfl
  | data frame calls isOpen stage handles =>
      have counted := handles.spares
      exact ⟨counted.next, counted.others, counted.own, counted.bound, counted.folder⟩

theorem spares_kept (initial : Receiver) : Kept initial.Spares :=
  fun spared step => spared.trans step.spares

end Receiver

/-! ## Uploads in the history of a session -/

/-- An upload as its `open` recorded it. -/
structure Upload where
  start : Nat
  descriptor : Nat
  path : Bytes
  size : Nat
  shared : Bool

def Upload.opened (upload : Upload) : Event :=
  .openUpload upload.start upload.descriptor upload.path upload.size upload.shared

/-- The history accepts an upload with `READY_FOR_FILE`, right behind the request line that declares
it, and no other upload since; `during` is what followed. -/
def Accepts (stream : Bytes) (trace : List Event) (upload : Upload) (during : List Event) : Prop :=
  (∀ event ∈ during, event.kind ≠ .upload) ∧
    ∃ before first line,
      trace = before ++
        [.headerLine first upload.start line, upload.opened, .reply .readyForFile] ++ during ∧
      ReadsLine stream first upload.start line ∧ Declares line upload.size

theorem Accepts.deliver {stream : Bytes} {trace : List Event} {upload : Upload}
    {during : List Event} (accepts : Accepts stream trace upload during) (chunk : Bytes) :
    Accepts (stream ++ chunk) trace upload during := by
  obtain ⟨quiet, before, first, line, split, reads, declares⟩ := accepts
  exact ⟨quiet, before, first, line, split, reads.append chunk, declares⟩

theorem Accepts.extend {stream : Bytes} {trace : List Event} {upload : Upload}
    {during : List Event} (accepts : Accepts stream trace upload during) {added : List Event}
    (other : ∀ event ∈ added, event.kind ≠ .upload) :
    Accepts stream (trace ++ added) upload (during ++ added) := by
  obtain ⟨quiet, before, first, line, split, reads, declares⟩ := accepts
  refine ⟨?_, before, first, line, by rw [split, List.append_assoc], reads, declares⟩
  intro event member
  rcases List.mem_append.mp member with old | new
  · exact quiet event old
  · exact other event new

/-- The first bytes of a payload. -/
def Upload.payload (upload : Upload) (stream : Bytes) (count : Nat) : Bytes :=
  (stream.drop upload.start).take count

theorem Upload.payload_append (upload : Upload) {stream : Bytes} {count : Nat}
    (inside : upload.start + count ≤ stream.length) (chunk : Bytes) :
    upload.payload (stream ++ chunk) count = upload.payload stream count := by
  unfold payload
  rw [List.drop_append_of_le_length (by omega), List.take_append_of_le_length]
  rw [List.length_drop]
  omega

/-- `FILE_OK` answers an upload whose payload was written in full. -/
def Acknowledges (stream : Bytes) (before : List Event) (event : Event) : Prop :=
  event = .reply .fileOk → ∃ upload during held,
    Accepts stream before upload
      (during ++ [.uploadDone upload.descriptor upload.path
        (upload.payload stream upload.size) held]) ∧
    upload.start + upload.size ≤ stream.length

theorem Acknowledges.deliver {stream : Bytes} {before : List Event} {event : Event}
    (acknowledges : Acknowledges stream before event) (chunk : Bytes) :
    Acknowledges (stream ++ chunk) before event := by
  intro same
  obtain ⟨upload, during, held, accepts, inside⟩ := acknowledges same
  refine ⟨upload, during, held, ?_, ?_⟩
  · rw [upload.payload_append inside chunk]
    exact accepts.deliver chunk
  · rw [List.length_append]
    omega

/-- An upload is being received: its descriptor is open and was written the payload up to the read
head. -/
structure Receiving (receiver : Receiver) (upload : Upload) : Prop where
  accepted : ∃ during, Accepts receiver.stream receiver.trace upload during
  owned : receiver.session.fileFd = some upload.descriptor
  size : receiver.session.expectedBytes = upload.size
  received_le : receiver.session.receivedBytes ≤ upload.size
  head : receiver.consumed = upload.start + receiver.session.receivedBytes
  path : uploadPath receiver.world receiver.session.fileName = upload.path
  isOpen : ∃ file, receiver.world.files.opened upload.descriptor = some file ∧
    receiver.world.files.directory upload.path = some file
  written : receiver.world.files.written upload.descriptor =
    upload.payload receiver.stream receiver.session.receivedBytes

theorem Receiving.recount {receiver : Receiver} {upload : Upload}
    (receiving : Receiving receiver upload) (calls : Calls) :
    Receiving { receiver with calls } upload :=
  ⟨receiving.accepted, receiving.owned, receiving.size, receiving.received_le, receiving.head,
    receiving.path, receiving.isOpen, receiving.written⟩

/-- What a session knows about its uploads. -/
structure Faithful (receiver : Receiver) : Prop where
  aligned : Aligned receiver
  idle : receiver.session.stage ≠ .data → receiver.session.fileFd = none
  receiving : receiver.session.stage = .data → ∃ upload, Receiving receiver upload
  acknowledged : Trace.Justified (Acknowledges receiver.stream) receiver.trace

theorem Faithful.recount {receiver : Receiver} (faithful : Faithful receiver) (calls : Calls) :
    Faithful { receiver with calls } := by
  refine ⟨faithful.aligned.recount calls, faithful.idle, ?_, faithful.acknowledged⟩
  intro stage
  obtain ⟨upload, receiving⟩ := faithful.receiving stage
  exact ⟨upload, receiving.recount calls⟩

/-! ## The steps keep uploads faithful -/

/-- Writing the bytes at the read head extends the written prefix of the payload. -/
theorem Receiving.store {before after : Receiver} {upload : Upload} {descriptor count : Nat}
    (receiving : Receiving before upload)
    (owned : before.session.fileFd = some descriptor)
    (aligned : Aligned before)
    (within : count ≤ before.session.expectedBytes - before.session.receivedBytes)
    (stores : Receiver.Stores descriptor count before after) : Receiving after upload := by
  have same : upload.descriptor = descriptor := by
    have both := receiving.owned.symm.trans owned
    exact Option.some.inj both
  have session := stores.session
  obtain ⟨file, isOpen, bound⟩ := receiving.isOpen
  obtain ⟨⟨transfer, context⟩, _, _, stream⟩ := stores
  have size := receiving.size
  have below := receiving.received_le
  have head := receiving.head
  refine ⟨?_, ?_, ?_, ?_, ?_, ?_, ?_, ?_⟩
  · rw [stream, context]
    exact receiving.accepted
  · rw [session]
    exact receiving.owned
  · rw [session]
    exact size
  · rw [session]
    simp only
    omega
  · rw [session, context]
    simp only
    omega
  · rw [context]
    exact receiving.path
  · refine ⟨file, ?_, ?_⟩
    · rw [context]
      simpa using isOpen
    · rw [context]
      simpa using bound
  · rw [same] at isOpen
    rw [session, context, stream, same]
    simp only [FileTable.write_written isOpen, Function.update_self, Upload.payload]
    rw [← same, receiving.written, aligned.view, head, Upload.payload, ← List.drop_drop,
      List.take_add]

/-- A step outside the data stage that begins no upload. -/
theorem Faithful.pass {before after : Receiver} (faithful : Faithful before)
    (aligned : Aligned after) (stream : after.stream = before.stream)
    (notData : after.session.stage ≠ .data) (released : after.session.fileFd = none)
    (extended : Trace.Extends (fun event => event.kind ≠ .data) before.trace after.trace) :
    Faithful after := by
  refine ⟨aligned, fun _ => released, fun receiving => absurd receiving notData, ?_⟩
  rw [stream]
  apply faithful.acknowledged.extend extended
  intro between event _ kind same
  exact absurd (by rw [same]; rfl) kind

/-- An accepted request line opens a fresh, empty descriptor at the read head. -/
theorem Faithful.beginUpload {before after : Receiver} (faithful : Faithful before)
    (aligned : Aligned after) (stream : after.stream = before.stream) {sends : List SendResult}
    {first stop size : Nat} {line fileName : Bytes}
    (reads : ReadsLine before.stream first stop line) (declares : Declares line size)
    (begins : after.toContext =
      Context.beginUpload
        { { before.toContext with consumed := stop }.emit [.headerLine first stop line] with
          session := { before.session with fileName, expectedBytes := size } } sends) :
    Faithful after := by
  have files := before.world.files
  let upload : Upload :=
    { start := stop
      descriptor := before.world.files.nextDescriptor
      path := uploadPath before.world fileName
      size := size
      shared := before.world.files.busy (uploadPath before.world fileName) }
  have trace : after.trace = before.trace ++
      [.headerLine first stop line, upload.opened, .reply .readyForFile] ++
        [.sent (Transport.transmit before.session.ssl sends Reply.readyForFile.text)] := by
    rw [begins, Context.beginUpload_trace]
    simp [upload, Upload.opened]
  have session : after.session =
      { before.session with
        fileName
        expectedBytes := size
        fileFd := some before.world.files.nextDescriptor
        receivedBytes := 0
        stage := .data } := by
    rw [begins]
    rfl
  have world : after.world.files = before.world.files.create upload.path := by
    rw [begins]
    rfl
  have consumed : after.consumed = stop := by
    rw [begins]
    rfl
  refine ⟨aligned, ?_, ?_, ?_⟩
  · intro notData
    rw [session] at notData
    exact absurd rfl notData
  · intro _
    refine ⟨upload, ?_, ?_, ?_, ?_, ?_, ?_, ?_, ?_⟩
    · refine ⟨_, ?_, before.trace, first, line, trace, ?_, declares⟩
      · simp [Event.kind]
      · rw [stream]
        exact reads
    · rw [session]
    · rw [session]
    · rw [session]
      exact Nat.zero_le _
    · rw [consumed, session]
      rfl
    · rw [begins]
      rfl
    · refine ⟨before.world.files.target upload.path, ?_, ?_⟩
      · rw [world]
        simp [FileTable.create, upload]
      · rw [world]
        simp [FileTable.create]
    · rw [world, session]
      simp [FileTable.create, upload, Upload.payload]
  · rw [trace, stream]
    have quiet : ∀ event ∈ [.headerLine first stop line, upload.opened, .reply .readyForFile] ++
        [.sent (Transport.transmit before.session.ssl sends Reply.readyForFile.text)],
        event ≠ .reply .fileOk := by
      simp [Upload.opened]
    rw [List.append_assoc]
    apply faithful.acknowledged.extend (Trace.extends_append quiet)
    intro between event _ other same
    exact absurd same other

/-- `FILE_OK` is sent when the payload has been written. -/
theorem Faithful.finish {before middle : Receiver} {upload : Upload}
    (faithful : Faithful before) (receiving : Receiving middle upload)
    (aligned : Aligned middle) (frame : DataFrame)
    (trace : middle.trace = before.trace) (stream : middle.stream = before.stream)
    (complete : middle.session.expectedBytes ≤ middle.session.receivedBytes)
    (alignedAfter : Aligned (middle.finishUpload frame upload.descriptor)) :
    Faithful (middle.finishUpload frame upload.descriptor) := by
  have sameStream := (middle.finishUpload_stream frame upload.descriptor).1
  have whole : middle.session.receivedBytes = upload.size := by
    have size := receiving.size
    have below := receiving.received_le
    omega
  refine ⟨alignedAfter, ?_, ?_, ?_⟩
  · intro _
    rw [Receiver.finishUpload_session]
  · intro stage
    rw [Receiver.finishUpload_session] at stage
    cases stage
  · rw [sameStream, Receiver.finishUpload_trace, Trace.justified_append_iff]
    refine ⟨?_, ?_⟩
    · rw [trace, stream]
      exact faithful.acknowledged
    · simp only [Trace.justified_cons_iff, Trace.justified_nil, and_true]
      refine ⟨by simp [Acknowledges], ?_, by simp [Acknowledges]⟩
      intro _
      obtain ⟨during, accepts⟩ := receiving.accepted
      refine ⟨upload, during,
        middle.world.files.contentAt (uploadPath middle.world middle.session.fileName), ?_, ?_⟩
      · rw [← whole, ← receiving.written, receiving.path]
        exact accepts.extend (by simp [Event.kind])
      · have reached := aligned.consumed_le
        rw [receiving.head, whole] at reached
        exact reached

theorem faithful_kept : Receiver.Kept Faithful := by
  intro before after faithful step
  have alignedAfter := aligned_kept faithful.aligned step
  cases id step with
  | receive chunk isOpen receives =>
      subst receives
      refine ⟨alignedAfter, faithful.idle, ?_, ?_⟩
      · intro stage
        obtain ⟨upload, receiving⟩ := faithful.receiving stage
        obtain ⟨during, accepts⟩ := receiving.accepted
        refine ⟨upload, ⟨during, accepts.deliver chunk⟩, receiving.owned, receiving.size,
          receiving.received_le, receiving.head, receiving.path, receiving.isOpen, ?_⟩
        have reached := faithful.aligned.consumed_le
        rw [receiving.head] at reached
        exact receiving.written.trans (upload.payload_append reached chunk).symm
      · have acknowledged : Trace.Justified (Acknowledges (before.stream ++ chunk)) before.trace :=
          faithful.acknowledged.mono fun _ _ acknowledges => acknowledges.deliver chunk
        exact acknowledged
  | overflow isOpen stage aborts =>
      subst aborts
      have notData : before.session.stage ≠ .data := by
        rw [stage]
        decide
      exact faithful.pass alignedAfter rfl notData (faithful.idle notData)
        ⟨[.closeSocket], rfl, by simp [Event.kind]⟩
  | auth raw rest frame isOpen stage view absent handles consumed files unread stream =>
      have notData : before.session.stage ≠ .data := by
        rw [stage]
        decide
      obtain ⟨outside, fileFd⟩ := handles.outside notData
      exact faithful.pass alignedAfter stream outside (fileFd.trans (faithful.idle notData))
        (step.recorded notData)
  | header raw rest frame isOpen stage view absent stop consumed handles unread stream =>
      have notData : before.session.stage ≠ .data := by
        rw [stage]
        decide
      have released := faithful.idle notData
      have recorded := step.recorded notData
      cases handles with
      | request opener kind answers =>
          exact faithful.pass alignedAfter stream (by rw [answers.session]; exact notData)
            (by rw [answers.session]; exact released) recorded
      | refusal fileName expectedBytes fileFd freed answers =>
          refine faithful.pass alignedAfter stream
            (by rw [answers.session]; exact notData) ?_ recorded
          rw [answers.session]
          rcases freed with same | none
          · exact same.trans released
          · exact none
      | upload fileName expectedBytes declares positive bounded begins =>
          refine faithful.beginUpload alignedAfter stream ?_ declares begins
          exact ⟨raw, rest, by rw [← faithful.aligned.view, view], absent, rfl, consumed⟩
  | data frame calls isOpen stage handles =>
      obtain ⟨upload, receiving⟩ := faithful.receiving stage
      have counted := receiving.recount calls
      have countedAligned := faithful.aligned.recount calls
      cases handles with
      | idle same =>
          subst same
          exact ⟨countedAligned, faithful.idle, fun _ => ⟨upload, counted⟩, faithful.acknowledged⟩
      | failed descriptor owned refused fails =>
          subst fails
          refine ⟨alignedAfter, fun _ => rfl, ?_, ?_⟩
          · intro impossible
            cases impossible
          · rw [Receiver.failWrite_trace]
            refine Trace.justified_append_iff.mpr ⟨faithful.acknowledged, ?_⟩
            simp [Trace.justified_cons_iff, Acknowledges]
      | stored descriptor count owned within stores =>
          have still := counted.store owned countedAligned (within.trans (min_le_right _ _)) stores
          have sameStage : after.session.stage = before.session.stage := by
            rw [stores.session]
          refine ⟨alignedAfter, ?_, fun _ => ⟨upload, still⟩, ?_⟩
          · intro notData
            exact absurd (sameStage.trans stage) notData
          · rw [stores.trace, stores.2.2.2]
            exact faithful.acknowledged
      | completed descriptor count owned within middle stores complete finishes =>
          subst finishes
          have still := counted.store owned countedAligned (within.trans (min_le_right _ _)) stores
          have middleAligned : Aligned middle := by
            refine faithful.aligned.advance count (within.trans (min_le_left _ _)) stores.consumed
              stores.2.1 stores.2.2.2 ?_
            intro first stop line member
            rw [stores.trace] at member
            exact member
          have same : descriptor = upload.descriptor := by
            have both := owned.symm.trans receiving.owned
            exact Option.some.inj both
          subst same
          exact faithful.finish still middleAligned frame stores.trace stores.2.2.2 complete
            alignedAfter

/-! ## All sessions of the daemon -/

/-- Only the own descriptor of a session matters to it. -/
theorem Faithful.elsewhere {receiver : Receiver} (faithful : Faithful receiver) (world : World)
    (folder : world.receivedDir = receiver.world.receivedDir)
    (bound : ∀ name file, receiver.world.files.directory name = some file →
      world.files.directory name = some file)
    (same : ∀ descriptor, receiver.session.fileFd = some descriptor →
      world.files.opened descriptor = receiver.world.files.opened descriptor ∧
        world.files.written descriptor = receiver.world.files.written descriptor) :
    Faithful { receiver with world } := by
  refine ⟨⟨faithful.aligned.consumed_le, faithful.aligned.view, faithful.aligned.lines⟩,
    faithful.idle, ?_, faithful.acknowledged⟩
  intro stage
  obtain ⟨upload, receiving⟩ := faithful.receiving stage
  obtain ⟨opened, written⟩ := same upload.descriptor receiving.owned
  refine ⟨upload, receiving.accepted, receiving.owned, receiving.size, receiving.received_le,
    receiving.head, ?_, ?_, ?_⟩
  · rw [← receiving.path]
    simp only [uploadPath, folder]
  · obtain ⟨file, isOpen, named⟩ := receiving.isOpen
    exact ⟨file, opened.trans isOpen, bound upload.path file named⟩
  · exact written.trans receiving.written

/-- The descriptor of a session has been handed out. -/
theorem Faithful.owned_lt {receiver : Receiver} (faithful : Faithful receiver) {descriptor : Nat}
    (owned : receiver.session.fileFd = some descriptor) :
    descriptor < receiver.world.files.nextDescriptor := by
  have stage : receiver.session.stage = .data := by
    by_contra notData
    have released := faithful.idle notData
    rw [owned] at released
    cases released
  obtain ⟨upload, receiving⟩ := faithful.receiving stage
  obtain ⟨file, isOpen, _⟩ := receiving.isOpen
  have same : upload.descriptor = descriptor := by
    have both := receiving.owned.symm.trans owned
    exact Option.some.inj both
  rw [← same]
  exact (receiver.world.files.opened_lt isOpen).1

theorem faithful_initial (ssl : Bool) (remoteIp : Ip) (world : World) :
    Faithful ((Client.initial ssl remoteIp).receiver world) := by
  have aligned := (separated_initial ssl remoteIp world).1
  refine ⟨aligned, fun _ => rfl, ?_, Trace.justified_nil _⟩
  intro impossible
  cases impossible

/-- Every connected session is faithful in the shared world, every acknowledgement ever made was
right, and no two sessions own one descriptor. -/
structure Fleet (daemon : Daemon) : Prop where
  faithful : ∀ {conn client}, daemon.clients conn = some client → client.gone = false →
    Faithful (client.receiver daemon.world)
  acknowledged : ∀ {conn client}, daemon.clients conn = some client →
    Trace.Justified (Acknowledges client.stream) client.trace
  distinct : ∀ {left right leftClient rightClient descriptor}, left ≠ right →
    daemon.clients left = some leftClient → leftClient.gone = false →
    daemon.clients right = some rightClient → rightClient.gone = false →
    leftClient.session.fileFd = some descriptor → rightClient.session.fileFd ≠ some descriptor

/-- One connected session moves on and spares the others. -/
theorem Fleet.move {daemon : Daemon} (fleet : Fleet daemon) {conn : Nat} {client : Client}
    (present : daemon.clients conn = some client) (connected : client.gone = false)
    {after : Receiver} (faithful : Faithful after)
    (spares : (client.receiver daemon.world).Spares after) (crashed : Bool) :
    Fleet { daemon.store conn after with crashed } := by
  refine ⟨?_, ?_, ?_⟩
  · intro other found slot here
    rcases Daemon.client_of_update slot with ⟨rfl, rfl⟩ | ⟨apart, old⟩
    · exact faithful
    · refine (fleet.faithful old here).elsewhere after.world spares.folder spares.bound ?_
      intro descriptor owned
      refine spares.others descriptor ((fleet.faithful old here).owned_lt owned) ?_
      exact fleet.distinct apart old here present connected owned
  · intro other found slot
    rcases Daemon.client_of_update slot with ⟨rfl, rfl⟩ | ⟨_, old⟩
    · exact faithful.acknowledged
    · exact fleet.acknowledged old
  · intro left right leftClient rightClient descriptor different leftSlot leftHere rightSlot
      rightHere owned
    rcases Daemon.client_of_update leftSlot with ⟨rfl, rfl⟩ | ⟨_, leftOld⟩
    · rcases Daemon.client_of_update rightSlot with ⟨rfl, rfl⟩ | ⟨_, rightOld⟩
      · exact absurd rfl different
      rcases spares.own descriptor owned with before | new
      · exact fleet.distinct different present connected rightOld rightHere before
      · intro also
        have old := (fleet.faithful rightOld rightHere).owned_lt also
        exact absurd new (not_le.mpr old)
    · rcases Daemon.client_of_update rightSlot with ⟨rfl, rfl⟩ | ⟨_, rightOld⟩
      · intro also
        rcases spares.own descriptor also with before | new
        · exact fleet.distinct different leftOld leftHere present connected owned before
        · have old := (fleet.faithful leftOld leftHere).owned_lt owned
          exact absurd new (not_le.mpr old)
      · exact fleet.distinct different leftOld leftHere rightOld rightHere owned

theorem Fleet.deliver {daemon : Daemon} (fleet : Fleet daemon) {conn : Nat} {client : Client}
    (present : daemon.clients conn = some client) (connected : client.gone = false) (chunk : Bytes)
    (env : Env) : Fleet (daemon.deliver conn client chunk env) := by
  have faithful := faithful_kept.onData env chunk (fleet.faithful present connected)
  have spares : Receiver.Kept (client.receiver daemon.world).Spares := Receiver.spares_kept _
  obtain ⟨crashed, delivered⟩ := daemon.deliver_eq_store conn client chunk env
  rw [delivered]
  exact fleet.move present connected faithful (spares.onData env chunk (.refl _)) crashed

/-- A removed session closes its own descriptor. -/
theorem Fleet.destroy {daemon : Daemon} (fleet : Fleet daemon) {conn : Nat} {client : Client}
    (present : daemon.clients conn = some client) (connected : client.gone = false) :
    Fleet (daemon.destroy conn client) := by
  have slots : ∀ {other found}, (daemon.destroy conn client).clients other = some found →
      found.gone = false → other ≠ conn ∧ daemon.clients other = some found := by
    intro other found slot here
    rcases Daemon.client_of_update slot with ⟨rfl, rfl⟩ | old
    · cases here
    · exact old
  refine ⟨?_, ?_, ?_⟩
  · intro other found slot here
    obtain ⟨different, old⟩ := slots slot here
    obtain ⟨directory, folder, _⟩ := daemon.destroy_world conn client
    refine (fleet.faithful old here).elsewhere (daemon.destroy conn client).world folder
      (fun name file bound => by rw [directory]; exact bound) ?_
    intro descriptor owned
    cases closes : client.session.fileFd with
    | none => simp [Daemon.destroy, closes, Client.receiver]
    | some closed =>
        have foreign : descriptor ≠ closed := by
          rintro rfl
          exact fleet.distinct different old here present connected owned closes
        simp [Daemon.destroy, closes, Client.receiver, Function.update_of_ne foreign]
  · intro other found slot
    rcases Daemon.client_of_update slot with ⟨rfl, rfl⟩ | ⟨_, old⟩
    · have acknowledged := fleet.acknowledged present
      exact acknowledged
    · exact fleet.acknowledged old
  · intro left right leftClient rightClient descriptor different leftSlot leftHere rightSlot
      rightHere owned
    exact fleet.distinct different (slots leftSlot leftHere).2 leftHere
      (slots rightSlot rightHere).2
      rightHere owned

/-- A new session owns nothing yet. -/
theorem Fleet.connect {daemon : Daemon} (fleet : Fleet daemon) (conn : Nat) (ssl : Bool)
    (remoteIp : Ip) :
    Fleet
      { daemon with
        clients := Function.update daemon.clients conn (some (.initial ssl remoteIp)) } := by
  refine ⟨?_, ?_, ?_⟩
  · intro other found slot here
    rcases Daemon.client_of_update slot with ⟨rfl, rfl⟩ | ⟨_, old⟩
    · exact faithful_initial ssl remoteIp daemon.world
    · exact fleet.faithful old here
  · intro other found slot
    rcases Daemon.client_of_update slot with ⟨rfl, rfl⟩ | ⟨_, old⟩
    · exact Trace.justified_nil _
    · exact fleet.acknowledged old
  · intro left right leftClient rightClient descriptor different leftSlot leftHere rightSlot
      rightHere owned
    rcases Daemon.client_of_update leftSlot with ⟨rfl, rfl⟩ | ⟨_, leftOld⟩
    · cases owned
    · rcases Daemon.client_of_update rightSlot with ⟨rfl, rfl⟩ | ⟨_, rightOld⟩
      · simp [Client.initial, ClientSession.initial]
      · exact fleet.distinct different leftOld leftHere rightOld rightHere owned

theorem fleet_of_run (startup : Startup) (inputs : List Input) :
    Fleet (Daemon.run startup inputs) := by
  refine Daemon.run_induction Fleet startup ?_ ?_ ?_ ?_ inputs
  · refine ⟨?_, ?_, ?_⟩
    · intro conn client impossible
      cases impossible
    · intro conn client impossible
      cases impossible
    · intro left right leftClient rightClient descriptor _ impossible
      cases impossible
  · intro daemon conn ssl remoteIp fleet _
    exact fleet.connect conn ssl remoteIp
  · intro daemon conn client chunk env fleet _ present connected
    exact fleet.deliver present connected chunk env
  · intro daemon conn client fleet present connected
    exact fleet.destroy present connected

theorem faithful_of_moment {startup : Startup} {inputs : List Input} {conn : Nat}
    {receiver : Receiver} (moment : Daemon.Moment startup inputs conn receiver) :
    Faithful receiver := by
  have fleet := fleet_of_run startup inputs
  cases moment with
  | between present connected => exact fleet.faithful present connected
  | within running present connected isOpen fits visits =>
      have before := fleet.faithful present connected
      exact visits.keeps faithful_kept.goes (faithful_kept before (.receive _ isOpen rfl))

/-- At every moment of every run: while a session receives an upload, exactly the first
`receivedBytes` bytes behind its request line have been written through its descriptor, in order;
and `FILE_OK` was sent for an upload only when exactly its declared bytes had been written. -/
theorem upload_integrity (startup : Startup) (inputs : List Input) (conn : Nat)
    (receiver : Receiver) (moment : Daemon.Moment startup inputs conn receiver) :
    (receiver.session.stage = .data → ∃ upload during,
      Accepts receiver.stream receiver.trace upload during ∧
        receiver.session.fileFd = some upload.descriptor ∧
        receiver.session.expectedBytes = upload.size ∧
        upload.start + receiver.session.receivedBytes ≤ receiver.stream.length ∧
        receiver.world.files.written upload.descriptor =
          (receiver.stream.drop upload.start).take receiver.session.receivedBytes) ∧
      (∀ before after, receiver.trace = before ++ .reply .fileOk :: after →
        ∃ upload during held,
          Accepts receiver.stream before upload
            (during ++ [.uploadDone upload.descriptor upload.path
              ((receiver.stream.drop upload.start).take upload.size) held]) ∧
          upload.start + upload.size ≤ receiver.stream.length) := by
  have faithful := faithful_of_moment moment
  constructor
  · intro stage
    obtain ⟨upload, receiving⟩ := faithful.receiving stage
    obtain ⟨during, accepts⟩ := receiving.accepted
    have reached := faithful.aligned.consumed_le
    rw [receiving.head] at reached
    exact ⟨upload, during, accepts, receiving.owned, receiving.size, reached, receiving.written⟩
  · intro before after split
    exact faithful.acknowledged before _ after split rfl

/-- Every `write` takes at most two bytes. -/
def Env.short : Env :=
  { Env.quiet with data := fun index => { Env.quiet.data index with write := some 2 } }

/-- The request line and four of five bytes in one chunk. -/
def shortUpload : List Input :=
  [.connect 0 false [1], .data 0 (ascii "123456\nFILE_START:f:5\nabcd") .short]

theorem upload_integrity_short :
    ∃ receiver, Daemon.Moment (.fresh (ascii "123456")) shortUpload 0 receiver ∧
      receiver.session.receivedBytes = 2 ∧ ∃ upload during,
        Accepts receiver.stream receiver.trace upload during ∧
          receiver.world.files.written upload.descriptor =
            (receiver.stream.drop upload.start).take 2 := by
  let daemon := Daemon.run (.fresh (ascii "123456")) shortUpload
  let client := (daemon.clients 0).getD (.initial false [])
  have moment : Daemon.Moment (.fresh (ascii "123456")) shortUpload 0
      (client.receiver daemon.world) := .between rfl rfl
  have integrity := upload_integrity (.fresh (ascii "123456")) shortUpload 0 _ moment
  obtain ⟨upload, during, accepts, _, _, _, written⟩ := integrity.1 (by decide)
  exact ⟨_, moment, by decide, upload, during, accepts, written⟩

end TitanShare
