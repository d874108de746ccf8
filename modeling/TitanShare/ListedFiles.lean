import TitanShare.PushFraming
import TitanShare.RequestSafety

/-!
# Fetching what is listed

A file of the drop folder is listed under its name as JSON text and fetched by a request line that
ends with the name.  Lines are cut at a newline and lose a carriage return at their end, and of the
requested name only the part behind the last slash or backslash is used, so a listed name comes back
as it is unless it holds one of these bytes.
-/

namespace TitanShare

open ByteText Outcome PassLoop

/-! ## The drop folder -/

/-- The entries of `SEND_TO_ANDROID_DIR` in the order of the directory; an entry without content is
not a regular file. -/
structure DropFolder where
  entries : List (Bytes × Option Bytes)
  distinct : (entries.map Prod.fst).Nodup
  named : ∀ entry ∈ entries, entry.1 ≠ []
  noSlash : ∀ entry ∈ entries, byte '/' ∉ entry.1

namespace DropFolder

/-- What the iteration over the folder finds in an entry. -/
def dirEntry (entry : Bytes × Option Bytes) : DirEntry where
  name := entry.1
  regular := .ok entry.2.isSome
  fileSize := .ok (entry.2.getD []).length
  advances := true

def listing (folder : DropFolder) : ListingEnv where
  found := .ok true
  entries := folder.entries.map dirEntry

/-- `pushFileList` succeeds and reports a file with this name and size. -/
def Reports (folder : DropFolder) (name : Bytes) (size : Nat) : Prop :=
  Yields folder.listing.dump ∧
    ∃ files, collectFiles folder.listing.entries = .ok files ∧ (name, size) ∈ files

/-- The content of the regular file with this name. -/
def content (folder : DropFolder) (name : Bytes) : Option Bytes :=
  (folder.entries.lookup name).join

end DropFolder

/-- The reads of a push deliver this content from a position on, every send goes through, and the
status updates find their folder. -/
def Streams (content : Bytes) : List ChunkEnv → Nat → Prop
  | [], sent => content.length ≤ sent
  | chunk :: rest, sent =>
      let wanted := min Config.pushChunk (content.length - sent)
      content.length ≤ sent ∨
        chunk.read.take wanted = (content.drop sent).take wanted ∧
          Transport.carries chunk.sends wanted = true ∧ chunk.publish.createsDir = true ∧
          Streams content rest (sent + wanted)

/-- The folder is unchanged and all input and output succeeds while a file of this name is asked
for. -/
def HeaderFrame.Serves (folder : DropFolder) (ssl : Bool) (asked : Bytes) (frame : HeaderFrame) :
    Prop :=
  ∀ content, folder.content asked = some content →
    frame.push.found = .ok true ∧ frame.push.regular = .ok true ∧
      frame.push.fileSize = .ok content.length ∧ frame.push.opens = true ∧
      Streams content frame.push.chunks 0 ∧ frame.push.finish.createsDir = true ∧
      Transport.transmit ssl frame.sends (Reply.filePush asked content.length).text =
        (Reply.filePush asked content.length).text

/-- The request line for a name. -/
def pushRequest (name : Bytes) : Bytes :=
  ascii "CMD:push_file:" ++ name

/-- The bytes the session sent in a stretch of a trace. -/
def wireBytes (events : List Event) : Bytes :=
  events.flatMap fun event =>
    match event with
    | .sent bytes | .pushed bytes => bytes
    | _ => []

/-- The delivery that ends a request line is answered with the promise of a file and the bytes of
the file. -/
def Fetches (env : Env) (receiver : Receiver) (chunk name content : Bytes) : Prop :=
  ∃ after added, receiver.onData env chunk = .returned after ∧
    after.trace = receiver.trace ++ added ∧
    .reply (.filePush name content.length) ∈ added ∧
    wireBytes added = (Reply.filePush name content.length).text ++ content

/-! ## What is listed -/

theorem collectFiles_dirEntry (entries : List (Bytes × Option Bytes)) :
    collectFiles (entries.map DropFolder.dirEntry) =
      .ok (entries.filterMap fun entry => entry.2.map fun content =>
        (entry.1, content.length)) := by
  induction entries with
  | nil => rfl
  | cons entry entries ih =>
      obtain ⟨name, found⟩ := entry
      cases found with
      | none => simp [collectFiles, DropFolder.dirEntry, ih, bind, Except.bind, pure, Except.pure]
      | some content =>
          simp [collectFiles, DropFolder.dirEntry, ih, bind, Except.bind, Except.map, pure,
            Except.pure]

namespace DropFolder

variable {folder : DropFolder} {name : Bytes} {size : Nat}

theorem Reports.listed (reports : folder.Reports name size) :
    ∃ content, (name, some content) ∈ folder.entries ∧ content.length = size := by
  obtain ⟨_, files, collected, member⟩ := reports
  rw [listing, collectFiles_dirEntry] at collected
  rw [← Except.ok.inj collected] at member
  obtain ⟨⟨found, content⟩, inside, same⟩ := List.mem_filterMap.mp member
  cases content with
  | none => cases same
  | some content =>
      obtain ⟨rfl, rfl⟩ := Prod.mk.inj (Option.some.inj same)
      exact ⟨content, inside, rfl⟩

/-- Names are distinct, so a name leads to the entry it was read from. -/
theorem content_of_mem {content : Bytes} (member : (name, some content) ∈ folder.entries) :
    folder.content name = some content := by
  obtain ⟨earlier, later, split⟩ := List.append_of_mem member
  have first : ∀ entry ∈ earlier, name ≠ entry.1 := by
    rintro entry inside rfl
    have distinct := folder.distinct
    rw [split, List.map_append, List.nodup_append] at distinct
    exact distinct.2.2 _ (List.mem_map_of_mem inside) _ (List.mem_map_of_mem List.mem_cons_self) rfl
  have looked : folder.entries.lookup name = some (some content) := by
    rw [List.lookup_eq_some_iff]
    exact ⟨earlier, later, split, fun entry inside => by simpa using first entry inside⟩
  rw [DropFolder.content, looked]
  rfl

/-- A reported name is UTF-8. -/
theorem Reports.validUtf8 (reports : folder.Reports name size) : Json.validUtf8 name = true := by
  obtain ⟨content, member, _⟩ := reports.listed
  have readable := (listing_yields_iff _).mp reports.1
  rcases readable with missing | ⟨_, entries⟩
  · cases missing
  · have entry := entries (dirEntry (name, some content)) (List.mem_map_of_mem member)
    rcases entry.2 with other | ⟨_, _, valid⟩
    · cases other
    · exact valid

end DropFolder

/-! ## Streaming the content -/

theorem publishTransferState_creates {env : PublishEnv} {state : TransferState}
    (creates : env.createsDir = true) (valid : Json.validUtf8 state.filename = true)
    (context : Context) :
    ∃ after, publishTransferState env state context = .returned after ∧
      after.trace = context.trace := by
  obtain ⟨after, returned⟩ :=
    (publishTransferState_returns_iff env state context).mpr ⟨creates, fun _ => valid⟩
  exact ⟨after, returned, publishTransferState_returned returned⟩

/-- The loop of `pushFile` sends what the reads deliver. -/
theorem streamFile_streams {finish : PublishEnv} {name content : Bytes} {chunks : List ChunkEnv}
    {sent : Nat} (finishes : finish.createsDir = true) (valid : Json.validUtf8 name = true)
    (streams : Streams content chunks sent) (below : sent ≤ content.length) (context : Context) :
    ∃ after, ∃ blocks : List Bytes,
      streamFile finish name content.length chunks sent true context = .returned after ∧
        after.trace = context.trace ++ blocks.map Event.pushed ∧
        blocks.flatten = content.drop sent := by
  induction chunks generalizing sent context with
  | nil =>
      obtain ⟨after, returned, trace⟩ := publishTransferState_creates finishes
        (rfl : Json.validUtf8 (⟨false, true, [], 1, 1⟩ : TransferState).filename = true) context
      exact ⟨after, [], returned, by simpa using trace, by simpa [Streams] using streams⟩
  | cons chunk rest ih =>
      simp only [streamFile, ChunkEnv.delivers, if_true, Bool.true_and]
      simp only [Streams] at streams
      generalize wantedEq : min Config.pushChunk (content.length - sent) = wanted at streams ⊢
      have chunkPositive : 0 < Config.pushChunk := by decide
      rcases Nat.lt_or_ge sent content.length with more | whole
      · obtain ⟨read, carried, creates, later⟩ := streams.resolve_left (not_le.mpr more)
        have length : (chunk.read.take wanted).length = wanted := by
          rw [read, List.length_take, List.length_drop]
          omega
        have nonempty : chunk.read.take wanted ≠ [] := List.ne_nil_of_length_pos (by omega)
        have sentBytes := Transport.sendChunk_sent chunk.sends (chunk.read.take wanted)
        have complete := Transport.sendChunk_complete chunk.sends (chunk.read.take wanted)
        rw [length] at sentBytes complete
        rw [if_pos carried] at sentBytes
        rw [carried] at complete
        rw [if_neg nonempty, complete, sentBytes, length]
        simp only [Bool.true_eq_false, if_false, beq_self_eq_true]
        -- the progress update returns in either case, and records nothing
        obtain ⟨middle, progressed, middleTrace⟩ : ∃ middle,
            (if chunk.due = true ∨ sent + wanted = content.length then
              publishTransferState chunk.publish ⟨true, true, name, sent + wanted, content.length⟩
                (context.emit [.pushed (chunk.read.take wanted)])
            else .returned (context.emit [.pushed (chunk.read.take wanted)])) = .returned middle ∧
              middle.trace = context.trace ++ [.pushed (chunk.read.take wanted)] := by
          split
          · exact publishTransferState_creates creates valid _
          · exact ⟨_, rfl, rfl⟩
        obtain ⟨after, blocks, returned, trace, flatten⟩ := ih later (by omega) middle
        refine ⟨after, chunk.read.take wanted :: blocks, ?_, ?_, ?_⟩
        · rw [progressed, Outcome.returned_andThen, returned]
        · rw [trace, middleTrace]
          simp
        · rw [List.flatten_cons, flatten, read, ← List.drop_drop, List.take_append_drop]
      · have nothing : wanted = 0 := by omega
        rw [nothing, List.take_zero, if_pos rfl]
        obtain ⟨after, returned, trace⟩ := publishTransferState_creates finishes
          (rfl : Json.validUtf8 (⟨false, true, [], 1, 1⟩ : TransferState).filename = true) context
        exact ⟨after, [], returned, by simpa using trace, by simpa using whole⟩

/-! ## One request line -/

/-- A delivery that ends a request line hands it to the request handler, and is over with it. -/
theorem onData_line {receiver : Receiver} (env : Env) {chunk raw : Bytes}
    (isOpen : receiver.session.closed = false) (stage : receiver.session.stage = .header)
    (completes : receiver.buffer.view ++ chunk = raw ++ [10]) (absent : 10 ∉ raw) :
    ∃ embed : Context → Receiver, (∀ context, (embed context).toContext = context) ∧
      receiver.onData env chunk =
        (handleHeader (env.header receiver.calls.header) (Receiver.stripReturn raw)
          (receiver.lineContext raw)).map embed := by
  have view : (receiver.receive chunk).buffer.view = raw ++ [10] := by
    rw [← completes]
    exact OffsetBuffer.view_append _ _
  have authenticated : (receiver.receive chunk).overflows = false := by
    simp [Receiver.overflows, Receiver.receive, stage]
  obtain ⟨taken, taking, calls, handled⟩ := @Receiver.processBuffer_line
    (receiver.receive chunk) env raw isOpen stage view absent
  obtain ⟨other, same, _, _, _, context⟩ := Receiver.takeLine_of_view view absent
  obtain ⟨-, rfl⟩ := Prod.mk.inj (Option.some.inj (taking.symm.trans same))
  refine ⟨fun context =>
    { taken with
      toContext := context
      calls := { taken.calls with header := taken.calls.header + 1 } }, fun _ => rfl, ?_⟩
  have headers : taken.calls.header = receiver.calls.header := by
    rw [calls]
    rfl
  have delivered : receiver.onData env chunk = taken.headerLine env receiver.consumed
      (Receiver.stripReturn raw) := by
    rw [Receiver.onData_fits env isOpen authenticated]
    exact handled
  rw [delivered, Receiver.headerLine, headers, context]
  rfl

/-! ## The names that are promised -/

/-- A file is promised under this name only. -/
def Event.Promises (name : Bytes) (event : Event) : Prop :=
  ∀ promised size, event = .reply (.filePush promised size) → promised = name

theorem Event.promises_of_apart (name : Bytes) (event : Event) (apart : event.pushes = false) :
    event.Promises name := by
  rintro promised size rfl
  cases apart

theorem pushFile_promises (frame : HeaderFrame) (filename : Bytes) (context : Context) :
    Trace.Extends (Event.Promises (baseName filename)) context.trace
      (pushFile frame filename context).state.trace := by
  have started : Trace.Extends (Event.Promises (baseName filename)) context.trace
      (context.emit [.pushFile filename]).trace :=
    Trace.extends_append (by simp [Event.Promises])
  cases pushFile_exit frame filename context with
  | threw exception missing same =>
      rw [same]
      exact started
  | refused reply refusal missing same =>
      rw [same, Outcome.state_returned, Context.sendResponse_trace]
      obtain rfl | rfl | rfl := refusal <;>
        exact started.trans (Trace.extends_append (by simp [Event.Promises]))
  | streamed size offers same =>
      obtain ⟨blocks, trace⟩ := streamFile_pushes frame.push.finish (baseName filename) size
        frame.push.chunks 0 true (frame.promised filename size context)
      have promised : Trace.Extends (Event.Promises (baseName filename)) context.trace
          (frame.promised filename size context).trace := by
        simp only [HeaderFrame.promised, Context.sendResponse_trace]
        refine started.trans (.trans ?_ (Trace.extends_append (by simp [Event.Promises])))
        exact Trace.extends_append (by simp [Event.Promises])
      rw [same, trace]
      exact promised.trans (Trace.extends_append (by simp [Event.Promises]))

/-- A request line promises no file but the one it asks for. -/
theorem handleHeader_promises (frame : HeaderFrame) (line : Bytes) (context : Context) :
    Trace.Extends (Event.Promises (requestedName line)) context.trace
      (handleHeader frame line context).state.trace := by
  have apart : ∀ {later : List Event},
      Trace.Extends (fun event => event.pushes = false) context.trace later →
      Trace.Extends (Event.Promises (requestedName line)) context.trace later :=
    fun extended => extended.mono (Event.promises_of_apart _)
  simp only [handleHeader]
  split
  · split
    · exact apart (pushFileList_apart _ _)
    · split
      · exact pushFile_promises _ _ _
      · exact apart (runCommand_apart _ _ _)
  · split
    · exact apart (fileStart_apart _ _ _)
    · exact apart (sendResponse_apart _ _ rfl)

theorem mem_of_mem_baseName {current : UInt8} {filename : Bytes}
    (member : current ∈ baseName filename) :
    current ∈ filename :=
  (List.rtakeWhile_suffix _ _).subset member

theorem baseName_noBackslash (filename : Bytes) : byte '\\' ∉ baseName filename := by
  intro member
  have ordinary := List.mem_rtakeWhile_imp member
  simp at ordinary

theorem mem_of_mem_requestedName {current : UInt8} {raw : Bytes}
    (member : current ∈ requestedName (Receiver.stripReturn raw)) : current ∈ raw := by
  have line := (List.dropWhile_sublist _).subset (List.mem_of_mem_drop (mem_of_mem_baseName member))
  have stripped := List.mem_of_mem_drop line
  unfold Receiver.stripReturn at stripped
  split at stripped
  · exact List.mem_of_mem_dropLast stripped
  · exact stripped

/-- The names promised since hold neither a newline nor a backslash. -/
def PlainPromises (first reached : Receiver) : Prop :=
  Trace.Extends
    (fun event => ∀ promised size, event = .reply (.filePush promised size) →
      10 ∉ promised ∧ byte '\\' ∉ promised)
    first.trace reached.trace

theorem plainPromises_kept (first : Receiver) : Receiver.Kept (PlainPromises first) := by
  intro before after plain step
  by_cases stage : before.session.stage = .header
  · cases step with
    | header raw rest frame isOpen inHeader view absent stop consumed handles unread stream
      handled =>
        have promises := handleHeader_promises frame (Receiver.stripReturn raw)
          ({ before.toContext with consumed := stop }.emit
            [.headerLine before.consumed stop (Receiver.stripReturn raw)])
        rw [handled] at promises
        have read : PlainPromises first
            { before with
              trace := before.trace ++
                [.headerLine before.consumed stop (Receiver.stripReturn raw)] } :=
          plain.trans (Trace.extends_append (by simp))
        refine read.trans (promises.mono ?_)
        rintro event only promised size same
        rw [only promised size same]
        exact ⟨fun member => absent (mem_of_mem_requestedName member), baseName_noBackslash _⟩
    | receive chunk isOpen receives =>
        rw [receives]
        exact plain
    | overflow isOpen inAuth aborts => simp [stage] at inAuth
    | auth raw rest frame isOpen inAuth view absent handles consumed files unread stream =>
        simp [stage] at inAuth
    | data frame calls isOpen inData handles => simp [stage] at inData
  · refine plain.trans ((step.apart stage).mono ?_)
    rintro event apart promised size rfl
    cases apart

/-! ## Names that come back -/

/-- The name asked for by the first line of a request. -/
def askedName (name : Bytes) : Bytes :=
  requestedName (Receiver.stripReturn ((pushRequest name).takeWhile (· ≠ 10)))

/-- A name without a newline, a backslash or a carriage return at its end. -/
structure Plain (name : Bytes) : Prop where
  newline : 10 ∉ name
  backslash : byte '\\' ∉ name
  carriageReturn : name.getLast? ≠ some 13

theorem commandOf_pushRequest (name : Bytes) :
    commandOf (pushRequest name) = ascii "push_file:" ++ name := rfl

theorem requestedName_pushRequest (name : Bytes) :
    requestedName (pushRequest name) = baseName name :=
  rfl

theorem newline_pushRequest {name : Bytes} (newline : 10 ∉ name) : 10 ∉ pushRequest name := by
  intro member
  rcases List.mem_append.mp member with inside | inside
  · exact absurd inside (by decide)
  · exact newline inside

theorem getLast_pushRequest {name : Bytes} (nonempty : name ≠ []) :
    (pushRequest name).getLast? = name.getLast? :=
  List.getLast?_append_of_ne_nil _ nonempty

theorem Plain.stripReturn {name : Bytes} (plain : Plain name) (nonempty : name ≠ []) :
    Receiver.stripReturn (pushRequest name) = pushRequest name := by
  rw [Receiver.stripReturn, getLast_pushRequest nonempty, if_neg plain.carriageReturn]

theorem Plain.baseName {name : Bytes} (plain : Plain name) (noSlash : byte '/' ∉ name) :
    baseName name = name := by
  rw [TitanShare.baseName, List.rtakeWhile_eq_self_iff]
  intro current member
  have notSlash : current ≠ byte '/' := fun same => noSlash (same ▸ member)
  have notBackslash : current ≠ byte '\\' := fun same => plain.backslash (same ▸ member)
  simp [notSlash, notBackslash]

theorem Plain.askedName {name : Bytes} (plain : Plain name) (nonempty : name ≠ [])
    (noSlash : byte '/' ∉ name) : askedName name = name := by
  have whole : (pushRequest name).takeWhile (· ≠ 10) = pushRequest name := by
    rw [List.takeWhile_eq_self_iff]
    intro current member
    have other : current ≠ 10 := fun same => newline_pushRequest plain.newline (same ▸ member)
    simp [other]
  rw [TitanShare.askedName, whole, plain.stripReturn nonempty, requestedName_pushRequest,
    plain.baseName noSlash]

theorem handleHeader_pushRequest (frame : HeaderFrame) {name : Bytes} (nonempty : name ≠ [])
    (context : Context) :
    handleHeader frame (pushRequest name) context = pushFile frame name context := by
  have notList : commandOf (pushRequest name) ≠ ascii "push_file_list" := by
    intro same
    have tenth := congrArg (fun text : Bytes => text[9]?) same
    cases tenth
  have positive := List.length_pos_of_ne_nil nonempty
  have isPush : 10 < (commandOf (pushRequest name)).length ∧
      (commandOf (pushRequest name)).take 10 = ascii "push_file:" := by
    rw [commandOf_pushRequest]
    refine ⟨?_, rfl⟩
    rw [List.length_append]
    have ten : (ascii "push_file:").length = 10 := rfl
    omega
  have isCommand : (pushRequest name).take 4 = ascii "CMD:" := rfl
  simp only [handleHeader, if_pos isCommand, if_neg notList, if_pos isPush]
  rfl

/-- `pushFile` sends the promise and the content of a file that it finds. -/
theorem pushFile_serves {folder : DropFolder} {frame : HeaderFrame} {name content : Bytes}
    {context : Context} (serves : frame.Serves folder context.session.ssl name)
    (stored : folder.content name = some content) (nonempty : content ≠ [])
    (valid : Json.validUtf8 name = true) (sameName : baseName name = name) :
    ∃ after added, pushFile frame name context = .returned after ∧
      after.trace = context.trace ++ added ∧
      .reply (.filePush name content.length) ∈ added ∧
      wireBytes added = (Reply.filePush name content.length).text ++ content := by
  obtain ⟨found, regular, fileSize, opens, streams, finishes, transmits⟩ := serves content stored
  have size : content.length ≠ 0 := by simpa using nonempty
  let path := context.world.sendDir ++ ascii "/" ++ name
  let opened := (context.emit [.pushFile name]).emit
    [.openPush path content.length (frame.takes context.session.ssl name content.length)
      frame.push.chunks]
  obtain ⟨after, blocks, returned, trace, flatten⟩ := streamFile_streams finishes valid streams
    (Nat.zero_le _) (opened.sendResponse frame.sends (.filePush name content.length))
  refine ⟨after, [.pushFile name,
    .openPush path content.length (frame.takes context.session.ssl name content.length)
      frame.push.chunks,
    .reply (.filePush name content.length),
    .sent (Reply.filePush name content.length).text] ++ blocks.map Event.pushed, ?_, ?_, ?_, ?_⟩
  · simp only [pushFile, found, regular, fileSize, opens, if_neg size, sameName, Bool.true_eq_false,
      if_false]
    exact returned
  · have sent : Transport.transmit opened.session.ssl frame.sends
        (Reply.filePush name content.length).text = (Reply.filePush name content.length).text :=
      transmits
    rw [trace, Context.sendResponse_trace, sent]
    simp [opened]
  · simp
  · have pushes : wireBytes (blocks.map Event.pushed) = blocks.flatten := by
      simp [wireBytes, List.flatMap_map]
    rw [wireBytes, List.flatMap_append, ← wireBytes, ← wireBytes, pushes, flatten]
    simp [wireBytes]

/-- A name that is promised holds neither a newline nor a backslash. -/
theorem fetches_apart {env : Env} {receiver : Receiver} {chunk name content : Bytes}
    (fetches : Fetches env receiver chunk name content) : 10 ∉ name ∧ byte '\\' ∉ name := by
  obtain ⟨after, added, returned, trace, promised, _⟩ := fetches
  have start : PlainPromises receiver receiver := ⟨[], by simp, by simp⟩
  have kept : Receiver.Kept (PlainPromises receiver) := plainPromises_kept receiver
  have reached := kept.onData env chunk start
  rw [returned, Outcome.state_returned] at reached
  obtain ⟨since, grown, plain⟩ := reached
  rw [trace, List.append_cancel_left_eq] at grown
  exact plain _ (grown ▸ promised) name content.length rfl

theorem stripReturn_pushRequest {name : Bytes} (nonempty : name ≠ [])
    (last : name.getLast? = some 13) :
    Receiver.stripReturn (pushRequest name) = pushRequest name.dropLast := by
  rw [Receiver.stripReturn, getLast_pushRequest nonempty, if_pos last, pushRequest, pushRequest,
    List.dropLast_append_of_ne_nil nonempty]

theorem length_requestedName_lt {name : Bytes} (nonempty : name ≠ []) :
    (requestedName (pushRequest name.dropLast)).length < name.length := by
  rw [requestedName_pushRequest]
  have shorter : (baseName name.dropLast).length ≤ name.dropLast.length :=
    (List.rtakeWhile_suffix _ _).length_le
  have positive := List.length_pos_of_ne_nil nonempty
  rw [List.length_dropLast] at shorter
  omega

/-- A carriage return at the end of a name is taken for the end of the line. -/
theorem fetches_carriageReturn {env : Env} {receiver : Receiver} {chunk name content : Bytes}
    (isOpen : receiver.session.closed = false) (stage : receiver.session.stage = .header)
    (completes : receiver.buffer.view ++ chunk = pushRequest name ++ [10]) (newline : 10 ∉ name)
    (nonempty : name ≠ []) (fetches : Fetches env receiver chunk name content) :
    name.getLast? ≠ some 13 := by
  intro last
  obtain ⟨after, added, returned, trace, promised, _⟩ := fetches
  obtain ⟨embed, same, delivered⟩ :=
    onData_line env isOpen stage completes (newline_pushRequest newline)
  rw [stripReturn_pushRequest nonempty last] at delivered
  obtain ⟨since, grown, only⟩ := handleHeader_promises (env.header receiver.calls.header)
    (pushRequest name.dropLast) (receiver.lineContext (pushRequest name))
  have answered : after.trace = (receiver.lineContext (pushRequest name)).trace ++ since := by
    have ended := congrArg Outcome.state delivered
    rw [returned, Outcome.state_returned, Outcome.state_map] at ended
    rw [ended, same, grown]
  have handled : .reply (.filePush name content.length) ∈ since := by
    rw [trace, Receiver.lineContext_trace, List.append_assoc,
      List.append_cancel_left_eq] at answered
    rw [answered] at promised
    simpa using promised
  have promisedName := only _ handled name content.length rfl
  exact absurd (congrArg List.length promisedName) (length_requestedName_lt nonempty).ne'

/-! ## Everything listed -/

/-- A non-empty file that is listed can be fetched by its name exactly when the name survives the
cutting of lines and of paths. -/
theorem listed_fetched_iff (folder : DropFolder) (name : Bytes) (size : Nat)
    (reports : folder.Reports name size) (positive : 0 < size) (env : Env) (receiver : Receiver)
    (chunk : Bytes) (isOpen : receiver.session.closed = false)
    (stage : receiver.session.stage = .header)
    (completes : receiver.buffer.view ++ chunk = pushRequest name ++ [10])
    (serves : (env.header receiver.calls.header).Serves folder receiver.session.ssl
      (askedName name)) :
    ∃ content, folder.content name = some content ∧ content.length = size ∧
      (Fetches env receiver chunk name content ↔ Plain name) := by
  obtain ⟨content, member, length⟩ := reports.listed
  have stored := folder.content_of_mem member
  have nonempty : name ≠ [] := folder.named _ member
  have noSlash : byte '/' ∉ name := folder.noSlash _ member
  refine ⟨content, stored, length, ?_, ?_⟩
  · intro fetches
    obtain ⟨newline, backslash⟩ := fetches_apart fetches
    exact ⟨newline, backslash,
      fetches_carriageReturn isOpen stage completes newline nonempty fetches⟩
  · intro plain
    obtain ⟨embed, same, delivered⟩ :=
      onData_line env isOpen stage completes (newline_pushRequest plain.newline)
    rw [plain.stripReturn nonempty, handleHeader_pushRequest _ nonempty] at delivered
    rw [plain.askedName nonempty noSlash] at serves
    have whole : content ≠ [] := List.ne_nil_of_length_pos (by omega)
    obtain ⟨after, added, pushed, trace, promised, wire⟩ :=
      @pushFile_serves folder (env.header receiver.calls.header) name content
        (receiver.lineContext (pushRequest name)) serves stored whole reports.validUtf8
        (plain.baseName noSlash)
    refine ⟨embed after, [.headerLine receiver.consumed
      (receiver.consumed + ((pushRequest name).length + 1))
      (Receiver.stripReturn (pushRequest name))] ++ added, ?_, ?_, ?_, ?_⟩
    · rw [delivered, pushed]
      rfl
    · rw [same, trace, Receiver.lineContext_trace, List.append_assoc]
    · exact List.mem_append_right _ promised
    · rw [wireBytes, List.flatMap_append, ← wireBytes, ← wireBytes, wire]
      rfl

/-- A folder with one file. -/
def DropFolder.single (name content : Bytes) (named : name ≠ []) (noSlash : byte '/' ∉ name) :
    DropFolder where
  entries := [(name, some content)]
  distinct := by simp
  named := by
    intro entry member
    rwa [List.mem_singleton.mp member]
  noSlash := by
    intro entry member
    rwa [List.mem_singleton.mp member]

/-- Surroundings in which a push finds this short content. -/
def Env.offering (content : Bytes) : Env :=
  { Env.quiet with
    header := fun index =>
      { Env.quiet.header index with
        push :=
          { found := .ok true
            regular := .ok true
            fileSize := .ok content.length
            opens := true
            chunks := [⟨content, [], true, ⟨true, true⟩⟩]
            finish := ⟨true, true⟩ } } }

theorem listed_fetched_iff_note :
    ∃ client, (Daemon.run (.fresh (ascii "123456")) paired).clients 0 = some client ∧
      Fetches (.offering (ascii "hi")) (client.receiver (Daemon.run (.fresh (ascii "123456"))
        paired).world) (ascii "CMD:push_file:note.txt\n") (ascii "note.txt") (ascii "hi") := by
  let daemon := Daemon.run (.fresh (ascii "123456")) paired
  let client := (daemon.clients 0).getD (.initial false [])
  let folder := DropFolder.single (ascii "note.txt") (ascii "hi") (by decide) (by decide)
  have reports : folder.Reports (ascii "note.txt") 2 :=
    ⟨⟨_, rfl⟩, [(ascii "note.txt", 2)], rfl, List.mem_singleton_self _⟩
  have serves : ((Env.offering (ascii "hi")).header client.calls.header).Serves folder false
      (askedName (ascii "note.txt")) := by
    intro content stored
    have asked : folder.content (askedName (ascii "note.txt")) = some (ascii "hi") := rfl
    rw [asked] at stored
    cases stored
    exact ⟨rfl, rfl, rfl, rfl, .inr ⟨rfl, rfl, rfl, Nat.le_refl 2⟩, rfl, rfl⟩
  obtain ⟨content, stored, _, fetched⟩ := listed_fetched_iff folder (ascii "note.txt") 2 reports
    (by decide) (.offering (ascii "hi")) (client.receiver daemon.world)
    (ascii "CMD:push_file:note.txt\n") rfl rfl rfl serves
  cases stored
  exact ⟨client, rfl, fetched.mpr ⟨by decide, by decide, by decide⟩⟩

/-- A listed file whose name holds a newline is asked for under another name. -/
theorem listed_not_fetched :
    ¬ ∀ (folder : DropFolder) (name : Bytes) (size : Nat), folder.Reports name size → 0 < size →
      ∀ (startup : Startup) (inputs : List Input) (conn : Nat) (client : Client),
        (Daemon.run startup inputs).clients conn = some client → client.session.closed = false →
        client.session.stage = .header → client.buffer.view = [] → ∀ env : Env,
        (env.header client.calls.header).Serves folder client.session.ssl (askedName name) →
        ∃ content, folder.content name = some content ∧ content.length = size ∧
          Fetches env (client.receiver (Daemon.run startup inputs).world)
            (pushRequest name ++ [10]) name content := by
  intro claim
  let folder := DropFolder.single (ascii "a\nb") (ascii "hi") (by decide) (by decide)
  let client := ((Daemon.run (.fresh (ascii "123456")) paired).clients 0).getD (.initial false [])
  have reports : folder.Reports (ascii "a\nb") 2 :=
    ⟨⟨_, rfl⟩, [(ascii "a\nb", 2)], rfl, List.mem_singleton_self _⟩
  have serves : (Env.quiet.header client.calls.header).Serves folder client.session.ssl
      (askedName (ascii "a\nb")) := by
    intro content stored
    have asked : folder.content (askedName (ascii "a\nb")) = none := rfl
    rw [asked] at stored
    cases stored
  obtain ⟨content, _, _, fetches⟩ := claim folder (ascii "a\nb") 2 reports (by decide)
    (.fresh (ascii "123456")) paired 0 client rfl rfl rfl rfl .quiet serves
  exact (fetches_apart fetches).1 (by decide)

end TitanShare
