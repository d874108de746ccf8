import TitanShare.SessionState

/-!
# The transfer status file

One file tells the GUI whether a transfer is under way, and every session writes it.  An upload that
ends with its last byte and a push that ends write the idle state behind their progress; an upload
that is cut off by a hangup or by a failing `write` does not.  While nothing is transferred the file
shows nothing exactly when no such end finds a progress update in it.
-/

namespace TitanShare

open ByteText PassLoop

/-- The file shows a transfer. -/
def TransferFile.shows : TransferFile → Bool
  | holds state => state.active
  | _ => false

def TransferHistory.shows (history : TransferHistory) : Bool :=
  history.file.shows

/-- Whatever was written that shows a transfer, something that shows none was written since. -/
def TransferHistory.Cleared (history : TransferHistory) : Prop :=
  ∀ later file earlier, history.file :: history.earlier = later ++ file :: earlier →
    file.shows = true → ∃ other ∈ later, other.shows = false

theorem TransferHistory.cleared_iff (history : TransferHistory) :
    history.Cleared ↔ history.shows = false := by
  constructor
  · intro cleared
    cases shown : history.file.shows with
    | false => exact shown
    | true =>
        obtain ⟨other, none, _⟩ := cleared [] history.file history.earlier rfl shown
        cases none
  · intro hidden later file earlier split shown
    cases later with
    | nil =>
        obtain ⟨rfl, _⟩ := List.cons.inj split
        exact absurd (hidden.symm.trans shown) Bool.false_ne_true
    | cons first later =>
        obtain ⟨rfl, _⟩ := List.cons.inj split
        exact ⟨_, List.mem_cons_self, hidden⟩

/-- The publish call rewrites the file, if the name can be serialised. -/
def PublishEnv.Writes (env : PublishEnv) : Prop :=
  env.createsDir = true ∧ env.opens = true

instance (env : PublishEnv) : Decidable env.Writes :=
  inferInstanceAs (Decidable (_ ∧ _))

theorem publishTransferState_shows (env : PublishEnv) (state : TransferState) (context : Context) :
    (publishTransferState env state context).state.world.transfer.shows =
      if env.Writes then Json.validUtf8 state.filename && state.active
      else context.world.transfer.shows := by
  by_cases creates : env.createsDir = true
  · by_cases opens : env.opens = true
    · rw [if_pos ⟨creates, opens⟩]
      cases valid : Json.validUtf8 state.filename with
      | false =>
          simp [publishTransferState, creates, opens, valid, Context.withTransfer,
            TransferHistory.rewrite, TransferHistory.shows, TransferFile.shows]
      | true =>
          simp [publishTransferState, creates, opens, valid, Context.withTransfer,
            TransferHistory.rewrite, TransferHistory.shows, TransferFile.shows]
    · rw [if_neg fun writes => opens writes.2]
      simp [publishTransferState, creates, opens]
  · rw [if_neg fun writes => creates writes.1]
    simp [publishTransferState, creates]

/-! ## Pushes -/

/-- The progress updates of the streaming loop, up to one that throws. -/
def streamUpdates (size : Nat) : List ChunkEnv → Nat → Bool → List PublishEnv
  | [], _, _ => []
  | chunk :: rest, sent, good =>
      let wanted := min Config.pushChunk (size - sent)
      let count := (chunk.delivers good wanted).length
      if count = 0 ∨ Transport.carries chunk.sends count = false then []
      else
        let total := sent + count
        (if chunk.due = true ∨ total = size then [chunk.publish] else []) ++
          streamUpdates size rest total (good && count == wanted)

/-- These updates of a push and its last publish call find the folder, and the last one the file. -/
def Clears (finish : PublishEnv) (updates : List PublishEnv) : Prop :=
  (∀ update ∈ updates, update.createsDir = true) ∧ finish.Writes

/-- Once an update is written, the publish calls behind it go through to the last one. -/
def Restores (finish : PublishEnv) (updates : List PublishEnv) : Prop :=
  ∀ earlier update later, updates = earlier ++ update :: later →
    (∀ other ∈ earlier, other.createsDir = true) → update.Writes → Clears finish later

theorem clears_cons_iff {finish update : PublishEnv} {later : List PublishEnv} :
    Clears finish (update :: later) ↔ update.createsDir = true ∧ Clears finish later := by
  simp [Clears, and_assoc]

theorem restores_nil (finish : PublishEnv) : Restores finish [] := by
  intro earlier update later split
  simp at split

theorem restores_cons_iff {finish update : PublishEnv} {later : List PublishEnv} :
    Restores finish (update :: later) ↔
      (update.createsDir = true →
        (update.opens = true → Clears finish later) ∧ Restores finish later) := by
  constructor
  · intro restores creates
    refine ⟨fun opens => restores [] update later rfl nofun ⟨creates, opens⟩, ?_⟩
    intro earlier other rest split before writes
    exact restores (update :: earlier) other rest (by rw [split]; rfl)
      (List.forall_mem_cons.mpr ⟨creates, before⟩) writes
  · intro behind earlier other rest split before writes
    cases earlier with
    | nil =>
        obtain ⟨rfl, rfl⟩ := List.cons.inj split
        exact (behind writes.1).1 writes.2
    | cons first earlier =>
        obtain ⟨rfl, rfl⟩ := List.cons.inj split
        obtain ⟨creates, others⟩ := List.forall_mem_cons.mp before
        exact (behind creates).2 earlier other rest rfl others writes

/-- The last publish call of a push. -/
theorem publishIdle_shows (finish : PublishEnv) (done : Nat) (context : Context) :
    (publishTransferState finish ⟨false, true, [], done, 1⟩ context).state.world.transfer.shows =
        false ↔
      (context.world.transfer.shows = true → Clears finish []) := by
  rw [publishTransferState_shows]
  split
  case isTrue writes => simp [Clears, writes]
  case isFalse lost => simp [Clears, lost]

/-- A round of the streaming loop ends the push, or the loop goes on behind a progress update or
without one. -/
inductive StreamRound (finish : PublishEnv) (name : Bytes) (size : Nat) (chunk : ChunkEnv)
    (rest : List ChunkEnv) (sent : Nat) (good : Bool) (context : Context) : Prop
  | ends (done : Nat) (last : Context) (world : last.world = context.world)
      (streams : streamFile finish name size (chunk :: rest) sent good context =
        publishTransferState finish ⟨false, true, [], done, 1⟩ last)
      (updates : streamUpdates size (chunk :: rest) sent good = [])
  | reports (total : Nat) (more : Bool) (written : Context) (world : written.world = context.world)
      (streams : streamFile finish name size (chunk :: rest) sent good context =
        (publishTransferState chunk.publish ⟨true, true, name, total, size⟩ written).andThen
          (streamFile finish name size rest total more))
      (updates : streamUpdates size (chunk :: rest) sent good =
        chunk.publish :: streamUpdates size rest total more)
  | silent (total : Nat) (more : Bool) (written : Context) (world : written.world = context.world)
      (streams : streamFile finish name size (chunk :: rest) sent good context =
        streamFile finish name size rest total more written)
      (updates : streamUpdates size (chunk :: rest) sent good = streamUpdates size rest total more)

theorem streamFile_round (finish : PublishEnv) (name : Bytes) (size : Nat) (chunk : ChunkEnv)
    (rest : List ChunkEnv) (sent : Nat) (good : Bool) (context : Context) :
    StreamRound finish name size chunk rest sent good context := by
  have streams := Eq.refl (streamFile finish name size (chunk :: rest) sent good context)
  have updates := Eq.refl (streamUpdates size (chunk :: rest) sent good)
  conv_rhs at streams => simp only [streamFile, Transport.sendChunk_complete]
  conv_rhs at updates => simp only [streamUpdates, List.length_eq_zero_iff]
  generalize min Config.pushChunk (size - sent) = wanted at streams updates
  generalize chunk.delivers good wanted = bytes at streams updates
  let written := context.emit [.pushed (Transport.sendChunk chunk.sends bytes).1]
  by_cases nothing : bytes = []
  · rw [if_pos nothing] at streams
    rw [if_pos (.inl nothing)] at updates
    exact .ends 1 context rfl streams updates
  · rw [if_neg nothing] at streams
    cases carried : Transport.carries chunk.sends bytes.length with
    | false =>
        rw [carried, if_pos rfl] at streams
        rw [if_pos (.inr carried)] at updates
        exact .ends 0 written rfl streams updates
    | true =>
        rw [carried, if_neg (by decide)] at streams
        rw [if_neg (by simp [nothing, carried])] at updates
        by_cases reported : chunk.due = true ∨ sent + bytes.length = size
        · rw [if_pos reported] at streams updates
          exact .reports _ _ written rfl streams updates
        · rw [if_neg reported] at streams updates
          exact .silent _ _ written rfl streams updates

/-- A push of a file with a valid name leaves nothing shown exactly when its last publish call goes
through, unless nothing was shown before and no update is written. -/
theorem streamFile_shows {finish : PublishEnv} {name : Bytes} {size : Nat} {chunks : List ChunkEnv}
    {sent : Nat} {good : Bool} {context : Context} (valid : Json.validUtf8 name = true) :
    (streamFile finish name size chunks sent good context).state.world.transfer.shows = false ↔
      (context.world.transfer.shows = true → Clears finish (streamUpdates size chunks sent good)) ∧
        Restores finish (streamUpdates size chunks sent good) := by
  induction chunks generalizing sent good context with
  | nil =>
      rw [streamFile, publishIdle_shows, streamUpdates]
      simp [restores_nil]
  | cons chunk rest ih =>
      cases streamFile_round finish name size chunk rest sent good context with
      | ends done last world streams updates =>
          rw [streams, updates, publishIdle_shows, world]
          simp [restores_nil]
      | silent total more written world streams updates => rw [streams, updates, ih, world]
      | reports total more written world streams updates =>
          rw [streams, updates, clears_cons_iff, restores_cons_iff, ← world]
          have shows := publishTransferState_shows chunk.publish
            ⟨true, true, name, total, size⟩ written
          have returns := publishTransferState_returns_iff chunk.publish
            ⟨true, true, name, total, size⟩ written
          by_cases creates : chunk.publish.createsDir = true
          · obtain ⟨middle, published⟩ := returns.mpr ⟨creates, fun _ => valid⟩
            rw [published, Outcome.state_returned] at shows
            rw [published, Outcome.returned_andThen, ih, shows]
            by_cases opens : chunk.publish.opens = true
            · have writes : chunk.publish.Writes := ⟨creates, opens⟩
              simp only [if_pos writes, valid, Bool.and_true, creates, opens, true_and,
                true_imp_iff]
              tauto
            · have lost : ¬ chunk.publish.Writes := fun writes => opens writes.2
              simp [lost, creates, opens]
          · have throws : ¬ (publishTransferState chunk.publish ⟨true, true, name, total, size⟩
                written).Returns := fun returned => creates (returns.mp returned).1
            have lost : ¬ chunk.publish.Writes := fun writes => creates writes.1
            cases published : publishTransferState chunk.publish ⟨true, true, name, total, size⟩
                written with
            | returned middle => exact absurd ⟨middle, published⟩ throws
            | threw exception left =>
                rw [published, Outcome.state_threw, if_neg lost] at shows
                rw [Outcome.threw_andThen, Outcome.state_threw, shows]
                simp [creates]

/-- A push of a file with another name throws at the first update it writes. -/
theorem streamFile_unnamed {finish : PublishEnv} {name : Bytes} {size : Nat}
    {chunks : List ChunkEnv} {sent : Nat} {good : Bool} {context : Context}
    (invalid : Json.validUtf8 name = false) (hidden : context.world.transfer.shows = false) :
    (streamFile finish name size chunks sent good context).state.world.transfer.shows = false := by
  induction chunks generalizing sent good context with
  | nil =>
      rw [streamFile, publishIdle_shows, hidden]
      simp
  | cons chunk rest ih =>
      cases streamFile_round finish name size chunk rest sent good context with
      | ends done last world streams updates =>
          rw [streams, publishIdle_shows, world, hidden]
          simp
      | silent total more written world streams updates =>
          rw [streams]
          exact ih (by rw [world, hidden])
      | reports total more written world streams updates =>
          have shows := publishTransferState_shows chunk.publish
            ⟨true, true, name, total, size⟩ written
          let hides (context : Context) : Prop := context.world.transfer.shows = false
          have first : hides (publishTransferState chunk.publish ⟨true, true, name, total, size⟩
              written).state := by
            simp [hides, shows, invalid, world, hidden]
          have kept : hides (streamFile finish name size
              (chunk :: rest) sent good context).state := by
            rw [streams]
            exact Outcome.andThen_keeps first fun state still => ih still
          exact kept

/-! ## Request lines -/

/-- A push under this name does not leave one of its updates behind. -/
def PushEnv.Restores (env : PushEnv) (name : Bytes) : Prop :=
  Json.validUtf8 name = true → ∀ size, env.Offers size →
    TitanShare.Restores env.finish (streamUpdates size env.chunks 0 true)

/-- A request line for a push. -/
def AsksPush (line : Bytes) : Prop :=
  line.take 4 = ascii "CMD:" ∧ 10 < (commandOf line).length ∧
    (commandOf line).take 10 = ascii "push_file:"

/-- If the request line is for a push, that push does not leave one of its updates behind. -/
def HeaderFrame.Restores (frame : HeaderFrame) (line : Bytes) : Prop :=
  AsksPush line → frame.push.Restores (requestedName line)

theorem pushFile_shows {frame : HeaderFrame} {filename : Bytes} {context : Context}
    (hidden : context.world.transfer.shows = false) :
    (pushFile frame filename context).state.world.transfer.shows = false ↔
      frame.push.Restores (baseName filename) := by
  cases pushFile_exit frame filename context with
  | threw exception missing same =>
      rw [same]
      exact iff_of_true hidden fun _ size offers => absurd offers (missing size)
  | refused reply refusal missing same =>
      rw [same]
      exact iff_of_true hidden fun _ size offers => absurd offers (missing size)
  | streamed size offers same =>
      have unshown : (frame.promised filename size context).world.transfer.shows = false := hidden
      have only : ∀ other, frame.push.Offers other → other = size := by
        intro other also
        have sizes := also.fileSize.symm.trans offers.fileSize
        exact Except.ok.inj sizes
      rw [same]
      cases valid : Json.validUtf8 (baseName filename) with
      | false =>
          refine iff_of_true (streamFile_unnamed valid unshown) ?_
          intro impossible
          rw [valid] at impossible
          cases impossible
      | true =>
          rw [streamFile_shows valid, unshown]
          constructor
          · rintro ⟨_, restores⟩ _ other also
            rw [only other also]
            exact restores
          · exact fun restores => ⟨nofun, restores valid size offers⟩

theorem pushFileList_world (frame : HeaderFrame) (context : Context) :
    (pushFileList frame context).state.world = context.world := by
  simp only [pushFileList]
  split <;> rfl

theorem runCommand_world (frame : HeaderFrame) (cmd : Bytes) (context : Context) :
    (runCommand frame cmd context).state.world = context.world := by
  simp only [runCommand]
  split
  · rfl
  · rw [Outcome.state_returned]
    split <;> rfl

/-- An upload request leaves the status file alone. -/
theorem fileStart_transfer (frame : HeaderFrame) (line : Bytes) (context : Context) :
    (fileStart frame line context).state.world.transfer = context.world.transfer := by
  cases fileStart_exit frame line context with
  | refused _ _ _ _ _ same | threw _ _ _ _ _ same | begun _ _ _ _ _ same =>
      rw [same]
      rfl

theorem handleHeader_asks {line : Bytes} (asks : AsksPush line) (frame : HeaderFrame)
    (context : Context) :
    handleHeader frame line context = pushFile frame ((commandOf line).drop 10) context := by
  obtain ⟨isCommand, longer, named⟩ := asks
  have notList : commandOf line ≠ ascii "push_file_list" := by
    intro same
    rw [same] at named
    exact absurd named (by decide)
  simp only [handleHeader, if_pos isCommand, if_neg notList, if_pos (And.intro longer named)]

theorem handleHeader_shows {frame : HeaderFrame} {line : Bytes} {context : Context}
    (hidden : context.world.transfer.shows = false) :
    (handleHeader frame line context).state.world.transfer.shows = false ↔ frame.Restores line := by
  by_cases asks : AsksPush line
  · rw [handleHeader_asks asks, pushFile_shows hidden]
    exact ⟨fun restores _ => restores, fun restores => restores asks⟩
  · refine iff_of_true ?_ fun also => absurd also asks
    rw [← hidden]
    simp only [handleHeader]
    split
    · rename_i isCommand
      split
      · rw [pushFileList_world]
      · split
        · rename_i named
          exact absurd ⟨isCommand, named⟩ asks
        · rw [runCommand_world]
    · split
      · rw [fileStart_transfer]
      · rfl

/-! ## File data -/

/-- A call of the data handler that ends an upload leaves nothing shown behind it. -/
structure DataFrame.Restores (frame : DataFrame) (receiver : Receiver) : Prop where
  failed : frame.write = none → receiver.world.transfer.Cleared
  completed : receiver.missing ≤ frame.takes receiver → frame.Publishes receiver →
    frame.finish.opens = true ∨
      (frame.progress.opens = false ∧ receiver.world.transfer.Cleared)

theorem DataFrame.restores_iff {frame : DataFrame} {receiver : Receiver} :
    frame.Restores receiver ↔
      (frame.write = none → receiver.world.transfer.shows = false) ∧
        (receiver.missing ≤ frame.takes receiver → frame.Publishes receiver →
          frame.finish.opens = true ∨
            (frame.progress.opens = false ∧ receiver.world.transfer.shows = false)) := by
  rw [← TransferHistory.cleared_iff]
  exact ⟨fun restores => ⟨restores.failed, restores.completed⟩, fun both => ⟨both.1, both.2⟩⟩

/-- Outside stage DATA nothing is shown. -/
def Rested (receiver : Receiver) : Prop :=
  receiver.session.stage ≠ .data → receiver.world.transfer.shows = false

namespace Receiver

theorem publish_shows (env : PublishEnv) (state : TransferState) (receiver : Receiver) :
    (receiver.publish env state).state.world.transfer.shows =
      if env.Writes then Json.validUtf8 state.filename && state.active
      else receiver.world.transfer.shows := by
  rw [publish, Outcome.state_map]
  exact publishTransferState_shows env state receiver.toContext

theorem publish_session (env : PublishEnv) (state : TransferState) (receiver : Receiver) :
    (receiver.publish env state).state.session = receiver.session := by
  obtain ⟨transfer, published⟩ := publishTransferState_state env state receiver.toContext
  rw [publish, Outcome.state_map, published]
  rfl

theorem reportProgress_session (frame : DataFrame) (receiver : Receiver) :
    (receiver.reportProgress frame).state.session = receiver.session := by
  simp only [reportProgress]
  split
  · exact publish_session _ _ _
  · rfl

variable {frame : DataFrame} {receiver stored : Receiver} {descriptor : Nat}

/-- With payload still to come the session stays in stage DATA. -/
theorem settle_incomplete (frame : DataFrame) (descriptor : Nat)
    (incomplete : stored.session.receivedBytes < stored.session.expectedBytes) :
    ((stored.reportProgress frame).andThen (checkCompletion frame descriptor)).state.session =
      stored.session := by
  have session := reportProgress_session frame stored
  cases reported : stored.reportProgress frame with
  | threw exception left =>
      rw [reported] at session
      exact session
  | returned middle =>
      rw [reported, Outcome.state_returned] at session
      rw [Outcome.returned_andThen, checkCompletion, if_neg (by rw [session]; omega)]
      exact session

/-- With the last byte the progress and the idle state are published in turn. -/
theorem settle_complete (frame : DataFrame) (descriptor : Nat)
    (complete : stored.session.receivedBytes = stored.session.expectedBytes) :
    (stored.reportProgress frame).andThen (checkCompletion frame descriptor) =
      (stored.publish frame.progress ⟨true, false, stored.session.fileName,
        stored.session.receivedBytes, stored.session.expectedBytes⟩).andThen fun middle =>
        (middle.publish frame.finish ⟨false, false, [], 1, 1⟩).andThen fun last =>
          .returned (last.finishUpload frame descriptor) := by
  have reports : stored.reportProgress frame = stored.publish frame.progress ⟨true, false,
      stored.session.fileName, stored.session.receivedBytes, stored.session.expectedBytes⟩ := by
    simp only [reportProgress, if_pos (Or.inr complete : frame.due = true ∨ _)]
  rw [reports]
  have session := publish_session frame.progress ⟨true, false, stored.session.fileName,
    stored.session.receivedBytes, stored.session.expectedBytes⟩ stored
  cases published : stored.publish frame.progress ⟨true, false, stored.session.fileName,
      stored.session.receivedBytes, stored.session.expectedBytes⟩ with
  | threw exception left => rfl
  | returned middle =>
      rw [published, Outcome.state_returned] at session
      rw [Outcome.returned_andThen, Outcome.returned_andThen, checkCompletion,
        if_pos (by rw [session]; omega)]

theorem publish_returns_iff (env : PublishEnv) (state : TransferState) (receiver : Receiver) :
    (receiver.publish env state).Returns ↔ env.Succeeds state.filename := by
  rw [publish, Outcome.returns_map]
  exact publishTransferState_returns_iff env state receiver.toContext

/-- A publish call returns with a receiver, or throws in stage DATA. -/
theorem publish_cases (env : PublishEnv) (state : TransferState) (receiver : Receiver) :
    (env.Succeeds state.filename ∧ ∃ middle, receiver.publish env state = .returned middle ∧
        middle.session = receiver.session ∧ middle.world.transfer.shows =
          if env.Writes then state.active else receiver.world.transfer.shows) ∨
      (¬ env.Succeeds state.filename ∧ ∃ exception left,
        receiver.publish env state = .threw exception left ∧ left.session = receiver.session) := by
  have returns := publish_returns_iff env state receiver
  have session := publish_session env state receiver
  have shows := publish_shows env state receiver
  cases published : receiver.publish env state with
  | threw exception left =>
      rw [published] at returns session
      exact .inr ⟨fun succeeds => Outcome.not_returns_threw _ _ (returns.mpr succeeds), exception,
        left, rfl, session⟩
  | returned middle =>
      rw [published] at returns session shows
      have succeeds := returns.mp (Outcome.returns_returned middle)
      refine .inl ⟨succeeds, middle, rfl, session, ?_⟩
      rw [Outcome.state_returned] at shows
      rw [shows]
      by_cases writes : env.Writes
      · rw [if_pos writes, if_pos writes, succeeds.2 writes.2, Bool.true_and]
      · rw [if_neg writes, if_neg writes]

theorem settle_rested (stage : stored.session.stage = .data)
    (complete : stored.session.receivedBytes = stored.session.expectedBytes) :
    Rested ((stored.reportProgress frame).andThen (checkCompletion frame descriptor)).state ↔
      (frame.progress.Succeeds stored.session.fileName → frame.finish.createsDir = true →
        frame.finish.opens = true ∨
          (frame.progress.opens = false ∧ stored.world.transfer.shows = false)) := by
  rw [settle_complete frame descriptor complete]
  rcases publish_cases frame.progress ⟨true, false, stored.session.fileName,
      stored.session.receivedBytes, stored.session.expectedBytes⟩ stored with
    ⟨reports, middle, published, session, shows⟩ | ⟨throws, exception, left, published, session⟩
  · rw [published, Outcome.returned_andThen]
    rcases publish_cases frame.finish ⟨false, false, [], 1, 1⟩ middle with
      ⟨closes, last, cleared, _, hides⟩ | ⟨throws, exception, left, cleared, sessionLeft⟩
    · rw [cleared, Outcome.returned_andThen, Outcome.state_returned, Rested, finishUpload_session,
        finishUpload_world]
      have creates : frame.progress.createsDir = true := reports.1
      have closing : frame.finish.createsDir = true := closes.1
      simp only [hides, shows, PublishEnv.Writes, creates, closing, true_and]
      have reported : frame.progress.Succeeds stored.session.fileName := reports
      cases opens : frame.finish.opens with
      | true => simp
      | false =>
          cases frame.progress.opens with
          | true => simp [reported]
          | false => simp [reported]
    · rw [cleared, Outcome.threw_andThen, Outcome.state_threw]
      refine iff_of_true (fun notData => absurd ?_ notData) fun _ creates =>
        absurd ⟨creates, ?_⟩ throws
      · rw [sessionLeft, session, stage]
      · exact fun _ => rfl
  · rw [published, Outcome.threw_andThen, Outcome.state_threw]
    refine iff_of_true (fun notData => absurd ?_ notData) fun reports _ => absurd reports throws
    rw [session, stage]

/-- The data handler of a waiting session leaves nothing shown behind an upload exactly under the
condition. -/
theorem handleFileData_rested (owned : receiver.session.fileFd = some descriptor)
    (stage : receiver.session.stage = .data) (buffered : receiver.bufSize ≠ 0)
    (incomplete : receiver.session.receivedBytes < receiver.session.expectedBytes) :
    Rested (receiver.handleFileData frame).state ↔ frame.Restores receiver := by
  rw [DataFrame.restores_iff]
  have waiting : receiver.missing ≠ 0 := by
    unfold missing
    omega
  cases wrote : frame.write with
  | none =>
      have takes : frame.takes receiver = 0 := by
        rw [DataFrame.takes, wrote, Option.getD_none, Nat.zero_min]
      rw [handleFileData_refused owned buffered waiting wrote, Outcome.state_returned]
      constructor
      · intro rested
        refine ⟨fun _ => rested ?_, fun complete => ?_⟩
        · exact fun impossible => by cases impossible
        · omega
      · exact fun restores _ => restores.1 rfl
  | some count =>
      have more : min receiver.bufSize
          (receiver.session.expectedBytes - receiver.session.receivedBytes) ≠ 0 := by
        unfold missing at waiting
        omega
      have takes : frame.takes receiver = min count (min receiver.bufSize
          (receiver.session.expectedBytes - receiver.session.receivedBytes)) := by
        rw [DataFrame.takes, wrote, Option.getD_some, missing]
      have handles : receiver.handleFileData frame =
          ((receiver.storeBytes descriptor (frame.takes receiver)
            ((min_le_right _ _).trans (min_le_left _ _))).reportProgress frame).andThen
              (checkCompletion frame descriptor) := by
        simp only [handleFileData, owned, if_neg buffered, if_neg more, wrote, takes]
      have written : some count = none → receiver.world.transfer.shows = false := by
        intro impossible
        cases impossible
      have below : receiver.session.receivedBytes + frame.takes receiver ≤
          receiver.session.expectedBytes := by
        omega
      rw [handles]
      by_cases last : receiver.session.receivedBytes + frame.takes receiver =
          receiver.session.expectedBytes
      · rw [settle_rested (by exact stage) (by exact last)]
        constructor
        · exact fun settles => ⟨written, fun _ publishes =>
            settles (publishes.progress (.inr last)) (publishes.finish last.ge)⟩
        · intro restores succeeds creates
          exact restores.2 (by unfold missing; omega) ⟨fun _ => succeeds, fun _ => creates⟩
      · refine iff_of_true ?_ ⟨written, fun covered => ?_⟩
        · intro notData
          rw [settle_incomplete frame descriptor (by exact lt_of_le_of_ne below last)] at notData
          exact absurd stage notData
        · unfold missing at covered
          omega

end Receiver

theorem Waiting.rested_iff {env : Env} {receiver : Receiver} (waiting : Waiting receiver)
    (stage : receiver.session.stage = .data) (buffered : receiver.bufSize ≠ 0) :
    Rested (receiver.fileData env).state ↔ (env.data receiver.calls.data).Restores receiver := by
  obtain ⟨descriptor, owned⟩ := Option.ne_none_iff_exists'.mp (waiting.consistent.stage.mp stage)
  have rested := @Receiver.handleFileData_rested (env.data receiver.calls.data)
    { receiver with calls := { receiver.calls with data := receiver.calls.data + 1 } } descriptor
    owned stage buffered (waiting.incomplete stage)
  have publishes : ∀ calls, (env.data receiver.calls.data).Publishes { receiver with calls } ↔
      (env.data receiver.calls.data).Publishes receiver := fun _ =>
    ⟨fun made => ⟨made.progress, made.finish⟩, fun made => ⟨made.progress, made.finish⟩⟩
  unfold Receiver.fileData
  rw [rested]
  exact ⟨fun restores => ⟨restores.failed, fun covered made =>
      restores.completed covered ((publishes _).mpr made)⟩,
    fun restores => ⟨restores.failed, fun covered made =>
      restores.completed covered ((publishes _).mp made)⟩⟩

/-! ## Passes over the buffer -/

namespace Receiver

/-- During a delivery the request handler is called in the state `last` on this line. -/
structure HeaderCall (env : Env) (chunk : Bytes) (receiver last : Receiver) (line : Bytes)
    (taken : Receiver) : Prop where
  isOpen : receiver.session.closed = false
  fits : (receiver.receive chunk).overflows = false
  visits : Visits (pass env) (receiver.receive chunk) last
  stillOpen : last.session.closed = false
  stage : last.session.stage = .header
  taking : last.takeLine = some (line, taken)

variable {env : Env} {chunk : Bytes} {receiver last : Receiver}

/-- An exception of the request handler ends the delivery. -/
theorem HeaderCall.onData_threw {line : Bytes} {taken : Receiver}
    (call : HeaderCall env chunk receiver last line taken) {exception : Exception} {next : Receiver}
    (handled : taken.headerLine env last.consumed line = .threw exception next) :
    receiver.onData env chunk = .threw exception next := by
  have buffered := bufSize_of_takeLine call.taking
  have leaves : pass env last = .leave (.threw exception next) := by
    simp [pass, call.stillOpen, buffered, call.stage, call.taking, handled]
  have exits := (receiver.receive chunk).processBuffer_exits env
  have result := exits.eq_of_leave call.visits leaves
  rw [onData_fits env call.isOpen call.fits]
  exact result

/-- A request line leaves nothing shown behind it exactly under the condition. -/
theorem HeaderCall.rested_iff {line : Bytes} {taken : Receiver}
    (call : HeaderCall env chunk receiver last line taken) (rested : Rested last) :
    Rested (taken.headerLine env last.consumed line).state ↔
      (env.header last.calls.header).Restores line := by
  have notData : last.session.stage ≠ .data := by
    rw [call.stage]
    decide
  have hidden : (taken.emit [.headerLine last.consumed taken.consumed line]).world.transfer.shows =
      false := by
    rw [Context.emit_world, takeLine_world call.taking]
    exact rested notData
  rw [← handleHeader_shows hidden, headerLine, Outcome.state_map, takeLine_calls call.taking]
  constructor
  · intro after
    by_cases asks : AsksPush line
    · apply after
      have pushes := pushFile_emits (env.header last.calls.header) ((commandOf line).drop 10)
        (taken.emit [.headerLine last.consumed taken.consumed line])
      rw [handleHeader_asks asks, pushes.session, Context.emit_session, Context.emit_session,
        takeLine_session call.taking]
      exact notData
    · exact (handleHeader_shows hidden).mpr fun also => absurd also asks
  · exact fun shown _ => shown

end Receiver

section Delivery

variable {env : Env} {chunk : Bytes} {receiver last : Receiver}

theorem Rested.auth {line : Bytes} {taken : Receiver} (rested : Rested last)
    (stage : last.session.stage = .auth) (taking : last.takeLine = some (line, taken)) :
    Rested (taken.authLine env line) := by
  obtain ⟨manager, now, authLog, world⟩ :=
    handleAuth_world (env.auth taken.calls.auth) line taken.toContext
  intro _
  change (handleAuth (env.auth taken.calls.auth) line taken.toContext).world.transfer.shows = false
  rw [world, Receiver.takeLine_world taking]
  exact rested (by rw [stage]; decide)

/-- Under the condition on its request lines, nothing is shown outside stage DATA wherever the loop
of a delivery stands. -/
theorem Rested.visits (rested : Rested receiver)
    (isOpen : receiver.session.closed = false) (fits : (receiver.receive chunk).overflows = false)
    (restores : ∀ reached line taken, Receiver.HeaderCall env chunk receiver reached line taken →
      (env.header reached.calls.header).Restores line)
    (visits : Visits (Receiver.pass env) (receiver.receive chunk) last) : Rested last := by
  induction visits with
  | refl => exact rested
  | tail visits goes ih =>
      obtain ⟨stillOpen, line, taken, taking, ⟨stage, rfl⟩ | ⟨stage, handled⟩⟩ :=
        Receiver.goes_iff.mp goes
      · exact Rested.auth ih stage taking
      · have call : Receiver.HeaderCall env chunk receiver _ line taken :=
          ⟨isOpen, fits, visits, stillOpen, stage, taking⟩
        have after := (call.rested_iff ih).mpr (restores _ line taken call)
        rwa [handled, Outcome.state_returned] at after

/-- Under the condition on its calls, a delivery leaves nothing shown outside stage DATA. -/
theorem Rested.onData (rested : Rested receiver) (waiting : Waiting receiver)
    (restores : ∀ reached line taken, Receiver.HeaderCall env chunk receiver reached line taken →
      (env.header reached.calls.header).Restores line)
    (uploads : ∀ reached, Receiver.DataCall env chunk receiver reached →
      (env.data reached.calls.data).Restores reached) :
    Rested (receiver.onData env chunk).state := by
  cases overflows : (receiver.receive chunk).overflows with
  | true =>
      by_cases closed : receiver.session.closed = true
      · rw [Receiver.onData_closed env chunk closed]
        exact rested
      · rw [Receiver.onData_overflow env (by simpa using closed) overflows]
        exact rested
  | false =>
      have delivered := receiver.onData_delivered env chunk
      generalize receiver.onData env chunk = outcome at delivered ⊢
      cases delivered with
      | closed isClosed => exact rested
      | overflow isOpen exceeds =>
          rw [overflows] at exceeds
          cases exceeds
      | waits last isOpen visits idle => exact rested.visits isOpen overflows restores visits
      | throws last isOpen visits stillOpen stage line taken taking exception next handled =>
          have call : Receiver.HeaderCall env chunk receiver last line taken :=
            ⟨isOpen, overflows, visits, stillOpen, stage, taking⟩
          have before : Rested last := rested.visits isOpen overflows restores visits
          have after := (call.rested_iff before).mpr (restores last line taken call)
          rwa [handled, Outcome.state_threw] at after
      | data last call =>
          have before := waiting.called call
          exact (before.rested_iff call.stage call.buffered).mpr (uploads last call)

end Delivery

/-! ## The daemon -/

namespace Daemon

/-- A session receives an upload. -/
def Receives (daemon : Daemon) : Prop :=
  ∃ conn client, daemon.clients conn = some client ∧ client.gone = false ∧
    client.session.stage = .data

/-- A session other than this one receives an upload. -/
def ReceivesBeside (daemon : Daemon) (conn : Nat) : Prop :=
  ∃ other client, other ≠ conn ∧ daemon.clients other = some client ∧ client.gone = false ∧
    client.session.stage = .data

/-- While no session receives an upload, the status file shows no transfer. -/
def Settles (daemon : Daemon) : Prop :=
  ¬ daemon.Receives → daemon.world.transfer.shows = false

/-- Where the daemon can stand in a run while no request is worked on: between two inputs, or in
front of a pass over the buffer of the session that takes a chunk. -/
inductive Reaches (startup : Startup) (inputs : List Input) : Daemon → Prop
  | between {earlier later : List Input} (split : inputs = earlier ++ later) :
      Reaches startup inputs (run startup earlier)
  | within {earlier later : List Input} {conn : Nat} {chunk : Bytes} {env : Env} {client : Client}
      {receiver : Receiver} (split : inputs = earlier ++ .data conn chunk env :: later)
      (running : (run startup earlier).crashed = false)
      (present : (run startup earlier).clients conn = some client) (connected : client.gone = false)
      (isOpen : client.session.closed = false)
      (fits : ((client.receiver (run startup earlier).world).receive chunk).overflows = false)
      (visits : Visits (Receiver.pass env)
        ((client.receiver (run startup earlier).world).receive chunk) receiver) :
      Reaches startup inputs ((run startup earlier).store conn receiver)

/-- What an input does leaves no transfer shown behind it, or another session receives an upload. -/
def LeavesIdle (daemon : Daemon) : Input → Prop
  | .connect _ _ _ => True
  | .data conn chunk env => ∀ client, daemon.crashed = false → daemon.clients conn = some client →
      client.gone = false → ¬ daemon.ReceivesBeside conn →
        (∀ last line taken,
          Receiver.HeaderCall env chunk (client.receiver daemon.world) last line taken →
            (env.header last.calls.header).Restores line) ∧
          ∀ last, Receiver.DataCall env chunk (client.receiver daemon.world) last →
            (env.data last.calls.data).Restores last
  | .hangup conn => ∀ client, daemon.crashed = false → daemon.clients conn = some client →
      client.gone = false → ¬ daemon.ReceivesBeside conn → client.session.stage = .data →
        daemon.world.transfer.Cleared

theorem receives_update_iff {daemon : Daemon} {conn : Nat} {world : World} {client : Client}
    {crashed : Bool} :
    Receives ⟨world, Function.update daemon.clients conn (some client), crashed⟩ ↔
      daemon.ReceivesBeside conn ∨ (client.gone = false ∧ client.session.stage = .data) := by
  constructor
  · rintro ⟨other, found, present, connected, stage⟩
    rcases client_of_update present with ⟨rfl, rfl⟩ | ⟨apart, old⟩
    · exact .inr ⟨connected, stage⟩
    · exact .inl ⟨other, found, apart, old, connected, stage⟩
  · rintro (⟨other, found, apart, present, connected, stage⟩ | ⟨connected, stage⟩)
    · exact ⟨other, found, (Function.update_of_ne apart _ _).trans present, connected, stage⟩
    · exact ⟨conn, client, Function.update_self _ _ _, connected, stage⟩

theorem receives_iff {daemon : Daemon} {conn : Nat} {client : Client}
    (present : daemon.clients conn = some client) :
    daemon.Receives ↔
      daemon.ReceivesBeside conn ∨ (client.gone = false ∧ client.session.stage = .data) := by
  have same : Function.update daemon.clients conn (some client) = daemon.clients := by
    rw [← present, Function.update_eq_self]
  have replaced := @receives_update_iff daemon conn daemon.world client daemon.crashed
  rwa [same] at replaced

/-- With nothing received beside it, a session decides whether the status file may show a
transfer. -/
theorem settles_store_iff {daemon : Daemon} {conn : Nat} {receiver : Receiver} {crashed : Bool} :
    Settles { daemon.store conn receiver with crashed } ↔
      (¬ daemon.ReceivesBeside conn → Rested receiver) := by
  have receives := @receives_update_iff daemon conn receiver.world receiver.client crashed
  have connected : receiver.client.gone = false := rfl
  simp only [Settles, Rested, store, receives, connected, true_and, not_or, and_imp]
  rfl

theorem settles_iff {daemon : Daemon} {conn : Nat} {client : Client}
    (present : daemon.clients conn = some client) (connected : client.gone = false) :
    daemon.Settles ↔ (¬ daemon.ReceivesBeside conn → Rested (client.receiver daemon.world)) := by
  simp only [Settles, Rested, receives_iff present, connected, true_and, not_or, and_imp]
  rfl

/-- A session that is destroyed receives nothing any more. -/
theorem settles_destroy_iff {daemon : Daemon} {conn : Nat} {client : Client} :
    (daemon.destroy conn client).Settles ↔
      (¬ daemon.ReceivesBeside conn → daemon.world.transfer.shows = false) := by
  have transfer := (daemon.destroy_world conn client).2.2
  have receives : (daemon.destroy conn client).Receives ↔ daemon.ReceivesBeside conn := by
    have replaced := @receives_update_iff daemon conn (daemon.destroy conn client).world
      { client with gone := true } daemon.crashed
    exact replaced.trans (by simp)
  rw [Settles, receives, transfer]

/-- In every run whose inputs leave nothing behind, the status file is idle between two inputs. -/
theorem settles_of_run {startup : Startup} {inputs : List Input}
    (idle : Along LeavesIdle startup inputs) : (run startup inputs).Settles := by
  have both : Along (fun daemon input => daemon.LeavesIdle input ∧ (daemon.crashed = false →
      ∀ conn client, daemon.clients conn = some client → ∀ world, Waiting (client.receiver world)))
      startup inputs := fun earlier input later split =>
    ⟨idle earlier input later split, fun running => waiting_of_returns (returns_of_running running)⟩
  refine run_along Settles startup ?_ ?_ ?_ ?_ inputs both
  · exact fun _ => rfl
  · intro daemon conn ssl remoteIp settles _ free _ nothing
    apply settles
    rintro ⟨other, client, present, connected, stage⟩
    have apart : other ≠ conn := by
      rintro rfl
      rw [free] at present
      cases present
    exact nothing (receives_update_iff.mpr (.inl ⟨other, client, apart, present, connected, stage⟩))
  · rintro daemon conn client chunk env settles running present connected ⟨idle, waits⟩
    obtain ⟨crashed, delivered⟩ := daemon.deliver_eq_store conn client chunk env
    rw [delivered, settles_store_iff]
    intro alone
    obtain ⟨restores, uploads⟩ := idle client running present connected alone
    exact ((settles_iff present connected).mp settles alone).onData
      (waits running conn client present _) restores uploads
  · rintro daemon conn client settles running present connected ⟨idle, _⟩
    rw [settles_destroy_iff]
    intro alone
    by_cases stage : client.session.stage = .data
    · exact (daemon.world.transfer.cleared_iff).mp
        (idle client running present connected alone stage)
    · exact (settles_iff present connected).mp settles alone stage

end Daemon

/-- Whenever no session receives an upload and no push is running, the status file shows no
transfer: this holds wherever a run stands, if and only if no upload is cut off and no push ends
behind a progress update that nothing idle was written after, unless another session receives an
upload then. -/
theorem transfer_idle_iff (startup : Startup) (inputs : List Input) :
    (∀ daemon, Daemon.Reaches startup inputs daemon → daemon.Settles) ↔
      Daemon.Along Daemon.LeavesIdle startup inputs := by
  constructor
  · intro settles earlier input later split
    cases input with
    | connect conn ssl remoteIp => trivial
    | hangup conn =>
        intro client running present connected alone _
        rw [TransferHistory.cleared_iff]
        have after := settles _
          (@Daemon.Reaches.between startup inputs (earlier ++ [.hangup conn]) later
          (by rw [split]; simp))
        rw [Daemon.run_append, Daemon.step_hangup running present connected] at after
        exact Daemon.settles_destroy_iff.mp after alone
    | data conn chunk env =>
        intro client running present connected alone
        have visited : ∀ reached, client.session.closed = false →
            ((client.receiver (Daemon.run startup earlier).world).receive chunk).overflows = false →
            Visits (Receiver.pass env)
              ((client.receiver (Daemon.run startup earlier).world).receive chunk) reached →
            Rested reached := fun reached isOpen fits visits =>
          Daemon.settles_store_iff.mp
            (settles _ (.within split running present connected isOpen fits visits)) alone
        have ended : Rested
            ((client.receiver (Daemon.run startup earlier).world).onData env chunk).state := by
          have after := settles _ (@Daemon.Reaches.between startup inputs
            (earlier ++ [.data conn chunk env]) later (by rw [split]; simp))
          obtain ⟨crashed, delivered⟩ :=
            (Daemon.run startup earlier).deliver_eq_store conn client chunk env
          rw [Daemon.run_append, Daemon.step_data running present connected, delivered,
            Daemon.settles_store_iff] at after
          exact after alone
        refine ⟨?_, ?_⟩
        · intro last line taken call
          rw [← call.rested_iff (visited last call.isOpen call.fits call.visits)]
          cases handled : taken.headerLine env last.consumed line with
          | returned next =>
              exact visited next call.isOpen call.fits (call.visits.tail (Receiver.goes_iff.mpr
                ⟨call.stillOpen, line, taken, call.taking, .inr ⟨call.stage, handled⟩⟩))
          | threw exception next =>
              rw [call.onData_threw handled] at ended
              exact ended
        · intro last call
          have waiting := waiting_of_returns (Daemon.returns_of_running running) conn client present
            (Daemon.run startup earlier).world
          rw [← (waiting.called call).rested_iff call.stage call.buffered, ← call.onData]
          exact ended
  · intro idle daemon reaches
    cases reaches with
    | between split => exact Daemon.settles_of_run (idle.front split)
    | within split running present connected isOpen fits visits =>
        have settled := Daemon.settles_of_run (idle.front split)
        refine Daemon.settles_store_iff.mpr fun alone => ?_
        have rested := (Daemon.settles_iff present connected).mp settled alone
        exact rested.visits isOpen fits
          (idle _ _ _ split _ running present connected alone).1 visits

/-- Every progress update of an upload is due. -/
def Env.reporting : Env :=
  { Env.quiet with data := fun index => { Env.quiet.data index with due := true } }

/-- The client hangs up behind two of five bytes. -/
def cutOff : List Input :=
  [.connect 0 false [1], .data 0 (ascii "123456\nFILE_START:f:5\nab") .reporting, .hangup 0]

/-- An upload that is cut off after a progress update leaves the transfer shown. -/
theorem transfer_left_shown :
    ¬ ∀ startup inputs daemon, Daemon.Reaches startup inputs daemon → daemon.Settles := by
  intro claim
  have settles := claim (.fresh (ascii "123456")) cutOff _
    (.between (List.append_nil cutOff).symm)
  have clients : ∃ first second last : Client, last.gone = true ∧
      (Daemon.run (.fresh (ascii "123456")) cutOff).clients =
        Function.update (Function.update (Function.update (fun _ => none) 0 (some first)) 0
          (some second)) 0 (some last) :=
    ⟨_, _, _, rfl, rfl⟩
  obtain ⟨first, second, last, gone, clients⟩ := clients
  have nothing : ¬ (Daemon.run (.fresh (ascii "123456")) cutOff).Receives := by
    rintro ⟨conn, client, present, connected, _⟩
    rw [clients, Function.update_idem, Function.update_idem] at present
    rcases Daemon.client_of_update present with ⟨rfl, rfl⟩ | ⟨_, old⟩
    · rw [gone] at connected
      cases connected
    · cases old
  have shown : (Daemon.run (.fresh (ascii "123456")) cutOff).world.transfer.shows = true := rfl
  rw [settles nothing] at shown
  cases shown

end TitanShare
