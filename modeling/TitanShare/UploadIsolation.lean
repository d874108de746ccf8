import TitanShare.SessionState

/-!
# Isolation of concurrent uploads

Uploads of different sessions meet where their names lead to one file, and nothing in the code keeps
them apart.  An upload is isolated as long as no other session opens or writes its file between its
own `open` and its `FILE_OK`.
-/

namespace TitanShare

open ByteText

/-! ## Opening and writing a file -/

/-- The event opens the file through a descriptor given out since. -/
def Event.Opens (table : FileTable) (since file : Nat) : Event → Prop
  | openUpload _ descriptor path _ _ => since ≤ descriptor ∧ table.directory path = some file
  | _ => False

instance (table : FileTable) (since file : Nat) : DecidablePred (Event.Opens table since file)
  | .openUpload _ _ _ _ _ => inferInstanceAs (Decidable (_ ∧ _))
  | .authLine _ | .blockCheck _ | .keyCheck _ _ | .reply _ | .sent _ | .closeSocket => .isFalse id
  | .headerLine _ _ _ | .dispatch _ | .act _ | .pushFileList | .pushFile _ => .isFalse id
  | .openPush _ _ _ _ | .pushed _ | .writeFailed _ _ | .uploadDone _ _ _ _ => .isFalse id

/-- On the way from one state to the other a session opens the file, or writes to it. -/
def Touches (file : Nat) (before after : Receiver) : Prop :=
  (∃ event ∈ after.trace,
      event.Opens after.world.files before.world.files.nextDescriptor file) ∨
    ∃ descriptor < before.world.files.nextDescriptor,
      before.world.files.opened descriptor = some file ∧
        after.world.files.written descriptor ≠ before.world.files.written descriptor

instance (file : Nat) (before after : Receiver) : Decidable (Touches file before after) :=
  inferInstanceAs (Decidable (_ ∨ _))

namespace Receiver

theorem Stores.files {descriptor count : Nat} {before after : Receiver}
    (stores : Stores descriptor count before after) :
    after.world.files = before.world.files.write descriptor (before.buffer.view.take count) := by
  obtain ⟨⟨transfer, context⟩, _⟩ := stores
  rw [context]

/-- In stage DATA a session receives a chunk or calls the data handler. -/
theorem Step.inData {before after : Receiver} (step : Step before after)
    (stage : before.session.stage = .data) :
    (∃ chunk, after = before.receive chunk) ∨
      ∃ frame calls, DataStep frame { before with calls } after := by
  cases step with
  | receive chunk isOpen receives => exact .inl ⟨chunk, receives⟩
  | overflow isOpen inAuth aborts => simp [stage] at inAuth
  | auth raw rest frame isOpen inAuth view absent handles consumed files unread stream =>
      simp [stage] at inAuth
  | header raw rest frame isOpen inHeader view absent stop consumed handles unread stream =>
      simp [stage] at inHeader
  | data frame calls isOpen stage handles => exact .inr ⟨frame, calls, handles⟩

/-- An upload begins with the open of its path. -/
theorem Begins.opens {before after : Receiver} {fileName : Bytes} {size : Nat}
    (begins : Begins before after fileName size) :
    ∃ upload : Upload, upload.opened ∈ after.trace ∧
      upload.descriptor = before.world.files.nextDescriptor ∧
      after.world.files = before.world.files.create upload.path := by
  obtain ⟨sends, first, stop, line, context⟩ := begins.begins
  let upload : Upload :=
    { start := stop
      descriptor := before.world.files.nextDescriptor
      path := uploadPath before.world fileName
      size := size
      shared := before.world.files.busy (uploadPath before.world fileName) }
  refine ⟨upload, ?_, rfl, ?_⟩
  · rw [context, Context.beginUpload_trace]
    simp [upload, Upload.opened]
  · rw [context]
    rfl

/-- What one step does to the files. -/
theorem Step.files_cases {before after : Receiver} (step : Step before after) :
    after.world.files = before.world.files ∨
      (∃ upload : Upload, upload.opened ∈ after.trace ∧
        upload.descriptor = before.world.files.nextDescriptor ∧
        after.world.files = before.world.files.create upload.path) ∨
      ∃ descriptor bytes, before.session.stage = .data ∧
        before.session.fileFd = some descriptor ∧
        (after.world.files = before.world.files.write descriptor bytes ∨
          after.world.files = (before.world.files.write descriptor bytes).close descriptor) := by
  by_cases stage : before.session.stage = .data
  · rcases step.inData stage with ⟨chunk, rfl⟩ | ⟨frame, calls, handles⟩
    · exact .inl rfl
    cases handles with
    | idle same =>
        subst same
        exact .inl rfl
    | failed descriptor owned refused fails =>
        subst fails
        exact .inr (.inr ⟨descriptor, [], stage, owned, .inr (by rw [FileTable.write_nil]; rfl)⟩)
    | stored descriptor count owned within stores =>
        exact .inr (.inr ⟨descriptor, _, stage, owned, .inl stores.files⟩)
    | completed descriptor count owned within middle stores complete finishes =>
        subst finishes
        refine .inr (.inr ⟨descriptor, before.buffer.view.take count, stage, owned, .inr ?_⟩)
        rw [finishUpload_world, stores.files]
  · rcases step.outside stage with passes | ⟨fileName, size, begins⟩
    · exact .inl passes.files
    · exact .inr (.inl begins.opens)

theorem Step.evolves {before after : Receiver} (step : Step before after) :
    before.world.files.Evolves after.world.files := by
  rcases step.files_cases with same | ⟨upload, _, _, created⟩ | ⟨descriptor, bytes, _, _, written⟩
  · rw [same]
  · rw [created]
    exact FileTable.evolves_create _ _
  · have writes := FileTable.evolves_write before.world.files descriptor bytes
    rcases written with wrote | closed
    · rw [wrote]
      exact writes
    · rw [closed]
      exact writes.trans (FileTable.evolves_close _ _)

end Receiver

/-! ## A file that is not touched -/

section Untouched

variable {file : Nat} {first before after : Receiver}

/-- What was touched once was touched. -/
theorem Touches.later (touches : Touches file first before)
    (earlier : first.world.files.Evolves before.world.files) (step : Receiver.Step before after) :
    Touches file first after := by
  rcases touches with ⟨event, member, opens⟩ | ⟨descriptor, old, isOpen, changed⟩
  · refine .inl ⟨event, step.grows.subset member, ?_⟩
    cases event with
    | openUpload start descriptor path size shared =>
        exact ⟨opens.1, step.evolves.bound opens.2⟩
    | _ => exact opens
  · exact .inr ⟨descriptor, old, isOpen, earlier.written_ne step.evolves old changed⟩

/-- A session that writes through the descriptor of its upload touches the file behind it, no matter
when it was opened. -/
theorem Faithful.touches (faithful : Faithful before)
    (earlier : first.world.files.Evolves before.world.files) (step : Receiver.Step before after)
    {descriptor : Nat} (stage : before.session.stage = .data)
    (owned : before.session.fileFd = some descriptor)
    (isOpen : before.world.files.opened descriptor = some file)
    (changed : after.world.files.written descriptor ≠ before.world.files.written descriptor) :
    Touches file first after := by
  by_cases old : descriptor < first.world.files.nextDescriptor
  · refine .inr ⟨descriptor, old, earlier.opened old isOpen, ?_⟩
    intro same
    have back := step.evolves.written (faithful.owned_lt owned)
    rw [same] at back
    exact changed (same.trans ((earlier.written old).eq_of_length_le back.length_le))
  · obtain ⟨upload, receiving⟩ := faithful.receiving stage
    have sameDescriptor : descriptor = upload.descriptor := by
      have both := owned.symm.trans receiving.owned
      exact Option.some.inj both
    obtain ⟨during, _, front, start, line, split, _⟩ := receiving.accepted
    obtain ⟨known, stands, named⟩ := receiving.isOpen
    rw [sameDescriptor, stands, Option.some.injEq] at isOpen
    have member : upload.opened ∈ before.trace := by
      rw [split]
      simp
    refine .inl ⟨upload.opened, step.grows.subset member, ?_, ?_⟩
    · rw [← sameDescriptor]
      exact not_lt.mp old
    · rw [← isOpen]
      exact step.evolves.bound named

/-- What a series of steps leaves of the files, and of a file it does not touch. -/
structure Apart (file : Nat) (first receiver : Receiver) : Prop where
  faithful : Faithful receiver
  evolves : first.world.files.Evolves receiver.world.files
  content : ¬ Touches file first receiver →
    receiver.world.files.content file = first.world.files.content file

theorem apart_kept (file : Nat) (first : Receiver) : Receiver.Kept (Apart file first) := by
  rintro before after ⟨faithful, evolves, content⟩ step
  refine ⟨faithful_kept faithful step, evolves.trans step.evolves, ?_⟩
  intro untouched
  rw [← content fun touches => untouched (touches.later evolves step)]
  rcases step.files_cases with same | ⟨upload, opens, isNew, created⟩ |
    ⟨descriptor, bytes, stage, owned, written⟩
  · rw [same]
  · rw [created]
    apply FileTable.create_content_of_ne
    intro target
    refine untouched (.inl ⟨upload.opened, opens, ?_, ?_⟩)
    · rw [isNew]
      exact evolves.next
    · rw [created, target]
      simp [FileTable.create]
  · have writes : (before.world.files.write descriptor bytes).content file =
        before.world.files.content file := by
      cases stands : before.world.files.opened descriptor with
      | none => simp [FileTable.write, stands]
      | some known =>
          by_cases empty : bytes = []
          · rw [empty, FileTable.write_nil]
          · apply FileTable.write_content_of_ne stands
            rintro rfl
            refine untouched (faithful.touches evolves step stage owned stands ?_)
            have wrote := FileTable.write_written stands bytes
            rcases written with same | closed
            · simp [same, wrote, empty]
            · simp [closed, wrote, empty]
    rcases written with same | closed
    · rw [same, writes]
    · rw [closed]
      exact writes

end Untouched

/-! ## The session that receives the upload -/

/-- At `FILE_OK` the path of the upload that came through the descriptor holds what was written. -/
def Stored (descriptor : Nat) (before : List Event) (event : Event) : Prop :=
  event = .reply .fileOk → ∃ earlier owner path payload held,
    before = earlier ++ [.uploadDone owner path payload held] ∧
      (owner = descriptor → held = some payload)

theorem stored_extend {descriptor : Nat} {kind : Event → Prop} {earlier later : List Event}
    (stored : Trace.Justified (Stored descriptor) earlier)
    (extended : Trace.Extends kind earlier later)
    (other : ∀ event, kind event → event ≠ .reply .fileOk) :
    Trace.Justified (Stored descriptor) later := by
  apply stored.extend extended
  intro between event _ isKind same
  exact absurd same (other event isKind)

/-- The file behind the descriptor holds what was written through it. -/
def HoldsOwn (descriptor : Nat) (receiver : Receiver) : Prop :=
  receiver.session.fileFd = some descriptor → ∀ file,
    receiver.world.files.opened descriptor = some file →
      receiver.world.files.content file = receiver.world.files.written descriptor

/-- What the steps of a session keep of its own upload. -/
structure Held (descriptor : Nat) (receiver : Receiver) : Prop where
  faithful : Faithful receiver
  holds : HoldsOwn descriptor receiver
  stored : Trace.Justified (Stored descriptor) receiver.trace

theorem holds_of_released {descriptor : Nat} {receiver : Receiver}
    (released : receiver.session.fileFd = none) : HoldsOwn descriptor receiver := by
  intro owned
  rw [released] at owned
  cases owned

theorem HoldsOwn.store {descriptor owner count : Nat} {before after : Receiver}
    (holds : HoldsOwn descriptor before) (owned : before.session.fileFd = some owner)
    (stores : Receiver.Stores owner count before after) : HoldsOwn descriptor after := by
  intro own file isOpen
  rw [stores.session] at own
  obtain rfl : owner = descriptor := Option.some.inj (owned.symm.trans own)
  rw [stores.files, FileTable.write_opened] at isOpen
  rw [stores.files]
  exact FileTable.write_content_eq_written isOpen (holds own file isOpen) _

theorem Held.data {descriptor : Nat} {before after : Receiver} {frame : DataFrame}
    (held : Held descriptor before) (stage : before.session.stage = .data)
    (faithful : Faithful after) (handles : Receiver.DataStep frame before after) :
    Held descriptor after := by
  cases handles with
  | idle same =>
      subst same
      exact held
  | failed owner owned refused fails =>
      subst fails
      refine ⟨faithful, holds_of_released rfl, ?_⟩
      rw [Receiver.failWrite_trace]
      exact stored_extend held.stored (Trace.extends_append fun _ member => member) (by simp)
  | stored owner count owned within stores =>
      refine ⟨faithful, held.holds.store owned stores, ?_⟩
      rw [stores.trace]
      exact held.stored
  | completed owner count owned within middle stores complete finishes =>
      subst finishes
      obtain ⟨upload, receiving⟩ := held.faithful.receiving stage
      have still := receiving.store owned held.faithful.aligned
        (within.trans (min_le_right _ _)) stores
      have holds := held.holds.store owned stores
      obtain rfl : owner = upload.descriptor := Option.some.inj (owned.symm.trans receiving.owned)
      obtain ⟨file, isOpen, named⟩ := still.isOpen
      refine ⟨faithful, holds_of_released (by rw [Receiver.finishUpload_session]), ?_⟩
      rw [Receiver.finishUpload_trace, Trace.justified_append_iff]
      refine ⟨by rw [stores.trace]; exact held.stored, ?_⟩
      simp only [Trace.justified_cons_iff, Trace.justified_nil, and_true]
      refine ⟨by simp [Stored], ?_, by simp [Stored]⟩
      intro _
      refine ⟨middle.trace, _, _, _, _, rfl, ?_⟩
      rintro rfl
      rw [still.path, FileTable.contentAt, named, Option.map_some, holds still.owned file isOpen]

theorem held_kept (descriptor : Nat) : Receiver.Kept (Held descriptor) := by
  intro before after held step
  have faithful := faithful_kept held.faithful step
  by_cases stage : before.session.stage = .data
  · rcases step.inData stage with ⟨chunk, rfl⟩ | ⟨frame, calls, handles⟩
    · exact ⟨faithful, held.holds, held.stored⟩
    · have counted : Held descriptor { before with calls } :=
        ⟨held.faithful.recount calls, held.holds, held.stored⟩
      exact counted.data stage faithful handles
  · refine ⟨faithful, ?_, stored_extend held.stored (step.recorded stage) ?_⟩
    · have released := held.faithful.idle stage
      rcases step.outside stage with passes | ⟨fileName, size, begins⟩
      · apply holds_of_released
        rcases passes.fileFd with same | none
        · exact same.trans released
        · exact none
      · obtain ⟨upload, _, isNew, created⟩ := begins.opens
        intro owned file isOpen
        -- the file was emptied when it was opened
        rw [begins.session, Option.some.injEq] at owned
        rw [created, ← owned, FileTable.create_opened_self, Option.some.injEq] at isOpen
        rw [created, ← owned, ← isOpen]
        simp [FileTable.create]
    · rintro event other rfl
      exact other rfl

/-! ## All sessions -/

/-- Serving the input, the daemon opens or writes the file for a session other than `conn`. -/
structure Daemon.Disturbs (daemon : Daemon) (conn file : Nat) (input : Input) : Prop where
  running : daemon.crashed = false
  touches : ∃ other chunk env client, input = .data other chunk env ∧ other ≠ conn ∧
    daemon.clients other = some client ∧ client.gone = false ∧
    Touches file (client.receiver daemon.world)
      ((client.receiver daemon.world).onData env chunk).state

/-- While a session receives through the descriptor, no other session opens or writes its file. -/
def Daemon.Undisturbed (conn descriptor : Nat) (daemon : Daemon) (input : Input) : Prop :=
  ∀ client file, daemon.clients conn = some client → client.session.fileFd = some descriptor →
    daemon.world.files.opened descriptor = some file → ¬ daemon.Disturbs conn file input

/-- The history ends with the completion of an upload: its payload was written through its
descriptor, and its path holds `held`. -/
def Completes (stream : Bytes) (history : List Event) (upload : Upload) (held : Option Bytes) :
    Prop :=
  upload.start + upload.size ≤ stream.length ∧
    ∃ during, Accepts stream history upload
      (during ++ [.uploadDone upload.descriptor upload.path
        (upload.payload stream upload.size) held])

/-- At every `FILE_OK` of every session, the destination path of the upload holds exactly its
payload. -/
def UploadsIsolated (daemon : Daemon) : Prop :=
  ∀ conn client, daemon.clients conn = some client →
    ∀ before after, client.trace = before ++ .reply .fileOk :: after →
      ∃ upload, Completes client.stream before upload (upload.payload client.stream upload.size)

/-- What a run keeps while the file behind a descriptor of a session is not disturbed. -/
structure Guards (conn descriptor : Nat) (daemon : Daemon) : Prop where
  fleet : Fleet daemon
  held : ∀ {client}, daemon.clients conn = some client → client.gone = false →
    Held descriptor (client.receiver daemon.world)
  stored : ∀ {client}, daemon.clients conn = some client →
    Trace.Justified (Stored descriptor) client.trace

section Fleets

variable {conn descriptor : Nat} {daemon : Daemon}

/-- The world changed, but neither the file nor the own descriptor of the session. -/
theorem Held.elsewhere {receiver : Receiver} (held : Held descriptor receiver) {world : World}
    (faithful : Faithful { receiver with world })
    (opened : world.files.opened descriptor = receiver.world.files.opened descriptor)
    (written : world.files.written descriptor = receiver.world.files.written descriptor)
    (content : ∀ file, receiver.session.fileFd = some descriptor →
      receiver.world.files.opened descriptor = some file →
      world.files.content file = receiver.world.files.content file) :
    Held descriptor { receiver with world } := by
  refine ⟨faithful, ?_, held.stored⟩
  intro owned file isOpen
  rw [opened] at isOpen
  rw [content file owned isOpen, written]
  exact held.holds owned file isOpen

/-- The session of the upload moves on. -/
theorem Guards.moveOwn (guards : Guards conn descriptor daemon) {client : Client}
    (present : daemon.clients conn = some client) (connected : client.gone = false)
    (env : Env) (chunk : Bytes) :
    Guards conn descriptor (daemon.deliver conn client chunk env) := by
  have kept : Receiver.Kept (Held descriptor) := held_kept descriptor
  have held := kept.onData env chunk (guards.held present connected)
  have fleet := guards.fleet.deliver present connected chunk env
  have own : ∀ {found}, (daemon.deliver conn client chunk env).clients conn = some found →
      found = ((client.receiver daemon.world).onData env chunk).state.client := by
    intro found slot
    rw [Daemon.deliver_clients, Function.update_self, Option.some.injEq] at slot
    exact slot.symm
  refine ⟨fleet, ?_, ?_⟩
  · intro found slot _
    rw [own slot, Daemon.deliver_world]
    exact held
  · intro found slot
    rw [own slot]
    exact held.stored

/-- Another session moves on and leaves the file alone. -/
theorem Guards.moveOther (guards : Guards conn descriptor daemon) {other : Nat} {client : Client}
    (running : daemon.crashed = false) (apart : other ≠ conn)
    (present : daemon.clients other = some client) (connected : client.gone = false)
    (env : Env) (chunk : Bytes)
    (undisturbed : daemon.Undisturbed conn descriptor (.data other chunk env)) :
    Guards conn descriptor (daemon.deliver other client chunk env) := by
  have fleet := guards.fleet.deliver present connected chunk env
  have slots : (daemon.deliver other client chunk env).clients conn = daemon.clients conn := by
    rw [Daemon.deliver_clients, Function.update_of_ne (Ne.symm apart)]
  refine ⟨fleet, ?_, fun slot => guards.stored (slots ▸ slot)⟩
  intro found slot here
  have old : daemon.clients conn = some found := slots ▸ slot
  have held := guards.held old here
  by_cases owned : found.session.fileFd = some descriptor
  · have spared : Receiver.Kept (client.receiver daemon.world).Spares := Receiver.spares_kept _
    have spares := spared.onData env chunk (.refl _)
    obtain ⟨opened, written⟩ := spares.others descriptor (held.faithful.owned_lt owned)
      (guards.fleet.distinct (Ne.symm apart) old here present connected owned)
    rw [Daemon.deliver_world]
    refine held.elsewhere ?_ opened written ?_
    · rw [← Daemon.deliver_world]
      exact fleet.faithful slot here
    · intro file _ isOpen
      have kept : Receiver.Kept (Apart file (client.receiver daemon.world)) := apart_kept file _
      have faithful := guards.fleet.faithful present connected
      refine (kept.onData env chunk ⟨faithful, .refl _, fun _ => rfl⟩).content fun touches => ?_
      exact undisturbed found file old owned isOpen
        ⟨running, other, chunk, env, client, rfl, apart, present, connected, touches⟩
  · refine ⟨fleet.faithful slot here, fun own => absurd own owned, held.stored⟩

theorem Guards.destroy (guards : Guards conn descriptor daemon) {other : Nat} {client : Client}
    (present : daemon.clients other = some client) (connected : client.gone = false) :
    Guards conn descriptor (daemon.destroy other client) := by
  have fleet := guards.fleet.destroy present connected
  by_cases apart : other = conn
  · subst apart
    have own : ∀ {found}, (daemon.destroy other client).clients other = some found →
        found.gone = true ∧ found.trace = client.trace := by
      intro found slot
      rcases Daemon.client_of_update slot with ⟨_, rfl⟩ | ⟨different, _⟩
      · exact ⟨rfl, rfl⟩
      · exact absurd rfl different
    refine ⟨fleet, ?_, ?_⟩
    · intro found slot here
      rw [(own slot).1] at here
      cases here
    · intro found slot
      rw [(own slot).2]
      exact guards.stored present
  · have slots : (daemon.destroy other client).clients conn = daemon.clients conn := by
      simp [Daemon.destroy, Function.update_of_ne (Ne.symm apart)]
    refine ⟨fleet, ?_, fun slot => guards.stored (slots ▸ slot)⟩
    intro found slot here
    have old : daemon.clients conn = some found := slots ▸ slot
    have held := guards.held old here
    cases closes : client.session.fileFd with
    | none =>
        have same : (daemon.destroy other client).world = daemon.world := by
          simp [Daemon.destroy, closes]
        rw [same]
        exact held
    | some closed =>
        refine ⟨fleet.faithful slot here, ?_, held.stored⟩
        intro owned file isOpen
        have different : descriptor ≠ closed := by
          rintro rfl
          exact guards.fleet.distinct apart present connected old here closes owned
        have still : daemon.world.files.opened descriptor = some file := by
          simpa [Daemon.destroy, closes, Client.receiver, Function.update_of_ne different] using
            isOpen
        have holds := held.holds owned file still
        simpa [Daemon.destroy, closes, Client.receiver, FileTable.close] using holds

theorem Guards.connect (guards : Guards conn descriptor daemon) (other : Nat) (ssl : Bool)
    (remoteIp : Ip) :
    Guards conn descriptor
      { daemon with
        clients := Function.update daemon.clients other (some (.initial ssl remoteIp)) } := by
  refine ⟨guards.fleet.connect other ssl remoteIp, ?_, ?_⟩
  · intro found slot here
    rcases Daemon.client_of_update slot with ⟨rfl, rfl⟩ | ⟨_, old⟩
    · exact ⟨faithful_initial ssl remoteIp daemon.world, holds_of_released rfl,
        Trace.justified_nil _⟩
    · exact guards.held old here
  · intro found slot
    rcases Daemon.client_of_update slot with ⟨rfl, rfl⟩ | ⟨_, old⟩
    · exact Trace.justified_nil _
    · exact guards.stored old

end Fleets

theorem guards_of_run {conn descriptor : Nat} {startup : Startup} {inputs : List Input}
    (undisturbed : Daemon.Along (Daemon.Undisturbed conn descriptor) startup inputs) :
    Guards conn descriptor (Daemon.run startup inputs) := by
  refine Daemon.run_along (Guards conn descriptor) startup ?_ ?_ ?_ ?_ inputs undisturbed
  · refine ⟨fleet_of_run startup [], ?_, ?_⟩
    · intro client impossible
      cases impossible
    · intro client impossible
      cases impossible
  · intro daemon other ssl remoteIp guards _ _ _
    exact guards.connect other ssl remoteIp
  · intro daemon other client chunk env guards running present connected guarded
    by_cases apart : other = conn
    · subst apart
      exact guards.moveOwn present connected env chunk
    · exact guards.moveOther running apart present connected env chunk guarded
  · intro daemon other client guards _ present connected _
    exact guards.destroy present connected

/-- In every run, at every `FILE_OK` the payload of an upload was written through its descriptor,
and if no other session opened or wrote its file since the upload was opened, the destination path
holds exactly the payload. -/
theorem uploads_isolated (startup : Startup) (inputs : List Input) (conn : Nat) (client : Client)
    (present : (Daemon.run startup inputs).clients conn = some client)
    (before after : List Event) (split : client.trace = before ++ .reply .fileOk :: after) :
    ∃ upload held, Completes client.stream before upload held ∧
      (Daemon.Along (Daemon.Undisturbed conn upload.descriptor) startup inputs →
        held = some (upload.payload client.stream upload.size)) := by
  obtain ⟨upload, during, held, accepts, inside⟩ :=
    (fleet_of_run startup inputs).acknowledged present before _ after split rfl
  refine ⟨upload, held, ⟨inside, during, accepts⟩, ?_⟩
  intro undisturbed
  obtain ⟨earlier, owner, path, payload, content, ends, holds⟩ :=
    (guards_of_run undisturbed).stored present before _ after split rfl
  -- the acknowledged upload and the stored one are the last event before `FILE_OK`
  obtain ⟨_, front, first, line, shape, _⟩ := accepts
  rw [ends, ← List.append_assoc] at shape
  have same := List.singleton_inj.mp (List.append_inj_right' shape rfl)
  obtain ⟨rfl, rfl, rfl, rfl⟩ := Event.uploadDone.inj same
  exact holds rfl

/-- What a session did before its first `FILE_OK`, and after it. -/
def aroundOk (client : Client) : List Event × List Event :=
  let before := client.trace.takeWhile fun event => event ≠ .reply .fileOk
  (before, client.trace.drop (before.length + 1))

/-- The second session uploads a name that the first one holds open, and a third one uploads another
name meanwhile; the first one writes when the second one has its `FILE_OK`. -/
def idleSharedUpload : List Input :=
  [.connect 0 false [1], .connect 1 false [2], .connect 2 false [3],
    .data 0 (ascii "123456\nFILE_START:a:1\n") .quiet,
    .data 1 (ascii "123456\nFILE_START:a:2\ny") .quiet,
    .data 2 (ascii "123456\nFILE_START:b:1\nw") .quiet,
    .data 1 (ascii "z") .quiet, .data 0 (ascii "x") .quiet]

theorem idleSharedUpload_undisturbed :
    Daemon.Along (Daemon.Undisturbed 1 1) (.fresh (ascii "123456")) idleSharedUpload := by
  intro earlier input later split client file slot owned isOpen
  rintro ⟨_, other, chunk, env, found, rfl, apart, present, connected, touches⟩
  obtain ⟨cut, next⟩ : earlier = idleSharedUpload.take earlier.length ∧
      idleSharedUpload[earlier.length]? = some (.data other chunk env) := by
    rw [split]
    simp
  have below : earlier.length < 8 := by
    have length := congrArg List.length split
    simp only [idleSharedUpload, List.length_cons, List.length_nil, List.length_append] at length
    omega
  generalize earlier.length = place at cut next below
  subst cut
  have receives :
      ((Daemon.run (.fresh (ascii "123456")) (idleSharedUpload.take place)).clients 1).map
      (fun client => client.session.fileFd) = some (some 1) := by
    rw [slot, Option.map_some, owned]
  rcases place with _ | _ | _ | _ | _ | _ | _ | _ | place
  · cases next
  · cases next
  · cases next
  · exact absurd receives (by decide +kernel)
  · exact absurd receives (by decide +kernel)
  · -- the upload of the third session
    cases next
    have stands : (Daemon.run (.fresh (ascii "123456"))
        (idleSharedUpload.take 5)).world.files.opened 1 =
        some 0 := by
      decide +kernel
    obtain rfl : 0 = file := Option.some.inj (stands.symm.trans isOpen)
    have moved : ((Daemon.run (.fresh (ascii "123456")) (idleSharedUpload.take 5)).clients 2).all
        (fun client =>
          let before := client.receiver
            (Daemon.run (.fresh (ascii "123456")) (idleSharedUpload.take 5)).world
          decide (¬ Touches 0 before
            (before.onData .quiet (ascii "123456\nFILE_START:b:1\nw")).state)) = true := by
      decide +kernel
    rw [present, Option.all_some, decide_eq_true_eq] at moved
    exact moved touches
  · cases next
    exact apart rfl
  · exact absurd receives (by decide +kernel)
  · omega

theorem uploads_isolated_idle :
    ∃ client, (Daemon.run (.fresh (ascii "123456")) idleSharedUpload).clients 1 = some client ∧
      client.trace = (aroundOk client).1 ++ .reply .fileOk :: (aroundOk client).2 ∧
      ∃ upload, upload.shared = true ∧ Completes client.stream (aroundOk client).1 upload
        (some (upload.payload client.stream upload.size)) := by
  let client := ((Daemon.run (.fresh (ascii "123456")) idleSharedUpload).clients 1).getD
    (.initial false [])
  have present :
      (Daemon.run (.fresh (ascii "123456")) idleSharedUpload).clients 1 = some client := rfl
  have split : client.trace = (aroundOk client).1 ++ .reply .fileOk :: (aroundOk client).2 := by
    decide +kernel
  have opens : ∀ event ∈ (aroundOk client).1, event.kind = .upload →
      event = .reply .readyForFile ∨ event = .openUpload 22 1 (ascii "/a") 2 true := by
    decide +kernel
  obtain ⟨upload, held, completes, isolates⟩ :=
    uploads_isolated (.fresh (ascii "123456")) idleSharedUpload 1 client present _ _ split
  obtain ⟨_, _, _, front, first, line, shape, _⟩ := id completes
  have opened : upload.opened = .openUpload 22 1 (ascii "/a") 2 true := by
    have member : upload.opened ∈ (aroundOk client).1 := by
      rw [shape]
      simp
    exact (opens _ member rfl).resolve_left nofun
  obtain ⟨_, descriptor, _, _, shared⟩ := Event.openUpload.inj opened
  rw [isolates (descriptor ▸ idleSharedUpload_undisturbed)] at completes
  exact ⟨client, present, split, upload, shared, completes⟩

/-- Two sessions upload the same name at the same time. -/
def clashingUploads : List Input :=
  [.connect 0 false [1], .connect 1 false [2],
    .data 0 (ascii "123456\nFILE_START:a:2\nx") .quiet,
    .data 1 (ascii "123456\nFILE_START:a:1\ny") .quiet,
    .data 0 (ascii "z") .quiet]

theorem uploads_not_isolated :
    ¬ ∀ (startup : Startup) (inputs : List Input),
      (∀ conn chunk env, .data conn chunk env ∈ inputs → ∀ index,
        (env.data index).write = some Config.maxReceiveFileBytes) →
      UploadsIsolated (Daemon.run startup inputs) := by
  intro claim
  let client := ((Daemon.run (.fresh (ascii "123456")) clashingUploads).clients 0).getD
    (.initial false [])
  have split : client.trace = (aroundOk client).1 ++ .reply .fileOk :: (aroundOk client).2 := by
    decide +kernel
  have present : (Daemon.run (.fresh (ascii "123456")) clashingUploads).clients 0 = some client :=
    rfl
  have isolated : UploadsIsolated (Daemon.run (.fresh (ascii "123456")) clashingUploads) := by
    refine claim _ _ ?_
    intro conn chunk env member index
    have quiet : env = .quiet := by
      simp only [clashingUploads, List.mem_cons, Input.data.injEq, reduceCtorEq, false_or,
        List.not_mem_nil, or_false] at member
      rcases member with same | same | same <;> exact same.2.2
    rw [quiet]
    rfl
  obtain ⟨upload, completes⟩ := isolated 0 client present _ _ split
  obtain ⟨_, during, _, front, first, line, shape, _⟩ := completes
  have ends : (aroundOk client).1.getLast? =
      some (.uploadDone 0 (ascii "/a") (ascii "xz") (some (ascii "yz"))) := by
    decide +kernel
  rw [shape] at ends
  simp only [← List.append_assoc, List.getLast?_concat, Option.some.injEq,
    Event.uploadDone.injEq] at ends
  obtain ⟨_, _, payload, held⟩ := ends
  rw [payload] at held
  exact absurd held (by decide)

end TitanShare
