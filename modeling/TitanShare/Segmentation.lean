import TitanShare.AuthGate
import TitanShare.Likeness
import TitanShare.StreamMachine

/-!
# Streams cut into chunks

A session that receives its stream in chunks follows the cursor over the whole stream as long as no
chunk boundary matters: the buffer guard does not strike, no upload is completed when only a part of
the sentinel behind it is buffered, and the last chunk leaves no line behind.  Two ways of cutting a
stream then end in the same place.
-/

namespace TitanShare

open ByteText PassLoop StateTransition

/-- Deliver chunks to a session, one call of `onData` each. -/
def Receiver.deliver (env : Env) : List Bytes → Receiver → Outcome Exception Receiver
  | [], receiver => .returned receiver
  | chunk :: rest, receiver => (receiver.onData env chunk).andThen (deliver env rest)

/-! ## Surroundings that do not interfere -/

namespace Env

/-- The surroundings without the passing of time, with replies that are sent at once, and without
those of the data handler. -/
def still (env : Env) : Env where
  auth call := (env.auth call).still
  header call := (env.header call).still
  data := quiet.data

/-- All bytes are written, and all replies are sent. -/
structure Calm (env : Env) : Prop where
  writes : ∀ call, ∃ count, (env.data call).write = some count ∧ Config.maxReceiveFileBytes ≤ count
  authSends : ∀ call ssl bytes, Transport.transmit ssl (env.auth call).sends bytes = bytes
  headerSends : ∀ call ssl bytes, Transport.transmit ssl (env.header call).sends bytes = bytes
  dataSends : ∀ call ssl bytes, Transport.transmit ssl (env.data call).sends bytes = bytes

end Env

/-! ## Cuts that do not matter -/

namespace Receiver

/-- The state in which the loop of `processBuffer` leaves. -/
def reached (env : Env) (receiver : Receiver) : Receiver :=
  last (pass env) (receiver.bufSize + 1) receiver

/-- If an upload is about to be completed, the buffer shows whether the stream, which goes on with
`future`, continues with the sentinel. -/
def Decided (receiver : Receiver) (future : Bytes) : Prop :=
  receiver.session.stage = .data →
    let missing := receiver.session.expectedBytes - receiver.session.receivedBytes
    missing ≤ receiver.bufSize →
      sentinelLength (receiver.buffer.view.drop missing ++ future) =
        sentinelLength (receiver.buffer.view.drop missing)

/-- Chunks whose boundaries do not matter: before authentication they never fill the buffer beyond
the limit, they do not break off in a sentinel, and no line is left at the end. -/
def Seamless (env : Env) : List Bytes → Receiver → Prop
  | [], receiver => receiver.session.closed = false → 10 ∉ receiver.buffer.view
  | chunk :: rest, receiver =>
      receiver.session.closed = false →
        (receiver.receive chunk).overflows = false ∧
          ((receiver.receive chunk).reached env).Decided rest.flatten ∧
            Seamless env rest (receiver.onData env chunk).state

/-- Before an authentication line no ban of the address runs out: the check of the address answers
as it would if no time passed. -/
def Steady (env : Env) : List Bytes → Receiver → Prop
  | [], _ => True
  | chunk :: rest, receiver =>
      receiver.session.closed = false →
        (∀ reached, Visits (pass env) (receiver.receive chunk) reached →
          reached.session.stage = .auth →
            reached.world.Steady (env.auth reached.calls.auth).check reached.session.remoteIp) ∧
          Steady env rest (receiver.onData env chunk).state

end Receiver

instance (receiver : Receiver) (future : Bytes) : Decidable (receiver.Decided future) :=
  inferInstanceAs (Decidable (receiver.session.stage = .data →
    receiver.session.expectedBytes - receiver.session.receivedBytes ≤ receiver.bufSize → _ = _))

/-- Seamlessness is decided chunk by chunk. -/
def Receiver.decideSeamless (env : Env) :
    (chunks : List Bytes) → (receiver : Receiver) → Decidable (receiver.Seamless env chunks)
  | [], receiver =>
      inferInstanceAs (Decidable (receiver.session.closed = false → 10 ∉ receiver.buffer.view))
  | chunk :: rest, receiver =>
      have := decideSeamless env rest (receiver.onData env chunk).state
      inferInstanceAs (Decidable (receiver.session.closed = false → _ ∧ _ ∧ _))

instance (env : Env) (chunks : List Bytes) (receiver : Receiver) :
    Decidable (receiver.Seamless env chunks) :=
  receiver.decideSeamless env chunks

/-! ## Following the cursor -/

/-- A session has got as far as the cursor, and its stream goes on with `future`. -/
structure Follows (env : Env) (future : Bytes) (receiver : Receiver) (cursor : Cursor) : Prop where
  alike : receiver.toContext.plain = cursor.toContext.plain
  auths : receiver.calls.auth = cursor.auths
  headers : receiver.calls.header = cursor.headers
  unread : receiver.session.closed = false → cursor.unread = receiver.buffer.view ++ future
  peers : receiver.session.closed = false → receiver.session.stage = .auth →
    Peers receiver.session.remoteIp receiver.world cursor.world
  receives : receiver.session.stage = .data → ∃ descriptor,
    receiver.session.fileFd = some descriptor ∧
      receiver.session.receivedBytes < receiver.session.expectedBytes ∧
      receiver.session.expectedBytes ≤ Config.maxReceiveFileBytes

/-- A request that leaves the session waiting for payload has begun an upload of an admitted
size. -/
theorem HeaderStep.receives {frame : HeaderFrame} {line : Bytes} {before after : Context}
    (step : HeaderStep frame line before after) (stage : before.session.stage = .header)
    (data : after.session.stage = .data) :
    ∃ descriptor, after.session.fileFd = some descriptor ∧
      after.session.receivedBytes < after.session.expectedBytes ∧
      after.session.expectedBytes ≤ Config.maxReceiveFileBytes := by
  cases step with
  | request opener kind answers =>
      rw [answers.session] at data
      exact absurd (stage.symm.trans data) (by decide)
  | refusal fileName expectedBytes fileFd released answers =>
      rw [answers.session] at data
      exact absurd (stage.symm.trans data) (by decide)
  | upload fileName expectedBytes declares positive bounded begins =>
      subst begins
      exact ⟨before.world.files.nextDescriptor, rfl, positive, bounded⟩

namespace Follows

variable {env : Env} {future : Bytes} {receiver : Receiver} {cursor : Cursor}

theorem session (follows : Follows env future receiver cursor) :
    cursor.session = receiver.session :=
  (congrArg Context.session follows.alike).symm

theorem trace (follows : Follows env future receiver cursor) :
    cursor.trace = receiver.trace :=
  (congrArg Context.trace follows.alike).symm

theorem consumed (follows : Follows env future receiver cursor) :
    cursor.consumed = receiver.consumed :=
  (congrArg Context.consumed follows.alike).symm

theorem world (follows : Follows env future receiver cursor) :
    receiver.world.plain = cursor.world.plain :=
  congrArg Context.world follows.alike

/-- The next line of the buffer is the next line of the stream. -/
theorem cut (follows : Follows env future receiver cursor)
    (isOpen : receiver.session.closed = false) {raw rest : Bytes}
    (view : receiver.buffer.view = raw ++ 10 :: rest) (absent : 10 ∉ raw) :
    cutAt 10 cursor.unread = some (raw, rest ++ future) := by
  rw [follows.unread isOpen, view]
  exact cutAt_eq_some_iff.mpr ⟨by simp, absent⟩

theorem context (follows : Follows env future receiver cursor) (count : Nat) :
    { cursor.toContext with consumed := cursor.consumed + count } =
      { receiver.toContext with
        consumed := receiver.consumed + count
        world := cursor.world } := by
  simp only [follows.session, follows.trace, follows.consumed]

/-- One PIN line. -/
theorem authLine (calm : env.Calm)
    (follows : Follows env future receiver cursor)
    (isOpen : receiver.session.closed = false) (stage : receiver.session.stage = .auth)
    (steady : receiver.world.Steady (env.auth receiver.calls.auth).check receiver.session.remoteIp)
    {line : Bytes} {taken : Receiver} (taking : receiver.takeLine = some (line, taken)) :
    ∃ next, cursor.advance env.still = some next ∧
      Follows env future (taken.authLine env line) next := by
  obtain ⟨raw, rest, view, absent, rfl, unread, calls, _, context⟩ :=
    Receiver.takeLine_eq_some taking
  let entered : Context :=
    { receiver.toContext with consumed := receiver.consumed + (raw.length + 1) }
  have enteredWorld : entered.world.plain = cursor.world.plain := follows.world
  have enteredPeers : Peers entered.session.remoteIp entered.world cursor.world :=
    follows.peers isOpen stage
  obtain ⟨alike, peers⟩ := handleAuth_alike (Receiver.stripReturn raw) enteredWorld enteredPeers
    steady (calm.authSends receiver.calls.auth)
  have step := handleAuth_step (env.auth receiver.calls.auth) (Receiver.stripReturn raw) entered
  have handled : taken.authLine env (Receiver.stripReturn raw) =
      { taken with
        toContext := handleAuth (env.auth receiver.calls.auth) (Receiver.stripReturn raw) entered
        calls := { receiver.calls with auth := receiver.calls.auth + 1 } } := by
    unfold Receiver.authLine
    rw [context, calls]
  have cursorEntered : { cursor.toContext with consumed := cursor.consumed + (raw.length + 1) } =
      { entered with world := cursor.world } := follows.context _
  refine ⟨{ cursor with
      toContext :=
        handleAuth (env.still.auth cursor.auths) (Receiver.stripReturn raw)
          { cursor.toContext with consumed := cursor.consumed + (raw.length + 1) }
      auths := cursor.auths + 1
      unread := rest ++ future }, ?_, ?_⟩
  · simp only [Cursor.advance, follows.session, isOpen, stage, follows.cut isOpen view absent,
      Cursor.handleLine, Bool.false_eq_true, if_false]
  · rw [cursorEntered, handled, ← follows.auths]
    refine ⟨alike, rfl, follows.headers, ?_, ?_, ?_⟩
    · intro _
      simp only [unread]
    · intro stillOpen stillStage
      cases step with
      | blocked isBlocked world session sent trace => simp [session] at stillOpen
      | accepted unblocked guessed isFree isValid world session member sent trace =>
          simp [session] at stillStage
      | refused unblocked guessed isFree isWrong world closed closes session window sent trace =>
          simp only [session]
          exact peers
    · intro data
      cases step with
      | blocked isBlocked world session sent trace => simp [session, entered, stage] at data
      | accepted unblocked guessed isFree isValid world session member sent trace =>
          simp [session] at data
      | refused unblocked guessed isFree isWrong world closed closes session window sent trace =>
          simp [session, entered, stage] at data

/-- One request line that is answered without an exception. -/
theorem headerLine (calm : env.Calm) (follows : Follows env future receiver cursor)
    (isOpen : receiver.session.closed = false) (stage : receiver.session.stage = .header)
    {line : Bytes} {taken after : Receiver} (taking : receiver.takeLine = some (line, taken))
    (handled : taken.headerLine env receiver.consumed line = .returned after) :
    ∃ next, cursor.advance env.still = some next ∧ Follows env future after next := by
  obtain ⟨raw, rest, view, absent, rfl, unread, calls, _, context⟩ :=
    Receiver.takeLine_eq_some taking
  let line := Receiver.stripReturn raw
  let stop := receiver.consumed + (raw.length + 1)
  let read : Context :=
    { receiver.toContext with consumed := stop }.emit [.headerLine receiver.consumed stop line]
  let cursorRead : Context :=
    { cursor.toContext with consumed := cursor.consumed + (raw.length + 1) }.emit
      [.headerLine cursor.consumed (cursor.consumed + (raw.length + 1)) line]
  have alike : read.plain = cursorRead.plain := by
    simp [read, cursorRead, Context.plain, Context.emit, follows.session, follows.trace,
      follows.consumed, follows.world, stop]
  have answers := (handleHeader_blind (env.header receiver.calls.header) line).alike alike
  rw [handleHeader_still (calm.headerSends _) line cursorRead] at answers
  have step := handleHeader_step (env.header receiver.calls.header) line read
  have handled_eq : taken.headerLine env receiver.consumed line =
      (handleHeader (env.header receiver.calls.header) line read).map fun context =>
        { taken with
          toContext := context
          calls := { receiver.calls with header := receiver.calls.header + 1 } } := by
    unfold Receiver.headerLine
    rw [context, calls]
  rw [handled_eq] at handled
  cases result : handleHeader (env.header receiver.calls.header) line read with
  | threw exception state =>
      rw [result] at handled
      cases handled
  | returned answered =>
      rw [result] at handled answers step
      obtain rfl := Outcome.returned.inj handled
      cases other : handleHeader (env.header receiver.calls.header).still line cursorRead with
      | threw exception state =>
          rw [other] at answers
          cases answers
      | returned cursorAnswered =>
          rw [other] at answers
          refine ⟨{ cursor with
              toContext := cursorAnswered
              headers := cursor.headers + 1
              unread := rest ++ future }, ?_, ?_⟩
          · have cursorOpen : cursor.session.closed = false := by
              rw [follows.session]
              exact isOpen
            have cursorStage : cursor.session.stage = .header := by
              rw [follows.session]
              exact stage
            simp only [Cursor.advance, cursorOpen, cursorStage, follows.cut isOpen view absent,
              Cursor.handleLine, Bool.false_eq_true, if_false]
            have same : handleHeader (env.still.header cursor.headers) line cursorRead =
                .returned cursorAnswered := by
              rw [← follows.headers]
              exact other
            split
            · rename_i context found
              obtain rfl := Outcome.returned.inj (found.symm.trans same)
              rfl
            · rename_i found
              cases found.symm.trans same
          · refine ⟨Outcome.returned.inj answers, follows.auths, ?_, ?_, ?_, ?_⟩
            · exact congrArg (· + 1) follows.headers
            · intro _
              simp only [unread]
            · intro _ impossible
              rcases step.serves.stage with same | admitted
              · rw [Outcome.state_returned] at same
                rw [same, show read.session.stage = .header from stage] at impossible
                cases impossible
              · exact absurd impossible admitted
            · exact step.receives stage

end Follows

/-! ## Payload -/

/-- A call of the data handler that writes all it can and returns: it stores what is buffered, or it
stores what is missing and completes the upload. -/
theorem Receiver.handleFileData_returns {frame : DataFrame} {descriptor count : Nat}
    {receiver after : Receiver} (isOpen : receiver.session.fileFd = some descriptor)
    (nonempty : receiver.bufSize ≠ 0)
    (wanting : receiver.session.receivedBytes < receiver.session.expectedBytes)
    (write : frame.write = some count) (enough : receiver.session.expectedBytes ≤ count)
    (returns : receiver.handleFileData frame = .returned after) :
    let missing := receiver.session.expectedBytes - receiver.session.receivedBytes
    (receiver.bufSize < missing ∧ Stores descriptor receiver.bufSize receiver after) ∨
      missing ≤ receiver.bufSize ∧ ∃ middle, Stores descriptor missing receiver middle ∧
        after = middle.finishUpload frame descriptor := by
  intro missing
  have some_bytes : min receiver.bufSize missing ≠ 0 := by omega
  have whole : min count (min receiver.bufSize missing) = min receiver.bufSize missing := by omega
  have within : min receiver.bufSize missing ≤ receiver.bufSize := min_le_left _ _
  unfold handleFileData at returns
  simp only [isOpen, nonempty, some_bytes, write, whole, missing, if_false] at returns
  obtain ⟨progressed, progress, checked⟩ := Outcome.andThen_eq_returned.mp returns
  have stored := reportProgress_stores frame (stores_storeBytes descriptor _ receiver within)
  rw [progress, Outcome.state_returned] at stored
  have received := congrArg ClientSession.receivedBytes stored.session
  have expected := congrArg ClientSession.expectedBytes stored.session
  simp only at received expected
  unfold checkCompletion at checked
  split at checked
  · rename_i complete
    have full : missing ≤ receiver.bufSize := by omega
    rw [min_eq_right full] at stored
    obtain ⟨last, published, finishes⟩ := Outcome.andThen_eq_returned.mp checked
    have final := publish_stores frame.finish ⟨false, false, [], 1, 1⟩ _ _ stored
    rw [published, Outcome.state_returned] at final
    exact .inr ⟨full, last, final, (Outcome.returned.inj finishes).symm⟩
  · rename_i incomplete
    have partly : receiver.bufSize < missing := by omega
    rw [min_eq_left partly.le] at stored
    obtain rfl := Outcome.returned.inj checked
    exact .inl ⟨partly, stored⟩

/-- Completing an upload in contexts that are alike. -/
theorem completeUpload_alike {sends : List SendResult} {left right : Context}
    (alike : left.plain = right.plain)
    (complete : ∀ ssl bytes, Transport.transmit ssl sends bytes = bytes) (descriptor : Nat) :
    (Receiver.completeUpload sends descriptor left).plain =
      (Receiver.completeUpload [] descriptor right).plain := by
  obtain ⟨session, trace, world, consumed⟩ := (Context.mk.injEq _ _ _ _ _ _ _ _).mp alike
  obtain ⟨files, dir, sendDir⟩ := World.plain_eq_iff.mp world
  simp [Receiver.completeUpload, Context.plain, World.plain, Context.sendResponse, Context.emit,
    complete, transmit_nil, uploadPath, session, trace, files, dir, sendDir, consumed]

namespace Follows

variable {env : Env} {future : Bytes} {receiver : Receiver} {cursor : Cursor}

/-- Storing bytes of the buffer is storing bytes of the stream. -/
theorem store_alike (follows : Follows env future receiver cursor) {descriptor count : Nat}
    {after : Receiver} (stores : Receiver.Stores descriptor count receiver after)
    (within : count ≤ receiver.bufSize) (rest : Bytes) :
    after.toContext.plain =
      (cursor.store descriptor (receiver.buffer.view.take count) rest).toContext.plain := by
  obtain ⟨⟨transfer, context⟩, _⟩ := stores
  obtain ⟨files, dir, sendDir⟩ := World.plain_eq_iff.mp follows.world
  have length : (receiver.buffer.view.take count).length = count := by
    rw [List.length_take, OffsetBuffer.length_view]
    exact min_eq_left within
  rw [context]
  simp [Context.plain, World.plain, Cursor.store, follows.session, follows.trace, follows.consumed,
    length, files, dir, sendDir]

theorem awaits {descriptor : Nat} (follows : Follows env future receiver cursor)
    (isOpen : receiver.session.closed = false) (stage : receiver.session.stage = .data)
    (fileFd : receiver.session.fileFd = some descriptor) : cursor.Receives descriptor := by
  refine ⟨?_, ?_, ?_⟩ <;> rw [follows.session]
  · exact isOpen
  · exact stage
  · exact fileFd

/-- All of the buffer is payload of an upload that goes on. -/
theorem stored {descriptor : Nat} (follows : Follows env future receiver cursor)
    (isOpen : receiver.session.closed = false) (stage : receiver.session.stage = .data)
    (fileFd : receiver.session.fileFd = some descriptor)
    (bounded : receiver.session.expectedBytes ≤ Config.maxReceiveFileBytes)
    (partly : receiver.bufSize < receiver.session.expectedBytes - receiver.session.receivedBytes)
    {after : Receiver} (stores : Receiver.Stores descriptor receiver.bufSize receiver after) :
    (∃ next, Reaches (Cursor.advance env.still) cursor next ∧
        Follows env future after next) ∧ after.buffer.view = [] := by
  have whole : receiver.buffer.view.take receiver.bufSize = receiver.buffer.view := by
    rw [List.take_of_length_le]
    rw [OffsetBuffer.length_view]
    exact le_refl _
  have drained : after.buffer.view = [] := by
    rw [stores.2.1, List.drop_eq_nil_iff, OffsetBuffer.length_view]
    exact le_refl _
  have alike := follows.store_alike stores (le_refl _) future
  rw [whole] at alike
  have session := stores.session
  refine ⟨⟨cursor.store descriptor receiver.buffer.view future, ?_, ?_⟩, drained⟩
  · refine (follows.awaits isOpen stage fileFd).reaches_store (follows.unread isOpen) ?_
    rw [follows.session, OffsetBuffer.length_view]
    exact Nat.add_lt_of_lt_sub' partly
  · refine ⟨alike, ?_, ?_, ?_, ?_, ?_⟩
    · rw [stores.2.2.1]
      exact follows.auths
    · rw [stores.2.2.1]
      exact follows.headers
    · intro _
      rw [drained]
      rfl
    · intro _ impossible
      rw [session] at impossible
      exact absurd (stage.symm.trans impossible) (by decide)
    · intro _
      refine ⟨descriptor, ?_, ?_, ?_⟩
      · rw [session]
        exact fileFd
      · rw [session]
        exact Nat.add_lt_of_lt_sub' partly
      · rw [session]
        exact bounded

/-- The buffer holds the rest of the payload, and the upload is finished. -/
theorem finished {descriptor : Nat} (follows : Follows env future receiver cursor)
    (isOpen : receiver.session.closed = false) (stage : receiver.session.stage = .data)
    (fileFd : receiver.session.fileFd = some descriptor)
    (wanting : receiver.session.receivedBytes < receiver.session.expectedBytes)
    (decided : receiver.Decided future)
    (full : receiver.session.expectedBytes - receiver.session.receivedBytes ≤ receiver.bufSize)
    {middle : Receiver}
    (stores : Receiver.Stores descriptor
      (receiver.session.expectedBytes - receiver.session.receivedBytes) receiver middle)
    {frame : DataFrame}
    (complete : ∀ ssl bytes, Transport.transmit ssl frame.sends bytes = bytes) :
    ∃ next, Reaches (Cursor.advance env.still) cursor next ∧
      Follows env future (middle.finishUpload frame descriptor) next := by
  let missing := receiver.session.expectedBytes - receiver.session.receivedBytes
  let rest := receiver.buffer.view.drop missing ++ future
  have unread := follows.unread isOpen
  have length : (receiver.buffer.view.take missing).length = missing := by
    rw [List.length_take, OffsetBuffer.length_view]
    exact min_eq_left full
  have some_bytes : receiver.buffer.view.take missing ≠ [] := by
    rw [← List.length_pos_iff, length]
    exact Nat.sub_pos_of_lt wanting
  have left : middle.buffer.view = receiver.buffer.view.drop missing := stores.2.1
  have skips : Receiver.sentinelLength rest =
      Receiver.sentinelLength (receiver.buffer.view.drop missing) := decided stage full
  have alike : middle.toContext.plain =
      (cursor.store descriptor (receiver.buffer.view.take missing) rest).toContext.plain :=
    follows.store_alike stores full rest
  have session := middle.finishUpload_session frame descriptor
  have calls := (middle.finishUpload_stream frame descriptor).2
  refine ⟨(cursor.store descriptor (receiver.buffer.view.take missing) rest).finish descriptor,
    ?_, ?_⟩
  · refine (follows.awaits isOpen stage fileFd).reaches_finish ?_ some_bytes ?_
    · rw [unread, ← List.append_assoc, List.take_append_drop]
    · rw [follows.session, length]
      exact Nat.add_sub_of_le wanting.le
  · refine ⟨?_, ?_, ?_, ?_, ?_, ?_⟩
    · refine completeUpload_alike ?_ complete descriptor
      rw [(Receiver.drainSentinel_eq middle).1, left]
      change _ = Context.plain
        { (cursor.store descriptor (receiver.buffer.view.take missing) rest).toContext with
          consumed :=
            (cursor.store descriptor (receiver.buffer.view.take missing) rest).consumed +
              Receiver.sentinelLength rest }
      rw [skips]
      exact congrArg (fun context : Context =>
        { context with
          consumed := context.consumed +
            Receiver.sentinelLength (receiver.buffer.view.drop missing) }) alike
    · rw [calls, stores.2.2.1]
      exact follows.auths
    · rw [calls, stores.2.2.1]
      exact follows.headers
    · intro _
      change rest.drop (Receiver.sentinelLength rest) = _
      rw [Receiver.finishUpload_view, left, skips,
        List.drop_append_of_le_length (Receiver.sentinelLength_le _)]
    · intro _ impossible
      rw [session] at impossible
      cases impossible
    · intro impossible
      rw [session] at impossible
      cases impossible

/-- A call of the data handler that returns. -/
theorem fileData (calm : env.Calm)
    (follows : Follows env future receiver cursor)
    (isOpen : receiver.session.closed = false) (stage : receiver.session.stage = .data)
    (nonempty : receiver.bufSize ≠ 0) (decided : receiver.Decided future) {after : Receiver}
    (handled : receiver.fileData env = .returned after) :
    (∃ next, Reaches (Cursor.advance env.still) cursor next ∧
        Follows env future after next) ∧
      (after.session.stage = .data → after.buffer.view = []) := by
  obtain ⟨descriptor, fileFd, wanting, bounded⟩ := follows.receives stage
  obtain ⟨count, write, large⟩ := calm.writes receiver.calls.data
  let counted : Receiver :=
    { receiver with calls := { receiver.calls with data := receiver.calls.data + 1 } }
  have same : Follows env future counted cursor := { follows with }
  have countedFd : counted.session.fileFd = some descriptor := fileFd
  rcases Receiver.handleFileData_returns countedFd nonempty wanting write (bounded.trans large)
      handled with ⟨partly, stores⟩ | ⟨full, middle, stores, rfl⟩
  · obtain ⟨reached, drained⟩ := same.stored isOpen stage countedFd bounded partly stores
    exact ⟨reached, fun _ => drained⟩
  · refine ⟨same.finished isOpen stage countedFd wanting decided full stores (calm.dataSends _), ?_⟩
    intro impossible
    rw [Receiver.finishUpload_session] at impossible
    cases impossible

/-! ## Chunks -/

theorem receive {chunk : Bytes} (follows : Follows env (chunk ++ future) receiver cursor) :
    Follows env future (receiver.receive chunk) cursor := by
  refine { follows with unread := ?_ }
  intro isOpen
  rw [follows.unread isOpen]
  simp [Receiver.receive]

theorem goes (calm : env.Calm)
    (follows : Follows env future receiver cursor)
    (steady : receiver.session.stage = .auth →
      receiver.world.Steady (env.auth receiver.calls.auth).check receiver.session.remoteIp)
    {after : Receiver} (goes : Goes (Receiver.pass env) receiver after) :
    ∃ next, cursor.advance env.still = some next ∧ Follows env future after next := by
  obtain ⟨isOpen, line, taken, taking, ⟨stage, rfl⟩ | ⟨stage, handled⟩⟩ := Receiver.goes_iff.mp goes
  · exact follows.authLine calm isOpen stage (steady stage) taking
  · exact follows.headerLine calm isOpen stage taking handled

theorem visits (calm : env.Calm)
    (follows : Follows env future receiver cursor)
    (steady : ∀ reached, Visits (Receiver.pass env) receiver reached →
      reached.session.stage = .auth →
        reached.world.Steady (env.auth reached.calls.auth).check reached.session.remoteIp)
    {last : Receiver} (visits : Visits (Receiver.pass env) receiver last) :
    ∃ next, Reaches (Cursor.advance env.still) cursor next ∧ Follows env future last next := by
  induction visits with
  | refl => exact ⟨cursor, .refl, follows⟩
  | @tail before after reached step ih =>
      obtain ⟨next, reaches, there⟩ := ih
      obtain ⟨later, advances, still⟩ := there.goes calm (steady before reached) step
      exact ⟨later, reaches.tail advances, still⟩

/-- A call of `onData` that returns. -/
theorem onData (calm : env.Calm) {chunk : Bytes}
    (follows : Follows env (chunk ++ future) receiver cursor)
    (isOpen : receiver.session.closed = false)
    (fits : (receiver.receive chunk).overflows = false)
    (decided : ((receiver.receive chunk).reached env).Decided future)
    (steady : ∀ reached, Visits (Receiver.pass env) (receiver.receive chunk) reached →
      reached.session.stage = .auth →
        reached.world.Steady (env.auth reached.calls.auth).check reached.session.remoteIp)
    {after : Receiver} (returns : receiver.onData env chunk = .returned after) :
    (∃ next, Reaches (Cursor.advance env.still) cursor next ∧
        Follows env future after next) ∧
      (after.session.closed = false → after.session.stage = .data → after.buffer.view = []) := by
  have processes : (receiver.receive chunk).processBuffer env = .returned after := by
    rw [← returns, Receiver.onData_fits env isOpen fits]
  obtain ⟨last, visits, leaves⟩ := Receiver.processBuffer_exits env (receiver.receive chunk)
  rw [processes] at leaves
  have atLast : (receiver.receive chunk).reached env = last :=
    last_eq Receiver.bufSize Receiver.goes_shortens (Nat.lt_succ_self _) visits leaves
  rw [atLast] at decided
  obtain ⟨reached, reaches, there⟩ := follows.receive.visits calm steady visits
  have ends := Receiver.leaves_of_pass leaves
  generalize result : Outcome.returned after = outcome at ends
  cases ends with
  | idle nothing =>
      obtain rfl := Outcome.returned.inj result
      refine ⟨⟨reached, reaches, there⟩, ?_⟩
      intro stillOpen _
      rcases nothing with closed | empty
      · rw [stillOpen] at closed
        cases closed
      · exact (OffsetBuffer.view_eq_nil_iff _).mpr empty
  | unfinished stage missing =>
      obtain rfl := Outcome.returned.inj result
      exact ⟨⟨reached, reaches, there⟩, fun _ data => absurd data stage⟩
  | throws stillOpen stage taking handled => cases result
  | data stillOpen buffered stage =>
      obtain ⟨⟨next, more, still⟩, drained⟩ :=
        there.fileData calm stillOpen stage buffered decided result.symm
      exact ⟨⟨next, reaches.trans more, still⟩, fun _ => drained⟩

end Follows

/-- A closed session ignores all further chunks. -/
theorem Receiver.deliver_closed {env : Env} {receiver : Receiver}
    (closed : receiver.session.closed = true) (chunks : List Bytes) :
    receiver.deliver env chunks = .returned receiver := by
  induction chunks with
  | nil => rfl
  | cons chunk rest ih =>
      rw [deliver, onData_closed env chunk closed]
      exact ih

/-- A session that has received its last chunk has got as far as the cursor can get. -/
theorem Follows.deliver {env : Env} (calm : env.Calm)
    {chunks : List Bytes} {receiver final : Receiver} {cursor : Cursor}
    (follows : Follows env chunks.flatten receiver cursor)
    (drained : receiver.session.closed = false → receiver.session.stage = .data →
      receiver.buffer.view = [])
    (seamless : receiver.Seamless env chunks) (steady : receiver.Steady env chunks)
    (returns : receiver.deliver env chunks = .returned final) :
    ∃ last, Reaches (Cursor.advance env.still) cursor last ∧ last.advance env.still = none ∧
      final.toContext.plain = last.toContext.plain := by
  induction chunks generalizing receiver cursor with
  | nil =>
      obtain rfl := Outcome.returned.inj returns
      refine ⟨cursor, .refl, ?_, follows.alike⟩
      unfold Cursor.advance
      rw [follows.session]
      split
      · rfl
      · rename_i notClosed
        have isOpen : receiver.session.closed = false := by simpa using notClosed
        have unread := follows.unread isOpen
        rw [List.flatten_nil, List.append_nil] at unread
        have noLine : cutAt 10 cursor.unread = none := by
          rw [cutAt_eq_none_iff, unread]
          exact seamless isOpen
        split
        · rename_i stage
          rw [drained isOpen stage] at unread
          simp [Cursor.handleByte, unread]
        · rw [noLine]
        · rw [noLine]
  | cons chunk rest ih =>
      by_cases closed : receiver.session.closed = true
      · rw [Receiver.deliver_closed closed] at returns
        obtain rfl := Outcome.returned.inj returns
        refine ⟨cursor, .refl, ?_, follows.alike⟩
        simp [Cursor.advance, follows.session, closed]
      · have isOpen : receiver.session.closed = false := by simpa using closed
        obtain ⟨fits, decided, later⟩ := seamless isOpen
        obtain ⟨steadily, laterSteady⟩ := steady isOpen
        obtain ⟨middle, delivered, remaining⟩ := Outcome.andThen_eq_returned.mp returns
        obtain ⟨⟨next, reaches, there⟩, rested⟩ :=
          follows.onData calm isOpen fits decided steadily delivered
        rw [delivered] at later laterSteady
        obtain ⟨last, more, stuck, alike⟩ := ih there rested later laterSteady remaining
        exact ⟨last, reaches.trans more, stuck, alike⟩

/-- Every session starts with the cursor. -/
theorem follows_initial (ssl : Bool) (remoteIp : Ip) (env : Env) (world : World) (stream : Bytes) :
    Follows env stream ((Client.initial ssl remoteIp).receiver world)
      { session := .initial ssl remoteIp
        trace := []
        world := world
        consumed := 0
        auths := 0
        headers := 0
        unread := stream } := by
  refine ⟨rfl, rfl, rfl, fun _ => rfl, fun _ _ => .refl remoteIp world, ?_⟩
  intro impossible
  cases impossible

/-- Two ways of cutting a stream, under surroundings that differ in the passing of time and in the
calls of the data handler only: when both have been delivered, the sessions have done the same,
stand in the same stage, and have left the same files. -/
theorem segmentation_independent (ssl : Bool) (remoteIp : Ip) (world : World) {left right : Env}
    {chunks pieces : List Bytes} {final last : Receiver}
    (sameStream : chunks.flatten = pieces.flatten) (surroundings : left.still = right.still)
    (leftCalm : left.Calm) (rightCalm : right.Calm)
    (leftSteady : ((Client.initial ssl remoteIp).receiver world).Steady left chunks)
    (rightSteady : ((Client.initial ssl remoteIp).receiver world).Steady right pieces)
    (leftSeamless : ((Client.initial ssl remoteIp).receiver world).Seamless left chunks)
    (rightSeamless : ((Client.initial ssl remoteIp).receiver world).Seamless right pieces)
    (leftDelivered :
      ((Client.initial ssl remoteIp).receiver world).deliver left chunks = .returned final)
    (rightDelivered :
      ((Client.initial ssl remoteIp).receiver world).deliver right pieces = .returned last) :
    final.trace = last.trace ∧ final.session.stage = last.session.stage ∧
      final.world.files = last.world.files := by
  have empty : ((Client.initial ssl remoteIp).receiver world).session.closed = false →
      ((Client.initial ssl remoteIp).receiver world).session.stage = .data →
      ((Client.initial ssl remoteIp).receiver world).buffer.view = [] := fun _ _ => rfl
  obtain ⟨stop, reaches, stuck, alike⟩ :=
    (follows_initial ssl remoteIp left world chunks.flatten).deliver leftCalm empty leftSeamless
      leftSteady leftDelivered
  obtain ⟨other, otherReaches, otherStuck, otherAlike⟩ :=
    (follows_initial ssl remoteIp right world pieces.flatten).deliver rightCalm empty rightSeamless
      rightSteady rightDelivered
  rw [← surroundings, ← sameStream] at otherReaches
  rw [← surroundings] at otherStuck
  obtain rfl : stop = other :=
    Part.mem_unique (mem_eval.mpr ⟨reaches, stuck⟩) (mem_eval.mpr ⟨otherReaches, otherStuck⟩)
  have same : final.toContext.plain = last.toContext.plain := alike.trans otherAlike.symm
  obtain ⟨session, trace, worlds, _⟩ := (Context.mk.injEq _ _ _ _ _ _ _ _).mp same
  exact ⟨trace, congrArg ClientSession.stage session, (World.plain_eq_iff.mp worlds).1⟩

/-! ## Runs -/

/-- A plain session of a fresh daemon. -/
def freshSession : Receiver :=
  (Client.initial false [1]).receiver (Startup.fresh (ascii "123456")).world

theorem calm_quiet : Env.quiet.Calm where
  writes _ := ⟨_, rfl, le_refl _⟩
  authSends _ := transmit_nil
  headerSends _ := transmit_nil
  dataSends _ := transmit_nil

theorem steady_quiet (chunks : List Bytes) (receiver : Receiver) :
    receiver.Steady .quiet chunks := by
  induction chunks generalizing receiver with
  | nil => trivial
  | cons chunk rest ih => exact fun _ => ⟨fun _ _ _ => rfl, ih _⟩

/-- An upload with its sentinel and a request behind it, cut in two ways. -/
theorem segmentation_independent_upload :
    let chunks := [ascii "123456\nFILE_START:f:3\nab", ascii "cFILE_END\nx", ascii "\n"]
    let pieces := [ascii "123", ascii "456\nFILE_START:f:3\n", ascii "abcFILE_END\n", ascii "x\n"]
    (freshSession.deliver .quiet chunks).state.trace =
      (freshSession.deliver .quiet pieces).state.trace := by
  intro chunks pieces
  have first : (freshSession.deliver .quiet chunks).Returns := by decide +kernel
  have second : (freshSession.deliver .quiet pieces).Returns := by decide +kernel
  have sameStream : chunks.flatten = pieces.flatten := by decide +kernel
  have firstSeamless : freshSession.Seamless .quiet chunks := by decide +kernel
  have secondSeamless : freshSession.Seamless .quiet pieces := by decide +kernel
  exact (segmentation_independent false [1] (Startup.fresh (ascii "123456")).world sameStream rfl
    calm_quiet calm_quiet (steady_quiet _ _)
      (steady_quiet _ _) firstSeamless secondSeamless first.eq_returned second.eq_returned).1

/-- The replies in a trace. -/
def repliesOf (trace : List Event) : List Reply :=
  trace.filterMap fun event =>
    match event with
    | .reply reply => some reply
    | _ => none

/-- Two ways of cutting a stream into chunks that can be received, after which a session has replied
differently. -/
def TornApart (chunks pieces : List Bytes) : Prop :=
  chunks.flatten = pieces.flatten ∧
    (∀ chunk ∈ chunks ++ pieces, chunk.length ≤ Config.readBufferSize) ∧
    (freshSession.deliver .quiet chunks).Returns ∧ (freshSession.deliver .quiet pieces).Returns ∧
    repliesOf (freshSession.deliver .quiet chunks).state.trace ≠
      repliesOf (freshSession.deliver .quiet pieces).state.trace

/-- The guard strikes. -/
theorem Receiver.onData_overflows {receiver : Receiver} {chunk : Bytes} (env : Env)
    (isOpen : receiver.session.closed = false) (stage : receiver.session.stage = .auth)
    (long : Config.authMaxBuffer < receiver.buffer.data.length + chunk.length) :
    receiver.onData env chunk =
      .returned { receiver.receive chunk with toContext := (receiver.receive chunk).abort } := by
  have overflows : (receiver.receive chunk).overflows = true := by
    simp [Receiver.overflows, Receiver.receive, OffsetBuffer.append, stage, long]
  exact onData_overflow env isOpen overflows

/-- An authenticated session waits for the end of a line. -/
theorem Receiver.onData_waits {receiver : Receiver} {chunk : Bytes} (env : Env)
    (isOpen : receiver.session.closed = false) (stage : receiver.session.stage = .header)
    (noLine : 10 ∉ receiver.buffer.view ++ chunk) :
    receiver.onData env chunk = .returned (receiver.receive chunk) := by
  have fits : (receiver.receive chunk).overflows = false := by
    simp [Receiver.overflows, Receiver.receive, stage]
  have nothing : (receiver.receive chunk).takeLine = none := by
    rw [takeLine_eq_none_iff]
    simpa [Receiver.receive] using noLine
  have leaves : pass env (receiver.receive chunk) =
      .leave (.returned (receiver.receive chunk)) := by
    have stillOpen : (receiver.receive chunk).session.closed = false := isOpen
    have stillStage : (receiver.receive chunk).session.stage = .header := stage
    unfold pass
    rw [stillStage, nothing]
    split <;> rfl
  rw [onData_fits env isOpen fits]
  simp [Receiver.processBuffer, run, leaves]

/-- A long chunk without a line, behind the PIN line, overruns the limit for strangers. -/
theorem guard_tears {long : Bytes} (noLine : 10 ∉ long)
    (length : long.length = Config.authMaxBuffer) :
    TornApart [ascii "123456\n" ++ long] [ascii "123456\n", long] := by
  have short : (ascii "123456\n").length = 7 := by decide
  let paired := (freshSession.onData .quiet (ascii "123456\n")).state
  have pairs : freshSession.onData .quiet (ascii "123456\n") = .returned paired :=
    Outcome.Returns.eq_returned (by decide +kernel)
  have overruns : Config.authMaxBuffer <
      freshSession.buffer.data.length + (ascii "123456\n" ++ long).length := by
    rw [List.length_append, length, short]
    omega
  let received := freshSession.receive (ascii "123456\n" ++ long)
  have whole : freshSession.deliver .quiet [ascii "123456\n" ++ long] =
      .returned { received with toContext := received.abort } := by
    simp only [Receiver.deliver, Receiver.onData_overflows .quiet rfl rfl overruns,
      Outcome.returned_andThen, received]
  have waits : paired.onData .quiet long = .returned (paired.receive long) := by
    refine Receiver.onData_waits .quiet (by decide +kernel) (by decide +kernel) ?_
    rw [show paired.buffer.view = [] by decide +kernel]
    exact noLine
  have cut : freshSession.deliver .quiet [ascii "123456\n", long] =
      .returned (paired.receive long) := by
    simp only [Receiver.deliver, pairs, waits, Outcome.returned_andThen]
  have silent : repliesOf received.abort.trace = [] := rfl
  have welcomed : repliesOf (paired.receive long).trace = [.authOk] := by
    change repliesOf paired.trace = [.authOk]
    decide +kernel
  refine ⟨by simp, ?_, ⟨_, whole⟩, ⟨_, cut⟩, ?_⟩
  · intro chunk member
    have sizes : chunk = ascii "123456\n" ++ long ∨ chunk = ascii "123456\n" ∨ chunk = long := by
      simpa using member
    rcases sizes with rfl | rfl | rfl
    · rw [List.length_append, length, short]
      decide
    · rw [short]
      decide
    · rw [length]
      decide
  · rw [whole, cut, Outcome.state_returned, Outcome.state_returned]
    rw [silent, welcomed]
    decide

/-- A request behind a payload is left in the buffer, a sentinel is cut in two, and the limit for
strangers is overrun. -/
theorem segmentation_matters :
    TornApart [ascii "123456\nFILE_START:f:3\nabcx\n"]
        [ascii "123456\nFILE_START:f:3\nabc", ascii "x\n"] ∧
      TornApart [ascii "123456\nFILE_START:f:3\nabcFILE_END\n"]
        [ascii "123456\nFILE_START:f:3\nabcFILE_", ascii "END\n"] ∧
      TornApart [ascii "123456\n" ++ List.replicate Config.authMaxBuffer 65]
        [ascii "123456\n", List.replicate Config.authMaxBuffer 65] := by
  refine ⟨?_, ?_, guard_tears (by simp) List.length_replicate⟩
  · unfold TornApart
    decide +kernel
  · unfold TornApart
    decide +kernel

end TitanShare
