import TitanShare.AuthGate
import TitanShare.ReplyDelivery
import TitanShare.Survival

/-!
# Framing of pushed files

`pushFile` promises a length before it reads the data, and on a short read or a failing send it goes
back to serving requests.  The promise and the promised bytes are complete before the next reply
exactly when the connection takes the header line, no read is short and no send fails.
-/

namespace TitanShare

open ByteText

/-- The bytes of files that were pushed in a stretch of a trace. -/
def pushedBytes (events : List Event) : Bytes :=
  events.flatMap fun event =>
    match event with
    | .pushed bytes => bytes
    | _ => []

/-- Every read of a push delivers what it asks for, and the sends of its chunk meet no error but
`EAGAIN` until the chunk is out. -/
def Delivers (size : Nat) : List ChunkEnv → Nat → Prop
  | [], sent => size ≤ sent
  | chunk :: rest, sent =>
      size ≤ sent ∨
        min Config.pushChunk (size - sent) ≤ chunk.read.length ∧
          Transport.carries chunk.sends (min Config.pushChunk (size - sent)) = true ∧
          Delivers size rest (sent + min Config.pushChunk (size - sent))

def Event.isReply : Event → Bool
  | reply _ => true
  | _ => false

def NoReply (events : List Event) : Prop :=
  ∀ event ∈ events, event.isReply = false

/-- The connection was sent the whole header line, and the promised number of bytes behind it. -/
def Delivered (name : Bytes) (size : Nat) (middle : List Event) : Prop :=
  ∃ rest, middle = .sent (Reply.filePush name size).text :: rest ∧
    (pushedBytes rest).length = size

/-- What followed the latest reply, if that promised a file, is the promise and the promised number
of bytes exactly when the connection and the file delivered. -/
def Framed (trace : List Event) : Prop :=
  ∀ before name size middle, trace = before ++ .reply (.filePush name size) :: middle →
    NoReply middle → ∃ earlier path taken chunks,
      before = earlier ++ [.openPush path size taken chunks] ∧
        ∃ line rest, middle = .sent line :: rest ∧
          (line = (Reply.filePush name size).text ↔ taken = true) ∧
          ((pushedBytes rest).length = size ↔ Delivers size chunks 0)

/-- Every reply comes behind a framed push. -/
def RepliesFramed (trace : List Event) : Prop :=
  Trace.Justified (fun before event => ∀ reply, event = .reply reply → Framed before) trace

/-- An event of a push, behind its `open`. -/
def Event.pushes : Event → Bool
  | pushed _ | reply (.filePush _ _) => true
  | _ => false

/-! ## Streaming a file -/

theorem publishTransferState_trace (env : PublishEnv) (state : TransferState) (context : Context) :
    (publishTransferState env state context).state.trace = context.trace := by
  obtain ⟨transfer, published⟩ := publishTransferState_state env state context
  rw [published]
  rfl

theorem publishTransferState_returned {env : PublishEnv} {state : TransferState}
    {context after : Context}
    (returned : publishTransferState env state context = .returned after) :
    after.trace = context.trace := by
  have trace := publishTransferState_trace env state context
  rw [returned] at trace
  exact trace

/-- Only blocks of a file were pushed. -/
def Context.Pushes (before after : Context) : Prop :=
  ∃ blocks : List Bytes, after.trace = before.trace ++ blocks.map Event.pushed

theorem Context.Pushes.trans {first second third : Context} (left : first.Pushes second)
    (right : second.Pushes third) : first.Pushes third := by
  obtain ⟨blocks, earlier⟩ := left
  obtain ⟨more, later⟩ := right
  exact ⟨blocks ++ more, by rw [later, earlier]; simp⟩

theorem publishTransferState_pushes (env : PublishEnv) (state : TransferState)
    {before context : Context} (pushes : before.Pushes context) :
    before.Pushes (publishTransferState env state context).state :=
  pushes.trans ⟨[], by simp [publishTransferState_trace]⟩

theorem streamFile_pushes (finish : PublishEnv) (name : Bytes) (size : Nat)
    (chunks : List ChunkEnv) (sent : Nat) (good : Bool) (context : Context) :
    context.Pushes (streamFile finish name size chunks sent good context).state := by
  have nothing : context.Pushes context := ⟨[], by simp⟩
  induction chunks generalizing sent good context with
  | nil => exact publishTransferState_pushes _ _ nothing
  | cons chunk rest ih =>
      simp only [streamFile]
      generalize chunk.delivers good (min Config.pushChunk (size - sent)) = bytes
      have block : context.Pushes
          (context.emit [.pushed (Transport.sendChunk chunk.sends bytes).1]) :=
        ⟨[(Transport.sendChunk chunk.sends bytes).1], rfl⟩
      split
      · exact publishTransferState_pushes _ _ nothing
      · split
        · exact publishTransferState_pushes _ _ block
        · apply Outcome.andThen_keeps
          · split
            · exact publishTransferState_pushes _ _ block
            · exact block
          · intro state pushes
            exact pushes.trans (ih _ _ state ⟨[], by simp⟩)

/-- After a short read nothing more is pushed. -/
theorem streamFile_spent (finish : PublishEnv) (name : Bytes) (size : Nat)
    (chunks : List ChunkEnv) (sent : Nat) (context : Context) :
    (streamFile finish name size chunks sent false context).state.trace = context.trace := by
  cases chunks with
  | nil => exact publishTransferState_trace _ _ _
  | cons chunk rest =>
      simp only [streamFile, ChunkEnv.delivers, Bool.false_eq_true, if_false, if_true]
      exact publishTransferState_trace _ _ _

/-- The loop of `pushFile` completes the promised size exactly when file and socket deliver. -/
theorem streamFile_delivers {finish : PublishEnv} {name : Bytes} {size : Nat}
    {chunks : List ChunkEnv} {sent : Nat} {context after : Context} (below : sent ≤ size)
    (returned : streamFile finish name size chunks sent true context = .returned after) :
    ∃ blocks : List Bytes, after.trace = context.trace ++ blocks.map Event.pushed ∧
      (sent + blocks.flatten.length = size ↔ Delivers size chunks sent) := by
  induction chunks generalizing sent context with
  | nil =>
      refine ⟨[], by simpa using publishTransferState_returned returned, ?_⟩
      simp only [List.flatten_nil, List.length_nil, Delivers]
      omega
  | cons chunk rest ih =>
      simp only [streamFile, ChunkEnv.delivers, if_true, Bool.true_and] at returned
      simp only [Delivers]
      generalize wantedEq : min Config.pushChunk (size - sent) = wanted at returned ⊢
      have chunkPositive : 0 < Config.pushChunk := by decide
      have length : (chunk.read.take wanted).length = min wanted chunk.read.length :=
        List.length_take
      generalize chunk.read.take wanted = bytes at returned length
      by_cases nothing : bytes = []
      · rw [if_pos nothing] at returned
        refine ⟨[], by simpa using publishTransferState_returned returned, ?_⟩
        rw [nothing, List.length_nil] at length
        simp only [List.flatten_nil, List.length_nil]
        omega
      · rw [if_neg nothing] at returned
        have positive : 0 < bytes.length := List.length_pos_of_ne_nil nothing
        have complete := Transport.sendChunk_complete chunk.sends bytes
        have sentBytes := Transport.sendChunk_sent chunk.sends bytes
        by_cases carried : Transport.carries chunk.sends bytes.length = true
        · rw [carried] at complete
          rw [if_pos carried] at sentBytes
          rw [complete, sentBytes] at returned
          simp only [Bool.true_eq_false, if_false] at returned
          obtain ⟨middle, published, streamed⟩ := Outcome.andThen_eq_returned.mp returned
          have middleTrace : middle.trace = context.trace ++ [.pushed bytes] := by
            split at published
            · simpa using publishTransferState_returned published
            · obtain rfl := Outcome.returned.inj published
              simp
          by_cases whole : bytes.length = wanted
          · simp only [whole, beq_self_eq_true] at streamed
            obtain ⟨blocks, trace, delivers⟩ := ih (by omega) streamed
            refine ⟨bytes :: blocks, ?_, ?_⟩
            · rw [trace, middleTrace]
              simp
            · rw [← whole] at delivers ⊢
              simp only [List.flatten_cons, List.length_append, ← Nat.add_assoc, delivers, carried]
              constructor
              · intro later
                exact .inr ⟨by omega, trivial, later⟩
              · rintro (impossible | ⟨_, _, later⟩)
                · omega
                · exact later
          · have short : (bytes.length == wanted) = false := by simpa using whole
            rw [short] at streamed
            have spent := streamFile_spent finish name size rest (sent + bytes.length) middle
            rw [streamed, Outcome.state_returned] at spent
            refine ⟨[bytes], by rw [spent, middleTrace]; rfl, ?_⟩
            simp only [List.flatten_cons, List.flatten_nil, List.append_nil]
            omega
        · rw [if_neg carried] at sentBytes
          have failed : (Transport.sendChunk chunk.sends bytes).2 = false := by
            rw [complete]
            simpa using carried
          rw [if_pos failed] at returned
          refine ⟨[(Transport.sendChunk chunk.sends bytes).1], ?_, ?_⟩
          · simpa using publishTransferState_returned returned
          · simp only [List.flatten_cons, List.flatten_nil, List.append_nil]
            constructor
            · intro impossible
              omega
            · rintro (impossible | ⟨whole, carries, _⟩)
              · omega
              · have same : bytes.length = wanted := by omega
                rw [same] at carried
                exact absurd carries carried

/-! ## The request handler -/

/-- What a request does to the trace as far as pushes are concerned: it stays apart from them, or it
is a push that was promised and streamed. -/
inductive PushStep (before after : List Event) (completes : Prop) : Prop
  | apart (extended : Trace.Extends (fun event => event.pushes = false) before after)
  | push (filename path name : Bytes) (size : Nat) (taken : Bool) (line : Bytes)
      (chunks : List ChunkEnv) (blocks : List Bytes)
      (trace : after = before ++
        [.pushFile filename, .openPush path size taken chunks, .reply (.filePush name size),
          .sent line] ++ blocks.map Event.pushed)
      (whole : line = (Reply.filePush name size).text ↔ taken = true)
      (framed : completes → (blocks.flatten.length = size ↔ Delivers size chunks 0))

theorem sendResponse_apart (context : Context) (sends : List SendResult) {reply : Reply}
    (other : (Event.reply reply).pushes = false) :
    Trace.Extends (fun event => event.pushes = false) context.trace
      (context.sendResponse sends reply).trace := by
  rw [Context.sendResponse_trace]
  exact Trace.extends_append (by simpa using ⟨other, rfl⟩)

theorem emit_apart (context : Context) {events : List Event}
    (other : ∀ event ∈ events, event.pushes = false) :
    Trace.Extends (fun event => event.pushes = false) context.trace
      (context.emit events).trace :=
  Trace.extends_append other

theorem pushFileList_apart (frame : HeaderFrame) (context : Context) :
    Trace.Extends (fun event => event.pushes = false) context.trace
      (pushFileList frame context).state.trace := by
  have started : Trace.Extends (fun event => event.pushes = false) context.trace
      (context.emit [.pushFileList]).trace := emit_apart context (by simp [Event.pushes])
  simp only [pushFileList]
  split
  · exact started
  · exact started.trans (sendResponse_apart _ _ rfl)

theorem runCommand_apart (frame : HeaderFrame) (cmd : Bytes) (context : Context) :
    Trace.Extends (fun event => event.pushes = false) context.trace
      (runCommand frame cmd context).state.trace := by
  have acted : ∀ actions : List Action, Trace.Extends (fun event => event.pushes = false)
      context.trace (context.emit (.dispatch cmd :: actions.map Event.act)).trace := by
    intro actions
    refine emit_apart context ?_
    simp [Event.pushes]
  simp only [runCommand]
  split
  · exact acted _
  · split
    · exact acted _
    · exact (acted _).trans (sendResponse_apart _ _ rfl)

theorem fileStart_apart (frame : HeaderFrame) (line : Bytes) (context : Context) :
    Trace.Extends (fun event => event.pushes = false) context.trace
      (fileStart frame line context).state.trace := by
  cases fileStart_exit frame line context with
  | refused fileName expectedBytes fileFd released refusal same =>
      rw [same]
      let failed : Context :=
        { context with session := { context.session with fileName, expectedBytes, fileFd } }
      exact sendResponse_apart failed frame.sends rfl
  | threw fileName colon size allows missing same =>
      rw [same]
      exact .refl _
  | begun colon size allows created opens same =>
      rw [same, Outcome.state_returned, Context.beginUpload_trace]
      exact Trace.extends_append (by simp [Event.pushes])

theorem pushFile_step (frame : HeaderFrame) (filename : Bytes) (context : Context) :
    PushStep context.trace (pushFile frame filename context).state.trace
      (pushFile frame filename context).Returns := by
  have started : Trace.Extends (fun event => event.pushes = false) context.trace
      (context.emit [.pushFile filename]).trace := emit_apart context (by simp [Event.pushes])
  cases pushFile_exit frame filename context with
  | threw exception missing same =>
      rw [same]
      exact .apart started
  | refused reply refusal missing same =>
      rw [same]
      obtain rfl | rfl | rfl := refusal <;>
        exact .apart (started.trans (sendResponse_apart _ _ rfl))
  | streamed size offers same =>
      rw [same]
      let path := context.world.sendDir ++ ascii "/" ++ baseName filename
      obtain ⟨blocks, trace⟩ := streamFile_pushes frame.push.finish (baseName filename) size
        frame.push.chunks 0 true (frame.promised filename size context)
      refine .push filename path (baseName filename) size
        (frame.takes context.session.ssl (baseName filename) size) _ frame.push.chunks blocks ?_
        (frame.takes_iff _ _ _).symm ?_
      · rw [trace]
        simp [HeaderFrame.promised, path]
      · rintro ⟨after, returned⟩
        obtain ⟨others, delivered, delivers⟩ := streamFile_delivers (Nat.zero_le size) returned
        rw [returned, Outcome.state_returned, delivered] at trace
        have blocksEq : others = blocks :=
          List.map_injective_iff.mpr (fun _ _ => Event.pushed.inj) (List.append_cancel_left trace)
        rw [Nat.zero_add, blocksEq] at delivers
        exact delivers

theorem handleHeader_pushStep (frame : HeaderFrame) (line : Bytes) (context : Context) :
    PushStep context.trace (handleHeader frame line context).state.trace
      (handleHeader frame line context).Returns := by
  simp only [handleHeader]
  split
  · split
    · exact .apart (pushFileList_apart _ _)
    · split
      · exact pushFile_step _ _ _
      · exact .apart (runCommand_apart _ _ _)
  · split
    · exact .apart (fileStart_apart _ _ _)
    · exact .apart (sendResponse_apart _ _ rfl)

/-! ## Framed traces -/

theorem pushedBytes_append (first second : List Event) :
    pushedBytes (first ++ second) = pushedBytes first ++ pushedBytes second :=
  List.flatMap_append

theorem pushedBytes_apart {events : List Event}
    (apart : ∀ event ∈ events, event.pushes = false) : pushedBytes events = [] := by
  rw [pushedBytes, List.flatMap_eq_nil_iff]
  intro event member
  have other := apart event member
  cases event with
  | pushed bytes => cases other
  | _ => rfl

theorem pushedBytes_blocks (blocks : List Bytes) :
    pushedBytes (blocks.map Event.pushed) = blocks.flatten := by
  induction blocks with
  | nil => rfl
  | cons block blocks ih =>
      rw [List.map_cons, List.flatten_cons, ← ih]
      rfl

/-- Events apart from pushes keep a trace framed. -/
theorem Framed.append {trace added : List Event} (framed : Framed trace)
    (apart : ∀ event ∈ added, event.pushes = false) : Framed (trace ++ added) := by
  intro before name size middle split quiet
  have absent : .reply (.filePush name size) ∉ added := by
    intro member
    cases apart _ member
  obtain ⟨between, earlier, rfl⟩ := Trace.split_append split absent
  obtain ⟨front, path, taken, chunks, opens, line, rest, rfl, whole, delivers⟩ :=
    framed before name size between earlier
      fun event member => quiet event (List.mem_append_left _ member)
  refine ⟨front, path, taken, chunks, opens, line, rest ++ added, rfl, whole, ?_⟩
  rw [pushedBytes_append, pushedBytes_apart apart, List.append_nil]
  exact delivers

/-- A session whose pushes are framed. -/
def Orderly (receiver : Receiver) : Prop :=
  RepliesFramed receiver.trace ∧ Framed receiver.trace

theorem framed_extend {trace later : List Event} (replies : RepliesFramed trace)
    (framed : Framed trace)
    (extended : Trace.Extends (fun event => event.pushes = false) trace later) :
    RepliesFramed later ∧ Framed later := by
  constructor
  · apply Trace.Justified.extend replies extended
    intro between event apart _ reply _
    exact framed.append apart
  · obtain ⟨added, rfl, apart⟩ := extended
    exact framed.append apart

/-- A request keeps the replies framed, and the trace as well if it returns. -/
theorem PushStep.framed {before after : List Event} {completes : Prop}
    (step : PushStep before after completes) (replies : RepliesFramed before)
    (framed : Framed before) : RepliesFramed after ∧ (completes → Framed after) := by
  cases step with
  | apart extended =>
      obtain ⟨repliesAfter, framedAfter⟩ := framed_extend replies framed extended
      exact ⟨repliesAfter, fun _ => framedAfter⟩
  | push filename path name size taken line chunks blocks trace whole delivers =>
      let front := before ++ [.pushFile filename, .openPush path size taken chunks]
      let rest := .sent line :: blocks.map Event.pushed
      have opened : RepliesFramed front ∧ Framed front :=
        framed_extend replies framed (Trace.extends_append (by simp [Event.pushes]))
      have shape : after = front ++ .reply (.filePush name size) :: rest := by
        rw [trace]
        simp [front, rest]
      have quiet : ∀ event ∈ rest, ¬ event.isReply = true := by
        simp [rest, Event.isReply]
      constructor
      · have promised : RepliesFramed (front ++ [.reply (.filePush name size)]) := by
          refine Trace.justified_append_iff.mpr ⟨opened.1, ?_⟩
          rw [Trace.justified_cons_iff, List.append_nil]
          exact ⟨fun _ _ => opened.2, Trace.justified_nil _⟩
        have split : after = (front ++ [.reply (.filePush name size)]) ++ rest := by
          rw [shape]
          simp
        rw [split]
        refine Trace.Justified.extend promised (Trace.extends_append quiet) ?_
        rintro between event _ other reply rfl
        exact absurd rfl other
      · intro completed otherFront otherName otherSize middle split silent
        rw [shape] at split
        obtain ⟨rfl, same, rfl⟩ := Trace.last_unique (fun event : Event => event.isReply = true)
          split rfl rfl quiet fun event member => by simp [silent event member]
        obtain ⟨rfl, rfl⟩ := Reply.filePush.inj (Event.reply.inj same)
        refine ⟨before ++ [.pushFile filename], path, taken, chunks, by simp [front], line,
          blocks.map Event.pushed, rfl, whole, ?_⟩
        rw [pushedBytes_blocks]
        exact delivers completed

/-! ## Whole runs -/

theorem Receiver.DataStep.apart {frame : DataFrame} {before after : Receiver}
    (step : Receiver.DataStep frame before after) :
    Trace.Extends (fun event => event.pushes = false) before.trace after.trace := by
  cases step with
  | idle same => rw [same]
  | failed descriptor isOpen refused fails =>
      rw [fails, Receiver.failWrite_trace]
      exact Trace.extends_append (by simp [Event.pushes])
  | stored descriptor count isOpen within stores => rw [stores.trace]
  | completed descriptor count isOpen within middle stores complete finishes =>
      rw [finishes, Receiver.finishUpload_trace, stores.trace]
      exact Trace.extends_append (by simp [Event.pushes])

/-- Authentication and file data stay apart from pushes. -/
theorem Receiver.Step.apart {before after : Receiver} (step : Receiver.Step before after)
    (stage : before.session.stage ≠ .header) :
    Trace.Extends (fun event => event.pushes = false) before.trace after.trace := by
  cases step with
  | receive chunk isOpen receives =>
      rw [receives]
      exact .refl _
  | overflow isOpen authStage aborts =>
      rw [aborts]
      exact emit_apart before.toContext (by simp [Event.pushes])
  | auth raw rest frame isOpen authStage view absent handles consumed files unread stream =>
      cases handles with
      | blocked isBlocked world session sent trace =>
          rw [trace]
          exact Trace.extends_append (by simp [Event.pushes])
      | accepted unblocked guessed isFree isValid world session member sent trace =>
          rw [trace]
          exact Trace.extends_append (by simp [Event.pushes])
      | refused unblocked guessed isFree isWrong world closed closes session window sent trace =>
          rw [trace, List.append_assoc]
          apply Trace.extends_append
          cases closed with
          | true => simp [Event.pushes]
          | false => simp [Event.pushes]
  | header raw rest frame isOpen headerStage view absent stop consumed handles unread stream =>
      exact absurd headerStage stage
  | data frame calls isOpen dataStage handles => exact handles.apart

/-- A request keeps a session orderly up to its next reply. -/
theorem Orderly.requests {before : Receiver} {outcome : Outcome Exception Context}
    (orderly : Orderly before) (requests : before.Requests outcome) :
    RepliesFramed outcome.state.trace ∧ (outcome.Returns → Framed outcome.state.trace) := by
  obtain ⟨raw, frame, stop, handled⟩ := requests.handled
  have line : RepliesFramed (before.trace ++
      [.headerLine before.consumed stop (Receiver.stripReturn raw)]) ∧
      Framed (before.trace ++ [.headerLine before.consumed stop (Receiver.stripReturn raw)]) :=
    framed_extend orderly.1 orderly.2 (Trace.extends_append (by simp [Event.pushes]))
  rw [handled]
  exact (handleHeader_pushStep _ _ _).framed line.1 line.2

theorem orderly_survives : Receiver.Survives Orderly := by
  intro before after orderly proceeds
  cases proceeds with
  | step step stage => exact framed_extend orderly.1 orderly.2 (step.apart stage)
  | receive chunk receives =>
      rw [receives]
      exact orderly
  | request requests =>
      obtain ⟨replies, framed⟩ := orderly.requests requests
      exact ⟨replies, framed (Outcome.returns_returned _)⟩

theorem repliesFramed_breaks {receiver : Receiver} (breaks : Receiver.Breaks Orderly receiver) :
    RepliesFramed receiver.trace := by
  cases breaks with
  | request orderly requests => exact (orderly.requests requests).1
  | data orderly isOpen stage handles => exact (framed_extend orderly.1 orderly.2 handles.apart).1

theorem repliesFramed_of_run {startup : Startup} {inputs : List Input} {conn : Nat}
    {client : Client} (present : (Daemon.run startup inputs).clients conn = some client) :
    RepliesFramed client.trace := by
  have initial : ∀ ssl remoteIp world, Orderly ((Client.initial ssl remoteIp).receiver world) := by
    intro ssl remoteIp world
    refine ⟨Trace.justified_nil _, ?_⟩
    intro before name size middle split
    have impossible := congrArg List.length split
    simp [Client.initial, Client.receiver] at impossible
  exact (@Daemon.run_survives Orderly (fun receiver => RepliesFramed receiver.trace)
    orderly_survives And.left repliesFramed_breaks initial (fun _ _ orderly => orderly)
    (fun _ _ replies => replies) startup inputs conn client present startup.world).1

/-- In every run, whenever a session sends a reply behind a `FILE_PUSH` header, its connection is
still open, and it has sent the header line and exactly the promised number of bytes behind it if
and only if the connection took the whole line, every read of the push delivered what it asked for
and no send of a chunk failed. -/
theorem push_framing (startup : Startup) (inputs : List Input) (conn : Nat) (client : Client)
    (present : (Daemon.run startup inputs).clients conn = some client)
    (before middle after : List Event) (name : Bytes) (size : Nat) (reply : Reply)
    (split : client.trace =
      before ++ .reply (.filePush name size) :: (middle ++ .reply reply :: after))
    (latest : NoReply middle) :
    ∃ earlier path taken chunks,
      before = earlier ++ [.openPush path size taken chunks] ∧
        (.closeSocket ∈ middle ∨ Delivered name size middle ↔
          taken = true ∧ Delivers size chunks 0) := by
  have whole : client.trace =
      (before ++ .reply (.filePush name size) :: middle) ++ .reply reply :: after := by
    rw [split]
    simp
  have framed := repliesFramed_of_run present _ _ after whole reply rfl
  have isOpen := ((gate_of_run present).gated _ _ after whole).1
  obtain ⟨earlier, path, taken, chunks, opens, line, rest, shape, taking, delivers⟩ :=
    framed before name size middle rfl latest
  refine ⟨earlier, path, taken, chunks, opens, ?_⟩
  have stillOpen : .closeSocket ∉ middle := by
    intro member
    exact isOpen (by simp [member])
  rw [or_iff_right stillOpen, ← delivers, ← taking, Delivered, shape]
  constructor
  · rintro ⟨others, same, whole⟩
    obtain ⟨first, rfl⟩ := List.cons.inj same
    exact ⟨Event.sent.inj first, whole⟩
  · rintro ⟨rfl, whole⟩
    exact ⟨rest, rfl, whole⟩

/-- Between a `FILE_PUSH` header and the next reply the header line and exactly the promised number
of bytes are sent, or the connection is closed. -/
def PushesFramed (trace : List Event) : Prop :=
  ∀ before name size middle reply after,
    trace = before ++ .reply (.filePush name size) :: (middle ++ .reply reply :: after) →
    NoReply middle → .closeSocket ∈ middle ∨ Delivered name size middle

/-- A file of four bytes is pushed, and one read finds these. -/
def Env.pushing (read : Bytes) : Env :=
  { Env.quiet with
    header := fun index =>
      { Env.quiet.header index with
        push :=
          { found := .ok true
            regular := .ok true
            fileSize := .ok 4
            opens := true
            chunks := [⟨read, [], false, ⟨true, true⟩⟩]
            finish := ⟨true, true⟩ } } }

/-- A push and another request behind it. -/
def pushAndAsk (read : Bytes) : List Input :=
  [.connect 0 false [1],
    .data 0 (ascii "123456\nCMD:push_file:f\nx\n") (.pushing read)]

theorem push_framing_whole :
    ∃ client,
      (Daemon.run (.fresh (ascii "123456")) (pushAndAsk (ascii "abcd"))).clients 0 = some client ∧
      .reply (.filePush (ascii "f") 4) ∈ client.trace ∧
      (.closeSocket ∈ (client.trace.drop 9).take 3 ∨
        Delivered (ascii "f") 4 ((client.trace.drop 9).take 3)) := by
  let daemon := Daemon.run (.fresh (ascii "123456")) (pushAndAsk (ascii "abcd"))
  let client := (daemon.clients 0).getD (.initial false [])
  have present : daemon.clients 0 = some client := rfl
  have split : client.trace = client.trace.take 8 ++ .reply (.filePush (ascii "f") 4) ::
      ((client.trace.drop 9).take 3 ++ .reply .unknownRequest :: client.trace.drop 13) := by
    decide
  have latest : NoReply ((client.trace.drop 9).take 3) := by
    unfold NoReply
    decide
  obtain ⟨earlier, path, taken, chunks, opens, delivers⟩ :=
    push_framing (.fresh (ascii "123456")) (pushAndAsk (ascii "abcd")) 0 client present
      _ _ _ _ _ _ split latest
  have last : (client.trace.take 8).getLast? =
      some (.openPush (ascii "/f") 4 true [⟨ascii "abcd", [], false, ⟨true, true⟩⟩]) := by
    decide
  rw [opens, List.getLast?_concat, Option.some.injEq] at last
  obtain ⟨_, _, rfl, rfl⟩ := Event.openPush.inj last
  refine ⟨client, present, by decide, delivers.mpr ⟨rfl, ?_⟩⟩
  simp only [Delivers]
  decide

theorem pushes_not_framed :
    ¬ ∀ (startup : Startup) (inputs : List Input) (conn : Nat) (client : Client),
      (Daemon.run startup inputs).clients conn = some client → PushesFramed client.trace := by
  intro claim
  -- the file has shrunk to two bytes when it is read
  let client := ((Daemon.run (.fresh (ascii "123456")) (pushAndAsk (ascii "ab"))).clients 0).getD
    (.initial false [])
  have split : client.trace = client.trace.take 8 ++ .reply (.filePush (ascii "f") 4) ::
      ((client.trace.drop 9).take 3 ++ .reply .unknownRequest :: client.trace.drop 13) := by
    decide
  have latest : NoReply ((client.trace.drop 9).take 3) := by
    unfold NoReply
    decide
  rcases claim (.fresh (ascii "123456")) (pushAndAsk (ascii "ab")) 0 client rfl
    _ _ _ _ _ _ split latest with closes | ⟨rest, shape, whole⟩
  · exact absurd closes (by decide)
  · have behind : (client.trace.drop 10).take 2 = rest := congrArg List.tail shape
    rw [← behind] at whole
    exact absurd whole (by decide)

end TitanShare
