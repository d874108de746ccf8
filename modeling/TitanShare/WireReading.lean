import TitanShare.Library.Reader
import TitanShare.ListedFiles
import TitanShare.PushFraming
import TitanShare.ReplyLines

/-!
# What a client reads

Replies and the bytes of pushed files share one connection.  A client that takes lines off it, and
behind a `FILE_PUSH` line as many bytes as this promises, reads the replies and the files in their
order, however the connection cuts its bytes.
-/

namespace TitanShare

open ByteText

/-- What a client takes off the connection. -/
inductive Message
  | line (text : Bytes)
  | file (name content : Bytes)
  deriving DecidableEq

namespace Message

/-- A message on the connection. -/
def wire : Message → Bytes
  | line text => text ++ [10]
  | file name content =>
      ascii "FILE_PUSH:" ++ name ++ ascii ":" ++ decimal content.length ++ ascii "\n" ++ content

/-- The name and the size in a line `FILE_PUSH:<name>:<size>`. -/
def announced (line : Bytes) : Option (Bytes × Nat) :=
  if line.take 10 = ascii "FILE_PUSH:" then
    (rfind (byte ':') (line.drop 10)).map fun colon =>
      ((line.drop 10).take colon, digitsValue ((line.drop 10).drop (colon + 1)))
  else none

/-- The next message, once it is there as a whole. -/
def next (stream : Bytes) : Option (Message × Bytes) :=
  match cutAt 10 stream with
  | none => none
  | some (text, rest) =>
      match announced text with
      | none => some (line text, rest)
      | some (name, size) =>
          if size ≤ rest.length then some (file name (rest.take size), rest.drop size) else none

theorem cutAt_append {text left right : Bytes} (found : cutAt 10 text = some (left, right))
    (more : Bytes) : cutAt 10 (text ++ more) = some (left, right ++ more) := by
  obtain ⟨rfl, absent⟩ := cutAt_eq_some_iff.mp found
  exact cutAt_eq_some_iff.mpr ⟨by simp, absent⟩

theorem next_shorter {stream : Bytes} {message : Message} {rest : Bytes}
    (takes : next stream = some (message, rest)) : rest.length < stream.length := by
  unfold next at takes
  cases found : cutAt 10 stream with
  | none => simp [found] at takes
  | some split =>
      obtain ⟨text, behind⟩ := split
      have shorter := length_of_cutAt found
      simp only [found] at takes
      cases header : announced text with
      | none =>
          rw [header] at takes
          obtain ⟨_, rfl⟩ := Prod.mk.inj (Option.some.inj takes)
          omega
      | some promise =>
          simp only [header] at takes
          split at takes
          · obtain ⟨_, rfl⟩ := Prod.mk.inj (Option.some.inj takes)
            rw [List.length_drop]
            omega
          · cases takes

theorem next_stable {stream : Bytes} {message : Message} {rest : Bytes} (more : Bytes)
    (takes : next stream = some (message, rest)) :
    next (stream ++ more) = some (message, rest ++ more) := by
  unfold next at takes ⊢
  cases found : cutAt 10 stream with
  | none => simp [found] at takes
  | some split =>
      obtain ⟨text, behind⟩ := split
      simp only [found, cutAt_append found more] at takes ⊢
      cases header : announced text with
      | none =>
          rw [header] at takes
          obtain ⟨rfl, rfl⟩ := Prod.mk.inj (Option.some.inj takes)
          rfl
      | some promise =>
          simp only [header] at takes ⊢
          split at takes
          · rename_i whole
            obtain ⟨rfl, rfl⟩ := Prod.mk.inj (Option.some.inj takes)
            rw [if_pos (by rw [List.length_append]; omega), List.take_append_of_le_length whole,
              List.drop_append_of_le_length whole]
          · cases takes

/-- A client of the daemon. -/
def client : Reader UInt8 Message where
  next := next
  shorter := next_shorter
  stable := next_stable

/-- A message that can be told from others. -/
def Readable : Message → Prop
  | line text => PlainReply text
  | file name _ => 10 ∉ name

theorem announced_header (name : Bytes) (size : Nat) :
    announced (ascii "FILE_PUSH:" ++ name ++ ascii ":" ++ decimal size) = some (name, size) := by
  have shape : ascii "FILE_PUSH:" ++ name ++ ascii ":" ++ decimal size =
      ascii "FILE_PUSH:" ++ (name ++ byte ':' :: decimal size) := by
    have colon : ascii ":" = [byte ':'] := by decide
    simp [colon]
  have noColon : byte ':' ∉ decimal size := fun member => by
    have digit := isDigit_of_mem_decimal _ member
    exact absurd digit (by decide)
  have length : (ascii "FILE_PUSH:").length = 10 := by decide
  rw [announced, shape, List.take_left' length, List.drop_left' length, if_pos rfl,
    rfind_append name noColon, Option.map_some, List.take_left,
    ← List.singleton_append, ← List.append_assoc, List.drop_left' (by simp), digitsValue_decimal]

theorem next_wire {message : Message} (readable : message.Readable) (rest : Bytes) :
    next (message.wire ++ rest) = some (message, rest) := by
  cases message with
  | line text =>
      have cut : cutAt 10 ((line text).wire ++ rest) = some (text, rest) :=
        cutAt_eq_some_iff.mpr ⟨by simp [wire], readable.unbroken⟩
      have other : announced text = none := if_neg readable.announces
      simp only [next, cut, other]
  | file name content =>
      let header := ascii "FILE_PUSH:" ++ name ++ ascii ":" ++ decimal content.length
      have clean : 10 ∉ header := by
        have fixed : 10 ∉ ascii "FILE_PUSH:" ∧ 10 ∉ ascii ":" := by decide
        have named : 10 ∉ name := readable
        simp only [header, List.mem_append, not_or]
        exact ⟨⟨⟨fixed.1, named⟩, fixed.2⟩, unbroken_decimal _⟩
      have ends : ascii "\n" = [10] := by decide
      have cut : cutAt 10 ((file name content).wire ++ rest) = some (header, content ++ rest) :=
        cutAt_eq_some_iff.mpr ⟨by simp [wire, header, ends], clean⟩
      have promise : announced header = some (name, content.length) := announced_header name _
      simp [next, cut, promise]

end Message

/-! ## The messages of a session -/

/-- A reply as the client gets it, with the bytes that were pushed behind it. -/
def Reply.message (pushed : Bytes) : Reply → Message
  | filePush name _ => .file name pushed
  | other => .line other.text.dropLast

/-- The events up to the next reply. -/
def untilReply (events : List Event) : List Event :=
  events.takeWhile fun event => !event.isReply

def messages : List Event → List Message
  | [] => []
  | event :: later =>
      match event with
      | .reply reply => reply.message (pushedBytes (untilReply later)) :: messages later
      | _ => messages later

/-- The connection took every reply, and every pushed file, as a whole. -/
structure Carried (trace : List Event) : Prop where
  taken : ∀ before reply sent after, trace = before ++ .reply reply :: .sent sent :: after →
    sent = reply.text
  whole : ∀ before name size after, trace = before ++ .reply (.filePush name size) :: after →
    (pushedBytes (untilReply after)).length = size

/-- A reply was taken, and what it announces was pushed. -/
def Reply.carried (later : List Event) (reply : Reply) : Bool :=
  (match later with
    | .sent sent :: _ => sent == reply.text
    | _ => true) &&
  (match reply with
    | .filePush _ size => (pushedBytes (untilReply later)).length == size
    | _ => true)

def carries : List Event → Bool
  | [] => true
  | event :: later =>
      (match event with
        | .reply reply => reply.carried later
        | _ => true) && carries later

theorem carried_of_carries {trace : List Event} (carries : carries trace = true) :
    Carried trace := by
  have replies : ∀ before reply later, trace = before ++ .reply reply :: later →
      reply.carried later = true := by
    intro before reply later split
    induction before generalizing trace with
    | nil =>
        rw [split] at carries
        exact (Bool.and_eq_true_iff.mp carries).1
    | cons event before ih =>
        rw [split] at carries
        exact ih (Bool.and_eq_true_iff.mp carries).2 rfl
  constructor
  · intro before reply sent after split
    have carried := (Bool.and_eq_true_iff.mp (replies before reply _ split)).1
    simpa using carried
  · intro before name size after split
    have carried := (Bool.and_eq_true_iff.mp (replies before _ after split)).2
    simpa using carried

/-- An event that puts nothing on the connection. -/
def Event.quiet : Event → Bool
  | reply _ | sent _ | pushed _ => false
  | _ => true

/-- Every reply is put on the connection at once, and pushed bytes follow only the line that
announces them. -/
inductive Wired : List Event → Prop
  | nil : Wired []
  | quiet {trace : List Event} (added : List Event) (wired : Wired trace)
      (still : ∀ event ∈ added, event.quiet = true) : Wired (trace ++ added)
  | reply {trace : List Event} (reply : Reply) (sent : Bytes) (wired : Wired trace)
      (isLine : IsLine reply.text) : Wired (trace ++ [.reply reply, .sent sent])
  | push {trace : List Event} (name : Bytes) (size : Nat) (sent : Bytes) (blocks : List Bytes)
      (wired : Wired trace) (unbroken : 10 ∉ name) :
      Wired (trace ++ ([.reply (.filePush name size), .sent sent] ++ blocks.map Event.pushed))

theorem untilReply_append {first second : List Event}
    (closed : pushedBytes (untilReply second) = []) :
    pushedBytes (untilReply (first ++ second)) = pushedBytes (untilReply first) := by
  rw [untilReply, List.takeWhile_append]
  split
  · rename_i all
    have whole : untilReply first = first := (List.takeWhile_prefix _).eq_of_length all
    rw [pushedBytes_append, ← untilReply, closed, List.append_nil, whole]
  · rfl

/-- The messages of a longer history, if it does not go on with pushed bytes. -/
theorem messages_append {first second : List Event}
    (closed : pushedBytes (untilReply second) = []) :
    messages (first ++ second) = messages first ++ messages second := by
  induction first with
  | nil => rfl
  | cons event later ih =>
      rw [List.cons_append]
      cases event with
      | reply reply =>
          simp only [messages, untilReply_append closed, ih]
          rfl
      | _ => exact ih

theorem Carried.of_append {first second : List Event} (carried : Carried (first ++ second))
    (closed : pushedBytes (untilReply second) = []) : Carried first where
  taken := by
    intro before reply sent after split
    exact carried.taken before reply sent (after ++ second) (by rw [split]; simp)
  whole := by
    intro before name size after split
    rw [← untilReply_append closed]
    exact carried.whole before name size (after ++ second) (by rw [split]; simp)

theorem messages_quiet {added : List Event} (still : ∀ event ∈ added, event.quiet = true) :
    messages added = [] ∧ wireBytes added = [] ∧ pushedBytes (untilReply added) = [] := by
  induction added with
  | nil => exact ⟨rfl, rfl, rfl⟩
  | cons event later ih =>
      have here := still event List.mem_cons_self
      have behind := ih fun other member => still other (List.mem_cons_of_mem _ member)
      cases event with
      | reply reply => cases here
      | sent bytes => cases here
      | pushed bytes => cases here
      | _ => exact behind

theorem wireBytes_append (first second : List Event) :
    wireBytes (first ++ second) = wireBytes first ++ wireBytes second :=
  List.flatMap_append

theorem wireBytes_pushed (blocks : List Bytes) :
    wireBytes (blocks.map Event.pushed) = blocks.flatten := by
  simp [wireBytes, List.flatMap_map]

theorem untilReply_pushed (blocks : List Bytes) :
    untilReply (blocks.map Event.pushed) = blocks.map Event.pushed := by
  rw [untilReply, List.takeWhile_eq_self_iff]
  intro event member
  obtain ⟨block, _, rfl⟩ := List.mem_map.mp member
  rfl

theorem messages_pushed (blocks : List Bytes) : messages (blocks.map Event.pushed) = [] := by
  induction blocks with
  | nil => rfl
  | cons block later ih => exact ih

/-- A reply that is a line does not announce a file. -/
theorem Reply.message_line {reply : Reply} (isLine : IsLine reply.text) (pushed : Bytes) :
    ∃ body, reply.text = body ++ [10] ∧ PlainReply body ∧ reply.message pushed = .line body := by
  obtain ⟨body, shape, plain⟩ := isLine
  refine ⟨body, shape, plain, ?_⟩
  cases reply with
  | filePush name size =>
      have length : (ascii "FILE_PUSH:").length = 10 := by decide
      have ends : ascii "\n" = [10] := by decide
      rw [text, ends] at shape
      have start : body.take 10 = ascii "FILE_PUSH:" := by
        rw [← List.append_cancel_right shape, List.append_assoc, List.append_assoc,
          List.take_left' length]
      exact absurd start plain.announces
  | _ =>
      rw [message, shape, List.dropLast_concat]
      exact nofun

/-- What is on the connection is what the messages are written as. -/
theorem Wired.wire {trace : List Event} (wired : Wired trace) (carried : Carried trace) :
    wireBytes trace = (messages trace).flatMap Message.wire ∧
      ∀ message ∈ messages trace, message.Readable := by
  induction wired with
  | nil => exact ⟨rfl, by simp [messages]⟩
  | quiet added wired still ih =>
      obtain ⟨nothing, silent, closed⟩ := messages_quiet still
      obtain ⟨wire, readable⟩ := ih (carried.of_append closed)
      rw [messages_append closed, nothing, List.append_nil, wireBytes_append, silent,
        List.append_nil]
      exact ⟨wire, readable⟩
  | @reply trace reply sent wired isLine ih =>
      have closed : pushedBytes (untilReply [.reply reply, .sent sent]) = [] := rfl
      obtain ⟨wire, readable⟩ := ih (carried.of_append closed)
      obtain ⟨body, shape, plain, message⟩ := reply.message_line isLine []
      have added : messages [.reply reply, .sent sent] = [.line body] := by
        rw [← message]
        rfl
      have taken : sent = body ++ [10] := by
        rw [← shape]
        exact carried.taken trace reply sent [] rfl
      rw [messages_append closed, added, wireBytes_append, List.flatMap_append, ← wire, taken]
      refine ⟨by simp [wireBytes, Message.wire], ?_⟩
      intro other member
      rcases List.mem_append.mp member with old | new
      · exact readable other old
      · obtain rfl := List.mem_singleton.mp new
        exact plain
  | @push trace name size sent blocks wired unbroken ih =>
      have closed : pushedBytes (untilReply
          ([.reply (.filePush name size), .sent sent] ++ blocks.map Event.pushed)) = [] := rfl
      obtain ⟨wire, readable⟩ := ih (carried.of_append closed)
      have behind : pushedBytes (untilReply (.sent sent :: blocks.map Event.pushed)) =
          blocks.flatten := by
        have waits : untilReply (.sent sent :: blocks.map Event.pushed) =
            .sent sent :: blocks.map Event.pushed := by
          rw [untilReply, List.takeWhile_cons_of_pos rfl, ← untilReply, untilReply_pushed]
        rw [waits, ← pushedBytes_blocks]
        rfl
      have added : messages ([.reply (.filePush name size), .sent sent] ++
          blocks.map Event.pushed) = [.file name blocks.flatten] := by
        rw [← behind, ← messages_pushed blocks]
        rfl
      have whole : blocks.flatten.length = size := by
        rw [← behind]
        exact carried.whole trace name size (.sent sent :: blocks.map Event.pushed) rfl
      have taken : sent = (Reply.filePush name size).text :=
        carried.taken trace _ sent (blocks.map Event.pushed) (by simp)
      rw [messages_append closed, added, wireBytes_append, List.flatMap_append, ← wire, taken,
        ← whole]
      refine ⟨?_, ?_⟩
      · rw [wireBytes_append, wireBytes_pushed]
        simp [wireBytes, Message.wire, Reply.text]
      · intro other member
        rcases List.mem_append.mp member with old | new
        · exact readable other old
        · obtain rfl := List.mem_singleton.mp new
          exact unbroken

/-! ## Requests -/

theorem wired_reply {context : Context} (wired : Wired context.trace) (sends : List SendResult)
    {reply : Reply} (isLine : IsLine reply.text) : Wired (context.sendResponse sends reply).trace :=
  .reply reply _ wired isLine

theorem wired_fixed {context : Context} (wired : Wired context.trace) (sends : List SendResult)
    {reply : Reply} (body : Bytes) (shape : reply.text = body ++ [10])
    (plain : PlainReply body := by decide) : Wired (context.sendResponse sends reply).trace :=
  wired_reply wired sends ⟨body, shape, plain⟩

/-- A reply among events that put nothing on the connection. -/
theorem Wired.answered {trace : List Event} (wired : Wired trace) {front back : List Event}
    {reply : Reply} (sent : Bytes) (isLine : IsLine reply.text)
    (before : ∀ event ∈ front, event.quiet = true) (after : ∀ event ∈ back, event.quiet = true) :
    Wired (trace ++ (front ++ .reply reply :: .sent sent :: back)) := by
  have behind := Wired.quiet back (.reply reply sent (.quiet front wired before) isLine) after
  simpa using behind

theorem wired_emit {context : Context} (wired : Wired context.trace) {events : List Event}
    (still : ∀ event ∈ events, event.quiet = true) : Wired (context.emit events).trace :=
  .quiet events wired still

theorem wired_list {context : Context} (wired : Wired context.trace) (frame : HeaderFrame) :
    Wired (pushFileList frame context).state.trace := by
  have started : Wired (context.emit [.pushFileList]).trace :=
    wired_emit wired (by simp [Event.quiet])
  simp only [pushFileList]
  split
  · exact started
  · rename_i listing dumped
    exact wired_reply started _ (isLine_listing dumped)

theorem wired_command {context : Context} (wired : Wired context.trace) (frame : HeaderFrame)
    (cmd : Bytes) : Wired (runCommand frame cmd context).state.trace := by
  have acted : ∀ actions : List Action,
      Wired (context.emit (.dispatch cmd :: actions.map Event.act)).trace := by
    intro actions
    refine wired_emit wired ?_
    simp [Event.quiet]
  simp only [runCommand]
  split
  · exact acted _
  · rename_i response replied
    split
    · exact acted _
    · rename_i something
      exact wired_reply (acted _) _
        ((CommandDispatcher.isLine_dispatch replied).resolve_left something)

theorem wired_upload {context : Context} (wired : Wired context.trace) (frame : HeaderFrame)
    (line : Bytes) : Wired (fileStart frame line context).state.trace := by
  cases fileStart_exit frame line context with
  | refused fileName expectedBytes fileFd released refusal same =>
      rw [same]
      let failed : Context :=
        { context with session := { context.session with fileName, expectedBytes, fileFd } }
      exact @wired_fixed failed wired frame.sends .cmdFail (ascii "CMD_FAIL") rfl (by decide)
  | threw fileName colon size allows missing same =>
      rw [same]
      exact wired
  | begun colon size allows created opens same =>
      rw [same, Outcome.state_returned, Context.beginUpload_trace]
      exact @Wired.answered _ wired [_] [] .readyForFile _ ⟨ascii "READY_FOR_FILE", rfl, by decide⟩
        (by simp [Event.quiet]) (by simp)

theorem wired_push {context : Context} (wired : Wired context.trace) (frame : HeaderFrame)
    {filename : Bytes} (unbroken : 10 ∉ filename) :
    Wired (pushFile frame filename context).state.trace := by
  have started : Wired (context.emit [.pushFile filename]).trace :=
    wired_emit wired (by simp [Event.quiet])
  cases pushFile_exit frame filename context with
  | threw exception missing same =>
      rw [same]
      exact started
  | refused reply refusal missing same =>
      rw [same]
      obtain rfl | rfl | rfl := refusal
      · exact wired_fixed started _ (ascii "PUSH_ERROR:file_not_found") rfl
      · exact wired_fixed started _ (ascii "PUSH_ERROR:empty_file") rfl
      · exact wired_fixed started _ (ascii "PUSH_ERROR:cannot_open") rfl
  | streamed size offers same =>
      rw [same]
      obtain ⟨blocks, trace⟩ := streamFile_pushes frame.push.finish (baseName filename) size
        frame.push.chunks 0 true (frame.promised filename size context)
      let path := context.world.sendDir ++ ascii "/" ++ baseName filename
      have opened : Wired ((context.emit [.pushFile filename]).emit
          [.openPush path size (frame.takes context.session.ssl (baseName filename) size)
            frame.push.chunks]).trace :=
        wired_emit started (by simp [Event.quiet])
      have named : 10 ∉ baseName filename := fun member =>
        unbroken ((List.rtakeWhile_suffix _ _).subset member)
      have pushed := Wired.push (baseName filename) size
        (Transport.transmit context.session.ssl frame.sends
          (Reply.filePush (baseName filename) size).text) blocks opened named
      rw [trace, HeaderFrame.promised]
      simpa [path] using pushed

theorem wired_request {context : Context} (wired : Wired context.trace) (frame : HeaderFrame)
    {line : Bytes} (unbroken : 10 ∉ line) :
    Wired (handleHeader frame line context).state.trace := by
  have command : 10 ∉ (commandOf line).drop 10 := fun member =>
    unbroken (List.mem_of_mem_drop ((List.dropWhile_subset _) (List.mem_of_mem_drop member)))
  simp only [handleHeader]
  split
  · split
    · exact wired_list wired frame
    · split
      · exact wired_push wired frame command
      · exact wired_command wired frame _
  · split
    · exact wired_upload wired frame line
    · exact wired_fixed wired _ (ascii "UNKNOWN_REQUEST") rfl

/-! ## Whole sessions -/

theorem wired_auth {frame : AuthFrame} {line : Bytes} {before after : Context}
    (step : AuthStep frame line before after) (wired : Wired before.trace) : Wired after.trace := by
  cases step with
  | blocked isBlocked world session sent trace =>
      rw [trace]
      exact @Wired.answered _ wired [.authLine line, .blockCheck true]
        [.closeSocket] .authBlocked sent
        ⟨ascii "AUTH_BLOCKED", rfl, by decide⟩ (by simp [Event.quiet]) (by simp [Event.quiet])
  | accepted unblocked guessed isFree isValid world session member sent trace =>
      rw [trace]
      exact @Wired.answered _ wired
        [.authLine line, .blockCheck false, .keyCheck (normalisePin line) _] [] .authOk sent
        ⟨ascii "AUTH_OK", rfl, by decide⟩ (by simp [Event.quiet]) (by simp)
  | refused unblocked guessed isFree isWrong world closed closes session window sent trace =>
      have closing : ∀ event ∈ if closed then [Event.closeSocket] else [], event.quiet = true := by
        cases closed with
        | true => simp [Event.quiet]
        | false => simp
      have answered := @Wired.answered _ wired
        [.authLine line, .blockCheck false, .keyCheck (normalisePin line) window]
        (if closed then [.closeSocket] else []) .authFail sent ⟨ascii "AUTH_FAIL", rfl, by decide⟩
        (by simp [Event.quiet]) closing
      rw [trace, List.append_assoc]
      exact answered

theorem wired_data {frame : DataFrame} {before after : Receiver}
    (step : Receiver.DataStep frame before after) (wired : Wired before.trace) :
    Wired after.trace := by
  cases step with
  | idle same =>
      rw [same]
      exact wired
  | failed descriptor isOpen refused fails =>
      rw [fails, Receiver.failWrite_trace]
      exact @Wired.answered _ wired [_] [] .cmdFail _ ⟨ascii "CMD_FAIL", rfl, by decide⟩
        (by simp [Event.quiet]) (by simp)
  | stored descriptor count isOpen within stores =>
      rw [stores.trace]
      exact wired
  | completed descriptor count isOpen within middle stores complete finishes =>
      rw [finishes, Receiver.finishUpload_trace, stores.trace]
      exact @Wired.answered _ wired [_] [] .fileOk _ ⟨ascii "FILE_OK", rfl, by decide⟩
        (by simp [Event.quiet]) (by simp)

theorem Receiver.mem_of_mem_stripReturn {raw : Bytes} {current : UInt8}
    (member : current ∈ stripReturn raw) : current ∈ raw := by
  unfold stripReturn at member
  split at member
  · exact List.mem_of_mem_dropLast member
  · exact member

theorem wired_kept : Receiver.Kept fun receiver => Wired receiver.trace := by
  intro before after wired step
  cases step with
  | receive chunk isOpen receives =>
      rw [receives]
      exact wired
  | overflow isOpen stage aborts =>
      rw [aborts]
      exact wired_emit wired (by simp [Event.quiet])
  | auth raw rest frame isOpen stage view absent handles consumed files unread stream =>
      exact wired_auth handles wired
  | header raw rest frame isOpen stage view absent stop consumed handles unread stream handled =>
      have line : Wired (({ before.toContext with consumed := stop }).emit
          [.headerLine before.consumed stop (Receiver.stripReturn raw)]).trace :=
        wired_emit wired (by simp [Event.quiet])
      have unbroken : 10 ∉ Receiver.stripReturn raw := fun member => absurd
        (Receiver.mem_of_mem_stripReturn member) absent
      rw [← handled]
      exact wired_request line frame unbroken
  | data frame calls isOpen stage handles => exact wired_data handles wired

theorem wired_of_run {startup : Startup} {inputs : List Input} {conn : Nat} {client : Client}
    (present : (Daemon.run startup inputs).clients conn = some client) : Wired client.trace :=
  Daemon.clients_keep wired_kept (fun _ _ _ => .nil) (fun _ _ wired => wired) startup inputs conn
    client present startup.world

/-- In every run, a client whose connection takes every reply and every pushed file as a whole reads
the replies and the files of its session, in order and nothing else, and at any time the first ones
of them, whatever part of the bytes has arrived. -/
theorem client_reads_session (startup : Startup) (inputs : List Input) (conn : Nat)
    (client : Client) (present : (Daemon.run startup inputs).clients conn = some client)
    (carried : Carried client.trace) :
    Message.client.read (wireBytes client.trace) = (messages client.trace, []) ∧
      ∀ arrived, (Message.client.read ((wireBytes client.trace).take arrived)).1 <+:
        messages client.trace := by
  obtain ⟨wire, readable⟩ := (wired_of_run present).wire carried
  have whole : Message.client.read (wireBytes client.trace) = (messages client.trace, []) := by
    have reads := @Reader.read_encoded _ _ Message.client Message.wire (messages client.trace)
      (fun message member rest => Message.next_wire (readable message member) rest) []
    rw [List.append_nil, ← wire] at reads
    rw [reads]
    simp [Reader.read, Reader.attempts]
  refine ⟨whole, fun arrived => ?_⟩
  have earlier := @Reader.read_take_prefix _ _ Message.client (wireBytes client.trace) arrived
  rw [whole] at earlier
  exact earlier

/-- A pushed file and the answer behind it are told apart. -/
theorem client_reads_session_push :
    ∃ client,
      (Daemon.run (.fresh (ascii "123456")) (pushAndAsk (ascii "abcd"))).clients 0 = some client ∧
      (Message.client.read (wireBytes client.trace)).1 =
        [.line (ascii "AUTH_OK"), .file (ascii "f") (ascii "abcd"),
          .line (ascii "UNKNOWN_REQUEST")] := by
  let daemon := Daemon.run (.fresh (ascii "123456")) (pushAndAsk (ascii "abcd"))
  let client := (daemon.clients 0).getD (.initial false [])
  have present : daemon.clients 0 = some client := rfl
  have carried : Carried client.trace := carried_of_carries (by decide)
  refine ⟨client, present, ?_⟩
  rw [(client_reads_session (.fresh (ascii "123456")) (pushAndAsk (ascii "abcd")) 0 client present
    carried).1]
  decide

end TitanShare
