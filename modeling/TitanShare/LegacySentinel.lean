import TitanShare.DataHandler
import TitanShare.RejectedUpload
import TitanShare.Segmentation

/-!
# The sentinel behind a payload

An old client sends `FILE_END` and a newline behind the payload of an upload.  The data handler
looks for them once, when the upload is complete, in what is buffered by then.  If a byte of them is
still on its way, they are read as a request line, which is an unknown one.
-/

namespace TitanShare

open ByteText PassLoop

namespace Receiver

/-! ## The next request line -/

/-- The record of a request line comes first in what its handler does. -/
theorem headerLine_grows (env : Env) (start : Nat) (line : Bytes) (taken : Receiver) :
    taken.trace ++ [.headerLine start taken.consumed line] <+:
      (taken.headerLine env start line).state.trace := by
  obtain ⟨added, grows, _⟩ := (handleHeader_step (env.header taken.calls.header) line
    (taken.emit [.headerLine start taken.consumed line])).kinds
  rw [headerLine, Outcome.state_map]
  exact ⟨added, grows.symm⟩

variable {env : Env} {receiver : Receiver}

/-- Deliveries only add to what a session has done. -/
theorem deliver_grows (chunks : List Bytes) :
    receiver.trace <+: (receiver.deliver env chunks).state.trace := by
  induction chunks generalizing receiver with
  | nil => exact List.prefix_refl _
  | cons chunk rest ih =>
      have kept : Kept fun after => receiver.trace <+: after.trace := trace_kept receiver
      have first := kept.onData env chunk (List.prefix_refl _)
      rw [deliver]
      cases result : receiver.onData env chunk with
      | threw exception next =>
          rw [result] at first
          exact first
      | returned next =>
          rw [result, Outcome.state_returned] at first
          exact first.trans ih

theorem deliver_cons_grows (chunk : Bytes) (later : List Bytes) :
    (receiver.onData env chunk).state.trace <+:
      (receiver.deliver env (chunk :: later)).state.trace := by
  rw [deliver]
  cases receiver.onData env chunk with
  | threw exception next => exact List.prefix_refl _
  | returned next => exact deliver_grows later

theorem deliver_append (before : List Bytes) {after : List Bytes} {middle : Receiver}
    (earlier : receiver.deliver env before = .returned middle) :
    receiver.deliver env (before ++ after) = middle.deliver env after := by
  induction before generalizing receiver with
  | nil =>
      obtain rfl := Outcome.returned.inj earlier
      rfl
  | cons chunk before ih =>
      obtain ⟨next, delivered, rest⟩ := Outcome.andThen_eq_returned.mp earlier
      rw [List.cons_append, deliver, delivered, Outcome.returned_andThen]
      exact ih rest

section Header

variable (isOpen : receiver.session.closed = false) (stage : receiver.session.stage = .header)

include isOpen stage

/-- The loop records the first line that is buffered. -/
theorem processBuffer_reads {raw rest : Bytes} (view : receiver.buffer.view = raw ++ 10 :: rest)
    (absent : 10 ∉ raw) :
    receiver.trace ++ [.headerLine receiver.consumed (receiver.consumed + (raw.length + 1))
      (stripReturn raw)] <+: (receiver.processBuffer env).state.trace := by
  obtain ⟨taken, taking, _, _, _, context⟩ := takeLine_of_view view absent
  have working : ¬ (receiver.session.closed = true ∨ receiver.bufSize = 0) := by
    rintro (closed | empty)
    · rw [isOpen] at closed
      cases closed
    · exact bufSize_of_takeLine taking empty
  have records := headerLine_grows env receiver.consumed (stripReturn raw) taken
  rw [context] at records
  cases handled : taken.headerLine env receiver.consumed (stripReturn raw) with
  | threw exception next =>
      have leaves := pass_header working stage taking handled
      have ends := (receiver.processBuffer_exits env).eq_of_leave .refl leaves
      rw [ends, ← handled]
      exact records
  | returned next =>
      have goes := pass_header working stage taking handled
      have kept : Kept fun after => next.trace <+: after.trace := trace_kept next
      rw [processBuffer_of_goes goes]
      rw [handled] at records
      exact records.trans (kept.processBuffer env (List.prefix_refl _))

/-- A delivery behind which a line is buffered records it first. -/
theorem onData_reads {chunk raw rest : Bytes}
    (view : receiver.buffer.view ++ chunk = raw ++ 10 :: rest) (absent : 10 ∉ raw) :
    receiver.trace ++ [.headerLine receiver.consumed (receiver.consumed + (raw.length + 1))
      (stripReturn raw)] <+: (receiver.onData env chunk).state.trace := by
  have received : (receiver.receive chunk).buffer.view = raw ++ 10 :: rest := by
    simpa [receive] using view
  have fits : (receiver.receive chunk).overflows = false := by
    simp [overflows, receive, stage]
  rw [onData_fits env isOpen fits]
  exact @processBuffer_reads env (receiver.receive chunk) isOpen stage _ _ received absent

/-- Behind one more delivery at least, the first unread line is the next that is handled. -/
theorem deliver_reads {chunks : List Bytes} (more : chunks ≠ []) {raw rest : Bytes}
    (unread : receiver.buffer.view ++ chunks.flatten = raw ++ 10 :: rest) (absent : 10 ∉ raw) :
    ∃ behind, (receiver.deliver env chunks).state.trace = receiver.trace ++
      .headerLine receiver.consumed (receiver.consumed + (raw.length + 1)) (stripReturn raw) ::
        behind := by
  induction chunks generalizing receiver with
  | nil => exact absurd rfl more
  | cons chunk later ih =>
      rw [List.flatten_cons, ← List.append_assoc] at unread
      by_cases buffered : 10 ∈ receiver.buffer.view ++ chunk
      · obtain ⟨behind, view⟩ := eq_append_of_mem unread absent buffered
        have records : _ <+: (receiver.onData env chunk).state.trace :=
          onData_reads isOpen stage view absent
        obtain ⟨added, grows⟩ := records.trans (deliver_cons_grows chunk later)
        refine ⟨added, ?_⟩
        rw [← grows, List.append_assoc]
        rfl
      · have delivers : later ≠ [] := by
          rintro rfl
          rw [List.flatten_nil, List.append_nil] at unread
          rw [unread] at buffered
          simp at buffered
        rw [deliver, onData_waits env isOpen stage buffered, Outcome.returned_andThen]
        refine @ih (receiver.receive chunk) isOpen stage delivers ?_
        rw [← unread]
        simp [receive]

/-- Deliveries without a byte do nothing. -/
theorem deliver_nothing {chunks : List Bytes}
    (unread : receiver.buffer.view ++ chunks.flatten = []) :
    (receiver.deliver env chunks).state.trace = receiver.trace ∧
      (receiver.deliver env chunks).state.consumed = receiver.consumed := by
  induction chunks generalizing receiver with
  | nil => exact ⟨rfl, rfl⟩
  | cons chunk later ih =>
      rw [List.flatten_cons, ← List.append_assoc, List.append_eq_nil_iff] at unread
      have noLine : 10 ∉ receiver.buffer.view ++ chunk := by
        rw [unread.1]
        exact List.not_mem_nil
      rw [deliver, onData_waits env isOpen stage noLine, Outcome.returned_andThen]
      refine @ih (receiver.receive chunk) isOpen stage ?_
      rw [List.append_eq_nil_iff]
      refine ⟨?_, unread.2⟩
      rw [← unread.1]
      simp [receive]

end Header

end Receiver

/-! ## Uploads with a sentinel -/

/-- An upload that a delivery completes, with the sentinel and request lines behind its payload. -/
structure SentinelUpload (env : Env) (start : Receiver) (chunks : List Bytes) where
  /-- The deliveries before, this one and those behind it. -/
  before : List Bytes
  chunk : Bytes
  after : List Bytes
  split : chunks = before ++ chunk :: after
  /-- The session in front of the delivery, of the data handler, and behind it. -/
  receiver : Receiver
  last : Receiver
  done : Receiver
  earlier : start.deliver env before = .returned receiver
  call : Receiver.DataCall env chunk receiver last
  returns : last.fileData env = .returned done
  completes : ∃ added, done.trace = last.trace ++ added ∧ .reply .fileOk ∈ added
  /-- What is left of the payload, and the later request lines. -/
  payload : Bytes
  lines : List Bytes
  length : payload.length = last.missing
  plain : ∀ line ∈ lines, 10 ∉ line
  unread : last.buffer.view ++ after.flatten =
    payload ++ Receiver.sentinel ++ (lines.map (· ++ [10])).flatten

namespace SentinelUpload

variable {env : Env} {start : Receiver} {chunks : List Bytes}
    (upload : SentinelUpload env start chunks)

/-- Where the stream goes on behind the sentinel. -/
def stop : Nat :=
  upload.last.consumed + upload.payload.length + Receiver.sentinel.length

/-- The whole sentinel is buffered when the upload is complete. -/
def Buffered : Prop :=
  upload.last.missing + Receiver.sentinel.length ≤ upload.last.bufSize

/-- The first of the later request lines is handled first. -/
def NextLine (events : List Event) : Prop :=
  ∃ line rest later, upload.lines = line :: rest ∧
    events = .headerLine upload.stop (upload.stop + (line.length + 1))
      (Receiver.stripReturn line) ::
      later

/-- Nothing is done behind the upload, and the sentinel has been consumed. -/
def Nothing (events : List Event) : Prop :=
  events = [] ∧ (start.deliver env chunks).state.consumed = upload.stop

/-- Behind `FILE_OK` the sentinel is consumed in silence: what is done next, if anything, is to
handle the first of the later request lines. -/
def Silent : Prop :=
  ∃ events, (start.deliver env chunks).state.trace = upload.done.trace ++ events ∧
    (upload.NextLine events ∨ upload.Nothing events)

/-- The sentinel is consumed in silence, and a later request line is handled in the end. -/
def Answered : Prop :=
  ∃ events, (start.deliver env chunks).state.trace = upload.done.trace ++ events ∧
    (upload.NextLine events ∨ upload.lines = [] ∧ upload.Nothing events)

theorem deliver_eq : start.deliver env chunks = upload.done.deliver env upload.after := by
  have whole := congrArg (fun all => start.deliver env all) upload.split
  rw [whole, Receiver.deliver_append upload.before upload.earlier, Receiver.deliver,
    upload.call.onData, upload.returns, Outcome.returned_andThen]

/-- What the session is left with behind the upload: `front` is what was buffered behind the
payload. -/
structure Rest (front : Bytes) : Prop where
  view : upload.last.buffer.view = upload.payload ++ front
  onward : front ++ upload.after.flatten =
    Receiver.sentinel ++ (upload.lines.map (· ++ [10])).flatten
  isOpen : upload.done.session.closed = false
  stage : upload.done.session.stage = .header
  unread : upload.done.buffer.view = front.drop (Receiver.sentinelLength front)
  consumed : upload.done.consumed =
    upload.last.consumed + upload.payload.length + Receiver.sentinelLength front

/-- The payload is the beginning of what is buffered, if so much is buffered. -/
theorem view_eq (within : upload.payload.length ≤ upload.last.bufSize) :
    upload.last.buffer.view =
      upload.payload ++ upload.last.buffer.view.drop upload.payload.length := by
  have long : upload.payload.length ≤ upload.last.buffer.view.length := by
    rw [OffsetBuffer.length_view]
    exact within
  have cut := congrArg (List.take upload.payload.length) upload.unread
  rw [List.take_append_of_le_length long, List.append_assoc, List.take_left] at cut
  have view := List.take_append_drop upload.payload.length upload.last.buffer.view
  rw [cut] at view
  exact view.symm

/-- The data handler completes the upload with the last byte of the payload. -/
theorem completed : upload.payload.length ≤ upload.last.bufSize ∧
    ∃ descriptor middle, Receiver.Stores descriptor upload.payload.length
      { upload.last with
        calls := { upload.last.calls with data := upload.last.calls.data + 1 } } middle ∧
      upload.done = middle.finishUpload (env.data upload.last.calls.data) descriptor := by
  obtain ⟨added, grows, replied⟩ := upload.completes
  have others : ∀ events, upload.done.trace = upload.last.trace ++ events →
      .reply .fileOk ∈ events := by
    intro events same
    rw [grows] at same
    rwa [List.append_cancel_left same] at replied
  cases Receiver.handleFileData_returned upload.returns with
  | idle same nothing =>
      have silent := others [] (by rw [same, List.append_nil])
      simp at silent
  | failed descriptor owned refused fails =>
      have rejected := others _ (by rw [fails, Receiver.failWrite_trace])
      simp at rejected
  | stored descriptor owned stores incomplete =>
      have silent := others [] (by rw [stores.trace, List.append_nil])
      simp at silent
  | completed descriptor owned middle stores complete finishes =>
      have left := upload.length
      rw [stores.session] at complete
      simp only [DataFrame.takes, Receiver.missing, Receiver.bufSize] at complete left
      have all : DataFrame.takes (env.data upload.last.calls.data)
          { upload.last with
            calls := { upload.last.calls with data := upload.last.calls.data + 1 } } =
          upload.payload.length := by
        simp only [DataFrame.takes, Receiver.missing, Receiver.bufSize]
        omega
      rw [all] at stores
      refine ⟨?_, descriptor, middle, stores, finishes⟩
      unfold Receiver.bufSize
      omega

theorem rest : ∃ front, upload.Rest front := by
  obtain ⟨within, descriptor, middle, stores, finishes⟩ := upload.completed
  have view := upload.view_eq within
  refine ⟨upload.last.buffer.view.drop upload.payload.length, view, ?_, ?_, ?_, ?_, ?_⟩
  · have onward := upload.unread
    rw [view, List.append_assoc, List.append_assoc] at onward
    exact List.append_cancel_left onward
  · rw [finishes, Receiver.finishUpload_session, stores.session]
    exact upload.call.stillOpen
  · rw [finishes, Receiver.finishUpload_session]
  · rw [finishes, Receiver.finishUpload_view, stores.2.1]
  · rw [finishes, Receiver.finishUpload_consumed, stores.consumed, stores.2.1]

section Rest

variable {upload} {front : Bytes} (rest : upload.Rest front)

include rest

theorem Rest.buffered_iff : upload.Buffered ↔ Receiver.sentinel.length ≤ front.length := by
  have size := congrArg List.length rest.view
  rw [OffsetBuffer.length_view, List.length_append, upload.length] at size
  unfold Buffered Receiver.bufSize
  omega

/-- A sentinel that is buffered is drained. -/
theorem Rest.of_buffered (buffered : upload.Buffered) :
    upload.done.consumed = upload.stop ∧
      upload.done.buffer.view ++ upload.after.flatten =
        (upload.lines.map (· ++ [10])).flatten := by
  have long := rest.buffered_iff.mp buffered
  have begins : front.take Receiver.sentinel.length = Receiver.sentinel := by
    have cut := congrArg (List.take Receiver.sentinel.length) rest.onward
    rwa [List.take_append_of_le_length long, List.take_left] at cut
  have drained : Receiver.sentinelLength front = Receiver.sentinel.length := if_pos begins
  constructor
  · rw [rest.consumed, drained, stop]
  · have onward := rest.onward
    rw [← List.take_append_drop Receiver.sentinel.length front, begins, List.append_assoc] at onward
    rw [rest.unread, drained]
    exact List.append_cancel_left onward

/-- A sentinel that is cut stays where it is. -/
theorem Rest.of_cut (cut : ¬ upload.Buffered) :
    upload.after ≠ [] ∧ upload.done.consumed < upload.stop ∧
      upload.done.buffer.view ++ upload.after.flatten =
        ascii "FILE_END" ++ 10 :: (upload.lines.map (· ++ [10])).flatten := by
  have short := not_le.mp (mt rest.buffered_iff.mpr cut)
  have kept : Receiver.sentinelLength front = 0 := by
    apply if_neg
    intro whole
    have lengths := congrArg List.length whole
    rw [List.length_take] at lengths
    omega
  refine ⟨?_, ?_, ?_⟩
  · intro nothing
    have lengths := congrArg List.length rest.onward
    rw [nothing, List.flatten_nil, List.append_nil, List.length_append] at lengths
    omega
  · rw [rest.consumed, kept, stop]
    omega
  · rw [rest.unread, kept, List.drop_zero, rest.onward]
    rfl

end Rest

theorem silent_of_answered (answered : upload.Answered) : upload.Silent := by
  obtain ⟨events, trace, next | ⟨_, nothing⟩⟩ := answered
  · exact ⟨events, trace, .inl next⟩
  · exact ⟨events, trace, .inr nothing⟩

/-- What is answered needs another delivery. -/
theorem more_of_answered (answered : upload.Answered) : upload.lines = [] ∨ upload.after ≠ [] := by
  obtain ⟨events, trace, ⟨line, rest, later, _, first⟩ | ⟨none, _⟩⟩ := answered
  · right
    intro nothing
    rw [upload.deliver_eq, nothing, first] at trace
    simp [Receiver.deliver] at trace
  · exact .inl none

theorem answered_of_buffered (buffered : upload.Buffered)
    (more : upload.lines = [] ∨ upload.after ≠ []) : upload.Answered := by
  obtain ⟨front, rest⟩ := upload.rest
  obtain ⟨consumed, unread⟩ := rest.of_buffered buffered
  unfold Answered
  rw [upload.deliver_eq]
  cases lines : upload.lines with
  | nil =>
      rw [lines] at unread
      obtain ⟨trace, still⟩ := Receiver.deliver_nothing rest.isOpen rest.stage unread
      refine ⟨[], ?_, .inr ⟨rfl, rfl, ?_⟩⟩
      · rw [trace, List.append_nil]
      · rw [upload.deliver_eq, still, consumed]
  | cons line others =>
      have delivers : upload.after ≠ [] :=
        more.resolve_left (by rw [lines]; exact List.cons_ne_nil _ _)
      rw [lines, List.map_cons, List.flatten_cons, List.append_assoc] at unread
      have absent : 10 ∉ line := upload.plain line (by rw [lines]; exact List.mem_cons_self ..)
      obtain ⟨later, trace⟩ := Receiver.deliver_reads rest.isOpen rest.stage delivers unread absent
      exact ⟨_, trace, .inl ⟨line, others, later, lines, by rw [consumed]⟩⟩

theorem silent_of_buffered (buffered : upload.Buffered) : upload.Silent := by
  by_cases delivers : upload.after = []
  · obtain ⟨front, rest⟩ := upload.rest
    refine ⟨[], ?_, .inr ⟨rfl, ?_⟩⟩
    · rw [upload.deliver_eq, delivers, List.append_nil]
      rfl
    · rw [upload.deliver_eq, delivers]
      exact (rest.of_buffered buffered).1
  · exact upload.silent_of_answered (upload.answered_of_buffered buffered (.inr delivers))

/-- A cut sentinel is handled as a request line. -/
theorem buffered_of_silent (silent : upload.Silent) : upload.Buffered := by
  by_contra cut
  obtain ⟨front, rest⟩ := upload.rest
  obtain ⟨delivers, early, unread⟩ := rest.of_cut cut
  obtain ⟨later, handled⟩ :=
    @Receiver.deliver_reads env _ rest.isOpen rest.stage _ delivers _ _ unread (by decide)
  obtain ⟨events, trace, next | ⟨none, _⟩⟩ := silent
  · obtain ⟨line, others, behind, _, first⟩ := next
    rw [upload.deliver_eq, handled, first] at trace
    have same := List.append_cancel_left trace
    simp only [List.cons.injEq, Event.headerLine.injEq] at same
    omega
  · rw [upload.deliver_eq, handled, none] at trace
    simp at trace

/-- The sentinel is consumed in silence exactly if all of it is buffered when the upload is
complete, and the first later request line is then the next one handled, provided that there is
another delivery. -/
theorem sentinel_absorbed_iff (env : Env) (start : Receiver) (chunks : List Bytes)
    (upload : SentinelUpload env start chunks) :
    (upload.Silent ↔ upload.Buffered) ∧
      (upload.Answered ↔ upload.Buffered ∧ (upload.lines = [] ∨ upload.after ≠ [])) := by
  refine ⟨⟨upload.buffered_of_silent, upload.silent_of_buffered⟩, fun answered => ?_,
    fun both => ?_⟩
  · exact ⟨upload.buffered_of_silent (upload.silent_of_answered answered),
      upload.more_of_answered answered⟩
  · exact upload.answered_of_buffered both.1 both.2

end SentinelUpload

/-- A session that has accepted an upload of three bytes. -/
def uploading : Receiver :=
  (freshSession.deliver .quiet [ascii "123456\nFILE_START:f:3\n"]).state

/-- The sentinel comes in one delivery with the end of the payload. -/
def wholeSentinel : SentinelUpload .quiet freshSession
    [ascii "123456\nFILE_START:f:3\n", ascii "abcFILE_END\n", ascii "CMD:ping\n"] where
  before := [ascii "123456\nFILE_START:f:3\n"]
  chunk := ascii "abcFILE_END\n"
  after := [ascii "CMD:ping\n"]
  split := rfl
  receiver := uploading
  last := uploading.receive (ascii "abcFILE_END\n")
  done := ((uploading.receive (ascii "abcFILE_END\n")).fileData .quiet).state
  earlier := Outcome.Returns.eq_returned (by decide +kernel)
  call :=
    { isOpen := by decide +kernel
      fits := by decide +kernel
      visits := .refl
      stillOpen := by decide +kernel
      buffered := by decide +kernel
      stage := by decide +kernel }
  returns := Outcome.Returns.eq_returned (by decide +kernel)
  completes :=
    ⟨((uploading.receive (ascii "abcFILE_END\n")).fileData .quiet).state.trace.drop
      uploading.trace.length, by decide +kernel, by decide +kernel⟩
  payload := ascii "abc"
  lines := [ascii "CMD:ping"]
  length := by decide +kernel
  plain := by decide
  unread := by decide +kernel

/-- The whole sentinel is consumed in silence, and the command behind it is handled. -/
theorem whole_sentinel_absorbed : wholeSentinel.Silent ∧ wholeSentinel.Answered := by
  have buffered : wholeSentinel.Buffered := by
    change wholeSentinel.last.missing + Receiver.sentinel.length ≤ wholeSentinel.last.bufSize
    decide +kernel
  obtain ⟨silent, answered⟩ := SentinelUpload.sentinel_absorbed_iff .quiet freshSession _
    wholeSentinel
  exact ⟨silent.mpr buffered, answered.mpr ⟨buffered, .inr (by decide)⟩⟩

/-- The sentinel comes in a delivery of its own. -/
def lateSentinel : SentinelUpload .quiet freshSession
    [ascii "123456\nFILE_START:f:3\n", ascii "abc", ascii "FILE_END\n", ascii "CMD:ping\n"] where
  before := [ascii "123456\nFILE_START:f:3\n"]
  chunk := ascii "abc"
  after := [ascii "FILE_END\n", ascii "CMD:ping\n"]
  split := rfl
  receiver := uploading
  last := uploading.receive (ascii "abc")
  done := ((uploading.receive (ascii "abc")).fileData .quiet).state
  earlier := Outcome.Returns.eq_returned (by decide +kernel)
  call :=
    { isOpen := by decide +kernel
      fits := by decide +kernel
      visits := .refl
      stillOpen := by decide +kernel
      buffered := by decide +kernel
      stage := by decide +kernel }
  returns := Outcome.Returns.eq_returned (by decide +kernel)
  completes :=
    ⟨((uploading.receive (ascii "abc")).fileData .quiet).state.trace.drop uploading.trace.length,
      by decide +kernel, by decide +kernel⟩
  payload := ascii "abc"
  lines := [ascii "CMD:ping"]
  length := by decide +kernel
  plain := by decide
  unread := by decide +kernel

/-- The late sentinel is answered like an unknown request. -/
theorem late_sentinel_not_absorbed :
    ¬ lateSentinel.Silent ∧
      repliesOf (freshSession.deliver .quiet [ascii "123456\nFILE_START:f:3\n", ascii "abc",
        ascii "FILE_END\n"]).state.trace = [.authOk, .readyForFile, .fileOk, .unknownRequest] := by
  constructor
  · intro silent
    have buffered := lateSentinel.buffered_of_silent silent
    have cut : ¬ lateSentinel.last.missing + Receiver.sentinel.length ≤
        lateSentinel.last.bufSize := by
      decide +kernel
    exact cut buffered
  · decide +kernel

end TitanShare
