import TitanShare.Library.Numerals
import TitanShare.RequestSafety

/-!
# The header of an upload

What `handleHeader` reads from a `FILE_START:` line: the name and the size that were printed into
it, and which other texts it takes for a size.
-/

namespace TitanShare

open ByteText PassLoop

/-- The request line for an upload. -/
def startLine (name : Bytes) (size : Nat) : Bytes :=
  ascii "FILE_START:" ++ (name ++ byte ':' :: decimal size)

/-- A name without slashes and backslashes. -/
def underscored (name : Bytes) : Bytes :=
  name.map fun current => if current = byte '/' ∨ current = byte '\\' then byte '_' else current

/-- The folder for uploads is there and the file in it can be opened. -/
structure HeaderFrame.Stores (frame : HeaderFrame) : Prop where
  createsDir : frame.createsDir = true
  opens : frame.opens = true

theorem underscored_eq (name : Bytes) :
    replace (byte '\\') (byte '_') (replace (byte '/') (byte '_') name) = underscored name := by
  simp only [replace, underscored, List.map_map]
  apply List.map_congr_left
  intro current _
  by_cases slash : current = byte '/'
  · simp only [Function.comp, slash]
    decide
  · simp [slash]

/-- Upload requests go to their branch of `handleHeader`. -/
theorem handleHeader_start {line : Bytes} (announces : line.take 11 = ascii "FILE_START:")
    (frame : HeaderFrame) (context : Context) :
    handleHeader frame line context = fileStart frame line context := by
  have other : line.take 4 ≠ ascii "CMD:" := by
    have prefixes := congrArg (List.take 4) announces
    rw [List.take_take] at prefixes
    rw [show min 4 11 = 4 from rfl] at prefixes
    rw [prefixes]
    decide
  rw [handleHeader, if_neg other, if_pos announces]

/-- What `fileStart` does with a name and a size it allows. -/
theorem fileStart_of_allows {line : Bytes} {colon size : Nat}
    (allows : AllowsUpload line colon size) (frame : HeaderFrame) (context : Context) :
    let declared :=
      { context with
        session :=
          { context.session with
            fileName := underscored ((line.drop 11).take (colon - 11))
            expectedBytes := size } }
    fileStart frame line context =
      if frame.createsDir = false then .threw .filesystemError declared
      else if frame.opens = false then
        .returned (Context.sendResponse
          { declared with session := { declared.session with fileFd := none } }
            frame.sends .cmdFail)
      else .returned (declared.beginUpload frame.sends) := by
  simp only [fileStart, allows.found, if_neg (not_le.mpr allows.behind), allows.parsed,
    if_neg allows.positive.ne', if_neg (not_lt.mpr allows.bounded), underscored_eq]

/-! ## Sizes as `stoull` reads them -/

/-- A nonempty text of digits. -/
def Numeral (text : Bytes) : Prop :=
  text ≠ [] ∧ ∀ current ∈ text, isDigit current = true

/-- A sign and a magnitude that `stoull` turns into the size of an upload. -/
def SizeInRange (sign : Bytes) (magnitude : Nat) : Prop :=
  if sign = [byte '-'] then 2 ^ 64 - Config.maxReceiveFileBytes ≤ magnitude ∧ magnitude < 2 ^ 64
  else 0 < magnitude ∧ magnitude ≤ Config.maxReceiveFileBytes

section Scanned

variable {text blanks sign digits tail : Bytes} (scans : Scans text blanks sign digits tail)

include scans

theorem stoull_of_scans :
    stoull text =
      if 2 ^ 64 ≤ digitsValue digits then .error .outOfRange
      else if sign = [byte '-'] then .ok ((2 ^ 64 - digitsValue digits) % 2 ^ 64)
      else .ok (digitsValue digits) := by
  simp only [stoull, scans.scanInteger_eq, decide_eq_true_eq]

theorem sizeInRange_iff :
    (∃ size, stoull text = .ok size ∧ 0 < size ∧ size ≤ Config.maxReceiveFileBytes) ↔
      SizeInRange sign (digitsValue digits) := by
  have limit : Config.maxReceiveFileBytes = 2147483648 := by decide
  rw [stoull_of_scans scans, SizeInRange, limit]
  by_cases large : 2 ^ 64 ≤ digitsValue digits
  · rw [if_pos large]
    refine iff_of_false ?_ ?_
    · rintro ⟨size, parsed, _⟩
      cases parsed
    · split
      · exact fun range => absurd range.2 (not_lt.mpr large)
      · exact fun range => absurd (large.trans range.2) (by decide)
  · rw [if_neg large]
    by_cases negative : sign = [byte '-']
    · rw [if_pos negative, if_pos negative]
      constructor
      · rintro ⟨size, parsed, positive, bounded⟩
        obtain rfl := Except.ok.inj parsed
        omega
      · intro range
        exact ⟨_, rfl, by omega, by omega⟩
    · rw [if_neg negative, if_neg negative]
      constructor
      · rintro ⟨size, parsed, range⟩
        obtain rfl := Except.ok.inj parsed
        exact range
      · exact fun range => ⟨_, rfl, range⟩

/-- Nothing but digits is a numeral. -/
theorem numeral_iff : Numeral text ↔ blanks = [] ∧ sign = [] ∧ tail = [] := by
  constructor
  · rintro ⟨_, digit⟩
    rw [scans.split] at digit
    refine ⟨?_, ?_, ?_⟩
    · cases blanks with
      | nil => rfl
      | cons first later =>
          have blank := scans.blank first List.mem_cons_self
          rw [(digit_plain (digit first (by simp))).1] at blank
          cases blank
    · rcases scans.signed with rfl | rfl | rfl
      · rfl
      · exact absurd rfl (digit_plain (digit (byte '+') (by simp))).2.2
      · exact absurd rfl (digit_plain (digit (byte '-') (by simp))).2.1
    · cases tail with
      | nil => rfl
      | cons first later =>
          have stops := scans.ends first rfl
          rw [digit first (by simp)] at stops
          cases stops
  · rintro ⟨rfl, rfl, rfl⟩
    have split := scans.split
    simp only [List.nil_append, List.append_nil] at split
    subst split
    exact ⟨scans.nonempty, scans.digit⟩

end Scanned

theorem numeral_decimal (value : Nat) : Numeral (decimal value) :=
  ⟨decimal_ne_nil value, isDigit_of_mem_decimal⟩

namespace Numeral

variable {text : Bytes} (numeral : Numeral text)

include numeral

theorem scans : Scans text [] [] text [] :=
  ⟨by simp, by simp, .inl rfl, numeral.1, numeral.2, by simp⟩

/-- A numeral is read as its value. -/
theorem stoull_eq (fits : digitsValue text < 2 ^ 64) : stoull text = .ok (digitsValue text) := by
  rw [stoull_of_scans numeral.scans, if_neg (not_le.mpr fits), if_neg (by decide)]

theorem value {size : Nat} (parsed : stoull text = .ok size) : digitsValue text = size := by
  by_cases large : 2 ^ 64 ≤ digitsValue text
  · rw [stoull_of_scans numeral.scans, if_pos large] at parsed
    cases parsed
  · rw [numeral.stoull_eq (not_le.mp large)] at parsed
    exact Except.ok.inj parsed

end Numeral

/-! ## Declared headers -/

theorem start_length : (ascii "FILE_START:").length = 11 := by decide

theorem startLine_announces (name : Bytes) (size : Nat) :
    (startLine name size).take 11 = ascii "FILE_START:" :=
  List.take_left' start_length

/-- The digits of a size hold no colon, so the last one of the line stands in front of them. -/
theorem startLine_allows {name : Bytes} {size : Nat} (nonempty : name ≠ []) (positive : 0 < size)
    (bounded : size ≤ Config.maxReceiveFileBytes) :
    AllowsUpload (startLine name size) (11 + name.length) size := by
  have noColon : byte ':' ∉ decimal size := by
    intro member
    exact absurd (isDigit_of_mem_decimal _ member) (by decide)
  have split : startLine name size = (ascii "FILE_START:" ++ name) ++ byte ':' :: decimal size :=
    (List.append_assoc _ _ _).symm
  have length : (ascii "FILE_START:" ++ name).length = 11 + name.length := by
    rw [List.length_append, start_length]
  have named : 0 < name.length := List.length_pos_of_ne_nil nonempty
  have fits : size < 2 ^ 64 := bounded.trans_lt (by decide)
  refine ⟨?_, by omega, ?_, positive, bounded⟩
  · rw [split, rfind_append _ noColon, length]
  · rw [split, ← List.singleton_append, ← List.append_assoc,
      List.drop_left' (by rw [List.length_append, length]; rfl)]
    have value := digitsValue_decimal size
    rw [(numeral_decimal size).stoull_eq (by rw [value]; exact fits), value]

theorem startLine_name (name : Bytes) (size : Nat) :
    ((startLine name size).drop 11).take (11 + name.length - 11) = name := by
  rw [startLine, List.drop_left' start_length, Nat.add_sub_cancel_left, List.take_left]

/-- A carriage return behind the digits is the one that is removed. -/
theorem stripReturn_startLine {name ending : Bytes} {size : Nat}
    (ends : ending = [] ∨ ending = [13]) :
    Receiver.stripReturn (startLine name size ++ ending) = startLine name size := by
  unfold Receiver.stripReturn
  rcases ends with rfl | rfl
  · obtain ⟨digits, last, shape⟩ := List.eq_nil_or_concat (decimal size) |>.resolve_left
      (decimal_ne_nil size)
    have digit : isDigit last = true :=
      @isDigit_of_mem_decimal size last (by rw [shape]; simp)
    have notReturn : last ≠ 13 := by
      rintro rfl
      exact absurd digit (by decide)
    have split : startLine name size =
        (ascii "FILE_START:" ++ (name ++ byte ':' :: digits)) ++ [last] := by
      simp [startLine, shape]
    rw [List.append_nil, split, List.getLast?_concat, if_neg (by simpa using notReturn)]
  · rw [if_pos (by simp), List.dropLast_concat]

theorem newline_not_mem_startLine {name ending : Bytes} {size : Nat} (oneLine : 10 ∉ name)
    (ends : ending = [] ∨ ending = [13]) : 10 ∉ startLine name size ++ ending := by
  have noDigit : 10 ∉ decimal size := by
    intro member
    exact absurd (isDigit_of_mem_decimal _ member) (by decide)
  have noPrefix : 10 ∉ ascii "FILE_START:" := by decide
  have noColon : (10 : UInt8) ≠ byte ':' := by decide
  have noEnding : 10 ∉ ending := by
    rcases ends with rfl | rfl
    · simp
    · decide
  simp [startLine, oneLine, noDigit, noPrefix, noColon, noEnding]

/-- The header that a client prints is read back: the size is the declared one, the name is the
declared one without slashes, and the upload begins if its file can be opened. -/
theorem upload_header_round_trip (env : Env) {receiver : Receiver} {name ending rest : Bytes}
    {size : Nat} (isOpen : receiver.session.closed = false)
    (stage : receiver.session.stage = .header) (nonempty : name ≠ []) (oneLine : 10 ∉ name)
    (positive : 1 ≤ size) (bounded : size ≤ Config.maxReceiveFileBytes)
    (ends : ending = [] ∨ ending = [13])
    (view : receiver.buffer.view = startLine name size ++ ending ++ 10 :: rest) :
    ∃ taken, receiver.takeLine = some (startLine name size, taken) ∧ taken.buffer.view = rest ∧
      (∀ frame context,
        (handleHeader frame (startLine name size) context).state.session.expectedBytes = size ∧
          (handleHeader frame (startLine name size) context).state.session.fileName =
            underscored name) ∧
      ((env.header receiver.calls.header).Stores →
        ∃ after start stop descriptor path shared sent, Receiver.pass env receiver = .again after ∧
          after.buffer.view = rest ∧
          after.session =
            { receiver.session with
              fileName := underscored name
              expectedBytes := size
              fileFd := some descriptor
              receivedBytes := 0
              stage := .data } ∧
          after.trace = receiver.trace ++
            [.headerLine start stop (startLine name size),
              .openUpload stop descriptor path size shared, .reply .readyForFile, .sent sent]) := by
  obtain ⟨taken, taking, unread, calls, _, context⟩ :=
    Receiver.takeLine_of_view view (newline_not_mem_startLine oneLine ends)
  rw [stripReturn_startLine ends] at taking
  have handles : ∀ frame context, handleHeader frame (startLine name size) context = _ :=
    fun frame context => (handleHeader_start (startLine_announces name size) frame context).trans
      (fileStart_of_allows (startLine_allows nonempty positive bounded) frame context)
  simp only [startLine_name] at handles
  refine ⟨taken, taking, unread, ?_, ?_⟩
  · intro frame context
    rw [handles]
    split
    · exact ⟨rfl, rfl⟩
    · split
      · exact ⟨rfl, rfl⟩
      · exact ⟨rfl, rfl⟩
  · rintro ⟨created, opens⟩
    have present : ¬ (env.header taken.calls.header).createsDir = false := by simp [calls, created]
    have openable : ¬ (env.header taken.calls.header).opens = false := by simp [calls, opens]
    have handled := handles (env.header taken.calls.header)
      (taken.emit [.headerLine receiver.consumed taken.consumed (startLine name size)])
    rw [if_neg present, if_neg openable] at handled
    have goes := Receiver.goes_iff.mpr ⟨isOpen, _, taken, taking,
      .inr ⟨stage, congrArg (Outcome.map _) handled⟩⟩
    let path := uploadPath taken.world (underscored name)
    refine ⟨_, receiver.consumed, taken.consumed, taken.world.files.nextDescriptor, path,
      taken.world.files.busy path, Transport.transmit taken.session.ssl
        (env.header taken.calls.header).sends Reply.readyForFile.text, goes, unread, ?_, ?_⟩
    · rw [show receiver.session = taken.session from by rw [context]]
      rfl
    · rw [show receiver.trace = taken.trace from by rw [context], Context.beginUpload_trace,
        Context.emit_trace, List.append_assoc]
      rfl

/-- A paired session that has received some bytes. -/
def pairedReceiver (chunk : Bytes) : Receiver :=
  let daemon := Daemon.run (.fresh (ascii "123456")) paired
  (((daemon.clients 0).getD (.initial false [])).receiver daemon.world).receive chunk

theorem upload_header_round_trip_colons :
    ∃ after, Receiver.pass .quiet (pairedReceiver (ascii "FILE_START:a:1/b:3\r\n")) = .again after ∧
      after.session.expectedBytes = 3 ∧ after.session.fileName = ascii "a:1_b" := by
  obtain ⟨_, _, _, _, accepts⟩ := @upload_header_round_trip .quiet
    (pairedReceiver (ascii "FILE_START:a:1/b:3\r\n")) (ascii "a:1/b") [13] [] 3 rfl rfl (by decide)
    (by decide) (by decide) (by decide) (.inr rfl) (by decide)
  obtain ⟨after, _, _, _, _, _, _, passes, _, session, _⟩ := accepts ⟨rfl, rfl⟩
  refine ⟨after, passes, ?_, ?_⟩
  · rw [session]
  · rw [session]
    exact show underscored (ascii "a:1/b") = ascii "a:1_b" by decide

/-! ## Accepted sizes -/

/-- The text behind the last colon. -/
def sizeText (line : Bytes) : Bytes :=
  match rfind (byte ':') line with
  | none => []
  | some colon => line.drop (colon + 1)

/-- A handler that was called in this context returns after a reply. -/
def Answers (context : Context) (outcome : Outcome Exception Context) (reply : Reply) : Prop :=
  ∃ after earlier sent, outcome = .returned after ∧
    after.trace = context.trace ++ (earlier ++ [.reply reply, .sent sent])

/-- An upload that is accepted has a numeral for a size, in range, which is the number of bytes that
are expected; and whatever is no numeral is refused. -/
structure ChecksSize (frame : HeaderFrame) (line : Bytes) (context : Context) : Prop where
  accepted : Answers context (handleHeader frame line context) .readyForFile →
    Numeral (sizeText line) ∧
      digitsValue (sizeText line) = (handleHeader frame line context).state.session.expectedBytes ∧
      1 ≤ digitsValue (sizeText line) ∧ digitsValue (sizeText line) ≤ Config.maxReceiveFileBytes
  refused : ¬ Numeral (sizeText line) → Answers context (handleHeader frame line context) .cmdFail

/-- Behind the name stands an integer that `stoull` reads as a size in range, with blanks or a sign
in front of it or a tail behind it. -/
def Misread (line : Bytes) : Prop :=
  ∃ colon blanks sign digits tail, rfind (byte ':') line = some colon ∧ 11 < colon ∧
    Scans (line.drop (colon + 1)) blanks sign digits tail ∧
      ¬ (blanks = [] ∧ sign = [] ∧ tail = []) ∧
      SizeInRange sign (digitsValue digits)

theorem AllowsUpload.sizeText_eq {line : Bytes} {colon size : Nat}
    (allows : AllowsUpload line colon size) : sizeText line = line.drop (colon + 1) := by
  rw [sizeText, allows.found]

/-- A size that is allowed is a numeral or misread. -/
theorem AllowsUpload.misread_iff {line : Bytes} {colon size : Nat}
    (allows : AllowsUpload line colon size) : Misread line ↔ ¬ Numeral (sizeText line) := by
  rw [allows.sizeText_eq]
  constructor
  · rintro ⟨other, blanks, sign, digits, tail, found, _, scans, decorated, _⟩
    obtain rfl := Option.some.inj (allows.found.symm.trans found)
    exact fun numeral => decorated ((numeral_iff scans).mp numeral)
  · intro decorated
    have parsed := allows.parsed
    cases scanned : scanInteger (line.drop (colon + 1)) with
    | none => simp [stoull, scanned] at parsed
    | some result =>
        obtain ⟨blanks, sign, digits, tail, scans, _, _⟩ := exists_scans scanned
        refine ⟨colon, blanks, sign, digits, tail, allows.found, allows.behind, scans, ?_, ?_⟩
        · exact fun bare => decorated ((numeral_iff scans).mpr bare)
        · exact (sizeInRange_iff scans).mp ⟨size, parsed, allows.positive, allows.bounded⟩

theorem Misread.exists_allows {line : Bytes} (misread : Misread line) :
    ∃ colon size, AllowsUpload line colon size := by
  obtain ⟨colon, blanks, sign, digits, tail, found, behind, scans, _, range⟩ := misread
  obtain ⟨size, parsed, positive, bounded⟩ := (sizeInRange_iff scans).mpr range
  exact ⟨colon, size, found, behind, parsed, positive, bounded⟩

theorem not_answers_threw (context after : Context) (exception : Exception) (reply : Reply) :
    ¬ Answers context (.threw exception after) reply := by
  rintro ⟨_, _, _, impossible, _⟩
  cases impossible

/-- There is one answer. -/
theorem Answers.unique {context : Context} {outcome : Outcome Exception Context}
    {reply other : Reply} (answers : Answers context outcome reply)
    (again : Answers context outcome other) : reply = other := by
  obtain ⟨after, earlier, sent, rfl, trace⟩ := answers
  obtain ⟨_, earlier', sent', same, trace'⟩ := again
  obtain rfl := Outcome.returned.inj same
  have suffixes := List.append_cancel_left (trace.symm.trans trace')
  have lasts := (List.append_inj' suffixes rfl).2
  simp only [List.cons.injEq, Event.reply.injEq] at lasts
  exact lasts.1

section Answering

variable {context answering : Context} {events : List Event}
  (grown : answering.trace = context.trace ++ events)

include grown

theorem answers_sendResponse (sends : List SendResult) (reply : Reply) :
    Answers context (.returned (answering.sendResponse sends reply)) reply :=
  ⟨_, events, _, rfl, by rw [Context.sendResponse_trace, grown, List.append_assoc]⟩

theorem answers_beginUpload (sends : List SendResult) :
    Answers context (.returned (answering.beginUpload sends)) .readyForFile :=
  ⟨_, events ++ [_], _, rfl, by
    rw [Context.beginUpload_trace, grown, List.append_assoc, List.append_assoc]
    rfl⟩

end Answering

/-- An upload request is accepted only with a plain size in range and refused with any other text
for a size, unless that text is misread and the upload does not fail for a file that cannot be
opened. -/
theorem sizes_checked_iff (frame : HeaderFrame) (declaration : Bytes) (context : Context) :
    ChecksSize frame (ascii "FILE_START:" ++ declaration) context ↔
      ¬ (Misread (ascii "FILE_START:" ++ declaration) ∧
        (frame.createsDir = false ∨ frame.opens = true)) := by
  have announces : (ascii "FILE_START:" ++ declaration).take 11 = ascii "FILE_START:" :=
    List.take_left' start_length
  generalize ascii "FILE_START:" ++ declaration = line at announces
  have handles := handleHeader_start announces frame context
  have exit := fileStart_exit frame line context
  rw [← handles] at exit
  constructor
  · rintro checks ⟨misread, unstopped⟩
    obtain ⟨colon, size, allows⟩ := misread.exists_allows
    have refused := checks.refused (allows.misread_iff.mp misread)
    cases exit with
    | refused fileName expectedBytes fileFd released refusal same =>
        obtain ⟨created, closed⟩ := refusal colon size allows
        simp [created, closed] at unstopped
    | threw fileName colon size allows missing same =>
        rw [same] at refused
        exact not_answers_threw _ _ _ _ refused
    | begun colon size allows created opens same =>
        rw [same] at refused
        cases refused.unique (answers_beginUpload (List.append_nil _).symm _)
  · intro plain
    cases exit with
    | refused fileName expectedBytes fileFd released refusal same =>
        refine ⟨?_, fun _ => ?_⟩
        · intro accepted
          rw [same] at accepted
          cases accepted.unique (answers_sendResponse (List.append_nil _).symm _ _)
        · rw [same]
          exact answers_sendResponse (List.append_nil _).symm _ _
    | threw fileName colon size allows missing same =>
        refine ⟨?_, fun decorated => ?_⟩
        · intro accepted
          rw [same] at accepted
          exact absurd accepted (not_answers_threw _ _ _ _)
        · exact absurd ⟨allows.misread_iff.mpr decorated, .inl missing⟩ plain
    | begun colon size allows created opens same =>
        have numeral : Numeral (sizeText line) := by
          by_contra decorated
          exact plain ⟨allows.misread_iff.mpr decorated, .inr opens⟩
        refine ⟨fun _ => ?_, fun decorated => absurd numeral decorated⟩
        have value : digitsValue (sizeText line) = size := by
          rw [allows.sizeText_eq] at numeral ⊢
          exact numeral.value allows.parsed
        rw [same, value]
        exact ⟨numeral, rfl, allows.positive, allows.bounded⟩

/-- A size with a blank in front of it and a tail. -/
def decoratedSize : Bytes := ascii "f: 5x"

theorem sizes_not_checked :
    ¬ ∀ (startup : Startup) (inputs : List Input) (conn : Nat) (client : Client),
      (Daemon.run startup inputs).clients conn = some client → client.session.stage = .header →
        ∀ frame declaration, ChecksSize frame (ascii "FILE_START:" ++ declaration)
          (client.receiver (Daemon.run startup inputs).world).toContext := by
  intro checks
  let daemon := Daemon.run (.fresh (ascii "123456")) paired
  let client := (daemon.clients 0).getD (.initial false [])
  have checked := checks (.fresh (ascii "123456")) paired 0 client rfl rfl (Env.quiet.header 0)
    decoratedSize
  have numeral := (checked.accepted ⟨_, [_], _, rfl, rfl⟩).1.2
  exact absurd numeral (by decide)

end TitanShare
