import TitanShare.Daemon
import TitanShare.Library.Trimming
import TitanShare.Likeness

/-!
# The grammar of PIN lines

A PIN reaches `validateKey` from exactly the lines that consist of an optional prefix, blanks, the
PIN and blanks or carriage returns.
-/

namespace TitanShare

open ByteText PassLoop Trimming

/-- As many decimal digits as a pairing PIN has. -/
def IsPin (text : Bytes) : Prop :=
  text.length = Config.pairingPinDigits ∧ ∀ current ∈ text, isDigit current = true

instance (text : Bytes) : Decidable (IsPin text) :=
  decidable_of_iff (text.length = Config.pairingPinDigits ∧ text.all isDigit = true)
    (and_congr_right fun _ => List.all_eq_true)

/-- A space or a tab. -/
def isBlank (current : UInt8) : Bool :=
  current == 32 || current == 9

/-- A space, a tab or a carriage return. -/
def isBlankOrReturn (current : UInt8) : Bool :=
  current == 32 || current == 9 || current == 13

/-- The lines of the form `["AUTH:"] ws pin ws`. -/
def AuthLine (pin raw : Bytes) : Prop :=
  Padded isBlank isBlankOrReturn pin raw ∨
    ∃ body, raw = ascii "AUTH:" ++ body ∧ Padded isBlank isBlankOrReturn pin body

variable {pin line raw : Bytes}

namespace IsPin

theorem ne_nil (isPin : IsPin pin) : pin ≠ [] := by
  rintro rfl
  exact absurd isPin.1 (by decide)

/-- Digits are not padding. -/
theorem plain (isPin : IsPin pin) :
    ∀ current ∈ pin, isBlank current = false ∧ isBlankOrReturn current = false := by
  intro current member
  have digit := isPin.2 current member
  simp only [isDigit, Bool.and_eq_true, decide_eq_true_eq] at digit
  have notSpace : current ≠ 32 := by
    rintro rfl
    exact absurd digit.1 (by decide)
  have notTab : current ≠ 9 := by
    rintro rfl
    exact absurd digit.1 (by decide)
  have notReturn : current ≠ 13 := by
    rintro rfl
    exact absurd digit.1 (by decide)
  simp [isBlank, isBlankOrReturn, notSpace, notTab, notReturn]

/-- A padded PIN begins with a blank or a digit. -/
theorem head_of_padded (isPin : IsPin pin) {text : Bytes}
    (padded : Padded isBlank isBlankOrReturn pin text) :
    ∃ first later, text = first :: later ∧ (isBlank first = true ∨ isDigit first = true) := by
  obtain ⟨left, right, rfl, pads, _⟩ := padded
  cases left with
  | cons first left => exact ⟨first, _, rfl, .inl (pads first List.mem_cons_self)⟩
  | nil =>
      cases pin with
      | nil => exact absurd rfl isPin.ne_nil
      | cons first later => exact ⟨first, _, rfl, .inr (isPin.2 first List.mem_cons_self)⟩

/-- So it does not begin with the prefix. -/
theorem not_padded_prefix (isPin : IsPin pin) {body : Bytes} :
    ¬ Padded isBlank isBlankOrReturn pin (ascii "AUTH:" ++ body) := by
  intro padded
  obtain ⟨first, later, split, ordinary⟩ := isPin.head_of_padded padded
  obtain ⟨rfl, _⟩ := List.cons.inj split
  exact absurd ordinary (by decide)

end IsPin

theorem ascii_auth_length : (ascii "AUTH:").length = 5 := by decide

/-- The text that is left of a line is a PIN exactly for the lines of its form. -/
theorem normalisePin_eq_iff (isPin : IsPin pin) : normalisePin line = pin ↔ AuthLine pin line := by
  have trims : ∀ text : Bytes, (text.rdropWhile isBlankOrReturn).dropWhile isBlank = pin ↔
      Padded isBlank isBlankOrReturn pin text :=
    fun _ => trim_eq_iff isPin.ne_nil isPin.plain
  unfold normalisePin AuthLine
  split
  · rename_i prefixed
    have split_line : line = ascii "AUTH:" ++ line.drop 5 := by
      rw [← prefixed.2, List.take_append_drop]
    refine (trims (line.drop 5)).trans ?_
    constructor
    · exact fun padded => .inr ⟨line.drop 5, split_line, padded⟩
    · rintro (padded | ⟨body, same, padded⟩)
      · rw [split_line] at padded
        exact absurd padded isPin.not_padded_prefix
      · rw [same, List.drop_left' ascii_auth_length]
        exact padded
  · rename_i unprefixed
    refine (trims line).trans ⟨.inl, ?_⟩
    rintro (padded | ⟨body, rfl, padded⟩)
    · exact padded
    · obtain ⟨first, later, rfl, _⟩ := isPin.head_of_padded padded
      refine absurd ⟨?_, List.take_left' ascii_auth_length⟩ unprefixed
      rw [List.length_append, ascii_auth_length, List.length_cons]
      omega

/-- A carriage return is removed from the end of a line. -/
theorem stripReturn_append (raw : Bytes) :
    ∃ padding, raw = Receiver.stripReturn raw ++ padding ∧ ∀ current ∈ padding, current = 13 := by
  unfold Receiver.stripReturn
  split
  · rename_i last
    exact ⟨[13], (List.dropLast_append_getLast? 13 last).symm, by simp⟩
  · exact ⟨[], (List.append_nil raw).symm, by simp⟩

/-- The form of a line does not change when its carriage return is removed. -/
theorem authLine_stripReturn_iff (isPin : IsPin pin) :
    AuthLine pin (Receiver.stripReturn raw) ↔ AuthLine pin raw := by
  obtain ⟨padding, split, returns⟩ := stripReturn_append raw
  generalize Receiver.stripReturn raw = line at split
  subst split
  have pads : ∀ current ∈ padding, isBlankOrReturn current = true := by
    intro current member
    rw [returns current member]
    decide
  unfold AuthLine
  rw [padded_append_iff isPin.ne_nil isPin.plain pads]
  refine or_congr_right ⟨?_, ?_⟩
  · rintro ⟨body, rfl, padded⟩
    refine ⟨body ++ padding, List.append_assoc _ _ _, ?_⟩
    exact (padded_append_iff isPin.ne_nil isPin.plain pads).mpr padded
  · rintro ⟨body, same, padded⟩
    rcases List.append_eq_append_iff.mp same with ⟨between, _, behind⟩ | ⟨between, front, rfl⟩
    · -- a body of carriage returns holds no PIN
      obtain ⟨first, later, rfl, ordinary⟩ := isPin.head_of_padded padded
      have isReturn : first = 13 := returns first (by rw [behind]; simp)
      rw [isReturn] at ordinary
      exact absurd ordinary (by decide)
    · exact ⟨between, front, (padded_append_iff isPin.ne_nil isPin.plain pads).mp padded⟩

/-- The answer to a line from an address without a ban. -/
theorem handleAuth_answers {frame : AuthFrame} {context : Context}
    (free : (context.world.checkIp frame.check context.session.remoteIp).1 = false) :
    ∃ window reply sent closing,
      (handleAuth frame line context).trace = context.trace ++
        ([.authLine line, .blockCheck false, .keyCheck (normalisePin line) window, .reply reply,
          .sent sent] ++ closing) ∧
      closing ⊆ [.closeSocket] ∧
      (reply = .authOk ∧ normalisePin line ∈ window ∨
        reply = .authFail ∧ normalisePin line ∉ window) := by
  let unblocked := (context.world.checkIp frame.check context.session.remoteIp).2
  let window := (unblocked.advance frame.guess).manager.recentPins
  let sent : Reply → Bytes := fun reply =>
    Transport.transmit context.session.ssl frame.sends reply.text
  have looks : (unblocked.guess frame.guess context.session.remoteIp (normalisePin line)).1 =
      decide (normalisePin line ∈ window) := rfl
  rw [handleAuth_of_free free]
  by_cases member : normalisePin line ∈ window
  · rw [if_pos (looks.trans (decide_eq_true member))]
    refine ⟨window, .authOk, sent .authOk, [], ?_, by simp, .inl ⟨rfl, member⟩⟩
    simp only [acceptPin, lookedUp, Context.sendResponse_trace, Context.emit_trace,
      List.append_assoc, List.append_nil]
    rfl
  · rw [if_neg (by rw [looks, decide_eq_false member]; decide)]
    simp only [refusePin]
    split
    · refine ⟨window, .authFail, sent .authFail, [.closeSocket], ?_, by simp, .inr ⟨rfl, member⟩⟩
      simp only [Context.abort, lookedUp, Context.sendResponse_trace, Context.emit_trace,
        List.append_assoc]
      rfl
    · refine ⟨window, .authFail, sent .authFail, [], ?_, by simp, .inr ⟨rfl, member⟩⟩
      simp only [lookedUp, Context.sendResponse_trace, Context.emit_trace, List.append_assoc,
        List.append_nil]
      rfl

/-- A line of a session that authenticates from an address without a ban: the text that is looked up
is a PIN exactly for the lines of its form, and while the window holds PINs only, the answer is
`AUTH_OK` exactly for the lines that are of the form of one of them. -/
theorem auth_line_grammar (env : Env) {receiver : Receiver} {rest : Bytes}
    (isOpen : receiver.session.closed = false) (stage : receiver.session.stage = .auth)
    (view : receiver.buffer.view = raw ++ 10 :: rest) (absent : 10 ∉ raw)
    (free : (receiver.world.checkIp (env.auth receiver.calls.auth).check
      receiver.session.remoteIp).1 = false) :
    ∃ after text window reply sent closing,
      Receiver.pass env receiver = .again after ∧
      after.trace = receiver.trace ++
        ([.authLine (Receiver.stripReturn raw), .blockCheck false, .keyCheck text window,
          .reply reply, .sent sent] ++ closing) ∧
      closing ⊆ [.closeSocket] ∧
      (∀ pin, IsPin pin → (text = pin ↔ AuthLine pin raw)) ∧
      ((∀ pin ∈ window, IsPin pin) →
        (reply = .authOk ↔ ∃ pin ∈ window, AuthLine pin raw) ∧
          (reply = .authFail ↔ ¬ ∃ pin ∈ window, AuthLine pin raw)) := by
  obtain ⟨taken, taking, _, calls, _, context⟩ := Receiver.takeLine_of_view view absent
  have goes : Goes (Receiver.pass env) receiver (taken.authLine env (Receiver.stripReturn raw)) :=
    Receiver.goes_iff.mpr ⟨isOpen, _, taken, taking, .inl ⟨stage, rfl⟩⟩
  have stillFree : (taken.world.checkIp (env.auth taken.calls.auth).check
      taken.session.remoteIp).1 = false := by
    rw [calls, context]
    exact free
  obtain ⟨window, reply, sent, closing, trace, closes, answer⟩ :=
    @handleAuth_answers (Receiver.stripReturn raw) (env.auth taken.calls.auth) taken.toContext
      stillFree
  have reads : ∀ pin, IsPin pin →
      (normalisePin (Receiver.stripReturn raw) = pin ↔ AuthLine pin raw) := fun pin isPin =>
    (normalisePin_eq_iff isPin).trans (authLine_stripReturn_iff isPin)
  refine ⟨_, _, window, reply, sent, closing, goes, ?_, closes, reads, ?_⟩
  · rw [Receiver.authLine, trace, context]
  · intro pins
    have found : normalisePin (Receiver.stripReturn raw) ∈ window ↔
        ∃ pin ∈ window, AuthLine pin raw := by
      constructor
      · exact fun member => ⟨_, member, (reads _ (pins _ member)).mp rfl⟩
      · rintro ⟨pin, member, form⟩
        rw [(reads pin (pins pin member)).mpr form]
        exact member
    rw [← found]
    rcases answer with ⟨rfl, member⟩ | ⟨rfl, unknown⟩
    · simp [member]
    · simp [unknown]

/-- The first line of a session that has just begun. -/
def firstLine (line : Bytes) : Receiver :=
  ((Client.initial false [1]).receiver (Startup.fresh (ascii "123456")).world).receive
    (line ++ [10])

theorem auth_line_grammar_prefixed :
    ∃ after text window reply,
      Receiver.pass .quiet (firstLine (ascii "AUTH: \t123456 \r")) = .again after ∧
        .keyCheck text window ∈ after.trace ∧ .reply reply ∈ after.trace ∧
        text = ascii "123456" ∧
        ((∀ pin ∈ window, IsPin pin) →
          (reply = .authOk ↔ ∃ pin ∈ window, AuthLine pin (ascii "AUTH: \t123456 \r"))) := by
  have form : AuthLine (ascii "123456") (ascii "AUTH: \t123456 \r") :=
    .inr ⟨ascii " \t123456 \r", by decide, ascii " \t", ascii " \r", by decide,
      List.all_eq_true.mp (by decide), List.all_eq_true.mp (by decide)⟩
  obtain ⟨after, text, window, reply, sent, closing, passes, trace, _, reads, answers⟩ :=
    @auth_line_grammar (ascii "AUTH: \t123456 \r") .quiet
      (firstLine (ascii "AUTH: \t123456 \r")) [] rfl rfl rfl (by decide) rfl
  refine ⟨after, text, window, reply, passes, by simp [trace], by simp [trace], ?_, ?_⟩
  · exact (reads _ (by decide)).mpr form
  · exact fun pins => (answers pins).1

end TitanShare
