import TitanShare.ClientSession

/-!
# The authentication handler

`ClientSession::handleAuth`.  Each of its calls into the session manager is a step of the world:
before it, time may pass and the PIN window may rotate.
-/

namespace TitanShare

open ByteText

/-! ## Calls into the session manager -/

namespace World

/-- A call of `isIpBlocked`. -/
def checkIp (world : World) (gap : Gap) (ip : Ip) : Bool × World :=
  let reached := world.advance gap
  let answer := reached.manager.isIpBlocked ip reached.now
  (answer.1, { reached with manager := answer.2 })

/-- A call of `validateKey`. -/
def guess (world : World) (gap : Gap) (ip : Ip) (pin : Bytes) : Bool × World :=
  let reached := world.advance gap
  let accepted := reached.manager.validateKey pin
  (accepted, reached.record [.guess ip reached.now accepted])

/-- A call of `registerAuthSuccess`. -/
def succeed (world : World) (gap : Gap) (ip : Ip) : World :=
  let reached := world.advance gap
  { reached with manager := reached.manager.registerAuthSuccess ip }

/-- A call of `registerAuthFailure`. -/
def fail (world : World) (gap : Gap) (ip : Ip) : World :=
  let reached := world.advance gap
  let registered := reached.manager.registerAuthFailure ip reached.now
  ({ reached with manager := registered.1 } : World).record
    (registered.2.toList.map fun secs => .ban ip reached.now secs)

@[simp]
theorem advance_books (world : World) (gap : Gap) (ip : Ip) :
    (world.advance gap).manager.books ip = world.manager.books ip := by
  have rotates : ∀ (rotations : List Rotation) (manager : SessionManager),
      (rotations.foldl
        (fun manager rotation =>
          manager.generateSession rotation.preservePin rotation.persisted rotation.generated)
        manager).books ip = manager.books ip := by
    intro rotations
    induction rotations with
    | nil =>
        intro manager
        rfl
    | cons rotation rest ih =>
        intro manager
        rw [List.foldl_cons, ih, SessionManager.generateSession_books]
  exact rotates gap.rotations world.manager

/-- An address that is let through has no ban. -/
theorem checkIp_free {world : World} {gap : Gap} {ip : Ip}
    (free : (world.checkIp gap ip).1 = false) :
    ((world.checkIp gap ip).2.manager.books ip).blockedUntil = none := by
  obtain ⟨none, same⟩ | ⟨expiry, ban, ⟨late, forgets⟩ | ⟨early, same⟩⟩ :=
    (world.advance gap).manager.isIpBlocked_cases ip (world.advance gap).now
  · simp [checkIp, same, SessionManager.books, none]
  · simp [checkIp, forgets]
  · simp [checkIp, same] at free

theorem advance_now (world : World) (gap : Gap) : world.now ≤ (world.advance gap).now :=
  Nat.le_add_right _ _

/-- Rotations make the same window of the same window. -/
theorem advance_pins {left right : World} {gap other : Gap}
    (pins : left.manager.recentPins = right.manager.recentPins)
    (rotations : gap.rotations = other.rotations) :
    (left.advance gap).manager.recentPins = (right.advance other).manager.recentPins := by
  have rotates : ∀ (rotations : List Rotation) (one two : SessionManager),
      one.recentPins = two.recentPins →
        (rotations.foldl
          (fun manager rotation =>
            manager.generateSession rotation.preservePin rotation.persisted rotation.generated)
          one).recentPins =
        (rotations.foldl
          (fun manager rotation =>
            manager.generateSession rotation.preservePin rotation.persisted rotation.generated)
          two).recentPins := by
    intro rotations
    induction rotations with
    | nil => exact fun one two same => same
    | cons rotation rest ih =>
        intro one two same
        rw [List.foldl_cons, List.foldl_cons]
        apply ih
        simp only [SessionManager.generateSession, same]
  simp only [advance, rotations]
  exact rotates other.rotations left.manager right.manager pins

end World

/-! ## The handler -/

/-- The surroundings of one `handleAuth` call: the gaps before `isIpBlocked`, before `validateKey`
and before the result is registered, and the results of the reply's send calls. -/
structure AuthFrame where
  check : Gap
  guess : Gap
  register : Gap
  sends : List SendResult

/-- The PIN of an authentication line: the optional prefix is stripped, then white space. -/
def normalisePin (line : Bytes) : Bytes :=
  let pin := if 5 < line.length ∧ line.take 5 = ascii "AUTH:" then line.drop 5 else line
  let trimmed := pin.rdropWhile fun current => current == 32 || current == 9 || current == 13
  trimmed.dropWhile fun current => current == 32 || current == 9

/-- The branch of a valid PIN. -/
def acceptPin (frame : AuthFrame) (pin : Bytes) (context : Context) : Context :=
  let registered :=
    { context with
      session := { context.session with sessionKey := pin }
      world := context.world.succeed frame.register context.session.remoteIp }
  let answered := registered.sendResponse frame.sends .authOk
  { answered with session := { answered.session with stage := .header } }

/-- The branch of a wrong PIN. -/
def refusePin (frame : AuthFrame) (context : Context) : Context :=
  let answered := context.sendResponse frame.sends .authFail
  let counted :=
    { answered with
      world := answered.world.fail frame.register answered.session.remoteIp
      session := { answered.session with authAttempts := answered.session.authAttempts + 1 } }
  if Config.authAttemptsPerConnection ≤ counted.session.authAttempts then counted.abort
  else counted

/-- `ClientSession::handleAuth` -/
def handleAuth (frame : AuthFrame) (line : Bytes) (context : Context) : Context :=
  let ip := context.session.remoteIp
  let checked : Bool × World := context.world.checkIp frame.check ip
  let entered : Context :=
    { context.emit [.authLine line, .blockCheck checked.1] with world := checked.2 }
  if checked.1 = true then (entered.sendResponse frame.sends .authBlocked).abort
  else
    let pin := normalisePin line
    let guessed : Bool × World := entered.world.guess frame.guess ip pin
    let looked : Context :=
      { entered.emit [.keyCheck pin (entered.world.advance frame.guess).manager.recentPins] with
        world := guessed.2 }
    if guessed.1 = true then acceptPin frame pin looked else refusePin frame looked

/-! ## What the handler does -/

/-- The effects of one authentication line. -/
inductive AuthStep (frame : AuthFrame) (line : Bytes) (before after : Context) : Prop
  | blocked
      (isBlocked : (before.world.checkIp frame.check before.session.remoteIp).1 = true)
      (world : after.world = (before.world.checkIp frame.check before.session.remoteIp).2)
      (session : after.session = { before.session with closed := true })
      (sent : Bytes)
      (trace : after.trace = before.trace ++
        [.authLine line, .blockCheck true, .reply .authBlocked, .sent sent, .closeSocket])
  | accepted (unblocked guessed : World)
      (isFree : before.world.checkIp frame.check before.session.remoteIp = (false, unblocked))
      (isValid : unblocked.guess frame.guess before.session.remoteIp (normalisePin line) =
        (true, guessed))
      (world : after.world = guessed.succeed frame.register before.session.remoteIp)
      (session : after.session =
        { before.session with sessionKey := normalisePin line, stage := .header })
      (member : normalisePin line ∈ (unblocked.advance frame.guess).manager.recentPins)
      (sent : Bytes)
      (trace : after.trace = before.trace ++
        [.authLine line, .blockCheck false,
          .keyCheck (normalisePin line) (unblocked.advance frame.guess).manager.recentPins,
          .reply .authOk, .sent sent])
  | refused (unblocked guessed : World)
      (isFree : before.world.checkIp frame.check before.session.remoteIp = (false, unblocked))
      (isWrong : unblocked.guess frame.guess before.session.remoteIp (normalisePin line) =
        (false, guessed))
      (world : after.world = guessed.fail frame.register before.session.remoteIp)
      (closed : Bool)
      (closes :
        closed = decide (Config.authAttemptsPerConnection ≤ before.session.authAttempts + 1))
      (session : after.session =
        { before.session with
          authAttempts := before.session.authAttempts + 1
          closed := closed || before.session.closed })
      (window : List Bytes) (sent : Bytes)
      (trace : after.trace = before.trace ++
        [.authLine line, .blockCheck false, .keyCheck (normalisePin line) window,
          .reply .authFail, .sent sent] ++ if closed then [.closeSocket] else [])

theorem handleAuth_step (frame : AuthFrame) (line : Bytes) (context : Context) :
    AuthStep frame line context (handleAuth frame line context) := by
  let transmitted (reply : Reply) : Bytes :=
    Transport.transmit context.session.ssl frame.sends reply.text
  simp only [handleAuth]
  cases check : context.world.checkIp frame.check context.session.remoteIp with
  | mk isBlocked unblocked =>
      cases isBlocked with
      | true =>
          refine .blocked (by rw [check]) (by rw [check]; rfl) rfl (transmitted .authBlocked) ?_
          simp [Context.abort, transmitted]
      | false =>
          simp only [Bool.false_eq_true, if_false]
          cases guess : unblocked.guess frame.guess context.session.remoteIp
              (normalisePin line) with
          | mk isValid guessed =>
              cases isValid with
              | true =>
                  have member : normalisePin line ∈
                      (unblocked.advance frame.guess).manager.recentPins := by
                    have valid := congrArg Prod.fst guess
                    simpa [World.guess, SessionManager.validateKey] using valid
                  refine .accepted unblocked guessed check guess rfl rfl member
                    (transmitted .authOk) ?_
                  simp [acceptPin, transmitted]
              | false =>
                  simp only [Bool.false_eq_true, if_false, refusePin]
                  by_cases last : Config.authAttemptsPerConnection ≤
                      context.session.authAttempts + 1
                  · rw [if_pos (by simpa using last)]
                    refine .refused unblocked guessed check guess rfl true
                      (decide_eq_true last).symm rfl
                      (unblocked.advance frame.guess).manager.recentPins (transmitted .authFail) ?_
                    simp [Context.abort, transmitted]
                  · rw [if_neg (by simpa using last)]
                    refine .refused unblocked guessed check guess rfl false
                      (decide_eq_false last).symm (by simp)
                      (unblocked.advance frame.guess).manager.recentPins (transmitted .authFail) ?_
                    simp [transmitted]

/-- Authentication records authentication events and the bytes of its reply. -/
theorem AuthStep.kinds {frame : AuthFrame} {line : Bytes} {before after : Context}
    (step : AuthStep frame line before after) :
    Trace.Extends (fun event => event.kind = .authentication ∨ event.kind = .answer)
      before.trace after.trace := by
  cases step with
  | blocked isBlocked world session sent trace =>
      rw [trace]
      exact Trace.extends_append (by simp [Event.kind])
  | accepted unblocked guessed isFree isValid world session member sent trace =>
      rw [trace]
      exact Trace.extends_append (by simp [Event.kind])
  | refused unblocked guessed isFree isWrong world closed closes session window sent trace =>
      rw [trace, List.append_assoc]
      apply Trace.extends_append
      cases closed with
      | true => simp [Event.kind]
      | false => simp [Event.kind]

/-- Authentication does not begin an upload. -/
theorem AuthStep.outside {frame : AuthFrame} {line : Bytes} {before after : Context}
    (step : AuthStep frame line before after) (notData : before.session.stage ≠ .data) :
    after.session.stage ≠ .data ∧ after.session.fileFd = before.session.fileFd := by
  cases step with
  | blocked isBlocked world session sent trace =>
      rw [session]
      exact ⟨notData, rfl⟩
  | accepted unblocked guessed isFree isValid world session member sent trace =>
      rw [session]
      exact ⟨by simp, rfl⟩
  | refused unblocked guessed isFree isWrong world closed closes session window sent trace =>
      rw [session]
      exact ⟨notData, rfl⟩

theorem handleAuth_consumed (frame : AuthFrame) (line : Bytes) (context : Context) :
    (handleAuth frame line context).consumed = context.consumed := by
  simp only [handleAuth]
  split
  · rfl
  · split
    · rfl
    · simp only [refusePin]
      split <;> rfl

/-- Authentication changes the session manager, the clock and the log of the world, and nothing
else. -/
theorem handleAuth_world (frame : AuthFrame) (line : Bytes) (context : Context) :
    ∃ manager now authLog, (handleAuth frame line context).world =
      { context.world with manager, now, authLog } := by
  simp only [handleAuth]
  split
  · exact ⟨_, _, _, rfl⟩
  · split
    · exact ⟨_, _, _, rfl⟩
    · simp only [refusePin]
      split
      · exact ⟨_, _, _, rfl⟩
      · exact ⟨_, _, _, rfl⟩

theorem handleAuth_files (frame : AuthFrame) (line : Bytes) (context : Context) :
    (handleAuth frame line context).world.files = context.world.files ∧
      (handleAuth frame line context).world.receivedDir = context.world.receivedDir := by
  obtain ⟨manager, now, authLog, world⟩ := handleAuth_world frame line context
  rw [world]
  exact ⟨rfl, rfl⟩

end TitanShare
