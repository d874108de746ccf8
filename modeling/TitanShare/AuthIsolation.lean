import TitanShare.Library.Unwinding
import TitanShare.Likeness

/-!
# Addresses do not interfere

PIN lines of many connections reach `handleAuth` while time passes and the PIN window rotates.  What
an address sees of that, and what the session manager keeps about it, does not depend on the lines
of the other addresses.
-/

namespace TitanShare

/-- What happens to the authentication of the daemon. -/
inductive AuthInput
  /-- A line of a connection, in the surroundings of its `handleAuth` call. -/
  | line (conn : Nat) (frame : AuthFrame) (line : Bytes)
  /-- Nobody sends a line. -/
  | pause (check guess register : Gap)

/-- The sessions that authenticate, by connection, in their world. -/
structure Doorway where
  world : World
  sessions : Nat → ClientSession
  traces : Nat → List Event

namespace Doorway

def start (world : World) (ssl : Nat → Bool) (ips : Nat → Ip) : Doorway where
  world := world
  sessions conn := .initial (ssl conn) (ips conn)
  traces := fun _ => []

def context (doorway : Doorway) (conn : Nat) : Context where
  session := doorway.sessions conn
  trace := doorway.traces conn
  world := doorway.world
  consumed := 0

/-- A session that `processBuffer` hands PIN lines to. -/
def listens (session : ClientSession) : Bool :=
  session.stage == .auth && !session.closed

/-- Time passes and PINs rotate as they would during a call. -/
def pass (world : World) (check guess register : Gap) : World :=
  ((world.advance check).advance guess).advance register

/-- The world at the end of the time of a call.  A blocked address leaves the call early, and the
rest of its time passes all the same. -/
def worldAfter (frame : AuthFrame) (line : Bytes) (context : Context) : World :=
  let after := (handleAuth frame line context).world
  if (context.world.checkIp frame.check context.session.remoteIp).1 = true then
    (after.advance frame.guess).advance frame.register
  else after

/-- One call of `handleAuth`. -/
def call (doorway : Doorway) (conn : Nat) (frame : AuthFrame) (line : Bytes) : Doorway :=
  let after := handleAuth frame line (doorway.context conn)
  { world := worldAfter frame line (doorway.context conn)
    sessions := Function.update doorway.sessions conn after.session
    traces := Function.update doorway.traces conn after.trace }

def step (doorway : Doorway) : AuthInput → Doorway
  | .line conn frame line =>
      if listens (doorway.sessions conn) then doorway.call conn frame line
      else { doorway with world := pass doorway.world frame.check frame.guess frame.register }
  | .pause check guess register =>
      { doorway with world := pass doorway.world check guess register }

def run (world : World) (ssl : Nat → Bool) (ips : Nat → Ip) (inputs : List AuthInput) : Doorway :=
  inputs.foldl step (start world ssl ips)

end Doorway

namespace AuthInput

/-- An input that is not a line of another address. -/
def concerns (ips : Nat → Ip) (ip : Ip) : AuthInput → Bool
  | line conn _ _ => decide (ips conn = ip)
  | pause _ _ _ => true

/-- The time and the rotations of an input without its line. -/
def silent : AuthInput → AuthInput
  | line _ frame _ => .pause frame.check frame.guess frame.register
  | pause check guess register => .pause check guess register

/-- The run without the lines of other addresses. -/
def only (ips : Nat → Ip) (ip : Ip) (inputs : List AuthInput) : List AuthInput :=
  Unwinding.purge (concerns ips ip) silent inputs

end AuthInput

/-! ## Worlds an address cannot tell apart -/

namespace SessionManager

@[simp]
theorem isIpBlocked_recentPins (manager : SessionManager) (ip : Ip) (now : Nat) :
    (manager.isIpBlocked ip now).2.recentPins = manager.recentPins := by
  unfold isIpBlocked
  split
  · rfl
  · split <;> rfl

@[simp]
theorem registerAuthFailure_recentPins (manager : SessionManager) (ip : Ip) (now : Nat) :
    (manager.registerAuthFailure ip now).1.recentPins = manager.recentPins := by
  simp only [registerAuthFailure]
  split <;> rfl

end SessionManager

/-- The clock, the PIN window and the bookkeeping of one address are the same. -/
structure SameFor (ip : Ip) (left right : World) : Prop where
  now : left.now = right.now
  pins : left.manager.recentPins = right.manager.recentPins
  books : left.manager.books ip = right.manager.books ip

namespace SameFor

variable {ip : Ip} {left right : World} (same : SameFor ip left right) (gap : Gap)

include same

theorem advance : SameFor ip (left.advance gap) (right.advance gap) :=
  ⟨congrArg (· + gap.elapsed) same.now, World.advance_pins same.pins rfl,
    by simpa using same.books⟩

theorem pass (check guess register : Gap) :
    SameFor ip (Doorway.pass left check guess register) (Doorway.pass right check guess register) :=
  ((same.advance check).advance guess).advance register

/-! ## Calls for the address itself -/

theorem checkIp :
    (left.checkIp gap ip).1 = (right.checkIp gap ip).1 ∧
      SameFor ip (left.checkIp gap ip).2 (right.checkIp gap ip).2 := by
  have reached := same.advance gap
  have blocked : (left.advance gap).manager.blockedUntil ip =
      (right.advance gap).manager.blockedUntil ip :=
    congrArg SessionManager.Books.blockedUntil reached.books
  simp only [World.checkIp]
  obtain ⟨free, leftSame⟩ | ⟨expiry, ban, ⟨expired, forgets⟩ | ⟨early, stays⟩⟩ :=
    (left.advance gap).manager.isIpBlocked_cases ip (left.advance gap).now
  · have rightSame : (right.advance gap).manager.isIpBlocked ip (right.advance gap).now =
        (false, (right.advance gap).manager) := by
      simp [SessionManager.isIpBlocked, ← blocked, free]
    rw [leftSame, rightSame]
    exact ⟨rfl, reached.now, reached.pins, reached.books⟩
  · have rightForgets : (right.advance gap).manager.isIpBlocked ip (right.advance gap).now =
        (false, (right.advance gap).manager.registerAuthSuccess ip) := by
      simp [SessionManager.isIpBlocked, ← blocked, ban, reached.now ▸ expired,
        SessionManager.registerAuthSuccess]
    rw [forgets, rightForgets]
    exact ⟨rfl, reached.now, reached.pins, by simp⟩
  · have rightStays : (right.advance gap).manager.isIpBlocked ip (right.advance gap).now =
        (true, (right.advance gap).manager) := by
      simp [SessionManager.isIpBlocked, ← blocked, ban, not_le.mpr (reached.now ▸ early)]
    rw [stays, rightStays]
    exact ⟨rfl, reached.now, reached.pins, reached.books⟩

theorem guess (pin : Bytes) :
    (left.guess gap ip pin).1 = (right.guess gap ip pin).1 ∧
      SameFor ip (left.guess gap ip pin).2 (right.guess gap ip pin).2 := by
  have reached := same.advance gap
  refine ⟨?_, reached.now, reached.pins, reached.books⟩
  simp only [World.guess, SessionManager.validateKey, reached.pins]

theorem succeed : SameFor ip (left.succeed gap ip) (right.succeed gap ip) := by
  have reached := same.advance gap
  exact ⟨reached.now, reached.pins, by simp [World.succeed]⟩

theorem fail : SameFor ip (left.fail gap ip) (right.fail gap ip) := by
  have reached := same.advance gap
  refine ⟨reached.now, ?_, ?_⟩
  · simpa [World.fail, World.record] using reached.pins
  · have failures : (left.advance gap).manager.authFailures ip =
        (right.advance gap).manager.authFailures ip :=
      congrArg SessionManager.Books.authFailures reached.books
    have bans : (left.advance gap).manager.banCount ip =
        (right.advance gap).manager.banCount ip :=
      congrArg SessionManager.Books.banCount reached.books
    change ((left.advance gap).manager.registerAuthFailure ip (left.advance gap).now).1.books ip =
      ((right.advance gap).manager.registerAuthFailure ip (right.advance gap).now).1.books ip
    by_cases full : Config.authFailThreshold ≤
        ((left.advance gap).manager.authFailures ip).getD 0 + 1
    · rw [(SessionManager.registerAuthFailure_bans _ full).2,
        (SessionManager.registerAuthFailure_bans _ (failures ▸ full)).2, bans, reached.now]
    · have below := not_le.mp full
      rw [(SessionManager.registerAuthFailure_below _ below).2,
        (SessionManager.registerAuthFailure_below _ (failures ▸ below)).2, reached.books, failures]

end SameFor

/-! ## Calls for another address -/

section Strangers

variable {ip other : Ip} (stranger : ip ≠ other) (world : World) (gap : Gap)

include stranger

theorem checkIp_sameFor : SameFor ip (world.checkIp gap other).2 (world.advance gap) :=
  ⟨rfl, by simp [World.checkIp], SessionManager.isIpBlocked_books_of_ne _ _ stranger⟩

theorem succeed_sameFor : SameFor ip (world.succeed gap other) (world.advance gap) :=
  ⟨rfl, rfl, SessionManager.registerAuthSuccess_books_of_ne _ stranger⟩

theorem fail_sameFor : SameFor ip (world.fail gap other) (world.advance gap) :=
  ⟨rfl, by simp [World.fail, World.record],
    SessionManager.registerAuthFailure_books_of_ne _ _ stranger⟩

end Strangers

theorem SameFor.trans {ip : Ip} {first second third : World} (left : SameFor ip first second)
    (right : SameFor ip second third) : SameFor ip first third :=
  ⟨left.now.trans right.now, left.pins.trans right.pins, left.books.trans right.books⟩

/-! ## One call of the handler -/

/-- The session and its history are the same. -/
def SameSession (left right : Context) : Prop :=
  left.session = right.session ∧ left.trace = right.trace

theorem acceptPin_sameSession {frame : AuthFrame} {left right : Context}
    (same : SameSession left right) (pin : Bytes) :
    SameSession (acceptPin frame pin left) (acceptPin frame pin right) := by
  obtain ⟨session, trace⟩ := same
  simp [SameSession, acceptPin, Context.sendResponse, Context.emit, session, trace]

theorem refusePin_sameSession {frame : AuthFrame} {left right : Context}
    (same : SameSession left right) :
    SameSession (refusePin frame left) (refusePin frame right) := by
  obtain ⟨session, trace⟩ := same
  by_cases last : Config.authAttemptsPerConnection ≤ right.session.authAttempts + 1
  · simp [SameSession, refusePin, Context.sendResponse, Context.emit, Context.abort, session,
      trace, last]
  · simp [SameSession, refusePin, Context.sendResponse, Context.emit, session, trace, last]

/-- A call answers its own address alike in worlds that the address cannot tell apart. -/
theorem handleAuth_sameFor (frame : AuthFrame) {context : Context} {other : World}
    (line : Bytes) (same : SameFor context.session.remoteIp context.world other) :
    SameSession (handleAuth frame line context)
        (handleAuth frame line { context with world := other }) ∧
      SameFor context.session.remoteIp (Doorway.worldAfter frame line context)
        (Doorway.worldAfter frame line { context with world := other }) := by
  obtain ⟨sameCheck, checked⟩ := same.checkIp frame.check
  unfold Doorway.worldAfter
  cases blocked : (context.world.checkIp frame.check context.session.remoteIp).1 with
  | true =>
      have otherBlocked : (other.checkIp frame.check context.session.remoteIp).1 = true :=
        sameCheck ▸ blocked
      rw [handleAuth_of_blocked blocked, handleAuth_of_blocked otherBlocked, if_pos rfl,
        if_pos otherBlocked]
      exact ⟨⟨rfl, rfl⟩, (checked.advance frame.guess).advance frame.register⟩
  | false =>
      have otherFree : (other.checkIp frame.check context.session.remoteIp).1 = false :=
        sameCheck ▸ blocked
      obtain ⟨sameGuess, guessed⟩ := checked.guess frame.guess (normalisePin line)
      have looks : SameSession (lookedUp frame line context)
          (lookedUp frame line { context with world := other }) := by
        refine ⟨rfl, ?_⟩
        simp [lookedUp, Context.emit, (checked.advance frame.guess).pins]
      rw [handleAuth_of_free blocked, handleAuth_of_free otherFree, if_neg Bool.false_ne_true,
        if_neg (Bool.eq_false_iff.mp otherFree)]
      cases valid : ((context.world.checkIp frame.check context.session.remoteIp).2.guess
          frame.guess context.session.remoteIp (normalisePin line)).1 with
      | true =>
          rw [if_pos rfl, if_pos (sameGuess ▸ valid)]
          exact ⟨acceptPin_sameSession looks _, guessed.succeed frame.register⟩
      | false =>
          rw [if_neg Bool.false_ne_true, if_neg (Bool.eq_false_iff.mp (sameGuess ▸ valid))]
          refine ⟨refusePin_sameSession looks, ?_⟩
          rw [refusePin_world, refusePin_world]
          exact guessed.fail frame.register

/-- To any other address, a call is nothing but passing time. -/
theorem worldAfter_stranger {frame : AuthFrame} {context : Context} {ip : Ip} (line : Bytes)
    (stranger : ip ≠ context.session.remoteIp) :
    SameFor ip (Doorway.worldAfter frame line context)
      (Doorway.pass context.world frame.check frame.guess frame.register) := by
  have checked := checkIp_sameFor stranger context.world frame.check
  unfold Doorway.worldAfter
  cases blocked : (context.world.checkIp frame.check context.session.remoteIp).1 with
  | true =>
      rw [handleAuth_of_blocked blocked, if_pos rfl]
      exact (checked.advance frame.guess).advance frame.register
  | false =>
      have guessed : SameFor ip (lookedUp frame line context).world
          ((context.world.advance frame.check).advance frame.guess) := by
        have reached := checked.advance frame.guess
        exact ⟨reached.now, reached.pins, reached.books⟩
      rw [handleAuth_of_free blocked, if_neg Bool.false_ne_true]
      split
      · exact (succeed_sameFor stranger _ _).trans (guessed.advance frame.register)
      · rw [refusePin_world]
        exact (fail_sameFor stranger _ _).trans (guessed.advance frame.register)

/-! ## Whole runs -/

theorem handleAuth_remoteIp (frame : AuthFrame) (line : Bytes) (context : Context) :
    (handleAuth frame line context).session.remoteIp = context.session.remoteIp := by
  cases handleAuth_step frame line context with
  | blocked isBlocked world session sent trace => rw [session]
  | accepted unblocked guessed isFree isValid world session member sent trace => rw [session]
  | refused unblocked guessed isFree isWrong world closed closes session window sent trace =>
      rw [session]

/-- What an address sees of a run. -/
structure SameView (ips : Nat → Ip) (ip : Ip) (left right : Doorway) : Prop where
  world : SameFor ip left.world right.world
  leftIps : ∀ conn, (left.sessions conn).remoteIp = ips conn
  rightIps : ∀ conn, (right.sessions conn).remoteIp = ips conn
  sessions : ∀ conn, ips conn = ip → left.sessions conn = right.sessions conn
  traces : ∀ conn, ips conn = ip → left.traces conn = right.traces conn

variable {ips : Nat → Ip} {ip : Ip} {left right : Doorway}

theorem Doorway.call_ips {doorway : Doorway}
    (own : ∀ conn, (doorway.sessions conn).remoteIp = ips conn) (conn : Nat) (frame : AuthFrame)
    (line : Bytes) (other : Nat) :
    ((doorway.call conn frame line).sessions other).remoteIp = ips other := by
  by_cases same : other = conn
  · subst same
    simp only [Doorway.call, Function.update_self]
    exact (handleAuth_remoteIp _ _ _).trans (own other)
  · simp only [Doorway.call, Function.update_of_ne same]
    exact own other

/-- A line of the address itself. -/
theorem SameView.call (same : SameView ips ip left right) {conn : Nat} (own : ips conn = ip)
    (frame : AuthFrame) (line : Bytes) :
    SameView ips ip (left.call conn frame line) (right.call conn frame line) := by
  have rightContext : right.context conn = { left.context conn with world := right.world } := by
    simp only [Doorway.context, same.sessions conn own, same.traces conn own]
  have address : (left.context conn).session.remoteIp = ip := (same.leftIps conn).trans own
  have worlds : SameFor (left.context conn).session.remoteIp
      (left.context conn).world right.world :=
    address ▸ same.world
  obtain ⟨⟨session, trace⟩, after⟩ := handleAuth_sameFor frame line worlds
  rw [← rightContext] at session trace after
  refine ⟨address ▸ after, Doorway.call_ips same.leftIps conn frame line,
    Doorway.call_ips same.rightIps conn frame line, ?_, ?_⟩
  · intro other mine
    by_cases sameConn : other = conn
    · subst sameConn
      simpa [Doorway.call] using session
    · simpa [Doorway.call, sameConn] using same.sessions other mine
  · intro other mine
    by_cases sameConn : other = conn
    · subst sameConn
      simpa [Doorway.call] using trace
    · simpa [Doorway.call, sameConn] using same.traces other mine

theorem SameView.pass (same : SameView ips ip left right) (check guess register : Gap) :
    SameView ips ip { left with world := Doorway.pass left.world check guess register }
      { right with world := Doorway.pass right.world check guess register } :=
  ⟨same.world.pass check guess register, same.leftIps, same.rightIps, same.sessions, same.traces⟩

/-- A line of another address, and its time alone. -/
theorem SameView.stranger (same : SameView ips ip left right) {conn : Nat} (other : ips conn ≠ ip)
    (frame : AuthFrame) (line : Bytes) :
    SameView ips ip (left.call conn frame line)
      { right with world := Doorway.pass right.world frame.check frame.guess frame.register } := by
  have stranger : ip ≠ (left.context conn).session.remoteIp := by
    intro mine
    exact other ((same.leftIps conn).symm.trans mine.symm)
  have passed := same.world.pass frame.check frame.guess frame.register
  refine ⟨(worldAfter_stranger line stranger).trans passed,
    Doorway.call_ips same.leftIps conn frame line, same.rightIps, ?_, ?_⟩
  · intro third mine
    have different : third ≠ conn := fun same => other (same ▸ mine)
    simpa [Doorway.call, different] using same.sessions third mine
  · intro third mine
    have different : third ≠ conn := fun same => other (same ▸ mine)
    simpa [Doorway.call, different] using same.traces third mine

theorem sameView_unwinds (ips : Nat → Ip) (ip : Ip) :
    Unwinding.Unwinds Doorway.step (AuthInput.concerns ips ip) AuthInput.silent
      (SameView ips ip) := by
  constructor
  · intro left right input concerns same
    cases input with
    | pause check guess register => exact same.pass check guess register
    | line conn frame line =>
        have own : ips conn = ip := by simpa [AuthInput.concerns] using concerns
        simp only [Doorway.step, ← same.sessions conn own]
        split
        · exact same.call own frame line
        · exact same.pass _ _ _
  · intro left right input foreign same
    cases input with
    | pause check guess register => cases foreign
    | line conn frame line =>
        have other : ips conn ≠ ip := by simpa [AuthInput.concerns] using foreign
        simp only [Doorway.step, AuthInput.silent]
        split
        · exact same.stranger other frame line
        · exact same.pass _ _ _

/-- Without the lines of the other addresses, every session of an address ends up as it is, with the
same replies behind it, and the session manager keeps the same entries about the address. -/
theorem authentication_isolated (world : World) (ssl : Nat → Bool) (ips : Nat → Ip)
    (inputs : List AuthInput) (ip : Ip) :
    let run := Doorway.run world ssl ips inputs
    let alone := Doorway.run world ssl ips (AuthInput.only ips ip inputs)
    (∀ conn, ips conn = ip →
        alone.sessions conn = run.sessions conn ∧ alone.traces conn = run.traces conn) ∧
      alone.world.manager.authFailures ip = run.world.manager.authFailures ip ∧
      alone.world.manager.blockedUntil ip = run.world.manager.blockedUntil ip ∧
      alone.world.manager.banCount ip = run.world.manager.banCount ip := by
  intro run alone
  have start : SameView ips ip (Doorway.start world ssl ips) (Doorway.start world ssl ips) :=
    ⟨⟨rfl, rfl, rfl⟩, fun _ => rfl, fun _ => rfl, fun _ _ => rfl, fun _ _ => rfl⟩
  have same : SameView ips ip run alone := (sameView_unwinds ips ip).run inputs start
  have books := same.world.books
  refine ⟨?_, ?_, ?_, ?_⟩
  · intro conn own
    exact ⟨(same.sessions conn own).symm, (same.traces conn own).symm⟩
  · exact (congrArg SessionManager.Books.authFailures books).symm
  · exact (congrArg SessionManager.Books.blockedUntil books).symm
  · exact (congrArg SessionManager.Books.banCount books).symm

end TitanShare
