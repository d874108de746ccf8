import TitanShare.HandleAuth
import TitanShare.HandleHeader

/-!
# What the handlers do not look at

The request handlers read neither the clock nor the session manager nor the transfer status file,
and the authentication handler does not notice the clock as long as no ban runs out.  Contexts that
agree in everything else are alike, and stay alike under the same request or PIN line.
-/

namespace TitanShare

/-- A world without a clock, without bookkeeping of addresses and without a status file. -/
def World.plain (world : World) : World :=
  { world with manager := .initial, now := 0, authLog := [], transfer := ⟨.absent, []⟩ }

theorem World.plain_eq_iff {left right : World} :
    left.plain = right.plain ↔ left.files = right.files ∧
      left.receivedDir = right.receivedDir ∧ left.sendDir = right.sendDir := by
  simp [World.plain]

namespace Context

/-- What request handlers see of a context. -/
def plain (context : Context) : Context :=
  { context with world := context.world.plain }

end Context

/-! ## Request handlers -/

/-- A handler whose result, as far as handlers see it, depends on what handlers see. -/
def Blind (handler : Context → Outcome Exception Context) : Prop :=
  ∀ context, (handler context).map Context.plain = (handler context.plain).map Context.plain

theorem Blind.alike {handler : Context → Outcome Exception Context} (blind : Blind handler)
    {left right : Context} (same : left.plain = right.plain) :
    (handler left).map Context.plain = (handler right).map Context.plain := by
  rw [blind left, blind right, same]

theorem Blind.andThen {first second : Context → Outcome Exception Context} (blind : Blind first)
    (next : Blind second) : Blind fun context => (first context).andThen second := by
  intro context
  have same := blind context
  cases left : first context with
  | threw exception state =>
      cases right : first context.plain with
      | threw other last => simpa [left, right, Outcome.map] using same
      | returned last => simp [left, right, Outcome.map] at same
  | returned state =>
      cases right : first context.plain with
      | threw other last => simp [left, right, Outcome.map] at same
      | returned last =>
          have alike : state.plain = last.plain := by
            simpa [left, right, Outcome.map] using same
          simp only [left, right, Outcome.returned_andThen]
          exact next.alike alike

theorem publishTransferState_blind (env : PublishEnv) (state : TransferState) :
    Blind (publishTransferState env state) := by
  intro context
  unfold publishTransferState
  split
  · rfl
  · split
    · rfl
    · split <;> rfl

theorem pushFileList_blind (frame : HeaderFrame) : Blind (pushFileList frame) := by
  intro context
  unfold pushFileList
  cases frame.listing.dump with
  | error exception => rfl
  | ok listing => rfl

theorem streamFile_blind (finish : PublishEnv) (name : Bytes) (size : Nat)
    (chunks : List ChunkEnv) (sent : Nat) (good : Bool) :
    Blind (streamFile finish name size chunks sent good) := by
  induction chunks generalizing sent good with
  | nil => exact publishTransferState_blind _ _
  | cons chunk rest ih =>
      intro context
      simp only [streamFile]
      split
      · exact publishTransferState_blind _ _ context
      · split
        · exact publishTransferState_blind _ _ (context.emit _)
        · let total := sent + (chunk.delivers good (min Config.pushChunk (size - sent))).length
          let progress (written : Context) : Outcome Exception Context :=
            if chunk.due = true ∨ total = size then
              publishTransferState chunk.publish ⟨true, true, name, total, size⟩ written
            else .returned written
          have blind : Blind progress := by
            intro written
            simp only [progress]
            split
            · exact publishTransferState_blind _ _ written
            · rfl
          exact blind.andThen (ih _ _) (context.emit _)

theorem pushFile_blind (frame : HeaderFrame) (filename : Bytes) :
    Blind (pushFile frame filename) := by
  intro context
  unfold pushFile
  cases frame.push.found with
  | error exception => rfl
  | ok found =>
      cases found with
      | false => rfl
      | true =>
          cases frame.push.regular with
          | error exception => rfl
          | ok regular =>
              cases regular with
              | false => rfl
              | true =>
                  cases frame.push.fileSize with
                  | error exception => rfl
                  | ok size =>
                      simp only
                      split
                      · rfl
                      · split
                        · rfl
                        · exact streamFile_blind _ _ _ _ _ _ (Context.sendResponse _ _ _)

theorem fileStart_blind (frame : HeaderFrame) (line : Bytes) : Blind (fileStart frame line) := by
  intro context
  unfold fileStart
  split
  · rfl
  · split
    · rfl
    · simp only
      split
      · rfl
      · split
        · rfl
        · split
          · rfl
          · split
            · rfl
            · split <;> rfl

theorem runCommand_blind (frame : HeaderFrame) (cmd : Bytes) : Blind (runCommand frame cmd) := by
  intro context
  simp only [runCommand]
  cases (CommandDispatcher.dispatch frame.command cmd).reply with
  | error exception => rfl
  | ok response =>
      by_cases empty : response = []
      · simp only [empty, if_true]
        rfl
      · simp only [empty, if_false]
        rfl

/-- A request line is handled alike in contexts that are alike. -/
theorem handleHeader_blind (frame : HeaderFrame) (line : Bytes) :
    Blind (handleHeader frame line) := by
  intro context
  unfold handleHeader
  split
  · simp only
    split
    · exact pushFileList_blind frame context
    · split
      · exact pushFile_blind frame _ context
      · exact runCommand_blind frame _ context
  · split
    · exact fileStart_blind frame line context
    · rfl

/-! ## Replies that are sent -/

theorem transmit_nil (ssl : Bool) (bytes : Bytes) : Transport.transmit ssl [] bytes = bytes := by
  cases ssl <;> rfl

section Sends

variable {sends : List SendResult}
  (complete : ∀ ssl bytes, Transport.transmit ssl sends bytes = bytes)

include complete

theorem sendResponse_complete (context : Context) (reply : Reply) :
    context.sendResponse sends reply = context.sendResponse [] reply := by
  simp [Context.sendResponse, complete, transmit_nil]

end Sends

/-- The same surroundings, in which everything is sent at once. -/
def HeaderFrame.still (frame : HeaderFrame) : HeaderFrame :=
  { frame with sends := [] }

/-- How a reply is sent does not matter as long as all of it is. -/
theorem handleHeader_still {frame : HeaderFrame}
    (complete : ∀ ssl bytes, Transport.transmit ssl frame.sends bytes = bytes) (line : Bytes)
    (context : Context) : handleHeader frame line context =
      handleHeader frame.still line context := by
  have takes : ∀ ssl name size, frame.takes ssl name size = frame.still.takes ssl name size := by
    intro ssl name size
    rw [Bool.eq_iff_iff, HeaderFrame.takes_iff, HeaderFrame.takes_iff]
    exact iff_of_true (complete _ _) (transmit_nil _ _)
  simp only [handleHeader, pushFileList, pushFile, runCommand, fileStart,
    Context.beginUpload, takes, HeaderFrame.still, sendResponse_complete complete]
  rfl

/-! ## Authentication under another clock -/

/-- The same surroundings in which no time passes and everything is sent. -/
def AuthFrame.still (frame : AuthFrame) : AuthFrame where
  check := ⟨0, frame.check.rotations⟩
  guess := ⟨0, frame.guess.rotations⟩
  register := ⟨0, frame.register.rotations⟩
  sends := []

namespace World

/-- The time that passes before a check of an address does not change the answer. -/
def Steady (world : World) (gap : Gap) (ip : Ip) : Prop :=
  (world.checkIp gap ip).1 = (world.checkIp ⟨0, gap.rotations⟩ ip).1

instance (world : World) (gap : Gap) (ip : Ip) : Decidable (world.Steady gap ip) :=
  inferInstanceAs (Decidable (_ = _))

variable {world : World} {gap : Gap} {ip : Ip}

/-- A ban that is in force when the check begins. -/
theorem checkIp_iff : (world.checkIp gap ip).1 = true ↔
    ∃ expiry, (world.manager.books ip).blockedUntil = some expiry ∧
      world.now + gap.elapsed < expiry := by
  rw [← world.advance_books gap ip]
  obtain ⟨free, same⟩ | ⟨expiry, ban, ⟨late, forgets⟩ | ⟨early, same⟩⟩ :=
    (world.advance gap).manager.isIpBlocked_cases ip (world.advance gap).now
  · simp [checkIp, same, SessionManager.books, free]
  · simp only [checkIp, forgets, SessionManager.books, ban, Bool.false_eq_true, Option.some.injEq,
      exists_eq_left', false_iff, not_lt]
    exact late
  · simp only [checkIp, same, SessionManager.books, ban, Option.some.injEq,
      exists_eq_left', true_iff]
    exact early

/-- No ban runs out in a steady gap. -/
theorem Steady.lasts {expiry : Nat} (steady : world.Steady gap ip)
    (ban : (world.manager.books ip).blockedUntil = some expiry) (inForce : world.now < expiry) :
    world.now + gap.elapsed < expiry := by
  have blocked : (world.checkIp ⟨0, gap.rotations⟩ ip).1 = true :=
    checkIp_iff.mpr ⟨expiry, ban, inForce⟩
  obtain ⟨other, same, early⟩ := checkIp_iff.mp (Eq.trans steady blocked)
  obtain rfl := Option.some.inj (ban.symm.trans same)
  exact early

/-- An address without a ban may take its time. -/
theorem steady_of_free (gap : Gap) (free : (world.manager.books ip).blockedUntil = none) :
    world.Steady gap ip := by
  have unblocked : ∀ other : Gap, (world.checkIp other ip).1 = false := by
    intro other
    rw [Bool.eq_false_iff, ne_eq, checkIp_iff]
    simp [free]
  exact (unblocked gap).trans (unblocked _).symm

end World

/-- Two worlds that treat an address alike, although only the clock of the first one runs: an
expired ban is expired in both, and a ban in force is in force in both. -/
structure Peers (ip : Ip) (running standing : World) : Prop where
  pins : running.manager.recentPins = standing.manager.recentPins
  failures : (running.manager.books ip).authFailures = (standing.manager.books ip).authFailures
  blocked :
    ((running.manager.books ip).blockedUntil = none ∧
        (standing.manager.books ip).blockedUntil = none) ∨
      ∃ expiry other, (running.manager.books ip).blockedUntil = some expiry ∧
        (standing.manager.books ip).blockedUntil = some other ∧
          (expiry ≤ running.now ∧ other ≤ standing.now ∨ running.now < expiry ∧
            standing.now < other)

theorem Peers.refl (ip : Ip) (world : World) : Peers ip world world := by
  refine ⟨rfl, rfl, ?_⟩
  cases (world.manager.books ip).blockedUntil with
  | none => exact .inl ⟨rfl, rfl⟩
  | some expiry =>
      refine .inr ⟨expiry, expiry, rfl, rfl, ?_⟩
      rcases Nat.lt_or_ge world.now expiry with inForce | expired
      · exact .inr ⟨inForce, inForce⟩
      · exact .inl ⟨expired, expired⟩

namespace Peers

section Checks

variable {ip : Ip} {running standing : World} {gap : Gap} (peers : Peers ip running standing)
  (steady : running.Steady gap ip)

include peers steady

theorem advance : Peers ip (running.advance gap) (standing.advance ⟨0, gap.rotations⟩) := by
  have later := running.advance_now gap
  refine ⟨World.advance_pins peers.pins rfl, ?_, ?_⟩
  · simpa using peers.failures
  · simp only [World.advance_books]
    rcases peers.blocked with free | ⟨expiry, other, left, right, expired | inForce⟩
    · exact .inl free
    · exact .inr ⟨expiry, other, left, right, .inl ⟨expired.1.trans later, expired.2⟩⟩
    · exact .inr ⟨expiry, other, left, right, .inr ⟨steady.lasts left inForce.1, inForce.2⟩⟩

theorem checkIp :
    (running.checkIp gap ip).1 = (standing.checkIp ⟨0, gap.rotations⟩ ip).1 ∧
      Peers ip (running.checkIp gap ip).2 (standing.checkIp ⟨0, gap.rotations⟩ ip).2 := by
  have reached := peers.advance steady
  rcases reached.blocked with ⟨left, right⟩ | ⟨expiry, other, left, right, expired | inForce⟩
  · have leftFree : (running.advance gap).manager.blockedUntil ip = none := left
    have rightFree : (standing.advance ⟨0, gap.rotations⟩).manager.blockedUntil ip = none := right
    simp only [World.checkIp, SessionManager.isIpBlocked, leftFree, rightFree, true_and]
    exact reached
  · have leftBan : (running.advance gap).manager.blockedUntil ip = some expiry := left
    have rightBan : (standing.advance ⟨0, gap.rotations⟩).manager.blockedUntil ip = some other :=
      right
    simp only [World.checkIp, SessionManager.isIpBlocked, leftBan, rightBan, expired, if_true,
      true_and]
    refine ⟨reached.pins, ?_, .inl ⟨?_, ?_⟩⟩
    all_goals simp [SessionManager.books]
  · have leftBan : (running.advance gap).manager.blockedUntil ip = some expiry := left
    have rightBan : (standing.advance ⟨0, gap.rotations⟩).manager.blockedUntil ip = some other :=
      right
    simp only [World.checkIp, SessionManager.isIpBlocked, leftBan, rightBan, not_le.mpr inForce.1,
      not_le.mpr inForce.2, if_false, true_and]
    exact reached

end Checks

section Free

variable {ip : Ip} {running standing : World} {gap : Gap} (peers : Peers ip running standing)
  (free : (running.manager.books ip).blockedUntil = none)

include peers free

/-- Forgetting an address in both worlds. -/
theorem succeed : Peers ip (running.succeed gap ip) (standing.succeed ⟨0, gap.rotations⟩ ip) := by
  have reached := peers.advance (World.steady_of_free gap free)
  refine ⟨reached.pins, ?_, .inl ⟨?_, ?_⟩⟩
  all_goals simp [World.succeed]

theorem guess (pin : Bytes) :
    (running.guess gap ip pin).1 = (standing.guess ⟨0, gap.rotations⟩ ip pin).1 ∧
      Peers ip (running.guess gap ip pin).2 (standing.guess ⟨0, gap.rotations⟩ ip pin).2 := by
  have reached := peers.advance (World.steady_of_free gap free)
  refine ⟨?_, reached.pins, reached.failures, reached.blocked⟩
  simp only [World.guess, SessionManager.validateKey, reached.pins]

theorem fail : Peers ip (running.fail gap ip) (standing.fail ⟨0, gap.rotations⟩ ip) := by
  have reached := peers.advance (World.steady_of_free gap free)
  have pins : ∀ (manager : SessionManager) now,
      (manager.registerAuthFailure ip now).1.recentPins = manager.recentPins := by
    intro manager now
    simp only [SessionManager.registerAuthFailure]
    split <;> rfl
  have samePins : (running.fail gap ip).manager.recentPins =
      (standing.fail ⟨0, gap.rotations⟩ ip).manager.recentPins :=
    (pins _ _).trans (reached.pins.trans (pins _ _).symm)
  have failures : (running.advance gap).manager.authFailures ip =
      (standing.advance ⟨0, gap.rotations⟩).manager.authFailures ip := reached.failures
  by_cases full : Config.authFailThreshold ≤
      ((running.advance gap).manager.authFailures ip).getD 0 + 1
  · have left := (SessionManager.registerAuthFailure_bans (running.advance gap).now full).2
    have right := (SessionManager.registerAuthFailure_bans
      (standing.advance ⟨0, gap.rotations⟩).now (failures ▸ full)).2
    have later : ∀ now bans : Nat,
        now < now + SessionManager.banSecs bans * Config.nanosPerSec := by
      intro now bans
      refine Nat.lt_add_of_pos_right (Nat.mul_pos ?_ (by decide))
      exact Nat.lt_of_lt_of_le (by decide) (SessionManager.le_banSecs _)
    refine ⟨samePins, ?_, .inr ⟨_, _, congrArg SessionManager.Books.blockedUntil left,
      congrArg SessionManager.Books.blockedUntil right, .inr ⟨later _ _, later _ _⟩⟩⟩
    exact (congrArg SessionManager.Books.authFailures left).trans
      (congrArg SessionManager.Books.authFailures right).symm
  · have below := not_le.mp full
    have left := (SessionManager.registerAuthFailure_below (running.advance gap).now below).2
    have right := (SessionManager.registerAuthFailure_below
      (standing.advance ⟨0, gap.rotations⟩).now (failures ▸ below)).2
    refine ⟨samePins, ?_, ?_⟩
    · refine (congrArg SessionManager.Books.authFailures left).trans
        (Eq.trans ?_ (congrArg SessionManager.Books.authFailures right).symm)
      rw [failures]
    · have leftBan := congrArg SessionManager.Books.blockedUntil left
      have rightBan := congrArg SessionManager.Books.blockedUntil right
      rcases reached.blocked with ⟨one, two⟩ | ⟨expiry, other, one, two, state⟩
      · exact .inl ⟨leftBan.trans one, rightBan.trans two⟩
      · exact .inr ⟨expiry, other, leftBan.trans one, rightBan.trans two, state⟩

end Free

end Peers

namespace World

variable (world : World) (gap : Gap) (ip : Ip)

@[simp]
theorem checkIp_plain : (world.checkIp gap ip).2.plain = world.plain := rfl

@[simp]
theorem guess_plain (pin : Bytes) : (world.guess gap ip pin).2.plain = world.plain := rfl

@[simp]
theorem succeed_plain : (world.succeed gap ip).plain = world.plain := rfl

@[simp]
theorem fail_plain : (world.fail gap ip).plain = world.plain := rfl

end World

section Branches

variable {frame : AuthFrame} {context : Context} {line : Bytes}

theorem handleAuth_of_blocked
    (blocked : (context.world.checkIp frame.check context.session.remoteIp).1 = true) :
    handleAuth frame line context =
      (({ context.emit [.authLine line, .blockCheck true] with
          world := (context.world.checkIp frame.check context.session.remoteIp).2 } :
        Context).sendResponse frame.sends .authBlocked).abort := by
  simp only [handleAuth, blocked, if_true]

/-- The context in which the PIN of an unblocked address has been looked up. -/
def lookedUp (frame : AuthFrame) (line : Bytes) (context : Context) : Context :=
  let free := (context.world.checkIp frame.check context.session.remoteIp).2
  { context.emit [.authLine line, .blockCheck false,
      .keyCheck (normalisePin line) (free.advance frame.guess).manager.recentPins] with
    world := (free.guess frame.guess context.session.remoteIp (normalisePin line)).2 }

theorem handleAuth_of_free
    (free : (context.world.checkIp frame.check context.session.remoteIp).1 = false) :
    handleAuth frame line context =
      if ((context.world.checkIp frame.check context.session.remoteIp).2.guess frame.guess
          context.session.remoteIp (normalisePin line)).1 = true
      then acceptPin frame (normalisePin line) (lookedUp frame line context)
      else refusePin frame (lookedUp frame line context) := by
  simp [handleAuth, free, lookedUp, Context.emit]

end Branches

section Verdicts

variable {frame : AuthFrame} {left right : Context} (alike : left.plain = right.plain)
  (sends : ∀ ssl bytes, Transport.transmit ssl frame.sends bytes = bytes)

include alike sends

theorem acceptPin_alike (pin : Bytes) :
    (acceptPin frame pin left).plain = (acceptPin frame.still pin right).plain := by
  obtain ⟨session, trace, world, consumed⟩ := (Context.mk.injEq _ _ _ _ _ _ _ _).mp alike
  simp [acceptPin, Context.plain, Context.sendResponse, Context.emit, AuthFrame.still, sends,
    transmit_nil, session, trace, world, consumed]

theorem refusePin_alike : (refusePin frame left).plain = (refusePin frame.still right).plain := by
  obtain ⟨session, trace, world, consumed⟩ := (Context.mk.injEq _ _ _ _ _ _ _ _).mp alike
  by_cases last : Config.authAttemptsPerConnection ≤ right.session.authAttempts + 1
  · simp [refusePin, Context.plain, Context.sendResponse, Context.emit, Context.abort,
      AuthFrame.still, sends, transmit_nil, session, trace, world, consumed, last]
  · simp [refusePin, Context.plain, Context.sendResponse, Context.emit, AuthFrame.still, sends,
      transmit_nil, session, trace, world, consumed, last]

end Verdicts

theorem refusePin_world (frame : AuthFrame) (context : Context) :
    (refusePin frame context).world =
      context.world.fail frame.register context.session.remoteIp := by
  simp only [refusePin]
  split <;> rfl

/-- A PIN line is answered alike, and the worlds stay peers. -/
theorem handleAuth_alike {frame : AuthFrame} {context : Context} {standing : World}
    (line : Bytes) (alike : context.world.plain = standing.plain)
    (peers : Peers context.session.remoteIp context.world standing)
    (steady : context.world.Steady frame.check context.session.remoteIp)
    (sends : ∀ ssl bytes, Transport.transmit ssl frame.sends bytes = bytes) :
    let running := handleAuth frame line context
    let other := handleAuth frame.still line { context with world := standing }
    running.plain = other.plain ∧ Peers context.session.remoteIp running.world other.world := by
  intro running other
  obtain ⟨sameCheck, checked⟩ := peers.checkIp steady
  cases blocked : (context.world.checkIp frame.check context.session.remoteIp).1 with
  | true =>
      have left : running = _ := handleAuth_of_blocked blocked
      have right : other = _ := handleAuth_of_blocked (sameCheck ▸ blocked)
      rw [left, right]
      refine ⟨?_, checked⟩
      simp [Context.plain, Context.abort, Context.sendResponse, Context.emit, sends,
        transmit_nil, alike, AuthFrame.still]
  | false =>
      have free := World.checkIp_free blocked
      have pins := (checked.advance (World.steady_of_free frame.guess free)).pins
      obtain ⟨sameGuess, guessed⟩ := checked.guess free (normalisePin line)
      have stillFree : ((lookedUp frame line context).world.manager.books
          context.session.remoteIp).blockedUntil = none := by
        refine Eq.trans (congrArg SessionManager.Books.blockedUntil ?_) free
        exact World.advance_books _ frame.guess _
      have left : running = _ := handleAuth_of_free blocked
      have right : other = _ := handleAuth_of_free (sameCheck ▸ blocked)
      have looks : (lookedUp frame line context).plain =
          (lookedUp frame.still line { context with world := standing }).plain := by
        simp [Context.plain, lookedUp, Context.emit, alike, AuthFrame.still, pins]
      rw [left, right]
      cases valid : ((context.world.checkIp frame.check context.session.remoteIp).2.guess
          frame.guess context.session.remoteIp (normalisePin line)).1 with
      | true =>
          rw [if_pos rfl, if_pos (sameGuess ▸ valid)]
          exact ⟨acceptPin_alike looks sends _, guessed.succeed stillFree⟩
      | false =>
          rw [if_neg Bool.false_ne_true, if_neg (Bool.eq_false_iff.mp (sameGuess ▸ valid))]
          refine ⟨refusePin_alike looks sends, ?_⟩
          rw [refusePin_world, refusePin_world]
          exact guessed.fail stillFree

end TitanShare
