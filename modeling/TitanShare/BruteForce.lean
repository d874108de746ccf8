import TitanShare.AuthGate
import TitanShare.Library.Pacing

/-!
# Brute-force protection

Bans and wrong PINs of one address over whole runs.  Every failure is registered right after
`isIpBlocked` let the address through, and letting it through forgets its earlier bans; so no ban
ever escalates, but five failures always end in a pause.
-/

namespace TitanShare

open ByteText Pacing

def AuthRecord.ip : AuthRecord → Ip
  | guess ip _ _ => ip
  | ban ip _ _ => ip

def AuthRecord.time : AuthRecord → Nat
  | guess _ time _ => time
  | ban _ time _ => time

/-- A wrong PIN of an address that reached `validateKey`. -/
def AuthRecord.isWrong (ip : Ip) : AuthRecord → Bool
  | guess source _ accepted => decide (source = ip) && !accepted
  | ban _ _ _ => false

/-- A ban of an address. -/
def AuthRecord.isBan (ip : Ip) : AuthRecord → Bool
  | guess _ _ _ => false
  | ban source _ _ => decide (source = ip)

/-- The shortest ban, in nanoseconds. -/
def banPause : Nat :=
  Config.authBanInitialSecs * Config.nanosPerSec

/-- The wrong PINs of an address since its last valid one, after one more record. -/
def note (ip : Ip) (times : List Nat) : AuthRecord → List Nat
  | .guess source time accepted =>
      if source = ip then if accepted = true then [] else times ++ [time] else times
  | .ban _ _ _ => times

/-- The moments of the wrong PINs of an address since its last valid one. -/
def trail (ip : Ip) (log : List AuthRecord) : List Nat :=
  log.foldl (note ip) []

theorem trail_append (ip : Ip) (log : List AuthRecord) (record : AuthRecord) :
    trail ip (log ++ [record]) = note ip (trail ip log) record := by
  simp [trail]

theorem note_of_ne {ip : Ip} {record : AuthRecord} (foreign : record.ip ≠ ip)
    (times : List Nat) : note ip times record = times := by
  cases record with
  | guess source time accepted =>
      have other : source ≠ ip := foreign
      simp [note, other]
  | ban source time secs => rfl

/-! ## The log -/

/-- What the log of authentication says about one address. -/
structure Logged (ip : Ip) (world : World) : Prop where
  past : ∀ record ∈ world.authLog, record.time ≤ world.now
  ordered : world.authLog.Pairwise fun earlier later => earlier.time ≤ later.time
  batched : ∀ earlier, earlier <+: world.authLog →
    Batched Config.authFailThreshold banPause (trail ip earlier)
  bans : ∀ time secs, .ban ip time secs ∈ world.authLog → secs = Config.authBanInitialSecs

/-- What the session manager remembers of one address, against the log. -/
structure Tallied (ip : Ip) (world : World) : Prop where
  failures : (world.manager.books ip).authFailures.getD 0 =
    (trail ip world.authLog).length % Config.authFailThreshold
  rested : (trail ip world.authLog).length % Config.authFailThreshold = 0 →
    ∀ last, (trail ip world.authLog).getLast? = some last →
      last + banPause ≤ world.now ∨
        ∃ expiry, (world.manager.books ip).blockedUntil = some expiry ∧ last + banPause ≤ expiry
  calm : ∀ expiry, (world.manager.books ip).blockedUntil = some expiry →
    (trail ip world.authLog).length % Config.authFailThreshold = 0
  fresh : (world.manager.books ip).blockedUntil = none →
    (world.manager.books ip).banCount = none

structure Watched (ip : Ip) (world : World) : Prop where
  logged : Logged ip world
  tallied : Tallied ip world

variable {ip : Ip} {world : World}

/-- Time passes. -/
theorem Logged.later (logged : Logged ip world) {after : World} (now : world.now ≤ after.now)
    (authLog : after.authLog = world.authLog) : Logged ip after := by
  refine ⟨?_, ?_, ?_, ?_⟩
  · intro record member
    rw [authLog] at member
    exact (logged.past record member).trans now
  · rw [authLog]
    exact logged.ordered
  · rw [authLog]
    exact logged.batched
  · rw [authLog]
    exact logged.bans

/-- One more record. -/
theorem Logged.record (logged : Logged ip world) {record : AuthRecord}
    (now : record.time = world.now)
    (batched : Batched Config.authFailThreshold banPause (note ip (trail ip world.authLog) record))
    (bans : ∀ time secs, record = .ban ip time secs → secs = Config.authBanInitialSecs) :
    Logged ip (world.record [record]) := by
  refine ⟨?_, ?_, ?_, ?_⟩
  · intro other member
    rcases List.mem_append.mp member with old | new
    · exact logged.past other old
    · rw [List.mem_singleton.mp new]
      exact now.le
  · refine List.pairwise_append.mpr ⟨logged.ordered, List.pairwise_singleton _ _, ?_⟩
    intro old oldMember new newMember
    rw [List.mem_singleton.mp newMember, now]
    exact logged.past old oldMember
  · intro earlier before
    rcases List.prefix_concat_iff.mp before with rfl | within
    · rw [trail_append]
      exact batched
    · exact logged.batched earlier within
  · intro time secs member
    rcases List.mem_append.mp member with old | new
    · exact logged.bans time secs old
    · exact bans time secs (List.mem_singleton.mp new).symm

theorem Logged.whole (logged : Logged ip world) :
    Batched Config.authFailThreshold banPause (trail ip world.authLog) :=
  logged.batched _ (List.prefix_refl _)

/-- A record of another address. -/
theorem Logged.foreign (logged : Logged ip world) {record : AuthRecord}
    (now : record.time = world.now) (other : record.ip ≠ ip) :
    Logged ip (world.record [record]) := by
  refine logged.record now ?_ ?_
  · rw [note_of_ne other]
    exact logged.whole
  · rintro time secs rfl
    exact absurd rfl other

/-- Only the books, the clock and the trail of the address matter. -/
theorem Tallied.later (tallied : Tallied ip world) {after : World} (now : world.now ≤ after.now)
    (books : after.manager.books ip = world.manager.books ip)
    (same : trail ip after.authLog = trail ip world.authLog) : Tallied ip after := by
  refine ⟨?_, ?_, ?_, ?_⟩
  · rw [books, same]
    exact tallied.failures
  · rw [books, same]
    intro full last isLast
    rcases tallied.rested full last isLast with elapsed | banned
    · exact .inl (elapsed.trans now)
    · exact .inr banned
  · rw [books, same]
    exact tallied.calm
  · rw [books]
    exact tallied.fresh

/-! ## Calls into the session manager -/

theorem Watched.advance (watched : Watched ip world) (gap : Gap) :
    Watched ip (world.advance gap) where
  logged := watched.logged.later (world.advance_now gap) rfl
  tallied := watched.tallied.later (world.advance_now gap) (world.advance_books gap ip) rfl

/-- An expired ban leaves no failures behind. -/
theorem Tallied.forget (tallied : Tallied ip world) {after : World} {expiry : Nat}
    (blocked : (world.manager.books ip).blockedUntil = some expiry) (expired : expiry ≤ world.now)
    (now : after.now = world.now) (books : after.manager.books ip = ⟨none, none, none⟩)
    (authLog : after.authLog = world.authLog) : Tallied ip after := by
  have full := tallied.calm expiry blocked
  refine ⟨?_, ?_, ?_, ?_⟩
  · rw [books, authLog, full]
    rfl
  · rw [authLog, now]
    intro _ last isLast
    rcases tallied.rested full last isLast with elapsed | ⟨until_, same, waits⟩
    · exact .inl elapsed
    · rw [blocked, Option.some.injEq] at same
      exact .inl (by omega)
  · rw [books]
    intro _ impossible
    cases impossible
  · rw [books]
    exact fun _ => rfl

theorem Watched.checkIp (watched : Watched ip world) (gap : Gap) (source : Ip) :
    Watched ip (world.checkIp gap source).2 := by
  have reached := watched.advance gap
  refine ⟨reached.logged.later (le_refl _) rfl, ?_⟩
  by_cases own : ip = source
  · subst own
    obtain ⟨_, same⟩ | ⟨expiry, blocked, ⟨expired, forgets⟩ | ⟨_, same⟩⟩ :=
      (world.advance gap).manager.isIpBlocked_cases ip (world.advance gap).now
    · simp only [World.checkIp, same]
      exact reached.tallied
    · refine reached.tallied.forget blocked expired rfl ?_ rfl
      simp [World.checkIp, forgets]
    · simp only [World.checkIp, same]
      exact reached.tallied
  · refine reached.tallied.later (le_refl _) ?_ rfl
    exact SessionManager.isIpBlocked_books_of_ne _ _ own

/-! ## Guesses of other addresses -/

section Foreign

variable {source : Ip} (foreign : source ≠ ip)

include foreign

theorem Watched.guess_foreign (watched : Watched ip world) (gap : Gap) (pin : Bytes) :
    Watched ip (world.guess gap source pin).2 := by
  have reached := watched.advance gap
  refine ⟨reached.logged.foreign rfl foreign, ?_⟩
  refine reached.tallied.later (le_refl _) rfl ?_
  have other : (AuthRecord.guess source (world.advance gap).now
      ((world.advance gap).manager.validateKey pin)).ip ≠ ip := foreign
  exact (trail_append _ _ _).trans (note_of_ne other _)

theorem Watched.succeed_foreign (watched : Watched ip world) (gap : Gap) :
    Watched ip (world.succeed gap source) := by
  have reached := watched.advance gap
  refine ⟨reached.logged.later (le_refl _) rfl, reached.tallied.later (le_refl _) ?_ rfl⟩
  exact SessionManager.registerAuthSuccess_books_of_ne _ foreign.symm

theorem Watched.fail_foreign (watched : Watched ip world) (gap : Gap) :
    Watched ip (world.fail gap source) := by
  have reached := watched.advance gap
  have books := (world.advance gap).manager.registerAuthFailure_books_of_ne
    (world.advance gap).now foreign.symm
  cases banned :
      ((world.advance gap).manager.registerAuthFailure source (world.advance gap).now).2 with
  | none =>
      have log : (world.fail gap source).authLog = (world.advance gap).authLog := by
        simp [World.fail, World.record, banned]
      exact ⟨reached.logged.later (le_refl _) log,
        reached.tallied.later (le_refl _) books (by rw [log])⟩
  | some secs =>
      let ban : AuthRecord := .ban source (world.advance gap).now secs
      have log : (world.fail gap source).authLog = (world.advance gap).authLog ++ [ban] := by
        simp [World.fail, World.record, banned, ban]
      refine ⟨?_, reached.tallied.later (le_refl _) books ?_⟩
      · have recorded : Logged ip ((world.advance gap).record [ban]) :=
          reached.logged.foreign rfl foreign
        exact recorded.later (le_refl _) log
      · rw [log, trail_append]
        rfl

end Foreign

/-! ## Guesses of the address itself -/

/-- A valid PIN ends the trail and clears the books. -/
theorem Watched.accept (watched : Watched ip world) {guessed : World} {guess register : Gap}
    {pin : Bytes} (valid : world.guess guess ip pin = (true, guessed)) :
    Watched ip (guessed.succeed register ip) := by
  have reached := watched.advance guess
  have accepted : (world.advance guess).manager.validateKey pin = true := congrArg Prod.fst valid
  have log : guessed = (world.advance guess).record
      [.guess ip (world.advance guess).now true] := by
    have second := congrArg Prod.snd valid
    simpa [World.guess, accepted] using second.symm
  have empty : trail ip guessed.authLog = [] := by
    rw [log]
    exact (trail_append _ _ _).trans (by simp [note])
  have recorded : Logged ip guessed := by
    rw [log]
    refine reached.logged.record rfl ?_ (by simp)
    simpa [note] using batched_nil _ _
  have books : (guessed.succeed register ip).manager.books ip = ⟨none, none, none⟩ := by
    simp [World.succeed]
  refine ⟨recorded.later (guessed.advance_now register) rfl, ?_⟩
  have emptied : trail ip (guessed.succeed register ip).authLog = [] := empty
  refine ⟨?_, ?_, ?_, ?_⟩
  · rw [books, emptied]
    rfl
  · rw [emptied]
    intro _ last isLast
    cases isLast
  · rw [emptied]
    intro _ _
    rfl
  · rw [books]
    exact fun _ => rfl

/-- A wrong PIN of an address without a ban is in the log and not counted yet. -/
structure Owing (ip : Ip) (world : World) : Prop where
  logged : Logged ip world
  counted : ∃ earlier moment, trail ip world.authLog = earlier ++ [moment] ∧
    moment ≤ world.now ∧
    (world.manager.books ip).authFailures.getD 0 = earlier.length % Config.authFailThreshold
  isFree : (world.manager.books ip).blockedUntil = none
  fresh : (world.manager.books ip).banCount = none

theorem Owing.advance (owing : Owing ip world) (gap : Gap) : Owing ip (world.advance gap) := by
  obtain ⟨earlier, moment, longer, past, failures⟩ := owing.counted
  refine ⟨owing.logged.later (world.advance_now gap) rfl, ?_, ?_, ?_⟩
  · refine ⟨earlier, moment, longer, past.trans (world.advance_now gap), ?_⟩
    rw [World.advance_books]
    exact failures
  · rw [World.advance_books]
    exact owing.isFree
  · rw [World.advance_books]
    exact owing.fresh

/-- An address that was let through has waited if its last batch is full. -/
theorem Watched.guess_wrong (watched : Watched ip world) {guessed : World} {gap : Gap}
    {pin : Bytes} (wrong : world.guess gap ip pin = (false, guessed))
    (isFree : (world.manager.books ip).blockedUntil = none) : Owing ip guessed := by
  have reached := watched.advance gap
  have books := world.advance_books gap ip
  have refused : (world.advance gap).manager.validateKey pin = false := congrArg Prod.fst wrong
  have guessed_eq : guessed =
      (world.advance gap).record [.guess ip (world.advance gap).now false] := by
    have second := congrArg Prod.snd wrong
    simpa [World.guess, refused] using second.symm
  have longer : trail ip guessed.authLog =
      trail ip world.authLog ++ [(world.advance gap).now] := by
    rw [guessed_eq]
    exact (trail_append _ _ _).trans (by simp [note, World.advance])
  rw [guessed_eq] at longer ⊢
  refine ⟨?_, ⟨_, _, longer, le_refl _, ?_⟩, ?_, ?_⟩
  · refine reached.logged.record rfl ?_ (by simp)
    simp only [note, if_true, Bool.false_eq_true, if_false]
    refine reached.logged.whole.append ?_
    intro full last isLast
    rcases reached.tallied.rested full last isLast with elapsed | ⟨expiry, blocked, _⟩
    · exact elapsed
    · rw [books, isFree] at blocked
      cases blocked
  · exact reached.tallied.failures
  · exact books ▸ isFree
  · exact reached.tallied.fresh (books ▸ isFree)

/-- The failure is registered, and the fifth in a row is a ban of the initial duration. -/
theorem Owing.fail (owing : Owing ip world) (gap : Gap) : Watched ip (world.fail gap ip) := by
  have reached := owing.advance gap
  let now := (world.advance gap).now
  let manager := (world.advance gap).manager
  obtain ⟨earlier, moment, longer, past, failures⟩ := reached.counted
  have sameFailures : (manager.authFailures ip).getD 0 =
      earlier.length % Config.authFailThreshold := failures
  have noBans : (manager.banCount ip).getD 0 = 0 := by
    have fresh : manager.banCount ip = none := reached.fresh
    simp [fresh]
  have length : (trail ip (world.advance gap).authLog).length = earlier.length + 1 := by
    rw [longer]
    simp
  rcases Nat.lt_or_ge ((manager.authFailures ip).getD 0 + 1) Config.authFailThreshold
    with below | full
  · obtain ⟨nothing, books⟩ := SessionManager.registerAuthFailure_below now below
    have log : (world.fail gap ip).authLog = (world.advance gap).authLog := by
      simp [World.fail, World.record, nothing, manager, now]
    have after : (world.fail gap ip).manager.books ip =
        { manager.books ip with
          authFailures := some ((manager.authFailures ip).getD 0 + 1) } := books
    have open_batch : (trail ip (world.advance gap).authLog).length % Config.authFailThreshold =
        (manager.authFailures ip).getD 0 + 1 := by
      rw [length, sameFailures]
      rw [sameFailures] at below
      simp only [Config.authFailThreshold] at below ⊢
      omega
    refine ⟨reached.logged.later (le_refl _) log, ?_, ?_, ?_, ?_⟩
    · rw [log, after, open_batch]
      rfl
    · rw [log, open_batch]
      intro impossible
      cases impossible
    · rw [after]
      intro expiry blocked
      have isFree : (manager.books ip).blockedUntil = none := reached.isFree
      rw [isFree] at blocked
      cases blocked
    · rw [after]
      exact fun _ => reached.fresh
  · obtain ⟨banned, books⟩ := SessionManager.registerAuthFailure_bans now full
    rw [noBans] at banned books
    let ban : AuthRecord := .ban ip now Config.authBanInitialSecs
    have log : (world.fail gap ip).authLog = (world.advance gap).authLog ++ [ban] := by
      have recorded : (manager.registerAuthFailure ip now).2 =
          some Config.authBanInitialSecs := banned
      simp [World.fail, World.record, recorded, manager, now, ban]
    have after : ((world.fail gap ip).manager.books ip).blockedUntil = some (now + banPause) ∧
        ((world.fail gap ip).manager.books ip).authFailures = some 0 := by
      have same : (world.fail gap ip).manager.books ip = _ := books
      rw [same]
      exact ⟨rfl, rfl⟩
    have noted : trail ip (world.fail gap ip).authLog = trail ip (world.advance gap).authLog := by
      rw [log, trail_append]
      rfl
    have closed_batch : (trail ip (world.advance gap).authLog).length %
        Config.authFailThreshold = 0 := by
      rw [sameFailures] at full
      rw [length]
      simp only [Config.authFailThreshold] at full ⊢
      omega
    refine ⟨?_, ?_, ?_, ?_, ?_⟩
    · have recorded : Logged ip ((world.advance gap).record [ban]) := by
        refine reached.logged.record rfl reached.logged.whole ?_
        intro time secs same
        exact (AuthRecord.ban.inj same).2.2.symm
      exact recorded.later (le_refl _) log
    · rw [noted, closed_batch, after.2]
      rfl
    · rw [noted, after.1, longer]
      intro _ last isLast
      rw [List.getLast?_concat, Option.some.injEq] at isLast
      refine .inr ⟨_, rfl, ?_⟩
      rw [← isLast]
      exact Nat.add_le_add_right past _
    · rw [noted]
      exact fun _ _ => closed_batch
    · rw [after.1]
      intro impossible
      cases impossible

/-! ## Whole runs -/

/-- Every path through the authentication handler keeps the watch over every address. -/
theorem Watched.auth {before after : Context} {frame : AuthFrame} {line : Bytes}
    (watched : Watched ip before.world) (step : AuthStep frame line before after) :
    Watched ip after.world := by
  have checked := watched.checkIp frame.check before.session.remoteIp
  cases step with
  | blocked isBlocked world session sent trace =>
      rw [world]
      exact checked
  | accepted unblocked guessed isFree isValid world session member sent trace =>
      rw [world]
      rw [isFree] at checked
      by_cases own : before.session.remoteIp = ip
      · rw [own] at isValid ⊢
        exact checked.accept isValid
      · have tried := checked.guess_foreign own frame.guess (normalisePin line)
        rw [isValid] at tried
        exact tried.succeed_foreign own frame.register
  | refused unblocked guessed isFree isWrong world closed closes session window sent trace =>
      rw [world]
      rw [isFree] at checked
      by_cases own : before.session.remoteIp = ip
      · rw [own] at isFree isWrong ⊢
        have unbanned := World.checkIp_free (congrArg Prod.fst isFree)
        rw [isFree] at unbanned
        exact (checked.guess_wrong isWrong unbanned).fail frame.register
      · have tried := checked.guess_foreign own frame.guess (normalisePin line)
        rw [isWrong] at tried
        exact tried.fail_foreign own frame.register

theorem Watched.serves {before after : Context} (watched : Watched ip before.world)
    (serves : before.Serves after) : Watched ip after.world := by
  refine ⟨watched.logged.later serves.now.ge serves.authLog, ?_⟩
  refine watched.tallied.later serves.now.ge ?_ (by rw [serves.authLog])
  rw [serves.manager]

theorem watched_kept (ip : Ip) : Receiver.Kept fun receiver => Watched ip receiver.world :=
  @Receiver.kept_of_auth (fun context => Watched ip context.world) (fun _ watched => watched)
    (fun watched _ _ serves => watched.serves serves) (fun watched _ _ => watched)
    fun watched _ _ step => watched.auth step

theorem watched_of_run (ip : Ip) (startup : Startup) (inputs : List Input) :
    Watched ip (Daemon.run startup inputs).world := by
  refine Daemon.world_keeps startup (watched_kept ip) ?_ ?_ inputs
  · refine ⟨⟨?_, ?_, ?_, ?_⟩, ⟨?_, ?_, ?_, ?_⟩⟩
    · intro record impossible
      cases impossible
    · exact List.Pairwise.nil
    · intro earlier isPrefix
      rw [List.prefix_nil.mp isPrefix]
      exact batched_nil _ _
    · intro time secs impossible
      cases impossible
    · rfl
    · intro _ last impossible
      cases impossible
    · intro expiry impossible
      cases impossible
    · exact fun _ => rfl
  · intro world descriptor watched
    exact ⟨watched.logged.later (le_refl _) rfl,
      watched.tallied.later (le_refl _) rfl rfl⟩

/-! ## Bans do not escalate -/

/-- The number of bans of an address in a log. -/
def banned (ip : Ip) (log : List AuthRecord) : Nat :=
  (log.filter (AuthRecord.isBan ip)).length

/-- The duration of the ban an address receives after some earlier bans. -/
def escalated (earlier : Nat) : Nat :=
  min (Config.authBanInitialSecs * 2 ^ earlier) Config.authBanMaxSecs

/-- The bans of an address escalate. -/
def Escalates (ip : Ip) (log : List AuthRecord) : Prop :=
  ∀ before time secs after, log = before ++ .ban ip time secs :: after →
    secs = escalated (banned ip before)

/-- What `registerAuthFailure` would do if bans were remembered. -/
theorem banSecs_eq_escalated (nBans : Nat) : SessionManager.banSecs nBans = escalated nBans :=
  SessionManager.banSecs_eq nBans

theorem escalated_eq_initial_iff (earlier : Nat) :
    Config.authBanInitialSecs = escalated earlier ↔ earlier = 0 := by
  constructor
  · intro same
    by_contra later
    have doubled : 2 ≤ 2 ^ earlier := Nat.le_self_pow later 2
    simp only [escalated, Config.authBanInitialSecs, Config.authBanMaxSecs] at same
    omega
  · rintro rfl
    decide

/-- Every ban of every run lasts the initial duration, which is what the backoff promises for the
first ban of the address and for no other. -/
theorem ban_durations (startup : Startup) (inputs : List Input) (ip : Ip) (time secs : Nat)
    (before after : List AuthRecord)
    (split : (Daemon.run startup inputs).world.authLog = before ++ .ban ip time secs :: after) :
    secs = Config.authBanInitialSecs ∧
      (secs = escalated (banned ip before) ↔ banned ip before = 0) := by
  have initial : secs = Config.authBanInitialSecs := by
    refine (watched_of_run ip startup inputs).logged.bans time secs ?_
    rw [split]
    simp
  rw [initial]
  exact ⟨rfl, escalated_eq_initial_iff _⟩

/-- The surroundings of calls after an initial ban has expired. -/
def Env.afterBan : Env :=
  { Env.quiet with
    auth := fun _ =>
      { check := ⟨banPause, []⟩, guess := ⟨0, []⟩, register := ⟨0, []⟩, sends := [] } }

/-- Five wrong PINs from one address, and after the ban another five. -/
def tenFailures : List Input :=
  [.connect 0 false [1], .data 0 (ascii "a\na\na\n") .quiet,
    .connect 1 false [1], .data 1 (ascii "a\na\n") .quiet,
    .data 1 (ascii "a\n") .afterBan,
    .connect 2 false [1], .data 2 (ascii "a\na\na\n") .quiet,
    .connect 3 false [1], .data 3 (ascii "a\n") .quiet]

theorem ban_durations_first :
    ∃ time secs before after,
      (Daemon.run (.fresh (ascii "b")) tenFailures).world.authLog =
        before ++ .ban [1] time secs :: after ∧
      secs = escalated (banned [1] before) := by
  let log := (Daemon.run (.fresh (ascii "b")) tenFailures).world.authLog
  have split : log = log.take 5 ++ .ban [1] 0 30 :: log.drop 6 := by decide
  have durations := ban_durations (.fresh (ascii "b")) tenFailures [1] 0 30 _ _ split
  exact ⟨0, 30, _, _, split, durations.2.mpr (by decide)⟩

theorem bans_not_escalating :
    ¬ ∀ (startup : Startup) (inputs : List Input) (ip : Ip),
      (∀ time, .guess ip time true ∉ (Daemon.run startup inputs).world.authLog) →
        Escalates ip (Daemon.run startup inputs).world.authLog := by
  intro claim
  let log := (Daemon.run (.fresh (ascii "b")) tenFailures).world.authLog
  have noSuccess : ∀ time, .guess [1] time true ∉ log := by
    intro time member
    have all : ∀ record ∈ log, record.isWrong [1] || record.isBan [1] := by decide
    have wrong := all _ member
    simp [AuthRecord.isWrong, AuthRecord.isBan] at wrong
  have split : log = log.take 11 ++ .ban [1] banPause 30 :: log.drop 12 := by decide
  have second := claim (.fresh (ascii "b")) tenFailures [1] noSuccess _ _ _ _ split
  exact absurd second (by decide)

/-! ## The rate of wrong PINs -/

/-- The wrong PINs of an address in a closed window of time. -/
def wrongWithin (ip : Ip) (first last : Nat) (log : List AuthRecord) : List AuthRecord :=
  log.filter fun record => record.isWrong ip && decide (first ≤ record.time ∧ record.time ≤ last)

/-- No valid PIN of an address in a closed window of time. -/
def NoneAccepted (ip : Ip) (first last : Nat) (log : List AuthRecord) : Prop :=
  ∀ time, .guess ip time true ∈ log → ¬ (first ≤ time ∧ time ≤ last)

/-- The moments of a log are in order. -/
def Ordered (log : List AuthRecord) : Prop :=
  log.Pairwise fun earlier later => earlier.time ≤ later.time

theorem trail_sublist (ip : Ip) (log : List AuthRecord) :
    List.Sublist (trail ip log) (log.map AuthRecord.time) := by
  induction log using List.reverseRecOn with
  | nil => exact List.Sublist.refl _
  | append_singleton log record ih =>
      rw [trail_append, List.map_append]
      have unchanged : List.Sublist (trail ip log)
          (log.map AuthRecord.time ++ [record].map AuthRecord.time) :=
        ih.trans (List.sublist_append_left _ _)
      cases record with
      | guess source time accepted =>
          simp only [note]
          split
          · split
            · exact List.nil_sublist _
            · exact ih.append (List.Sublist.refl _)
          · exact unchanged
      | ban source time secs => exact unchanged

theorem trail_sorted {log : List AuthRecord} (ordered : Ordered log) (ip : Ip) :
    (trail ip log).Pairwise (· ≤ ·) :=
  (List.pairwise_map.mpr ordered).sublist (trail_sublist ip log)

/-- Up to the end of the window, its wrong PINs are those of the trail. -/
theorem wrongWithin_eq_within {ip : Ip} {first last : Nat} {log : List AuthRecord}
    (ordered : Ordered log) (upTo : ∀ record ∈ log, record.time ≤ last)
    (noneAccepted : NoneAccepted ip first last log) :
    (wrongWithin ip first last log).map AuthRecord.time = within first last (trail ip log) := by
  induction log using List.reverseRecOn with
  | nil => rfl
  | append_singleton log record ih =>
      obtain ⟨front, _, below⟩ := List.pairwise_append.mp ordered
      have before := ih front (fun old member => upTo old (List.mem_append_left _ member))
        fun time member => noneAccepted time (List.mem_append_left _ member)
      rw [trail_append, wrongWithin, List.filter_append, List.map_append]
      change (wrongWithin ip first last log).map AuthRecord.time ++ _ = _
      cases record with
      | ban source time secs => simpa [AuthRecord.isWrong, note] using before
      | guess source time accepted =>
          by_cases own : source = ip
          · subst own
            cases accepted with
            | false =>
                rw [before]
                by_cases inside : first ≤ time ∧ time ≤ last
                · simp [AuthRecord.isWrong, AuthRecord.time, note, within, inside]
                · simp [AuthRecord.isWrong, AuthRecord.time, note, within, inside]
            | true =>
                -- an accepted PIN before the window: nothing before it lies in the window
                have inTime := upTo (.guess source time true) (by simp)
                have outside := noneAccepted time (by simp)
                have early : time < first := by
                  by_contra late
                  exact outside ⟨not_lt.mp late, inTime⟩
                have nothing : wrongWithin source first last log = [] := by
                  simp only [wrongWithin, List.filter_eq_nil_iff, Bool.and_eq_true,
                    decide_eq_true_eq, not_and]
                  intro old member _ fromFirst
                  have order := below old member (.guess source time true) (by simp)
                  have between := fromFirst.trans order
                  simp only [AuthRecord.time] at between
                  omega
                simp [nothing, AuthRecord.isWrong, note, within]
          · simpa [AuthRecord.isWrong, note, own] using before

/-- A log whose trails are batched holds few wrong PINs in every window. -/
theorem length_wrongWithin {ip : Ip} {first last : Nat} {log : List AuthRecord}
    (ordered : Ordered log) (noneAccepted : NoneAccepted ip first last log)
    (batched : ∀ earlier, earlier <+: log →
      Batched Config.authFailThreshold banPause (trail ip earlier)) :
    (wrongWithin ip first last log).length ≤
      Config.authFailThreshold * ((last - first) / banPause + 1) := by
  induction log using List.reverseRecOn with
  | nil => exact Nat.zero_le _
  | append_singleton log record ih =>
      obtain ⟨front, _, below⟩ := List.pairwise_append.mp ordered
      rcases Nat.lt_or_ge last record.time with behind | upTo
      · have outside : wrongWithin ip first last (log ++ [record]) =
            wrongWithin ip first last log := by
          simp [wrongWithin, List.filter_append, not_le.mpr behind]
        rw [outside]
        refine ih front (fun time member => noneAccepted time (List.mem_append_left _ member)) ?_
        intro earlier isPrefix
        exact batched earlier (isPrefix.trans (List.prefix_append _ _))
      · have all : ∀ other ∈ log ++ [record], other.time ≤ last := by
          intro other member
          rcases List.mem_append.mp member with old | new
          · exact (below other old record (by simp)).trans upTo
          · rw [List.mem_singleton.mp new]
            exact upTo
        have sorted := trail_sorted ordered ip
        have spaced := (batched _ (List.prefix_refl _)).spaced sorted (by decide)
        rw [← List.length_map AuthRecord.time, wrongWithin_eq_within ordered all noneAccepted]
        exact length_within_of_spaced (by decide) (by decide) first last _ sorted spaced

/-- In every run and every window in which no PIN of an address is accepted, at most five wrong PINs
of the address reach the lookup for each ban duration that fits, and five more. -/
theorem wrong_pin_rate (startup : Startup) (inputs : List Input) (ip : Ip) (first last : Nat)
    (noneAccepted : NoneAccepted ip first last (Daemon.run startup inputs).world.authLog) :
    (wrongWithin ip first last (Daemon.run startup inputs).world.authLog).length ≤
      Config.authFailThreshold *
        ((last - first) / (Config.authBanInitialSecs * Config.nanosPerSec) + 1) := by
  have watched := watched_of_run ip startup inputs
  exact length_wrongWithin watched.logged.ordered noneAccepted watched.logged.batched

theorem wrong_pin_rate_two :
    (wrongWithin [1] 0 banPause
        (Daemon.run (.fresh (ascii "b")) tenFailures).world.authLog).length = 10 ∧
      (wrongWithin [1] 0 banPause
        (Daemon.run (.fresh (ascii "b")) tenFailures).world.authLog).length ≤
        Config.authFailThreshold *
          ((banPause - 0) / (Config.authBanInitialSecs * Config.nanosPerSec) + 1) := by
  let log := (Daemon.run (.fresh (ascii "b")) tenFailures).world.authLog
  have noneAccepted : NoneAccepted [1] 0 banPause log := by
    intro time member
    have all : ∀ record ∈ log, record.isWrong [1] || record.isBan [1] := by decide
    have wrong := all _ member
    simp [AuthRecord.isWrong, AuthRecord.isBan] at wrong
  exact ⟨by decide, wrong_pin_rate (.fresh (ascii "b")) tenFailures [1] 0 banPause noneAccepted⟩

end TitanShare
