import Mathlib.Logic.Function.Basic
import TitanShare.Config

/-!
# The session manager

Pairing PINs and the per-address ban bookkeeping of `session_manager.cpp`.  Every method runs
under one mutex, so each is a function on the manager; the clock reading a method takes is an
argument.  Maps are partial functions, and `operator[]` reads a missing entry as zero.
-/

namespace TitanShare

/-- The numeric host text of a peer. -/
abbrev Ip := Bytes

/-- The state of `SessionManager` that authentication reads. -/
structure SessionManager where
  /-- `m_currentPin` -/
  currentPin : Bytes
  /-- `m_recentPins`, oldest first -/
  recentPins : List Bytes
  /-- `m_authFailures` -/
  authFailures : Ip → Option Nat
  /-- `m_blockedUntil`, in nanoseconds of the steady clock -/
  blockedUntil : Ip → Option Nat
  /-- `m_banCount` -/
  banCount : Ip → Option Nat

namespace SessionManager

/-- A manager as constructed: no PIN and no bookkeeping. -/
def initial : SessionManager where
  currentPin := []
  recentPins := []
  authFailures := fun _ => none
  blockedUntil := fun _ => none
  banCount := fun _ => none

/-- Install the next current PIN: a reused persisted one when allowed and present, else the
generated one.  The window keeps the last `maxRecentPins` of them. -/
def generateSession (manager : SessionManager) (preservePin : Bool) (persisted : Option Bytes)
    (generated : Bytes) : SessionManager :=
  let pin := if preservePin then persisted.getD generated else generated
  let pushed := manager.recentPins ++ [pin]
  { manager with
    currentPin := pin
    recentPins := if Config.maxRecentPins < pushed.length then pushed.tail else pushed }

/-- The PIN is in the window. -/
def validateKey (manager : SessionManager) (pin : Bytes) : Bool :=
  decide (pin ∈ manager.recentPins)

/-- Whether the address is banned; an expired ban is erased with all bookkeeping of the address. -/
def isIpBlocked (manager : SessionManager) (ip : Ip) (now : Nat) : Bool × SessionManager :=
  match manager.blockedUntil ip with
  | none => (false, manager)
  | some expiry =>
      if expiry ≤ now then
        (false,
          { manager with
            blockedUntil := Function.update manager.blockedUntil ip none
            authFailures := Function.update manager.authFailures ip none
            banCount := Function.update manager.banCount ip none })
      else
        (true, manager)

/-- The doubling loop of `registerAuthFailure`, for the remaining rounds. -/
def doubleBan : Nat → Nat → Nat
  | 0, secs => secs
  | rounds + 1, secs =>
      if secs < Config.authBanMaxSecs then doubleBan rounds (secs * 2) else secs

/-- The duration of a ban after `nBans` earlier ones. -/
def banSecs (nBans : Nat) : Nat :=
  min (doubleBan nBans Config.authBanInitialSecs) Config.authBanMaxSecs

/-- Count a failure of the address.  At the threshold the address is banned; the second component
is the duration the warning reports. -/
def registerAuthFailure (manager : SessionManager) (ip : Ip) (now : Nat) :
    SessionManager × Option Nat :=
  let failures := (manager.authFailures ip).getD 0 + 1
  if Config.authFailThreshold ≤ failures then
    let nBans := (manager.banCount ip).getD 0
    let secs := banSecs nBans
    ({ manager with
        banCount := Function.update manager.banCount ip (some (nBans + 1))
        blockedUntil := Function.update manager.blockedUntil ip
          (some (now + secs * Config.nanosPerSec))
        authFailures := Function.update manager.authFailures ip (some 0) },
      some secs)
  else
    ({ manager with
        authFailures := Function.update manager.authFailures ip (some failures) },
      none)

/-- Forget all bookkeeping of the address. -/
def registerAuthSuccess (manager : SessionManager) (ip : Ip) : SessionManager :=
  { manager with
    authFailures := Function.update manager.authFailures ip none
    blockedUntil := Function.update manager.blockedUntil ip none
    banCount := Function.update manager.banCount ip none }

/-! ## What each method does to the bookkeeping of an address -/

/-- The bookkeeping of one address. -/
structure Books where
  authFailures : Option Nat
  blockedUntil : Option Nat
  banCount : Option Nat

def books (manager : SessionManager) (ip : Ip) : Books where
  authFailures := manager.authFailures ip
  blockedUntil := manager.blockedUntil ip
  banCount := manager.banCount ip

@[simp]
theorem generateSession_books (manager : SessionManager) (preservePin : Bool)
    (persisted : Option Bytes) (generated : Bytes) (ip : Ip) :
    (manager.generateSession preservePin persisted generated).books ip = manager.books ip := rfl

@[simp]
theorem registerAuthSuccess_books_self (manager : SessionManager) (ip : Ip) :
    (manager.registerAuthSuccess ip).books ip = ⟨none, none, none⟩ := by
  simp [registerAuthSuccess, books]

theorem registerAuthSuccess_books_of_ne (manager : SessionManager) {ip other : Ip}
    (different : other ≠ ip) :
    (manager.registerAuthSuccess ip).books other = manager.books other := by
  simp [registerAuthSuccess, books, Function.update_of_ne different]

/-- An address is free if it has no ban, or if its ban has expired and is forgotten. -/
theorem isIpBlocked_cases (manager : SessionManager) (ip : Ip) (now : Nat) :
    (manager.blockedUntil ip = none ∧ manager.isIpBlocked ip now = (false, manager)) ∨
      ∃ expiry, manager.blockedUntil ip = some expiry ∧
        (expiry ≤ now ∧
            manager.isIpBlocked ip now = (false, manager.registerAuthSuccess ip) ∨
          now < expiry ∧ manager.isIpBlocked ip now = (true, manager)) := by
  cases blocked : manager.blockedUntil ip with
  | none => exact .inl ⟨rfl, by simp [isIpBlocked, blocked]⟩
  | some expiry =>
      refine .inr ⟨expiry, rfl, ?_⟩
      rcases Nat.lt_or_ge now expiry with early | late
      · exact .inr ⟨early, by simp [isIpBlocked, blocked, not_le.mpr early]⟩
      · exact .inl ⟨late, by simp [isIpBlocked, blocked, late, registerAuthSuccess]⟩

theorem isIpBlocked_books_of_ne (manager : SessionManager) {ip other : Ip} (now : Nat)
    (different : other ≠ ip) :
    (manager.isIpBlocked ip now).2.books other = manager.books other := by
  obtain ⟨_, same⟩ | ⟨_, _, ⟨_, forgets⟩ | ⟨_, same⟩⟩ := manager.isIpBlocked_cases ip now
  · rw [same]
  · rw [forgets]
    exact registerAuthSuccess_books_of_ne manager different
  · rw [same]

/-- A failure below the threshold is counted. -/
theorem registerAuthFailure_below {manager : SessionManager} {ip : Ip} (now : Nat)
    (below : (manager.authFailures ip).getD 0 + 1 < Config.authFailThreshold) :
    (manager.registerAuthFailure ip now).2 = none ∧
      (manager.registerAuthFailure ip now).1.books ip =
        { manager.books ip with authFailures := some ((manager.authFailures ip).getD 0 + 1) } := by
  simp [registerAuthFailure, not_le.mpr below, books]

/-- A failure at the threshold is a ban. -/
theorem registerAuthFailure_bans {manager : SessionManager} {ip : Ip} (now : Nat)
    (reached : Config.authFailThreshold ≤ (manager.authFailures ip).getD 0 + 1) :
    (manager.registerAuthFailure ip now).2 = some (banSecs ((manager.banCount ip).getD 0)) ∧
      (manager.registerAuthFailure ip now).1.books ip =
        { authFailures := some 0
          blockedUntil :=
            some (now + banSecs ((manager.banCount ip).getD 0) * Config.nanosPerSec)
          banCount := some ((manager.banCount ip).getD 0 + 1) } := by
  simp [registerAuthFailure, reached, books]

theorem registerAuthFailure_books_of_ne (manager : SessionManager) {ip other : Ip} (now : Nat)
    (different : other ≠ ip) :
    (manager.registerAuthFailure ip now).1.books other = manager.books other := by
  simp only [registerAuthFailure]
  split
  · simp [books, Function.update_of_ne different]
  · simp [books, Function.update_of_ne different]

theorem min_doubleBan (rounds secs : Nat) :
    min (doubleBan rounds secs) Config.authBanMaxSecs =
      min (secs * 2 ^ rounds) Config.authBanMaxSecs := by
  induction rounds generalizing secs with
  | zero => simp [doubleBan]
  | succ rounds ih =>
      unfold doubleBan
      split
      · rw [ih, Nat.mul_assoc, Nat.pow_succ']
      · rename_i capped
        have more : secs ≤ secs * 2 ^ (rounds + 1) :=
          Nat.le_mul_of_pos_right secs (Nat.two_pow_pos _)
        rw [min_eq_right (by omega), min_eq_right (by omega)]

/-- A ban after `nBans` remembered ones has doubled as often, up to the cap. -/
theorem banSecs_eq (nBans : Nat) :
    banSecs nBans =
      min (Config.authBanInitialSecs * 2 ^ nBans) Config.authBanMaxSecs :=
  min_doubleBan nBans _

theorem le_banSecs (nBans : Nat) : Config.authBanInitialSecs ≤ banSecs nBans := by
  rw [banSecs_eq]
  exact le_min (Nat.le_mul_of_pos_right _ (Nat.two_pow_pos _)) (by decide)

end SessionManager
end TitanShare
