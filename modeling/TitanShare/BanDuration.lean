import Mathlib.Logic.Relation
import TitanShare.SessionManager

/-!
# The duration of a ban

The doubling loop of `registerAuthFailure` on the `int` it runs on.  A round doubles with wrap
around, as the machine does; every value the loop reaches is an exact power of two times the first
duration, so that no round wraps.
-/

namespace TitanShare

/-- The variables of the doubling loop. -/
structure BanLoop where
  i : Nat
  secs : Int32
  deriving DecidableEq

namespace BanLoop

/-- The variables before the first round. -/
def start : BanLoop where
  i := 0
  secs := Int32.ofNat Config.authBanInitialSecs

/-- The condition of the loop. -/
def Continues (nBans : Nat) (loop : BanLoop) : Prop :=
  loop.i < nBans ∧ loop.secs < Int32.ofNat Config.authBanMaxSecs

/-- One round: `secs *= 2`, `++i`. -/
def next (loop : BanLoop) : BanLoop where
  i := loop.i + 1
  secs := loop.secs * 2

/-- The loop runs one more round. -/
def Round (nBans : Nat) (before after : BanLoop) : Prop :=
  before.Continues nBans ∧ after = before.next

/-- The variables some round of the loop finds or leaves. -/
def Reached (nBans : Nat) : BanLoop → Prop :=
  Relation.ReflTransGen (Round nBans) start

/-- `std::min(secs, AUTH_BAN_MAX_SECS)`. -/
def capped (loop : BanLoop) : Int32 :=
  min loop.secs (Int32.ofNat Config.authBanMaxSecs)

/-- The variables hold exact values: nothing has wrapped, and the cap is overshot at most once. -/
structure Exact (nBans : Nat) (loop : BanLoop) : Prop where
  counted : loop.i ≤ nBans
  doubled : loop.secs.toInt = Config.authBanInitialSecs * 2 ^ loop.i
  bounded : loop.secs.toInt ≤ 2 * Config.authBanMaxSecs

theorem exact_start (nBans : Nat) : Exact nBans start where
  counted := Nat.zero_le nBans
  doubled := by decide
  bounded := by decide

theorem continues_iff {nBans : Nat} {loop : BanLoop} :
    loop.Continues nBans ↔ loop.i < nBans ∧ loop.secs.toInt < Config.authBanMaxSecs := by
  have cap : (Int32.ofNat Config.authBanMaxSecs).toInt = Config.authBanMaxSecs := by decide
  rw [Continues, Int32.lt_iff_toInt_lt, cap]

/-- Doubling a value below the cap stays within twice the cap, far from the end of an `int`. -/
theorem Exact.next {nBans : Nat} {loop : BanLoop} (exact : loop.Exact nBans)
    (continues : loop.Continues nBans) : loop.next.Exact nBans := by
  obtain ⟨fewer, below⟩ := continues_iff.mp continues
  have positive : 0 ≤ loop.secs.toInt := by
    rw [exact.doubled]
    positivity
  have unwrapped : (loop.secs * 2).toInt = loop.secs.toInt * 2 := by
    have two : (2 : Int32).toInt = 2 := by decide
    simp only [Config.authBanMaxSecs] at below
    rw [Int32.toInt_mul, two, Int.bmod_eq_of_le]
    · omega
    · omega
  refine ⟨fewer, ?_, ?_⟩
  · change (loop.secs * 2).toInt = Config.authBanInitialSecs * 2 ^ (loop.i + 1)
    rw [unwrapped, exact.doubled, pow_succ]
    ring
  · change (loop.secs * 2).toInt ≤ 2 * Config.authBanMaxSecs
    omega

theorem exact_of_reached {nBans : Nat} {loop : BanLoop} (reached : Reached nBans loop) :
    loop.Exact nBans := by
  induction reached with
  | refl => exact exact_start nBans
  | tail _ round ih =>
      obtain ⟨continues, rfl⟩ := round
      exact ih.next continues

theorem toInt_capped (loop : BanLoop) :
    loop.capped.toInt = min loop.secs.toInt Config.authBanMaxSecs := by
  have cap : (Int32.ofNat Config.authBanMaxSecs).toInt = Config.authBanMaxSecs := by decide
  have choice : loop.capped = if loop.secs ≤ Int32.ofNat Config.authBanMaxSecs then loop.secs
      else Int32.ofNat Config.authBanMaxSecs := rfl
  rw [choice]
  split
  · rename_i within
    rw [Int32.le_iff_toInt_le, cap] at within
    rw [min_eq_left within]
  · rename_i beyond
    rw [Int32.le_iff_toInt_le, cap, not_le] at beyond
    rw [cap, min_eq_right beyond.le]

/-- Where the loop stops, the cap makes up for the rounds it left out. -/
theorem Exact.capped_of_stopped {nBans : Nat} {loop : BanLoop} (exact : loop.Exact nBans)
    (stopped : ¬loop.Continues nBans) :
    loop.capped.toInt = SessionManager.banSecs nBans := by
  rw [toInt_capped, SessionManager.banSecs_eq]
  rcases exact.counted.eq_or_lt with last | earlier
  · rw [exact.doubled, last]
    push_cast
    rfl
  · have reached : (Config.authBanMaxSecs : Int) ≤ loop.secs.toInt := by
      by_contra below
      exact stopped (continues_iff.mpr ⟨earlier, not_le.mp below⟩)
    have more : 2 ^ loop.i ≤ 2 ^ nBans := Nat.pow_le_pow_right (by decide) exact.counted
    have doubled := exact.doubled
    have beyond : Config.authBanMaxSecs ≤ Config.authBanInitialSecs * 2 ^ nBans := by
      have all : Config.authBanInitialSecs * 2 ^ loop.i ≤ Config.authBanInitialSecs * 2 ^ nBans :=
        Nat.mul_le_mul_left _ more
      have held : Config.authBanMaxSecs ≤ Config.authBanInitialSecs * 2 ^ loop.i := by
        exact_mod_cast doubled ▸ reached
      exact held.trans all
    rw [min_eq_right reached, min_eq_right beyond]

/-- Whatever the loop has reached, it stops within the rounds that are left. -/
theorem stops_from {nBans : Nat} (rounds : Nat) (loop : BanLoop)
    (left : nBans ≤ loop.i + rounds) :
    ∃ final, Relation.ReflTransGen (Round nBans) loop final ∧ ¬final.Continues nBans := by
  induction rounds generalizing loop with
  | zero =>
      refine ⟨loop, .refl, ?_⟩
      rintro ⟨fewer, _⟩
      omega
  | succ rounds ih =>
      by_cases continues : loop.Continues nBans
      · obtain ⟨final, run, stopped⟩ := ih loop.next (by
          change nBans ≤ loop.i + 1 + rounds
          omega)
        exact ⟨final, .head ⟨continues, rfl⟩ run, stopped⟩
      · exact ⟨loop, .refl, continues⟩

/-- The loop stops with this duration after the cap. -/
def Ends (nBans secs : Nat) : Prop :=
  ∃ final, Reached nBans final ∧ ¬final.Continues nBans ∧ final.capped.toInt = secs

theorem exists_ends (nBans : Nat) : ∃ secs, Ends nBans secs := by
  obtain ⟨final, run, stopped⟩ := stops_from nBans start (Nat.le_add_left _ _)
  exact ⟨SessionManager.banSecs nBans, final, run, stopped,
    (exact_of_reached run).capped_of_stopped stopped⟩

theorem Ends.eq_banSecs {nBans secs : Nat} (ends : Ends nBans secs) :
    secs = SessionManager.banSecs nBans := by
  obtain ⟨final, reached, stopped, capped⟩ := ends
  have same := (exact_of_reached reached).capped_of_stopped stopped
  exact_mod_cast capped.symm.trans same

end BanLoop

/-- A failure at the threshold bans for the first duration doubled once for each ban the manager
remembers, up to the cap.  The loop stops, no value it passes through exceeds twice the cap, and
more remembered bans never mean a shorter one. -/
theorem ban_loop_exact (manager : SessionManager) (ip : Ip) (now nBans : Nat)
    (held : (manager.banCount ip).getD 0 = nBans)
    (threshold : Config.authFailThreshold ≤ (manager.authFailures ip).getD 0 + 1) :
    (∃ secs, BanLoop.Ends nBans secs) ∧
      (∀ secs, BanLoop.Ends nBans secs →
        secs = min (Config.authBanInitialSecs * 2 ^ nBans) Config.authBanMaxSecs ∧
          (manager.registerAuthFailure ip now).2 = some secs ∧
          (manager.registerAuthFailure ip now).1.blockedUntil ip =
            some (now + secs * Config.nanosPerSec)) ∧
      (∀ loop, BanLoop.Reached nBans loop →
        loop.i ≤ nBans ∧ loop.secs.toInt = Config.authBanInitialSecs * 2 ^ loop.i ∧
          loop.secs.toInt ≤ 2 * Config.authBanMaxSecs) ∧
      ∀ more secs longer, nBans ≤ more → BanLoop.Ends nBans secs → BanLoop.Ends more longer →
        secs ≤ longer := by
  refine ⟨BanLoop.exists_ends nBans, ?_, ?_, ?_⟩
  · intro secs ends
    obtain ⟨warned, books⟩ := SessionManager.registerAuthFailure_bans now threshold
    have blocked := congrArg SessionManager.Books.blockedUntil books
    rw [held, ← ends.eq_banSecs] at warned blocked
    exact ⟨by rw [ends.eq_banSecs, SessionManager.banSecs_eq], warned, blocked⟩
  · intro loop reached
    have exact := BanLoop.exact_of_reached reached
    exact ⟨exact.counted, exact.doubled, exact.bounded⟩
  · intro more secs longer le ends later
    rw [ends.eq_banSecs, later.eq_banSecs, SessionManager.banSecs_eq, SessionManager.banSecs_eq]
    have doubled : 2 ^ nBans ≤ 2 ^ more := Nat.pow_le_pow_right (by decide) le
    exact min_le_min_right _ (Nat.mul_le_mul_left _ doubled)

/-- A manager that remembers eight bans of an address and four failures since the last of them. -/
def SessionManager.banned : SessionManager where
  currentPin := []
  recentPins := []
  authFailures := fun _ => some 4
  blockedUntil := fun _ => none
  banCount := fun _ => some 8

/-- The ninth ban overshoots the cap and is cut to it. -/
theorem ban_loop_exact_ninth :
    BanLoop.Ends 8 3600 ∧ (SessionManager.banned.registerAuthFailure [] 0).2 = some 3600 := by
  obtain ⟨⟨secs, ends⟩, exact, _⟩ := ban_loop_exact SessionManager.banned [] 0 8 rfl (by decide)
  obtain ⟨value, warned, _⟩ := exact secs ends
  have hour : secs = 3600 := value.trans (by decide)
  subst hour
  exact ⟨ends, warned⟩

end TitanShare
