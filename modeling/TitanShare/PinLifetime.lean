import TitanShare.AuthIsolation
import TitanShare.DaemonMoves
import TitanShare.Library.Pacing

/-!
# The life of a PIN

The refresh thread sleeps at least 300 seconds between two PINs, and the window keeps twelve of
them.  So a PIN is accepted for an hour from the moment it became current, whatever else the threads
do, and not much longer as long as the thread wakes in time.
-/

namespace TitanShare
namespace DaemonMain

open ByteText

/-- The last PIN is old enough for the next one, as far as the thread has come. -/
def Refresher.Rests (clock last : Nat) : Refresher → Prop
  | sleeping due => last + Config.pairingPinSecs ≤ due
  | checking | generating => last + Config.pairingPinSecs ≤ clock
  | absent | testing | updating | logging | finished => True

theorem Refresher.Rests.later {refresher : Refresher} {clock last : Nat}
    (rests : refresher.Rests clock last) (seconds : Nat) :
    refresher.Rests (clock + seconds) last := by
  cases refresher with
  | checking | generating => exact Nat.le_add_right_of_le rests
  | sleeping => exact rests
  | _ => trivial

theorem SessionCall.after_recentPins (manager : SessionManager) (call : SessionCall) :
    (call.after manager).recentPins = manager.recentPins := by
  cases call with
  | isIpBlocked ip now => exact SessionManager.isIpBlocked_recentPins manager ip now
  | registerAuthFailure ip now => exact SessionManager.registerAuthFailure_recentPins manager ip now
  | validateKey | registerAuthSuccess => rfl

namespace Process

variable {process next : Process}

/-- The moments at which PINs were made. -/
def times (process : Process) : List Nat :=
  process.made.map Prod.fst

/-! ## The steps -/

/-- No PIN is made. -/
structure SamePins (process next : Process) : Prop where
  clock : next.clock = process.clock
  made : next.made = process.made
  recentPins : next.manager.recentPins = process.manager.recentPins

/-- A PIN is made. -/
structure NewPin (process next : Process) (rotation : Rotation) : Prop where
  clock : next.clock = process.clock
  made : next.made = (process.generate rotation).made
  manager : next.manager = (process.generate rotation).manager

/-- What a step of the process does to the PINs and to the time. -/
inductive PinStep (process next : Process) (act : Act) : Prop
  | ticks (seconds : Nat) (act : act = .tick seconds)
      (same : next = { process with clock := process.clock + seconds })
  | starts (place : process.main = .generating) (main : next.main ≠ .generating)
      (refresher : next.refresher = process.refresher) (rotation : Rotation)
      (new : NewPin process next rotation)
  | refreshes (place : process.refresher = .generating) (main : next.main = process.main)
      (refresher : next.refresher = .updating) (rotation : Rotation)
      (new : NewPin process next rotation)
  | idles (same : SamePins process next)
      (rests : ∀ last, last ≤ process.clock → process.refresher.Rests process.clock last →
        next.refresher.Rests process.clock last)
      (first : next.main = .generating →
        process.main = .generating ∧ (process.refresher = .absent → next.refresher = .absent))

end Process

open Process

variable {process next : Process}

theorem MainMove.pins {answer : Answer} (moves : MainMove process answer next) :
    PinStep process next (.main answer) := by
  have idles (same : SamePins process next) (refresher : next.refresher = process.refresher)
      (started : next.main ≠ .generating) : PinStep process next (.main answer) := by
    refine .idles same (fun last _ rests => ?_) fun starts => absurd starts started
    rwa [refresher]
  cases moves with
  | makes place rotation => exact .starts place (by simp [goTo]) rfl rotation ⟨rfl, rfl, rfl⟩
  | spawns => exact .idles ⟨rfl, rfl, rfl⟩ (fun _ _ _ => trivial) fun starts => by cases starts
  | publishes | enables | clears => exact idles ⟨rfl, rfl, rfl⟩ rfl (by simp [goTo])
  | serves place call =>
      exact idles ⟨rfl, rfl, SessionCall.after_recentPins _ _⟩ rfl (by simp [place])
  | goes leads =>
      exact idles ⟨rfl, rfl, rfl⟩ rfl leads.started

theorem RefresherMove.pins {answer : Answer} (moves : RefresherMove process next) :
    PinStep process next (.refresher answer) := by
  have idles (same : SamePins process next)
      (rests : ∀ last, last ≤ process.clock → process.refresher.Rests process.clock last →
        next.refresher.Rests process.clock last)
      (main : next.main = process.main) (born : process.refresher ≠ .absent) :
      PinStep process next (.refresher answer) :=
    .idles same rests fun starts => ⟨main ▸ starts, fun absent => absurd absent born⟩
  cases moves with
  | begins place runs =>
      refine idles ⟨rfl, rfl, rfl⟩ (fun last reached _ => ?_) rfl (by simp [place])
      exact Nat.add_le_add_right reached _
  | wakes place woken =>
      refine idles ⟨rfl, rfl, rfl⟩ (fun last _ rests => ?_) rfl (by simp [place])
      rw [place] at rests
      exact Nat.le_trans rests woken
  | goes place =>
      refine idles ⟨rfl, rfl, rfl⟩ (fun last _ rests => ?_) rfl (by simp [place])
      rwa [place] at rests
  | ends place =>
      refine idles ⟨rfl, rfl, rfl⟩ (fun _ _ _ => trivial) rfl ?_
      rcases place with place | place <;> simp [place]
  | makes place there rotation => exact .refreshes place rfl rfl rotation ⟨rfl, rfl, rfl⟩
  | updates place | logs place =>
      exact idles ⟨rfl, rfl, rfl⟩ (fun _ _ _ => trivial) rfl (by simp [place])
  | dangles place =>
      refine idles ⟨rfl, rfl, rfl⟩ (fun _ _ rests => rests) rfl ?_
      rcases place with ⟨-, place | place⟩ | ⟨-, place⟩ <;> simp [place]

theorem Move.pins {act : Act} (moves : Move process act next) : PinStep process next act := by
  have idles (same : SamePins process next) (refresher : next.refresher = process.refresher)
      (main : next.main = process.main) : PinStep process next act := by
    refine .idles same (fun last _ rests => ?_) fun starts => ⟨main ▸ starts, fun absent => ?_⟩
    · rwa [refresher]
    · rwa [refresher]
  cases moves with
  | ticks seconds => exact .ticks seconds rfl rfl
  | main free moves => exact moves.pins
  | refresher answer free moves => exact moves.pins
  | locks | unlocks | signals => exact idles ⟨rfl, rfl, rfl⟩ rfl rfl
  | handler found free moves => cases moves <;> exact idles ⟨rfl, rfl, rfl⟩ rfl rfl

namespace Process

/-! ## The window -/

/-- What the PINs that were made say about the window and the thread. -/
structure Timed (process : Process) : Prop where
  window : process.manager.recentPins = (process.made.map Prod.snd).rtake Config.maxRecentPins
  paced : Pacing.Batched 1 Config.pairingPinSecs process.times
  reached : ∀ last, process.times.getLast? = some last → last ≤ process.clock
  rests : ∀ last, process.times.getLast? = some last → process.refresher.Rests process.clock last
  first : process.main = .generating → process.made = [] ∧ process.refresher = .absent

theorem NewPin.times {rotation : Rotation} (new : NewPin process next rotation) :
    next.times = process.times ++ [process.clock] := by
  simp [Process.times, new.made, generate]

/-- A new PIN. -/
theorem Timed.newPin (timed : Timed process) {rotation : Rotation}
    (new : NewPin process next rotation)
    (rested : ∀ last, process.times.getLast? = some last →
      last + Config.pairingPinSecs ≤ process.clock)
    (rests : ∀ last, next.refresher.Rests process.clock last) (started : next.main ≠ .generating) :
    Timed next := by
  refine ⟨?_, ?_, ?_, ?_, fun starts => absurd starts started⟩
  · rw [new.manager, new.made]
    simp only [generate, List.map_append, List.map_cons, List.map_nil]
    rw [SessionManager.rotate_recentPins, timed.window, RollingWindow.push_rtake _ _ (by decide)]
  · rw [new.times]
    exact timed.paced.append fun _ => rested
  · rw [new.times, new.clock]
    simp
  · rw [new.clock]
    exact fun last _ => rests last

theorem Timed.step (timed : Timed process) {act : Act} (step : process.step act = some next) :
    Timed next := by
  cases (step_moves step).pins with
  | ticks seconds act same =>
      subst same
      exact
        { timed with
          reached := fun last found => Nat.le_add_right_of_le (timed.reached last found)
          rests := fun last found => (timed.rests last found).later seconds }
  | starts place main refresher rotation new =>
      obtain ⟨unmade, absent⟩ := timed.first place
      refine timed.newPin new ?_ ?_ main
      · simp [times, unmade]
      · rw [refresher, absent]
        exact fun _ => trivial
  | refreshes place main refresher rotation new =>
      refine timed.newPin new ?_ ?_ ?_
      · intro last found
        have rests := timed.rests last found
        rwa [place] at rests
      · rw [refresher]
        exact fun _ => trivial
      · intro starts
        have absent := (timed.first (main ▸ starts)).2
        rw [place] at absent
        cases absent
  | idles same rests first =>
      have times : next.times = process.times := congrArg (List.map Prod.fst) same.made
      refine ⟨?_, ?_, ?_, ?_, ?_⟩
      · rw [same.recentPins, same.made]
        exact timed.window
      · rw [times]
        exact timed.paced
      · rw [times, same.clock]
        exact timed.reached
      · rw [times, same.clock]
        exact fun last found => rests last (timed.reached last found) (timed.rests last found)
      · intro starts
        obtain ⟨place, absent⟩ := first starts
        rw [same.made]
        exact ⟨(timed.first place).1, absent (timed.first place).2⟩

theorem timed_initial : Timed initial where
  window := rfl
  paced := Pacing.batched_nil 1 Config.pairingPinSecs
  reached := by simp [times, initial]
  rests := by simp [times, initial]
  first := fun _ => ⟨rfl, rfl⟩

/-- What is accepted are the last PINs that were made. -/
theorem Timed.validateKey_iff (timed : Timed process) (pin : Bytes) :
    process.manager.validateKey pin = true ↔
      ∃ index time, process.made[index]? = some (time, pin) ∧
        process.made.length ≤ index + Config.maxRecentPins := by
  rw [SessionManager.validateKey, decide_eq_true_iff, timed.window, RollingWindow.mem_rtake_iff,
    List.length_map]
  constructor
  · rintro ⟨place, late, positive, within, found⟩
    rw [List.getElem?_map] at found
    obtain ⟨⟨time, key⟩, there, rfl⟩ := Option.map_eq_some_iff.mp found
    exact ⟨place - 1, time, there, by omega⟩
  · rintro ⟨index, time, found, late⟩
    have inside := (List.getElem?_eq_some_iff.mp found).1
    refine ⟨index + 1, by omega, by omega, by omega, ?_⟩
    rw [Nat.add_sub_cancel, List.getElem?_map, found]
    rfl

/-- When a PIN was made, and when the last one was. -/
theorem times_of_made {index : Nat} {time : Nat} {pin : Bytes}
    (found : process.made[index]? = some (time, pin)) :
    ∃ (here : index < process.made.length)
      (inside : process.made.length - 1 < process.times.length),
      process.times[index] = time ∧
        process.times.getLast? = some process.times[process.made.length - 1] := by
  obtain ⟨here, same⟩ := List.getElem?_eq_some_iff.mp found
  have length : process.times.length = process.made.length := by simp [times]
  have inside : process.made.length - 1 < process.times.length := by omega
  refine ⟨here, inside, by simp [times, same], ?_⟩
  rw [List.getLast?_eq_getElem?, length, List.getElem?_eq_getElem inside]

/-- The time from one PIN to another. -/
theorem Timed.elapsed (timed : Timed process) {index : Nat} {time : Nat} {pin : Bytes}
    (found : process.made[index]? = some (time, pin)) :
    time + (process.made.length - 1 - index) * Config.pairingPinSecs ≤ process.clock := by
  obtain ⟨here, inside, moment, last⟩ := times_of_made found
  have paced := timed.paced.add_mul_le (Nat.le_sub_one_of_lt here) inside
  rw [moment] at paced
  exact Nat.le_trans paced (timed.reached _ last)

/-- A PIN is accepted for an hour. -/
theorem Timed.accepts (timed : Timed process) {time : Nat} {pin : Bytes}
    (made : (time, pin) ∈ process.made)
    (young : process.clock < time + Config.maxRecentPins * Config.pairingPinSecs) :
    process.manager.validateKey pin = true := by
  obtain ⟨index, found⟩ := List.mem_iff_getElem?.mp made
  refine (timed.validateKey_iff pin).mpr ⟨index, time, found, ?_⟩
  by_contra early
  have elapsed := timed.elapsed found
  have many : Config.maxRecentPins ≤ process.made.length - 1 - index := by omega
  have long := Nat.mul_le_mul_right Config.pairingPinSecs many
  omega

/-! ## A thread that wakes in time -/

/-- No time passes that makes the next PIN more than `late` seconds overdue. -/
def Punctual (late : Nat) (process : Process) (act : Act) : Prop :=
  ∀ seconds last, act = .tick seconds → process.times.getLast? = some last →
    process.clock + seconds ≤ last + (Config.pairingPinSecs + late)

instance Punctual.decidable (late : Nat) (process : Process) :
    (act : Act) → Decidable (Punctual late process act)
  | .tick seconds =>
      decidable_of_iff (∀ last ∈ process.times.getLast?,
        process.clock + seconds ≤ last + (Config.pairingPinSecs + late))
        ⟨fun soon _ last ticks found => Act.tick.inj ticks ▸ soon last found,
          fun punctual last found => punctual seconds last rfl found⟩
  | .main _ | .refresher _ | .lock _ | .unlock _ | .signal _ | .handler _ =>
      isTrue fun _ _ ticks => by cases ticks

/-- The PINs that were made by a thread that wakes in time. -/
structure Prompt (late : Nat) (process : Process) : Prop where
  timed : Timed process
  dense : Pacing.Dense (Config.pairingPinSecs + late) process.times
  soon : ∀ last, process.times.getLast? = some last →
    process.clock ≤ last + (Config.pairingPinSecs + late)

theorem Prompt.step {late : Nat} (prompt : Prompt late process) {act : Act}
    (punctual : Punctual late process act) (step : process.step act = some next) :
    Prompt late next := by
  have timed := prompt.timed.step step
  have newPin {rotation : Rotation} (new : NewPin process next rotation) : Prompt late next := by
    refine ⟨timed, ?_, ?_⟩
    · rw [new.times]
      exact prompt.dense.append prompt.soon
    · rw [new.times, new.clock]
      simp
  cases (step_moves step).pins with
  | ticks seconds act same =>
      subst same
      exact ⟨timed, prompt.dense, fun last found => punctual seconds last act found⟩
  | starts place main refresher rotation new => exact newPin new
  | refreshes place main refresher rotation new => exact newPin new
  | idles same =>
      have times : next.times = process.times := congrArg (List.map Prod.fst) same.made
      refine ⟨timed, ?_, ?_⟩
      · rw [times]
        exact prompt.dense
      · rw [times, same.clock]
        exact prompt.soon

/-- What is accepted is not older than the window. -/
theorem Prompt.accepted {late : Nat} (prompt : Prompt late process) {pin : Bytes}
    (accepted : process.manager.validateKey pin = true) :
    ∃ time, (time, pin) ∈ process.made ∧
      process.clock ≤ time + Config.maxRecentPins * (Config.pairingPinSecs + late) := by
  obtain ⟨index, time, found, kept⟩ := (prompt.timed.validateKey_iff pin).mp accepted
  obtain ⟨here, inside, moment, last⟩ := times_of_made found
  have dense := prompt.dense.le_add_mul (Nat.le_sub_one_of_lt here) inside
  have soon := prompt.soon _ last
  rw [moment] at dense
  have few : process.made.length - 1 - index + 1 ≤ Config.maxRecentPins := by omega
  have short := Nat.mul_le_mul_right (Config.pairingPinSecs + late) few
  rw [Nat.succ_mul] at short
  exact ⟨time, List.mem_of_getElem? found, by omega⟩

end Process

/-- Whatever the threads and the sessions do, a PIN is accepted for an hour from when it became the
current one; and if the thread that refreshes it is never more than `late` seconds late, what is
accepted is not older than that hour and twelve times the delay. -/
theorem pins_last_an_hour {acts : List Act} {process : Process}
    (ran : Process.run acts = some process) :
    (∀ time pin, (time, pin) ∈ process.made → process.clock < time + 3600 →
        process.manager.validateKey pin = true) ∧
      ∀ late, Scheduled.Meets Process.step (Process.Punctual late) .initial acts →
        ∀ pin, process.manager.validateKey pin = true →
          ∃ time, (time, pin) ∈ process.made ∧ process.clock ≤ time + 3600 + 12 * late := by
  have timed := Scheduled.run_keeps (fun timed step => Process.Timed.step timed step)
    Process.timed_initial ran
  refine ⟨fun time pin made young => timed.accepts made young, ?_⟩
  intro late meets pin accepted
  have start : Process.Prompt late .initial :=
    ⟨Process.timed_initial, Pacing.dense_nil _, by simp [Process.times, Process.initial]⟩
  have prompt := meets.keeps (fun prompt punctual step => prompt.step punctual step) start ran
  obtain ⟨time, made, recent⟩ := prompt.accepted accepted
  refine ⟨time, made, ?_⟩
  have hour : Config.maxRecentPins * (Config.pairingPinSecs + late) = 3600 + 12 * late := by
    simp only [Config.maxRecentPins, Config.pairingPinSecs]
    omega
  omega

/-- The daemon starts with one PIN and refreshes it some times, after a pause each. -/
def refreshedRun (pause refreshes : Nat) : List Act :=
  [.main (.pin none (ascii "100000")), .main .ok, .main .ok] ++
    (List.replicate refreshes
      [.refresher .ok, .tick pause, .refresher .ok, .refresher .ok,
        .refresher (.pin none (ascii "200000")), .refresher .ok, .refresher .ok]).flatten

/-- A second before the first PIN has been current for an hour. -/
def hourRun : List Act :=
  refreshedRun 300 11 ++ [.refresher .ok, .tick 299]

/-- Every refresh is ten seconds late, and 3721 seconds have passed. -/
def lateRun : List Act :=
  refreshedRun 310 12 ++ [.refresher .ok, .tick 1]

/-- The first PIN is accepted in its last second, and refused when the delays are over too. -/
theorem pins_last_an_hour_runs :
    (∃ process, Process.run hourRun = some process ∧ process.clock = 3599 ∧
      process.made.length = 12 ∧ process.manager.validateKey (ascii "100000") = true) ∧
    ∃ process, Process.run lateRun = some process ∧ process.clock = 3721 ∧
      process.manager.validateKey (ascii "100000") = false := by
  constructor
  · have shape : (Process.run hourRun).map (fun process =>
        (process.clock, process.made.length, process.made[0]?)) =
          some (3599, 12, some (0, ascii "100000")) := by decide +kernel
    obtain ⟨process, ran, parts⟩ := Option.map_eq_some_iff.mp shape
    obtain ⟨clock, length, first⟩ : process.clock = 3599 ∧ process.made.length = 12 ∧
        process.made[0]? = some (0, ascii "100000") := by simpa using parts
    refine ⟨process, ran, clock, length, ?_⟩
    refine (pins_last_an_hour ran).1 0 (ascii "100000") (List.mem_of_getElem? first) ?_
    rw [clock]
    decide
  · have shape : (Process.run lateRun).map (fun process => (process.clock,
        decide (∀ made ∈ process.made, made.2 = ascii "100000" → made.1 = 0))) =
          some (3721, true) := by decide +kernel
    obtain ⟨process, ran, parts⟩ := Option.map_eq_some_iff.mp shape
    obtain ⟨clock, first⟩ : process.clock = 3721 ∧
        ∀ made ∈ process.made, made.2 = ascii "100000" → made.1 = 0 := by simpa using parts
    refine ⟨process, ran, clock, Bool.eq_false_iff.mpr fun accepted => ?_⟩
    have punctual : Scheduled.Meets Process.step (Process.Punctual 10) .initial lateRun := by
      decide +kernel
    obtain ⟨time, made, recent⟩ := (pins_last_an_hour ran).2 10 punctual _ accepted
    obtain rfl : time = 0 := first _ made rfl
    rw [clock] at recent
    omega

example : (Process.run (refreshedRun 300 12)).map (fun process =>
    (process.clock, process.manager.validateKey (ascii "100000"))) = some (3600, false) := by
  decide +kernel

end DaemonMain
end TitanShare
