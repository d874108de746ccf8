import TitanShare.MdnsObjects

/-!
# Stopping the advertiser

`stop` clears a flag, asks Avahi to quit and waits for the thread.  From then on the thread takes at
most nine steps and begins no tick of Avahi.  The poll that `stop` hands to Avahi is freed or null
exactly when the thread was faster.
-/

namespace TitanShare
namespace MdnsAdvertiser

open ByteText Handles Advertiser

variable {advertiser later : Advertiser}

/-! ## The steps that are left -/

/-- How many steps the thread still takes once the flag is cleared, at most. -/
def Worker.remaining : Worker → Nat
  | newPoll | iterating => 9
  | newClient | returned _ => 8
  | creating _ | checking => 7
  | looping => 6
  | freeGroup => 5
  | freeClient => 4
  | freePoll => 3
  | clearPoll => 2
  | stopping => 1
  | unborn | finished => 0

def Act.byWorker : Act → Bool
  | worker _ => true
  | _ => false

theorem Worker.remaining_le (worker : Worker) : worker.remaining ≤ 9 := by
  cases worker <;> simp [remaining]

/-- Where the thread can be after a step of its own once the flag is cleared. -/
def Worker.ending : Worker → Bool
  | unborn | iterating => false
  | _ => true

/-- A step of the stopped thread leads to its end, and never into a tick. -/
theorem Worker.remaining_step {worker next : Worker} {answer : Answer}
    (stopped : advertiser.running = false)
    (stepped : worker.step advertiser answer = some (later, next)) :
    later.running = false ∧ next.remaining < worker.remaining ∧ next.ending = true := by
  have used (object : Option Nat) : (advertiser.use object).running = false :=
    (frames_use _ _).running.trans stopped
  have released (freeing : Advertiser) (object : Option Nat) :
      (freeing.release object).running = freeing.running := by
    cases object <;> rfl
  cases worker with
  | unborn => cases stepped
  | finished => cases stepped
  | newPoll =>
      dsimp only [Worker.step] at stepped
      split at stepped
      · cases stepped
        exact ⟨stopped, by decide, rfl⟩
      · split at stepped
        · cases stepped
          exact ⟨stopped, by decide, rfl⟩
        · cases stepped
      · cases stepped
  | newClient =>
      dsimp only [Worker.step] at stepped
      split at stepped
      · cases stepped
        exact ⟨used _, by decide, rfl⟩
      · split at stepped
        · cases stepped
          exact ⟨used _, by simp [remaining], rfl⟩
        · cases stepped
      · cases stepped
  | creating client =>
      cases stepped
      exact ⟨stopped, by simp [remaining], rfl⟩
  | looping =>
      rw [Worker.step, stopped] at stepped
      cases stepped
      exact ⟨stopped, by decide, rfl⟩
  | iterating =>
      dsimp only [Worker.step] at stepped
      split at stepped
      · cases stepped
        exact ⟨stopped, by decide, rfl⟩
      · cases stepped
        exact ⟨stopped, by simp [remaining], rfl⟩
      · cases stepped
  | returned quit =>
      dsimp only [Worker.step] at stepped
      split at stepped
      · cases stepped
        exact ⟨stopped, by simp [remaining], rfl⟩
      · cases stepped
        exact ⟨stopped, by simp [remaining], rfl⟩
  | checking =>
      dsimp only [Worker.step] at stepped
      split at stepped
      · split at stepped
        · cases stepped
          refine ⟨?_, by decide, rfl⟩
          exact ((frames_use _ _).trans (frames_createServices _ _ _)).running.trans stopped
        · cases stepped
      · cases stepped
        exact ⟨stopped, by decide, rfl⟩
  | freeGroup =>
      dsimp only [Worker.step] at stepped
      split at stepped
      · cases stepped
        exact ⟨(released _ _).trans (used _), by decide, rfl⟩
      · cases stepped
        exact ⟨stopped, by decide, rfl⟩
  | freeClient =>
      dsimp only [Worker.step] at stepped
      split at stepped
      · cases stepped
        exact ⟨(released _ _).trans (used _), by decide, rfl⟩
      · cases stepped
        exact ⟨stopped, by decide, rfl⟩
  | freePoll =>
      cases stepped
      refine ⟨(released _ _).trans stopped, ?_⟩
      split
      · exact ⟨by decide, rfl⟩
      · exact ⟨by decide, rfl⟩
  | clearPoll =>
      cases stepped
      exact ⟨stopped, by decide, rfl⟩
  | stopping =>
      cases stepped
      exact ⟨rfl, by decide, rfl⟩

/-- Avahi can always answer so that the thread goes on. -/
theorem Worker.goes_on {worker : Worker} (born : worker ≠ .unborn) (working : worker ≠ .finished)
    (advertiser : Advertiser) : ∃ answer, (worker.step advertiser answer).isSome = true := by
  cases worker with
  | unborn => exact absurd rfl born
  | finished => exact absurd rfl working
  | newPoll => exact ⟨.null, rfl⟩
  | newClient => exact ⟨.null, rfl⟩
  | iterating => exact ⟨.error, rfl⟩
  | checking =>
      refine ⟨.services ⟨none, false, false⟩, ?_⟩
      dsimp only [Worker.step]
      split
      · rfl
      · rfl
  | _ => exact ⟨.go, rfl⟩

/-! ## The wait of `stop` -/

namespace System

/-- The thread was started, and its flag is cleared. -/
structure Stopping (system : System) : Prop where
  cleared : system.self.running = false
  born : system.worker ≠ .unborn

/-- Only steps of the thread itself move it. -/
theorem stopping_step {system next : System} {act : Act} (stopping : system.Stopping)
    (stepped : system.step act = some next) :
    next.Stopping ∧
      next.worker.remaining + [act].countP Act.byWorker ≤ system.worker.remaining ∧
      (next.worker = .iterating → system.worker = .iterating) := by
  cases act with
  | start pin port hostname systemName =>
      dsimp only [step] at stepped
      split at stepped
      · rename_i fresh
        exact absurd fresh.1 stopping.born
      · cases stepped
  | stop =>
      dsimp only [step, stopStep] at stepped
      split at stepped
      · cases stepped
        exact ⟨⟨rfl, stopping.born⟩, le_refl _, id⟩
      · cases stepped
        exact ⟨⟨stopping.cleared, stopping.born⟩, le_refl _, id⟩
      · cases stepped
        exact ⟨⟨stopping.cleared, stopping.born⟩, le_refl _, id⟩
      · cases stepped
        exact ⟨⟨stopping.cleared, stopping.born⟩, le_refl _, id⟩
      · split at stepped
        · cases stepped
          exact ⟨⟨stopping.cleared, stopping.born⟩, le_refl _, id⟩
        · cases stepped
  | updatePin newPin =>
      dsimp only [step] at stepped
      split at stepped
      · cases stepped
      · cases stepped
        exact ⟨⟨stopping.cleared, stopping.born⟩, le_refl _, id⟩
  | markDirty =>
      dsimp only [step] at stepped
      split at stepped
      · cases stepped
        exact ⟨⟨stopping.cleared, stopping.born⟩, le_refl _, id⟩
      · cases stepped
  | worker answer =>
      obtain ⟨⟨later, worker⟩, found, rfl⟩ := Option.map_eq_some_iff.mp stepped
      obtain ⟨cleared, less, ending⟩ := Worker.remaining_step stopping.cleared found
      refine ⟨⟨cleared, ?_⟩, less, ?_⟩
      · rintro rfl
        cases ending
      · rintro rfl
        cases ending
  | clientEvent state env =>
      dsimp only [step] at stepped
      split at stepped
      · cases stepped
        refine ⟨⟨?_, stopping.born⟩, le_refl _, id⟩
        exact (frames_clientCallback _ _ _ _).running.trans stopping.cleared
      · cases stepped
  | groupEvent state alternative env =>
      dsimp only [step] at stepped
      split at stepped
      · cases stepped
        refine ⟨⟨?_, stopping.born⟩, le_refl _, id⟩
        exact (frames_groupCallback _ _ _ _ _).running.trans stopping.cleared
      · cases stepped

theorem stopping_run {acts : List Act} {system final : System} (stopping : system.Stopping)
    (ran : Scheduled.run step system acts = some final) :
    final.Stopping ∧
      final.worker.remaining + acts.countP Act.byWorker ≤ system.worker.remaining ∧
      (final.worker = .iterating → system.worker = .iterating) := by
  induction acts generalizing system with
  | nil =>
      obtain rfl := Option.some.inj ran
      exact ⟨stopping, le_refl _, id⟩
  | cons act acts ih =>
      obtain ⟨next, first, rest⟩ := Scheduled.run_cons_eq_some.mp ran
      obtain ⟨still, one, tick⟩ := stopping_step stopping first
      obtain ⟨last, others, laterTick⟩ := ih still rest
      refine ⟨last, ?_, tick ∘ laterTick⟩
      have parts : (act :: acts).countP Act.byWorker =
          [act].countP Act.byWorker + acts.countP Act.byWorker := by
        rw [← List.countP_append, List.singleton_append]
      omega

theorem remaining_eq_zero {worker : Worker} (born : worker ≠ .unborn) :
    worker.remaining = 0 ↔ worker = .finished := by
  cases worker with
  | unborn => exact absurd rfl born
  | _ => simp [Worker.remaining]

end System

/-- Whatever else happens once `stop` was called, the thread begins no further tick and ends within
nine of its steps; none of them has to wait but for Avahi, and `stop` has to wait for nothing
else. -/
theorem advertiser_stops {acts : List Act} {system final : System}
    (born : system.worker ≠ .unborn) (idle : system.caller = .idle)
    (ran : Scheduled.run System.step system (.stop :: acts) = some final) :
    acts.countP Act.byWorker ≤ 9 ∧
      (acts.countP Act.byWorker = 9 → final.worker = .finished) ∧
      (final.worker = .iterating → system.worker = .iterating) ∧
      (∀ before answer middle next,
        Scheduled.run System.step system (.stop :: before) = some middle →
          middle.step (.worker answer) = some next → next.worker ≠ .iterating) ∧
      (final.worker = .finished → (final.step .stop).isSome = true) ∧
      (final.worker ≠ .finished → ∃ answer, (final.step (.worker answer)).isSome = true) := by
  obtain ⟨called, first, rest⟩ := Scheduled.run_cons_eq_some.mp ran
  have calls : called = { system with
      self := { system.self with running := false }, caller := .testing } := by
    simpa [System.step, System.stopStep, idle] using first.symm
  have stopping : called.Stopping := by
    rw [calls]
    exact ⟨rfl, born⟩
  obtain ⟨last, counted, ticks⟩ := System.stopping_run stopping rest
  have bounded : called.worker.remaining ≤ 9 := Worker.remaining_le _
  refine ⟨by omega, fun all => ?_, fun tick => ?_, ?_, fun finished => ?_, fun working => ?_⟩
  · exact (System.remaining_eq_zero last.born).mp (by omega)
  · rw [calls] at ticks
    exact ticks tick
  · intro before answer middle next reached stepped
    obtain ⟨other, again, later⟩ := Scheduled.run_cons_eq_some.mp reached
    obtain rfl := Option.some.inj (first.symm.trans again)
    have still := (System.stopping_run stopping later).1
    obtain ⟨⟨self, worker⟩, found, rfl⟩ := Option.map_eq_some_iff.mp stepped
    have ending := (Worker.remaining_step still.cleared found).2.2
    rintro rfl
    cases ending
  · simp only [System.step, System.stopStep, finished]
    split
    · rfl
    · rfl
    · rfl
    · rfl
    · simp
  · obtain ⟨answer, possible⟩ := Worker.goes_on last.born working final.self
    refine ⟨answer, ?_⟩
    rw [System.step, Option.isSome_map]
    exact possible

/-- Avahi makes the client of the thread. -/
def creatingRun : List Act :=
  [.start [] 9999 (ascii "titan") [], .worker (.object 1), .worker (.object 2)]

/-- The thread of `creatingRun` is stopped. -/
def earlyStop : List Act :=
  [.worker .go, .stop, .worker .go, .worker .go, .worker .go, .worker .go, .stop, .worker .go,
    .worker .go, .stop]

theorem advertiser_stops_early :
    ∃ system final, System.run creatingRun = some system ∧
      Scheduled.run System.step system (.stop :: earlyStop) = some final ∧
      final.worker = .finished ∧ (final.step .stop).isSome = true := by
  have shape : (System.run creatingRun).bind (fun system =>
      (Scheduled.run System.step system (.stop :: earlyStop)).map fun final =>
        (system.worker, system.caller, final.worker)) = some (.creating 2, .idle, .finished) := by
    decide +kernel
  obtain ⟨system, started, rest⟩ := Option.bind_eq_some_iff.mp shape
  obtain ⟨final, ran, places⟩ := Option.map_eq_some_iff.mp rest
  obtain ⟨creating, idle, finished⟩ : system.worker = .creating 2 ∧ system.caller = .idle ∧
      final.worker = .finished := by simpa using places
  have born : system.worker ≠ .unborn := by
    rw [creating]
    nofun
  exact ⟨system, final, started, ran, finished,
    (advertiser_stops born idle ran).2.2.2.2.1 finished⟩

/-! ## The poll that `stop` loads -/

/-- The poll of the thread was freed, or there was none. -/
def Worker.freed : Worker → Bool
  | clearPoll | stopping | finished => true
  | _ => false

/-- The member of the poll is set. -/
def Worker.polls : Worker → Bool
  | unborn | newPoll | stopping | finished => false
  | _ => true

/-- The thread has come past the making of its poll. -/
def Worker.pastPoll : Worker → Bool
  | unborn | newPoll => false
  | _ => true

/-- What `stop` tests and loads is the poll, as long as the thread keeps it. -/
structure System.Loads (system : System) : Prop where
  keeps : system.worker.Keeps system.self
  loading : system.caller = .loading → system.worker.pastPoll = true
  quitting : ∀ poll, system.caller = .quitting poll →
    system.worker.pastPoll = true ∧
      (system.worker.polls = true → poll = system.self.simplePoll)

/-- The thread leaves its poll alone between making and clearing it. -/
theorem Worker.polls_step {worker next : Worker} {answer : Answer} (past : worker.pastPoll = true)
    (stepped : worker.step advertiser answer = some (later, next)) :
    next.pastPoll = true ∧
      (next.polls = true → worker.polls = true ∧ later.simplePoll = advertiser.simplePoll) := by
  have used (object : Option Nat) : (advertiser.use object).simplePoll = advertiser.simplePoll :=
    (frames_use _ _).simplePoll
  have released (freeing : Advertiser) (object : Option Nat) :
      (freeing.release object).simplePoll = freeing.simplePoll := by
    cases object <;> rfl
  cases worker with
  | unborn => cases past
  | newPoll => cases past
  | finished => cases stepped
  | newClient =>
      dsimp only [Worker.step] at stepped
      split at stepped
      · cases stepped
        exact ⟨rfl, fun _ => ⟨rfl, used _⟩⟩
      · split at stepped
        · cases stepped
          exact ⟨rfl, fun _ => ⟨rfl, used _⟩⟩
        · cases stepped
      · cases stepped
  | creating client =>
      cases stepped
      exact ⟨rfl, fun _ => ⟨rfl, rfl⟩⟩
  | looping =>
      dsimp only [Worker.step] at stepped
      split at stepped
      · cases stepped
        exact ⟨rfl, fun _ => ⟨rfl, used _⟩⟩
      · cases stepped
        exact ⟨rfl, fun _ => ⟨rfl, rfl⟩⟩
  | iterating =>
      dsimp only [Worker.step] at stepped
      split at stepped
      · cases stepped
        exact ⟨rfl, fun _ => ⟨rfl, rfl⟩⟩
      · cases stepped
        exact ⟨rfl, fun _ => ⟨rfl, rfl⟩⟩
      · cases stepped
  | returned quit =>
      dsimp only [Worker.step] at stepped
      split at stepped
      · cases stepped
        exact ⟨rfl, fun _ => ⟨rfl, rfl⟩⟩
      · cases stepped
        exact ⟨rfl, fun _ => ⟨rfl, rfl⟩⟩
  | checking =>
      dsimp only [Worker.step] at stepped
      split at stepped
      · split at stepped
        · cases stepped
          refine ⟨rfl, fun _ => ⟨rfl, ?_⟩⟩
          exact ((frames_use _ _).trans (frames_createServices _ _ _)).simplePoll
        · cases stepped
      · cases stepped
        exact ⟨rfl, fun _ => ⟨rfl, rfl⟩⟩
  | freeGroup =>
      dsimp only [Worker.step] at stepped
      split at stepped
      · cases stepped
        exact ⟨rfl, fun _ => ⟨rfl, (released _ _).trans (used _)⟩⟩
      · cases stepped
        exact ⟨rfl, fun _ => ⟨rfl, rfl⟩⟩
  | freeClient =>
      dsimp only [Worker.step] at stepped
      split at stepped
      · cases stepped
        exact ⟨rfl, fun _ => ⟨rfl, (released _ _).trans (used _)⟩⟩
      · cases stepped
        exact ⟨rfl, fun _ => ⟨rfl, rfl⟩⟩
  | freePoll =>
      cases stepped
      refine ⟨?_, fun _ => ⟨rfl, released _ _⟩⟩
      split
      · rfl
      · rfl
  | clearPoll =>
      cases stepped
      exact ⟨rfl, nofun⟩
  | stopping =>
      cases stepped
      exact ⟨rfl, nofun⟩

/-- Where the poll was freed, nothing is left; elsewhere it is alive. -/
theorem Worker.Keeps.held_poll_iff {worker : Worker} (keeps : worker.Keeps advertiser) {poll : Nat}
    (past : worker.pastPoll = true)
    (loaded : worker.polls = true → some poll = advertiser.simplePoll) :
    held poll advertiser.ops = true ↔ worker.freed = false := by
  have alive {other : Nat} {created : Option Nat} {live : List Nat}
      (has : advertiser.Has (some other) created live) (member : other ∈ live)
      (polls : worker.polls = true) : held poll advertiser.ops = true := by
    obtain rfl : poll = other := Option.some.inj ((loaded polls).trans has.simplePoll)
    exact (has.owns.holds.held_iff poll).mpr (List.mem_append_left _ member)
  have dead {other created : Option Nat} (has : advertiser.Has other created [])
      (alone : advertiser.group = none) : ¬ held poll advertiser.ops = true := by
    rw [has.owns.holds.held_iff poll, alone]
    simp
  cases worker with
  | unborn | newPoll => cases past
  | stopping | finished => simpa [freed] using dead keeps.1 keeps.2
  | clearPoll =>
      obtain ⟨⟨other, has⟩, alone⟩ := keeps
      simpa [freed] using dead has alone
  | newClient | freePoll =>
      obtain ⟨⟨other, has⟩, alone⟩ := keeps
      simpa [freed] using alive has (by simp) rfl
  | creating client =>
      obtain ⟨other, has⟩ := keeps
      simpa [freed] using alive has (by simp) rfl
  | freeClient =>
      obtain ⟨⟨other, client, has⟩, alone⟩ := keeps
      simpa [freed] using alive has (by simp) rfl
  | looping | iterating | returned _ | checking | freeGroup =>
      obtain ⟨other, client, has⟩ := keeps
      simpa [freed] using alive has (by simp) rfl

theorem Worker.Keeps.isSome_simplePoll {worker : Worker} (keeps : worker.Keeps advertiser) :
    advertiser.simplePoll.isSome = worker.polls := by
  cases worker with
  | unborn | newPoll | stopping | finished =>
      rw [keeps.1.simplePoll]
      rfl
  | newClient | freePoll | clearPoll =>
      obtain ⟨⟨poll, has⟩, alone⟩ := keeps
      rw [has.simplePoll]
      rfl
  | freeClient =>
      obtain ⟨⟨poll, client, has⟩, alone⟩ := keeps
      rw [has.simplePoll]
      rfl
  | creating client =>
      obtain ⟨poll, has⟩ := keeps
      rw [has.simplePoll]
      rfl
  | looping | iterating | returned _ | checking | freeGroup =>
      obtain ⟨poll, client, has⟩ := keeps
      rw [has.simplePoll]
      rfl

theorem Worker.pastPoll_of_polls {worker : Worker} (polls : worker.polls = true) :
    worker.pastPoll = true := by
  cases worker with
  | unborn | newPoll => cases polls
  | _ => rfl

theorem Worker.freed_of_not_polls {worker : Worker} (past : worker.pastPoll = true)
    (gone : worker.polls = false) : worker.freed = true := by
  cases worker with
  | unborn | newPoll => cases past
  | stopping | finished => rfl
  | _ => cases gone

namespace System

variable {system next : System}

/-- What leaves the thread and its poll alone, and brings `stop` nowhere. -/
theorem Loads.same (loads : system.Loads) {self : Advertiser} (keeps : system.worker.Keeps self)
    (simplePoll : self.simplePoll = system.self.simplePoll) (marking : Bool) :
    Loads { system with self := self, marking := marking } where
  keeps := keeps
  loading := loads.loading
  quitting := fun poll quitting => by
    rw [simplePoll]
    exact loads.quitting poll quitting

/-- `stop` and the thread take a step. -/
theorem loads_step {act : Act} (loads : system.Loads) (stepped : system.step act = some next) :
    next.Loads := by
  have keeps := keeps_step loads.keeps stepped
  cases act with
  | start pin port hostname systemName =>
      dsimp only [step] at stepped
      split at stepped
      · rename_i fresh
        cases stepped
        refine ⟨keeps, fun loading => ?_, fun poll quitting => ?_⟩
        · cases fresh.2.symm.trans loading
        · cases fresh.2.symm.trans quitting
      · cases stepped
  | stop =>
      dsimp only [step, stopStep] at stepped
      split at stepped
      · cases stepped
        exact ⟨keeps, nofun, nofun⟩
      · cases stepped
        refine ⟨keeps, fun loading => ?_, fun poll quitting => ?_⟩
        · by_cases polled : system.self.simplePoll.isSome = true
          · exact Worker.pastPoll_of_polls (loads.keeps.isSome_simplePoll.symm.trans polled)
          · simp [polled] at loading
        · split at quitting
          · cases quitting
          · cases quitting
      · rename_i loading
        cases stepped
        refine ⟨keeps, nofun, fun poll quitting => ⟨loads.loading loading, fun _ => ?_⟩⟩
        exact (Caller.quitting.inj quitting).symm
      · cases stepped
        exact ⟨keeps, nofun, nofun⟩
      · split at stepped
        · cases stepped
          exact ⟨keeps, nofun, nofun⟩
        · cases stepped
  | updatePin newPin =>
      dsimp only [step] at stepped
      split at stepped
      · cases stepped
      · cases stepped
        exact loads.same keeps rfl true
  | markDirty =>
      dsimp only [step] at stepped
      split at stepped
      · cases stepped
        exact loads.same keeps rfl false
      · cases stepped
  | worker answer =>
      obtain ⟨⟨later, worker⟩, found, rfl⟩ := Option.map_eq_some_iff.mp stepped
      refine ⟨keeps, fun loading => ?_, fun poll quitting => ?_⟩
      · exact (Worker.polls_step (loads.loading loading) found).1
      · obtain ⟨past, loaded⟩ := loads.quitting poll quitting
        obtain ⟨still, kept⟩ := Worker.polls_step past found
        refine ⟨still, fun polls => ?_⟩
        obtain ⟨before, same⟩ := kept polls
        exact (loaded before).trans same.symm
  | clientEvent state env =>
      dsimp only [step] at stepped
      split at stepped
      · cases stepped
        exact loads.same keeps (frames_clientCallback _ _ _ _).simplePoll system.marking
      · cases stepped
  | groupEvent state alternative env =>
      dsimp only [step] at stepped
      split at stepped
      · cases stepped
        exact loads.same keeps (frames_groupCallback _ _ _ _ _).simplePoll system.marking
      · cases stepped

/-- The call of `stop` into Avahi comes behind the end of the poll. -/
def CallsLate (system : System) (act : Act) : Prop :=
  act = .stop ∧ (∃ poll, system.caller = .quitting poll) ∧ system.worker.freed = true

/-- Everything but `stop` leaves the record of its calls alone. -/
theorem lateQuit_other {act : Act} (different : act ≠ .stop)
    (stepped : system.step act = some next) : next.lateQuit = system.lateQuit := by
  cases act with
  | stop => exact absurd rfl different
  | worker answer =>
      obtain ⟨result, found, rfl⟩ := Option.map_eq_some_iff.mp stepped
      rfl
  | _ =>
      dsimp only [step] at stepped
      split at stepped
      all_goals cases stepped
      rfl

/-- The pointer that `stop` has loaded is late if the poll is gone. -/
theorem Loads.late_iff (loads : system.Loads) {poll : Option Nat}
    (quitting : system.caller = .quitting poll) :
    (poll = none ∨ ∃ object, poll = some object ∧ held object system.self.ops = false) ↔
      system.worker.freed = true := by
  obtain ⟨past, loaded⟩ := loads.quitting poll quitting
  cases poll with
  | none =>
      refine ⟨fun _ => ?_, fun _ => .inl rfl⟩
      refine Worker.freed_of_not_polls past ?_
      by_contra polls
      have set := loads.keeps.isSome_simplePoll.trans (Bool.not_eq_false _ ▸ polls)
      rw [← loaded (by simpa using polls)] at set
      cases set
  | some object =>
      have alive := loads.keeps.held_poll_iff past loaded
      constructor
      · rintro (none | ⟨other, same, dead⟩)
        · cases none
        · cases same
          rw [← Bool.not_eq_false, ← alive, dead]
          exact Bool.false_ne_true
      · intro freed
        refine .inr ⟨object, rfl, ?_⟩
        rw [Bool.eq_false_iff, ne_eq, alive, freed]
        exact Bool.false_ne_true.symm

/-- Only the call of `stop` into Avahi can be late, and it is if the poll is gone. -/
theorem lateQuit_step {act : Act} (loads : system.Loads) (stepped : system.step act = some next) :
    next.lateQuit = true ↔ system.lateQuit = true ∨ system.CallsLate act := by
  by_cases stops : act = .stop
  · subst stops
    dsimp only [step, stopStep] at stepped
    split at stepped
    · rename_i idle
      cases stepped
      simp [CallsLate, idle]
    · rename_i testing
      cases stepped
      simp [CallsLate, testing]
    · rename_i loading
      cases stepped
      simp [CallsLate, loading]
    · rename_i poll quitting
      have late := loads.late_iff quitting
      cases stepped
      cases poll with
      | none => simp [CallsLate, quitting, late.mp (.inl rfl)]
      | some object =>
          have gone : held object system.self.ops = false ↔ system.worker.freed = true := by
            rw [← late]
            simp
          simp [CallsLate, quitting, gone]
    · rename_i joining
      split at stepped
      · cases stepped
        simp [CallsLate, joining]
      · cases stepped
  · rw [lateQuit_other stops stepped]
    simp [CallsLate, stops]

end System

/-- `stop` passes a freed poll or a null pointer to Avahi exactly if the thread frees its poll, or
leaves without one, after `stop` has seen the poll and before the call. -/
theorem advertiser_quits_late_iff {acts : List Act} {system : System}
    (ran : System.run acts = some system) :
    system.lateQuit = true ↔
      ∃ before after middle poll, acts = before ++ .stop :: after ∧
        System.run before = some middle ∧ middle.caller = .quitting poll ∧
          middle.worker.freed = true := by
  have initial : System.initial.Loads := ⟨System.keeps_initial, nofun, nofun⟩
  have raised := @Scheduled.raised_iff _ _ System.step System.Loads
    (fun system => system.lateQuit = true) System.CallsLate System.loads_step
    System.lateQuit_step acts System.initial system initial ran
  rw [raised]
  constructor
  · rintro (set | ⟨before, act, after, middle, rfl, reached, rfl, ⟨poll, quitting⟩, freed⟩)
    · cases set
    · exact ⟨before, after, middle, poll, rfl, reached, quitting, freed⟩
  · rintro ⟨before, after, middle, poll, rfl, reached, quitting, freed⟩
    exact .inr ⟨before, .stop, after, middle, rfl, reached, rfl, ⟨poll, quitting⟩, freed⟩

theorem advertiser_quits_late_stopped :
    ∃ system, System.run stoppedRun = some system ∧ system.lateQuit = true ∧
      ∃ before after middle poll, stoppedRun = before ++ .stop :: after ∧
        System.run before = some middle ∧ middle.caller = .quitting poll ∧
          middle.worker.freed = true := by
  have shape : (System.run stoppedRun).map System.lateQuit = some true := by decide +kernel
  obtain ⟨system, ran, late⟩ := Option.map_eq_some_iff.mp shape
  exact ⟨system, ran, late, (advertiser_quits_late_iff ran).mp late⟩

end MdnsAdvertiser
end TitanShare
