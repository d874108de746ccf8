import TitanShare.DaemonMoves

/-!
# The end of the daemon

A signal ends the daemon if its handler clears `m_running` while the event loop runs; what a handler
does before `run` has set the flag is lost.  Told to stop, `main` waits for no further events and
comes to its end within 73 of its own steps, and at most one more PIN is made.
-/

namespace TitanShare
namespace DaemonMain

open Process

variable {process next : Process}

namespace Main

def looping : Main → Bool
  | testing | waiting | serving _ => true
  | _ => false

/-- The event loop has been left. -/
def left : Main → Bool
  | stoppingMdns | stoppingBridge | clearing | leaving | droppingMdns | droppingManager | ended =>
      true
  | _ => false

/-- How many steps `main` takes to its end when the flag is cleared, at most. -/
def remaining : Main → Nat
  | waiting => maxEvents + 9
  | serving events => events + 8
  | testing => 7
  | stoppingMdns => 6
  | stoppingBridge => 5
  | clearing => 4
  | leaving => 3
  | droppingMdns => 2
  | droppingManager => 1
  | _ => 0

/-- With the flag cleared `main` goes straight to its end. -/
theorem Leads.remaining {answer : Answer} {place main : Main}
    (leads : place.Leads false answer main) (place_on : place.looping = true ∨ place.left = true) :
    main.remaining < place.remaining ∧ (main.looping = true ∨ main.left = true) ∧
      main ≠ .waiting := by
  cases leads with
  | again runs => cases runs
  | woken fits =>
      refine ⟨?_, .inl rfl, by simp⟩
      simp only [Main.remaining]
      omega
  | handled events => exact ⟨by simp [Main.remaining], .inl rfl, by simp⟩
  | served | interrupted => exact ⟨by decide, .inl rfl, by decide⟩
  | stops | broken | stoppedMdns | stoppedBridge | left | droppedMdns | droppedManager =>
      exact ⟨by decide, .inr rfl, by decide⟩
  | advertised | prepared | constructed | opened | unopened =>
      rcases place_on with loops | left
      · cases loops
      · cases left

/-- `epoll_wait` returns no more events than there is room for. -/
theorem Leads.fits {running : Bool} {answer : Answer} {place main : Main}
    (leads : place.Leads running answer main)
    (before : ∀ events, place = .serving events → events ≤ maxEvents) (events : Nat)
    (here : main = .serving events) : events ≤ maxEvents := by
  cases leads with
  | woken fits =>
      obtain rfl := Main.serving.inj here
      exact fits
  | handled served =>
      obtain rfl := Main.serving.inj here
      exact Nat.le_of_succ_le (before _ rfl)
  | _ => cases here

end Main

/-- Steps of `main` itself, without what its sessions ask. -/
def Act.advances : Act → Bool
  | main (.call _) => false
  | main _ => true
  | _ => false

/-! ## The flag of the loop -/

/-- A handler tells the running loop to stop. -/
def Process.Tells (process : Process) (act : Act) : Prop :=
  ∃ index thread, act = .handler index ∧ process.handlers[index]? = some (thread, .storing true) ∧
    process.main.looping = true

/-- The sockets cannot be opened, or the wait for events fails. -/
def Process.Breaks (process : Process) (act : Act) : Prop :=
  act = .main .failed ∧ (process.main = .opening ∨ process.main = .waiting)

/-- What has been done to the loop, and where `main` stands. -/
structure History (acts : List Act) (process : Process) : Prop where
  told : Scheduled.Happened step Process.Tells .initial acts →
    process.main.looping = true ∨ process.main.left = true
  looping : process.main.looping = true →
    (process.mRunning = false ↔ Scheduled.Happened step Process.Tells .initial acts)
  left : process.main.left = true →
    Scheduled.Happened step Process.Tells .initial acts ∨
      Scheduled.Happened step Process.Breaks .initial acts

theorem History.same {acts : List Act} {act : Act} (history : History acts process)
    (ran : run acts = some process) (main : next.main = process.main)
    (mRunning : next.mRunning = process.mRunning) (silent : ¬ process.Tells act) :
    History (acts ++ [act]) next := by
  have told := Scheduled.happened_concat Process.Tells ran act
  have broken := Scheduled.happened_concat Process.Breaks ran act
  rw [or_iff_left silent] at told
  refine ⟨?_, ?_, ?_⟩
  · rw [main, told]
    exact history.told
  · rw [main, mRunning, told]
    exact history.looping
  · rw [main, told, broken]
    exact fun left => (history.left left).imp_right .inl

/-- A way of `main` outside the loop, into its end, inside the loop, out of it, or behind it. -/
inductive Main.Leads.Kind (running : Bool) (answer : Answer) (place main : Main) : Prop
  | before (outside : place.looping = false) (unleft : place.left = false)
      (still : main.looping = false) (unended : main.left = false)
  | breaks (failed : answer = .failed) (at_call : place = .opening ∨ place = .waiting)
      (out : main.looping = false) (ends : main.left = true)
  | inside (loops : place.looping = true) (still : main.looping = true)
      (unended : main.left = false)
  | leaves (loops : place.looping = true) (stopped : running = false) (out : main.looping = false)
      (ends : main.left = true)
  | behind (left : place.left = true) (out : main.looping = false) (ends : main.left = true)

theorem Main.Leads.kind {running : Bool} {answer : Answer} {place main : Main}
    (leads : place.Leads running answer main) : Kind running answer place main := by
  cases leads with
  | advertised | prepared | constructed | opened => exact .before rfl rfl rfl rfl
  | unopened failed => exact .breaks failed (.inl rfl) rfl rfl
  | broken failed => exact .breaks failed (.inr rfl) rfl rfl
  | again | interrupted | woken | served | handled => exact .inside rfl rfl rfl
  | stops stopped => exact .leaves rfl stopped rfl rfl
  | stoppedMdns | stoppedBridge | left | droppedMdns | droppedManager => exact .behind rfl rfl rfl

theorem not_tells_main (answer : Answer) : ¬ process.Tells (.main answer) := by
  rintro ⟨index, thread, same, -⟩
  cases same

theorem History.main {acts : List Act} {answer : Answer} (history : History acts process)
    (ran : run acts = some process) (moves : MainMove process answer next) :
    History (acts ++ [.main answer]) next := by
  have told := Scheduled.happened_concat Process.Tells ran (.main answer)
  have broken := Scheduled.happened_concat Process.Breaks ran (.main answer)
  rw [or_iff_left (not_tells_main answer)] at told
  -- outside the loop nobody has told it to stop
  have early (outside : process.main.looping = false) (unleft : process.main.left = false)
      (still : next.main.looping = false) (unended : next.main.left = false) :
      History (acts ++ [.main answer]) next := by
    refine ⟨fun happened => ?_, fun loops => ?_, fun left => ?_⟩
    · have place := history.told (told.mp happened)
      rw [outside, unleft] at place
      simp at place
    · rw [still] at loops
      cases loops
    · rw [unended] at left
      cases left
  cases moves with
  | makes place | spawns place | publishes place =>
      exact early (by rw [place]; rfl) (by rw [place]; rfl) rfl rfl
  | enables place =>
      refine ⟨fun _ => .inl rfl, fun _ => ⟨(fun cleared => by cases cleared), fun happened => ?_⟩,
        fun left => by cases left⟩
      have looped := history.told (told.mp happened)
      rw [place] at looped
      rcases looped with loops | left
      · cases loops
      · cases left
  | serves => exact history.same ran rfl rfl (not_tells_main answer)
  | clears place =>
      refine ⟨fun _ => .inr rfl, (fun loops => by cases loops), fun _ => ?_⟩
      rw [told, broken]
      exact (history.left (by rw [place]; rfl)).imp_right .inl
  | goes leads =>
      cases leads.kind with
      | before outside unleft still unended => exact early outside unleft still unended
      | breaks failed at_call out ends =>
          refine ⟨fun _ => .inr ends, fun loops => ?_, fun _ => .inr (broken.mpr (.inr ?_))⟩
          · rw [goTo, out] at loops
            cases loops
          · exact ⟨congrArg Act.main failed, at_call⟩
      | inside loops still unended =>
          refine ⟨fun _ => .inl still, fun _ => ?_, fun left => ?_⟩
          · rw [told]
            exact history.looping loops
          · rw [goTo, unended] at left
            cases left
      | leaves loops stopped out ends =>
          refine ⟨fun _ => .inr ends, fun looped => ?_, fun _ => .inl (told.mpr ?_)⟩
          · rw [goTo, out] at looped
            cases looped
          · exact (history.looping loops).mp stopped
      | behind left out ends =>
          refine ⟨fun _ => .inr ends, fun loops => ?_, fun _ => ?_⟩
          · rw [goTo, out] at loops
            cases loops
          · rw [told, broken]
            exact (history.left left).imp_right .inl

theorem History.step {acts : List Act} {act : Act} (history : History acts process)
    (ran : run acts = some process) (moves : Move process act next) :
    History (acts ++ [act]) next := by
  cases moves with
  | main free moves => exact history.main ran moves
  | ticks | locks | unlocks | signals =>
      refine history.same ran rfl rfl ?_
      rintro ⟨index, thread, same, -⟩
      cases same
  | refresher answer free moves =>
      refine history.same ran moves.frame.main moves.frame.mRunning ?_
      rintro ⟨index, thread, same, -⟩
      cases same
  | @handler index thread handler moved later found free moves =>
      have silent (other : handler ≠ .storing true) : ¬ process.Tells (.handler index) := by
        rintro ⟨place, owner, same, stores, -⟩
        obtain rfl := Act.handler.inj same
        rw [found] at stores
        exact other (congrArg Prod.snd (Option.some.inj stores))
      cases moves with
      | locks | unlocks | halts | finds | misses | loads =>
          exact history.same ran rfl rfl (silent (by simp))
      | dangles gone =>
          refine history.same ran rfl rfl ?_
          rintro ⟨place, owner, same, stores, loops⟩
          obtain rfl := Act.handler.inj same
          rw [found] at stores
          obtain ⟨-, rfl⟩ := by simpa using stores
          cases here : process.main <;> simp_all [Main.server, Main.looping]
      | stores there =>
          have told := Scheduled.happened_concat Process.Tells ran (.handler index)
          have broken := Scheduled.happened_concat Process.Breaks ran (.handler index)
          refine ⟨fun happened => ?_, fun loops => ⟨fun _ => ?_, fun _ => rfl⟩, fun left => ?_⟩
          · rcases told.mp happened with before | ⟨-, -, -, -, loops⟩
            · exact history.told before
            · exact .inl loops
          · exact told.mpr (.inr ⟨index, thread, rfl, found, loops⟩)
          · rw [told, broken]
            exact (history.left left).imp .inl .inl

theorem history_initial : History [] Process.initial where
  told := fun happened => absurd happened (Scheduled.not_happened_nil _)
  looping := fun loops => by cases loops
  left := fun left => by cases left

/-! ## Behind the store -/

/-- The flag is cleared behind `run`'s assignment. -/
structure Process.Stopped (process : Process) : Prop where
  cleared : process.mRunning = false
  place : process.main.looping = true ∨ process.main.left = true

/-- A step of a daemon that was told to stop. -/
theorem Move.stopped {act : Act} (moves : Move process act next) (stopped : process.Stopped) :
    next.Stopped ∧ next.main.remaining + [act].countP Act.advances ≤ process.main.remaining ∧
      (next.main = .waiting → process.main = .waiting) := by
  have idles (main : next.main = process.main) (mRunning : next.mRunning = false)
      (idle : act.advances = false) :
      next.Stopped ∧ next.main.remaining + [act].countP Act.advances ≤ process.main.remaining ∧
        (next.main = .waiting → process.main = .waiting) := by
    refine ⟨⟨mRunning, main ▸ stopped.place⟩, ?_, ?_⟩
    · simp [main, idle]
    · rw [main]
      exact id
  cases moves with
  | ticks | locks | unlocks | signals => exact idles rfl stopped.cleared rfl
  | refresher answer free moves =>
      exact idles moves.frame.main (moves.frame.mRunning.trans stopped.cleared) rfl
  | handler found free moves =>
      cases moves with
      | stores => exact idles rfl rfl rfl
      | _ => exact idles rfl stopped.cleared rfl
  | @main answer later free moves =>
      have one : [Act.main answer].countP Act.advances ≤ 1 := List.countP_le_length
      have outside (loops : process.main.looping = false) (left : process.main.left = false) :
          False := by
        have place := stopped.place
        rw [loops, left] at place
        simp at place
      cases moves with
      | makes place | spawns place | publishes place | enables place =>
          exact (outside (by rw [place]; rfl) (by rw [place]; rfl)).elim
      | serves place call asked =>
          subst asked
          exact idles rfl stopped.cleared rfl
      | clears place =>
          refine ⟨⟨stopped.cleared, .inr rfl⟩, ?_, fun waits => by cases waits⟩
          rw [place]
          exact Nat.add_le_add_left one 3
      | goes leads =>
          rw [stopped.cleared] at leads
          obtain ⟨less, on, awake⟩ := leads.remaining stopped.place
          refine ⟨⟨stopped.cleared, on⟩, ?_, fun waits => absurd waits awake⟩
          simp only [goTo]
          omega

/-- No step of `main` begins to wait again. -/
theorem Move.awake {answer : Answer} (moves : Move process (.main answer) next)
    (stopped : process.Stopped) : next.main ≠ .waiting := by
  cases moves with
  | main free moves =>
      cases moves with
      | makes | spawns | publishes | enables | clears => simp [goTo, generate]
      | serves place => simp [place]
      | goes leads =>
          rw [stopped.cleared] at leads
          exact (leads.remaining stopped.place).2.2

/-- The handler has cleared `g_running`. -/
def Handler.halted : Handler → Bool
  | announcing | announced | halting => false
  | testing | loading | storing _ | returned => true

/-- What holds in every state. -/
structure Process.Sane (process : Process) : Prop where
  halted : ∀ thread handler, (thread, handler) ∈ process.handlers → handler.halted = true →
    process.gRunning = false
  fits : ∀ events, process.main = .serving events → events ≤ maxEvents

theorem Move.sane {act : Act} (moves : Move process act next) (sane : process.Sane) :
    next.Sane := by
  cases moves with
  | ticks | locks | unlocks => exact ⟨sane.halted, sane.fits⟩
  | signals =>
      refine ⟨fun thread handler member halted => ?_, sane.fits⟩
      rcases List.mem_append.mp member with before | new
      · exact sane.halted thread handler before halted
      · obtain ⟨rfl, rfl⟩ := by simpa using new
        cases halted
  | refresher answer free moves =>
      refine ⟨?_, ?_⟩
      · rw [moves.frame.handlers, moves.frame.gRunning]
        exact sane.halted
      · rw [moves.frame.main]
        exact sane.fits
  | main free moves =>
      refine ⟨?_, fun events here => ?_⟩
      · rw [moves.handlers, moves.gRunning]
        exact sane.halted
      · cases moves with
        | makes | spawns | publishes | enables | clears => cases here
        | serves => exact sane.fits events here
        | goes leads => exact leads.fits sane.fits events here
  | @handler index thread handler moved later found free moves =>
      refine ⟨fun other place member halted => ?_, ?_⟩
      · have known := sane.halted thread handler (List.mem_of_getElem? found)
        rcases moves.mem_set member with before | ⟨rfl, rfl⟩
        · have halts := sane.halted other place before halted
          cases moves <;> first | exact halts | rfl
        · cases moves with
          | locks | unlocks => cases halted
          | halts => rfl
          | _ => exact known rfl
      · change ∀ events, later.main = .serving events → events ≤ maxEvents
        rw [moves.frame.main]
        exact sane.fits

theorem sane_of_run {acts : List Act} (ran : run acts = some process) : process.Sane := by
  refine Scheduled.run_keeps (fun sane stepped => (step_moves stepped).sane sane) ?_ ran
  exact ⟨by simp [Process.initial], by simp [Process.initial]⟩

/-- A PIN that the thread is going to make. -/
def Refresher.pending : Refresher → Nat
  | generating => 1
  | _ => 0

/-- The daemon is halted behind the first PIN: one more may be under way. -/
theorem Move.made {act : Act} (moves : Move process act next) (halted : process.gRunning = false)
    (past : process.main ≠ .generating) :
    next.gRunning = false ∧ next.main ≠ .generating ∧
      next.made.length + next.refresher.pending ≤ process.made.length +
        process.refresher.pending := by
  cases moves with
  | ticks | locks | unlocks | signals => exact ⟨halted, past, Nat.le_refl _⟩
  | handler found free moves =>
      refine ⟨?_, ?_, ?_⟩
      · cases moves <;> first | exact halted | rfl
      · exact fun here => past (moves.frame.main ▸ here)
      · exact Nat.le_of_eq (by rw [moves.frame.made, moves.frame.refresher])
  | refresher answer free moves =>
      refine ⟨moves.frame.gRunning.trans halted, fun here => past (moves.frame.main ▸ here), ?_⟩
      cases moves with
      | begins place runs | goes place runs =>
          rw [halted] at runs
          cases runs
      | makes place there rotation => simp [generate, Refresher.pending, place]
      | wakes place | updates place | logs place => simp [Refresher.pending, place]
      | ends place => simp [Refresher.pending]
      | dangles => exact Nat.le_refl _
  | main free moves =>
      refine ⟨moves.gRunning.trans halted, ?_⟩
      cases moves with
      | makes place => exact absurd place past
      | spawns place => exact ⟨by simp [goTo], by simp [goTo, Refresher.pending]⟩
      | publishes | enables | clears => exact ⟨by simp [goTo], Nat.le_refl _⟩
      | serves => exact ⟨past, Nat.le_refl _⟩
      | goes leads => exact ⟨leads.started, Nat.le_refl _⟩

theorem Main.remaining_le {main : Main}
    (fits : ∀ events, main = .serving events → events ≤ maxEvents) :
    main.remaining ≤ 73 := by
  cases main with
  | serving events =>
      have few := fits events rfl
      simp only [maxEvents] at few
      simp only [remaining]
      omega
  | _ => decide

theorem Main.ended_of_remaining {main : Main} (place : main.looping = true ∨ main.left = true)
    (nothing : main.remaining = 0) : main = .ended := by
  cases main <;> simp_all [looping, left, remaining]

/-- The store of the handler stops the loop, and `g_running` was cleared before. -/
theorem Move.told {act : Act} (moves : Move process act next) (sane : process.Sane)
    (tells : process.Tells act) :
    next.Stopped ∧ next.Sane ∧ next.gRunning = false ∧ next.main = process.main ∧
      next.made = process.made ∧ next.refresher = process.refresher := by
  have still := moves.sane sane
  obtain ⟨index, thread, rfl, stores, loops⟩ := tells
  cases moves with
  | @handler _ thread handler moved later found free moves =>
      obtain ⟨rfl, rfl⟩ := by simpa using found.symm.trans stores
      have halted := sane.halted thread _ (List.mem_of_getElem? found) rfl
      cases moves with
      | stores => exact ⟨⟨rfl, .inl loops⟩, still, halted, rfl, rfl, rfl⟩
      | dangles gone => cases here : process.main <;> simp_all [Main.server, Main.looping]

/-- A signal ends the daemon exactly if its handler stores while the loop runs: only this clears the
flag of the running loop, and the loop is left only so or by a failure.  Then `main` ends within 73
of its steps, none of which begins to wait, and at most one more PIN is made. -/
theorem signal_ends_daemon {acts : List Act} {process : Process} (ran : run acts = some process) :
    (process.main.looping = true →
        (process.mRunning = false ↔ Scheduled.Happened step Process.Tells .initial acts)) ∧
      (process.main.left = true →
        Scheduled.Happened step Process.Tells .initial acts ∨
          Scheduled.Happened step Process.Breaks .initial acts) ∧
      ∀ act later final, process.Tells act →
        Scheduled.run step process (act :: later) = some final →
          later.countP Act.advances ≤ 73 ∧
            (later.countP Act.advances = 73 → final.main = .ended) ∧
            (final.main = .waiting → process.main = .waiting) ∧
            (∀ answer after, step final (.main answer) = some after → after.main ≠ .waiting) ∧
            final.made.length ≤ process.made.length + 1 := by
  have history := Scheduled.run_history History history_initial
    (fun history ran stepped => history.step ran (step_moves stepped)) ran
  have sane := sane_of_run ran
  refine ⟨history.looping, history.left, fun act later final tells runs => ?_⟩
  obtain ⟨next, first, rest⟩ := Scheduled.run_cons_eq_some.mp runs
  obtain ⟨stopped, still, halted, main, made, refresher⟩ := (step_moves first).told sane tells
  have spends := Scheduled.run_spends Process.Stopped (fun process => process.main.remaining)
    Act.advances (fun stopped stepped =>
      have moved := (step_moves stepped).stopped stopped
      ⟨moved.1, moved.2.1⟩) stopped rest
  obtain ⟨ends, awake⟩ := @Scheduled.run_keeps _ _ _
    (fun later => later.Stopped ∧ (later.main = .waiting → next.main = .waiting))
    (fun kept stepped =>
      have moved := (step_moves stepped).stopped kept.1
      ⟨moved.1, kept.2 ∘ moved.2.2⟩) _ _ _ ⟨stopped, id⟩ rest
  have past : next.main ≠ .generating := by
    obtain ⟨-, -, -, -, loops⟩ := tells
    rw [main]
    rintro here
    rw [here] at loops
    cases loops
  obtain ⟨-, -, few⟩ := @Scheduled.run_keeps _ _ _
    (fun later => later.gRunning = false ∧ later.main ≠ .generating ∧
      later.made.length + later.refresher.pending ≤ next.made.length + next.refresher.pending)
    (fun kept stepped =>
      have moved := (step_moves stepped).made kept.1 kept.2.1
      ⟨moved.1, moved.2.1, Nat.le_trans moved.2.2 kept.2.2⟩) _ _ _
        ⟨halted, past, Nat.le_refl _⟩ rest
  have bound := Main.remaining_le still.fits
  have pending : next.refresher.pending ≤ 1 := by
    cases next.refresher <;> simp [Refresher.pending]
  refine ⟨by omega, fun all => ?_, fun waits => main ▸ awake waits,
    fun answer after stepped => ?_, ?_⟩
  · exact Main.ended_of_remaining ends.place (by omega)
  · exact (step_moves stepped).awake ends
  · rw [made] at few
    omega

/-- A signal that comes before `run` sets its flag. -/
def earlySignal : List Act :=
  [.main (.pin none []), .main .ok, .main .ok, .main .ok, .main .ok, .main .ok, .signal .main,
    .handler 0, .handler 0, .handler 0, .handler 0, .handler 0, .handler 0, .main .ok, .main .ok,
    .main .ok]

/-- A signal that comes while `main` waits for events, up to the store of its handler. -/
def waitingSignal : List Act :=
  [.main (.pin none []), .main .ok, .main .ok, .main .ok, .main .ok, .main .ok, .main .ok,
    .main .ok, .main .ok, .signal .main, .handler 0, .handler 0, .handler 0, .handler 0, .handler 0]

/-- What `main` does behind that store. -/
def lastSteps : List Act :=
  [.main .interrupted, .main .ok, .main .ok, .main .ok, .main .ok, .main .ok, .main .ok, .main .ok]

/-- The early signal is lost, the other one ends the daemon. -/
theorem signal_ends_daemon_runs :
    (∃ process, run earlySignal = some process ∧ process.main = .waiting ∧
      process.gRunning = false ∧
      process.handlers = [(.main, .returned)] ∧
      ¬ Scheduled.Happened step Process.Tells .initial earlySignal) ∧
    ∃ process final, run waitingSignal = some process ∧ process.main = .waiting ∧
      process.Tells (.handler 0) ∧
      Scheduled.run step process (.handler 0 :: lastSteps) = some final ∧ final.main = .ended ∧
      final.made.length ≤ process.made.length + 1 := by
  constructor
  · have shape : (run earlySignal).map (fun process =>
        (process.main, process.gRunning, process.mRunning, process.handlers)) =
          some (.waiting, false, true, [(.main, .returned)]) := by decide +kernel
    obtain ⟨process, ran, parts⟩ := Option.map_eq_some_iff.mp shape
    obtain ⟨waiting, halted, running, handlers⟩ : process.main = .waiting ∧
        process.gRunning = false ∧
        process.mRunning = true ∧ process.handlers = [(.main, .returned)] := by simpa using parts
    refine ⟨process, ran, waiting, halted, handlers, fun told => ?_⟩
    have cleared := ((signal_ends_daemon ran).1 (by rw [waiting]; rfl)).mpr told
    rw [running] at cleared
    cases cleared
  · have shape : (run waitingSignal).map (fun process => (process.main, process.handlers,
        (Scheduled.run step process (.handler 0 :: lastSteps)).map Process.main)) =
          some (.waiting, [(.main, .storing true)], some .ended) := by decide +kernel
    obtain ⟨process, ran, parts⟩ := Option.map_eq_some_iff.mp shape
    obtain ⟨waiting, handlers, rest⟩ : process.main = .waiting ∧
        process.handlers = [(.main, .storing true)] ∧
          (Scheduled.run step process (.handler 0 :: lastSteps)).map Process.main =
            some .ended := by
      simpa using parts
    obtain ⟨final, runs, ended⟩ := Option.map_eq_some_iff.mp rest
    have tells : process.Tells (.handler 0) :=
      ⟨0, .main, rfl, by rw [handlers]; rfl, by rw [waiting]; rfl⟩
    obtain ⟨-, -, -, -, made⟩ := (signal_ends_daemon ran).2.2 _ _ final tells runs
    exact ⟨process, final, ran, waiting, tells, runs, ended, made⟩

end DaemonMain
end TitanShare
