import TitanShare.DaemonShutdown
import TitanShare.LogMutex

/-!
# What the threads use at the end

The refresh thread is detached and a signal may be handled on any thread, so `main` destroys its
objects beside them.  Until `main` clears `g_server` no handler and not the refresh thread uses what
is not there; once the server is destroyed it can be told exactly which of them still can.
-/

namespace TitanShare
namespace DaemonMain

open Process

variable {process next : Process}

namespace Main

/-- `g_server` refers to the server. -/
def published : Main → Bool
  | opening | enabling | testing | waiting | serving _ | stoppingMdns | stoppingBridge | clearing =>
      true
  | _ => false

/-- `g_server` was cleared. -/
def cleared : Main → Bool
  | leaving | droppingMdns | droppingManager | ended => true
  | _ => false

/-- The server was destroyed. -/
def gone : Main → Bool
  | droppingMdns | droppingManager | ended => true
  | _ => false

theorem Leads.published_eq {running : Bool} {answer : Answer} {place main : Main}
    (leads : place.Leads running answer main) : main.published = place.published := by
  cases leads <;> rfl

theorem Leads.cleared_eq {running : Bool} {answer : Answer} {place main : Main}
    (leads : place.Leads running answer main) : main.cleared = place.cleared := by
  cases leads <;> rfl

theorem Leads.gone {running : Bool} {answer : Answer} {place main : Main}
    (leads : place.Leads running answer main) (gone : place.gone = true) : main.gone = true := by
  cases leads <;> first | rfl | cases gone

theorem server_of_published {main : Main} (published : main.published = true) :
    main.server = true := by
  cases main <;> first | rfl | cases published

theorem server_of_gone {main : Main} (gone : main.gone = true) : main.server = false := by
  cases main <;> first | rfl | cases gone

theorem unpublished_of_gone {main : Main} (gone : main.gone = true) : main.published = false := by
  cases main <;> first | rfl | cases gone

theorem there_of_not_cleared {main : Main} (kept : main.cleared = false)
    (started : main ≠ .generating) :
    main.sessionMgr = true ∧ main.mdns = true := by
  cases main <;> first | exact ⟨rfl, rfl⟩ | exact absurd rfl started | cases kept

end Main

/-- The handler has found `g_server` set. -/
def Handler.pointing : Handler → Bool
  | loading | storing _ => true
  | _ => false

/-! ## Before `g_server` is cleared -/

/-- What the pointer and its readers know while it is not cleared. -/
structure Process.Pointed (process : Process) : Prop where
  server : process.gServer = process.main.published
  born : process.main = .generating → process.refresher = .absent
  intact : process.main.cleared = false → process.dangling = false
  pointing : process.main.cleared = false → ∀ thread handler, (thread, handler) ∈ process.handlers →
    handler.pointing = true → process.main.published = true ∧ handler ≠ .storing false

theorem pointed_initial : Process.initial.Pointed where
  server := rfl
  born _ := rfl
  intact _ := rfl
  pointing _ := by simp [Process.initial]

theorem MainMove.pointed {answer : Answer} (moves : MainMove process answer next)
    (pointed : process.Pointed) : next.Pointed := by
  cases moves with
  | makes place | spawns place | enables place | publishes place =>
      have unread := pointed.pointing (by rw [place]; rfl)
      have server := pointed.server
      rw [place] at server unread
      have intact := pointed.intact (by rw [place]; rfl)
      refine ⟨?_, by simp [goTo], fun _ => intact, fun _ thread handler member points => ?_⟩
      · first | exact server | rfl
      · first
        | exact unread thread handler member points
        | cases (unread thread handler member points).1
  | serves => exact ⟨pointed.server, pointed.born, pointed.intact, pointed.pointing⟩
  | clears place =>
      exact ⟨rfl, by simp [goTo], (fun kept => by cases kept), fun kept => by cases kept⟩
  | goes leads =>
      refine ⟨?_, fun starts => absurd starts leads.started, fun kept => ?_, fun kept => ?_⟩
      · exact pointed.server.trans leads.published_eq.symm
      · exact pointed.intact (leads.cleared_eq ▸ kept)
      · rw [goTo, leads.published_eq]
        exact pointed.pointing (leads.cleared_eq ▸ kept)

theorem RefresherMove.pointed (moves : RefresherMove process next) (pointed : process.Pointed) :
    next.Pointed := by
  have frame := moves.frame
  have alive : process.refresher ≠ .absent := by
    cases moves with
    | ends place => rcases place with place | place <;> simp [place]
    | dangles place => rcases place with ⟨-, place | place⟩ | ⟨-, place⟩ <;> simp [place]
    | begins place | wakes place | goes place | makes place | updates place | logs place =>
        simp [place]
  have started : process.main ≠ .generating := fun starts => alive (pointed.born starts)
  refine ⟨?_, ?_, fun kept => ?_, ?_⟩
  · rw [frame.gServer, frame.main]
    exact pointed.server
  · rw [frame.main]
    exact fun starts => absurd starts started
  · rw [frame.main] at kept
    cases moves with
    | dangles place =>
        obtain ⟨manager, mdns⟩ := Main.there_of_not_cleared kept started
        simp [manager, mdns] at place
    | _ => exact pointed.intact kept
  · rw [frame.main, frame.handlers]
    exact pointed.pointing

theorem Move.pointed {act : Act} (moves : Move process act next) (pointed : process.Pointed) :
    next.Pointed := by
  cases moves with
  | ticks | locks | unlocks =>
      exact ⟨pointed.server, pointed.born, pointed.intact, pointed.pointing⟩
  | main free moves => exact moves.pointed pointed
  | refresher answer free moves => exact moves.pointed pointed
  | signals =>
      refine ⟨pointed.server, pointed.born, pointed.intact,
        fun kept thread handler member points => ?_⟩
      rcases List.mem_append.mp member with before | new
      · exact pointed.pointing kept thread handler before points
      · obtain ⟨-, rfl⟩ := by simpa using new
        cases points
  | @handler index thread handler moved later found free moves =>
      have frame := moves.frame
      have member := List.mem_of_getElem? found
      have known (kept : process.main.cleared = false) :=
        pointed.pointing kept thread handler member
      refine ⟨?_, ?_, fun kept => ?_, fun kept owner other there points => ?_⟩
      · change later.gServer = later.main.published
        rw [frame.gServer, frame.main]
        exact pointed.server
      · change later.main = .generating → later.refresher = .absent
        rw [frame.main, frame.refresher]
        exact pointed.born
      · change later.main.cleared = false at kept
        rw [frame.main] at kept
        cases moves with
        | @dangles pointer missing =>
            obtain ⟨published, pointer_ne⟩ := known kept rfl
            rw [Main.server_of_published published] at missing
            cases pointer with
            | true => cases missing
            | false => exact absurd rfl pointer_ne
        | _ => exact pointed.intact kept
      · change later.main.cleared = false at kept
        change later.main.published = true ∧ _
        rw [frame.main] at kept ⊢
        rcases moves.mem_set there with before | ⟨rfl, rfl⟩
        · exact pointed.pointing kept owner other before points
        · cases moves with
          | finds set =>
              rw [pointed.server] at set
              exact ⟨set, by simp⟩
          | loads =>
              obtain ⟨published, -⟩ := known kept rfl
              refine ⟨published, ?_⟩
              rw [pointed.server, published]
              simp
          | _ => cases points

/-! ## Behind the destruction of the server -/

namespace Refresher

/-- Between its test and its next sleep. -/
def refreshes : Refresher → Bool
  | generating | updating | logging => true
  | _ => false

/-- On the way to its next test. -/
def rounds : Refresher → Bool
  | testing | sleeping _ | checking => true
  | _ => false

end Refresher

/-- No handler and not the refresh thread comes to an object of `main` any more. -/
structure Process.Harmless (process : Process) : Prop where
  handlers : ∀ thread handler, (thread, handler) ∈ process.handlers → handler.pointing = false
  refreshes : process.refresher.refreshes = false
  rounds : process.refresher.rounds = true →
    process.gRunning = false ∨ process.interruptedFrom 0 .refresher = true

/-- The server was destroyed, and no handler and not the refresh thread uses what was destroyed. -/
structure Process.Shut (process : Process) : Prop where
  gone : process.main.gone = true
  cleared : process.gServer = false
  halted : ∀ thread handler, (thread, handler) ∈ process.handlers → handler.halted = true →
    process.gRunning = false
  intact : process.dangling = false
  harmless : process.Harmless

theorem interruptedFrom_set {place index : Nat} {thread owner : Thread} {handler moved : Handler}
    (interrupts : process.interruptedFrom place thread = true)
    (found : process.handlers[index]? = some (owner, handler)) (live : moved ≠ .returned)
    (handlers : next.handlers = process.handlers.set index (owner, moved)) :
    next.interruptedFrom place thread = true := by
  obtain ⟨other, waits, behind, there, unfinished⟩ := interruptedFrom_iff.mp interrupts
  have inside := (List.getElem?_eq_some_iff.mp found).1
  by_cases same : index = other
  · subst same
    obtain ⟨rfl, rfl⟩ := Prod.mk.inj (Option.some.inj (found.symm.trans there))
    refine interruptedFrom_iff.mpr ⟨index, moved, behind, ?_, live⟩
    rw [handlers, List.getElem?_set_self inside]
  · refine interruptedFrom_iff.mpr ⟨other, waits, behind, ?_, unfinished⟩
    rw [handlers, List.getElem?_set_ne same]
    exact there

theorem MainMove.shut {answer : Answer} (moves : MainMove process answer next)
    (shut : process.Shut) :
    next.Shut := by
  have gone := shut.gone
  cases moves with
  | makes place | spawns place | publishes place | enables place | serves place | clears place =>
      rw [place] at gone
      cases gone
  | goes leads =>
      have harmless := shut.harmless
      exact ⟨leads.gone gone, shut.cleared, shut.halted, shut.intact,
        harmless.handlers, harmless.refreshes, harmless.rounds⟩

theorem RefresherMove.shut (moves : RefresherMove process next)
    (free : process.interruptedFrom 0 .refresher = false) (shut : process.Shut) : next.Shut := by
  have quiet := shut.harmless.refreshes
  -- it goes round only to find that it has to stop
  have halted (place : process.refresher.rounds = true) : process.gRunning = false := by
    refine (shut.harmless.rounds place).resolve_right ?_
    rw [free]
    exact Bool.false_ne_true
  cases moves with
  | begins place runs | goes place runs =>
      rw [halted (by rw [place]; rfl)] at runs
      cases runs
  | wakes place woken =>
      have stopped := halted (by rw [place]; rfl)
      exact ⟨shut.gone, shut.cleared, shut.halted, shut.intact, shut.harmless.handlers, rfl,
        fun _ => .inl stopped⟩
  | ends place stopped =>
      exact ⟨shut.gone, shut.cleared, shut.halted, shut.intact, shut.harmless.handlers, rfl,
        fun _ => .inl stopped⟩
  | makes place | updates place | logs place =>
      rw [place] at quiet
      cases quiet
  | dangles place =>
      rcases place with ⟨-, place | place⟩ | ⟨-, place⟩ <;> rw [place] at quiet <;> cases quiet

theorem Move.shut {act : Act} (moves : Move process act next) (shut : process.Shut) :
    next.Shut := by
  have harmless := shut.harmless
  cases moves with
  | ticks | locks | unlocks =>
      exact ⟨shut.gone, shut.cleared, shut.halted, shut.intact,
        harmless.handlers, harmless.refreshes, harmless.rounds⟩
  | main free moves => exact moves.shut shut
  | refresher answer free moves =>
      refine moves.shut ?_ shut
      simp only [Process.free, Bool.and_eq_true, Bool.not_eq_true'] at free
      exact free.1
  | signals =>
      refine ⟨shut.gone, shut.cleared, fun thread handler member passed => ?_, shut.intact,
        fun thread handler member => ?_, harmless.refreshes, fun rounds => ?_⟩
      · rcases List.mem_append.mp member with before | new
        · exact shut.halted thread handler before passed
        · obtain ⟨-, rfl⟩ := by simpa using new
          cases passed
      · rcases List.mem_append.mp member with before | new
        · exact harmless.handlers thread handler before
        · obtain ⟨-, rfl⟩ := by simpa using new
          rfl
      · refine (harmless.rounds rounds).imp_right fun interrupts => ?_
        obtain ⟨index, handler, behind, found, live⟩ := interruptedFrom_iff.mp interrupts
        refine interruptedFrom_iff.mpr ⟨index, handler, behind, ?_, live⟩
        exact (List.getElem?_append_left (List.getElem?_eq_some_iff.mp found).1).trans found
  | @handler index thread handler moved later found free moves =>
      have member := List.mem_of_getElem? found
      have frame := moves.frame
      have blind := harmless.handlers thread handler member
      have dangling : later.dangling = false := by
        cases moves with
        | dangles => cases blind
        | _ => exact shut.intact
      have moved_blind : moved.pointing = false := by
        cases moves with
        | finds set =>
            rw [shut.cleared] at set
            cases set
        | loads => cases blind
        | _ => rfl
      have stops : later.gRunning = false ∨
          later.gRunning = process.gRunning ∧ moved.halted = handler.halted ∧
            (moved = .returned → process.gRunning = false) := by
        cases moves with
        | halts => exact .inl rfl
        | misses unset => exact .inr ⟨rfl, rfl, fun _ => shut.halted thread _ member rfl⟩
        | stores | dangles | loads => cases blind
        | locks | unlocks | finds => exact .inr ⟨rfl, rfl, by simp⟩
      refine ⟨?_, frame.gServer.trans shut.cleared, fun owner other there passed => ?_, dangling,
        fun owner other there => ?_, ?_, fun rounds => ?_⟩
      · change later.main.gone = true
        rw [frame.main]
        exact shut.gone
      · change later.gRunning = false
        rcases stops with stopped | ⟨same, passes, -⟩
        · exact stopped
        · rw [same]
          rcases moves.mem_set there with before | ⟨rfl, rfl⟩
          · exact shut.halted owner other before passed
          · exact shut.halted owner handler member (passes ▸ passed)
      · rcases moves.mem_set there with before | ⟨rfl, rfl⟩
        · exact harmless.handlers owner other before
        · exact moved_blind
      · change later.refresher.refreshes = false
        rw [frame.refresher]
        exact harmless.refreshes
      · change later.refresher.rounds = true at rounds
        change later.gRunning = false ∨ _
        rw [frame.refresher] at rounds
        rcases stops with stopped | ⟨same, -, returned⟩
        · exact .inl stopped
        · rw [same]
          rcases harmless.rounds rounds with stopped | interrupts
          · exact .inl stopped
          · by_cases live : moved = .returned
            · exact .inl (returned live)
            · exact .inr (interruptedFrom_set interrupts found live (by rw [frame.handlers]))

/-! ## How it comes to that -/

theorem Process.Able.same (able : process.Able) (handlers : next.handlers = process.handlers)
    (log : next.log = process.log) : next.Able where
  held := by
    intro index
    rw [handlers, log]
    exact able.held index
  clear := able.clear.same handlers log

/-- The server was destroyed, and somebody has used or is about to use what is gone. -/
structure Process.Doomed (process : Process) : Prop where
  able : process.Able
  gone : process.main.gone = true
  doomed : process.dangling = true ∨ process.refresher.refreshes = true ∨
    ∃ thread handler, (thread, handler) ∈ process.handlers ∧ handler.pointing = true

theorem Move.doomed {act : Act} (moves : Move process act next) (settles : act.settles = true)
    (doomed : process.Doomed) : next.Doomed := by
  have able := moves.able doomed.able (not_interrupts_of_settles settles)
  cases moves with
  | unlocks => exact ⟨able, doomed.gone, doomed.doomed⟩
  | ticks | locks | signals | main | refresher => cases settles
  | @handler index thread handler moved later found free moves =>
      have frame := moves.frame
      have inside := (List.getElem?_eq_some_iff.mp found).1
      have here : (thread, moved) ∈ process.handlers.set index (thread, moved) :=
        List.mem_of_getElem? (List.getElem?_set_self inside)
      have known : later.dangling = true ∨ later.dangling = process.dangling ∧
          (handler.pointing = true → moved.pointing = true) := by
        cases moves with
        | dangles => exact .inl rfl
        | stores there =>
            rw [Main.server_of_gone doomed.gone] at there
            cases there
        | _ => exact .inr ⟨rfl, by simp [Handler.pointing]⟩
      refine ⟨able, ?_, ?_⟩
      · change later.main.gone = true
        rw [frame.main]
        exact doomed.gone
      · change later.dangling = true ∨ later.refresher.refreshes = true ∨ ∃ owner other,
          (owner, other) ∈ later.handlers.set index (thread, moved) ∧ other.pointing = true
        rw [frame.refresher, frame.handlers]
        rcases known with dangling | ⟨same, points⟩
        · exact .inl dangling
        · rw [same]
          refine doomed.doomed.imp_right (.imp_right ?_)
          rintro ⟨owner, other, member, pointing⟩
          obtain ⟨place, there⟩ := List.mem_iff_getElem?.mp member
          by_cases moves_on : index = place
          · subst moves_on
            obtain ⟨rfl, rfl⟩ := Prod.mk.inj (Option.some.inj (found.symm.trans there))
            exact ⟨thread, moved, here, points pointing⟩
          · refine ⟨owner, other, List.mem_iff_getElem?.mpr ⟨place, ?_⟩, pointing⟩
            rw [List.getElem?_set_ne moves_on]
            exact there

/-- No handler is at work and nobody writes to the log. -/
structure Process.Settled (process : Process) : Prop where
  returned : ∀ handler ∈ process.handlers, handler.2 = .returned
  unlocked : process.log = none

theorem Process.Settled.free (settled : process.Settled) (thread : Thread) :
    process.free thread = true := by
  have idle : process.interruptedFrom 0 thread = false := by
    rw [Bool.eq_false_iff]
    intro interrupts
    obtain ⟨index, handler, -, found, live⟩ := interruptedFrom_iff.mp interrupts
    exact live (settled.returned _ (List.mem_of_getElem? found))
  simp [Process.free, idle, settled.unlocked]

theorem Process.Doomed.settles (doomed : process.Doomed) :
    ∃ acts final, Scheduled.run Process.step process acts = some final ∧
      final.Doomed ∧ final.Settled := by
  refine Scheduled.exists_run_of_spends Process.work (fun process doomed unready => ?_) doomed
  have unsettled (unlocked : process.log = none) :
      ∃ handler ∈ process.handlers, handler.2 ≠ .returned := by
    by_contra ended
    push Not at ended
    exact unready ⟨doomed, ended, unlocked⟩
  obtain ⟨act, next, stepped, settles, less⟩ :=
    Process.exists_step doomed.able.held doomed.able.clear unsettled
  exact ⟨act, next, stepped, (Process.step_moves stepped).doomed settles doomed, less⟩

/-- `main` comes to its end. -/
theorem Process.Settled.ends (settled : process.Settled) (gone : process.main.gone = true) :
    ∃ acts, Scheduled.run Process.step process acts = some (process.goTo .ended) := by
  have able := settled.free .main
  cases place : process.main with
  | droppingMdns =>
      have later : (process.goTo .droppingManager).free .main = true := able
      refine ⟨[.main .ok, .main .ok], ?_⟩
      simp only [Scheduled.run, Process.step, able, if_true, place, mainStep, Option.bind_some]
      simp only [later, if_true]
      simp [goTo]
  | droppingManager =>
      refine ⟨[.main .ok], ?_⟩
      simp [Scheduled.run, Process.step, able, place, mainStep]
  | ended => exact ⟨[], by rw [← place]; rfl⟩
  | _ =>
      rw [place] at gone
      cases gone

theorem Process.Settled.dangles (settled : process.Settled)
    (refreshes : process.refresher.refreshes = true) :
    Scheduled.run Process.step (process.goTo .ended) [.refresher .ok] =
      some (process.goTo .ended).dangle := by
  have able : (process.goTo .ended).free .refresher = true := settled.free .refresher
  have place : (process.goTo .ended).refresher = process.refresher := rfl
  simp only [Scheduled.run, Process.step, able, if_true, place]
  cases here : process.refresher with
  | generating | updating | logging => simp [refresherStep, goTo, Main.sessionMgr]
  | _ =>
      rw [here] at refreshes
      cases refreshes

theorem Process.Doomed.dangles (doomed : process.Doomed) :
    ∃ acts final, Scheduled.run Process.step process acts = some final ∧ final.dangling = true := by
  obtain ⟨earlier, middle, ran, still, settled⟩ := doomed.settles
  rcases still.doomed with dangling | refreshes | ⟨thread, handler, member, points⟩
  · exact ⟨earlier, middle, ran, dangling⟩
  · obtain ⟨later, ends⟩ := settled.ends still.gone
    refine ⟨earlier ++ (later ++ [.refresher .ok]), (middle.goTo .ended).dangle, ?_, rfl⟩
    rw [Scheduled.run_append, ran, Option.bind_some, Scheduled.run_append, ends, Option.bind_some]
    exact settled.dangles refreshes
  · obtain rfl := settled.returned _ member
    cases points

/-- The refresh thread passes its test once more. -/
theorem Process.exists_refresh (able : process.free .refresher = true)
    (runs : process.gRunning = true) (rounds : process.refresher.rounds = true) :
    ∃ acts clock, Scheduled.run Process.step process acts =
      some { process with clock, refresher := .generating } := by
  have free (clock : Nat) (refresher : Refresher) :
      Process.free { process with clock, refresher } .refresher = true := able
  have checks (clock : Nat) :
      Process.step { process with clock, refresher := .checking } (.refresher .ok) =
        some { process with clock, refresher := .generating } := by
    simp only [Process.step, free, if_true, refresherStep]
    simp [runs]
  have wakes (clock due : Nat) :
      Scheduled.run Process.step { process with clock, refresher := .sleeping due }
        [.tick due, .refresher .ok, .refresher .ok] =
      some { process with clock := clock + due, refresher := .generating } := by
    have awakes : Process.step { process with clock := clock + due, refresher := .sleeping due }
        (.refresher .ok) = some { process with clock := clock + due, refresher := .checking } := by
      simp only [Process.step, free, if_true, refresherStep]
      simp
    have goes := Scheduled.run_cons_eq_some.mpr ⟨_, checks (clock + due), Scheduled.run_nil _⟩
    exact Scheduled.run_cons_eq_some.mpr ⟨_, rfl, Scheduled.run_cons_eq_some.mpr ⟨_, awakes, goes⟩⟩
  cases place : process.refresher with
  | checking =>
      have here := checks process.clock
      rw [← place] at here
      exact ⟨[.refresher .ok], process.clock, by rw [Scheduled.run, here]; rfl⟩
  | sleeping due =>
      have here := wakes process.clock due
      rw [← place] at here
      exact ⟨_, _, here⟩
  | testing =>
      have begins : Process.step process (.refresher .ok) =
          some { process with refresher := .sleeping (process.clock + Config.pairingPinSecs) } := by
        simp [Process.step, able, place, refresherStep, runs]
      refine ⟨_, _, Scheduled.run_cons_eq_some.mpr ⟨_, begins, wakes process.clock _⟩⟩
  | _ =>
      rw [place] at rounds
      cases rounds

/-! ## Whole runs -/

/-- The thread goes on to its test, and from there to what is gone. -/
theorem Process.Able.refreshes (able : process.Able) (gone : process.main.gone = true)
    (rounds : process.refresher.rounds = true) (runs : process.gRunning = true)
    (idle : process.interruptedFrom 0 .refresher = false) :
    ∃ acts final, Scheduled.run Process.step process acts = some final ∧ final.Doomed := by
  by_cases writes : process.log = some (.thread .refresher)
  · -- its line in the log comes first
    have unlocks : Process.step process (.unlock .refresher) =
        some { process with log := none } := by
      simp [Process.step, writes, idle]
    have unlocked := (Process.step_moves unlocks).able able (not_interrupts_of_settles rfl)
    have free : Process.free { process with log := none } .refresher = true := by
      simp only [Process.free, Bool.and_eq_true, Bool.not_eq_true']
      exact ⟨idle, rfl⟩
    obtain ⟨acts, clock, ran⟩ := exists_refresh free runs rounds
    exact ⟨_, _, Scheduled.run_cons_eq_some.mpr ⟨_, unlocks, ran⟩,
      unlocked.same rfl rfl, gone, .inr (.inl rfl)⟩
  · have free : process.free .refresher = true := by
      simp [Process.free, idle, writes]
    obtain ⟨acts, clock, ran⟩ := exists_refresh free runs rounds
    exact ⟨acts, _, ran, able.same rfl rfl, gone, .inr (.inl rfl)⟩

/-- Until `main` has cleared `g_server` no handler and not the refresh thread uses what is not
there.  When the server was destroyed and neither has done so, and no signal has interrupted a
writer of the log, one of them can still do so exactly if a handler has found `g_server` set, or the
refresh thread is past its test, or it is on the way to the test and nothing has told it to end. -/
theorem shutdown_race {acts : List Act} (ran : run acts = some process) :
    (process.main.cleared = false → process.dangling = false) ∧
      (process.main.gone = true → process.dangling = false →
        ¬ Scheduled.Happened Process.step Process.Interrupts .initial acts →
          ((∃ later final, Scheduled.run Process.step process later = some final ∧
              final.dangling = true) ↔
            (∃ thread handler, (thread, handler) ∈ process.handlers ∧ handler.pointing = true) ∨
              process.refresher.refreshes = true ∨
              (process.refresher.rounds = true ∧ process.gRunning = true ∧
                process.interruptedFrom 0 .refresher = false))) := by
  have pointed : process.Pointed :=
    Scheduled.run_keeps (fun pointed stepped => (step_moves stepped).pointed pointed)
      pointed_initial ran
  have sane := sane_of_run ran
  refine ⟨pointed.intact, fun gone intact spared => ⟨?_, ?_⟩⟩
  · rintro ⟨later, final, rest, dangling⟩
    by_contra none
    simp only [not_or, not_and, not_exists] at none
    obtain ⟨handlers, refreshes, rounds⟩ := none
    have harmless : process.Harmless := by
      refine ⟨fun thread handler member => Bool.eq_false_iff.mpr (handlers thread handler member),
        Bool.eq_false_iff.mpr refreshes, fun goes => ?_⟩
      by_contra runs
      simp only [not_or, Bool.not_eq_false, Bool.not_eq_true] at runs
      exact rounds goes runs.1 runs.2
    have unset : process.gServer = false := pointed.server.trans (Main.unpublished_of_gone gone)
    have shut : process.Shut := ⟨gone, unset, sane.halted, intact, harmless⟩
    have kept := Scheduled.run_keeps (fun shut stepped => (step_moves stepped).shut shut) shut rest
    rw [kept.intact] at dangling
    cases dangling
  · have able := run_able ran spared
    rintro (pointing | refreshes | ⟨rounds, runs, idle⟩)
    · exact Process.Doomed.dangles ⟨able, gone, .inr (.inr pointing)⟩
    · exact Process.Doomed.dangles ⟨able, gone, .inr (.inl refreshes)⟩
    · obtain ⟨earlier, middle, first, doomed⟩ := able.refreshes gone rounds runs idle
      obtain ⟨later, final, rest, dangling⟩ := doomed.dangles
      refine ⟨earlier ++ later, final, ?_, dangling⟩
      rw [Scheduled.run_append, first]
      exact rest

/-- The port is taken, and `main` has come to the destruction of its objects. -/
def portTaken : List Act :=
  [.main (.pin none []), .main .ok, .main .ok, .main .ok, .main .ok, .main .ok, .main .failed,
    .main .ok, .main .ok, .main .ok, .main .ok]

theorem shutdown_race_port_taken :
    ∃ process, run portTaken = some process ∧ process.main = .droppingMdns ∧
      process.dangling = false ∧ ∃ later final,
        Scheduled.run Process.step process later = some final ∧ final.dangling = true := by
  have shape : (run portTaken).map (fun process =>
      (process.main, process.refresher, process.gRunning, process.dangling,
        process.handlers.length)) =
      some (.droppingMdns, .testing, true, false, 0) := by decide +kernel
  obtain ⟨process, ran, parts⟩ := Option.map_eq_some_iff.mp shape
  obtain ⟨place, refresher, runs, intact, handlers⟩ : process.main = .droppingMdns ∧
      process.refresher = .testing ∧ process.gRunning = true ∧ process.dangling = false ∧
        process.handlers.length = 0 := by simpa using parts
  have spared : ¬ Scheduled.Happened Process.step Process.Interrupts .initial portTaken := by
    rintro ⟨before, act, after, middle, split, -, thread, rfl, -⟩
    have member : Act.signal thread ∈ portTaken := by
      rw [split]
      exact List.mem_append_right _ List.mem_cons_self
    simp [portTaken] at member
  refine ⟨process, ran, place, intact, ?_⟩
  have race := (shutdown_race ran).2 (by rw [place]; rfl) intact spared
  refine race.mpr (.inr (.inr ⟨by rw [refresher]; rfl, runs, ?_⟩))
  simp [interruptedFrom, List.length_eq_zero_iff.mp handlers]

end DaemonMain
end TitanShare
