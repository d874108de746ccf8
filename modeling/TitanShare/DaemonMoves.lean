import TitanShare.DaemonMain

/-!
# The moves of the daemon's threads

What a step of `main`, of the thread that refreshes the PIN or of a signal handler can be, with what
it changes and where it leads.
-/

namespace TitanShare
namespace DaemonMain

/-- Where `main` goes by itself. -/
inductive Main.Leads (running : Bool) (answer : Answer) : Main → Main → Prop
  | advertised : Leads running answer advertising spawning
  | prepared : Leads running answer preparing constructing
  | constructed : Leads running answer constructing publishing
  | opened : Leads running answer opening enabling
  | unopened (failed : answer = .failed) : Leads running answer opening stoppingMdns
  | again (runs : running = true) : Leads running answer testing waiting
  | stops (stopped : running = false) : Leads running answer testing stoppingMdns
  | interrupted : Leads running answer waiting testing
  | broken (failed : answer = .failed) : Leads running answer waiting stoppingMdns
  | woken {count : Nat} (fits : count ≤ Process.maxEvents) :
      Leads running answer waiting (serving count)
  | served : Leads running answer (serving 0) testing
  | handled (events : Nat) : Leads running answer (serving (events + 1)) (serving events)
  | stoppedMdns : Leads running answer stoppingMdns stoppingBridge
  | stoppedBridge : Leads running answer stoppingBridge clearing
  | left : Leads running answer leaving droppingMdns
  | droppedMdns : Leads running answer droppingMdns droppingManager
  | droppedManager : Leads running answer droppingManager ended

/-- `main` never comes back to the first PIN. -/
theorem Main.Leads.started {running : Bool} {answer : Answer} {place main : Main}
    (leads : place.Leads running answer main) : main ≠ .generating := by
  cases leads <;> simp

/-- A step of `main`. -/
inductive MainMove (process : Process) (answer : Answer) : Process → Prop
  | makes (place : process.main = .generating) (rotation : Rotation) :
      MainMove process answer ((process.generate rotation).goTo .advertising)
  | spawns (place : process.main = .spawning) :
      MainMove process answer { process.goTo .preparing with refresher := .testing }
  | publishes (place : process.main = .publishing) :
      MainMove process answer { process.goTo .opening with gServer := true }
  | enables (place : process.main = .enabling) :
      MainMove process answer { process.goTo .testing with mRunning := true }
  | serves {events : Nat} (place : process.main = .serving (events + 1)) (call : SessionCall)
      (asked : answer = .call call) :
      MainMove process answer { process with manager := call.after process.manager }
  | clears (place : process.main = .clearing) :
      MainMove process answer { process.goTo .leaving with gServer := false }
  | goes {main : Main} (leads : process.main.Leads process.mRunning answer main) :
      MainMove process answer (process.goTo main)

namespace Process

variable {process next : Process} {answer : Answer}

theorem mainStep_moves (step : process.mainStep answer process.main = some next) :
    MainMove process answer next := by
  have goes {place main : Main} (here : process.main = place)
      (leads : place.Leads process.mRunning answer main) :
        MainMove process answer (process.goTo main) :=
    .goes (here ▸ leads)
  cases place : process.main with
  | generating =>
      simp only [place, mainStep] at step
      cases answer with
      | pin persisted generated =>
          obtain rfl := Option.some.inj step
          exact .makes place _
      | _ => cases step
  | advertising =>
      simp only [place, mainStep] at step
      obtain rfl := Option.some.inj step
      exact goes place .advertised
  | spawning =>
      simp only [place, mainStep] at step
      obtain rfl := Option.some.inj step
      exact .spawns place
  | preparing =>
      simp only [place, mainStep] at step
      obtain rfl := Option.some.inj step
      exact goes place .prepared
  | constructing =>
      simp only [place, mainStep] at step
      obtain rfl := Option.some.inj step
      exact goes place .constructed
  | publishing =>
      simp only [place, mainStep] at step
      obtain rfl := Option.some.inj step
      exact .publishes place
  | opening =>
      simp only [place, mainStep] at step
      cases answer with
      | ok =>
          obtain rfl := Option.some.inj step
          exact goes place .opened
      | failed =>
          obtain rfl := Option.some.inj step
          exact goes place (.unopened rfl)
      | _ => cases step
  | enabling =>
      simp only [place, mainStep] at step
      obtain rfl := Option.some.inj step
      exact .enables place
  | testing =>
      simp only [place, mainStep] at step
      obtain rfl := Option.some.inj step
      split
      case isTrue runs => exact goes place (.again runs)
      case isFalse stopped => exact goes place (.stops (Bool.eq_false_iff.mpr stopped))
  | waiting =>
      simp only [place, mainStep] at step
      cases answer with
      | interrupted =>
          obtain rfl := Option.some.inj step
          exact goes place .interrupted
      | failed =>
          obtain rfl := Option.some.inj step
          exact goes place (.broken rfl)
      | events count =>
          simp only at step
          split at step
          case isFalse => cases step
          case isTrue fits =>
              obtain rfl := Option.some.inj step
              exact goes place (.woken fits)
      | _ => cases step
  | serving events =>
      cases events with
      | zero =>
          simp only [place, mainStep, serveStep] at step
          obtain rfl := Option.some.inj step
          exact goes place .served
      | succ events =>
          simp only [place, mainStep, serveStep] at step
          cases answer with
          | ok =>
              obtain rfl := Option.some.inj step
              exact goes place (.handled events)
          | call call =>
              rw [← place] at step
              obtain rfl := Option.some.inj step
              exact .serves place call rfl
          | _ => cases step
  | stoppingMdns =>
      simp only [place, mainStep] at step
      obtain rfl := Option.some.inj step
      exact goes place .stoppedMdns
  | stoppingBridge =>
      simp only [place, mainStep] at step
      obtain rfl := Option.some.inj step
      exact goes place .stoppedBridge
  | clearing =>
      simp only [place, mainStep] at step
      obtain rfl := Option.some.inj step
      exact .clears place
  | leaving =>
      simp only [place, mainStep] at step
      obtain rfl := Option.some.inj step
      exact goes place .left
  | droppingMdns =>
      simp only [place, mainStep] at step
      obtain rfl := Option.some.inj step
      exact goes place .droppedMdns
  | droppingManager =>
      simp only [place, mainStep] at step
      obtain rfl := Option.some.inj step
      exact goes place .droppedManager
  | ended => simp [place, mainStep] at step

end Process

theorem MainMove.handlers {process next : Process} {answer : Answer}
    (moves : MainMove process answer next) : next.handlers = process.handlers := by
  cases moves <;> rfl

theorem MainMove.log {process next : Process} {answer : Answer}
    (moves : MainMove process answer next) : next.log = process.log := by
  cases moves <;> rfl

theorem MainMove.gRunning {process next : Process} {answer : Answer}
    (moves : MainMove process answer next) : next.gRunning = process.gRunning := by
  cases moves <;> rfl

/-- A step of the thread that refreshes the PIN. -/
inductive RefresherMove (process : Process) : Process → Prop
  | begins (place : process.refresher = .testing) (runs : process.gRunning = true) :
      RefresherMove process
        { process with refresher := .sleeping (process.clock + Config.pairingPinSecs) }
  | wakes {due : Nat} (place : process.refresher = .sleeping due) (woken : due ≤ process.clock) :
      RefresherMove process { process with refresher := .checking }
  | goes (place : process.refresher = .checking) (runs : process.gRunning = true) :
      RefresherMove process { process with refresher := .generating }
  | ends (place : process.refresher = .testing ∨ process.refresher = .checking)
      (halted : process.gRunning = false) :
        RefresherMove process { process with refresher := .finished }
  | makes (place : process.refresher = .generating) (there : process.main.sessionMgr = true)
      (rotation : Rotation) :
      RefresherMove process { process.generate rotation with refresher := .updating }
  | updates (place : process.refresher = .updating)
      (there : process.main.sessionMgr = true ∧ process.main.mdns = true) :
      RefresherMove process { process with refresher := .logging }
  | logs (place : process.refresher = .logging) (there : process.main.sessionMgr = true) :
      RefresherMove process { process with refresher := .testing }
  | dangles
      (place : process.main.sessionMgr = false ∧
          (process.refresher = .generating ∨ process.refresher = .logging) ∨
        (process.main.sessionMgr && process.main.mdns) = false ∧ process.refresher = .updating) :
      RefresherMove process process.dangle

theorem Process.refresherStep_moves {process next : Process} {answer : Answer}
    (step : process.refresherStep answer process.refresher = some next) :
    RefresherMove process next := by
  cases place : process.refresher with
  | absent | finished => simp [place, refresherStep] at step
  | testing =>
      simp only [place, refresherStep] at step
      obtain rfl := Option.some.inj step
      split
      case isTrue runs => exact .begins place runs
      case isFalse halted => exact .ends (.inl place) (Bool.eq_false_iff.mpr halted)
  | sleeping due =>
      simp only [place, refresherStep] at step
      split at step
      case isFalse => cases step
      case isTrue woken =>
          obtain rfl := Option.some.inj step
          exact .wakes place woken
  | checking =>
      simp only [place, refresherStep] at step
      obtain rfl := Option.some.inj step
      split
      case isTrue runs => exact .goes place runs
      case isFalse halted => exact .ends (.inr place) (Bool.eq_false_iff.mpr halted)
  | generating =>
      simp only [place, refresherStep] at step
      split at step
      case isFalse gone =>
          obtain rfl := Option.some.inj step
          exact .dangles (.inl ⟨Bool.eq_false_iff.mpr gone, .inl place⟩)
      case isTrue there =>
          cases answer with
          | pin persisted generated =>
              obtain rfl := Option.some.inj step
              exact .makes place there _
          | _ => cases step
  | updating =>
      simp only [place, refresherStep] at step
      split at step
      case isFalse gone =>
          obtain rfl := Option.some.inj step
          exact .dangles (.inr ⟨Bool.eq_false_iff.mpr gone, place⟩)
      case isTrue there =>
          obtain rfl := Option.some.inj step
          exact .updates place (by simpa using there)
  | logging =>
      simp only [place, refresherStep] at step
      split at step
      case isFalse gone =>
          obtain rfl := Option.some.inj step
          exact .dangles (.inl ⟨Bool.eq_false_iff.mpr gone, .inr place⟩)
      case isTrue there =>
          obtain rfl := Option.some.inj step
          exact .logs place there

/-- The thread leaves the flags, the log and the others alone. -/
structure RefresherFrame (process next : Process) : Prop where
  main : next.main = process.main
  gRunning : next.gRunning = process.gRunning
  gServer : next.gServer = process.gServer
  mRunning : next.mRunning = process.mRunning
  handlers : next.handlers = process.handlers
  log : next.log = process.log

theorem RefresherMove.frame {process next : Process} (moves : RefresherMove process next) :
    RefresherFrame process next := by
  cases moves <;> exact ⟨rfl, rfl, rfl, rfl, rfl, rfl⟩

/-- A step of a call of the signal handler, with the place it leads to. -/
inductive HandlerMove (process : Process) (index : Nat) : Handler → Process → Handler → Prop
  | locks (unlocked : process.log = none) :
      HandlerMove process index .announcing { process with log := some (.handler index) } .announced
  | unlocks : HandlerMove process index .announced { process with log := none } .halting
  | halts : HandlerMove process index .halting { process with gRunning := false } .testing
  | finds (set : process.gServer = true) : HandlerMove process index .testing process .loading
  | misses (unset : process.gServer = false) : HandlerMove process index .testing process .returned
  | loads : HandlerMove process index .loading process (.storing process.gServer)
  | stores (there : process.main.server = true) :
      HandlerMove process index (.storing true) { process with mRunning := false } .returned
  | dangles {pointer : Bool} (gone : (pointer && process.main.server) = false) :
      HandlerMove process index (.storing pointer) process.dangle .returned

theorem Process.handlerStep_moves {process next : Process} {index : Nat} {handler moved : Handler}
    (step : process.handlerStep index handler = some (next, moved)) :
    HandlerMove process index handler next moved := by
  cases handler with
  | announcing =>
      simp only [handlerStep] at step
      split at step
      case isFalse => cases step
      case isTrue unlocked =>
          obtain ⟨rfl, rfl⟩ := by simpa using step
          exact .locks unlocked
  | announced =>
      obtain ⟨rfl, rfl⟩ := by simpa [handlerStep] using step
      exact .unlocks
  | halting =>
      obtain ⟨rfl, rfl⟩ := by simpa [handlerStep] using step
      exact .halts
  | testing =>
      obtain ⟨rfl, rfl⟩ := by simpa only [handlerStep, Option.some.injEq, Prod.mk.injEq] using step
      split
      case isTrue set => exact .finds set
      case isFalse unset => exact .misses (Bool.eq_false_iff.mpr unset)
  | loading =>
      obtain ⟨rfl, rfl⟩ := by simpa [handlerStep] using step
      exact .loads
  | storing pointer =>
      simp only [handlerStep] at step
      split at step
      case isTrue there =>
          obtain ⟨rfl, rfl⟩ := by simpa using step
          obtain ⟨rfl, there⟩ : pointer = true ∧ process.main.server = true := by simpa using there
          exact .stores there
      case isFalse gone =>
          obtain ⟨rfl, rfl⟩ := by simpa using step
          exact .dangles (Bool.eq_false_iff.mpr gone)
  | returned => cases step

/-- The handler leaves the threads alone. -/
structure HandlerFrame (process next : Process) : Prop where
  main : next.main = process.main
  refresher : next.refresher = process.refresher
  made : next.made = process.made
  gServer : next.gServer = process.gServer
  handlers : next.handlers = process.handlers

theorem HandlerMove.frame {process next : Process} {index : Nat} {handler moved : Handler}
    (moves : HandlerMove process index handler next moved) : HandlerFrame process next := by
  cases moves <;> exact ⟨rfl, rfl, rfl, rfl, rfl⟩

/-- The calls behind a step of one of them. -/
theorem HandlerMove.mem_set {process next : Process} {index : Nat} {handler moved other : Handler}
    {thread owner : Thread} (moves : HandlerMove process index handler next moved)
    (member : (owner, other) ∈ next.handlers.set index (thread, moved)) :
    (owner, other) ∈ process.handlers ∨ owner = thread ∧ other = moved := by
  rw [moves.frame.handlers] at member
  exact (List.mem_or_eq_of_mem_set member).imp_right Prod.mk.inj

/-- A step of the daemon. -/
inductive Move (process : Process) : Act → Process → Prop
  | ticks (seconds : Nat) :
      Move process (.tick seconds) { process with clock := process.clock + seconds }
  | main {answer : Answer} {next : Process} (free : process.free .main = true)
      (moves : MainMove process answer next) : Move process (.main answer) next
  | refresher (answer : Answer) {next : Process} (free : process.free .refresher = true)
      (moves : RefresherMove process next) : Move process (.refresher answer) next
  | locks {thread : Thread} (unlocked : process.log = none) (there : process.has thread = true)
      (free : process.interruptedFrom 0 thread = false) :
      Move process (.lock thread) { process with log := some (.thread thread) }
  | unlocks {thread : Thread} (locked : process.log = some (.thread thread))
      (free : process.interruptedFrom 0 thread = false) :
      Move process (.unlock thread) { process with log := none }
  | signals {thread : Thread} (there : process.has thread = true) :
      Move process (.signal thread)
        { process with handlers := process.handlers ++ [(thread, .announcing)] }
  | handler {index : Nat} {thread : Thread} {handler moved : Handler} {next : Process}
      (found : process.handlers[index]? = some (thread, handler))
      (free : process.interruptedFrom (index + 1) thread = false)
      (moves : HandlerMove process index handler next moved) :
      Move process (.handler index)
        { next with handlers := next.handlers.set index (thread, moved) }

theorem Process.step_moves {process next : Process} {act : Act}
    (step : process.step act = some next) :
    Move process act next := by
  cases act with
  | tick seconds =>
      obtain rfl := Option.some.inj step
      exact .ticks seconds
  | main answer =>
      simp only [Process.step] at step
      split at step
      case isFalse => cases step
      case isTrue free => exact .main free (mainStep_moves step)
  | refresher answer =>
      simp only [Process.step] at step
      split at step
      case isFalse => cases step
      case isTrue free => exact .refresher answer free (refresherStep_moves step)
  | lock thread =>
      simp only [Process.step] at step
      split at step
      case isFalse => cases step
      case isTrue able =>
          obtain rfl := Option.some.inj step
          exact .locks able.1 able.2.1 able.2.2
  | unlock thread =>
      simp only [Process.step] at step
      split at step
      case isFalse => cases step
      case isTrue able =>
          obtain rfl := Option.some.inj step
          exact .unlocks able.1 able.2
  | signal thread =>
      simp only [Process.step] at step
      split at step
      case isFalse => cases step
      case isTrue there =>
          obtain rfl := Option.some.inj step
          exact .signals there
  | handler index =>
      simp only [Process.step] at step
      split at step
      case h_1 => cases step
      case h_2 thread handler found =>
          split at step
          case isTrue => cases step
          case isFalse free =>
              obtain ⟨⟨later, moved⟩, stepped, rfl⟩ := Option.map_eq_some_iff.mp step
              exact .handler found (Bool.eq_false_iff.mpr free) (handlerStep_moves stepped)

end DaemonMain
end TitanShare
