import TitanShare.Library.Scheduled
import TitanShare.PinWindow

/-!
# The main function of the daemon

`main` makes the objects of the daemon, runs the server's event loop and takes everything down
again; a detached thread refreshes the PIN, and signals may come at any time, on any thread.  What
the handler and the detached thread refer to lives on the stack of `main`, and whoever writes to the
log holds its mutex.
-/

namespace TitanShare
namespace DaemonMain

/-- What a session asks of the session manager while the event loop serves it. -/
inductive SessionCall
  | isIpBlocked (ip : Ip) (now : Nat)
  | validateKey (pin : Bytes)
  | registerAuthFailure (ip : Ip) (now : Nat)
  | registerAuthSuccess (ip : Ip)

def SessionCall.after (manager : SessionManager) : SessionCall → SessionManager
  | isIpBlocked ip now => (manager.isIpBlocked ip now).2
  | validateKey _ => manager
  | registerAuthFailure ip now => (manager.registerAuthFailure ip now).1
  | registerAuthSuccess ip => manager.registerAuthSuccess ip

/-- What the surroundings answer to a step. -/
inductive Answer
  | ok
  | failed
  /-- `epoll_wait` was interrupted. -/
  | interrupted
  | events (count : Nat)
  | call (call : SessionCall)
  /-- The PIN of the session file, and the one that was drawn. -/
  | pin (persisted : Option Bytes) (generated : Bytes)

/-- Where `main` stands. -/
inductive Main
  | generating
  | advertising
  | spawning
  | preparing
  | constructing
  /-- Before `g_server = &server`. -/
  | publishing
  /-- In `run`, before the loop. -/
  | opening
  | enabling
  | testing
  | waiting
  | serving (events : Nat)
  /-- `run` has returned. -/
  | stoppingMdns
  | stoppingBridge
  | clearing
  | leaving
  /-- The server was destroyed. -/
  | droppingMdns
  | droppingManager
  | ended
  deriving DecidableEq

namespace Main

/-- The server is there. -/
def server : Main → Bool
  | publishing | opening | enabling | testing | waiting | serving _ | stoppingMdns | stoppingBridge
  | clearing | leaving => true
  | _ => false

def mdns : Main → Bool
  | generating | droppingManager | ended => false
  | _ => true

def sessionMgr : Main → Bool
  | ended => false
  | _ => true

end Main

/-- Where the thread that refreshes the PIN stands. -/
inductive Refresher
  | absent
  | testing
  | sleeping (due : Nat)
  | checking
  | generating
  | updating
  | logging
  | finished
  deriving DecidableEq

/-- Where a call of the signal handler stands. -/
inductive Handler
  /-- Before its line in the log. -/
  | announcing
  | announced
  | halting
  | testing
  | loading
  | storing (pointer : Bool)
  | returned
  deriving DecidableEq

/-- The threads of the daemon. -/
inductive Thread
  | main
  | refresher
  | other (number : Nat)
  deriving DecidableEq

/-- Who holds the mutex of the log. -/
inductive Writer
  | thread (thread : Thread)
  | handler (index : Nat)
  deriving DecidableEq

structure Process where
  /-- Seconds of the steady clock. -/
  clock : Nat
  /-- `g_running` -/
  gRunning : Bool
  /-- `g_server` is set. -/
  gServer : Bool
  /-- `m_running` of the server. -/
  mRunning : Bool
  manager : SessionManager
  /-- When each PIN became the current one. -/
  made : List (Nat × Bytes)
  main : Main
  refresher : Refresher
  /-- The calls of the signal handler, each on the thread that it has interrupted. -/
  handlers : List (Thread × Handler)
  /-- `s_logMutex` -/
  log : Option Writer
  /-- A thread has used what no longer exists. -/
  dangling : Bool

namespace Process

def initial : Process where
  clock := 0
  gRunning := true
  gServer := false
  mRunning := false
  manager := .initial
  made := []
  main := .generating
  refresher := .absent
  handlers := []
  log := none
  dangling := false

def goTo (process : Process) (main : Main) : Process :=
  { process with main }

def generate (process : Process) (rotation : Rotation) : Process :=
  let manager := process.manager.rotate rotation
  { process with
    manager
    made := process.made ++ [(process.clock, manager.currentKey)] }

def dangle (process : Process) : Process :=
  { process with dangling := true }

/-- A handler, at this place of the list or behind it, keeps a thread from going on. -/
def interruptedFrom (process : Process) (place : Nat) (thread : Thread) : Bool :=
  (process.handlers.drop place).any fun handler => handler.1 = thread && handler.2 != .returned

/-- A thread goes on with its own work. -/
def free (process : Process) (thread : Thread) : Bool :=
  !process.interruptedFrom 0 thread && process.log != some (.thread thread)

/-- The thread is there. -/
def has (process : Process) : Thread → Bool
  | .main => process.main != .ended
  | .refresher => process.refresher != .absent && process.refresher != .finished
  | .other _ => true

/-- The thread, or a handler on it, is writing to the log. -/
def writes (process : Process) (thread : Thread) : Bool :=
  match process.log with
  | none => false
  | some (.thread writer) => writer = thread
  | some (.handler index) => (process.handlers[index]?.map Prod.fst) = some thread

/-- `MAX_EVENTS` -/
def maxEvents : Nat := 64

/-- The events of one `epoll_wait`, one after the other. -/
def serveStep (process : Process) (answer : Answer) : Nat → Option Process
  | 0 => some (process.goTo .testing)
  | events + 1 =>
      match answer with
      | .call call => some { process with manager := call.after process.manager }
      | .ok => some (process.goTo (.serving events))
      | _ => none

/-- One step of `main`. -/
def mainStep (process : Process) (answer : Answer) : Main → Option Process
  | .generating =>
      match answer with
      | .pin persisted generated =>
          some ((process.generate ⟨true, persisted, generated⟩).goTo .advertising)
      | _ => none
  | .advertising => some (process.goTo .spawning)
  | .spawning => some { process.goTo .preparing with refresher := .testing }
  | .preparing => some (process.goTo .constructing)
  | .constructing => some (process.goTo .publishing)
  | .publishing => some { process.goTo .opening with gServer := true }
  | .opening =>
      match answer with
      | .ok => some (process.goTo .enabling)
      | .failed => some (process.goTo .stoppingMdns)
      | _ => none
  | .enabling => some { process.goTo .testing with mRunning := true }
  | .testing => some (process.goTo (if process.mRunning then .waiting else .stoppingMdns))
  | .waiting =>
      match answer with
      | .interrupted => some (process.goTo .testing)
      | .failed => some (process.goTo .stoppingMdns)
      | .events count => if count ≤ maxEvents then some (process.goTo (.serving count)) else none
      | _ => none
  | .serving events => process.serveStep answer events
  | .stoppingMdns => some (process.goTo .stoppingBridge)
  | .stoppingBridge => some (process.goTo .clearing)
  | .clearing => some { process.goTo .leaving with gServer := false }
  | .leaving => some (process.goTo .droppingMdns)
  | .droppingMdns => some (process.goTo .droppingManager)
  | .droppingManager => some (process.goTo .ended)
  | .ended => none

/-- One step of the thread that refreshes the PIN. -/
def refresherStep (process : Process) (answer : Answer) : Refresher → Option Process
  | .absent => none
  | .testing =>
      some { process with
        refresher :=
          if process.gRunning then .sleeping (process.clock + Config.pairingPinSecs)
          else .finished }
  | .sleeping due =>
      if due ≤ process.clock then some { process with refresher := .checking } else none
  | .checking =>
      some { process with refresher := if process.gRunning then .generating else .finished }
  | .generating =>
      if process.main.sessionMgr then
        match answer with
        | .pin persisted generated =>
            some { process.generate ⟨false, persisted, generated⟩ with refresher := .updating }
        | _ => none
      else some process.dangle
  | .updating =>
      if process.main.sessionMgr && process.main.mdns then
        some { process with refresher := .logging }
      else some process.dangle
  | .logging =>
      if process.main.sessionMgr then some { process with refresher := .testing }
      else some process.dangle
  | .finished => none

/-- One step of the signal handler. -/
def handlerStep (process : Process) (index : Nat) : Handler → Option (Process × Handler)
  | .announcing =>
      if process.log = none then some ({ process with log := some (.handler index) }, .announced)
      else none
  | .announced => some ({ process with log := none }, .halting)
  | .halting => some ({ process with gRunning := false }, .testing)
  | .testing => some (process, if process.gServer then .loading else .returned)
  | .loading => some (process, .storing process.gServer)
  | .storing pointer =>
      if pointer && process.main.server then some ({ process with mRunning := false }, .returned)
      else some (process.dangle, .returned)
  | .returned => none

end Process

inductive Act
  | tick (seconds : Nat)
  | main (answer : Answer)
  | refresher (answer : Answer)
  /-- A thread begins to write to the log, and it has written. -/
  | lock (thread : Thread)
  | unlock (thread : Thread)
  /-- A signal is delivered to a thread. -/
  | signal (thread : Thread)
  | handler (index : Nat)

namespace Process

def step (process : Process) : Act → Option Process
  | .tick seconds => some { process with clock := process.clock + seconds }
  | .main answer => if process.free .main then process.mainStep answer process.main else none
  | .refresher answer =>
      if process.free .refresher then process.refresherStep answer process.refresher else none
  | .lock thread =>
      if process.log = none ∧ process.has thread ∧ process.interruptedFrom 0 thread = false then
        some { process with log := some (.thread thread) }
      else none
  | .unlock thread =>
      if process.log = some (.thread thread) ∧ process.interruptedFrom 0 thread = false then
        some { process with log := none }
      else none
  | .signal thread =>
      if process.has thread then
        some { process with handlers := process.handlers ++ [(thread, .announcing)] }
      else none
  | .handler index =>
      match process.handlers[index]? with
      | none => none
      | some (thread, handler) =>
          if process.interruptedFrom (index + 1) thread then none
          else
            (process.handlerStep index handler).map fun next =>
              { next.1 with handlers := next.1.handlers.set index (thread, next.2) }

def run (acts : List Act) : Option Process :=
  Scheduled.run step initial acts

end Process
end DaemonMain
end TitanShare
