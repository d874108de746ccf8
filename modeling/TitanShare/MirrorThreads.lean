import Mathlib.Logic.Function.Basic
import TitanShare.Library.Handles
import TitanShare.Library.Scheduled

/-!
# The threads of the mirror receiver

The event loop calls `start` and `stop`, a worker thread accepts and reads a connection, and other
threads open and close descriptors of their own.  They take turns in any order; reading a shared
field and the system call its value is for are steps of their own.
-/

namespace TitanShare
namespace MirrorThreads

/-- The fields `listenerFd` and `clientFd`. -/
inductive Slot
  | listener
  | client
  deriving DecidableEq

/-- What an open number stands for. -/
inductive Holder
  /-- The receiver's socket before `listen`. -/
  | created
  /-- The receiver's listening socket. -/
  | listening
  /-- A connection the receiver accepted. -/
  | connected
  /-- A descriptor of another thread. -/
  | foreign
  deriving DecidableEq

/-- What a system call says. -/
inductive Answer
  | ok
  /-- Nothing yet, or not all: the call is made again. -/
  | again
  | failed
  /-- A new descriptor. -/
  | fd (number : Nat)
  deriving DecidableEq

/-- The data the threads share. -/
structure Shared where
  /-- `m_running` -/
  running : Bool
  /-- No number stands for -1. -/
  slot : Slot → Option Nat
  /-- The descriptor table of the process. -/
  fds : Nat → Option Holder
  /-- The receiver's calls on descriptors; `poll` only asks. -/
  ops : List Handles.Op

namespace Shared

def store (shared : Shared) (slot : Slot) (fd : Option Nat) : Shared :=
  { shared with slot := Function.update shared.slot slot fd }

def setRunning (shared : Shared) (running : Bool) : Shared :=
  { shared with running }

/-- A call on a number; -1 is refused. -/
def use (shared : Shared) : Option Nat → Shared
  | none => shared
  | some fd => { shared with ops := shared.ops ++ [.use fd] }

/-- `close`, whoever has the number. -/
def close (shared : Shared) : Option Nat → Shared
  | none => shared
  | some fd =>
      { shared with
        fds := Function.update shared.fds fd none
        ops := shared.ops ++ [.release fd] }

/-- A descriptor the system hands out. -/
def acquire (shared : Shared) (fd : Nat) (holder : Holder) : Shared :=
  { shared with
    fds := Function.update shared.fds fd (some holder)
    ops := shared.ops ++ [.acquire fd] }

/-- `listen` on a socket. -/
def listen (shared : Shared) (fd : Nat) : Shared :=
  { shared.use (some fd) with fds := Function.update shared.fds fd (some .listening) }

end Shared

/-- Where a thread stands in `if (field >= 0) { shutdown(field); close(field); field = -1; }`, with
the value it has loaded for the next call. -/
inductive Closing
  | test
  | loadShutdown
  | shutdown (fd : Option Nat)
  | loadClose
  | close (fd : Option Nat)
  | clear
  deriving DecidableEq

/-- One step of the sequence, which `start` and the worker take without the `shutdown`. -/
def Closing.step (slot : Slot) (shuts : Bool) (shared : Shared) : Closing → Shared × Option Closing
  | test =>
      if (shared.slot slot).isSome then (shared, some (if shuts then loadShutdown else loadClose))
      else (shared, none)
  | loadShutdown => (shared, some (.shutdown (shared.slot slot)))
  | shutdown fd => (shared.use fd, some loadClose)
  | loadClose => (shared, some (.close (shared.slot slot)))
  | close fd => (shared.close fd, some clear)
  | clear => (shared.store slot none, none)

inductive Call
  | start
  | stop
  deriving DecidableEq

/-- Where the event-loop thread stands. -/
inductive Caller
  /-- Between two calls, with the last one. -/
  | idle (last : Option Call)
  | startTest
  | startJoin
  | startClosing (place : Closing)
  | startSocket
  | startBind (sfd : Nat)
  | startListen (sfd : Nat)
  | startAbandon (sfd : Nat)
  | startStore (sfd : Nat)
  | startRunning
  | startThread
  | stopRunning
  | stopClosing (slot : Slot) (place : Closing)
  | stopJoin
  deriving DecidableEq

/-- Where a worker thread stands. -/
inductive Worker
  /-- At the head of the loop that waits for a connection. -/
  | waiting
  | polling
  | loading
  | accepting (listener : Option Nat)
  | connected (cfd : Nat)
  | handshake (cfd : Nat)
  | building (cfd : Nat) (ssl : Bool)
  /-- At the head of the read and push loop. -/
  | looping (cfd : Nat) (ssl : Bool)
  | reading (cfd : Nat) (ssl : Bool)
  | goodbye (built : Bool) (cfd : Nat) (ssl : Bool)
  | closing (built : Bool) (cfd : Nat)
  | clearing (built : Bool)
  | closingListener (place : Closing)
  | stopping
  | finished
  deriving DecidableEq

/-- One step of a worker.  Whatever ends the read and push loop is a failed answer there. -/
def Worker.step (shared : Shared) (answer : Answer) : Worker → Option (Shared × Worker)
  | waiting => some (shared, if shared.running then polling else stopping)
  | polling =>
      match answer with
      | .ok => some (shared, loading)
      | .again => some (shared, waiting)
      | .failed => some (shared, stopping)
      | .fd _ => none
  | loading => some (shared, accepting (shared.slot .listener))
  | accepting listener =>
      match answer with
      | .ok => none
      | .again => some (shared.use listener, waiting)
      | .failed => some (shared.use listener, stopping)
      | .fd cfd =>
          let holder := listener.bind shared.fds
          if shared.fds cfd = none ∧ (holder = some .listening ∨ holder = some .foreign) then
            some ((shared.use listener).acquire cfd .connected, connected cfd)
          else none
  | connected cfd => some (shared.store .client (some cfd), handshake cfd)
  | handshake cfd =>
      match answer with
      | .ok => some (shared, building cfd true)
      | .again => some (shared.use (some cfd), handshake cfd)
      | .failed => some (shared, building cfd false)
      | .fd _ => none
  | building cfd ssl =>
      match answer with
      | .ok => some (shared, looping cfd ssl)
      | .failed => some (shared, goodbye false cfd ssl)
      | .again | .fd _ => none
  | looping cfd ssl =>
      some (shared, if shared.running then reading cfd ssl else goodbye true cfd ssl)
  | reading cfd ssl =>
      match answer with
      | .ok => some (shared, looping cfd ssl)
      | .again => some (shared.use (some cfd), reading cfd ssl)
      | .failed => some (shared, goodbye true cfd ssl)
      | .fd _ => none
  | goodbye built cfd ssl =>
      some (if ssl then shared.use (some cfd) else shared, closing built cfd)
  | closing built cfd => some (shared.close (some cfd), clearing built)
  | clearing built =>
      some (shared.store .client none, if built then closingListener .test else stopping)
  | closingListener place =>
      match place.step .listener false shared with
      | (shared, some place) => some (shared, closingListener place)
      | (shared, none) => some (shared, stopping)
  | stopping => some (shared.setRunning false, finished)
  | finished => none

/-- The receiver in its process. -/
structure Process where
  shared : Shared
  caller : Caller
  /-- The worker threads, those that have finished too. -/
  workers : List Worker
  /-- The thread `m_impl->worker` is the handle of, until it is joined. -/
  handle : Option Nat
  /-- `std::terminate` was called. -/
  terminated : Bool

namespace Process

/-- At the start the numbers in use are those of other threads. -/
def initial (inUse : Nat → Bool) : Process where
  shared :=
    { running := false
      slot := fun _ => none
      fds := fun fd => if inUse fd then some .foreign else none
      ops := [] }
  caller := .idle none
  workers := []
  handle := none
  terminated := false

def goTo (process : Process) (shared : Shared) (caller : Caller) : Process :=
  { process with shared, caller }

/-- Join the thread of the handle if there is one, once it has finished. -/
def join (process : Process) (next : Caller) : Option Process :=
  match process.handle with
  | none => some { process with caller := next }
  | some index =>
      if process.workers[index]? = some .finished then
        some { process with handle := none, caller := next }
      else none

/-- A new thread is assigned to the handle. -/
def spawn (process : Process) : Process :=
  { process with
    caller := .idle (some .start)
    workers := process.workers ++ [.waiting]
    handle := some process.workers.length
    terminated := process.handle.isSome }

/-- One step of `start` or `stop`.  A thread that cannot be created ends `start` by an exception. -/
def callerStep (process : Process) (answer : Answer) : Option Process :=
  let shared := process.shared
  match process.caller with
  | .idle _ => none
  | .startTest =>
      some (process.goTo shared (if shared.running then .idle (some .start) else .startJoin))
  | .startJoin => process.join (.startClosing .test)
  | .startClosing place =>
      match place.step .listener false shared with
      | (shared, some place) => some (process.goTo shared (.startClosing place))
      | (shared, none) => some (process.goTo shared .startSocket)
  | .startSocket =>
      match answer with
      | .fd sfd =>
          if shared.fds sfd = none then
            some (process.goTo (shared.acquire sfd .created) (.startBind sfd))
          else none
      | .failed => some (process.goTo shared (.idle (some .start)))
      | .ok | .again => none
  | .startBind sfd =>
      match answer with
      | .ok => some (process.goTo (shared.use (some sfd)) (.startListen sfd))
      | .failed => some (process.goTo (shared.use (some sfd)) (.startAbandon sfd))
      | .again | .fd _ => none
  | .startListen sfd =>
      match answer with
      | .ok => some (process.goTo (shared.listen sfd) (.startStore sfd))
      | .failed => some (process.goTo (shared.use (some sfd)) (.startAbandon sfd))
      | .again | .fd _ => none
  | .startAbandon sfd =>
      some (process.goTo (shared.close (some sfd)) (.idle (some .start)))
  | .startStore sfd => some (process.goTo (shared.store .listener (some sfd)) .startRunning)
  | .startRunning => some (process.goTo (shared.setRunning true) .startThread)
  | .startThread =>
      match answer with
      | .ok => some process.spawn
      | .failed => some (process.goTo shared (.idle (some .start)))
      | .again | .fd _ => none
  | .stopRunning =>
      some (process.goTo (shared.setRunning false) (.stopClosing .listener .test))
  | .stopClosing slot place =>
      match place.step slot true shared with
      | (shared, some place) => some (process.goTo shared (.stopClosing slot place))
      | (shared, none) =>
          match slot with
          | .listener => some (process.goTo shared (.stopClosing .client .test))
          | .client => some (process.goTo shared .stopJoin)
  | .stopJoin => process.join (.idle (some .stop))

def workerStep (process : Process) (index : Nat) (answer : Answer) : Option Process :=
  match process.workers[index]? with
  | none => none
  | some worker =>
      match worker.step process.shared answer with
      | none => none
      | some (shared, worker) =>
          some { process with shared, workers := process.workers.set index worker }

/-- Another thread opens a free number. -/
def opens (process : Process) (fd : Nat) : Option Process :=
  if process.shared.fds fd = none then
    some { process with
      shared := { process.shared with
        fds := Function.update process.shared.fds fd (some .foreign) } }
  else none

/-- Another thread closes a number of its own. -/
def closes (process : Process) (fd : Nat) : Option Process :=
  if process.shared.fds fd = some .foreign then
    some { process with
      shared := { process.shared with fds := Function.update process.shared.fds fd none } }
  else none

end Process

/-- An action of one of the threads, with what the system answers. -/
inductive Act
  /-- The event loop calls `start` or `stop`. -/
  | call (call : Call)
  | caller (answer : Answer)
  | worker (index : Nat) (answer : Answer)
  | opens (fd : Nat)
  | closes (fd : Nat)
  deriving DecidableEq

/-- The first step of a call. -/
def Call.entry : Call → Caller
  | start => .startTest
  | stop => .stopRunning

namespace Process

def step (process : Process) (act : Act) : Option Process :=
  if process.terminated then none
  else
    match act with
    | .call call =>
        match process.caller with
        | .idle _ => some { process with caller := call.entry }
        | _ => none
    | .caller answer => process.callerStep answer
    | .worker index answer => process.workerStep index answer
    | .opens fd => process.opens fd
    | .closes fd => process.closes fd

def run (process : Process) (acts : List Act) : Option Process :=
  Scheduled.run step process acts

end Process
end MirrorThreads
end TitanShare
