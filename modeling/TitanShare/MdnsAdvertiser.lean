import TitanShare.Library.ByteText
import TitanShare.Library.Handles
import TitanShare.Library.Scheduled

/-!
# The mDNS advertiser

A thread of its own runs the poll loop of Avahi, which calls back into the advertiser.  The main
thread starts and stops it, and the refresh thread hands it every new PIN.  They take turns in any
order.  The PIN never reaches Avahi, and what Avahi creates is given back exactly once.
-/

namespace TitanShare
namespace MdnsAdvertiser

open ByteText

/-! ## What Avahi is given -/

/-- The arguments of `avahi_entry_group_add_service_strlst`. -/
structure Service where
  name : Bytes
  type : Bytes
  port : Nat
  txt : List (Bytes × Bytes)
  deriving DecidableEq

/-- The service that `createServices` describes; every pair is put in front of the earlier ones. -/
def service (hostname : Bytes) (port : Nat) : Service where
  name := cString hostname
  type := ascii "_titanshare._tcp"
  port := port
  txt :=
    [(ascii "app", ascii "titanshare"), (ascii "ver", ascii "2.0.0"),
      (ascii "port", decimal port), (ascii "host", cString hostname)]

/-- `AvahiClientState` -/
inductive ClientState
  | registering
  | running
  | collision
  | failure
  | connecting
  deriving DecidableEq

/-- `AvahiEntryGroupState` -/
inductive GroupState
  | uncommited
  | registering
  | established
  | collision
  | failure
  deriving DecidableEq

/-- What Avahi answers while `createServices` runs. -/
structure ServicesEnv where
  /-- `avahi_entry_group_new`, if it is called. -/
  group : Option Nat
  /-- `avahi_entry_group_is_empty` is not 0. -/
  isEmpty : Bool
  /-- The service is accepted. -/
  added : Bool
  deriving DecidableEq

/-! ## The advertiser -/

/-- The members, and what was done with them. -/
structure Advertiser where
  /-- `m_simplePoll` -/
  simplePoll : Option Nat
  client : Option Nat
  group : Option Nat
  pin : Bytes
  port : Nat
  hostname : Bytes
  running : Bool
  pinDirty : Bool
  /-- What the thread of the poll loop did with the objects of Avahi. -/
  ops : List Handles.Op
  /-- A null pointer was passed to Avahi. -/
  null : Bool
  announced : List Service
  deriving DecidableEq

namespace Advertiser

/-- As constructed. -/
def created : Advertiser where
  simplePoll := none
  client := none
  group := none
  pin := []
  port := 9999
  hostname := []
  running := false
  pinDirty := false
  ops := []
  null := false
  announced := []

/-- Pass an object to Avahi. -/
def use (self : Advertiser) : Option Nat → Advertiser
  | none => { self with null := true }
  | some object => { self with ops := self.ops ++ [.use object] }

def acquire (self : Advertiser) (object : Nat) : Advertiser :=
  { self with ops := self.ops ++ [.acquire object] }

/-- Free an object; the pointer may be null. -/
def release (self : Advertiser) : Option Nat → Advertiser
  | none => self
  | some object => { self with ops := self.ops ++ [.release object] }

/-- Avahi hands out pointers that are not in use. -/
def grants (self : Advertiser) (object : Nat) : Bool :=
  !Handles.held object self.ops

/-- `createServices` behind the creation of the group. -/
def addService (self : Advertiser) (env : ServicesEnv) (group : Nat) : Advertiser :=
  let asked := self.use (some group)
  if env.isEmpty then
    let given := asked.use (some group)
    let added := { given with announced := given.announced ++ [service self.hostname self.port] }
    if env.added then added.use (some group) else added
  else asked

def createServices (self : Advertiser) (env : ServicesEnv) (c : Option Nat) : Advertiser :=
  match self.group with
  | some group => self.addService env group
  | none =>
      match env.group with
      | none => (self.use c).use c
      | some group =>
          { (self.use c).acquire group with group := some group }.addService env group

/-- The new group of a `createServices` call is free. -/
def admits (self : Advertiser) (env : ServicesEnv) : Bool :=
  match env.group with
  | none => true
  | some group => self.grants group

def clientCallback (self : Advertiser) (c : Option Nat) (env : ServicesEnv) :
    ClientState → Advertiser
  | .running => self.createServices env c
  | .failure => (self.use c).use self.simplePoll
  | .collision | .registering => if self.group.isSome then self.use self.group else self
  | .connecting => self

/-- `groupCallback`; the group knows its client, and `alternative` is the next name Avahi
proposes. -/
def groupCallback (self : Advertiser) (c : Option Nat) (alternative : Bytes) (env : ServicesEnv) :
    GroupState → Advertiser
  | .established => self
  | .collision =>
      ({ self with hostname := cString alternative }.use self.group).createServices env c
  | .failure => ((self.use self.group).use c).use self.simplePoll
  | .uncommited | .registering => self

end Advertiser

/-! ## The poll loop -/

/-- Where the thread of `runLoop` stands. -/
inductive Worker
  /-- `start` was not called. -/
  | unborn
  | newPoll
  | newClient
  /-- Inside `avahi_client_new`, which calls back before it returns this client. -/
  | creating (client : Nat)
  | looping
  /-- Inside `avahi_simple_poll_iterate`. -/
  | iterating
  /-- It has returned, with 1 if the loop shall be left. -/
  | returned (quit : Bool)
  | checking
  | freeGroup
  | freeClient
  | freePoll
  | clearPoll
  | stopping
  | finished
  deriving DecidableEq

/-- What Avahi answers to the thread. -/
inductive Answer
  | go
  | null
  | object (pointer : Nat)
  | error
  | returned (quit : Bool)
  | services (env : ServicesEnv)
  deriving DecidableEq

/-- One step of `runLoop`. -/
def Worker.step (self : Advertiser) (answer : Answer) : Worker → Option (Advertiser × Worker)
  | unborn => none
  | newPoll =>
      match answer with
      | .null => some (self, stopping)
      | .object poll =>
          if self.grants poll then some ({ self.acquire poll with simplePoll := some poll },
            newClient)
          else none
      | _ => none
  | newClient =>
      match answer with
      | .null => some (self.use self.simplePoll, freePoll)
      | .object client =>
          if self.grants client then
            some ((self.use self.simplePoll).acquire client, creating client)
          else none
      | _ => none
  | creating client => some ({ self with client := some client }, looping)
  | looping =>
      some (if self.running then (self.use self.simplePoll, iterating) else (self, freeGroup))
  | iterating =>
      match answer with
      | .error => some (self, freeGroup)
      | .returned quit => some (self, returned quit)
      | _ => none
  | returned quit => some (self, if quit && !self.running then freeGroup else checking)
  | checking =>
      if self.pinDirty && self.group.isSome then
        match answer with
        | .services env =>
            some
              (({ self with pinDirty := false }.use self.group).createServices env self.client,
                looping)
        | _ => none
      else some (self, looping)
  | freeGroup =>
      some (if self.group.isSome then
        { self.use self.client |>.release self.group with group := none }
        else self, freeClient)
  | freeClient =>
      some (if self.client.isSome then
        { self.use self.simplePoll |>.release self.client with client := none } else self, freePoll)
  | freePoll =>
      some (self.release self.simplePoll, if self.simplePoll.isSome then clearPoll else stopping)
  | clearPoll => some ({ self with simplePoll := none }, stopping)
  | stopping => some ({ self with running := false }, finished)
  | finished => none

/-! ## The threads -/

/-- Where the main thread stands in `stop`. -/
inductive Caller
  | idle
  | testing
  | loading
  | quitting (poll : Option Nat)
  | joining
  deriving DecidableEq

structure System where
  self : Advertiser
  worker : Worker
  caller : Caller
  /-- The refresh thread stands between the two assignments of `updatePin`. -/
  marking : Bool
  /-- `stop` has passed a pointer to Avahi that was freed or null by then. -/
  lateQuit : Bool
  deriving DecidableEq

inductive Act
  /-- `start`, and the name `gethostname` finds. -/
  | start (pin : Bytes) (port : Nat) (hostname systemName : Bytes)
  /-- The next step of `stop`. -/
  | stop
  /-- The two steps of `updatePin`. -/
  | updatePin (newPin : Bytes)
  | markDirty
  | worker (answer : Answer)
  /-- Avahi calls back. -/
  | clientEvent (state : ClientState) (env : ServicesEnv)
  | groupEvent (state : GroupState) (alternative : Bytes) (env : ServicesEnv)
  deriving DecidableEq

/-- The client a callback is given, where Avahi may call back. -/
def System.calling (system : System) : Option Nat :=
  match system.worker with
  | .creating client => some client
  | .iterating => system.self.client
  | _ => none

namespace System

def initial : System where
  self := .created
  worker := .unborn
  caller := .idle
  marking := false
  lateQuit := false

/-- One step of `stop`. -/
def stopStep (system : System) : Option System :=
  match system.caller with
  | .idle =>
      some { system with self := { system.self with running := false }, caller := .testing }
  | .testing =>
      some { system with caller := if system.self.simplePoll.isSome then .loading else .joining }
  | .loading => some { system with caller := .quitting system.self.simplePoll }
  | .quitting poll =>
      let late :=
        match poll with
        | none => true
        | some poll => !Handles.held poll system.self.ops
      some { system with caller := .joining, lateQuit := system.lateQuit || late }
  | .joining =>
      if system.worker = .unborn ∨ system.worker = .finished then
        some { system with caller := .idle }
      else none

def step (system : System) : Act → Option System
  | .start pin port hostname systemName =>
      if system.worker = .unborn ∧ system.caller = .idle then
        some { system with
          self := { system.self with
            pin := pin
            port := port
            hostname := if hostname = [] then cString systemName else hostname
            running := true }
          worker := .newPoll }
      else none
  | .stop => system.stopStep
  | .updatePin newPin =>
      if system.marking then none
      else some { system with self := { system.self with pin := newPin }, marking := true }
  | .markDirty =>
      if system.marking then
        some { system with self := { system.self with pinDirty := true }, marking := false }
      else none
  | .worker answer =>
      (system.worker.step system.self answer).map fun next =>
        { system with self := next.1, worker := next.2 }
  | .clientEvent state env =>
      if system.calling.isSome && system.self.admits env then
        some { system with self := system.self.clientCallback system.calling env state }
      else none
  | .groupEvent state alternative env =>
      if system.worker = .iterating ∧ system.self.group.isSome = true ∧
          system.self.admits env = true then
        some { system with
          self := system.self.groupCallback system.calling alternative env state }
      else none

def run (acts : List Act) : Option System :=
  Scheduled.run step initial acts

end System
end MdnsAdvertiser
end TitanShare
