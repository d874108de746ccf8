import Mathlib.Data.List.AList
import TitanShare.AuthGate
import TitanShare.Library.Handles

/-!
# The server and its descriptors

`TcpServer` with its table of clients, and the numbers of the process's descriptor table.  Other
threads open and close descriptors at any time.  `epoll` reports a descriptor only while the server
has it registered, and closing a descriptor ends its registration.
-/

namespace TitanShare

/-- What the server's code does to a descriptor number it has from `accept`. -/
inductive FdOp
  | accepted (fd : Nat)
  | read (fd : Nat)
  | written (fd : Nat)
  /-- `close` in `TcpServer`. -/
  | closed (fd : Nat)
  /-- `close` in a session that aborts itself. -/
  | aborted (fd : Nat)
  deriving DecidableEq

def FdOp.handle : FdOp → Handles.Op
  | accepted fd => .acquire fd
  | read fd | written fd => .use fd
  | closed fd | aborted fd => .release fd

/-- What an event of a session does to its descriptor. -/
def Event.fdOps (fd : Nat) : Event → List FdOp
  | sent _ | pushed _ => [.written fd]
  | closeSocket => [.aborted fd]
  | _ => []

/-- What another thread does to the descriptor table. -/
inductive Interference
  | opens (fd : Nat)
  | closes (fd : Nat)

/-- The result of one `recv` or `SSL_read` call. -/
inductive ReadResult
  | data (chunk : Bytes) (env : Env)
  /-- 0 -/
  | ended
  /-- `EAGAIN`, or a WANT code of TLS. -/
  | again
  /-- Any other error. -/
  | failed

/-- One round of the loop of `handleClientData`: what other threads do before the read, its result,
and what they do before a `close` that follows it. -/
structure Round where
  before : List Interference
  result : ReadResult
  after : List Interference

structure TcpServer where
  world : World
  /-- `m_clients` -/
  clients : AList fun _ : Nat => Client
  /-- The numbers that are open in the process. -/
  openFds : Nat → Bool
  /-- The numbers other threads have opened and not closed. -/
  foreign : Nat → Bool
  /-- The client descriptors registered with `epoll`. -/
  registered : Nat → Bool
  ops : List FdOp
  /-- An exception has left the event loop. -/
  crashed : Bool

/-- One event of the server's loop, or of another thread. -/
inductive ServerInput
  | accept (fd : Nat) (ssl : Bool) (remoteIp : Ip)
  | readable (fd : Nat) (rounds : List Round)
  | hangup (fd : Nat) (before : List Interference)
  | interfere (act : Interference)

namespace TcpServer

/-- Only numbers that are in use already are open at the start. -/
def start (startup : Startup) (inUse : Nat → Bool) : TcpServer where
  world := startup.world
  clients := ∅
  openFds := inUse
  foreign := fun _ => false
  registered := fun _ => false
  ops := []
  crashed := false

def log (server : TcpServer) (ops : List FdOp) : TcpServer :=
  { server with ops := server.ops ++ ops }

/-- `close` of a number: it is free again, and no longer registered. -/
def release (server : TcpServer) (fd : Nat) : TcpServer :=
  { server with
    openFds := Function.update server.openFds fd false
    registered := Function.update server.registered fd false }

/-- Other threads open free numbers, and close what they have opened. -/
def interfere (server : TcpServer) : Interference → TcpServer
  | .opens fd =>
      if server.openFds fd = true then server
      else
        { server with
          openFds := Function.update server.openFds fd true
          foreign := Function.update server.foreign fd true }
  | .closes fd =>
      if server.foreign fd = true then
        { server.release fd with foreign := Function.update server.foreign fd false }
      else server

def interfereAll (server : TcpServer) (acts : List Interference) : TcpServer :=
  acts.foldl interfere server

/-- `~ClientSession`: the upload file is closed, and TLS says goodbye on the socket. -/
def destroy (server : TcpServer) (fd : Nat) (client : Client) : TcpServer :=
  let world :=
    match client.session.fileFd with
    | none => server.world
    | some descriptor =>
        { server.world with files := server.world.files.close descriptor }
  { server.log (if client.session.ssl then [.written fd] else []) with world }

/-- `removeClient`: the number is closed whether a client has it or not. -/
def removeClient (server : TcpServer) (fd : Nat) (before : List Interference) : TcpServer :=
  let erased :=
    match server.clients.lookup fd with
    | none => server
    | some client => { server.destroy fd client with clients := server.clients.erase fd }
  ((erased.interfereAll before).log [.closed fd]).release fd

/-- `acceptConnection`, for a number the system had free.  A client the table still has under the
number is replaced. -/
def acceptConnection (server : TcpServer) (fd : Nat) (ssl : Bool) (remoteIp : Ip) : TcpServer :=
  if server.openFds fd = true then server
  else
    let accepted :=
      { server.log [.accepted fd] with openFds := Function.update server.openFds fd true }
    if Config.maxClients ≤ server.clients.keys.length then
      (accepted.log [.closed fd]).release fd
    else
      -- the TLS handshake is tried on every connection
      let registered :=
        { accepted.log [.read fd, .written fd] with
          registered := Function.update server.registered fd true }
      let vacated :=
        match server.clients.lookup fd with
        | none => registered
        | some old => registered.destroy fd old
      { vacated with clients := server.clients.insert fd (.initial ssl remoteIp) }

/-- Put a session back after a call of `onData`. -/
def store (server : TcpServer) (fd : Nat) (client : Client) (receiver : Receiver) : TcpServer :=
  let events := receiver.trace.drop client.trace.length
  let stored :=
    { server.log (events.flatMap (Event.fdOps fd)) with
      world := receiver.world
      clients := server.clients.insert fd receiver.client }
  if .closeSocket ∈ events then stored.release fd else stored

/-- The call of `onData` for a chunk. -/
def feed (server : TcpServer) (fd : Nat) (client : Client) (chunk : Bytes) (env : Env) :
    TcpServer :=
  match (client.receiver server.world).onData env chunk with
  | .returned receiver => server.store fd client receiver
  | .threw _ receiver => { server.store fd client receiver with crashed := true }

/-- The loop of `handleClientData`, for a client the table has.  It reads on until a read has
nothing to offer. -/
def readLoop (fd : Nat) : List Round → TcpServer → TcpServer
  | [], server => server.log [.read fd]
  | round :: rest, server =>
      let reached := (server.interfereAll round.before).log [.read fd]
      match round.result with
      | .again => reached
      | .ended => reached.removeClient fd round.after
      | .failed => reached.removeClient fd round.after
      | .data chunk env =>
          match reached.clients.lookup fd with
          | none => reached
          | some client =>
              let fed := reached.feed fd client chunk env
              if fed.crashed = true then fed else readLoop fd rest fed

/-- `handleClientData` -/
def handleClientData (server : TcpServer) (fd : Nat) (rounds : List Round) : TcpServer :=
  match server.clients.lookup fd with
  | none => server
  | some _ => readLoop fd rounds server

def step (server : TcpServer) (input : ServerInput) : TcpServer :=
  if server.crashed = true then server
  else
    match input with
    | .accept fd ssl remoteIp => server.acceptConnection fd ssl remoteIp
    | .readable fd rounds =>
        if server.registered fd = true then server.handleClientData fd rounds else server
    | .hangup fd before =>
        if server.registered fd = true then server.removeClient fd before else server
    | .interfere act => server.interfere act

def run (startup : Startup) (inUse : Nat → Bool) (inputs : List ServerInput) : TcpServer :=
  inputs.foldl step (start startup inUse)

end TcpServer
end TitanShare
