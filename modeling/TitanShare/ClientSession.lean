import Mathlib.Data.List.DropRight
import TitanShare.Commands
import TitanShare.Library.FileTable
import TitanShare.Library.OffsetBuffer
import TitanShare.Library.Outcome
import TitanShare.Library.Trace
import TitanShare.SessionManager
import TitanShare.Transport

/-!
# Client sessions

The state of a `ClientSession`, the world it acts on, and what it does, recorded as a trace of
events.  Everything the surroundings decide (clock readings, PIN rotations, results of system
calls) is an argument, one record for each handler call.
-/

namespace TitanShare

open ByteText

inductive SessionStage
  | auth
  | header
  | data
  deriving DecidableEq

/-- The members of `ClientSession` apart from the receive buffer. -/
structure ClientSession where
  /-- `m_ssl` is set. -/
  ssl : Bool
  remoteIp : Ip
  stage : SessionStage
  sessionKey : Bytes
  authAttempts : Nat
  /-- `m_closed` -/
  closed : Bool
  fileName : Bytes
  expectedBytes : Nat
  receivedBytes : Nat
  /-- `m_fileFd`; `none` is -1. -/
  fileFd : Option Nat
  deriving DecidableEq

def ClientSession.initial (ssl : Bool) (remoteIp : Ip) : ClientSession where
  ssl := ssl
  remoteIp := remoteIp
  stage := .auth
  sessionKey := []
  authAttempts := 0
  closed := false
  fileName := []
  expectedBytes := 0
  receivedBytes := 0
  fileFd := none

/-! ## Replies and events -/

/-- The texts a session hands to `sendResponse`. -/
inductive Reply
  | authBlocked
  | authOk
  | authFail
  | cmdFail
  | readyForFile
  | fileOk
  | unknownRequest
  | fileNotFound
  | emptyFile
  | cannotOpen
  | dispatched (response : Bytes)
  | fileList (listing : Bytes)
  | filePush (name : Bytes) (size : Nat)
  deriving DecidableEq

def Reply.text : Reply → Bytes
  | authBlocked => ascii "AUTH_BLOCKED\n"
  | authOk => ascii "AUTH_OK\n"
  | authFail => ascii "AUTH_FAIL\n"
  | cmdFail => ascii "CMD_FAIL\n"
  | readyForFile => ascii "READY_FOR_FILE\n"
  | fileOk => ascii "FILE_OK\n"
  | unknownRequest => ascii "UNKNOWN_REQUEST\n"
  | fileNotFound => ascii "PUSH_ERROR:file_not_found\n"
  | emptyFile => ascii "PUSH_ERROR:empty_file\n"
  | cannotOpen => ascii "PUSH_ERROR:cannot_open\n"
  | dispatched response => response
  | fileList listing => listing ++ ascii "\n"
  | filePush name size =>
      ascii "FILE_PUSH:" ++ name ++ ascii ":" ++ decimal size ++ ascii "\n"

/-- How one `publishTransferState` call goes: whether the directory is there or can be created,
and whether the file opens. -/
structure PublishEnv where
  createsDir : Bool
  opens : Bool
  deriving DecidableEq

/-- The surroundings of one round of the streaming loop of `pushFile`. -/
structure ChunkEnv where
  /-- The bytes `ifs.read` finds, cut to what was asked for. -/
  read : Bytes
  sends : List SendResult
  /-- More than 100 ms passed since the last progress update. -/
  due : Bool
  publish : PublishEnv
  deriving DecidableEq

/-- What a session does that can be observed from outside. -/
inductive Event
  | authLine (line : Bytes)
  /-- `isIpBlocked` returned. -/
  | blockCheck (blocked : Bool)
  /-- `validateKey` looked the PIN up in the window. -/
  | keyCheck (pin : Bytes) (window : List Bytes)
  | reply (reply : Reply)
  /-- The bytes of the preceding reply that the socket accepted. -/
  | sent (bytes : Bytes)
  | closeSocket
  /-- A request line, read from these positions of the stream. -/
  | headerLine (start stop : Nat) (line : Bytes)
  | dispatch (cmd : Bytes)
  | act (action : Action)
  | pushFileList
  | pushFile (filename : Bytes)
  /-- A file is opened for pushing; `taken` tells whether the connection will take the whole
  `FILE_PUSH` line, and `chunks` is what the rounds of the loop will find. -/
  | openPush (path : Bytes) (size : Nat) (taken : Bool) (chunks : List ChunkEnv)
  | pushed (bytes : Bytes)
  /-- A file is opened for an upload whose payload starts at a position of the stream; `shared`
  tells whether another open descriptor stands on it. -/
  | openUpload (start descriptor : Nat) (path : Bytes) (size : Nat) (shared : Bool)
  /-- `write` failed with `buffered` bytes unread and `missing` bytes of the payload to come. -/
  | writeFailed (buffered missing : Nat)
  /-- An upload is complete: what was written through its descriptor and what its path holds. -/
  | uploadDone (descriptor : Nat) (path written : Bytes) (held : Option Bytes)
  deriving DecidableEq

/-- Which part of the session an event belongs to. -/
inductive EventKind
  | authentication
  /-- A request line is taken from the stream. -/
  | line
  /-- A request other than an upload begins. -/
  | request
  /-- An upload begins. -/
  | upload
  /-- A request is worked on or answered. -/
  | answer
  /-- An upload ends. -/
  | data
  deriving DecidableEq

def Event.kind : Event → EventKind
  | authLine _ | blockCheck _ | keyCheck _ _ | closeSocket => .authentication
  | reply .authBlocked | reply .authOk | reply .authFail => .authentication
  | headerLine _ _ _ => .line
  | dispatch _ | pushFileList | pushFile _ | reply .unknownRequest => .request
  | openUpload _ _ _ _ _ | reply .readyForFile => .upload
  | writeFailed _ _ | uploadDone _ _ _ _ | reply .fileOk => .data
  | reply .cmdFail | reply .fileNotFound | reply .emptyFile | reply .cannotOpen => .answer
  | reply (.dispatched _) | reply (.fileList _) | reply (.filePush _ _) => .answer
  | sent _ | act _ | openPush _ _ _ _ | pushed _ => .answer

/-! ## The world -/

/-- What the transfer status file tells the GUI; progress is `done / total`. -/
structure TransferState where
  active : Bool
  isSending : Bool
  filename : Bytes
  done : Nat
  total : Nat
  deriving DecidableEq

inductive TransferFile
  | absent
  | truncated
  | holds (state : TransferState)
  deriving DecidableEq

/-- What the transfer status file holds, and what it held before, the newest first. -/
structure TransferHistory where
  file : TransferFile
  earlier : List TransferFile

/-- The file is rewritten. -/
def TransferHistory.rewrite (history : TransferHistory) (file : TransferFile) : TransferHistory :=
  ⟨file, history.file :: history.earlier⟩

/-- The history of authentication: PINs that reached `validateKey`, and bans. -/
inductive AuthRecord
  | guess (ip : Ip) (time : Nat) (accepted : Bool)
  | ban (ip : Ip) (time secs : Nat)
  deriving DecidableEq

/-- What the sessions of the daemon share. -/
structure World where
  manager : SessionManager
  /-- The steady clock, in nanoseconds. -/
  now : Nat
  authLog : List AuthRecord
  files : FileTable
  transfer : TransferHistory
  /-- `RECEIVED_FILES_DIR` -/
  receivedDir : Bytes
  /-- `SEND_TO_ANDROID_DIR` -/
  sendDir : Bytes

/-- The arguments and the inner choices of one `generateSession` call. -/
structure Rotation where
  preservePin : Bool
  persisted : Option Bytes
  generated : Bytes

/-- What happens between two calls into the session manager: time passes and the PIN thread may
run. -/
structure Gap where
  elapsed : Nat
  rotations : List Rotation

def World.advance (world : World) (gap : Gap) : World :=
  { world with
    now := world.now + gap.elapsed
    manager := gap.rotations.foldl
      (fun manager rotation =>
        manager.generateSession rotation.preservePin rotation.persisted rotation.generated)
      world.manager }

def World.record (world : World) (records : List AuthRecord) : World :=
  { world with authLog := world.authLog ++ records }

/-! ## Handler contexts -/

/-- What a request handler works on.  The receive buffer is out of its reach. -/
structure Context where
  session : ClientSession
  trace : List Event
  world : World
  /-- The number of bytes of the stream that were read so far. -/
  consumed : Nat

namespace Context

def emit (context : Context) (events : List Event) : Context :=
  { context with trace := context.trace ++ events }

/-- `sendResponse` -/
def sendResponse (context : Context) (sends : List SendResult) (reply : Reply) : Context :=
  context.emit [.reply reply, .sent (Transport.transmit context.session.ssl sends reply.text)]

/-- `m_closed = true; close(m_fd);` -/
def abort (context : Context) : Context :=
  { context.emit [.closeSocket] with session := { context.session with closed := true } }

@[simp]
theorem emit_trace (context : Context) (events : List Event) :
    (context.emit events).trace = context.trace ++ events := rfl

@[simp]
theorem emit_session (context : Context) (events : List Event) :
    (context.emit events).session = context.session := rfl

@[simp]
theorem emit_world (context : Context) (events : List Event) :
    (context.emit events).world = context.world := rfl

@[simp]
theorem emit_consumed (context : Context) (events : List Event) :
    (context.emit events).consumed = context.consumed := rfl

@[simp]
theorem sendResponse_trace (context : Context) (sends : List SendResult) (reply : Reply) :
    (context.sendResponse sends reply).trace =
      context.trace ++
        [.reply reply, .sent (Transport.transmit context.session.ssl sends reply.text)] := rfl

@[simp]
theorem sendResponse_session (context : Context) (sends : List SendResult) (reply : Reply) :
    (context.sendResponse sends reply).session = context.session := rfl

@[simp]
theorem sendResponse_world (context : Context) (sends : List SendResult) (reply : Reply) :
    (context.sendResponse sends reply).world = context.world := rfl

@[simp]
theorem sendResponse_consumed (context : Context) (sends : List SendResult) (reply : Reply) :
    (context.sendResponse sends reply).consumed = context.consumed := rfl

/-- The transfer status file was rewritten. -/
def withTransfer (context : Context) (transfer : TransferHistory) : Context :=
  { context with world := { context.world with transfer } }

/-- Only events of one kind were appended, and nothing else changed but the transfer status
file. -/
def Emits (kind : EventKind) (before after : Context) : Prop :=
  ∃ added transfer, (∀ event ∈ added, event.kind = kind) ∧
    after = (before.emit added).withTransfer transfer

@[refl]
theorem Emits.refl {kind : EventKind} (context : Context) : Emits kind context context :=
  ⟨[], context.world.transfer, by simp, by simp [emit, withTransfer]⟩

theorem Emits.trans {kind : EventKind} {first second third : Context}
    (left : Emits kind first second) (right : Emits kind second third) :
    Emits kind first third := by
  obtain ⟨added, transfer, kinds, rfl⟩ := left
  obtain ⟨more, later, moreKinds, rfl⟩ := right
  refine ⟨added ++ more, later, ?_, by simp [emit, withTransfer]⟩
  intro event member
  rcases List.mem_append.mp member with old | new
  · exact kinds event old
  · exact moreKinds event new

theorem Emits.kinds {kind : EventKind} {before after : Context} (emits : Emits kind before after) :
    Trace.Extends (fun event => event.kind = kind) before.trace after.trace := by
  obtain ⟨added, transfer, kinds, rfl⟩ := emits
  exact Trace.extends_append kinds

theorem Emits.session {kind : EventKind} {before after : Context}
    (emits : Emits kind before after) :
    after.session = before.session := by
  obtain ⟨added, transfer, _, rfl⟩ := emits
  rfl

theorem Emits.files {kind : EventKind} {before after : Context} (emits : Emits kind before after) :
    after.world.files = before.world.files ∧
      after.world.receivedDir = before.world.receivedDir := by
  obtain ⟨added, transfer, _, rfl⟩ := emits
  exact ⟨rfl, rfl⟩

theorem emits_emit {kind : EventKind} (context : Context) {events : List Event}
    (kinds : ∀ event ∈ events, event.kind = kind) : Emits kind context (context.emit events) :=
  ⟨events, context.world.transfer, kinds, rfl⟩

theorem emits_withTransfer (kind : EventKind) (context : Context) (transfer : TransferHistory) :
    Emits kind context (context.withTransfer transfer) :=
  ⟨[], transfer, by simp, by simp [emit, withTransfer]⟩

theorem sendResponse_eq (context : Context) (sends : List SendResult) (reply : Reply) :
    context.sendResponse sends reply =
      (context.emit [.reply reply]).emit
        [.sent (Transport.transmit context.session.ssl sends reply.text)] := by
  simp [sendResponse, emit]

/-- A reply in answer to a request. -/
theorem emits_sendResponse (context : Context) (sends : List SendResult) {reply : Reply}
    (answers : (Event.reply reply).kind = .answer) :
    Emits .answer context (context.sendResponse sends reply) := by
  apply emits_emit
  simpa using ⟨answers, rfl⟩

end Context

/-! ## The transfer status file -/

/-- `publishTransferState` -/
def publishTransferState (env : PublishEnv) (state : TransferState) (context : Context) :
    Outcome Exception Context :=
  if env.createsDir = false then .threw .filesystemError context
  else if env.opens = false then .returned context
  -- the stream has truncated the file before `dump` throws
  else if Json.validUtf8 state.filename = false then
    .threw .typeError (context.withTransfer (context.world.transfer.rewrite .truncated))
  else .returned (context.withTransfer (context.world.transfer.rewrite (.holds state)))

theorem publishTransferState_state (env : PublishEnv) (state : TransferState)
    (context : Context) :
    ∃ transfer, (publishTransferState env state context).state = context.withTransfer transfer := by
  unfold publishTransferState
  split
  · exact ⟨context.world.transfer, rfl⟩
  · split
    · exact ⟨context.world.transfer, rfl⟩
    · split
      · exact ⟨_, rfl⟩
      · exact ⟨_, rfl⟩

/-- A publish call returns unless the directory is missing or the name cannot be serialised. -/
def PublishEnv.Succeeds (env : PublishEnv) (filename : Bytes) : Prop :=
  env.createsDir = true ∧ (env.opens = true → Json.validUtf8 filename = true)

theorem publishTransferState_returns_iff (env : PublishEnv) (state : TransferState)
    (context : Context) :
    (publishTransferState env state context).Returns ↔ env.Succeeds state.filename := by
  unfold publishTransferState PublishEnv.Succeeds
  cases env.createsDir with
  | false => simp
  | true =>
      cases env.opens with
      | false => simp
      | true =>
          cases Json.validUtf8 state.filename with
          | false => simp
          | true => simp

end TitanShare
