import TitanShare.IpcPaths
import TitanShare.SessionFiles

/-!
# The pairing window

The GUI polls the status files of the daemon and shows the PIN, the name of the machine and the
transfer under way.  What the window shows behind a poll is what the daemon published last, as long
as other daemons left only older files.
-/

namespace TitanShare

open ByteText Outcome

/-! ## The model of the window -/

/-- The properties of `AppModel` with one signal. -/
structure TransferView (Number : Type) where
  active : Bool
  isSending : Bool
  filename : Bytes
  progress : Number
  deriving DecidableEq

structure AppModel (Number : Type) where
  pinCode : Bytes
  deviceName : Bytes
  transfer : TransferView Number

/-- The PIN shown in place of one. -/
def noPin : Bytes :=
  ascii "------"

/-- What the GUI takes from its libraries, and the number that the daemon writes for a quotient. -/
structure Toolkit (Number : Type) where
  /-- `QJsonDocument::fromJson` -/
  fromJson : Bytes → Option Json.Value
  toDouble : Bytes → Number
  zero : Number
  /-- `dump` of `static_cast<float>(done) / static_cast<float>(total)`. -/
  progress : Nat → Nat → Json.Value × Bytes
  /-- `gethostname`, cut to what the buffer holds. -/
  localHostname : Bytes

/-- The model, and what the bindings of the window read from it last. -/
structure Window (Number : Type) where
  model : AppModel Number
  shown : AppModel Number

namespace Window

variable {Number : Type}

def pinCodeChanged (window : Window Number) : Window Number :=
  { window with shown := { window.shown with pinCode := window.model.pinCode } }

def deviceNameChanged (window : Window Number) : Window Number :=
  { window with shown := { window.shown with deviceName := window.model.deviceName } }

def transferChanged (window : Window Number) : Window Number :=
  { window with shown := { window.shown with transfer := window.model.transfer } }

def setPinCode (pin : Bytes) (window : Window Number) : Window Number :=
  if window.model.pinCode ≠ pin then
    pinCodeChanged { window with model := { window.model with pinCode := pin } }
  else window

def setDeviceName (name : Bytes) (window : Window Number) : Window Number :=
  if window.model.deviceName ≠ name then
    deviceNameChanged { window with model := { window.model with deviceName := name } }
  else window

def updateTransferState [DecidableEq Number] (transfer : TransferView Number)
    (window : Window Number) : Window Number :=
  if window.model.transfer ≠ transfer then
    transferChanged { window with model := { window.model with transfer } }
  else window

end Window

namespace Toolkit

variable {Number : Type} (toolkit : Toolkit Number)

/-- `AppModel` as constructed, with bindings just evaluated. -/
def window : Window Number :=
  let model : AppModel Number := ⟨noPin, ascii "Linux PC", ⟨false, false, [], toolkit.zero⟩⟩
  ⟨model, model⟩

/-- `obj.value` of the object of a document; a document that is none has the empty object. -/
def member (key : String) : Option Json.Value → Option Json.Value
  | some (.object members) => members.lookup (ascii key)
  | _ => none

/-- `QJsonValue::toString` -/
def toStringOr (default : Bytes) : Option Json.Value → Bytes
  | some (.string text) => text
  | _ => default

/-- `QJsonValue::toBool(false)` -/
def toBool : Option Json.Value → Bool
  | some (.boolean value) => value
  | _ => false

/-- `QJsonValue::toDouble(0.0)` -/
def toDoubleOr : Option Json.Value → Number
  | some (.number text) => toolkit.toDouble text
  | _ => toolkit.zero

/-- The bytes of a file that the GUI can open. -/
def opened (files : Bytes → Option IpcFile) (path : Bytes) : Option Bytes :=
  (files path).bind fun file => if file.readable then some file.content else none

/-- `readPin`: the PIN, and the host written to the argument, which came in empty. -/
def readPin (files : Bytes → Option IpcFile) (env : UserEnv) : Bytes × Bytes :=
  match opened files (getIpcFilePath files env (ascii "titanshare-pin.json")) with
  | none => (noPin, [])
  | some text =>
      let document := toolkit.fromJson text
      (toStringOr noPin (member "pin" document),
        toStringOr (ascii "Linux PC") (member "host" document))

/-- The arguments of `updateTransferState` in `readTransferState`. -/
def transferView (files : Bytes → Option IpcFile) (env : UserEnv) : TransferView Number :=
  match opened files (getIpcFilePath files env (ascii "transfer.json")) with
  | none => ⟨false, false, [], toolkit.zero⟩
  | some text =>
      let document := toolkit.fromJson text
      { active := toBool (member "active" document)
        isSending := toBool (member "is_sending" document)
        filename := toStringOr [] (member "filename" document)
        progress := toolkit.toDoubleOr (member "progress" document) }

def readTransferState [DecidableEq Number] (files : Bytes → Option IpcFile) (env : UserEnv)
    (window : Window Number) : Window Number :=
  window.updateTransferState (toolkit.transferView files env)

/-- The name shown for the host of a PIN file. -/
def hostShown (host : Bytes) : Bytes :=
  if host = [] then toolkit.localHostname else host

/-- The code shown for the PIN of a PIN file. -/
def pinShown (pin : Bytes) : Bytes :=
  if pin = [] ∨ pin = noPin then noPin else pin

def refreshPin (files : Bytes → Option IpcFile) (env : UserEnv) (window : Window Number) :
    Window Number :=
  let read := toolkit.readPin files env
  (window.setDeviceName (toolkit.hostShown read.2)).setPinCode (pinShown read.1)

end Toolkit

/-! ## The desktop -/

/-- What the file system keeps of a write. -/
structure Stamp where
  mtime : Int
  readable : Bool

def SessionFile.stamped (stamp : Stamp) : SessionFile → Option IpcFile
  | .missing => none
  | .unreadable => some ⟨[], stamp.mtime, false⟩
  | .holds content => some ⟨content, stamp.mtime, stamp.readable⟩

/-- The object that `publishTransferState` dumps. -/
def Toolkit.transferText {Number : Type} (toolkit : Toolkit Number) (state : TransferState) :
    Except Exception Bytes := do
  let flag (value : Bool) : Bytes := if value then ascii "true" else ascii "false"
  let filename ← Json.string state.filename
  return Json.object [("active", flag state.active), ("filename", filename),
    ("is_sending", flag state.isSending), ("progress", (toolkit.progress state.done state.total).2)]

def TransferFile.stamped {Number : Type} (toolkit : Toolkit Number) (stamp : Stamp) :
    TransferFile → Option IpcFile
  | .absent => none
  | .truncated => some ⟨[], stamp.mtime, stamp.readable⟩
  | .holds state =>
      some ⟨(toolkit.transferText state).toOption.getD [], stamp.mtime, stamp.readable⟩

/-- What a `publishTransferState` call leaves of the file. -/
def TransferFile.publish (env : PublishEnv) (state : TransferState) (file : TransferFile) :
    TransferFile :=
  if ¬ (env.createsDir = true ∧ env.opens = true) then file
  else if Json.validUtf8 state.filename = false then .truncated
  else .holds state

/-- The daemon that runs, and the window.  Files of other daemons lie around unchanged. -/
structure Desktop (Number : Type) where
  installation : Installation
  pinStamp : Stamp
  transfer : TransferFile
  transferStamp : Stamp
  window : Window Number

/-- What does not change while the window is open. -/
structure Login (Number : Type) where
  toolkit : Toolkit Number
  env : UserEnv
  stale : Bytes → Option IpcFile

/-- `persistSession` gets to the IPC file and truncates it. -/
def PersistEnv.rewritesIpc (env : PersistEnv) (pin : Bytes) (identity : Identity) : Bool :=
  env.session.createsDir && (!env.session.opens || (sessionText pin identity).isOk) &&
    env.ipc.createsDir && env.ipc.opens

inductive DesktopEvent
  /-- A call of `generateSession`, with the stamp of the IPC file if it is written. -/
  | generates (event : PinEvent) (stamp : Stamp)
  /-- A call of `publishTransferState`. -/
  | reports (env : PublishEnv) (state : TransferState) (stamp : Stamp)
  | pinFileChanged
  | transferFileChanged
  /-- The timer. -/
  | polls

namespace Login

variable {Number : Type} [DecidableEq Number] (login : Login Number)

/-- `PIN_IPC_PATH` -/
def pinPath : Bytes :=
  getIpcDir login.env ++ byte '/' :: ascii "titanshare-pin.json"

/-- `TRANSFER_IPC_PATH` -/
def transferPath : Bytes :=
  getIpcDir login.env ++ byte '/' :: ascii "transfer.json"

def files (desktop : Desktop Number) (path : Bytes) : Option IpcFile :=
  if path = login.pinPath then desktop.installation.files.ipc.stamped desktop.pinStamp
  else if path = login.transferPath then
    desktop.transfer.stamped login.toolkit desktop.transferStamp
  else login.stale path

def refreshPin (desktop : Desktop Number) : Desktop Number :=
  { desktop with
    window := login.toolkit.refreshPin (login.files desktop) login.env desktop.window }

def readTransferState (desktop : Desktop Number) : Desktop Number :=
  { desktop with
    window := login.toolkit.readTransferState (login.files desktop) login.env desktop.window }

def step (desktop : Desktop Number) : DesktopEvent → Desktop Number
  | .generates event stamp =>
      let installation := desktop.installation.step event
      { desktop with
        installation
        pinStamp :=
          if event.env.rewritesIpc installation.manager.currentKey event.identity then stamp
          else desktop.pinStamp }
  | .reports env state stamp =>
      { desktop with
        transfer := desktop.transfer.publish env state
        transferStamp := if env.createsDir && env.opens then stamp else desktop.transferStamp }
  | .pinFileChanged => login.refreshPin desktop
  | .transferFileChanged => login.readTransferState desktop
  | .polls => login.readTransferState (login.refreshPin desktop)

def run (desktop : Desktop Number) (events : List DesktopEvent) : Desktop Number :=
  events.foldl login.step desktop

/-- No daemon of this login has written yet, and the window has just been opened. -/
def start (installation : Installation) : Desktop Number where
  installation := { installation with files := { installation.files with ipc := .missing } }
  pinStamp := ⟨0, false⟩
  transfer := .absent
  transferStamp := ⟨0, false⟩
  window := login.toolkit.window

end Login

/-! ## What it is for -/

/-- The last PIN that was published. -/
inductive Notice
  | nothing
  /-- The file was rewritten, and its text broke off or was refused. -/
  | broken
  | whole (pin : Bytes) (identity : Identity)
  deriving DecidableEq

/-- What the daemon has published. -/
structure Bulletin where
  memory : PinMemory
  notice : Notice
  transfer : TransferFile

/-- The text of the IPC file gets into the file as a whole. -/
def PinEvent.Publishes (event : PinEvent) (pin : Bytes) : Prop :=
  ∃ text, pinIpcText pin event.identity = .ok text ∧ text.length ≤ event.env.ipc.room

instance (event : PinEvent) (pin : Bytes) : Decidable (event.Publishes pin) :=
  match dumped : pinIpcText pin event.identity with
  | .error _ => isFalse fun ⟨_, same, _⟩ => by
      rw [dumped] at same
      cases same
  | .ok text => decidable_of_iff (text.length ≤ event.env.ipc.room)
      ⟨fun fits => ⟨text, dumped, fits⟩, fun ⟨_, same, fits⟩ => by
        rw [dumped] at same
        cases same
        exact fits⟩

namespace Bulletin

def step (bulletin : Bulletin) : DesktopEvent → Bulletin
  | .generates event _ =>
      let memory := bulletin.memory.step event
      { bulletin with
        memory
        notice :=
          if event.env.rewritesIpc memory.current event.identity then
            if event.Publishes memory.current then .whole memory.current event.identity else .broken
          else bulletin.notice }
  | .reports env state _ => { bulletin with transfer := bulletin.transfer.publish env state }
  | _ => bulletin

def run (bulletin : Bulletin) (events : List DesktopEvent) : Bulletin :=
  events.foldl step bulletin

end Bulletin

/-! ## Flat objects -/

def Json.Value.flat : Json.Value → Bool
  | .array _ => false
  | .object _ => false
  | _ => true

/-- The members of an object without arrays and objects in it. -/
structure FlatFields (fields : List Json.Field) : Prop where
  reads : ∀ field ∈ fields, Json.Reads field.value field.text
  flat : ∀ field ∈ fields, field.value.flat = true
  plain : ∀ key ∈ fields.map Json.Field.key, Json.PlainKey key
  ordered : Json.Ascending (fields.map Json.Field.key)

/-- What the GUI relies on in its libraries: they read the text of a flat object, and refuse a part
of it.  The daemon writes a quotient as a number, or as `null`. -/
structure Toolkit.Faithful {Number : Type} (toolkit : Toolkit Number) : Prop where
  reads : ∀ fields, FlatFields fields →
    toolkit.fromJson (Json.object (fields.map fun field => (field.key, field.text))) =
      some (.object (fields.map Json.Field.member))
  refuses : ∀ fields, FlatFields fields →
    ∀ room < (Json.object (fields.map fun field => (field.key, field.text))).length,
      toolkit.fromJson
        ((Json.object (fields.map fun field => (field.key, field.text))).take room) = none
  progress : ∀ done total, Json.Reads (toolkit.progress done total).1
    (toolkit.progress done total).2 ∧
    (toolkit.progress done total).1.flat = true

variable {Number : Type} {toolkit : Toolkit Number}

/-- What the IPC file holds after a notice. -/
def Notice.Stands (toolkit : Toolkit Number) : Notice → SessionFile → Prop
  | .nothing, file => file = .missing
  | .broken, file => ∃ content, file = .holds content ∧ toolkit.fromJson content = none
  | .whole pin identity, file =>
      ∃ text, pinIpcText pin identity = .ok text ∧ file = .holds text

namespace Window

/-- The bindings of the window have seen every change of the model. -/
def of (model : AppModel Number) : Window Number :=
  ⟨model, model⟩

end Window

section Refresh

variable {files : Bytes → Option IpcFile} {env : UserEnv}

end Refresh

/-! ## Runs -/

section Runs

variable {login : Login Number}

/-- The GUI may read what is written, and it is newer than what other daemons left. -/
def Login.Fresh (login : Login Number) (stamp : Stamp) : Prop :=
  stamp.readable = true ∧ -1 < stamp.mtime ∧
    ∀ path file, login.stale path = some file → file.mtime < stamp.mtime

/-- The desktop behind a run of events, and what was published in it. -/
structure Login.Follows (login : Login Number) (desktop : Desktop Number) (bulletin : Bulletin) :
    Prop where
  memory : desktop.installation.memory = bulletin.memory
  notice : bulletin.notice.Stands login.toolkit desktop.installation.files.ipc
  transfer : desktop.transfer = bulletin.transfer
  named : ∀ state, bulletin.transfer = .holds state → Json.validUtf8 state.filename = true
  pinFresh : bulletin.notice ≠ .nothing → login.Fresh desktop.pinStamp
  transferFresh : bulletin.transfer ≠ .absent → login.Fresh desktop.transferStamp
  accepted : bulletin.notice ≠ .nothing →
    desktop.installation.manager.validateKey bulletin.memory.current = true
  bound : ∃ model, desktop.window = Window.of model

variable {desktop : Desktop Number} {bulletin : Bulletin}

variable [DecidableEq Number]

end Runs

/-! ## What the window finds -/

section Finds

variable {login : Login Number} {desktop : Desktop Number} {bulletin : Bulletin}

variable [DecidableEq Number]

end Finds

/-! ## A desktop -/

end TitanShare
