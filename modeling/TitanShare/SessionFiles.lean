import TitanShare.JsonPrefix
import TitanShare.PersistedPin

/-!
# The files behind a PIN

Every call of `generateSession` writes the session file for the next start of the daemon and the IPC
file for the GUI.  The session file is JSON text that may be missing, left empty by an exception, or
cut short by a full disk; over all refreshes and restarts it stands for one remembered PIN or for
none.
-/

namespace TitanShare

open ByteText Outcome

/-! ## Writing -/

/-- `m_currentIp` and `m_hostname`. -/
structure Identity where
  ip : Bytes
  hostname : Bytes
  deriving DecidableEq

/-- `TCP_PORT` -/
def tcpPort : Nat := 9999

/-- The object for the session file; its keys are in their sorted order. -/
def sessionText (pin : Bytes) (identity : Identity) : Except Exception Bytes := do
  let host ← Json.string identity.hostname
  let ip ← Json.string identity.ip
  let pin ← Json.string pin
  return Json.object [("host", host), ("ip", ip), ("pin", pin)]

/-- The object for the IPC file. -/
def pinIpcText (pin : Bytes) (identity : Identity) : Except Exception Bytes := do
  let host ← Json.string identity.hostname
  let ip ← Json.string identity.ip
  let pin ← Json.string pin
  return Json.object [("host", host), ("ip", ip), ("pin", pin), ("port", decimal tcpPort)]

/-- How the writing of one file goes. -/
structure StoreEnv where
  /-- `create_directories` does not throw. -/
  createsDir : Bool
  opens : Bool
  /-- The bytes that get into the file before the disk is full or the process dies. -/
  room : Nat

/-- Opening truncates the file; `dump` may throw behind that. -/
def StoreEnv.store (env : StoreEnv) (text : Except Exception Bytes) (file : SessionFile) :
    Outcome Exception SessionFile :=
  if env.createsDir = false then .threw .filesystemError file
  else if env.opens = false then .returned file
  else
    match text with
    | .error exception => .threw exception (.holds [])
    | .ok text => .returned (.holds (text.take env.room))

/-- The session file and the IPC file. -/
structure PinFiles where
  session : SessionFile
  ipc : SessionFile

structure PersistEnv where
  session : StoreEnv
  ipc : StoreEnv

/-- `SessionManager::persistSession`; an exception ends it. -/
def persistSession (env : PersistEnv) (pin : Bytes) (identity : Identity) (files : PinFiles) :
    PinFiles :=
  match env.session.store (sessionText pin identity) files.session with
  | .threw _ session => { files with session }
  | .returned session =>
      { session, ipc := (env.ipc.store (pinIpcText pin identity) files.ipc).state }

/-- What `loadPersistedSession` looks at in a parsed text. -/
def Json.Value.seen : Json.Value → JsonValue
  | .string text => .string text
  | .object members =>
      .object (members.map fun member =>
        (member.1, match member.2 with | .string text => .string text | _ => .other))
  | _ => .other

/-- `json::parse` for `loadPersistedSession`. -/
def parseSession (text : Bytes) : Option JsonValue :=
  (Json.parse text).map Json.Value.seen

/-! ## The daemon over its restarts -/

/-- A call of `generateSession`: the first one of a new process, or one of the refresh thread. -/
structure PinEvent where
  restarts : Bool
  identity : Identity
  draw : PinDraw
  env : PersistEnv

structure Installation where
  manager : SessionManager
  files : PinFiles

namespace Installation

/-- A new process begins with a new manager; only its first call may reuse the PIN of the file. -/
def step (installation : Installation) (event : PinEvent) : Installation :=
  let before := if event.restarts then .initial else installation.manager
  let manager := before.rotate
    (PinCall.rotation parseSession ⟨event.restarts, installation.files.session, event.draw⟩)
  { manager
    files := persistSession event.env manager.currentKey event.identity installation.files }

def run (installation : Installation) (events : List PinEvent) : Installation :=
  events.foldl step installation

end Installation

/-! ## What it is for -/

/-- The current PIN, and the one the next start will find. -/
structure PinMemory where
  current : Bytes
  remembered : Option Bytes

/-- The text of the session file gets into the file as a whole. -/
def PinEvent.Keeps (event : PinEvent) (pin : Bytes) : Prop :=
  ∃ text, sessionText pin event.identity = .ok text ∧ text.length ≤ event.env.session.room

instance (event : PinEvent) (pin : Bytes) : Decidable (event.Keeps pin) :=
  match dumped : sessionText pin event.identity with
  | .error _ => isFalse fun ⟨_, same, _⟩ => by
      rw [dumped] at same
      cases same
  | .ok text => decidable_of_iff (text.length ≤ event.env.session.room)
      ⟨fun fits => ⟨text, dumped, fits⟩, fun ⟨_, same, fits⟩ => by
        rw [dumped] at same
        cases same
        exact fits⟩

namespace PinMemory

/-- A start takes up the remembered PIN.  Then the memory is rewritten, if the file can be
opened. -/
def step (memory : PinMemory) (event : PinEvent) : PinMemory :=
  let drawn := generatePin event.draw
  let current := if event.restarts then memory.remembered.getD drawn else drawn
  { current
    remembered :=
      if event.env.session.createsDir = false ∨ event.env.session.opens = false then
        memory.remembered
      else if event.Keeps current then some current
      else none }

def run (memory : PinMemory) (events : List PinEvent) : PinMemory :=
  events.foldl step memory

end PinMemory

def Installation.memory (installation : Installation) : PinMemory where
  current := installation.manager.currentKey
  remembered := loadPersistedSession parseSession installation.files.session

/-! ## One file -/

/-- The session file as text is read as its three members. -/
theorem reads_sessionText {pin text : Bytes} {identity : Identity}
    (dumps : sessionText pin identity = .ok text) :
    Json.Reads
      (.object [(ascii "host", .string identity.hostname), (ascii "ip", .string identity.ip),
      (ascii "pin", .string pin)]) text ∧ text.head? = some (byte '{') := by
  obtain ⟨hostText, host, dumps⟩ := bind_eq_ok_iff.mp dumps
  obtain ⟨ipText, ip, dumps⟩ := bind_eq_ok_iff.mp dumps
  obtain ⟨pinText, quoted, dumps⟩ := bind_eq_ok_iff.mp dumps
  obtain rfl := Except.ok.inj dumps
  let fields : List Json.Field :=
    [⟨"host", .string identity.hostname, hostText⟩, ⟨"ip", .string identity.ip, ipText⟩,
      ⟨"pin", .string pin, pinText⟩]
  have reads : ∀ field ∈ fields, Json.Reads field.value field.text := by
    simp only [fields, List.forall_mem_cons]
    exact ⟨Json.reads_string host, Json.reads_string ip, Json.reads_string quoted, by simp⟩
  have plain : ∀ key ∈ ["host", "ip", "pin"], Json.PlainKey key := by decide
  have ordered : Json.Ascending ["host", "ip", "pin"] := by decide
  exact ⟨@Json.reads_object fields reads plain ordered, rfl⟩

/-- A session file holds the PIN of its text, unless the text broke off. -/
theorem load_store {pin text : Bytes} {identity : Identity}
    (dumps : sessionText pin identity = .ok text) (room : Nat) :
    loadPersistedSession parseSession (.holds (text.take room)) =
      if text.length ≤ room then some pin else none := by
  obtain ⟨reads, braced⟩ := reads_sessionText dumps
  rw [loadPersistedSession, parseSession]
  split
  · rename_i fits
    rw [List.take_of_length_le fits, reads.parse_eq]
    rfl
  · rename_i short
    rw [Json.parse_of_cut reads braced (not_le.mp short)]
    rfl

/-- What the next start finds, behind one call of `persistSession`. -/
theorem load_persistSession (event : PinEvent) (pin : Bytes) (files : PinFiles) :
    loadPersistedSession parseSession
        (persistSession event.env pin event.identity files).session =
      if event.env.session.createsDir = false ∨ event.env.session.opens = false then
        loadPersistedSession parseSession files.session
      else if event.Keeps pin then some pin
      else none := by
  have session : (persistSession event.env pin event.identity files).session =
      (event.env.session.store (sessionText pin event.identity) files.session).state := by
    unfold persistSession
    cases event.env.session.store (sessionText pin event.identity) files.session with
    | threw exception session => rfl
    | returned session => rfl
  rw [session]
  unfold StoreEnv.store
  cases event.env.session.createsDir with
  | false => simp
  | true =>
      cases event.env.session.opens with
      | false => simp
      | true =>
          simp only [Bool.true_eq_false, if_false, or_self]
          cases dumps : sessionText pin event.identity with
          | error exception =>
              have forgets : ¬ event.Keeps pin := by
                rintro ⟨text, same, _⟩
                rw [dumps] at same
                cases same
              rw [if_neg forgets]
              rfl
          | ok text =>
              have keeps : event.Keeps pin ↔ text.length ≤ event.env.session.room := by
                simp [PinEvent.Keeps, dumps]
              simp only [Outcome.state_returned, load_store dumps, keeps]

/-! ## Runs -/

theorem memory_step (installation : Installation) (event : PinEvent) :
    (installation.step event).memory = installation.memory.step event := by
  have current : (installation.step event).manager.currentKey =
      if event.restarts then
        (loadPersistedSession parseSession installation.files.session).getD (generatePin event.draw)
      else generatePin event.draw := by
    unfold Installation.step
    cases event.restarts with
    | false => rfl
    | true => rfl
  have remembered := load_persistSession event (installation.step event).manager.currentKey
    installation.files
  have files : (installation.step event).files = persistSession event.env
      (installation.step event).manager.currentKey event.identity installation.files := rfl
  simp only [Installation.memory, PinMemory.step, files, remembered, ← current]

theorem memory_run (installation : Installation) (events : List PinEvent) :
    (installation.run events).memory = installation.memory.run events := by
  induction events generalizing installation with
  | nil => rfl
  | cons event later ih =>
      have behind := ih (installation.step event)
      rw [memory_step] at behind
      exact behind

/-- The window behind a start: the PIN it took up, and the refreshed ones. -/
theorem recentPins_run {installation : Installation} {event : PinEvent}
    (starts : event.restarts = true) {later : List PinEvent}
    (refreshes : ∀ refresh ∈ later, refresh.restarts = false) :
    let resumed := installation.step event
    (resumed.run later).manager.recentPins =
      (resumed.manager.currentKey ::
        later.map fun refresh => generatePin refresh.draw).rtake Config.maxRecentPins := by
  intro resumed
  have window : resumed.manager.recentPins =
      RollingWindow.push Config.maxRecentPins [] resumed.manager.currentKey := by
    simp only [resumed, Installation.step, starts, if_true]
    rfl
  have pushes : (resumed.run later).manager.recentPins =
      (later.map fun refresh => generatePin refresh.draw).foldl
        (RollingWindow.push Config.maxRecentPins) resumed.manager.recentPins := by
    clear window
    generalize resumed = current
    induction later generalizing current with
    | nil => rfl
    | cons refresh later ih =>
        have pushed : (current.step refresh).manager.recentPins =
            RollingWindow.push Config.maxRecentPins current.manager.recentPins
              (generatePin refresh.draw) := by
          unfold Installation.step
          rw [refreshes refresh List.mem_cons_self]
          rfl
        rw [Installation.run, List.foldl_cons, ← Installation.run,
          ih (fun other member => refreshes other (List.mem_cons_of_mem _ member)), pushed]
        rfl
  rw [pushes, window, ← RollingWindow.foldl_push _ (by decide), List.foldl_cons]

/-- Over all refreshes and restarts the session file stands for the remembered PIN: a start takes it
up, or draws one if nothing is remembered, and from then on the last of this PIN and the refreshed
ones are valid.  A text that is refused or cut short is forgotten, and never read as another PIN. -/
theorem restart_resumes (installation : Installation) (events later : List PinEvent)
    (event : PinEvent) (starts : event.restarts = true)
    (refreshes : ∀ refresh ∈ later, refresh.restarts = false) :
    let before := installation.run events
    let resumed := before.step event
    let memory := installation.memory.run events
    before.manager.currentKey = memory.current ∧
      loadPersistedSession parseSession before.files.session = memory.remembered ∧
      resumed.manager.currentKey = memory.remembered.getD (generatePin event.draw) ∧
      ∀ pin, (resumed.run later).manager.validateKey pin = true ↔
        pin ∈ (resumed.manager.currentKey ::
          later.map fun refresh => generatePin refresh.draw).rtake Config.maxRecentPins := by
  intro before resumed memory
  have refines : before.memory = memory := memory_run installation events
  have resumes : resumed.memory = memory.step event :=
    (memory_step before event).trans (by rw [refines])
  refine ⟨congrArg PinMemory.current refines, congrArg PinMemory.remembered refines, ?_, ?_⟩
  · have current : resumed.manager.currentKey = (memory.step event).current :=
      congrArg PinMemory.current resumes
    rw [current, PinMemory.step, starts]
    rfl
  · intro pin
    rw [SessionManager.validateKey, decide_eq_true_iff, recentPins_run starts refreshes]

/-- A daemon without session file. -/
def freshInstallation : Installation where
  manager := .initial
  files := ⟨.missing, .missing⟩

/-- A call of `generateSession` that writes both files. -/
def writtenEvent (restarts : Bool) (draw : PinDraw) : PinEvent where
  restarts := restarts
  identity := ⟨ascii "192.168.0.2", ascii "desk"⟩
  draw := draw
  env := ⟨⟨true, true, 100⟩, ⟨true, true, 100⟩⟩

/-- A restart behind a refresh goes on with the refreshed PIN. -/
theorem restart_resumes_refreshed :
    let first : PinDraw := ⟨123456, by decide, by decide⟩
    let second : PinDraw := ⟨654321, by decide, by decide⟩
    let events := [writtenEvent true first, writtenEvent false second]
    ((freshInstallation.run events).step (writtenEvent true first)).manager.currentKey =
      ascii "654321" :=
  (restart_resumes freshInstallation _ [] (writtenEvent true ⟨123456, by decide, by decide⟩) rfl
    (by simp)).2.2.1.trans (by decide +kernel)

end TitanShare
