import TitanShare.Config
import TitanShare.Json

/-!
# The command dispatcher

`CommandDispatcher::dispatch` with the power, volume, lock, system-info, mirror and input commands
behind it.  A command is answered with the actions it starts and a reply text, or ends with an
exception that nothing on the way catches.
-/

namespace TitanShare

open ByteText

/-- `ExecResult` -/
structure ExecResult where
  exitCode : Int
  output : Bytes

def ExecResult.success (result : ExecResult) : Bool :=
  result.exitCode == 0

/-- The metrics `SystemInfo::collect` gathers, as the texts and numbers it puts into the object. -/
structure SystemReadings where
  battery : Int
  brand : Bytes
  cpuCoreCount : Nat
  cpuCoresUsage : List Bytes
  cpuFreqGhz : Bytes
  cpuLoad : Bytes
  cpuTemp : Bytes
  model : Bytes
  osVersion : Bytes
  ramTotal : Bytes
  ramUsage : Bytes
  ramUsed : Bytes
  storageTotal : Bytes
  storageUsed : Bytes
  storageUsage : Bytes

/-- What the surroundings answer while one command is dispatched. -/
structure CommandEnv where
  /-- `m_input` is set; `init` sets it before the server starts. -/
  hasInput : Bool
  /-- `getuid() == 0` -/
  root : Bool
  /-- The result of running a shell command. -/
  exec : Bytes → ExecResult
  /-- Whether the thread of `execDetached` starts; creating it can throw. -/
  detach : Bytes → Except Exception Unit
  readings : SystemReadings
  localIp : Bytes
  /-- `m_mirror` is set, and its `isRunning()`. -/
  hasMirror : Bool
  mirrorRunning : Bool
  /-- `MirrorReceiver::start`; creating its thread can throw. -/
  mirrorStart : Except Exception Bool

/-- What a command makes other components do. -/
inductive Action
  | exec (command : Bytes)
  | execDetached (command : Bytes)
  | startMirror
  | stopMirror
  | moveMouse (dx dy : Int)
  | scrollWheel (dy : Int)
  | clickMouse (button : Bytes)
  | mouseDown (button : Bytes)
  | mouseUp (button : Bytes)
  | typeText (text : Bytes)
  | pressKey (key : Bytes)
  deriving DecidableEq

/-- The actions started before a command returned its reply or threw. -/
structure Answer where
  actions : List Action
  reply : Except Exception Bytes

def cmdOk : Bytes := ascii "CMD_OK\n"

def cmdFail : Bytes := ascii "CMD_FAIL\n"

def cmdUnknown : Bytes := ascii "CMD_UNKNOWN\n"

/-- Run one shell command and report whether it succeeded. -/
def execAnswer (env : CommandEnv) (before : List Action) (command : Bytes) : Answer :=
  ⟨before ++ [.exec command], .ok (if (env.exec command).success then cmdOk else cmdFail)⟩

/-! ## Power -/

namespace PowerCommands

def execute (env : CommandEnv) (cmd : Bytes) : Answer :=
  if cmd = ascii "shutdown" then execAnswer env [] (ascii "systemctl poweroff")
  else if cmd = ascii "reboot" then execAnswer env [] (ascii "systemctl reboot")
  else if cmd = ascii "sleep" then execAnswer env [] (ascii "systemctl suspend")
  else ⟨[], .ok cmdUnknown⟩

end PowerCommands

/-! ## The seat0 lookups -/

/-- The variables that `ls >> s_id >> s_uid >> s_user >> s_seat` assigns; they keep their values
from line to line. -/
structure SeatVariables where
  id : Bytes
  uid : Bytes
  user : Bytes
  seat : Bytes

/-- The chained extraction from one line; the flag is the state of the stream afterwards. -/
def extractSeat (vars : SeatVariables) (line : Bytes) : SeatVariables × Bool :=
  match word line with
  | none => (vars, false)
  | some (id, afterId) =>
      match word afterId with
      | none => ({ vars with id }, false)
      | some (uid, afterUid) =>
          match word afterUid with
          | none => ({ vars with id, uid }, false)
          | some (user, afterUser) =>
              match word afterUser with
              | none => ({ vars with id, uid, user }, false)
              | some (seat, _) => (⟨id, uid, user, seat⟩, true)

/-- The loop of `lock` and `volume` over the lines of `loginctl list-sessions`. -/
def findSeat (vars : SeatVariables) : List Bytes → Option SeatVariables
  | [] => none
  | line :: rest =>
      let extracted := extractSeat vars line
      if extracted.2 = true ∧ extracted.1.seat = ascii "seat0" then some extracted.1
      else findSeat extracted.1 rest

def listSessions : Bytes := ascii "/usr/bin/loginctl list-sessions --no-legend"

/-! ## Volume -/

namespace VolumeCommands

/-- The user of the seat0 session, with the fallback of the source. -/
def sessionUser (env : CommandEnv) : Bytes :=
  let listResult := env.exec listSessions
  let found :=
    if listResult.success then findSeat ⟨[], [], [], []⟩ (lines listResult.output) else none
  match found with
  | none => ascii "msfvenom"
  | some vars => vars.user

def execute (env : CommandEnv) (cmd : Bytes) : Answer :=
  let user := sessionUser env
  let listed : List Action := [.exec listSessions]
  let commandPrefix :=
    if env.root then
      ascii "runuser -u " ++ user ++ ascii " -- env XDG_RUNTIME_DIR=/run/user/$(id -u " ++ user ++
        ascii ") "
    else []
  if cmd = ascii "volume_up" then
    execAnswer env listed (commandPrefix ++ ascii "pactl set-sink-volume @DEFAULT_SINK@ +5%")
  else if cmd = ascii "volume_down" then
    execAnswer env listed (commandPrefix ++ ascii "pactl set-sink-volume @DEFAULT_SINK@ -5%")
  else if cmd = ascii "mute" then
    execAnswer env listed (commandPrefix ++ ascii "pactl set-sink-mute @DEFAULT_SINK@ toggle")
  else ⟨listed, .ok cmdUnknown⟩

end VolumeCommands

/-! ## Lock, unlock and wake-up -/

namespace LockCommands

/-- The words of a line, as the extraction loop of `unlockSession` collects them. -/
def wordsFrom (current : Bytes) : Bytes → List Bytes
  | [] => if current = [] then [] else [current]
  | head :: tail =>
      if isSpace head then
        if current = [] then wordsFrom [] tail else current :: wordsFrom [] tail
      else wordsFrom (current ++ [head]) tail

/-- The session and the user of the first line whose fourth word is `seat0`. -/
def findParts : List Bytes → Option (Bytes × Bytes)
  | [] => none
  | line :: rest =>
      match wordsFrom [] line with
      | id :: _ :: user :: seat :: _ =>
          if seat = ascii "seat0" then some (id, user) else findParts rest
      | _ => findParts rest

/-- The session on seat0 and its user, if the listing succeeds and names both. -/
def unlockTarget (env : CommandEnv) : Option (Bytes × Bytes) :=
  let listResult := env.exec listSessions
  if listResult.success then
    match findParts (lines listResult.output) with
    | none => none
    | some (sessionId, sessionUser) =>
        if sessionId = [] ∨ sessionUser = [] then none else some (sessionId, sessionUser)
  else none

def unlockCmd (env : CommandEnv) (sessionId sessionUser : Bytes) : Bytes :=
  (if env.root then ascii "runuser -u " ++ sessionUser ++ ascii " -- " else []) ++
    ascii "/usr/bin/loginctl unlock-session " ++ sessionId

def activateCmd (env : CommandEnv) (sessionId sessionUser : Bytes) : Bytes :=
  (if env.root then ascii "runuser -u " ++ sessionUser ++ ascii " -- " else []) ++
    ascii "/usr/bin/loginctl activate " ++ sessionId

def xsetCmd (env : CommandEnv) (sessionUser : Bytes) : Bytes :=
  if env.root then
    ascii "runuser -u " ++ sessionUser ++ ascii " -- env DISPLAY=:0 xset dpms force on"
  else ascii "DISPLAY=:0 xset dpms force on"

def unlockSession (env : CommandEnv) : Answer :=
  let listed : List Action := [.exec listSessions]
  match unlockTarget env with
  | none => ⟨listed, .ok cmdFail⟩
  | some (sessionId, sessionUser) =>
      let activate := activateCmd env sessionId sessionUser
      let xset := xsetCmd env sessionUser
      let unlocked := listed ++ [.exec (unlockCmd env sessionId sessionUser),
        .execDetached activate]
      match env.detach activate with
      | .error exception => ⟨unlocked, .error exception⟩
      | .ok () => ⟨unlocked ++ [.execDetached xset], (env.detach xset).map fun _ => cmdOk⟩

def execute (env : CommandEnv) (cmd : Bytes) : Answer :=
  if cmd = ascii "lock" then
    let listResult := env.exec listSessions
    let listed : List Action := [.exec listSessions]
    let found :=
      if listResult.success then findSeat ⟨[], [], [], []⟩ (lines listResult.output) else none
    match found with
    | none => ⟨listed, .ok cmdFail⟩
    | some vars =>
        if vars.id = [] then ⟨listed, .ok cmdFail⟩
        else
          execAnswer env listed
            ((if env.root then ascii "runuser -u " ++ vars.user ++ ascii " -- " else []) ++
              ascii "/usr/bin/loginctl lock-session " ++ vars.id)
  else if cmd = ascii "unlock" then unlockSession env
  else if cmd = ascii "wakeup" then
    ⟨[.exec (ascii "xset dpms force on 2>/dev/null || true")], .ok cmdOk⟩
  else ⟨[], .ok cmdUnknown⟩

end LockCommands

/-! ## System information -/

namespace SystemInfo

/-- The strings of the `data` object; a number among them is text already. -/
def texts (readings : SystemReadings) : List Bytes :=
  readings.cpuCoresUsage ++
    [if readings.brand = [] then ascii "Unknown" else readings.brand, readings.cpuFreqGhz,
      readings.cpuLoad, readings.cpuTemp,
      if readings.model = [] then ascii "Unknown" else readings.model, ascii "0 Mbps",
      readings.osVersion, readings.ramTotal, readings.ramUsage, readings.ramUsed,
      readings.storageTotal, readings.storageUsed, readings.storageUsage]

/-- `collect`, serialised; the keys are in the sorted order of the JSON object. -/
def dump (readings : SystemReadings) : Except Exception Bytes := do
  let brand ← Json.string (if readings.brand = [] then ascii "Unknown" else readings.brand)
  let cores ← readings.cpuCoresUsage.mapM Json.string
  let freq ← Json.string readings.cpuFreqGhz
  let load ← Json.string readings.cpuLoad
  let temp ← Json.string readings.cpuTemp
  let model ← Json.string (if readings.model = [] then ascii "Unknown" else readings.model)
  let netSpeed ← Json.string (ascii "0 Mbps")
  let osVersion ← Json.string readings.osVersion
  let ramTotal ← Json.string readings.ramTotal
  let ramUsage ← Json.string readings.ramUsage
  let ramUsed ← Json.string readings.ramUsed
  let storageTotal ← Json.string readings.storageTotal
  let storageUsed ← Json.string readings.storageUsed
  let storageUsage ← Json.string readings.storageUsage
  return Json.object
    [("battery", decimalInt readings.battery), ("brand", brand),
      ("cpu_core_count", decimal readings.cpuCoreCount), ("cpu_cores_usage", Json.array cores),
      ("cpu_freq_ghz", freq), ("cpu_load", load), ("cpu_temp", temp), ("model", model),
      ("net_speed", netSpeed), ("os_version", osVersion), ("ramTotal", ramTotal),
      ("ramUsage", ramUsage), ("ramUsed", ramUsed), ("storageTotal", storageTotal),
      ("storageUsed", storageUsed), ("storage_usage", storageUsage)]

end SystemInfo

/-! ## The dispatcher -/

namespace CommandDispatcher

def handleSystemInfo (env : CommandEnv) : Answer where
  actions := []
  reply := do
    let data ← SystemInfo.dump env.readings
    let type ← Json.string (ascii "system_info")
    return Json.object [("data", data), ("type", type)] ++ ascii "\n"

/-- The reply that names the mirror endpoint. -/
def mirrorReply (env : CommandEnv) (type : Bytes) : Except Exception Bytes := do
  let ip ← Json.string env.localIp
  let typeText ← Json.string type
  return Json.object [("ip", ip), ("port", decimal Config.mirrorPort), ("type", typeText)] ++
    ascii "\n"

def handleMirrorCommand (env : CommandEnv) (cmd : Bytes) : Answer :=
  if cmd = ascii "START_MIRROR" then
    if env.hasMirror = true ∧ env.mirrorRunning = true then
      ⟨[], mirrorReply env (ascii "MIRROR_READY")⟩
    else
      match env.mirrorStart with
      | .error exception => ⟨[.startMirror], .error exception⟩
      | .ok false => ⟨[.startMirror], mirrorReply env (ascii "MIRROR_ERROR")⟩
      | .ok true => ⟨[.startMirror], mirrorReply env (ascii "MIRROR_READY")⟩
  else if cmd = ascii "STOP_MIRROR" then
    ⟨if env.hasMirror then [.stopMirror] else [], .ok cmdOk⟩
  else ⟨[], .ok cmdFail⟩

def handleInputCommand (env : CommandEnv) (cmd : Bytes) : Answer :=
  if env.hasInput = false then ⟨[], .ok cmdFail⟩
  else if cmd.take 11 = ascii "MOUSE_MOVE:" then
    match cutAt (byte ':') (cmd.drop 11) with
    | none => ⟨[], .ok []⟩
    | some (left, right) =>
        match stoi left with
        | .error exception => ⟨[], .error exception⟩
        | .ok dx =>
            match stoi right with
            | .error exception => ⟨[], .error exception⟩
            | .ok dy => ⟨[.moveMouse dx dy], .ok []⟩
  else if cmd.take 13 = ascii "MOUSE_SCROLL:" then
    match stoi (cmd.drop 13) with
    | .error exception => ⟨[], .error exception⟩
    | .ok dy => ⟨[.scrollWheel dy], .ok []⟩
  else if cmd.take 12 = ascii "MOUSE_CLICK:" then ⟨[.clickMouse (cmd.drop 12)], .ok []⟩
  else if cmd.take 11 = ascii "MOUSE_DOWN:" then ⟨[.mouseDown (cmd.drop 11)], .ok []⟩
  else if cmd.take 9 = ascii "MOUSE_UP:" then ⟨[.mouseUp (cmd.drop 9)], .ok []⟩
  else if cmd.take 9 = ascii "KEY_TYPE:" then ⟨[.typeText (cmd.drop 9)], .ok []⟩
  else if cmd.take 10 = ascii "KEY_PRESS:" then ⟨[.pressKey (cmd.drop 10)], .ok []⟩
  else ⟨[], .ok cmdFail⟩

/-- One of the seven prefixes that `dispatch` hands to `handleInputCommand`. -/
def isInputCommand (cmd : Bytes) : Bool :=
  cmd.take 11 == ascii "MOUSE_MOVE:" || cmd.take 13 == ascii "MOUSE_SCROLL:" ||
    cmd.take 12 == ascii "MOUSE_CLICK:" || cmd.take 11 == ascii "MOUSE_DOWN:" ||
    cmd.take 9 == ascii "MOUSE_UP:" || cmd.take 9 == ascii "KEY_TYPE:" ||
    cmd.take 10 == ascii "KEY_PRESS:"

def dispatch (env : CommandEnv) (cmd : Bytes) : Answer :=
  if cmd = ascii "shutdown" ∨ cmd = ascii "reboot" ∨ cmd = ascii "sleep" then
    PowerCommands.execute env cmd
  else if cmd = ascii "volume_up" ∨ cmd = ascii "volume_down" ∨ cmd = ascii "mute" then
    VolumeCommands.execute env cmd
  else if cmd = ascii "lock" ∨ cmd = ascii "unlock" ∨ cmd = ascii "wakeup" then
    LockCommands.execute env cmd
  else if cmd = ascii "get_info" then handleSystemInfo env
  else if cmd = ascii "START_MIRROR" ∨ cmd = ascii "STOP_MIRROR" then handleMirrorCommand env cmd
  else if isInputCommand cmd = true then handleInputCommand env cmd
  else ⟨[], .ok cmdUnknown⟩

end CommandDispatcher
end TitanShare
