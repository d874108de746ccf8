import TitanShare.Config

/-!
# Where the daemon and the GUI meet

The daemon writes its status files to one folder that its privileges decide.  The GUI does not know
them: it looks into every folder that could have been meant and takes the newest file.
-/

namespace TitanShare

open ByteText

/-- What the paths of a user depend on: the environment of the login, and the privileges of the
daemon. -/
structure UserEnv where
  /-- `getuid() == 0` -/
  root : Bool
  home : Option Bytes
  xdgRuntimeDir : Option Bytes
  /-- `access("/run/titanshare", W_OK) == 0` -/
  runWritable : Bool

def getDataDir (env : UserEnv) : Bytes :=
  if env.root then ascii "/var/lib/titanshare"
  else
    match env.home with
    | some home => home ++ ascii "/.local/share/titanshare"
    | none => ascii "/tmp/titanshare"

/-- `SEND_TO_ANDROID_DIR` -/
def sendToAndroidDir (env : UserEnv) : Bytes :=
  getDataDir env ++ ascii "/send_to_android"

def getIpcDir (env : UserEnv) : Bytes :=
  if env.root || env.runWritable then ascii "/run/titanshare"
  else
    match env.xdgRuntimeDir with
    | some (first :: later) => first :: later ++ ascii "/titanshare"
    | _ => getDataDir env

/-- `qgetenv`: a variable that is not set is read as an empty one. -/
def qgetenv (value : Option Bytes) : Bytes :=
  value.getD []

/-- The destination folder of `handleDroppedFiles`. -/
def dropDir (env : UserEnv) : Bytes :=
  let home := qgetenv env.home
  if home ≠ [] then home ++ ascii "/.local/share/titanshare/send_to_android/"
  else ascii "/var/lib/titanshare/send_to_android/"

/-! ## The newest candidate -/

/-- A file as the GUI finds it. -/
structure IpcFile where
  content : Bytes
  /-- `lastModified`, in milliseconds since the epoch. -/
  mtime : Int
  /-- The GUI may open it. -/
  readable : Bool

/-- The candidates of `getIpcFilePath`. -/
def ipcCandidates (env : UserEnv) (filename : Bytes) : List Bytes :=
  let xdgRun := qgetenv env.xdgRuntimeDir
  let home := qgetenv env.home
  [ascii "/run/titanshare/" ++ filename] ++
    (if xdgRun ≠ [] then [xdgRun ++ ascii "/titanshare/" ++ filename] else []) ++
    (if home ≠ [] then [home ++ ascii "/.local/share/titanshare/" ++ filename] else []) ++
    [ascii "/tmp/titanshare/" ++ filename]

/-- A round of the loop over the candidates, with `best` and `bestMtime`. -/
def considered (files : Bytes → Option IpcFile) (best : Bytes × Int) (path : Bytes) : Bytes × Int :=
  match files path with
  | none => best
  | some file => if best.2 < file.mtime then (path, file.mtime) else best

def newestPath (files : Bytes → Option IpcFile) (paths : List Bytes) : Bytes :=
  (paths.foldl (considered files) ([], -1)).1

def getIpcFilePath (files : Bytes → Option IpcFile) (env : UserEnv) (filename : Bytes) : Bytes :=
  let best := newestPath files (ipcCandidates env filename)
  let xdgRun := qgetenv env.xdgRuntimeDir
  let home := qgetenv env.home
  if best ≠ [] then best
  else if xdgRun ≠ [] then xdgRun ++ ascii "/titanshare/" ++ filename
  else if home ≠ [] then home ++ ascii "/.local/share/titanshare/" ++ filename
  else ascii "/run/titanshare/" ++ filename

variable {files : Bytes → Option IpcFile} {path : Bytes} {file : IpcFile} {paths : List Bytes}

/-- The folder of the daemon is one that the GUI looks into. -/
def UserEnv.Meets (env : UserEnv) : Prop :=
  env.root = true ∨ env.runWritable = true ∨ qgetenv env.xdgRuntimeDir ≠ [] ∨ env.home ≠ some []

instance (env : UserEnv) : Decidable env.Meets :=
  inferInstanceAs (Decidable (_ ∨ _ ∨ _ ∨ _))

/-- The GUI drops files where the daemon looks for them, unless only one of the two takes the system
folder. -/
theorem dropDir_eq_iff (env : UserEnv) :
    dropDir env = sendToAndroidDir env ++ [byte '/'] ↔
      (env.root = true ↔ qgetenv env.home = []) := by
  have data : ascii "/.local/share/titanshare/send_to_android/" =
      ascii "/.local/share/titanshare" ++ ascii "/send_to_android" ++ [byte '/'] := by decide
  have longer : (ascii "/var/lib/titanshare/send_to_android/").length <
      (ascii "/.local/share/titanshare/send_to_android/").length := by decide
  rcases home : env.home with _ | _ | ⟨first, later⟩
  · simp only [dropDir, sendToAndroidDir, getDataDir, home, qgetenv]
    cases env.root <;> decide
  · simp only [dropDir, sendToAndroidDir, getDataDir, home, qgetenv]
    cases env.root <;> decide
  · have set : qgetenv (some (first :: later)) ≠ [] := List.cons_ne_nil first later
    unfold dropDir sendToAndroidDir getDataDir
    simp only [home, if_pos set, iff_false_right set]
    cases env.root with
    | true =>
        refine iff_of_false (fun same => ?_) (by simp)
        have lengths := congrArg List.length same
        have system : ascii "/var/lib/titanshare/send_to_android/" =
            ascii "/var/lib/titanshare" ++ ascii "/send_to_android" ++ [byte '/'] := by decide
        rw [if_pos rfl, ← system, List.length_append] at lengths
        omega
    | false =>
        refine iff_of_true ?_ (by simp)
        rw [data]
        simp [qgetenv]

end TitanShare
