import TitanShare.Library.PathText
import TitanShare.PushFraming

/-!
# Where files are opened

Uploads replace the separators of a name, pushes cut a name behind its last separator, and neither
looks at dots, empty names or NUL bytes.  The paths that are opened lie directly in their folder all
the same, because a folder can neither be opened for writing nor is it a regular file.
-/

namespace TitanShare

open ByteText PathText

/-- The answers of the operating system about paths. -/
structure Kernel where
  opensForWriting : Bytes → Bool
  isRegularFile : Bytes → Except Exception Bool

/-- A folder is not opened for writing, and is not a regular file. -/
structure Kernel.Lawful (kernel : Kernel) : Prop where
  writable : ∀ path, LeadsToFolder path → kernel.opensForWriting path = false
  regular : ∀ path, LeadsToFolder path → kernel.isRegularFile path ≠ .ok true

/-- The name a `FILE_START:` line stores its upload under. -/
def uploadName (line : Bytes) : Bytes :=
  match rfind (byte ':') line with
  | none => []
  | some lastColon =>
      replace (byte '\\') (byte '_')
        (replace (byte '/') (byte '_') ((line.drop 11).take (lastColon - 11)))

/-- The path `pushFile` asks about and opens, as the system reads it. -/
def pushPath (world : World) (filename : Bytes) : Bytes :=
  cString (world.sendDir ++ ascii "/" ++ baseName filename)

/-- The surroundings of a request line, with the answers of the system for the paths it asks
about. -/
def HeaderFrame.asking (frame : HeaderFrame) (kernel : Kernel) (world : World) (line : Bytes) :
    HeaderFrame :=
  { frame with
    opens := kernel.opensForWriting (uploadPath world (uploadName line))
    push :=
      { frame.push with
        regular := kernel.isRegularFile (pushPath world ((commandOf line).drop 10)) } }

/-- A file that is opened lies directly in the folder of its direction. -/
def Event.Confined (receivedDir sendDir : Bytes) : Event → Prop
  | openUpload _ _ path _ _ => Inside receivedDir path
  | openPush path _ _ _ => Inside sendDir (cString path)
  | _ => True

theorem uploadName_noSlash (line : Bytes) : byte '/' ∉ uploadName line := by
  unfold uploadName
  split
  · simp
  · exact not_mem_replace_of_not_mem (by decide) (not_mem_replace (by decide) _)

theorem baseName_noSlash (filename : Bytes) : byte '/' ∉ baseName filename := by
  intro member
  have ordinary := List.mem_rtakeWhile_imp member
  simp at ordinary

/-! ## The handlers -/

section Handlers

variable (receivedDir sendDir : Bytes)

/-- Everything opened in between lies in its folder. -/
def Context.Confines (before after : Context) : Prop :=
  Trace.Extends (Event.Confined receivedDir sendDir) before.trace after.trace

variable {receivedDir sendDir : Bytes}

theorem confines_emit (context : Context) {events : List Event}
    (confined : ∀ event ∈ events, event.Confined receivedDir sendDir) :
    Context.Confines receivedDir sendDir context (context.emit events) :=
  Trace.extends_append confined

theorem confines_sendResponse (context : Context) (sends : List SendResult) (reply : Reply) :
    Context.Confines receivedDir sendDir context (context.sendResponse sends reply) :=
  confines_emit context (by simp [Event.Confined])

theorem pushFileList_confines (frame : HeaderFrame) (context : Context) :
    Context.Confines receivedDir sendDir context (pushFileList frame context).state := by
  have started : Context.Confines receivedDir sendDir context (context.emit [.pushFileList]) :=
    confines_emit context (by simp [Event.Confined])
  simp only [pushFileList]
  split
  · exact started
  · exact started.trans (confines_sendResponse _ _ _)

theorem runCommand_confines (frame : HeaderFrame) (cmd : Bytes) (context : Context) :
    Context.Confines receivedDir sendDir context (runCommand frame cmd context).state := by
  have acted : ∀ actions : List Action, Context.Confines receivedDir sendDir context
      (context.emit (.dispatch cmd :: actions.map Event.act)) := by
    intro actions
    refine confines_emit context ?_
    simp [Event.Confined]
  simp only [runCommand]
  split
  · exact acted _
  · split
    · exact acted _
    · exact (acted _).trans (confines_sendResponse _ _ _)

/-- A push opens a path that the system has called a regular file. -/
theorem pushFile_confines {frame : HeaderFrame} {filename : Bytes} {context : Context}
    (confined : frame.push.regular = .ok true →
      Inside sendDir (cString (context.world.sendDir ++ ascii "/" ++ baseName filename))) :
    Context.Confines receivedDir sendDir context (pushFile frame filename context).state := by
  have started : Context.Confines receivedDir sendDir context
      (context.emit [.pushFile filename]) :=
    confines_emit context (by simp [Event.Confined])
  cases pushFile_exit frame filename context with
  | threw exception missing same =>
      rw [same]
      exact started
  | refused reply refusal missing same =>
      rw [same]
      exact started.trans (confines_sendResponse _ _ _)
  | streamed size offers same =>
      rw [same]
      let path := context.world.sendDir ++ ascii "/" ++ baseName filename
      have opens : Context.Confines receivedDir sendDir (context.emit [.pushFile filename])
          ((context.emit [.pushFile filename]).emit
            [.openPush path size (frame.takes context.session.ssl (baseName filename) size)
              frame.push.chunks]) :=
        confines_emit _ (by simpa [Event.Confined, path] using confined offers.regular)
      have promises : Context.Confines receivedDir sendDir context
          (frame.promised filename size context) :=
        (started.trans opens).trans (confines_sendResponse _ _ _)
      obtain ⟨blocks, trace⟩ := streamFile_pushes frame.push.finish (baseName filename) size
        frame.push.chunks 0 true (frame.promised filename size context)
      refine promises.trans ⟨blocks.map Event.pushed, trace, ?_⟩
      simp [Event.Confined]

/-- An upload opens a path that the system has opened for writing. -/
theorem fileStart_confines {frame : HeaderFrame} {line : Bytes} {context : Context}
    (confined : frame.opens = true →
      Inside receivedDir (uploadPath context.world (uploadName line))) :
    Context.Confines receivedDir sendDir context (fileStart frame line context).state := by
  cases fileStart_exit frame line context with
  | refused fileName expectedBytes fileFd released refusal same =>
      rw [same]
      let failed : Context :=
        { context with session := { context.session with fileName, expectedBytes, fileFd } }
      exact confines_sendResponse failed frame.sends .cmdFail
  | threw fileName colon size allows missing same =>
      rw [same]
      exact .refl _
  | begun colon size allows created opens same =>
      have named := confined opens
      simp only [uploadName, allows.found] at named
      rw [same, Outcome.state_returned]
      refine ⟨_, Context.beginUpload_trace _ _, ?_⟩
      simpa [Event.Confined] using named

end Handlers

/-- Whatever a request line asks for, every file that it opens lies directly in the folder of its
direction. -/
theorem paths_confined (kernel : Kernel) (lawful : kernel.Lawful) (frame : HeaderFrame)
    (line : Bytes) (context : Context) (received : 0 ∉ context.world.receivedDir)
    (sends : 0 ∉ context.world.sendDir) :
    ∃ added,
      (handleHeader (frame.asking kernel context.world line) line context).state.trace =
        context.trace ++ added ∧
      ∀ event ∈ added, event.Confined context.world.receivedDir context.world.sendDir := by
  simp only [handleHeader]
  split
  · split
    · exact pushFileList_confines _ _
    · split
      · refine pushFile_confines ?_
        intro isRegular
        refine inside_of_name sends (baseName_noSlash _) ?_
        exact fun folder => lawful.regular _ folder isRegular
      · exact runCommand_confines _ _ _
  · split
    · refine fileStart_confines ?_
      intro isOpen
      refine inside_of_name received (uploadName_noSlash line) ?_
      intro folder
      have refused : (frame.asking kernel context.world line).opens = false :=
        lawful.writable _ folder
      rw [refused] at isOpen
      cases isOpen
    · exact confines_sendResponse _ _ _

/-- A system with every folder and every file that is asked for. -/
def Kernel.generous : Kernel where
  opensForWriting path := !decide (LeadsToFolder path)
  isRegularFile path := .ok (!decide (LeadsToFolder path))

theorem Kernel.generous_lawful : Kernel.generous.Lawful := by
  constructor
  · intro path folder
    simp [Kernel.generous, folder]
  · intro path folder
    simp [Kernel.generous, folder]

/-- A session that has received nothing yet, in folders with names. -/
def folders : Context :=
  ((Client.initial false [1]).receiver
    { (Startup.fresh []).world with receivedDir := ascii "/r", sendDir := ascii "/s" }).toContext

/-- The name of an upload with a slash, a NUL and two dots. -/
def oddName : Bytes :=
  ascii "FILE_START:../b" ++ [0] ++ ascii "/c:3"

theorem paths_confined_oddName :
    ∃ added,
      (handleHeader ((Env.quiet.header 0).asking .generous folders.world oddName) oddName
        folders).state.trace = folders.trace ++ added ∧
      .openUpload 0 0 (ascii "/r/.._b") 3 false ∈ added ∧
      ∀ event ∈ added, event.Confined (ascii "/r") (ascii "/s") := by
  obtain ⟨added, trace, confined⟩ := paths_confined .generous Kernel.generous_lawful
    (Env.quiet.header 0) oddName folders (by decide) (by decide)
  refine ⟨added, trace, ?_, confined⟩
  have opened : .openUpload 0 0 (ascii "/r/.._b") 3 false ∈ folders.trace ++ added := by
    rw [← trace]
    decide +kernel
  simpa [folders, Client.initial, Client.receiver] using opened

end TitanShare
