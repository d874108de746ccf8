import TitanShare.Commands
import TitanShare.Library.PathText

/-!
# What a shell command prints

`Process::exec` reads the pipe of a command in pieces of at most 255 bytes, none beyond a newline,
and appends each as a C string.  So a zero byte takes the rest of its piece with it; everything else
arrives as it was printed, wherever the pieces are cut.
-/

namespace TitanShare

open ByteText PathText

/-! ## Reading -/

/-- `fgets` with room for some bytes: a piece, and what is left of the stream. -/
def fgets : Nat → Bytes → Bytes × Bytes
  | 0, stream => ([], stream)
  | _ + 1, [] => ([], [])
  | room + 1, head :: stream =>
      if head = 10 then ([10], stream)
      else (head :: (fgets room stream).1, (fgets room stream).2)

theorem fgets_append (room : Nat) (stream : Bytes) :
    (fgets room stream).1 ++ (fgets room stream).2 = stream := by
  induction room generalizing stream with
  | zero => rfl
  | succ room ih =>
      cases stream with
      | nil => rfl
      | cons head stream =>
          rw [fgets]
          split
          case isTrue newline => simp [newline]
          case isFalse => simpa using ih stream

theorem length_fgets (room : Nat) (head : UInt8) (stream : Bytes) :
    (fgets (room + 1) (head :: stream)).2.length < (head :: stream).length := by
  have parts := congrArg List.length (fgets_append (room + 1) (head :: stream))
  have something : 0 < (fgets (room + 1) (head :: stream)).1.length := by
    rw [fgets]
    split <;> simp
  rw [List.length_append] at parts
  omega

/-- The loop of `Process::exec`. -/
def readOutput : Bytes → Bytes
  | [] => []
  | head :: stream =>
      cString (fgets 255 (head :: stream)).1 ++ readOutput (fgets 255 (head :: stream)).2
termination_by stream => stream.length
decreasing_by exact length_fgets 254 head stream

/-- What a command leaves: what it prints, and what `pclose` returns. -/
structure Child where
  stream : Bytes
  status : BitVec 32

/-- `WIFEXITED` -/
def wIfExited (status : BitVec 32) : Bool :=
  status &&& 0x7f#32 = 0

/-- `WEXITSTATUS` -/
def wExitStatus (status : BitVec 32) : Nat :=
  ((status &&& 0xff00#32) >>> 8).toNat

/-- `Process::exec`; no child stands for a pipe that cannot be opened. -/
def processExec (popen : Bytes → Option Child) (command : Bytes) : ExecResult :=
  match popen command with
  | none => ⟨-1, []⟩
  | some child =>
      { output := readOutput child.stream
        exitCode := if wIfExited child.status then (wExitStatus child.status : Int) else -1 }

/-! ## The pieces -/

theorem readOutput_of_ne_nil {stream : Bytes} (something : stream ≠ []) :
    readOutput stream = cString (fgets 255 stream).1 ++ readOutput (fgets 255 stream).2 := by
  obtain ⟨head, tail, rfl⟩ := List.exists_cons_of_ne_nil something
  rw [readOutput]

theorem length_fgets_of_ne_nil {stream : Bytes} (something : stream ≠ []) :
    (fgets 255 stream).2.length < stream.length := by
  obtain ⟨head, tail, rfl⟩ := List.exists_cons_of_ne_nil something
  exact length_fgets 254 head tail

theorem cString_of_plain {text : Bytes} (plain : 0 ∉ text) : cString text = text := by
  have shape := cString_append plain []
  rwa [List.append_nil, show cString [] = [] from rfl, List.append_nil] at shape

theorem zero_not_mem_cString (text : Bytes) : 0 ∉ cString text := by
  intro member
  have nonzero := List.mem_takeWhile_imp member
  simp at nonzero

/-- What has no zero byte arrives whole. -/
theorem readOutput_of_plain {stream : Bytes} (plain : 0 ∉ stream) : readOutput stream = stream := by
  induction rest : stream.length using Nat.strongRecOn generalizing stream with
  | _ rest ih =>
      by_cases empty : stream = []
      · rw [empty, readOutput]
      · have parts := fgets_append 255 stream
        have shorter := length_fgets_of_ne_nil empty
        rw [← parts, List.mem_append, not_or] at plain
        rw [readOutput_of_ne_nil empty, cString_of_plain plain.1,
          ih _ (rest ▸ shorter) plain.2 rfl, parts]

/-- No zero byte arrives. -/
theorem zero_not_mem_readOutput (stream : Bytes) : 0 ∉ readOutput stream := by
  induction rest : stream.length using Nat.strongRecOn generalizing stream with
  | _ rest ih =>
      by_cases empty : stream = []
      · simp [empty, readOutput]
      · have shorter := length_fgets_of_ne_nil empty
        rw [readOutput_of_ne_nil empty, List.mem_append, not_or]
        exact ⟨zero_not_mem_cString _, ih _ (rest ▸ shorter) _ rfl⟩

/-- A piece does not reach beyond a newline. -/
theorem fgets_newline (room : Nat) (front back : Bytes) :
    fgets room (front ++ 10 :: back) =
        ((fgets room (front ++ [10])).1, (fgets room (front ++ [10])).2 ++ back) ∧
      ((fgets room (front ++ [10])).2 = [] ∨
        ∃ later, (fgets room (front ++ [10])).2 = later ++ [10]) := by
  induction room generalizing front with
  | zero => exact ⟨by simp [fgets], .inr ⟨front, rfl⟩⟩
  | succ room ih =>
      cases front with
      | nil => exact ⟨by simp [fgets], .inl (by simp [fgets])⟩
      | cons head front =>
          obtain ⟨pieces, ends⟩ := ih front
          rw [List.cons_append, List.cons_append, fgets, fgets]
          split
          case isTrue => exact ⟨by simp, .inr ⟨front, rfl⟩⟩
          case isFalse => exact ⟨by rw [pieces], ends⟩

/-- What stands before a newline and what stands behind it are read on their own. -/
theorem readOutput_append (front back : Bytes) :
    readOutput (front ++ 10 :: back) = readOutput (front ++ [10]) ++ readOutput back := by
  induction size : front.length using Nat.strongRecOn generalizing front with
  | _ size ih =>
      obtain ⟨pieces, ends⟩ := fgets_newline 255 front back
      have shorter := length_fgets_of_ne_nil (show front ++ [10] ≠ [] by simp)
      rw [readOutput_of_ne_nil (show front ++ 10 :: back ≠ [] by simp),
        readOutput_of_ne_nil (show front ++ [10] ≠ [] by simp), pieces, List.append_assoc]
      congr 1
      rcases ends with nothing | ⟨later, rest⟩
      · rw [nothing, List.nil_append, readOutput, List.nil_append]
      · rw [rest] at shorter ⊢
        rw [List.append_assoc, List.singleton_append]
        refine ih later.length ?_ later rfl
        simp only [List.length_append, List.length_singleton] at shorter
        omega

/-! ## The end of a command -/

/-- How a command can end. -/
inductive Ending
  | exited (code : Fin 256)
  /-- By a signal from 1 to 126, with a core dump or without. -/
  | killed (signal : Fin 126) (core : Bool)
  /-- `pclose` fails. -/
  | lost

namespace Ending

/-- The status word. -/
def status : Ending → BitVec 32
  | exited code => BitVec.ofNat 32 (code.val * 256)
  | killed signal core => BitVec.ofNat 32 (signal.val + 1 + if core then 128 else 0)
  | lost => BitVec.ofInt 32 (-1)

def exitCode : Ending → Int
  | exited code => code.val
  | _ => -1

theorem wIfExited_exited :
    ∀ code : Fin 256,
      wIfExited (exited code).status = true ∧ wExitStatus (exited code).status = code := by
  decide +kernel

theorem wIfExited_killed :
    ∀ (signal : Fin 126) (core : Bool), wIfExited (killed signal core).status = false := by
  decide +kernel

theorem exitCode_status (ending : Ending) :
    (if wIfExited ending.status then (wExitStatus ending.status : Int) else -1) =
      ending.exitCode := by
  cases ending with
  | exited code =>
      obtain ⟨exits, same⟩ := wIfExited_exited code
      rw [if_pos exits, same]
      rfl
  | killed signal core =>
      rw [if_neg (by simp [wIfExited_killed signal core])]
      rfl
  | lost => rfl

end Ending

/-! ## What arrives -/

/-- The output of a command is what it has printed exactly if it has printed no zero byte.  In any
case a line without one arrives whole, with its newline, before what arrives of the lines behind it
and, unless it is the first, behind what arrives of those before it; and the exit code is that of a
command that has exited, and -1 otherwise. -/
theorem exec_returns {popen : Bytes → Option Child} {command : Bytes} {child : Child}
    (opened : popen command = some child) :
    ((processExec popen command).output = child.stream ↔ 0 ∉ child.stream) ∧
      (∀ line after, child.stream = line ++ 10 :: after → 0 ∉ line →
        (processExec popen command).output = line ++ 10 :: readOutput after) ∧
      (∀ before line after, child.stream = before ++ 10 :: (line ++ 10 :: after) → 0 ∉ line →
        (processExec popen command).output =
          readOutput (before ++ [10]) ++ (line ++ 10 :: readOutput after)) ∧
      ∀ ending : Ending, child.status = ending.status →
        (processExec popen command).exitCode = ending.exitCode := by
  have result : processExec popen command =
      ⟨if wIfExited child.status then (wExitStatus child.status : Int) else -1,
        readOutput child.stream⟩ := by
    simp [processExec, opened]
  have first (line after : Bytes) (plain : 0 ∉ line) :
      readOutput (line ++ 10 :: after) = line ++ 10 :: readOutput after := by
    have whole : readOutput (line ++ [10]) = line ++ [10] := by
      refine readOutput_of_plain ?_
      simp [plain]
    rw [readOutput_append, whole, List.append_assoc]
    rfl
  rw [result]
  refine ⟨⟨fun same => ?_, readOutput_of_plain⟩, fun line after split plain => ?_,
    fun before line after split plain => ?_, fun ending same => ?_⟩
  · rw [← show readOutput child.stream = child.stream from same]
    exact zero_not_mem_readOutput _
  · change readOutput child.stream = _
    rw [split, first line after plain]
  · change readOutput child.stream = _
    rw [split, readOutput_append, first line after plain]
  · rw [same]
    exact ending.exitCode_status

/-- A zero byte in the first line takes its newline along. -/
theorem exec_returns_cut :
    (processExec (fun _ => some ⟨[97, 0, 98, 10, 99, 10], Ending.status (.exited 3)⟩) []).output ≠
        [97, 0, 98, 10, 99, 10] ∧
      (processExec (fun _ => some ⟨[97, 0, 98, 10, 99, 10], Ending.status (.exited 3)⟩)
        []).exitCode =
        3 := by
  have returns := @exec_returns
    (fun _ => some ⟨[97, 0, 98, 10, 99, 10], Ending.status (.exited 3)⟩) [] _ rfl
  refine ⟨fun same => ?_, returns.2.2.2 (.exited 3) rfl⟩
  exact absurd (returns.1.mp same) (by decide)

end TitanShare
