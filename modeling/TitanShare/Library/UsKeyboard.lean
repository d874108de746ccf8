import Mathlib.Logic.Function.Basic
import TitanShare.Library.ByteText

/-!
# A keyboard with the US layout

The key codes of the Linux input layer, and what a reader of key events understands from them: which
keys are held, whether caps lock is on, and the text that was typed.
-/

namespace UsKeyboard

open ByteText

/-! ## Key codes -/

def keyEsc : Nat := 1
def key1 : Nat := 2
def key2 : Nat := 3
def key3 : Nat := 4
def key4 : Nat := 5
def key5 : Nat := 6
def key6 : Nat := 7
def key7 : Nat := 8
def key8 : Nat := 9
def key9 : Nat := 10
def key0 : Nat := 11
def keyMinus : Nat := 12
def keyEqual : Nat := 13
def keyBackspace : Nat := 14
def keyTab : Nat := 15
def keyQ : Nat := 16
def keyW : Nat := 17
def keyE : Nat := 18
def keyR : Nat := 19
def keyT : Nat := 20
def keyY : Nat := 21
def keyU : Nat := 22
def keyI : Nat := 23
def keyO : Nat := 24
def keyP : Nat := 25
def keyLeftBrace : Nat := 26
def keyRightBrace : Nat := 27
def keyEnter : Nat := 28
def keyA : Nat := 30
def keyS : Nat := 31
def keyD : Nat := 32
def keyF : Nat := 33
def keyG : Nat := 34
def keyH : Nat := 35
def keyJ : Nat := 36
def keyK : Nat := 37
def keyL : Nat := 38
def keySemicolon : Nat := 39
def keyApostrophe : Nat := 40
def keyGrave : Nat := 41
def keyLeftShift : Nat := 42
def keyBackslash : Nat := 43
def keyZ : Nat := 44
def keyX : Nat := 45
def keyC : Nat := 46
def keyV : Nat := 47
def keyB : Nat := 48
def keyN : Nat := 49
def keyM : Nat := 50
def keyComma : Nat := 51
def keyDot : Nat := 52
def keySlash : Nat := 53
def keyRightShift : Nat := 54
def keyLeftAlt : Nat := 56
def keySpace : Nat := 57
def keyCapsLock : Nat := 58
def keyHome : Nat := 102
def keyUp : Nat := 103
def keyLeft : Nat := 105
def keyRight : Nat := 106
def keyEnd : Nat := 107
def keyDown : Nat := 108
def keyDelete : Nat := 111
def keyPrint : Nat := 210

/-! ## Events -/

def evSyn : Nat := 0
def evKey : Nat := 1
def synReport : Nat := 0

/-- An `input_event` without its time. -/
structure InputEvent where
  type : Nat
  code : Nat
  value : Int
  deriving DecidableEq

/-- The end of a packet of events. -/
def report : InputEvent := ⟨evSyn, synReport, 0⟩

/-- Every key event is followed by a report at once. -/
def Reported : List InputEvent → Prop
  | [] => True
  | event :: rest => (event.type = evKey → rest.head? = some report) ∧ Reported rest

theorem Reported.append {left right : List InputEvent} (first : Reported left)
    (second : Reported right) : Reported (left ++ right) := by
  induction left with
  | nil => exact second
  | cons event rest ih =>
      obtain ⟨follows, later⟩ := first
      refine ⟨fun isKey => ?_, ih later⟩
      have next := follows isKey
      cases rest with
      | nil => cases next
      | cons following others => exact next

/-- A press or a release of a key, reported. -/
def emitKey (code : Nat) (value : Int) : List InputEvent :=
  [⟨evKey, code, value⟩, report]

theorem reported_emitKey (code : Nat) (value : Int) : Reported (emitKey code value) :=
  ⟨fun _ => rfl, fun impossible => absurd impossible (by decide), trivial⟩

/-- A press and a release of one key. -/
def tap (code : Nat) : List InputEvent :=
  emitKey code 1 ++ emitKey code 0

theorem reported_tap (code : Nat) : Reported (tap code) :=
  (reported_emitKey code 1).append (reported_emitKey code 0)

/-! ## The layout -/

/-- A run of adjacent key codes with their characters, without and with shift. -/
structure Row where
  first : Nat
  plain : Bytes
  shifted : Bytes

def rows : List Row :=
  [⟨2, ascii "1234567890-=", ascii "!@#$%^&*()_+"⟩,
    ⟨15, ascii "\tqwertyuiop[]\n", ascii "\tQWERTYUIOP\x7b\x7d\n"⟩,
    ⟨30, ascii "asdfghjkl;'`", ascii "ASDFGHJKL:\"~"⟩,
    ⟨43, ascii "\\zxcvbnm,./", ascii "|ZXCVBNM<>?"⟩,
    ⟨57, ascii " ", ascii " "⟩]

/-- The characters of a key, without and with shift. -/
def layout (code : Nat) : Option (UInt8 × UInt8) :=
  rows.findSome? fun row =>
    if row.first ≤ code then (row.plain.zip row.shifted)[code - row.first]? else none

/-! ## The keyboard -/

structure Keyboard where
  held : Nat → Bool
  capsLock : Bool

/-- No key is held and caps lock is off. -/
def idle : Keyboard := ⟨fun _ => false, false⟩

namespace Keyboard

def shift (keyboard : Keyboard) : Bool :=
  keyboard.held keyLeftShift || keyboard.held keyRightShift

/-- What a key types; caps lock reverses shift for letters. -/
def types (keyboard : Keyboard) (code : Nat) : Bytes :=
  match layout code with
  | none => []
  | some (plain, shifted) =>
      let isLetter := decide (97 ≤ plain) && decide (plain ≤ 122)
      [if xor keyboard.shift (keyboard.capsLock && isLetter) then shifted else plain]

/-- What an event does to the keyboard, and what it types.  A press of a held key is dropped. -/
def feed (keyboard : Keyboard) (event : InputEvent) : Keyboard × Bytes :=
  if event.type ≠ evKey then (keyboard, [])
  else if event.value = 0 then
    ({ keyboard with held := Function.update keyboard.held event.code false }, [])
  else if event.value = 1 then
    if keyboard.held event.code = true then (keyboard, [])
    else
      ({ held := Function.update keyboard.held event.code true
         capsLock := xor keyboard.capsLock (decide (event.code = keyCapsLock)) },
        keyboard.types event.code)
  -- a repetition types once more
  else (keyboard, if keyboard.held event.code = true then keyboard.types event.code else [])

/-- What a run of events leaves behind and what it types. -/
def feedAll (keyboard : Keyboard) : List InputEvent → Keyboard × Bytes
  | [] => (keyboard, [])
  | event :: rest =>
      let fed := keyboard.feed event
      let final := fed.1.feedAll rest
      (final.1, fed.2 ++ final.2)

theorem feedAll_append (keyboard : Keyboard) (left right : List InputEvent) :
    keyboard.feedAll (left ++ right) =
      (((keyboard.feedAll left).1.feedAll right).1,
        (keyboard.feedAll left).2 ++ ((keyboard.feedAll left).1.feedAll right).2) := by
  induction left generalizing keyboard with
  | nil => rfl
  | cons event rest ih => simp only [List.cons_append, feedAll, ih, List.append_assoc]

theorem feedAll_emitKey (keyboard : Keyboard) (code : Nat) (value : Int) :
    keyboard.feedAll (emitKey code value) = keyboard.feed ⟨evKey, code, value⟩ := by
  have reports : ∀ other : Keyboard, other.feed report = (other, []) := fun _ => rfl
  simp [emitKey, feedAll, reports]

theorem feed_release (keyboard : Keyboard) (code : Nat) :
    keyboard.feed ⟨evKey, code, 0⟩ =
      ({ keyboard with held := Function.update keyboard.held code false }, []) := rfl

/-- A press of a key that is not held. -/
theorem feed_press {keyboard : Keyboard} {code : Nat} (free : keyboard.held code = false) :
    keyboard.feed ⟨evKey, code, 1⟩ =
      ({ held := Function.update keyboard.held code true
         capsLock := xor keyboard.capsLock (decide (code = keyCapsLock)) },
        keyboard.types code) := by
  have choice : keyboard.feed ⟨evKey, code, 1⟩ =
      if keyboard.held code = true then (keyboard, [])
      else
        ({ held := Function.update keyboard.held code true
           capsLock := xor keyboard.capsLock (decide (code = keyCapsLock)) },
          keyboard.types code) := rfl
  rw [choice, if_neg (by simp [free])]

/-- A tapped key types once and is not held afterwards. -/
theorem feedAll_tap {keyboard : Keyboard} {code : Nat} (free : keyboard.held code = false) :
    keyboard.feedAll (tap code) =
      ({ keyboard with capsLock := xor keyboard.capsLock (decide (code = keyCapsLock)) },
        keyboard.types code) := by
  have back : Function.update (Function.update keyboard.held code true) code false =
      keyboard.held := by
    rw [Function.update_idem, ← free, Function.update_eq_self]
  simp only [tap, feedAll_append, feedAll_emitKey, feed_press free, feed_release, back,
    List.append_nil]

/-! ## Shift -/

/-- The keyboard with left shift down. -/
def shifted (keyboard : Keyboard) : Keyboard :=
  { keyboard with held := Function.update keyboard.held keyLeftShift true }

theorem feed_shift {keyboard : Keyboard} (free : keyboard.held keyLeftShift = false) :
    keyboard.feed ⟨evKey, keyLeftShift, 1⟩ = (keyboard.shifted, []) := by
  have silent : keyboard.types keyLeftShift = [] := rfl
  have locks : decide (keyLeftShift = keyCapsLock) = false := by decide
  rw [feed_press free, silent, locks, Bool.xor_false]
  rfl

/-- A key tapped between a press and a release of shift. -/
theorem feedAll_shifted {keyboard : Keyboard} {code : Nat} (free : keyboard.held code = false)
    (shiftFree : keyboard.held keyLeftShift = false) (other : code ≠ keyLeftShift) :
    keyboard.feedAll (emitKey keyLeftShift 1 ++ tap code ++ emitKey keyLeftShift 0) =
      ({ keyboard with capsLock := xor keyboard.capsLock (decide (code = keyCapsLock)) },
        keyboard.shifted.types code) := by
  have stillFree : keyboard.shifted.held code = false := by
    simp only [shifted, Function.update_of_ne other, free]
  have back : Function.update (Function.update keyboard.held keyLeftShift true) keyLeftShift false =
      keyboard.held := by
    rw [Function.update_idem, ← shiftFree, Function.update_eq_self]
  simp only [feedAll_append, feedAll_emitKey, feed_shift shiftFree, feedAll_tap stillFree,
    feed_release, List.append_nil, List.nil_append]
  simp only [shifted, back]

end Keyboard
end UsKeyboard
