import TitanShare.Library.UsKeyboard

/-!
# Input devices that a program creates

A program declares what a device can report, creates the device, and writes events to it.  The
system relays declared events to the readers, and may leave out those that tell them nothing new.  A
reader of a pointing device takes the events packet by packet, and does not notice what was left
out.
-/

namespace InputDevice

open ByteText UsKeyboard

/-! ## Codes -/

def evRel : Nat := 2
def relX : Nat := 0
def relY : Nat := 1
def relWheel : Nat := 8
def btnLeft : Nat := 0x110
def btnRight : Nat := 0x111
def btnMiddle : Nat := 0x112

/-- `BUS_USB` -/
def busUsb : Nat := 3

/-- A name has one byte less than this. -/
def maxNameSize : Nat := 80

/-! ## Requests -/

/-- What a program asks of its device. -/
inductive Request
  | setEvBit (type : Nat)
  | setKeyBit (code : Nat)
  | setRelBit (code : Nat)
  | setUp (name : Bytes) (bus vendor product version : Nat)
  | create
  | emit (event : InputEvent)
  | destroy
  deriving DecidableEq

/-- The request gives a device its codes or its name. -/
def Request.isSetup : Request → Bool
  | setEvBit _ | setKeyBit _ | setRelBit _ | setUp _ _ _ _ _ => true
  | create | emit _ | destroy => false

def Request.emitted : Request → Option InputEvent
  | emit event => some event
  | _ => none

/-- Keys and axes are declared one by one, under their types; a report needs no declaration. -/
def Declared (setup : List Request) (event : InputEvent) : Prop :=
  event.type = evSyn ∨
    (event.type = evKey ∧ .setEvBit evKey ∈ setup ∧ .setKeyBit event.code ∈ setup) ∨
    (event.type = evRel ∧ .setEvBit evRel ∈ setup ∧ .setRelBit event.code ∈ setup)

/-- The requests set up a device with a name, create it, and write these events to it, each of them
declared. -/
def InOrder (requests : List Request) (events : List InputEvent) : Prop :=
  ∃ setup, requests = setup ++ .create :: events.map .emit ∧
    (∀ request ∈ setup, request.isSetup = true) ∧
    (∃ name bus vendor product version, name ≠ [] ∧
      .setUp name bus vendor product version ∈ setup) ∧
    ∀ event ∈ events, Declared setup event

/-- A device is used in order, and destroyed. -/
def LivesInOrder (requests : List Request) (events : List InputEvent) : Prop :=
  ∃ used, requests = used ++ [.destroy] ∧ InOrder used events

theorem filterMap_setup {setup : List Request} (sets : ∀ request ∈ setup, request.isSetup = true) :
    setup.filterMap Request.emitted = [] := by
  rw [List.filterMap_eq_nil_iff]
  intro request member
  have isSetup := sets request member
  cases request with
  | emit event => cases isSetup
  | _ => rfl

theorem InOrder.emitted {requests : List Request} {events : List InputEvent}
    (inOrder : InOrder requests events) : requests.filterMap Request.emitted = events := by
  obtain ⟨setup, rfl, sets, _⟩ := inOrder
  have written : (events.map Request.emit).filterMap Request.emitted = events := by
    rw [List.filterMap_map]
    exact List.filterMap_some
  rw [List.filterMap_append, filterMap_setup sets, List.nil_append, List.filterMap_cons_none rfl,
    written]

/-! ## The system between a program and the readers -/

/-- The keys that are down after an event. -/
def keysAfter (held : Nat → Bool) (event : InputEvent) : Nat → Bool :=
  if event.type = evKey then Function.update held event.code (decide (event.value ≠ 0)) else held

/-- The event tells nothing new: an axis moves by nothing, or a key stays as it is. -/
def Idle (held : Nat → Bool) (event : InputEvent) : Prop :=
  (event.type = evRel ∧ event.value = 0) ∨
    (event.type = evKey ∧ held event.code = decide (event.value ≠ 0))

instance (held : Nat → Bool) : DecidablePred (Idle held) :=
  fun _ => inferInstanceAs (Decidable (_ ∨ _))

/-- The readers get the events in order.  Idle ones may be left out, and so may the report of a
packet from which nothing is left. -/
inductive Relays : (Nat → Bool) → Bool → List InputEvent → List InputEvent → Prop
  | done {held : Nat → Bool} {blank : Bool} : Relays held blank [] []
  | pass {held : Nat → Bool} {blank : Bool} {event : InputEvent} {written read : List InputEvent}
      (later : Relays (keysAfter held event) (decide (event = report)) written read) :
      Relays held blank (event :: written) (event :: read)
  | idle {held : Nat → Bool} {blank : Bool} {event : InputEvent} {written read : List InputEvent}
      (isIdle : Idle held event) (later : Relays held blank written read) :
      Relays held blank (event :: written) read
  | blank {held : Nat → Bool} {written read : List InputEvent}
      (later : Relays held true written read) :
      Relays held true (report :: written) read

/-- What the readers get of the requests to a device so far: all that is asked of the system is that
it relays what is written to a device that is used in order. -/
def RelaysDevices (deliver : List Request → List InputEvent) : Prop :=
  ∀ requests events, InOrder requests events →
    Relays (fun _ => false) true events (deliver requests)

/-- A system that leaves out all it may. -/
def sieve (held : Nat → Bool) (blank : Bool) : List InputEvent → List InputEvent
  | [] => []
  | event :: later =>
      if Idle held event then sieve held blank later
      else if event = report ∧ blank = true then sieve held blank later
      else event :: sieve (keysAfter held event) (decide (event = report)) later

theorem relays_sieve (held : Nat → Bool) (blank : Bool) (events : List InputEvent) :
    Relays held blank events (sieve held blank events) := by
  induction events generalizing held blank with
  | nil => exact .done
  | cons event later ih =>
      unfold sieve
      split
      · rename_i isIdle
        exact .idle isIdle (ih held blank)
      · split
        · rename_i nothing
          obtain ⟨rfl, rfl⟩ := nothing
          exact .blank (ih held true)
        · exact .pass (ih _ _)

theorem relaysDevices_sieve :
    RelaysDevices fun requests =>
      sieve (fun _ => false) true (requests.filterMap Request.emitted) := by
  intro requests events inOrder
  simp only [inOrder.emitted]
  exact relays_sieve _ _ _

/-! ## Pointers -/

structure Pointer where
  x : Int
  y : Int
  wheel : Int
  held : Nat → Bool

namespace Pointer

def move (pointer : Pointer) (dx dy : Int) : Pointer :=
  { pointer with x := pointer.x + dx, y := pointer.y + dy }

def scroll (pointer : Pointer) (dy : Int) : Pointer :=
  { pointer with wheel := pointer.wheel + dy }

def press (pointer : Pointer) (button : Nat) : Pointer :=
  { pointer with held := Function.update pointer.held button true }

def release (pointer : Pointer) (button : Nat) : Pointer :=
  { pointer with held := Function.update pointer.held button false }

/-- What one event of a packet means. -/
def apply (pointer : Pointer) (event : InputEvent) : Pointer :=
  if event.type = evRel then
    if event.code = relX then pointer.move event.value 0
    else if event.code = relY then pointer.move 0 event.value
    else if event.code = relWheel then pointer.scroll event.value
    else pointer
  else if event.type = evKey then
    if event.value = 0 then pointer.release event.code else pointer.press event.code
  else pointer

theorem apply_held (pointer : Pointer) (event : InputEvent) :
    (pointer.apply event).held = keysAfter pointer.held event := by
  by_cases isRel : event.type = evRel
  · have other : event.type ≠ evKey := by rw [isRel]; decide
    rw [apply, if_pos isRel, keysAfter, if_neg other]
    split
    · rfl
    · split
      · rfl
      · split <;> rfl
  · rw [apply, if_neg isRel, keysAfter]
    split
    · split
      · rename_i released
        simp [release, released]
      · rename_i pressed
        simp [press, pressed]
    · rfl

/-- An idle event leaves the pointer as it is. -/
theorem apply_idle {pointer : Pointer} {event : InputEvent} (idle : Idle pointer.held event) :
    pointer.apply event = pointer := by
  rcases idle with ⟨isRel, still⟩ | ⟨isKey, same⟩
  · rw [apply, if_pos isRel, still]
    simp [move, scroll]
  · have other : event.type ≠ evRel := by rw [isKey]; decide
    rw [apply, if_neg other, if_pos isKey]
    split
    · rename_i released
      have up : pointer.held event.code = false := by simpa [released] using same
      simp [release, ← up]
    · rename_i pressed
      have down : pointer.held event.code = true := by simpa [pressed] using same
      simp [press, ← down]

end Pointer

/-- What a reader knows from whole packets, and the beginning of the next one. -/
structure Watch where
  pointer : Pointer
  pending : List InputEvent

namespace Watch

def watch (reader : Watch) (event : InputEvent) : Watch :=
  if event = report then ⟨reader.pending.foldl Pointer.apply reader.pointer, []⟩
  else { reader with pending := reader.pending ++ [event] }

def watchAll (reader : Watch) (events : List InputEvent) : Watch :=
  events.foldl watch reader

@[simp]
theorem watchAll_append (reader : Watch) (left right : List InputEvent) :
    reader.watchAll (left ++ right) = (reader.watchAll left).watchAll right :=
  List.foldl_append

/-- A packet takes effect as a whole, at its report. -/
theorem watchAll_packet (reader : Watch) {events : List InputEvent} (inner : report ∉ events) :
    reader.watchAll (events ++ [report]) =
      ⟨(reader.pending ++ events).foldl Pointer.apply reader.pointer, []⟩ := by
  induction events generalizing reader with
  | nil => simp [watchAll, watch]
  | cons event later ih =>
      obtain ⟨other, inner⟩ := not_or.mp (mt List.mem_cons.mpr inner)
      have first : reader.watch event = { reader with pending := reader.pending ++ [event] } :=
        if_neg (Ne.symm other)
      change (reader.watch event).watchAll (later ++ [report]) = _
      rw [ih _ inner, first, List.append_assoc]
      rfl

/-- What the reader will know when the packet is complete. -/
def ahead (reader : Watch) : Pointer :=
  reader.pending.foldl Pointer.apply reader.pointer

theorem ahead_watch (reader : Watch) {event : InputEvent} (inner : event ≠ report) :
    (reader.watch event).ahead = reader.ahead.apply event := by
  rw [watch, if_neg inner, ahead, List.foldl_append]
  rfl

theorem watch_report (reader : Watch) : reader.watch report = ⟨reader.ahead, []⟩ :=
  if_pos rfl

/-- A reader who missed idle events knows as much as one who did not. -/
structure Agrees (reader full : Watch) : Prop where
  pointer : reader.pointer = full.pointer
  ahead : reader.ahead = full.ahead
  pending : full.pending = [] → reader.pending = []

theorem Agrees.watch {reader full : Watch} (agrees : reader.Agrees full) (event : InputEvent) :
    (reader.watch event).Agrees (full.watch event) := by
  by_cases isReport : event = report
  · rw [isReport, watch_report, watch_report, agrees.ahead]
    exact ⟨rfl, rfl, fun _ => rfl⟩
  · refine ⟨?_, ?_, ?_⟩
    · simpa [Watch.watch, isReport] using agrees.pointer
    · rw [ahead_watch _ isReport, ahead_watch _ isReport, agrees.ahead]
    · intro impossible
      simp [Watch.watch, isReport] at impossible

/-- What the system leaves out makes no difference to a reader. -/
theorem agrees_of_relays {held : Nat → Bool} {blank : Bool} {written read : List InputEvent}
    (relays : Relays held blank written read) {reader full : Watch} (agrees : reader.Agrees full)
    (keys : reader.ahead.held = held) (fresh : blank = true → reader.pending = []) :
    (reader.watchAll read).Agrees (full.watchAll written) := by
  induction relays generalizing reader full with
  | done => exact agrees
  | @pass held blank event written read later ih =>
      refine ih (agrees.watch event) ?_ ?_
      · by_cases isReport : event = report
        · rw [isReport, watch_report]
          exact keys
        · rw [ahead_watch _ isReport, Pointer.apply_held, keys]
      · intro isReport
        rw [of_decide_eq_true isReport, watch_report]
  | @idle held blank event written read isIdle later ih =>
      have inner : event ≠ report := by
        rintro rfl
        rcases isIdle with ⟨isRel, _⟩ | ⟨isKey, _⟩
        · exact absurd isRel (by decide)
        · exact absurd isKey (by decide)
      refine ih ⟨?_, ?_, ?_⟩ keys fresh
      · rw [agrees.pointer, Watch.watch, if_neg inner]
      · rw [ahead_watch _ inner, ← agrees.ahead, Pointer.apply_idle (by rw [keys]; exact isIdle)]
      · intro impossible
        simp [Watch.watch, inner] at impossible
  | @blank held written read later ih =>
      have nothing := fresh rfl
      have here : reader.ahead = reader.pointer := by rw [Watch.ahead, nothing]; rfl
      refine ih ?_ keys fresh
      rw [watch_report, ← agrees.ahead]
      exact ⟨here.symm, rfl, fun _ => nothing⟩

end Watch
end InputDevice
