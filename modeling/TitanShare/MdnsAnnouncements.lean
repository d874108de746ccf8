import TitanShare.MdnsStop

/-!
# What the advertiser announces

Every announcement names the machine or an alternative of Avahi, and the port.  Runs that differ in
their PINs differ in nothing else, so that nobody on the network can tell them apart.
-/

namespace TitanShare
namespace MdnsAdvertiser

open ByteText

/-! ## Runs without their PINs -/

def Advertiser.blank (advertiser : Advertiser) : Advertiser :=
  { advertiser with pin := [] }

def System.blank (system : System) : System :=
  { system with self := system.self.blank }

/-- A PIN that is handed to the advertiser is hidden. -/
def Act.blank : Act → Act
  | start _ port hostname systemName => .start [] port hostname systemName
  | updatePin _ => .updatePin []
  | act => act

namespace Advertiser

variable (advertiser : Advertiser)

theorem blank_use (object : Option Nat) :
    (advertiser.use object).blank = advertiser.blank.use object := by
  cases object <;> rfl

theorem blank_release (object : Option Nat) :
    (advertiser.release object).blank = advertiser.blank.release object := by
  cases object <;> rfl

theorem blank_addService (env : ServicesEnv) (group : Nat) :
    (advertiser.addService env group).blank = advertiser.blank.addService env group := by
  unfold addService
  split
  · split
    · rfl
    · rfl
  · rfl

theorem blank_createServices (env : ServicesEnv) (c : Option Nat) :
    (advertiser.createServices env c).blank = advertiser.blank.createServices env c := by
  obtain ⟨simplePoll, client, group, pin, port, hostname, running, dirty, ops, null, past⟩ :=
    advertiser
  obtain ⟨made, isEmpty, added⟩ := env
  cases group with
  | some group => exact blank_addService _ _ _
  | none =>
      cases made with
      | none =>
          cases c with
          | none => rfl
          | some c => rfl
      | some group =>
          refine (blank_addService _ _ _).trans ?_
          cases c with
          | none => rfl
          | some c => rfl

theorem blank_clientCallback (c : Option Nat) (env : ServicesEnv) (state : ClientState) :
    (advertiser.clientCallback c env state).blank =
      advertiser.blank.clientCallback c env state := by
  have resets : (if advertiser.group.isSome then advertiser.use advertiser.group
      else advertiser).blank =
        if advertiser.group.isSome then advertiser.blank.use advertiser.group
        else advertiser.blank := by
    rw [apply_ite blank, blank_use]
  cases state with
  | running => exact blank_createServices _ _ _
  | failure => exact (blank_use _ _).trans (congrArg (use · _) (blank_use _ _))
  | collision => exact resets
  | registering => exact resets
  | connecting => rfl

theorem blank_groupCallback (c : Option Nat) (alternative : Bytes) (env : ServicesEnv)
    (state : GroupState) :
    (advertiser.groupCallback c alternative env state).blank =
      advertiser.blank.groupCallback c alternative env state := by
  cases state with
  | uncommited => rfl
  | registering => rfl
  | established => rfl
  | collision =>
      refine (blank_createServices _ _ _).trans ?_
      rw [blank_use]
      rfl
  | failure =>
      simp only [groupCallback, blank_use]
      rfl

end Advertiser

/-- The thread does not look at the PIN. -/
theorem Worker.blank_step (advertiser : Advertiser) (answer : Answer) (worker : Worker) :
    (worker.step advertiser answer).map (Prod.map Advertiser.blank id) =
      worker.step advertiser.blank answer := by
  have used (object : Option Nat) := Advertiser.blank_use advertiser object
  cases worker with
  | newPoll =>
      cases answer with
      | object poll =>
          change Option.map _ (if advertiser.grants poll then _ else none) =
            if advertiser.grants poll then _ else none
          split
          · rfl
          · rfl
      | _ => rfl
  | newClient =>
      cases answer with
      | null => exact congrArg (fun self => some (self, Worker.freePoll)) (used _)
      | object client =>
          change Option.map _ (if advertiser.grants client then _ else none) =
            if advertiser.grants client then _ else none
          split
          · exact congrArg (fun self => some (self.acquire client, Worker.creating client)) (used _)
          · rfl
      | _ => rfl
  | looping =>
      change some (Prod.map _ id (if advertiser.running then _ else _)) =
        some (if advertiser.running then _ else _)
      split
      · exact congrArg (fun self => some (self, Worker.iterating)) (used _)
      · rfl
  | iterating => cases answer <;> rfl
  | checking =>
      change Option.map _ (if advertiser.pinDirty && advertiser.group.isSome then _ else _) =
        if advertiser.pinDirty && advertiser.group.isSome then _ else _
      split
      · cases answer with
        | services env =>
            let cleared : Advertiser := { advertiser with pinDirty := false }
            have readvertised :
                ((cleared.use cleared.group).createServices env cleared.client).blank =
                (cleared.blank.use cleared.group).createServices env cleared.client := by
              rw [Advertiser.blank_createServices, Advertiser.blank_use]
            exact congrArg (fun self => some (self, Worker.looping)) readvertised
        | _ => rfl
      · rfl
  | freeGroup =>
      change some (Prod.map _ id (if advertiser.group.isSome then _ else _, Worker.freeClient)) =
        some (if advertiser.group.isSome then _ else _, Worker.freeClient)
      split
      · have freed : ((advertiser.use advertiser.client).release advertiser.group).blank =
            (advertiser.blank.use advertiser.client).release advertiser.group := by
          rw [Advertiser.blank_release, Advertiser.blank_use]
        exact congrArg (fun self => some ({ self with group := none }, Worker.freeClient)) freed
      · rfl
  | freeClient =>
      change some (Prod.map _ id (if advertiser.client.isSome then _ else _, Worker.freePoll)) =
        some (if advertiser.client.isSome then _ else _, Worker.freePoll)
      split
      · have freed : ((advertiser.use advertiser.simplePoll).release advertiser.client).blank =
            (advertiser.blank.use advertiser.simplePoll).release advertiser.client := by
          rw [Advertiser.blank_release, Advertiser.blank_use]
        exact congrArg (fun self => some ({ self with client := none }, Worker.freePoll)) freed
      · rfl
  | freePoll =>
      exact congrArg (fun self => some (self, if advertiser.simplePoll.isSome then Worker.clearPoll
        else Worker.stopping)) (Advertiser.blank_release _ _)
  | _ => rfl

namespace System

/-- A step without its PIN is a step of the system without its PIN. -/
theorem blank_step (system : System) (act : Act) :
    (system.step act).map blank = system.blank.step act.blank := by
  cases act with
  | start pin port hostname systemName =>
      change Option.map _ (if system.worker = .unborn ∧ system.caller = .idle then _ else _) =
        if system.worker = .unborn ∧ system.caller = .idle then _ else _
      split
      · rfl
      · rfl
  | stop =>
      obtain ⟨advertiser, worker, caller, marking, lateQuit⟩ := system
      cases caller with
      | joining =>
          change Option.map _ (if worker = .unborn ∨ worker = .finished then _ else _) =
            if worker = .unborn ∨ worker = .finished then _ else _
          split
          · rfl
          · rfl
      | _ => rfl
  | updatePin newPin =>
      change Option.map _ (if system.marking = true then _ else _) =
        if system.marking = true then _ else _
      split
      · rfl
      · rfl
  | markDirty =>
      change Option.map _ (if system.marking = true then _ else _) =
        if system.marking = true then _ else _
      split
      · rfl
      · rfl
  | worker answer =>
      change Option.map _ (Option.map _ _) =
          Option.map _ (system.worker.step system.self.blank answer)
      rw [← Worker.blank_step, Option.map_map, Option.map_map]
      rfl
  | clientEvent state env =>
      change Option.map _ (if system.calling.isSome && system.self.admits env then _ else _) =
        if system.calling.isSome && system.self.admits env then _ else _
      split
      · exact congrArg (fun self => some { system with self := self })
          (Advertiser.blank_clientCallback _ _ _ _)
      · rfl
  | groupEvent state alternative env =>
      change Option.map _ (if system.worker = .iterating ∧ system.self.group.isSome = true ∧
          system.self.admits env = true then _ else _) =
        if system.worker = .iterating ∧ system.self.group.isSome = true ∧
          system.self.admits env = true then _ else _
      split
      · exact congrArg (fun self => some { system with self := self })
          (Advertiser.blank_groupCallback _ _ _ _ _)
      · rfl

end System

/-! ## Names and ports -/

/-- The names that an action gives to the advertiser. -/
def Act.names : Act → List Bytes
  | start _ _ hostname systemName => [if hostname = [] then cString systemName else hostname]
  | groupEvent .collision alternative _ => [cString alternative]
  | _ => []

def Act.ports : Act → List Nat
  | start _ port _ _ => [port]
  | _ => []

/-- The advertiser has one of these names and ports, and has announced no other ones. -/
structure Advertiser.Speaks (names : List Bytes) (ports : List Nat) (advertiser : Advertiser) :
    Prop where
  hostname : advertiser.hostname ∈ names
  port : advertiser.port ∈ ports
  announced : ∀ announcement ∈ advertiser.announced,
    ∃ name ∈ names, ∃ port ∈ ports, announcement = service name port

namespace Advertiser

variable {names : List Bytes} {ports : List Nat} {advertiser : Advertiser}

theorem Speaks.use (speaks : advertiser.Speaks names ports) (object : Option Nat) :
    (advertiser.use object).Speaks names ports := by
  cases object with
  | none => exact ⟨speaks.hostname, speaks.port, speaks.announced⟩
  | some object => exact ⟨speaks.hostname, speaks.port, speaks.announced⟩

theorem Speaks.release (speaks : advertiser.Speaks names ports) (object : Option Nat) :
    (advertiser.release object).Speaks names ports := by
  cases object with
  | none => exact speaks
  | some object => exact ⟨speaks.hostname, speaks.port, speaks.announced⟩

theorem Speaks.addService (speaks : advertiser.Speaks names ports) (env : ServicesEnv)
    (group : Nat) :
    (advertiser.addService env group).Speaks names ports := by
  have added : ∀ announcement ∈
      advertiser.announced ++ [service advertiser.hostname advertiser.port],
      ∃ name ∈ names, ∃ port ∈ ports, announcement = service name port := by
    intro announcement member
    rcases List.mem_append.mp member with old | new
    · exact speaks.announced announcement old
    · exact ⟨_, speaks.hostname, _, speaks.port, List.mem_singleton.mp new⟩
  unfold Advertiser.addService
  split
  · split
    · exact ⟨speaks.hostname, speaks.port, added⟩
    · exact ⟨speaks.hostname, speaks.port, added⟩
  · exact speaks.use _

theorem Speaks.createServices (speaks : advertiser.Speaks names ports) (env : ServicesEnv)
    (c : Option Nat) : (advertiser.createServices env c).Speaks names ports := by
  unfold Advertiser.createServices
  split
  · exact speaks.addService env _
  · have used := speaks.use c
    split
    · exact used.use c
    · refine Speaks.addService ?_ env _
      exact ⟨used.hostname, used.port, used.announced⟩

theorem Speaks.clientCallback (speaks : advertiser.Speaks names ports) (c : Option Nat)
    (env : ServicesEnv) (state : ClientState) :
    (advertiser.clientCallback c env state).Speaks names ports := by
  have resets : (if advertiser.group.isSome then advertiser.use advertiser.group
      else advertiser).Speaks names ports := by
    split
    · exact speaks.use _
    · exact speaks
  cases state with
  | running => exact speaks.createServices env c
  | failure => exact (speaks.use _).use _
  | collision => exact resets
  | registering => exact resets
  | connecting => exact speaks

theorem Speaks.groupCallback (speaks : advertiser.Speaks names ports) (c : Option Nat)
    {alternative : Bytes} (env : ServicesEnv) (state : GroupState)
    (given : state = .collision → cString alternative ∈ names) :
    (advertiser.groupCallback c alternative env state).Speaks names ports := by
  cases state with
  | uncommited => exact speaks
  | registering => exact speaks
  | established => exact speaks
  | collision =>
      have renamed : Speaks names ports { advertiser with hostname := cString alternative } :=
        ⟨given rfl, speaks.port, speaks.announced⟩
      exact (renamed.use _).createServices env c
  | failure => exact ((speaks.use _).use _).use _

end Advertiser

variable {names : List Bytes} {ports : List Nat}

theorem Worker.speaks_step {advertiser later : Advertiser} {worker next : Worker} {answer : Answer}
    (speaks : advertiser.Speaks names ports)
    (stepped : worker.step advertiser answer = some (later, next)) : later.Speaks names ports := by
  cases worker with
  | unborn => cases stepped
  | finished => cases stepped
  | newPoll =>
      dsimp only [Worker.step] at stepped
      split at stepped
      · cases stepped
        exact speaks
      · split at stepped
        · cases stepped
          exact ⟨speaks.hostname, speaks.port, speaks.announced⟩
        · cases stepped
      · cases stepped
  | newClient =>
      have used := speaks.use advertiser.simplePoll
      dsimp only [Worker.step] at stepped
      split at stepped
      · cases stepped
        exact used
      · split at stepped
        · cases stepped
          exact ⟨used.hostname, used.port, used.announced⟩
        · cases stepped
      · cases stepped
  | looping =>
      dsimp only [Worker.step] at stepped
      split at stepped
      · cases stepped
        exact speaks.use _
      · cases stepped
        exact speaks
  | iterating =>
      dsimp only [Worker.step] at stepped
      split at stepped
      · cases stepped
        exact speaks
      · cases stepped
        exact speaks
      · cases stepped
  | checking =>
      dsimp only [Worker.step] at stepped
      split at stepped
      · split at stepped
        · cases stepped
          refine Advertiser.Speaks.createServices (Advertiser.Speaks.use ?_ _) _ _
          exact ⟨speaks.hostname, speaks.port, speaks.announced⟩
        · cases stepped
      · cases stepped
        exact speaks
  | freeGroup =>
      cases stepped
      split
      · have freed := (speaks.use advertiser.client).release advertiser.group
        exact ⟨freed.hostname, freed.port, freed.announced⟩
      · exact speaks
  | freeClient =>
      cases stepped
      split
      · have freed := (speaks.use advertiser.simplePoll).release advertiser.client
        exact ⟨freed.hostname, freed.port, freed.announced⟩
      · exact speaks
  | freePoll =>
      cases stepped
      exact speaks.release _
  | creating _ | returned _ | clearPoll | stopping =>
      cases stepped
      exact ⟨speaks.hostname, speaks.port, speaks.announced⟩

/-- Before the thread is started nothing is announced. -/
def System.Speaks (names : List Bytes) (ports : List Nat) (system : System) : Prop :=
  system.worker = .unborn ∧ system.self.announced = [] ∨ system.self.Speaks names ports

theorem System.speaks_step {system next : System} {act : Act} (speaks : system.Speaks names ports)
    (given : act.names ⊆ names ∧ act.ports ⊆ ports) (stepped : system.step act = some next) :
    next.Speaks names ports := by
  have same {system other : System} (speaks : system.Speaks names ports)
      (worker : other.worker = system.worker)
        (hostname : other.self.hostname = system.self.hostname)
      (port : other.self.port = system.self.port)
      (announced : other.self.announced = system.self.announced) : other.Speaks names ports := by
    refine speaks.imp ?_ ?_
    · rintro ⟨unborn, silent⟩
      exact ⟨worker.trans unborn, announced.trans silent⟩
    · intro speaks
      exact ⟨hostname ▸ speaks.hostname, port ▸ speaks.port, announced ▸ speaks.announced⟩
  cases act with
  | start pin port hostname systemName =>
      dsimp only [step] at stepped
      split at stepped
      · cases stepped
        refine .inr ⟨given.1 (by simp [Act.names]), given.2 (by simp [Act.ports]), ?_⟩
        rcases speaks with ⟨-, silent⟩ | speaks
        · rw [silent]
          simp
        · exact speaks.announced
      · cases stepped
  | stop =>
      dsimp only [step, stopStep] at stepped
      split at stepped
      · cases stepped
        exact same speaks rfl rfl rfl rfl
      · cases stepped
        exact same speaks rfl rfl rfl rfl
      · cases stepped
        exact same speaks rfl rfl rfl rfl
      · cases stepped
        exact same speaks rfl rfl rfl rfl
      · split at stepped
        · cases stepped
          exact same speaks rfl rfl rfl rfl
        · cases stepped
  | updatePin newPin =>
      dsimp only [step] at stepped
      split at stepped
      · cases stepped
      · cases stepped
        exact same speaks rfl rfl rfl rfl
  | markDirty =>
      dsimp only [step] at stepped
      split at stepped
      · cases stepped
        exact same speaks rfl rfl rfl rfl
      · cases stepped
  | worker answer =>
      obtain ⟨⟨later, worker⟩, found, rfl⟩ := Option.map_eq_some_iff.mp stepped
      rcases speaks with ⟨unborn, -⟩ | speaks
      · rw [unborn] at found
        cases found
      · exact .inr (Worker.speaks_step speaks found)
  | clientEvent state env =>
      dsimp only [step] at stepped
      split at stepped
      · rename_i may
        cases stepped
        rcases speaks with ⟨unborn, -⟩ | speaks
        · simp [calling, unborn] at may
        · exact .inr (speaks.clientCallback _ env state)
      · cases stepped
  | groupEvent state alternative env =>
      dsimp only [step] at stepped
      split at stepped
      · rename_i may
        cases stepped
        rcases speaks with ⟨unborn, -⟩ | speaks
        · cases unborn.symm.trans may.1
        · refine .inr (speaks.groupCallback _ env state ?_)
          rintro rfl
          exact given.1 (by simp [Act.names])
      · cases stepped

/-- In every run each announcement is the service of a port that was started and of a name that the
machine or Avahi gave.  Whatever PINs are put in place of those of the run, the same steps are
possible, and every call to Avahi and all that is announced stay as they were. -/
theorem announcements_without_pin {acts : List Act} {system : System}
    (ran : System.run acts = some system) :
    (∀ announcement ∈ system.self.announced,
      ∃ name ∈ acts.flatMap Act.names, ∃ port ∈ acts.flatMap Act.ports,
        announcement = service name port) ∧
      ∀ other, other.map Act.blank = acts.map Act.blank →
        ∃ changed, System.run other = some changed ∧ changed.self.ops = system.self.ops ∧
          changed.self.announced = system.self.announced ∧ changed.worker = system.worker := by
  constructor
  · have given : ∀ act ∈ acts, ∀ _ : System, act.names ⊆ acts.flatMap Act.names ∧
        act.ports ⊆ acts.flatMap Act.ports := by
      intro act member _
      constructor
      · intro name named
        exact List.mem_flatMap.mpr ⟨act, member, named⟩
      · intro port ported
        exact List.mem_flatMap.mpr ⟨act, member, ported⟩
    have meets := @Scheduled.meets_of_forall _ _ System.step _ acts given System.initial
    have initial : System.initial.Speaks (acts.flatMap Act.names) (acts.flatMap Act.ports) :=
      .inl ⟨rfl, rfl⟩
    rcases meets.keeps System.speaks_step initial ran with ⟨-, silent⟩ | speaks
    · rw [silent]
      simp
    · exact speaks.announced
  · intro other same
    have blanked (acts : List Act) :
        (System.run acts).map System.blank = System.run (acts.map Act.blank) :=
      Scheduled.run_map System.blank Act.blank System.blank_step System.initial acts
    have equal : (System.run other).map System.blank = some system.blank := by
      rw [blanked, same, ← blanked, ran]
      rfl
    obtain ⟨changed, reached, alike⟩ := Option.map_eq_some_iff.mp equal
    refine ⟨changed, reached, ?_, ?_, ?_⟩
    · exact congrArg (fun system => system.self.ops) alike
    · exact congrArg (fun system => system.self.announced) alike
    · exact congrArg (fun system => system.worker) alike

/-- The new PIN of a run is replaced. -/
theorem announcements_without_pin_replaced :
    ∃ system changed, System.run stoppedRun = some system ∧
      System.run (stoppedRun.map fun act =>
        if act = .updatePin (ascii "654321") then .updatePin (ascii "000000") else act) =
          some changed ∧
      changed.self.announced = system.self.announced ∧ system.self.announced.length = 3 := by
  have shape : (System.run stoppedRun).map (fun system => system.self.announced.length) =
      some 3 := by
    decide +kernel
  obtain ⟨system, ran, count⟩ := Option.map_eq_some_iff.mp shape
  obtain ⟨changed, reached, -, same, -⟩ := (announcements_without_pin ran).2 _
    (show (stoppedRun.map fun act =>
      if act = .updatePin (ascii "654321") then .updatePin (ascii "000000") else act).map
        Act.blank =
        stoppedRun.map Act.blank by decide +kernel)
  exact ⟨system, changed, ran, reached, same, count⟩

end MdnsAdvertiser
end TitanShare
