import Mathlib.Tactic.Common
import TitanShare.MdnsAdvertiser

/-!
# The objects of the advertiser

In every interleaving of the poll loop, the callbacks of Avahi, new PINs and `stop`, the thread of
the poll loop passes only objects to Avahi that live, and when it ends it has freed each of them
once.  It ends only if it was stopped, or if Avahi refused something.
-/

namespace TitanShare
namespace MdnsAdvertiser

open ByteText Handles

namespace Advertiser

variable {advertiser later : Advertiser} {rest : List Nat}

/-- Nothing was passed to Avahi but what lives: the group, and the rest. -/
structure Owns (advertiser : Advertiser) (rest : List Nat) : Prop where
  holds : Handles.Holds advertiser.ops (rest ++ advertiser.group.toList)
  null : advertiser.null = false

/-- Some calls may only change the group, the name, and the records of what was done. -/
structure Frames (advertiser later : Advertiser) : Prop where
  simplePoll : later.simplePoll = advertiser.simplePoll
  client : later.client = advertiser.client
  running : later.running = advertiser.running
  /-- A group is not given up. -/
  group : advertiser.group.isSome = true → later.group = advertiser.group

@[refl]
theorem Frames.refl (advertiser : Advertiser) : Frames advertiser advertiser :=
  ⟨rfl, rfl, rfl, fun _ => rfl⟩

theorem Frames.trans {third : Advertiser} (first : Frames advertiser later)
    (second : Frames later third) : Frames advertiser third where
  simplePoll := second.simplePoll.trans first.simplePoll
  client := second.client.trans first.client
  running := second.running.trans first.running
  group := fun grouped => by
    have kept := first.group grouped
    rw [second.group (kept ▸ grouped), kept]

theorem frames_use (advertiser : Advertiser) (object : Option Nat) :
    Frames advertiser (advertiser.use object) := by
  cases object with
  | none => exact ⟨rfl, rfl, rfl, fun _ => rfl⟩
  | some object => exact ⟨rfl, rfl, rfl, fun _ => rfl⟩

theorem Owns.use (owns : advertiser.Owns rest) {object : Nat}
    (lives : object ∈ rest ++ advertiser.group.toList) :
    (advertiser.use (some object)).Owns rest where
  holds := owns.holds.use lives
  null := owns.null

theorem Owns.useRest (owns : advertiser.Owns rest) {object : Nat} (member : object ∈ rest) :
    (advertiser.use (some object)).Owns rest :=
  owns.use (List.mem_append_left _ member)

theorem frames_addService (advertiser : Advertiser) (env : ServicesEnv) (group : Nat) :
    Frames advertiser (advertiser.addService env group) := by
  unfold addService
  split
  · split
    · exact ⟨rfl, rfl, rfl, fun _ => rfl⟩
    · exact ⟨rfl, rfl, rfl, fun _ => rfl⟩
  · exact ⟨rfl, rfl, rfl, fun _ => rfl⟩

theorem owns_addService (owns : advertiser.Owns rest) (env : ServicesEnv) {group : Nat}
    (grouped : advertiser.group = some group) : (advertiser.addService env group).Owns rest := by
  have lives : group ∈ rest ++ advertiser.group.toList := by simp [grouped]
  have asked := owns.use lives
  have given := asked.use lives
  unfold addService
  split
  · split
    · exact ⟨(given.use lives).holds, owns.null⟩
    · exact ⟨given.holds, owns.null⟩
  · exact asked

theorem createServices_grouped {group : Nat} (grouped : advertiser.group = some group)
    (env : ServicesEnv) (c : Option Nat) :
    advertiser.createServices env c = advertiser.addService env group := by
  simp only [createServices, grouped]

theorem frames_createServices (advertiser : Advertiser) (env : ServicesEnv) (c : Option Nat) :
    Frames advertiser (advertiser.createServices env c) := by
  unfold createServices
  split
  · exact frames_addService _ _ _
  · rename_i alone
    split
    · exact (frames_use advertiser c).trans (frames_use _ c)
    · refine .trans ?_ (frames_addService _ env _)
      refine ⟨(frames_use advertiser c).simplePoll, (frames_use advertiser c).client,
        (frames_use advertiser c).running, ?_⟩
      rw [alone]
      intro grouped
      cases grouped

/-- The group is created when it is missing, and then given the service. -/
theorem owns_createServices (owns : advertiser.Owns rest) {env : ServicesEnv}
    (admitted : advertiser.admits env = true) {c : Nat} (member : c ∈ rest) :
    (advertiser.createServices env (some c)).Owns rest := by
  unfold createServices
  split
  · rename_i group grouped
    exact owns_addService owns env grouped
  · rename_i alone
    have used := owns.useRest member
    split
    · exact used.useRest member
    · rename_i group granted
      have free : held group advertiser.ops = false := by
        simpa [admits, granted, grants] using admitted
      have acquired := @Handles.Holds.acquire _ _ group used.holds
        (by simpa [Advertiser.use] using free)
      let grouped : Advertiser :=
        { (advertiser.use (some c)).acquire group with group := some group }
      have owned : grouped.Owns rest := by
        refine ⟨acquired.perm ?_, owns.null⟩
        simpa [grouped, Advertiser.use, alone] using
          (List.perm_append_singleton group rest).symm
      exact owns_addService owned env rfl

theorem frames_clientCallback (advertiser : Advertiser) (c : Option Nat) (env : ServicesEnv)
    (state : ClientState) : Frames advertiser (advertiser.clientCallback c env state) := by
  have resets : Frames advertiser
      (if advertiser.group.isSome then advertiser.use advertiser.group else advertiser) := by
    split
    · exact frames_use _ _
    · rfl
  cases state with
  | running => exact frames_createServices _ _ _
  | failure => exact (frames_use _ _).trans (frames_use _ _)
  | collision => exact resets
  | registering => exact resets
  | connecting => rfl

theorem frames_groupCallback (advertiser : Advertiser) (c : Option Nat) (alternative : Bytes)
    (env : ServicesEnv) (state : GroupState) :
    Frames advertiser (advertiser.groupCallback c alternative env state) := by
  cases state with
  | uncommited => rfl
  | registering => rfl
  | established => rfl
  | collision =>
      have renamed : Frames advertiser { advertiser with hostname := cString alternative } :=
        ⟨rfl, rfl, rfl, fun _ => rfl⟩
      exact (renamed.trans (frames_use _ _)).trans (frames_createServices _ _ _)
  | failure => exact ((frames_use _ _).trans (frames_use _ _)).trans (frames_use _ _)

/-- A callback is given a client that lives, with a poll that lives. -/
theorem owns_clientCallback (owns : advertiser.Owns rest) {env : ServicesEnv}
    (admitted : advertiser.admits env = true) {c poll : Nat} (member : c ∈ rest)
    (polled : advertiser.simplePoll = some poll) (pollMember : poll ∈ rest) (state : ClientState) :
    (advertiser.clientCallback (some c) env state).Owns rest := by
  have resets : (if advertiser.group.isSome then advertiser.use advertiser.group
      else advertiser).Owns rest := by
    split
    · rename_i grouped
      obtain ⟨group, found⟩ := Option.isSome_iff_exists.mp grouped
      rw [found]
      exact owns.use (by simp [found])
    · exact owns
  cases state with
  | running => exact owns_createServices owns admitted member
  | failure =>
      simp only [clientCallback, polled]
      exact (owns.useRest member).useRest pollMember
  | collision => exact resets
  | registering => exact resets
  | connecting => exact owns

theorem owns_groupCallback (owns : advertiser.Owns rest) {env : ServicesEnv}
    (admitted : advertiser.admits env = true) {c poll group : Nat} (member : c ∈ rest)
    (polled : advertiser.simplePoll = some poll) (pollMember : poll ∈ rest)
    (grouped : advertiser.group = some group) (alternative : Bytes) (state : GroupState) :
    (advertiser.groupCallback (some c) alternative env state).Owns rest := by
  have lives : group ∈ rest ++ advertiser.group.toList := by simp [grouped]
  cases state with
  | uncommited => exact owns
  | registering => exact owns
  | established => exact owns
  | collision =>
      let renamed : Advertiser :=
        { advertiser with group := some group, hostname := cString alternative }
      have owned : renamed.Owns rest := by
        refine ⟨?_, owns.null⟩
        simpa [renamed, grouped] using owns.holds
      have asked : (renamed.use (some group)).Owns rest := owned.use (by simp [renamed])
      have free : (renamed.use (some group)).admits env = true := by
        simpa [admits, grants, Advertiser.use, renamed] using admitted
      simp only [groupCallback, grouped]
      exact owns_createServices asked free member
  | failure =>
      simp only [groupCallback, grouped, polled]
      exact ((owns.use lives).useRest member).useRest pollMember

/-- The poll and the client are these, and with its group the thread has these objects. -/
structure Has (advertiser : Advertiser) (poll created : Option Nat) (live : List Nat) : Prop where
  simplePoll : advertiser.simplePoll = poll
  client : advertiser.client = created
  owns : advertiser.Owns live

/-- What differs in neither of these members is owned in the same way. -/
structure SameObjects (advertiser later : Advertiser) : Prop where
  simplePoll : later.simplePoll = advertiser.simplePoll
  client : later.client = advertiser.client
  group : later.group = advertiser.group
  ops : later.ops = advertiser.ops
  null : later.null = advertiser.null

variable {poll created : Option Nat} {live : List Nat}

theorem Has.same (has : advertiser.Has poll created live) (same : SameObjects advertiser later) :
    later.Has poll created live where
  simplePoll := same.simplePoll.trans has.simplePoll
  client := same.client.trans has.client
  owns := by
    refine ⟨?_, same.null.trans has.owns.null⟩
    rw [same.ops, same.group]
    exact has.owns.holds

theorem Has.frames (has : advertiser.Has poll created live) (frames : Frames advertiser later)
    (owns : later.Owns live) : later.Has poll created live :=
  ⟨frames.simplePoll.trans has.simplePoll, frames.client.trans has.client, owns⟩

theorem Has.usePoll {poll : Nat} (has : advertiser.Has (some poll) created live)
    (member : poll ∈ live) :
    (advertiser.use advertiser.simplePoll).Has (some poll) created live := by
  refine has.frames (frames_use _ _) ?_
  rw [has.simplePoll]
  exact has.owns.useRest member

end Advertiser

/-! ## The thread -/

open Advertiser

variable {advertiser later : Advertiser}

/-- What the thread has where it stands. -/
def Worker.Keeps (advertiser : Advertiser) : Worker → Prop
  | unborn | newPoll | stopping | finished => advertiser.Has none none [] ∧ advertiser.group = none
  | newClient | freePoll =>
      (∃ poll, advertiser.Has (some poll) none [poll]) ∧ advertiser.group = none
  | creating client => ∃ poll, advertiser.Has (some poll) none [poll, client]
  | freeClient =>
      (∃ poll client, advertiser.Has (some poll) (some client) [poll, client]) ∧
        advertiser.group = none
  | clearPoll => (∃ poll, advertiser.Has (some poll) none []) ∧ advertiser.group = none
  | looping | iterating | returned _ | checking | freeGroup =>
      ∃ poll client, advertiser.Has (some poll) (some client) [poll, client]

theorem Worker.Keeps.same {worker : Worker} (keeps : worker.Keeps advertiser)
    (same : SameObjects advertiser later) : worker.Keeps later := by
  cases worker with
  | unborn | newPoll | stopping | finished => exact ⟨keeps.1.same same, same.group.trans keeps.2⟩
  | newClient | freePoll | clearPoll =>
      obtain ⟨⟨poll, has⟩, alone⟩ := keeps
      exact ⟨⟨poll, has.same same⟩, same.group.trans alone⟩
  | creating client =>
      obtain ⟨poll, has⟩ := keeps
      exact ⟨poll, has.same same⟩
  | freeClient =>
      obtain ⟨⟨poll, client, has⟩, alone⟩ := keeps
      exact ⟨⟨poll, client, has.same same⟩, same.group.trans alone⟩
  | looping | iterating | returned _ | checking | freeGroup =>
      obtain ⟨poll, client, has⟩ := keeps
      exact ⟨poll, client, has.same same⟩

/-- The new poll of the thread. -/
theorem keeps_newPoll (keeps : Worker.newPoll.Keeps advertiser) {poll : Nat}
    (granted : advertiser.grants poll = true) :
    Worker.newClient.Keeps { advertiser.acquire poll with simplePoll := some poll } := by
  obtain ⟨has, alone⟩ := keeps
  have free : held poll advertiser.ops = false := by simpa [grants] using granted
  have acquired := has.owns.holds.acquire free
  rw [alone] at acquired
  refine ⟨⟨poll, ⟨rfl, has.client, ⟨?_, has.owns.null⟩⟩⟩, alone⟩
  simpa [Advertiser.acquire, alone] using acquired

/-- The new client of the thread. -/
theorem keeps_newClient (keeps : Worker.newClient.Keeps advertiser) {client : Nat}
    (granted : advertiser.grants client = true) :
    (Worker.creating client).Keeps ((advertiser.use advertiser.simplePoll).acquire client) := by
  obtain ⟨⟨poll, has⟩, alone⟩ := keeps
  have used := has.usePoll List.mem_cons_self
  have free : held client (advertiser.use advertiser.simplePoll).ops = false := by
    rw [has.simplePoll]
    simpa [grants, Advertiser.use] using granted
  have acquired := used.owns.holds.acquire free
  refine ⟨poll, ⟨used.simplePoll, used.client, ⟨acquired.perm ?_, used.owns.null⟩⟩⟩
  have grouped : (advertiser.use advertiser.simplePoll).group = none := by
    rw [has.simplePoll]
    exact alone
  simpa [Advertiser.acquire, grouped] using List.Perm.swap poll client []

/-- A new PIN makes the thread reset its group and describe the service again. -/
theorem keeps_readvertised {poll client : Nat}
    (has : advertiser.Has (some poll) (some client) [poll, client])
    (grouped : advertiser.group.isSome = true) (env : ServicesEnv) :
    Worker.looping.Keeps
      (({ advertiser with pinDirty := false }.use advertiser.group).createServices env
        advertiser.client) := by
  obtain ⟨group, found⟩ := Option.isSome_iff_exists.mp grouped
  let cleared : Advertiser := { advertiser with pinDirty := false }
  have kept : cleared.group = some group := found
  have cleanHas : cleared.Has (some poll) (some client) [poll, client] :=
    has.same ⟨rfl, rfl, rfl, rfl, rfl⟩
  have asked := @Owns.use cleared [poll, client] cleanHas.owns group (by simp [kept])
  have frames := (frames_use cleared (some group)).trans (frames_addService _ env group)
  change Worker.looping.Keeps ((cleared.use cleared.group).createServices env cleared.client)
  rw [kept, @createServices_grouped (cleared.use (some group)) group kept env]
  exact ⟨poll, client, cleanHas.frames frames (owns_addService asked env kept)⟩

theorem keeps_freeGroup (keeps : Worker.freeGroup.Keeps advertiser) :
    Worker.freeClient.Keeps (if advertiser.group.isSome then
      { advertiser.use advertiser.client |>.release advertiser.group with group := none }
        else advertiser) := by
  obtain ⟨poll, client, has⟩ := keeps
  split
  · rename_i grouped
    obtain ⟨group, found⟩ := Option.isSome_iff_exists.mp grouped
    have used := @Owns.useRest _ _ has.owns client (by simp)
    have released := @Handles.Holds.release _ _ group used.holds [poll, client] (by
      simpa [Advertiser.use, found] using
        (List.perm_append_singleton group [poll, client]))
    refine ⟨⟨poll, client, ?_⟩, rfl⟩
    rw [has.client, found]
    refine ⟨has.simplePoll, has.client, ⟨?_, has.owns.null⟩⟩
    simpa [Advertiser.release, Advertiser.use] using released
  · rename_i alone
    exact ⟨⟨poll, client, has⟩, by simpa using alone⟩

theorem keeps_freeClient (keeps : Worker.freeClient.Keeps advertiser) :
    Worker.freePoll.Keeps (if advertiser.client.isSome then
      { advertiser.use advertiser.simplePoll |>.release advertiser.client with client := none }
        else advertiser) := by
  obtain ⟨⟨poll, client, has⟩, alone⟩ := keeps
  rw [if_pos (by simp [has.client])]
  have used := @Owns.useRest _ _ has.owns poll (by simp)
  have released := @Handles.Holds.release _ _ client used.holds [poll] (by
    simpa [Advertiser.use, alone] using List.Perm.swap client poll [])
  refine ⟨⟨poll, ?_⟩, by rw [has.simplePoll, has.client]; exact alone⟩
  rw [has.simplePoll, has.client]
  exact ⟨has.simplePoll, rfl, ⟨by simpa [Advertiser.release, Advertiser.use, alone] using released,
    has.owns.null⟩⟩

theorem keeps_freePoll (keeps : Worker.freePoll.Keeps advertiser) :
    advertiser.simplePoll.isSome = true ∧
      Worker.clearPoll.Keeps (advertiser.release advertiser.simplePoll) := by
  obtain ⟨⟨poll, has⟩, alone⟩ := keeps
  have released := @Handles.Holds.release _ _ poll has.owns.holds [] (by simp [alone])
  rw [has.simplePoll]
  refine ⟨rfl, ⟨poll, ⟨has.simplePoll, has.client, ⟨?_, has.owns.null⟩⟩⟩, alone⟩
  simpa [Advertiser.release, alone] using released

theorem Worker.keeps_step {worker next : Worker} {answer : Answer} (keeps : worker.Keeps advertiser)
    (stepped : worker.step advertiser answer = some (later, next)) : next.Keeps later := by
  cases worker with
  | unborn => cases stepped
  | finished => cases stepped
  | newPoll =>
      dsimp only [Worker.step] at stepped
      split at stepped
      · cases stepped
        exact keeps
      · split at stepped
        · rename_i granted
          cases stepped
          exact keeps_newPoll keeps granted
        · cases stepped
      · cases stepped
  | newClient =>
      dsimp only [Worker.step] at stepped
      split at stepped
      · cases stepped
        obtain ⟨⟨poll, has⟩, alone⟩ := keeps
        exact ⟨⟨poll, has.usePoll List.mem_cons_self⟩, by rw [has.simplePoll]; exact alone⟩
      · split at stepped
        · rename_i granted
          cases stepped
          exact keeps_newClient keeps granted
        · cases stepped
      · cases stepped
  | creating client =>
      cases stepped
      obtain ⟨poll, has⟩ := keeps
      exact ⟨poll, client, ⟨has.simplePoll, rfl, ⟨has.owns.holds, has.owns.null⟩⟩⟩
  | looping =>
      obtain ⟨poll, client, has⟩ := keeps
      dsimp only [Worker.step] at stepped
      split at stepped
      · cases stepped
        exact ⟨poll, client, has.usePoll List.mem_cons_self⟩
      · cases stepped
        exact ⟨poll, client, has⟩
  | iterating =>
      dsimp only [Worker.step] at stepped
      split at stepped
      · cases stepped
        exact keeps
      · cases stepped
        exact keeps
      · cases stepped
  | returned quit =>
      dsimp only [Worker.step] at stepped
      split at stepped
      · cases stepped
        exact keeps
      · cases stepped
        exact keeps
  | checking =>
      dsimp only [Worker.step] at stepped
      split at stepped
      · rename_i dirty
        split at stepped
        · rename_i env
          cases stepped
          obtain ⟨poll, client, has⟩ := keeps
          exact keeps_readvertised has (by simpa using (Bool.and_eq_true_iff.mp dirty).2) env
        · cases stepped
      · cases stepped
        exact keeps
  | freeGroup =>
      cases stepped
      exact keeps_freeGroup keeps
  | freeClient =>
      cases stepped
      exact keeps_freeClient keeps
  | freePoll =>
      obtain ⟨polled, freed⟩ := keeps_freePoll keeps
      simp only [Worker.step, polled, if_true] at stepped
      cases stepped
      exact freed
  | clearPoll =>
      cases stepped
      obtain ⟨⟨poll, has⟩, alone⟩ := keeps
      exact ⟨⟨rfl, has.client, ⟨has.owns.holds, has.owns.null⟩⟩, alone⟩
  | stopping =>
      cases stepped
      exact Worker.Keeps.same keeps ⟨rfl, rfl, rfl, rfl, rfl⟩

/-! ## The callbacks -/

/-- Avahi calls back with a client and a poll that live. -/
theorem System.keeps_clientEvent {system : System} (keeps : system.worker.Keeps system.self)
    (calling : system.calling.isSome = true) {env : ServicesEnv}
    (admitted : system.self.admits env = true) (state : ClientState) :
    system.worker.Keeps (system.self.clientCallback system.calling env state) := by
  obtain ⟨advertiser, worker, caller, marking, lateQuit⟩ := system
  have frames := frames_clientCallback advertiser
  cases worker with
  | creating client =>
      obtain ⟨poll, has⟩ := keeps
      have owns := @owns_clientCallback _ _ has.owns env admitted client poll (by simp)
        has.simplePoll (by simp) state
      exact ⟨poll, has.frames (frames _ env state) owns⟩
  | iterating =>
      obtain ⟨poll, client, has⟩ := keeps
      have owns := @owns_clientCallback _ _ has.owns env admitted client poll (by simp)
        has.simplePoll (by simp) state
      have given : System.calling ⟨advertiser, .iterating, caller, marking, lateQuit⟩ =
          some client :=
        has.client
      rw [given]
      exact ⟨poll, client, has.frames (frames _ env state) owns⟩
  | _ => cases calling

theorem System.keeps_groupEvent {system : System} (keeps : system.worker.Keeps system.self)
    (iterating : system.worker = .iterating) (grouped : system.self.group.isSome = true)
    {env : ServicesEnv} (admitted : system.self.admits env = true) (alternative : Bytes)
    (state : GroupState) :
    system.worker.Keeps (system.self.groupCallback system.calling alternative env state) := by
  obtain ⟨advertiser, worker, caller, marking, lateQuit⟩ := system
  obtain rfl : worker = .iterating := iterating
  obtain ⟨poll, client, has⟩ := keeps
  obtain ⟨group, found⟩ := Option.isSome_iff_exists.mp grouped
  have owns := @owns_groupCallback _ _ has.owns env admitted client poll group (by simp)
    has.simplePoll (by simp) found alternative state
  have given : System.calling ⟨advertiser, .iterating, caller, marking, lateQuit⟩ = some client :=
    has.client
  rw [given]
  exact ⟨poll, client, has.frames (frames_groupCallback _ _ _ env state) owns⟩

/-! ## The threads together -/

theorem System.keeps_step {system next : System} {act : Act}
    (keeps : system.worker.Keeps system.self) (stepped : system.step act = some next) :
    next.worker.Keeps next.self := by
  cases act with
  | start pin port hostname systemName =>
      dsimp only [System.step] at stepped
      split at stepped
      · rename_i fresh
        cases stepped
        rw [fresh.1] at keeps
        exact Worker.Keeps.same keeps ⟨rfl, rfl, rfl, rfl, rfl⟩
      · cases stepped
  | stop =>
      dsimp only [System.step, System.stopStep] at stepped
      split at stepped
      · cases stepped
        exact keeps.same ⟨rfl, rfl, rfl, rfl, rfl⟩
      · cases stepped
        exact keeps
      · cases stepped
        exact keeps
      · cases stepped
        exact keeps
      · split at stepped
        · cases stepped
          exact keeps
        · cases stepped
  | updatePin newPin =>
      dsimp only [System.step] at stepped
      split at stepped
      · cases stepped
      · cases stepped
        exact keeps.same ⟨rfl, rfl, rfl, rfl, rfl⟩
  | markDirty =>
      dsimp only [System.step] at stepped
      split at stepped
      · cases stepped
        exact keeps.same ⟨rfl, rfl, rfl, rfl, rfl⟩
      · cases stepped
  | worker answer =>
      obtain ⟨⟨later, worker⟩, found, rfl⟩ := Option.map_eq_some_iff.mp stepped
      exact Worker.keeps_step keeps found
  | clientEvent state env =>
      dsimp only [System.step] at stepped
      split at stepped
      · rename_i may
        obtain ⟨calling, admitted⟩ := Bool.and_eq_true_iff.mp may
        cases stepped
        exact System.keeps_clientEvent keeps calling admitted state
      · cases stepped
  | groupEvent state alternative env =>
      dsimp only [System.step] at stepped
      split at stepped
      · rename_i may
        cases stepped
        exact System.keeps_groupEvent keeps may.1 may.2.1 may.2.2 alternative state
      · cases stepped

theorem System.keeps_initial : System.initial.worker.Keeps System.initial.self :=
  ⟨⟨rfl, rfl, ⟨holds_nil, rfl⟩⟩, rfl⟩

theorem System.keeps_run {acts : List Act} {system : System} (ran : System.run acts = some system) :
    system.worker.Keeps system.self := by
  have keeps := @Scheduled.run_keeps _ _ System.step (fun system => system.worker.Keeps system.self)
  exact keeps System.keeps_step System.keeps_initial ran

/-- What the thread has, it owns; when it stands beside its loop it has nothing. -/
theorem Worker.Keeps.owned {worker : Worker} (keeps : worker.Keeps advertiser) :
    Owned advertiser.ops ∧ advertiser.null = false := by
  have owned {poll created : Option Nat} {live : List Nat}
      (has : advertiser.Has poll created live) :
      Owned advertiser.ops ∧ advertiser.null = false :=
    ⟨has.owns.holds.owned, has.owns.null⟩
  cases worker with
  | unborn | newPoll | stopping | finished => exact owned keeps.1
  | newClient | freePoll | clearPoll =>
      obtain ⟨⟨poll, has⟩, alone⟩ := keeps
      exact owned has
  | creating client =>
      obtain ⟨poll, has⟩ := keeps
      exact owned has
  | freeClient =>
      obtain ⟨⟨poll, client, has⟩, alone⟩ := keeps
      exact owned has
  | looping | iterating | returned _ | checking | freeGroup =>
      obtain ⟨poll, client, has⟩ := keeps
      exact owned has

/-! ## How the thread ends -/

/-- What makes the thread end: `stop` is called, or Avahi refuses the poll, the client or a tick. -/
def System.Ends (system : System) : Act → Prop
  | .stop => system.caller = .idle
  | .worker .null => system.worker = .newPoll ∨ system.worker = .newClient
  | .worker .error => system.worker = .iterating
  | _ => False

/-- The thread has not come to its cleanup. -/
def Worker.works : Worker → Bool
  | newPoll | newClient | creating _ | looping | iterating | returned _ | checking => true
  | _ => false

/-- Nothing has told the thread to end. -/
structure System.Unstopped (system : System) : Prop where
  idle : system.caller = .idle
  working : system.worker = .unborn ∨ system.self.running = true ∧ system.worker.works = true

/-- The thread alone goes on while it runs. -/
theorem Worker.works_step {system : System} {answer : Answer} {next : Worker}
    (running : system.self.running = true) (works : system.worker.works = true)
    (goesOn : ¬ system.Ends (.worker answer))
    (stepped : system.worker.step system.self answer = some (later, next)) :
    later.running = true ∧ next.works = true := by
  obtain ⟨advertiser, worker, caller, marking, lateQuit⟩ := system
  have used (object : Option Nat) : (advertiser.use object).running = true :=
    (frames_use _ _).running.trans running
  cases worker with
  | newPoll =>
      dsimp only [Worker.step] at stepped
      split at stepped
      · exact absurd (.inl rfl) goesOn
      · split at stepped
        · cases stepped
          exact ⟨running, rfl⟩
        · cases stepped
      · cases stepped
  | newClient =>
      dsimp only [Worker.step] at stepped
      split at stepped
      · exact absurd (.inr rfl) goesOn
      · split at stepped
        · cases stepped
          exact ⟨used _, rfl⟩
        · cases stepped
      · cases stepped
  | creating client =>
      cases stepped
      exact ⟨running, rfl⟩
  | looping =>
      rw [Worker.step, if_pos running] at stepped
      cases stepped
      exact ⟨used _, rfl⟩
  | iterating =>
      dsimp only [Worker.step] at stepped
      split at stepped
      · exact absurd rfl goesOn
      · cases stepped
        exact ⟨running, rfl⟩
      · cases stepped
  | returned quit =>
      have runs : (quit && !advertiser.running) = false := by
        rw [show advertiser.running = true from running]
        simp
      rw [Worker.step, runs] at stepped
      cases stepped
      exact ⟨running, rfl⟩
  | checking =>
      dsimp only [Worker.step] at stepped
      split at stepped
      · split at stepped
        · cases stepped
          refine ⟨?_, rfl⟩
          exact ((frames_use _ _).trans (frames_createServices _ _ _)).running.trans running
        · cases stepped
      · cases stepped
        exact ⟨running, rfl⟩
  | _ => cases works

theorem System.unstopped_step {system next : System} {act : Act} (unstopped : system.Unstopped)
    (goesOn : ¬ system.Ends act) (stepped : system.step act = some next) : next.Unstopped := by
  cases act with
  | start pin port hostname systemName =>
      dsimp only [System.step] at stepped
      split at stepped
      · cases stepped
        exact ⟨unstopped.idle, .inr ⟨rfl, rfl⟩⟩
      · cases stepped
  | stop => exact absurd unstopped.idle goesOn
  | updatePin newPin =>
      dsimp only [System.step] at stepped
      split at stepped
      · cases stepped
      · cases stepped
        exact ⟨unstopped.idle, unstopped.working⟩
  | markDirty =>
      dsimp only [System.step] at stepped
      split at stepped
      · cases stepped
        exact ⟨unstopped.idle, unstopped.working⟩
      · cases stepped
  | worker answer =>
      obtain ⟨⟨later, worker⟩, found, rfl⟩ := Option.map_eq_some_iff.mp stepped
      refine ⟨unstopped.idle, .inr ?_⟩
      rcases unstopped.working with unborn | ⟨running, works⟩
      · rw [unborn] at found
        cases found
      · exact Worker.works_step running works goesOn found
  | clientEvent state env =>
      dsimp only [System.step] at stepped
      split at stepped
      · cases stepped
        refine ⟨unstopped.idle, unstopped.working.imp_right fun ⟨running, works⟩ => ⟨?_, works⟩⟩
        exact (frames_clientCallback _ _ _ _).running.trans running
      · cases stepped
  | groupEvent state alternative env =>
      dsimp only [System.step] at stepped
      split at stepped
      · cases stepped
        refine ⟨unstopped.idle, unstopped.working.imp_right fun ⟨running, works⟩ => ⟨?_, works⟩⟩
        exact (frames_groupCallback _ _ _ _ _).running.trans running
      · cases stepped

/-- A thread that has ended was told to end. -/
theorem System.ends_of_finished {acts : List Act} {system : System}
    (ran : System.run acts = some system) (finished : system.worker = .finished) :
    ∃ before act after middle, acts = before ++ act :: after ∧
      System.run before = some middle ∧ middle.Ends act := by
  refine Scheduled.exists_of_not_meets fun meets => ?_
  have initial : System.initial.Unstopped := ⟨rfl, .inl rfl⟩
  have unstopped := meets.keeps System.unstopped_step initial ran
  rcases unstopped.working with unborn | ⟨running, works⟩
  · rw [finished] at unborn
    cases unborn
  · rw [finished] at works
    cases works

/-- Whatever order the poll loop, the callbacks, new PINs and `stop` take, the thread of the loop
passes no null pointer and nothing freed to Avahi; when it ends, which it does only if it was
stopped or refused, its pointers are null and each object was freed as often as it was made. -/
theorem advertiser_objects_owned {acts : List Act} {system : System}
    (ran : System.run acts = some system) :
    (Owned system.self.ops ∧ system.self.null = false) ∧
      (system.worker = .finished →
        (system.self.simplePoll = none ∧ system.self.client = none ∧ system.self.group = none ∧
          ∀ object, system.self.ops.count (.acquire object) =
            system.self.ops.count (.release object)) ∧
        ∃ before act after middle, acts = before ++ act :: after ∧
          System.run before = some middle ∧ middle.Ends act) := by
  have keeps := System.keeps_run ran
  refine ⟨keeps.owned, fun finished => ⟨?_, System.ends_of_finished ran finished⟩⟩
  rw [finished] at keeps
  obtain ⟨has, alone⟩ := keeps
  refine ⟨has.simplePoll, has.client, alone, fun object => ?_⟩
  have counted := has.owns.holds.owned.count_acquire object
  have gone : held object system.self.ops = false := by
    rw [Bool.eq_false_iff]
    intro holds
    have member := (has.owns.holds.held_iff object).mp holds
    simp [alone] at member
  simpa [gone] using counted

/-- A client is made, announced in its callback, collides, gets a new PIN, and is stopped. -/
def stoppedRun : List Act :=
  let env : ServicesEnv := ⟨some 3, true, true⟩
  [.start (ascii "123456") 9999 [] (ascii "titan"), .worker (.object 1), .worker (.object 2),
    .clientEvent .running env, .worker .go, .worker .go,
    .groupEvent .collision (ascii "titan #2") ⟨none, true, true⟩, .updatePin (ascii "654321"),
    .worker (.returned false), .markDirty, .worker .go, .worker (.services ⟨none, true, true⟩),
    .stop, .worker .go, .worker .go, .worker .go, .stop, .stop, .worker .go, .worker .go,
    .worker .go, .stop, .stop]

theorem advertiser_objects_owned_stopped :
    ∃ system, System.run stoppedRun = some system ∧ system.worker = .finished ∧
      Owned system.self.ops := by
  have shape : (System.run stoppedRun).map System.worker = some .finished := by decide +kernel
  obtain ⟨system, ran, finished⟩ := Option.map_eq_some_iff.mp shape
  exact ⟨system, ran, finished, (advertiser_objects_owned ran).1.1⟩

end MdnsAdvertiser
end TitanShare
