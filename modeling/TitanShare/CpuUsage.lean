import Mathlib.Algebra.Order.Field.Basic
import Mathlib.Algebra.Order.Ring.Rat
import Mathlib.Data.Rat.Cast.Order
import Mathlib.Tactic.Linarith
import Mathlib.Tactic.NormNum
import TitanShare.ProcStat

/-!
# Processor load

`getCpuUsage` and `getPerCoreCpuUsage` over runs of snapshots, in exact arithmetic.  Work is counted
up, but the time a processor rests may go back, and then the share of work is more than all or less
than nothing; and cores are compared by position, whatever their numbers.
-/

namespace TitanShare

/-! ## Shares -/

/-- The share of work in a difference of two readings, in percent. -/
def percent (dWork dTotal : Int) : ℚ :=
  (dWork : ℚ) / (dTotal : ℚ) * 100

/-- A share of a positive total is a percentage exactly if it is neither negative nor more than
all. -/
theorem percent_mem_iff {dWork dTotal : Int} (positive : 0 < dTotal) :
    0 ≤ percent dWork dTotal ∧ percent dWork dTotal ≤ 100 ↔ 0 ≤ dWork ∧ dWork ≤ dTotal := by
  have total : (0 : ℚ) < dTotal := by exact_mod_cast positive
  unfold percent
  constructor
  · rintro ⟨low, high⟩
    have share : 0 ≤ (dWork : ℚ) / dTotal := by linarith
    have whole : (dWork : ℚ) / dTotal ≤ 1 := by linarith
    constructor
    · have work : 0 ≤ (dWork : ℚ) := by
        rw [← div_mul_cancel₀ (dWork : ℚ) total.ne']
        exact mul_nonneg share total.le
      exact_mod_cast work
    · exact_mod_cast (div_le_one total).mp whole
  · rintro ⟨low, high⟩
    have work : (0 : ℚ) ≤ dWork := by exact_mod_cast low
    have within : (dWork : ℚ) ≤ dTotal := by exact_mod_cast high
    have share : 0 ≤ (dWork : ℚ) / dTotal := div_nonneg work total.le
    have whole := (div_le_one total).mpr within
    constructor
    · linarith
    · linarith

/-- A share is the same of the negated differences. -/
theorem percent_neg (dWork dTotal : Int) : percent (-dWork) (-dTotal) = percent dWork dTotal := by
  unfold percent
  push_cast
  rw [neg_div_neg_eq]

/-! ## The two functions -/

/-- The baselines a `SystemInfo` keeps. -/
structure CpuMonitor where
  /-- `m_prevCpu` -/
  prevCpu : CpuTimes
  /-- `m_prevCoreCpu` -/
  prevCoreCpu : List CpuTimes

/-- The load between two readings of the aggregate. -/
def cpuUsage (previous current : CpuTimes) : ℚ :=
  let dWork := current.work - previous.work
  let dTotal := current.total - previous.total
  if dTotal = 0 then 0 else percent dWork dTotal

/-- The load between two readings at one position. -/
def coreUsage (previous current : CpuTimes) : ℚ :=
  let dWork := current.work - previous.work
  let dTotal := current.total - previous.total
  if dTotal ≤ 0 then 0 else percent dWork dTotal

namespace CpuMonitor

/-- The constructor reads the file twice. -/
def start (first second : Option Bytes) : CpuMonitor where
  prevCpu := readCpuTimes first
  prevCoreCpu := readAllCoreTimes second

def getCpuUsage (file : Option Bytes) (monitor : CpuMonitor) : ℚ × CpuMonitor :=
  let cur := readCpuTimes file
  (cpuUsage monitor.prevCpu cur, { monitor with prevCpu := cur })

def getPerCoreCpuUsage (file : Option Bytes) (monitor : CpuMonitor) : List ℚ × CpuMonitor :=
  let cur := readAllCoreTimes file
  if monitor.prevCoreCpu.length ≠ cur.length then
    (List.replicate cur.length 0, { monitor with prevCoreCpu := cur })
  else (List.zipWith coreUsage monitor.prevCoreCpu cur, { monitor with prevCoreCpu := cur })

end CpuMonitor

/-! ## Runs -/

inductive CpuCall
  | usage
  | perCore
  deriving DecidableEq

/-- One call: the snapshot its baseline was read from, the one it reads, and what it returns. -/
structure Sample where
  call : CpuCall
  before : Snapshot
  now : Snapshot
  answer : List ℚ

/-- Calls one after the other, with the snapshot each of them finds.  The snapshots `cpu` and
`cores` are those the baselines were read from. -/
def samplesFrom (monitor : CpuMonitor) (cpu cores : Snapshot) :
    List (CpuCall × Snapshot) → List Sample
  | [] => []
  | (.usage, now) :: rest =>
      let called := monitor.getCpuUsage (some now.render)
      ⟨.usage, cpu, now, [called.1]⟩ :: samplesFrom called.2 now cores rest
  | (.perCore, now) :: rest =>
      let called := monitor.getPerCoreCpuUsage (some now.render)
      ⟨.perCore, cores, now, called.1⟩ :: samplesFrom called.2 cpu now rest

/-- The calls on a new `SystemInfo`. -/
def samples (first second : Snapshot) (calls : List (CpuCall × Snapshot)) : List Sample :=
  samplesFrom (.start (some first.render) (some second.render)) first second calls

/-- No counter of working time decreases, of the aggregate or of a core that is in both. -/
structure Steady (earlier later : Snapshot) : Prop where
  cpu : earlier.cpu.WorkLe later.cpu
  cores : ∀ core old new, (core, old) ∈ earlier.cores → (core, new) ∈ later.cores → old.WorkLe new

/-- The snapshots of a run, in their order. -/
def snapshots (first second : Snapshot) (calls : List (CpuCall × Snapshot)) : List Snapshot :=
  first :: second :: calls.map Prod.snd

/-- What a call promises: percentages, and elements that each describe the change of one core,
unless the number of cores has changed and they are all zero. -/
structure Sample.Faithful (sample : Sample) : Prop where
  percentage : ∀ value ∈ sample.answer, 0 ≤ value ∧ value ≤ 100
  sameCore : sample.call = .perCore → ∀ (i : Nat) (value : ℚ), sample.answer[i]? = some value →
    (sample.before.cores.length ≠ sample.now.cores.length ∧ value = 0) ∨
      ∃ (core : Nat) (old new : Counters), sample.before.cores[i]? = some (core, old) ∧
        sample.now.cores[i]? = some (core, new) ∧ value = coreUsage old.times new.times

/-- All time counted. -/
def Counters.total (counters : Counters) : Nat :=
  counters.busy + counters.resting

/-- The aggregate has not rested less than before, unless it did not work or no time passed; and the
same cores are online, of which none has rested less than before, unless its total did not grow. -/
def Sample.Unturned (sample : Sample) : Prop :=
  match sample.call with
  | .usage =>
      sample.now.cpu.busy = sample.before.cpu.busy ∨
        sample.now.cpu.total = sample.before.cpu.total ∨
          sample.before.cpu.resting ≤ sample.now.cpu.resting
  | .perCore =>
      sample.before.cores.length ≠ sample.now.cores.length ∨
        sample.before.cores.map Prod.fst = sample.now.cores.map Prod.fst ∧
          ∀ pair ∈ sample.before.cores.zip sample.now.cores,
            pair.2.2.total ≤ pair.1.2.total ∨ pair.1.2.resting ≤ pair.2.2.resting

/-! ## When a load is a percentage -/

variable {old new : Counters}

theorem cpuUsage_mem_iff (works : old.busy ≤ new.busy) :
    0 ≤ cpuUsage old.times new.times ∧ cpuUsage old.times new.times ≤ 100 ↔
      new.busy = old.busy ∨ new.total = old.total ∨ old.resting ≤ new.resting := by
  unfold Counters.total
  by_cases same : (new.busy + new.resting : Int) - (old.busy + old.resting) = 0
  · have nothing : cpuUsage old.times new.times = 0 := if_pos same
    rw [nothing]
    exact iff_of_true ⟨le_refl 0, by norm_num⟩ (.inr (.inl (by omega)))
  · have share : cpuUsage old.times new.times =
        percent (new.busy - old.busy) (new.busy + new.resting - (old.busy + old.resting)) :=
      if_neg same
    rw [share]
    rcases lt_or_gt_of_ne same with backward | forward
    · rw [← percent_neg, percent_mem_iff (by omega)]
      omega
    · rw [percent_mem_iff forward]
      omega

theorem coreUsage_mem_iff (works : old.busy ≤ new.busy) :
    0 ≤ coreUsage old.times new.times ∧ coreUsage old.times new.times ≤ 100 ↔
      new.total ≤ old.total ∨ old.resting ≤ new.resting := by
  unfold Counters.total
  by_cases still : (new.busy + new.resting : Int) - (old.busy + old.resting) ≤ 0
  · have nothing : coreUsage old.times new.times = 0 := if_pos still
    rw [nothing]
    exact iff_of_true ⟨le_refl 0, by norm_num⟩ (.inl (by omega))
  · have share : coreUsage old.times new.times =
        percent (new.busy - old.busy) (new.busy + new.resting - (old.busy + old.resting)) :=
      if_neg still
    rw [share, percent_mem_iff (not_le.mp still)]
    omega

/-! ## One call -/

/-- The baselines after two snapshots were read. -/
def CpuMonitor.of (cpu cores : Snapshot) : CpuMonitor where
  prevCpu := cpu.cpu.times
  prevCoreCpu := cores.cores.map fun core => core.2.times

theorem start_eq (first second : Snapshot) :
    CpuMonitor.start (some first.render) (some second.render) = .of first second := by
  rw [CpuMonitor.start, readCpuTimes_render, readAllCoreTimes_render]
  rfl

/-- The loads by position. -/
def coreLoads (before now : Snapshot) : List ℚ :=
  if before.cores.length ≠ now.cores.length then List.replicate now.cores.length 0
  else List.zipWith (fun old new => coreUsage old.2.times new.2.times) before.cores now.cores

theorem getCpuUsage_of (cpu cores now : Snapshot) :
    (CpuMonitor.of cpu cores).getCpuUsage (some now.render) =
      (cpuUsage cpu.cpu.times now.cpu.times, .of now cores) := by
  rw [CpuMonitor.getCpuUsage, readCpuTimes_render]
  rfl

theorem getPerCoreCpuUsage_of (cpu cores now : Snapshot) :
    (CpuMonitor.of cpu cores).getPerCoreCpuUsage (some now.render) =
      (coreLoads cores now, .of cpu now) := by
  rw [CpuMonitor.getPerCoreCpuUsage, readAllCoreTimes_render]
  simp only [CpuMonitor.of, coreLoads, List.length_map, List.zipWith_map]
  split
  · rfl
  · rfl

theorem coreLoads_getElem? {before now : Snapshot} (same : before.cores.length = now.cores.length)
    {i : Nat} {value : ℚ} :
    (coreLoads before now)[i]? = some value ↔
      ∃ old new, before.cores[i]? = some old ∧ now.cores[i]? = some new ∧
        coreUsage old.2.times new.2.times = value := by
  rw [coreLoads, if_neg (not_not.mpr same), List.getElem?_zipWith_eq_some]

/-- A call on the aggregate. -/
theorem usage_faithful_iff {before now : Snapshot} (steady : Steady before now) :
    (Sample.mk .usage before now [cpuUsage before.cpu.times now.cpu.times]).Faithful ↔
      (Sample.mk .usage before now [cpuUsage before.cpu.times now.cpu.times]).Unturned := by
  have range := cpuUsage_mem_iff steady.cpu.busy
  constructor
  · intro faithful
    exact range.mp (faithful.percentage _ List.mem_cons_self)
  · intro unturned
    refine ⟨?_, fun impossible => by cases impossible⟩
    intro value member
    rw [List.mem_singleton.mp member]
    exact range.mpr unturned

/-- Positions with equal numbers on both sides. -/
theorem number_eq {before now : List (Nat × Counters)}
    (numbers : before.map Prod.fst = now.map Prod.fst) {i : Nat} {old new : Nat × Counters}
    (isOld : before[i]? = some old) (isNew : now[i]? = some new) : old.1 = new.1 := by
  have positions := congrArg (fun list => list[i]?) numbers
  simpa [isOld, isNew] using positions

/-- A call on the cores, with as many as before. -/
theorem perCore_faithful_iff {before now : Snapshot} (steady : Steady before now)
    (same : before.cores.length = now.cores.length) :
    (Sample.mk .perCore before now (coreLoads before now)).Faithful ↔
      (Sample.mk .perCore before now (coreLoads before now)).Unturned := by
  have range : ∀ {core : Nat} {old new : Counters} {i : Nat},
      before.cores[i]? = some (core, old) → now.cores[i]? = some (core, new) → _ :=
    fun isOld isNew => coreUsage_mem_iff (steady.cores _ _ _ (List.mem_of_getElem? isOld)
      (List.mem_of_getElem? isNew)).busy
  constructor
  · intro faithful
    have owner : ∀ {i : Nat} {old new : Nat × Counters}, before.cores[i]? = some old →
        now.cores[i]? = some new → old.1 = new.1 := by
      intro i old new isOld isNew
      have value := (coreLoads_getElem? same).mpr ⟨old, new, isOld, isNew, rfl⟩
      rcases faithful.sameCore rfl i _ value with ⟨differ, _⟩ | ⟨core, first, second, one, two, _⟩
      · exact absurd same differ
      · rw [Option.some.inj (isOld.symm.trans one), Option.some.inj (isNew.symm.trans two)]
    refine .inr ⟨List.ext_getElem? fun i => ?_, ?_⟩
    · simp only [List.getElem?_map]
      rcases Nat.lt_or_ge i before.cores.length with inside | beyond
      · have isOld := List.getElem?_eq_getElem inside
        have isNew := List.getElem?_eq_getElem (same ▸ inside)
        rw [isOld, isNew, Option.map_some, Option.map_some, owner isOld isNew]
      · rw [List.getElem?_eq_none beyond, List.getElem?_eq_none (same ▸ beyond)]
    · rintro ⟨⟨core, old⟩, ⟨other, new⟩⟩ member
      obtain ⟨i, found⟩ := List.mem_iff_getElem?.mp member
      obtain ⟨isOld, isNew⟩ := List.getElem?_zip_eq_some.mp found
      obtain rfl : core = other := owner isOld isNew
      have value := (coreLoads_getElem? same).mpr ⟨_, _, isOld, isNew, rfl⟩
      exact (range isOld isNew).mp (faithful.percentage _ (List.mem_of_getElem? value))
  · rintro (differ | ⟨numbers, rested⟩)
    · exact absurd same differ
    have single : ∀ {i : Nat} {value : ℚ}, (coreLoads before now)[i]? = some value →
        ∃ (core : Nat) (old new : Counters), before.cores[i]? = some (core, old) ∧
          now.cores[i]? = some (core, new) ∧ value = coreUsage old.times new.times := by
      intro i value isValue
      obtain ⟨⟨core, old⟩, ⟨other, new⟩, isOld, isNew, rfl⟩ := (coreLoads_getElem? same).mp isValue
      obtain rfl : core = other := number_eq numbers isOld isNew
      exact ⟨core, old, new, isOld, isNew, rfl⟩
    refine ⟨?_, fun _ i value isValue => .inr (single isValue)⟩
    intro value member
    obtain ⟨i, isValue⟩ := List.mem_iff_getElem?.mp member
    obtain ⟨core, old, new, isOld, isNew, rfl⟩ := single isValue
    have pair := List.mem_of_getElem? (List.getElem?_zip_eq_some.mpr ⟨isOld, isNew⟩ :
      (before.cores.zip now.cores)[i]? = some ((core, old), (core, new)))
    exact (range isOld isNew).mpr (rested _ pair)

/-- With another number of cores than before, all loads are zero. -/
theorem perCore_resized {before now : Snapshot}
    (differ : before.cores.length ≠ now.cores.length) :
    (Sample.mk .perCore before now (coreLoads before now)).Faithful := by
  have zeros : coreLoads before now = List.replicate now.cores.length 0 := if_pos differ
  constructor
  · intro value member
    rw [zeros] at member
    rw [List.eq_of_mem_replicate member]
    exact ⟨le_refl 0, by norm_num⟩
  · intro _ i value isValue
    rw [zeros] at isValue
    exact .inl ⟨differ, List.eq_of_mem_replicate (List.mem_of_getElem? isValue)⟩

/-! ## Whole runs -/

/-- The answer of a call from the baselines that two snapshots left. -/
def sampleOf (cpu cores : Snapshot) : CpuCall → Snapshot → Sample
  | .usage, now => ⟨.usage, cpu, now, [cpuUsage cpu.cpu.times now.cpu.times]⟩
  | .perCore, now => ⟨.perCore, cores, now, coreLoads cores now⟩

theorem sampleOf_faithful_iff {cpu cores now : Snapshot} (call : CpuCall) (first : Steady cpu now)
    (second : Steady cores now) :
    (sampleOf cpu cores call now).Faithful ↔ (sampleOf cpu cores call now).Unturned := by
  cases call with
  | usage => exact usage_faithful_iff first
  | perCore =>
      by_cases same : cores.cores.length = now.cores.length
      · exact perCore_faithful_iff second same
      · exact iff_of_true (perCore_resized same) (.inl same)

/-- Every answer of a run is the one of its two snapshots. -/
theorem samplesFrom_iff {cpu cores : Snapshot} {calls : List (CpuCall × Snapshot)}
    (first : ∀ now ∈ calls.map Prod.snd, Steady cpu now)
    (second : ∀ now ∈ calls.map Prod.snd, Steady cores now)
    (ordered : (calls.map Prod.snd).Pairwise Steady) :
    ∀ sample ∈ samplesFrom (.of cpu cores) cpu cores calls, sample.Faithful ↔ sample.Unturned := by
  induction calls generalizing cpu cores with
  | nil => exact fun _ impossible => absurd impossible List.not_mem_nil
  | cons head rest ih =>
      obtain ⟨call, now⟩ := head
      rw [List.map_cons, List.pairwise_cons] at ordered
      rw [List.map_cons, List.forall_mem_cons] at first second
      have here := sampleOf_faithful_iff call first.1 second.1
      intro sample member
      cases call with
      | usage =>
          rw [samplesFrom, getCpuUsage_of] at member
          rcases List.mem_cons.mp member with rfl | later
          · exact here
          · exact ih ordered.1 second.2 ordered.2 sample later
      | perCore =>
          rw [samplesFrom, getPerCoreCpuUsage_of] at member
          rcases List.mem_cons.mp member with rfl | later
          · exact here
          · exact ih first.2 ordered.1 ordered.2 sample later

/-- In a run whose counters of work never decrease, all answers are faithful exactly if no resting
time has gone back where it counts and every comparison of cores is one of the same cores. -/
theorem cpu_load_faithful_iff (first second : Snapshot) (calls : List (CpuCall × Snapshot))
    (steady : (snapshots first second calls).Pairwise Steady) :
    (∀ sample ∈ samples first second calls, sample.Faithful) ↔
      ∀ sample ∈ samples first second calls, sample.Unturned := by
  obtain ⟨fromFirst, later⟩ := List.pairwise_cons.mp steady
  obtain ⟨fromSecond, ordered⟩ := List.pairwise_cons.mp later
  have each := samplesFrom_iff (fun now member => fromFirst now (List.mem_cons_of_mem _ member))
    fromSecond ordered
  rw [samples, start_eq]
  exact forall₂_congr each

/-! ## Two runs that are not faithful -/

/-- Counters of a processor that has worked and idled for some time. -/
def Counters.spent (user idle : UInt32) : Counters where
  user := user.toNat
  nice := 0
  system := 0
  idle := idle.toNat
  iowait := 0
  irq := 0
  softirq := 0
  steal := 0
  guest := 0
  guestNice := 0
  fits := by
    have first := user.toNat_lt
    have second := idle.toNat_lt
    omega

/-- A machine with one counter pair for the aggregate and some cores. -/
def Snapshot.plain (cpu : Counters) (cores : List (Nat × Counters)) : Snapshot where
  cpu := cpu
  cores := cores
  others := []
  foreign := by decide

theorem spent_workLe {user more idle other : UInt32} (le : user ≤ more) :
    (Counters.spent user idle).WorkLe (.spent more other) :=
  ⟨le, le_refl 0, le_refl 0, le_refl 0, le_refl 0, le_refl 0⟩

theorem steady_plain {earlier later : UInt32} (le : earlier ≤ later) (idle other : UInt32) :
    Steady (.plain (.spent earlier idle) []) (.plain (.spent later other) []) where
  cpu := spent_workLe le
  cores := fun _ _ _ impossible => absurd impossible List.not_mem_nil

/-- A machine that works a little and rests much. -/
theorem cpu_load_faithful_iff_quiet :
    (snapshots (.plain (.spent 0 100) []) (.plain (.spent 0 100) [])
        [(.usage, .plain (.spent 10 190) [])]).Pairwise Steady ∧
      ∀ sample ∈ samples (.plain (.spent 0 100) []) (.plain (.spent 0 100) [])
        [(.usage, .plain (.spent 10 190) [])], sample.Faithful := by
  have steady : (snapshots (.plain (.spent 0 100) []) (.plain (.spent 0 100) [])
      [(.usage, .plain (.spent 10 190) [])]).Pairwise Steady := by
    simp [snapshots, steady_plain]
  refine ⟨steady, (cpu_load_faithful_iff _ _ _ steady).mpr ?_⟩
  intro sample member
  rw [samples, samplesFrom, samplesFrom] at member
  rw [List.mem_singleton.mp member]
  exact .inr (.inr (by decide))

/-- Cores that have worked and idled for some time. -/
def Snapshot.cored (cores : List (Nat × Counters)) : Snapshot :=
  .plain (.spent 0 0) cores

theorem steady_cored {earlier later : List (Nat × Counters)}
    (works : ∀ old ∈ earlier, ∀ new ∈ later, old.1 = new.1 → old.2.WorkLe new.2) :
    Steady (.cored earlier) (.cored later) where
  cpu := spent_workLe (le_refl 0)
  cores := fun _ _ _ isOld isNew => works _ isOld _ isNew rfl

/-- While ten ticks are worked the time spent idle goes back by five: the load is 200 percent.  And
when core 1 goes offline and core 2 comes online, the one is subtracted from the other. -/
theorem cpu_load_not_faithful :
    ((snapshots (.plain (.spent 0 100) []) (.plain (.spent 0 100) [])
          [(.usage, .plain (.spent 10 95) [])]).Pairwise Steady ∧
        ¬∀ sample ∈ samples (.plain (.spent 0 100) []) (.plain (.spent 0 100) [])
          [(.usage, .plain (.spent 10 95) [])], sample.Faithful) ∧
      (snapshots (.cored [(0, .spent 0 0), (1, .spent 0 90)])
          (.cored [(0, .spent 0 0), (1, .spent 0 90)])
          [(.perCore, .cored [(0, .spent 0 0), (2, .spent 20 80)])]).Pairwise Steady ∧
        ¬∀ sample ∈ samples (.cored [(0, .spent 0 0), (1, .spent 0 90)])
          (.cored [(0, .spent 0 0), (1, .spent 0 90)])
          [(.perCore, .cored [(0, .spent 0 0), (2, .spent 20 80)])], sample.Faithful := by
  refine ⟨⟨by simp [snapshots, steady_plain], ?_⟩, ?_, ?_⟩
  · intro all
    rw [samples, start_eq, samplesFrom, getCpuUsage_of, List.forall_mem_cons] at all
    have high := (all.1.percentage _ List.mem_cons_self).2
    revert high
    decide +kernel
  · have same : Steady (.cored [(0, .spent 0 0), (1, .spent 0 90)])
        (.cored [(0, .spent 0 0), (1, .spent 0 90)]) := steady_cored (by decide)
    have changed : Steady (.cored [(0, .spent 0 0), (1, .spent 0 90)])
        (.cored [(0, .spent 0 0), (2, .spent 20 80)]) := steady_cored (by decide)
    simp [snapshots, same, changed]
  · intro all
    rw [samples, start_eq, samplesFrom, getPerCoreCpuUsage_of, List.forall_mem_cons] at all
    rcases all.1.sameCore rfl 1 _ rfl with ⟨differ, _⟩ | ⟨core, old, new, isOld, isNew, _⟩
    · exact absurd rfl differ
    · have one := congrArg Prod.fst (Option.some.inj isOld)
      have two := congrArg Prod.fst (Option.some.inj isNew)
      exact absurd (one.trans two.symm) (by decide)

end TitanShare
