import Jordan.Cpufreq.BoostedFreq
import Jordan.Library.Execution
import Jordan.Library.Slots

/-! # The statistics of cpufreq

`cpufreq_stats.c` counts the time a CPU spends at each frequency. The statistics
are created from a cpufreq table: invalid entries and frequencies seen before
are left out, and one more state is reserved for the overclock module, which can
relabel the states.

`last_index` is unsigned and holds the result of a search. When the frequency at
creation is not in the table it is -1, no transition changes it afterwards, and
every update is outside of the array (`Jordan.Cpufreq.CpufreqStats.timeKept_iff`).
-/

namespace Jordan.Cpufreq

open Execution

/-- `CPUFREQ_TABLE_END` -/
def tableEnd : U32 := ~~~1

/-- The frequencies of a cpufreq table, which `CPUFREQ_TABLE_END` terminates. The
entries have 8 bytes. -/
structure CpufreqTable where
  frequencies : List U32
  terminated : tableEnd ∉ frequencies
  fits : frequencies.length < 2 ^ 29

/-- The frequencies that are not `CPUFREQ_ENTRY_INVALID`. -/
def CpufreqTable.valid (table : CpufreqTable) : List U32 :=
  table.frequencies.filter (· ≠ entryInvalid)

/-- `struct cpufreq_stats`. The arrays have `max_state` elements. -/
structure CpufreqStats where
  totalTrans : U32
  lastTime : Nat
  maxState : Nat
  stateNum : Nat
  lastIndex : U32
  timeInState : List Nat
  freqTable : List U32
deriving DecidableEq, Repr

/-- An `int` that is an index, or -1, in an `unsigned int`. -/
def unsignedIndex : Option Nat → U32
  | none => -1
  | some index => BitVec.ofNat 32 index

/-- What `cpufreq_stats_create_table` is given: whether the structure can be
allocated, whether the CPU has a policy, the result of `sysfs_create_group`, and
whether the arrays can be allocated. -/
structure CreateEnv where
  allocated : Bool
  policy : Bool
  sysfs : Option Errno
  arrays : Bool

namespace CpufreqStats

/-- `freq_table_get_index` -/
def freqTableGetIndex (stat : CpufreqStats) (freq : U32) : Option Nat :=
  Slots.find stat.freqTable freq

/-- The statistics that are created for a CPU that runs at `cur`. -/
def create (table : CpufreqTable) (cur : U32) (jiffies : Nat) : CpufreqStats :=
  let count := table.valid.length + 1
  let (used, slots) := Slots.fill 0 count table.valid
  { totalTrans := 0
    lastTime := jiffies
    maxState := count
    stateNum := used + 1
    lastIndex := unsignedIndex (Slots.find slots cur)
    timeInState := List.replicate count 0
    freqTable := slots }

/-- `cpufreq_stats_create_table` -/
def cpufreqStatsCreateTable (existing : Option CpufreqStats) (env : CreateEnv)
    (table : CpufreqTable) (cur : U32) (jiffies : Nat) : Except Errno CpufreqStats :=
  if existing.isSome then .error EBUSY
  else if env.allocated = false then .error ENOMEM
  else if env.policy = false then .error EINVAL
  else
    match env.sysfs with
    | some errno => .error errno
    | none => if env.arrays then .ok (create table cur jiffies) else .error ENOMEM

/-- `cpufreq_stats_update` -/
def cpufreqStatsUpdate (stat : CpufreqStats) (jiffies : Nat) : CpufreqStats :=
  { stat with
    timeInState := stat.timeInState.modify stat.lastIndex.toNat (· + (jiffies - stat.lastTime))
    lastTime := jiffies }

/-- `cpufreq_stat_notifier_trans`, on `CPUFREQ_POSTCHANGE`. -/
def cpufreqStatNotifierTrans (stat : CpufreqStats) (new : U32) (jiffies : Nat) : CpufreqStats :=
  let oldIndex := stat.lastIndex
  let newIndex := unsignedIndex (stat.freqTableGetIndex new)
  let updated := stat.cpufreqStatsUpdate jiffies
  if oldIndex = newIndex then updated
  else if oldIndex = -1 ∨ newIndex = -1 then updated
  else { updated with lastIndex := newIndex, totalTrans := stat.totalTrans + 1 }

/-- `cpufreq_stats_freq_update` -/
def cpufreqStatsFreqUpdate (stat : CpufreqStats) (index : Nat) (freq : U32) : CpufreqStats :=
  { stat with freqTable := stat.freqTable.set index freq }

end CpufreqStats

/-- What can happen: a notification, a read of the statistics, a relabelling. -/
inductive StatAction where
  | postchange (new : U32) (jiffies : Nat)
  | read (jiffies : Nat)
  | freqUpdate (index : Nat) (freq : U32)
deriving DecidableEq, Repr

/-- The action runs `cpufreq_stats_update`. -/
def StatAction.Updates : StatAction → Prop
  | .postchange _ _ => True
  | .read _ => True
  | .freqUpdate _ _ => False

instance : DecidablePred StatAction.Updates
  | .postchange _ _ => .isTrue trivial
  | .read _ => .isTrue trivial
  | .freqUpdate _ _ => .isFalse id

namespace CpufreqStats

/-- One action. The jiffies do not go back, and a relabelling is in range. -/
def step (stat : CpufreqStats) : StatAction → Option CpufreqStats
  | .postchange new jiffies =>
      if stat.lastTime ≤ jiffies then some (stat.cpufreqStatNotifierTrans new jiffies) else none
  | .read jiffies =>
      if stat.lastTime ≤ jiffies then some (stat.cpufreqStatsUpdate jiffies) else none
  | .freqUpdate index freq =>
      if index < stat.maxState then some (stat.cpufreqStatsFreqUpdate index freq) else none

/-- An update is in range, the states in use are among those allocated, and all
time since the creation is accounted for. -/
def TimeKept (created : Nat) (before : CpufreqStats) (action : StatAction) (after : CpufreqStats) :
    Prop :=
  (action.Updates → before.lastIndex.toNat < before.maxState) ∧
    after.stateNum ≤ after.maxState ∧ after.timeInState.sum = after.lastTime - created

instance (created : Nat) (before : CpufreqStats) (action : StatAction) (after : CpufreqStats) :
    Decidable (TimeKept created before action after) :=
  inferInstanceAs (Decidable ((_ → _) ∧ _ ∧ _))

/-- A frequency that is found in the statistics of a table: a valid one, or the 0
of the reserved state. -/
def Tracks (table : CpufreqTable) (freq : U32) : Prop := freq ∈ table.valid ∨ freq = 0

/-! ## The statistics that are created -/

section Create

variable (table : CpufreqTable) (cur : U32) (jiffies : Nat)

theorem valid_length : table.valid.length < 2 ^ 29 :=
  Nat.lt_of_le_of_lt (List.length_filter_le _ _) table.fits

theorem create_filled :
    Slots.Filled 0 (table.valid.length + 1) table.valid
      ((create table cur jiffies).stateNum - 1, (create table cur jiffies).freqTable) :=
  Slots.fill_filled 0 (Nat.lt_succ_self _)

theorem create_freqTable_length :
    (create table cur jiffies).freqTable.length = (create table cur jiffies).maxState :=
  (create_filled table cur jiffies).length (Nat.le_succ _)

/-- The frequencies that are found in new statistics. -/
theorem mem_create_freqTable {freq : U32} :
    freq ∈ (create table cur jiffies).freqTable ↔ Tracks table freq :=
  (create_filled table cur jiffies).mem_iff freq

end Create

theorem unsignedIndex_toNat {index : Nat} (small : index < 2 ^ 29) :
    (unsignedIndex (some index)).toNat = index :=
  Nat.mod_eq_of_lt (Nat.lt_trans small (by decide))

/-- A search that fails gives an index outside of every array. -/
theorem unsignedIndex_none : (unsignedIndex none).toNat = 2 ^ 32 - 1 := rfl

/-! ## The invariant -/

/-- The invariant of statistics created at a time, for a frequency that is
tracked or not. -/
structure Kept (tracked : Prop) (created : Nat) (stat : CpufreqStats) : Prop where
  freqTable : stat.freqTable.length = stat.maxState
  timeInState : stat.timeInState.length = stat.maxState
  small : stat.maxState ≤ 2 ^ 29
  stateNum : stat.stateNum ≤ stat.maxState
  since : created ≤ stat.lastTime
  total : stat.timeInState.sum = stat.lastTime - created
  inRange : tracked → stat.lastIndex.toNat < stat.maxState
  lost : ¬ tracked → stat.lastIndex = unsignedIndex none

variable {tracked : Prop} {created : Nat} {stat : CpufreqStats}

/-- The invariant holds of the statistics as they are made. -/
theorem kept_create (table : CpufreqTable) (cur : U32) (jiffies : Nat) :
    Kept (Tracks table cur) jiffies (create table cur jiffies) where
  freqTable := create_freqTable_length table cur jiffies
  timeInState := List.length_replicate
  small := valid_length table
  stateNum := Nat.succ_le_succ (create_filled table cur jiffies).used
  since := Nat.le_refl jiffies
  total := by
    show (List.replicate (table.valid.length + 1) 0).sum = jiffies - jiffies
    rw [List.sum_replicate_nat, Nat.sub_self, Nat.mul_zero]
  inRange := by
    intro tracked
    have member := (mem_create_freqTable table cur jiffies).mpr tracked
    have length := create_freqTable_length table cur jiffies
    show (unsignedIndex (Slots.find (create table cur jiffies).freqTable cur)).toNat <
      table.valid.length + 1
    cases found : Slots.find (create table cur jiffies).freqTable cur with
    | none => exact absurd member (Slots.find_eq_none_iff.mp found)
    | some index =>
        obtain ⟨inside, _⟩ := List.getElem?_eq_some_iff.mp (Slots.getElem?_of_find found)
        rw [length] at inside
        have below : index < table.valid.length + 1 := inside
        rwa [unsignedIndex_toNat (Nat.lt_of_lt_of_le below (valid_length table))]
  lost := by
    intro untracked
    have absent := mt (mem_create_freqTable table cur jiffies).mp untracked
    exact congrArg unsignedIndex (Slots.find_eq_none_iff.mpr absent)

/-- An update in range accounts for the time since the last one. -/
theorem Kept.update (kept : Kept tracked created stat) {jiffies : Nat}
    (forward : stat.lastTime ≤ jiffies) (inside : stat.lastIndex.toNat < stat.maxState) :
    Kept tracked created (stat.cpufreqStatsUpdate jiffies) where
  freqTable := kept.freqTable
  timeInState := (List.length_modify ..).trans kept.timeInState
  small := kept.small
  stateNum := kept.stateNum
  since := Nat.le_trans kept.since forward
  total := by
    have total := kept.total
    have since := kept.since
    show (stat.timeInState.modify _ _).sum = jiffies - created
    rw [Slots.sum_modify_add (kept.timeInState ▸ inside), total]
    omega
  inRange := kept.inRange
  lost := kept.lost

/-- A transition sets `last_index` to an index that is found, and only if it was one. -/
theorem cpufreqStatNotifierTrans_eq (stat : CpufreqStats) (new : U32) (jiffies : Nat) :
    stat.cpufreqStatNotifierTrans new jiffies = stat.cpufreqStatsUpdate jiffies ∨
      stat.lastIndex ≠ unsignedIndex none ∧ ∃ index, stat.freqTableGetIndex new = some index ∧
        stat.cpufreqStatNotifierTrans new jiffies =
          { stat.cpufreqStatsUpdate jiffies with
            lastIndex := unsignedIndex (some index), totalTrans := stat.totalTrans + 1 } := by
  simp only [cpufreqStatNotifierTrans]
  split
  next => exact .inl rfl
  next =>
    split
    next => exact .inl rfl
    next known =>
      obtain ⟨old, new⟩ := not_or.mp known
      cases found : stat.freqTableGetIndex _ with
      | none =>
          rw [found] at new
          exact absurd rfl new
      | some index => exact .inr ⟨old, index, rfl, rfl⟩

/-- A transition keeps the invariant, if the last index is one of the table. -/
theorem Kept.trans (kept : Kept tracked created stat) {jiffies : Nat} (new : U32)
    (forward : stat.lastTime ≤ jiffies) (inside : stat.lastIndex.toNat < stat.maxState) :
    Kept tracked created (stat.cpufreqStatNotifierTrans new jiffies) := by
  have updated := kept.update forward inside
  rcases stat.cpufreqStatNotifierTrans_eq new jiffies with same | ⟨known, index, found, moved⟩
  · rwa [same]
  · rw [moved]
    refine { updated with inRange := fun _ => ?_, lost := fun untracked => ?_ }
    · obtain ⟨below, _⟩ := List.getElem?_eq_some_iff.mp (Slots.getElem?_of_find found)
      rw [kept.freqTable] at below
      rwa [unsignedIndex_toNat (Nat.lt_of_lt_of_le below kept.small)]
    · exact absurd (kept.lost untracked) known

theorem Kept.freqUpdate (kept : Kept tracked created stat) (index : Nat) (freq : U32) :
    Kept tracked created (stat.cpufreqStatsFreqUpdate index freq) :=
  { kept with freqTable := List.length_set.trans kept.freqTable }

/-- One step keeps the invariant, and all time since the creation stays accounted for. -/
theorem Kept.step (kept : Kept tracked created stat) {action : StatAction} {after : CpufreqStats}
    (tracks : action.Updates → tracked) (taken : stat.step action = some after) :
    Kept tracked created after ∧ TimeKept created stat action after := by
  have lawful : Kept tracked created after → TimeKept created stat action after := fun still =>
    ⟨fun updates => kept.inRange (tracks updates), still.stateNum, still.total⟩
  have still : Kept tracked created after := by
    cases action with
    | postchange new jiffies =>
        obtain ⟨forward, ⟨⟩⟩ := Option.ite_none_right_eq_some.mp taken
        exact kept.trans new forward (kept.inRange (tracks trivial))
    | read jiffies =>
        obtain ⟨forward, ⟨⟩⟩ := Option.ite_none_right_eq_some.mp taken
        exact kept.update forward (kept.inRange (tracks trivial))
    | freqUpdate index freq =>
        obtain ⟨_, ⟨⟩⟩ := Option.ite_none_right_eq_some.mp taken
        exact kept.freqUpdate index freq
  exact ⟨still, lawful still⟩

/-- An update that is in range tracks the frequency at creation. -/
theorem Kept.tracked_of_inRange (kept : Kept tracked created stat)
    (inside : stat.lastIndex.toNat < stat.maxState) : tracked := by
  by_contra untracked
  rw [kept.lost untracked, unsignedIndex_none] at inside
  have small := kept.small
  omega

/-- Where the creation succeeds, it has made the statistics from the table. -/
theorem eq_create_of_ok {existing : Option CpufreqStats} {env : CreateEnv} {table : CpufreqTable}
    {cur : U32} {jiffies : Nat}
    (created : cpufreqStatsCreateTable existing env table cur jiffies = .ok stat) :
    stat = create table cur jiffies := by
  unfold cpufreqStatsCreateTable at created
  split at created
  · cases created
  split at created
  · cases created
  split at created
  · cases created
  split at created
  · cases created
  split at created
  · exact (Except.ok.inj created).symm
  · cases created

/-- **All time is accounted for** along a run exactly when the frequency at the
creation is found in the statistics, or no step updates them. -/
theorem timeKept_iff {existing : Option CpufreqStats} {env : CreateEnv} {table : CpufreqTable}
    {cur : U32} {jiffies : Nat} {stat : CpufreqStats}
    (created : cpufreqStatsCreateTable existing env table cur jiffies = .ok stat)
    (actions : List StatAction) :
    Along step (TimeKept jiffies) stat actions ↔
      Guarded step (fun _ action => action.Updates → Tracks table cur) stat actions := by
  obtain rfl := eq_create_of_ok created
  apply along_iff (Kept (Tracks table cur) jiffies)
  · intro before action after kept tracks taken
    exact kept.step tracks taken
  · intro before action after kept _ timeKept updates
    exact kept.tracked_of_inRange (timeKept.1 updates)
  · exact kept_create table cur jiffies

/-- A table with an invalid entry and a duplicate. -/
def gappyTable : CpufreqTable where
  frequencies := [1000000, entryInvalid, 600000, 1000000, 300000]
  terminated := by decide
  fits := by decide

/-- Nothing fails. -/
def fineEnv : CreateEnv := ⟨true, true, none, true⟩

/-- A transition, a relabelling, a transition to the new frequency, a read. -/
def relabelled : List StatAction :=
  [.postchange 600000 110, .freqUpdate 0 1200000, .postchange 1200000 130, .postchange 1000000 140,
    .read 150]

theorem relabelled_timeKept :
    Along step (TimeKept 100) (create gappyTable 300000 100) relabelled := by
  have created : cpufreqStatsCreateTable none fineEnv gappyTable 300000 100 =
      .ok (create gappyTable 300000 100) := rfl
  have tracks : Tracks gappyTable 300000 := .inl (by decide)
  refine (timeKept_iff created relabelled).mpr ?_
  apply along_of_forall
  intro _ _ _ _ _
  exact tracks

/-- At 550 MHz, which is not in the table, the first read is out of range. -/
theorem unknownFrequency_outOfRange :
    cpufreqStatsCreateTable none fineEnv gappyTable 550000 100 =
        .ok (create gappyTable 550000 100) ∧
      ¬ Along step (TimeKept 100) (create gappyTable 550000 100) [.read 110] := by
  refine ⟨rfl, ?_⟩
  decide

end CpufreqStats

end Jordan.Cpufreq
