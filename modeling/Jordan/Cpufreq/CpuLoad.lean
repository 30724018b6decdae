import Jordan.Cpufreq.BoostedInfo
import Jordan.Library.Words

/-! # The sampled CPU load

Both governors compute the load of a sample as `100 * busy / time`, where the
64-bit differences are narrowed to 32 bits before the multiplication and the
division. The result is the exact percentage as long as nothing that matters is
lost. For less than 2^32 microseconds this means that 100 times the busy time is
below 2^32, which it is for the first 42 seconds; beyond it, the low words have to
agree with the quotient by chance (`Jordan.Cpufreq.cpuLoad_exact_iff`).

`cpufreq_smartass_timer` computes two loads. The time since the last change of the
frequency is not bounded from below when it is divided by.
-/

namespace Jordan.Cpufreq

/-! ## The load of one sample -/

/-- The division of a sample is carried out, and its divisor is 0. -/
def DividesByZero (deltaIdle deltaTime : U64) : Prop :=
  ¬ deltaTime < deltaIdle ∧ deltaTime.setWidth 32 = 0#32

/-- A division by zero occurs when the time is a multiple of 2^32 microseconds: also
when no time has passed. -/
theorem dividesByZero_iff {deltaIdle deltaTime : U64} :
    DividesByZero deltaIdle deltaTime ↔
      deltaIdle ≤ deltaTime ∧ deltaTime.toNat % 2 ^ 32 = 0 := by
  rw [DividesByZero, BitVec.not_lt, ← BitVec.toNat_inj, BitVec.toNat_setWidth, BitVec.toNat_zero]

/-- A reading is not behind another one. -/
structure IdleReading.Follows (now before : IdleReading) : Prop where
  idle : before.idle ≤ now.idle
  wall : before.wall ≤ now.wall

/-- The load of a sample, in percent. -/
def exactLoad (deltaIdle deltaTime : Nat) : Nat :=
  if deltaTime < deltaIdle then 0 else 100 * (deltaTime - deltaIdle) / deltaTime

/-- Between the two readings no division by zero occurs, and the load computed is
the exact one. -/
def LoadExact (before now : IdleReading) (load : U32) : Prop :=
  ¬ DividesByZero (now.idle - before.idle) (now.wall - before.wall) ∧
    load.toNat = exactLoad (now.idle.toNat - before.idle.toNat)
      (now.wall.toNat - before.wall.toNat) ∧ load.toNat ≤ 100

/-- Of the exact quotient and remainder of 100 times the busy time by the time, the
low words are a quotient and a remainder by the low word of the time, and make up
32 bits. -/
def LoadFits (deltaIdle deltaTime : Nat) : Prop :=
  deltaTime < deltaIdle ∨
    100 * (deltaTime - deltaIdle) % deltaTime % 2 ^ 32 < deltaTime % 2 ^ 32 ∧
      100 * (deltaTime - deltaIdle) / deltaTime * (deltaTime % 2 ^ 32) +
        100 * (deltaTime - deltaIdle) % deltaTime % 2 ^ 32 < 2 ^ 32

instance (deltaIdle deltaTime : Nat) : Decidable (LoadFits deltaIdle deltaTime) :=
  inferInstanceAs (Decidable (_ ∨ _ ∧ _))

theorem exactLoad_le (deltaIdle deltaTime : Nat) : exactLoad deltaIdle deltaTime ≤ 100 := by
  unfold exactLoad
  split
  · exact Nat.zero_le _
  · exact Nat.div_le_of_le_mul (by
      rw [Nat.mul_comm deltaTime]
      exact Nat.mul_le_mul_left 100 (Nat.sub_le ..))

/-- In less than 2^32 microseconds it is enough that the product fits. -/
theorem loadFits_iff_of_lt {deltaIdle deltaTime : Nat} (short : deltaTime < 2 ^ 32) :
    LoadFits deltaIdle deltaTime ↔
      deltaTime < deltaIdle ∨ 0 < deltaTime ∧ 100 * (deltaTime - deltaIdle) < 2 ^ 32 := by
  unfold LoadFits
  refine or_congr_right ?_
  rw [Nat.mod_eq_of_lt short]
  rcases Nat.eq_zero_or_pos deltaTime with rfl | positive
  · exact iff_of_false (fun fits => Nat.not_lt_zero _ fits.1) fun fits => Nat.lt_irrefl 0 fits.1
  · have rest := Nat.mod_lt (100 * (deltaTime - deltaIdle)) positive
    rw [Nat.mod_eq_of_lt (rest.trans short), Nat.div_add_mod']
    exact ⟨fun fits => ⟨positive, fits.2⟩, fun fits => ⟨rest, fits.2⟩⟩

namespace BoostedInfo

theorem toNat_cpuLoad {deltaIdle deltaTime : U64} (ordered : ¬ deltaTime < deltaIdle) :
    (cpuLoad deltaIdle deltaTime).toNat =
      100 * (deltaTime.toNat - deltaIdle.toNat) % 2 ^ 32 / (deltaTime.toNat % 2 ^ 32) := by
  have below : deltaIdle ≤ deltaTime := BitVec.not_lt.mp ordered
  rw [cpuLoad, if_neg ordered, BitVec.toNat_udiv, BitVec.toNat_mul, BitVec.toNat_setWidth,
    BitVec.toNat_setWidth, BitVec.toNat_sub_of_le below]
  exact congrArg (· / _) (Nat.mul_mod_mod ..)

/-- The load between two readings is exact exactly when it fits. -/
theorem loadExact_cpuLoad_iff {before now : IdleReading} (follows : now.Follows before) :
    LoadExact before now (cpuLoad (now.idle - before.idle) (now.wall - before.wall)) ↔
      LoadFits (now.idle.toNat - before.idle.toNat) (now.wall.toNat - before.wall.toNat) := by
  have atMost := exactLoad_le (now.idle.toNat - before.idle.toNat)
    (now.wall.toNat - before.wall.toNat)
  unfold LoadExact
  rw [← BitVec.toNat_sub_of_le follows.idle, ← BitVec.toNat_sub_of_le follows.wall] at atMost ⊢
  generalize now.idle - before.idle = deltaIdle at atMost ⊢
  generalize now.wall - before.wall = deltaTime at atMost ⊢
  by_cases idle : deltaTime < deltaIdle
  · have idleNat := BitVec.lt_def.mp idle
    refine iff_of_true ⟨fun zero => zero.1 idle, ?_, ?_⟩ (.inl idleNat)
    · rw [cpuLoad, if_pos idle, exactLoad, if_pos idleNat]
      rfl
    · rw [cpuLoad, if_pos idle]
      exact Nat.zero_le _
  · have idleNat : ¬ deltaTime.toNat < deltaIdle.toNat := mt BitVec.lt_def.mpr idle
    have narrowed := Words.narrowed_div_iff (100 * (deltaTime.toNat - deltaIdle.toNat))
      deltaTime.toNat (2 ^ 32) (by decide)
    rw [exactLoad, if_neg idleNat] at atMost
    rw [dividesByZero_iff, LoadFits, toNat_cpuLoad idle, exactLoad, if_neg idleNat, ← narrowed]
    constructor
    · rintro ⟨divides, same, _⟩
      exact .inr ⟨fun zero => divides ⟨BitVec.not_lt.mp idle, zero⟩, same⟩
    · rintro (absurd | ⟨divides, same⟩)
      · exact (idleNat absurd).elim
      · exact ⟨fun zero => divides zero.2, same, same.trans_le atMost⟩

/-! ## The timer of the boosted governor -/

variable (info : BoostedInfo)

/-- The baseline of the sample. -/
def sampleBase : IdleReading := ⟨info.timeInIdle, info.idleExitTime⟩

/-- The timer function does not return early. -/
structure Samples (reading : CpuReading) : Prop where
  started : info.idleExitTime ≠ 0
  elapsed : reading.sample.wall ≠ info.idleExitTime
  interval : ¬ reading.sample.wall - info.idleExitTime < 1000

theorem timerFunction_curCpuLoad {info : BoostedInfo} {reading : CpuReading}
    (samples : info.Samples reading) (tunables : Tunables) (env : KernelEnv)
    (policy : CpufreqPolicy) :
    (info.timerFunction tunables env policy reading).1.curCpuLoad =
      cpuLoad (reading.sample.idle - info.timeInIdle)
        (reading.sample.wall - info.idleExitTime) := by
  simp only [timerFunction]
  rw [if_neg fun early => early.elim samples.started samples.elapsed, if_neg samples.interval]
  split_ifs <;> rfl

end BoostedInfo

/-! ## The timer of the smartass governor -/

/-- The fields of `struct smartass_info_s` that the timer reads and writes. -/
structure SmartassInfo where
  timer : Option Nat
  timeInIdle : U64
  idleExitTime : U64
  freqChangeTime : U64
  freqChangeTimeInIdle : U64
  curCpuLoad : U32
  forceRampUp : Bool
  maxSpeed : U32

/-- The tunables that the timer reads. -/
structure SmartassTunables where
  downRateUs : U32
  sampleRateJiffies : U32
  maxCpuLoad : U32

/-- The queue that the work item is put on. -/
inductive SmartassQueue where
  | up
  | down
deriving DecidableEq, Repr

namespace SmartassInfo

/-- `reset_timer` -/
def resetTimer (info : SmartassInfo) (tunables : SmartassTunables) (env : KernelEnv)
    (reading : IdleReading) : SmartassInfo :=
  { info with
    timeInIdle := reading.idle
    idleExitTime := reading.wall
    timer := some (env.jiffies + tunables.sampleRateJiffies.toNat) }

/-- `load_since_change` -/
def loadSinceChange (info : SmartassInfo) (reading : CpuReading) : U32 :=
  BoostedInfo.cpuLoad (reading.sample.idle - info.freqChangeTimeInIdle)
    (reading.sample.wall - info.freqChangeTime)

/-- `cpu_load`, as it is computed first. -/
def shortTermLoad (info : SmartassInfo) (reading : CpuReading) : U32 :=
  BoostedInfo.cpuLoad (reading.sample.idle - info.timeInIdle)
    (reading.sample.wall - info.idleExitTime)

/-- The greater of the two loads, which are compared as `int`. -/
def greaterLoad (info : SmartassInfo) (reading : CpuReading) : U32 :=
  if (info.shortTermLoad reading).slt (info.loadSinceChange reading) then
    info.loadSinceChange reading
  else info.shortTermLoad reading

/-- `cpufreq_smartass_timer`, after the expired timer was taken off: the new data,
and the queue that the work is put on. -/
def timerFunction (info : SmartassInfo) (tunables : SmartassTunables) (env : KernelEnv)
    (policy : CpufreqPolicy) (reading : CpuReading) : SmartassInfo × Option SmartassQueue :=
  let updateTime := reading.sample.wall
  if info.idleExitTime = 0 ∨ updateTime = info.idleExitTime then (info, none)
  else
    let deltaIdle := reading.sample.idle - info.timeInIdle
    let deltaTime := updateTime - info.idleExitTime
    -- less than 1ms after the short-term sample started: retry
    if deltaTime < 1000 then
      (if info.timer.isSome then info else info.resetTimer tunables env reading.reset, none)
    else
      let load := info.greaterLoad reading
      let sampled := { info with curCpuLoad := load }
      if tunables.maxCpuLoad < load ∨ deltaIdle = 0 then
        if policy.cur = policy.max then (sampled, none)
        else if env.nrRunning < 1 then (sampled, none)
        else ({ sampled with forceRampUp := true }, some .up)
      else
        let rearmed :=
          if policy.cur < info.maxSpeed ∧ info.timer = none ∧ 0 < env.nrRunning then
            sampled.resetTimer tunables env reading.reset
          else sampled
        if policy.cur = policy.min then (rearmed, none)
        -- not at this frequency for the minimum sample time
        else if updateTime - info.freqChangeTime < tunables.downRateUs.setWidth 64 then
          (rearmed, none)
        else (rearmed, some .down)

variable (info : SmartassInfo)

/-- The baseline of the short-term load. -/
def sampleBase : IdleReading := ⟨info.timeInIdle, info.idleExitTime⟩

/-- The baseline of the load since the last change. -/
def changeBase : IdleReading := ⟨info.freqChangeTimeInIdle, info.freqChangeTime⟩

/-- The timer function gets to the first division. -/
structure Divides (reading : CpuReading) : Prop where
  started : info.idleExitTime ≠ 0
  elapsed : reading.sample.wall ≠ info.idleExitTime

/-- The timer function does not return early. -/
structure Samples (reading : CpuReading) : Prop extends info.Divides reading where
  interval : ¬ reading.sample.wall - info.idleExitTime < 1000

variable {info}

theorem timerFunction_curCpuLoad {reading : CpuReading} (samples : info.Samples reading)
    (tunables : SmartassTunables) (env : KernelEnv) (policy : CpufreqPolicy) :
    (info.timerFunction tunables env policy reading).1.curCpuLoad = info.greaterLoad reading := by
  simp only [timerFunction]
  rw [if_neg fun early => early.elim samples.started samples.elapsed, if_neg samples.interval]
  split_ifs <;> rfl

/-- The load that is kept is the greater of the two exact loads. -/
theorem greaterLoad_of_exact {reading : CpuReading} {before since : IdleReading}
    (short : LoadExact before reading.sample (info.shortTermLoad reading))
    (long : LoadExact since reading.sample (info.loadSinceChange reading)) :
    (info.greaterLoad reading).toNat =
      max (info.shortTermLoad reading).toNat (info.loadSinceChange reading).toNat := by
  have shortLe := short.2.2
  have longLe := long.2.2
  unfold greaterLoad
  split_ifs with greater
  · have below := (Words.slt_iff_lt (by decide) (by omega) (by omega)).mp greater
    exact (Nat.max_eq_right (Nat.le_of_lt below)).symm
  · have notBelow := mt (Words.slt_iff_lt (by decide) (by omega) (by omega)).mpr greater
    exact (Nat.max_eq_left (Nat.not_lt.mp notBelow)).symm

end SmartassInfo

/-- **The sampled loads are exact exactly when they fit**: the load of the boosted
governor, the load since the last change of the smartass governor, for which it
divides before it looks at the interval, and its short-term load; it keeps the
greater of the two. -/
theorem cpuLoad_exact_iff {boosted : BoostedInfo} {smartass : SmartassInfo}
    {reading other : CpuReading} (boostedFollows : reading.sample.Follows boosted.sampleBase)
    (sampleFollows : other.sample.Follows smartass.sampleBase)
    (changeFollows : other.sample.Follows smartass.changeBase) :
    (boosted.Samples reading → ∀ tunables env policy,
        (LoadExact boosted.sampleBase reading.sample
            (boosted.timerFunction tunables env policy reading).1.curCpuLoad ↔
          LoadFits (reading.sample.idle.toNat - boosted.timeInIdle.toNat)
            (reading.sample.wall.toNat - boosted.idleExitTime.toNat))) ∧
      (smartass.Divides other →
        (LoadExact smartass.changeBase other.sample (smartass.loadSinceChange other) ↔
          LoadFits (other.sample.idle.toNat - smartass.freqChangeTimeInIdle.toNat)
            (other.sample.wall.toNat - smartass.freqChangeTime.toNat))) ∧
      (smartass.Samples other →
        (LoadExact smartass.sampleBase other.sample (smartass.shortTermLoad other) ↔
          LoadFits (other.sample.idle.toNat - smartass.timeInIdle.toNat)
            (other.sample.wall.toNat - smartass.idleExitTime.toNat)) ∧
        (LoadExact smartass.sampleBase other.sample (smartass.shortTermLoad other) →
          LoadExact smartass.changeBase other.sample (smartass.loadSinceChange other) →
            ∀ tunables env policy,
              (smartass.timerFunction tunables env policy other).1.curCpuLoad.toNat =
                max (smartass.shortTermLoad other).toNat
                  (smartass.loadSinceChange other).toNat)) := by
  refine ⟨fun samples tunables env policy => ?_, fun _ => ?_, fun samples =>
    ⟨?_, fun short long tunables env policy => ?_⟩⟩
  · rw [BoostedInfo.timerFunction_curCpuLoad samples]
    exact BoostedInfo.loadExact_cpuLoad_iff boostedFollows
  · exact BoostedInfo.loadExact_cpuLoad_iff changeFollows
  · exact BoostedInfo.loadExact_cpuLoad_iff sampleFollows
  · rw [SmartassInfo.timerFunction_curCpuLoad samples]
    exact SmartassInfo.greaterLoad_of_exact short long

/-- A CPU whose readings started one second after the boot. -/
def BoostedInfo.bootSample : BoostedInfo := { BoostedInfo.init with idleExitTime := 1000000 }

/-- The same with the frequency unchanged since the boot. -/
def SmartassInfo.bootSample : SmartassInfo := ⟨none, 0, 1000000, 0, 0, 0, false, 1200000⟩

/-- A reading with the time that was idle. -/
def readingAt (idle wall : U64) : CpuReading := ⟨⟨idle, wall⟩, ⟨idle, wall⟩⟩

/-- After 20ms with 5ms idle the load is 75. -/
theorem bootSample_exact :
    (BoostedInfo.bootSample.timerFunction .default ⟨0, 1, Request.target⟩
        ⟨300000, 1000000, 300000⟩ (readingAt 5000 1020000)).1.curCpuLoad = 75 ∧
      LoadFits 5000 20000 ∧
      (LoadExact BoostedInfo.bootSample.sampleBase (readingAt 5000 1020000).sample
          (BoostedInfo.bootSample.timerFunction .default ⟨0, 1, Request.target⟩
            ⟨300000, 1000000, 300000⟩ (readingAt 5000 1020000)).1.curCpuLoad ↔
        LoadFits ((5000 : U64).toNat - (0 : U64).toNat)
          ((1020000 : U64).toNat - (1000000 : U64).toNat)) := by
  have boosted : (readingAt 5000 1020000).sample.Follows BoostedInfo.bootSample.sampleBase :=
    ⟨by decide, by decide⟩
  have sample : (readingAt 5000 1020000).sample.Follows SmartassInfo.bootSample.sampleBase :=
    ⟨by decide, by decide⟩
  have change : (readingAt 5000 1020000).sample.Follows SmartassInfo.bootSample.changeBase :=
    ⟨by decide, by decide⟩
  have samples : BoostedInfo.bootSample.Samples (readingAt 5000 1020000) :=
    ⟨by decide, by decide, by decide⟩
  exact ⟨by decide, (loadFits_iff_of_lt (by decide)).mpr (.inr (by decide)),
    (cpuLoad_exact_iff boosted sample change).1 samples _ _ _⟩

/-- After 50 busy seconds the load of the boosted governor is 14 instead of 100. -/
theorem busySample_wraps :
    ¬ ∀ (info : BoostedInfo) (reading : CpuReading) (tunables : Tunables) (env : KernelEnv)
      (policy : CpufreqPolicy), reading.sample.Follows info.sampleBase → info.Samples reading →
        LoadExact info.sampleBase reading.sample
          (info.timerFunction tunables env policy reading).1.curCpuLoad := by
  intro always
  have busy := always BoostedInfo.bootSample (readingAt 0 51000000) .default
    ⟨0, 1, Request.target⟩ ⟨300000, 1000000, 300000⟩ ⟨by decide, by decide⟩
    ⟨by decide, by decide, by decide⟩
  exact absurd busy.2.1 (by decide)

end Jordan.Cpufreq
