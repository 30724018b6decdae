import Jordan.Cpufreq.Smartass

/-! # The ramp down of the smartass governor

When the load is below `min_cpu_load`, the work item scales the frequency by the
load, to which it adds `100 - max_cpu_load`, and lets the frequency drop by
`max_ramp_down` at most. Scaling never raises the frequency. The lower bound is an
unsigned difference: a `max_ramp_down` above the frequency makes it wrap, and the
CPU is ramped up to `max_speed`
(`Jordan.Cpufreq.SmartassCpu.ramp_down_bounded_iff`).
-/

namespace Jordan.Cpufreq

/-! ## The tunables -/

/-- The two loads, as their store functions accept them. -/
structure SmartassLoads where
  maxCpuLoad : U32
  minCpuLoad : U32
  maxAccepted : 0 < maxCpuLoad ∧ maxCpuLoad ≤ 100
  minAccepted : 0 < minCpuLoad ∧ minCpuLoad < 100

/-- The tunables that the work item reads. -/
structure SmartassRampTunables extends SmartassLoads where
  upMinFreq : U32
  rampUpStep : U32
  maxRampDown : U32

namespace SmartassRampTunables

/-- The values that `cpufreq_smartass_init` sets. -/
def default : SmartassRampTunables where
  maxCpuLoad := 80
  minCpuLoad := 20
  maxAccepted := by decide
  minAccepted := by decide
  upMinFreq := 1200000
  rampUpStep := 250000
  maxRampDown := 0

/-- `store_max_ramp_down`, on a number that `strict_strtoul` accepts. -/
def storeMaxRampDown (tunables : SmartassRampTunables) (input : U32) : SmartassRampTunables :=
  { tunables with maxRampDown := input }

/-- `store_max_cpu_load` -/
def storeMaxCpuLoad (tunables : SmartassRampTunables) (input : U32) : SmartassRampTunables :=
  if accepted : 0 < input ∧ input ≤ 100 then
    { tunables with maxCpuLoad := input, maxAccepted := accepted }
  else tunables

/-- `store_min_cpu_load` -/
def storeMinCpuLoad (tunables : SmartassRampTunables) (input : U32) : SmartassRampTunables :=
  if accepted : 0 < input ∧ input < 100 then
    { tunables with minCpuLoad := input, minAccepted := accepted }
  else tunables

end SmartassRampTunables

/-! ## The work item -/

/-- The data of a CPU that the work item reads and writes. -/
structure SmartassCpu extends Smartass where
  curCpuLoad : U32
  forceRampUp : Bool
  freqChangeTime : U64
  freqChangeTimeInIdle : U64

namespace SmartassCpu

variable (cpu : SmartassCpu) (tunables : SmartassRampTunables) (env : KernelEnv)

/-- The local `force_ramp_up` -/
def forced : Bool := cpu.forceRampUp && decide (1 < env.nrRunning)

/-- The frequency that the branches choose. The loads are compared as
`unsigned long`. -/
def rampFreq (policy : CpufreqPolicy) : U32 :=
  if cpu.forced env ∨ tunables.maxCpuLoad < cpu.curCpuLoad then
    if cpu.forced env ∧ tunables.upMinFreq ≠ 0 then tunables.upMinFreq
    else if tunables.rampUpStep ≠ 0 then policy.cur + tunables.rampUpStep
    else cpu.maxSpeed
  else if cpu.curCpuLoad < tunables.minCpuLoad then
    -- dummy load
    let cpuLoad := cpu.curCpuLoad + (100 - tunables.maxCpuLoad)
    let newFreq := policy.cur * cpuLoad / 100
    if tunables.maxRampDown ≠ 0 ∧ newFreq < policy.cur - tunables.maxRampDown then
      policy.cur - tunables.maxRampDown
    else newFreq
  else policy.cur

/-- One turn of the loop of `cpufreq_smartass_freq_change_time_work`: the new data,
and the call of `__cpufreq_driver_target`. The loop carries nothing from one CPU to
the next. -/
def freqChangeTimeWork (reading : CpuReading) : Option (SmartassCpu × Request) :=
  cpu.curPolicy.map fun policy =>
    let newFreq := cpu.validateFreq (cpu.rampFreq tunables env policy)
    let request : Request := ⟨newFreq, .L, policy⟩
    ({ cpu with
        curPolicy := some (policy.driven env (some request))
        forceRampUp := false
        freqChangeTime := reading.sample.wall
        freqChangeTimeInIdle := reading.sample.idle }, request)

/-- The branch of a ramp down is taken. -/
structure RampsDown : Prop where
  unforced : ¬ cpu.forced env
  notAbove : ¬ tunables.maxCpuLoad < cpu.curCpuLoad
  below : cpu.curCpuLoad < tunables.minCpuLoad

/-- The frequency is not raised, and lowered by `max_ramp_down` at most. -/
def DropBounded (policy : CpufreqPolicy) (target : U32) : Prop :=
  target ≤ policy.cur ∧
    (tunables.maxRampDown ≠ 0 →
      (policy.cur.toNat : Int) - tunables.maxRampDown.toNat ≤ target.toNat)

variable {cpu tunables env}

/-- A turn is a step of the machine that keeps the speeds. -/
theorem freqChangeTimeWork_step {reading : CpuReading} {after : SmartassCpu} {request : Request}
    (served : cpu.freqChangeTimeWork tunables env reading = some (after, request)) :
    cpu.toSmartass.step env.drive (.work (env.drive request)) = some after.toSmartass := by
  obtain ⟨policy, current, same⟩ := Option.map_eq_some_iff.mp served
  obtain ⟨rfl, rfl⟩ := Prod.mk.inj same
  simp only [Smartass.step, current, Option.map_some]
  rfl

/-- The dummy load makes at most the whole load of it. -/
theorem toNat_dummyLoad (notAbove : ¬ tunables.maxCpuLoad < cpu.curCpuLoad) :
    (cpu.curCpuLoad + (100 - tunables.maxCpuLoad)).toNat ≤ 100 := by
  have accepted := tunables.maxAccepted
  bv_omega

/-- Scaling does not raise the frequency, even where the product wraps. -/
theorem toNat_scaled_le {load : U32} (part : load.toNat ≤ 100) (cur : U32) :
    (cur * load / 100).toNat ≤ cur.toNat := by
  rw [BitVec.toNat_udiv, BitVec.toNat_mul]
  refine Nat.div_le_of_le_mul ?_
  calc cur.toNat * load.toNat % 2 ^ 32
      ≤ cur.toNat * load.toNat := Nat.mod_le ..
    _ ≤ cur.toNat * 100 := Nat.mul_le_mul_left _ part
    _ = (100 : U32).toNat * cur.toNat := Nat.mul_comm ..

theorem rampFreq_down (policy : CpufreqPolicy) (down : cpu.RampsDown tunables env) :
    ∃ scaled ≤ policy.cur, cpu.rampFreq tunables env policy =
      if tunables.maxRampDown ≠ 0 ∧ scaled < policy.cur - tunables.maxRampDown then
        policy.cur - tunables.maxRampDown
      else scaled := by
  refine ⟨_, toNat_scaled_le (toNat_dummyLoad down.notAbove) policy.cur, ?_⟩
  rw [rampFreq, if_neg (not_or.mpr ⟨down.unforced, down.notAbove⟩), if_pos down.below]

/-- The frequency after the limit of the drop: between the two bounds, or wrapped. -/
theorem limited_drop {cur scaled step : U32} (scaledLe : scaled ≤ cur) (freq : U32)
    (limited : freq = if step ≠ 0 ∧ scaled < cur - step then cur - step else scaled) :
    (step ≤ cur → freq ≤ cur ∧ (step ≠ 0 → cur - step ≤ freq)) ∧ (cur < step → cur < freq) := by
  constructor
  · intro fits
    split_ifs at limited with drops <;> bv_omega
  · intro wraps
    have above : cur < cur - step := by bv_omega
    rw [if_pos ⟨by bv_omega, by bv_omega⟩] at limited
    exact limited ▸ above

/-- `validate_freq` does not move a frequency across one within the speeds. -/
theorem validateFreq_le_iff {s : Smartass} {cur : U32}
    (within : s.minSpeed ≤ cur ∧ cur ≤ s.maxSpeed) (freq : U32) :
    s.validateFreq freq ≤ cur ↔ freq ≤ cur ∨ cur = s.maxSpeed := by
  unfold Smartass.validateFreq
  split_ifs <;> bv_omega

theorem le_validateFreq {s : Smartass} {bound freq : U32} (within : bound ≤ s.maxSpeed)
    (le : bound ≤ freq) : bound ≤ s.validateFreq freq := by
  unfold Smartass.validateFreq
  split_ifs <;> bv_omega

/-- **A ramp down is bounded exactly when its step does not exceed the frequency**, or
the frequency is the greatest there is. -/
theorem ramp_down_bounded_iff {reading : CpuReading} {after : SmartassCpu} {request : Request}
    (served : cpu.freqChangeTimeWork tunables env reading = some (after, request))
    (down : cpu.RampsDown tunables env)
    (within : cpu.minSpeed ≤ request.policy.cur ∧ request.policy.cur ≤ cpu.maxSpeed) :
    DropBounded tunables request.policy request.target ↔
      tunables.maxRampDown ≤ request.policy.cur ∨ request.policy.cur = cpu.maxSpeed := by
  obtain ⟨policy, current, same⟩ := Option.map_eq_some_iff.mp served
  obtain ⟨rfl, rfl⟩ := Prod.mk.inj same
  obtain ⟨scaled, scaledLe, freq⟩ := rampFreq_down policy down
  obtain ⟨fitting, wrapping⟩ := limited_drop scaledLe _ freq
  simp only [DropBounded, validateFreq_le_iff within]
  by_cases fits : tunables.maxRampDown ≤ policy.cur
  · obtain ⟨notRaised, limited⟩ := fitting fits
    refine iff_of_true ⟨.inl notRaised, fun step => ?_⟩ (.inl fits)
    have bound : policy.cur - tunables.maxRampDown ≤ cpu.maxSpeed := by bv_omega
    have kept := le_validateFreq bound (limited step)
    rw [BitVec.le_def, BitVec.toNat_sub_of_le fits] at kept
    omega
  · have raised := wrapping (BitVec.not_le.mp fits)
    simp only [fits, BitVec.not_le.mpr raised, false_or, and_iff_left_iff_imp]
    intro top step
    bv_omega

/-- A CPU at 1 GHz under a load of 10. -/
def rampingDown : SmartassCpu :=
  { Smartass.init with
    curPolicy := some ⟨300000, 1200000, 1000000⟩
    enable := true
    minSpeed := 300000
    maxSpeed := 1200000
    curCpuLoad := 10
    forceRampUp := false
    freqChangeTime := 0
    freqChangeTimeInIdle := 0 }

/-- Its turn with a `max_ramp_down`. -/
def rampingDownBy (step : U32) : Option (SmartassCpu × Request) :=
  rampingDown.freqChangeTimeWork (.storeMaxRampDown .default step) ⟨0, 1, Request.target⟩
    ⟨⟨0, 1000⟩, ⟨0, 1000⟩⟩

/-- The drop from 1 GHz to 300 MHz is limited to 200 MHz. -/
theorem rampingDown_limited :
    ∃ after request, rampingDownBy 200000 = some (after, request) ∧ request.target = 800000 ∧
      (DropBounded (.storeMaxRampDown .default 200000) request.policy request.target ↔
        (200000 : U32) ≤ request.policy.cur ∨ request.policy.cur = rampingDown.maxSpeed) := by
  have served : rampingDownBy 200000 = some _ := (Option.some_get (by decide)).symm
  have down : rampingDown.RampsDown (.storeMaxRampDown .default 200000)
      ⟨0, 1, Request.target⟩ := ⟨by decide, by decide, by decide⟩
  exact ⟨_, _, served, by decide, ramp_down_bounded_iff served down (by decide)⟩

/-- With a `max_ramp_down` of 1.1 GHz the CPU is ramped up to 1.2 GHz. -/
theorem rampingDown_wraps :
    ∃ after request, rampingDownBy 1100000 = some (after, request) ∧
      rampingDown.RampsDown (.storeMaxRampDown .default 1100000) ⟨0, 1, Request.target⟩ ∧
      (rampingDown.minSpeed ≤ request.policy.cur ∧ request.policy.cur ≤ rampingDown.maxSpeed) ∧
      request.policy.cur = 1000000 ∧ request.target = 1200000 ∧
      ¬ DropBounded (.storeMaxRampDown .default 1100000) request.policy request.target :=
  ⟨_, _, (Option.some_get (by decide)).symm, ⟨by decide, by decide, by decide⟩, by decide,
    by decide, by decide, fun bounded => absurd bounded.1 (by decide)⟩

end SmartassCpu

end Jordan.Cpufreq
