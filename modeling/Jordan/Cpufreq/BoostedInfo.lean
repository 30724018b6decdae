import Jordan.Cpufreq.BoostedFreq

/-! # The handlers of the boosted governor on one CPU

What the timer, the idle hook, the work item, the governor events and the
suspend handlers do to the per-CPU data of one CPU. Where the source
dereferences `cur_policy`, a null pointer ends the model (`none`).
-/

namespace Jordan.Cpufreq

/-- `get_cpu_idle_time_us`: the time spent idle, and the time of the reading. -/
structure IdleReading where
  idle : U64
  wall : U64
deriving DecidableEq, Repr

/-- The readings a handler takes of a CPU: the first one, and the one of
`reset_timer`. -/
structure CpuReading where
  sample : IdleReading
  reset : IdleReading

/-- `struct boosted_info_s`. The timer holds the jiffy it expires at while it is
pending. -/
structure BoostedInfo where
  curPolicy : Option CpufreqPolicy
  freqTable : Option FreqTable
  timer : Option Nat
  timeInIdle : U64
  idleExitTime : U64
  freqChangeTime : U64
  freqChangeTimeInIdle : U64
  curCpuLoad : U32
  oldFreq : U32
  rampDir : RampDir
  enable : Bool
  idealSpeed : U32

/-- The per-CPU data that `cpufreq_boosted_init` leaves. -/
def BoostedInfo.init : BoostedInfo where
  curPolicy := none
  freqTable := none
  timer := none
  timeInIdle := 0
  idleExitTime := 0
  freqChangeTime := 0
  freqChangeTimeInIdle := 0
  curCpuLoad := 0
  oldFreq := 0
  rampDir := .stay
  enable := false
  idealSpeed := 0

/-- Where a CPU is between `GOV_START` and the return of `GOV_STOP`, whose four
steps are told apart. -/
inductive GovPhase where
  | out
  | started
  | cleared
  | deleted
  | flushed
  | stopped
deriving DecidableEq, Repr

/-- No `GOV_STOP` of the CPU is under way. -/
def GovPhase.Settled (phase : GovPhase) : Prop :=
  phase = .out ∨ phase = .started ∨ phase = .stopped

instance (phase : GovPhase) : Decidable phase.Settled := inferInstanceAs (Decidable (_ ∨ _))

/-- A CPU: its per-CPU data, its bit in `work_cpumask`, whether it is inside
`cpufreq_idle` and was enabled when it entered, and the last governor event. -/
structure CpuState where
  info : BoostedInfo
  inMask : Bool
  hook : Option Bool
  phase : GovPhase

def CpuState.init : CpuState := ⟨.init, false, none, .out⟩

/-- A call of `__cpufreq_driver_target`, with the policy it is made with. -/
structure Request where
  target : U32
  relation : Relation
  policy : CpufreqPolicy
deriving DecidableEq, Repr

/-- What the environment of a handler provides: the number of jiffies, the
number of running tasks, and the frequency the driver sets on a request. -/
structure KernelEnv where
  jiffies : Nat
  nrRunning : U32
  drive : Request → U32

/-- The policy after a call of `__cpufreq_driver_target`, if there is one. -/
def CpufreqPolicy.driven (policy : CpufreqPolicy) (env : KernelEnv) (request : Option Request) :
    CpufreqPolicy :=
  match request with
  | none => policy
  | some request => { policy with cur := env.drive request }

@[simp] theorem CpufreqPolicy.driven_none (policy : CpufreqPolicy) (env : KernelEnv) :
    policy.driven env none = policy := rfl

/-- The driver changes the current frequency only. -/
@[simp] theorem CpufreqPolicy.driven_limits (policy : CpufreqPolicy) (env : KernelEnv)
    (request : Option Request) : (policy.driven env request).limits = policy.limits := by
  cases request <;> rfl

namespace BoostedInfo

/-- `reset_timer` -/
def resetTimer (info : BoostedInfo) (tunables : Tunables) (env : KernelEnv)
    (reading : IdleReading) : BoostedInfo :=
  { info with
    timeInIdle := reading.idle
    idleExitTime := reading.wall
    timer := some (env.jiffies + tunables.sampleRateJiffies.toNat) }

/-- `if (!timer_pending(..)) reset_timer(..)` -/
def resetUnlessPending (info : BoostedInfo) (tunables : Tunables) (env : KernelEnv)
    (reading : IdleReading) : BoostedInfo :=
  if info.timer.isSome then info else info.resetTimer tunables env reading

/-- `boosted_update_min_max` -/
def updateMinMax (info : BoostedInfo) (tunables : Tunables) (policy : CpufreqPolicy)
    (suspend : Bool) : BoostedInfo :=
  { info with idealSpeed := tunables.idealSpeed policy suspend }

/-! ## The timer -/

/-- The load that a sample shows: 32-bit arithmetic on the differences. -/
def cpuLoad (deltaIdle deltaTime : U64) : U32 :=
  if deltaTime < deltaIdle then 0
  else 100 * (deltaTime - deltaIdle).setWidth 32 / deltaTime.setWidth 32

/-- The ramp a sample asks for; work is queued unless it is `stay`. -/
def sampledRamp (info : BoostedInfo) (tunables : Tunables) (policy : CpufreqPolicy)
    (load : U32) (deltaIdle updateTime : U64) : RampDir :=
  let oldFreq := policy.cur
  let sinceChange := updateTime - info.freqChangeTime
  if tunables.maxCpuLoad < load ∨ deltaIdle = 0 then
    if oldFreq < policy.max ∧ (oldFreq.slt info.idealSpeed ∨ deltaIdle = 0 ∨
        tunables.upRateUs.setWidth 64 ≤ sinceChange) then .up
    else .stay
  else if load < tunables.minCpuLoad ∧ policy.min < oldFreq ∧
      (info.idealSpeed.slt oldFreq ∨ tunables.downRateUs.setWidth 64 ≤ sinceChange) then .down
  else .stay

/-- `cpufreq_boosted_timer`, after the expired timer was taken off: the new data,
and whether the CPU's bit is set and the work queued. -/
def timerFunction (info : BoostedInfo) (tunables : Tunables) (env : KernelEnv)
    (policy : CpufreqPolicy) (reading : CpuReading) : BoostedInfo × Bool :=
  let nowIdle := reading.sample.idle
  let updateTime := reading.sample.wall
  let oldFreq := policy.cur
  if info.idleExitTime = 0 ∨ updateTime = info.idleExitTime then (info, false)
  else
    let deltaIdle := nowIdle - info.timeInIdle
    let deltaTime := updateTime - info.idleExitTime
    -- less than 1ms after the short-term sample started: retry
    if deltaTime < 1000 then (info.resetUnlessPending tunables env reading.reset, false)
    else
      let load := cpuLoad deltaIdle deltaTime
      let ramp := info.sampledRamp tunables policy load deltaIdle updateTime
      let sampled := { info with curCpuLoad := load, oldFreq := oldFreq, rampDir := ramp }
      if ramp ≠ .stay then (sampled, true)
      else if oldFreq < policy.max then (sampled.resetTimer tunables env reading.reset, false)
      else (sampled, false)

/-- The expiry of the timer. -/
def expire (info : BoostedInfo) (tunables : Tunables) (env : KernelEnv)
    (reading : CpuReading) : Option (BoostedInfo × Bool) :=
  info.curPolicy.map fun policy =>
    { info with timer := none }.timerFunction tunables env policy reading

/-! ## The work item -/

/-- The frequency the work item asks `target_freq` for, and the relation. -/
def rampFreq (info : BoostedInfo) (tunables : Tunables) (env : KernelEnv)
    (policy : CpufreqPolicy) (relation : Relation) : U32 × Relation :=
  let oldFreq := info.oldFreq
  -- frequency changed by a third party
  if oldFreq ≠ policy.cur then (oldFreq, relation)
  else
    match info.rampDir with
    | .up =>
        if 1 < env.nrRunning then
          if oldFreq.slt info.idealSpeed then (info.idealSpeed, relation)
          else if tunables.rampUpStep ≠ 0 then (oldFreq + tunables.rampUpStep, .H)
          else (policy.max, .H)
        else (oldFreq, relation)
    | .down =>
        if info.idealSpeed.slt oldFreq then (info.idealSpeed, .H)
        else if tunables.rampDownStep ≠ 0 then (oldFreq - tunables.rampDownStep, relation)
        else
          -- the frequency at which the load would be `max_cpu_load`
          let scaled := oldFreq * info.curCpuLoad / tunables.maxCpuLoad
          (if oldFreq.slt scaled then oldFreq - 1 else scaled, relation)
    | .stay => (oldFreq, relation)

/-- The target the work item requests of the driver, if any. -/
def rampRequest (info : BoostedInfo) (kernel : TableTarget) (tunables : Tunables)
    (env : KernelEnv) (policy : CpufreqPolicy) (relation : Relation) : Option Request :=
  let (newFreq, relation) := info.rampFreq tunables env policy relation
  (targetRequest kernel policy info.freqTable newFreq info.oldFreq relation).map fun target =>
    ⟨target, relation, policy⟩

/-- The body of the loop of `cpufreq_boosted_freq_change_time_work` for a CPU
whose bit was set. -/
def freqChangeTimeWork (info : BoostedInfo) (kernel : TableTarget) (tunables : Tunables)
    (env : KernelEnv) (policy : CpufreqPolicy) (relation : Relation) (reading : CpuReading) :
    BoostedInfo :=
  let request := info.rampRequest kernel tunables env policy relation
  let newFreq := (request.map Request.target).getD 0
  let changed := { info with
    curPolicy := some (policy.driven env request)
    rampDir := .stay
    freqChangeTime := if newFreq ≠ 0 then reading.sample.wall else info.freqChangeTime
    freqChangeTimeInIdle :=
      if newFreq ≠ 0 then reading.sample.idle else info.freqChangeTimeInIdle }
  if newFreq < (policy.driven env request).max then
    changed.resetTimer tunables env reading.reset
  else { changed with timer := none }

/-! ## Governor events -/

/-- `GOV_START`, up to the increment of `active_count`. -/
def start (info : BoostedInfo) (tunables : Tunables) (suspended : Bool)
    (policy : CpufreqPolicy) (freqTable : Option FreqTable) : BoostedInfo :=
  { { info with curPolicy := some policy, enable := true }.updateMinMax tunables policy suspended
    with freqTable := freqTable }

/-- The end of `GOV_START` and of `GOV_LIMITS`. -/
def armBelowMax (info : BoostedInfo) (tunables : Tunables) (env : KernelEnv)
    (policy : CpufreqPolicy) (reading : CpuReading) : BoostedInfo :=
  if policy.cur < policy.max then info.resetUnlessPending tunables env reading.reset else info

/-- The request of `GOV_LIMITS`: a current frequency outside the new limits. -/
def limitsRequest (policy : CpufreqPolicy) : Option Request :=
  if policy.max < policy.cur then some ⟨policy.max, .H, policy⟩
  else if policy.cur < policy.min then some ⟨policy.min, .L, policy⟩
  else none

/-- `GOV_LIMITS`, called after the core has changed the limits of the policy. -/
def limits (info : BoostedInfo) (tunables : Tunables) (suspended : Bool) (env : KernelEnv)
    (policy : CpufreqPolicy) (reading : CpuReading) : BoostedInfo :=
  let driven := policy.driven env (limitsRequest policy)
  let updated := { info with curPolicy := some driven }.updateMinMax tunables policy suspended
  updated.armBelowMax tunables env driven reading

/-! ## Early suspend and late resume -/

/-- The request `boosted_suspend` makes when the device resumes. -/
def resumeRequest (tunables : Tunables) (policy : CpufreqPolicy) : Request :=
  ⟨validateFreq policy tunables.sleepWakeupFreq, .L, policy⟩

/-- `boosted_suspend` of the CPU that runs it, whose governor is enabled;
`reading` holds the idle time of the CPU named by the loop as its sample. -/
def boostedSuspend (info : BoostedInfo) (tunables : Tunables) (env : KernelEnv)
    (policy : CpufreqPolicy) (suspend : Bool) (reading : CpuReading) : BoostedInfo :=
  let updated := info.updateMinMax tunables policy suspend
  let changed :=
    if suspend then
      { updated with
        freqChangeTime := reading.sample.wall
        freqChangeTimeInIdle := reading.sample.idle }
    else
      { updated with curPolicy := some (policy.driven env (some (resumeRequest tunables policy))) }
  changed.resetTimer tunables env reading.reset

/-! ## What the handlers leave as it is -/

section Frame

variable (info : BoostedInfo) (tunables : Tunables) (env : KernelEnv) (policy : CpufreqPolicy)
  (suspended : Bool) (reading : CpuReading)

@[simp] theorem resetTimer_enable (sample : IdleReading) :
    (info.resetTimer tunables env sample).enable = info.enable := rfl

@[simp] theorem resetTimer_curPolicy (sample : IdleReading) :
    (info.resetTimer tunables env sample).curPolicy = info.curPolicy := rfl

@[simp] theorem resetUnlessPending_enable (sample : IdleReading) :
    (info.resetUnlessPending tunables env sample).enable = info.enable := by
  unfold resetUnlessPending
  split <;> rfl

@[simp] theorem resetUnlessPending_curPolicy (sample : IdleReading) :
    (info.resetUnlessPending tunables env sample).curPolicy = info.curPolicy := by
  unfold resetUnlessPending
  split <;> rfl

@[simp] theorem updateMinMax_enable :
    (info.updateMinMax tunables policy suspended).enable = info.enable := rfl

@[simp] theorem updateMinMax_curPolicy :
    (info.updateMinMax tunables policy suspended).curPolicy = info.curPolicy := rfl

@[simp] theorem armBelowMax_enable :
    (info.armBelowMax tunables env policy reading).enable = info.enable := by
  unfold armBelowMax
  split
  · exact resetUnlessPending_enable ..
  · rfl

@[simp] theorem armBelowMax_curPolicy :
    (info.armBelowMax tunables env policy reading).curPolicy = info.curPolicy := by
  unfold armBelowMax
  split
  · exact resetUnlessPending_curPolicy ..
  · rfl

@[simp] theorem timerFunction_enable :
    (info.timerFunction tunables env policy reading).1.enable = info.enable := by
  simp only [timerFunction]
  split_ifs <;> simp only [resetTimer_enable, resetUnlessPending_enable]

@[simp] theorem timerFunction_curPolicy :
    (info.timerFunction tunables env policy reading).1.curPolicy = info.curPolicy := by
  simp only [timerFunction]
  split_ifs <;> simp only [resetTimer_curPolicy, resetUnlessPending_curPolicy]

@[simp] theorem freqChangeTimeWork_enable (kernel : TableTarget) (relation : Relation) :
    (info.freqChangeTimeWork kernel tunables env policy relation reading).enable =
      info.enable := by
  simp only [freqChangeTimeWork]
  split_ifs <;> rfl

@[simp] theorem resetUnlessPending_idealSpeed (sample : IdleReading) :
    (info.resetUnlessPending tunables env sample).idealSpeed = info.idealSpeed := by
  unfold resetUnlessPending
  split <;> rfl

@[simp] theorem armBelowMax_idealSpeed :
    (info.armBelowMax tunables env policy reading).idealSpeed = info.idealSpeed := by
  unfold armBelowMax
  split
  · exact resetUnlessPending_idealSpeed ..
  · rfl

@[simp] theorem timerFunction_idealSpeed :
    (info.timerFunction tunables env policy reading).1.idealSpeed = info.idealSpeed := by
  simp only [timerFunction]
  split_ifs <;> first | rfl | exact resetUnlessPending_idealSpeed ..

@[simp] theorem freqChangeTimeWork_idealSpeed (kernel : TableTarget) (relation : Relation) :
    (info.freqChangeTimeWork kernel tunables env policy relation reading).idealSpeed =
      info.idealSpeed := by
  simp only [freqChangeTimeWork]
  split_ifs <;> rfl

@[simp] theorem start_curPolicy (freqTable : Option FreqTable) :
    (info.start tunables suspended policy freqTable).curPolicy = some policy := rfl

@[simp] theorem limits_enable :
    (info.limits tunables suspended env policy reading).enable = info.enable := by
  simp only [limits, armBelowMax_enable, updateMinMax_enable]

@[simp] theorem limits_idealSpeed :
    (info.limits tunables suspended env policy reading).idealSpeed =
      tunables.idealSpeed policy suspended := by
  simp only [limits, armBelowMax_idealSpeed]
  rfl

@[simp] theorem boostedSuspend_idealSpeed :
    (info.boostedSuspend tunables env policy suspended reading).idealSpeed =
      tunables.idealSpeed policy suspended := by
  simp only [boostedSuspend]
  split <;> rfl

@[simp] theorem boostedSuspend_enable :
    (info.boostedSuspend tunables env policy suspended reading).enable = info.enable := by
  simp only [boostedSuspend, resetTimer_enable]
  split <;> rfl

end Frame

/-! ## The policy and the requests -/

section Policy

variable {info : BoostedInfo} {tunables : Tunables} {env : KernelEnv} {policy : CpufreqPolicy}
  {reading : CpuReading}

/-- The work leaves the limits of the policy. -/
theorem freqChangeTimeWork_limits {kernel : TableTarget} {relation : Relation} :
    (info.freqChangeTimeWork kernel tunables env policy relation reading).curPolicy.map
      CpufreqPolicy.limits = some policy.limits := by
  simp only [freqChangeTimeWork]
  split <;> exact congrArg some (CpufreqPolicy.driven_limits ..)

/-- A limit change leaves the CPU with the limits it is given. -/
theorem limits_limits (suspended : Bool) :
    (info.limits tunables suspended env policy reading).curPolicy.map CpufreqPolicy.limits =
      some policy.limits := by
  simp only [limits, armBelowMax_curPolicy, updateMinMax_curPolicy, Option.map_some,
    CpufreqPolicy.driven_limits]

/-- Suspending and resuming leave the limits of the policy. -/
theorem boostedSuspend_limits (current : info.curPolicy = some policy) (suspend : Bool)
    (reading : CpuReading) :
    (info.boostedSuspend tunables env policy suspend reading).curPolicy.map
      CpufreqPolicy.limits = info.curPolicy.map CpufreqPolicy.limits := by
  simp only [boostedSuspend, resetTimer_curPolicy]
  split
  · rfl
  · rw [current]
    rfl

/-- The work item requests frequencies within the policy. -/
theorem rampRequest_contains {kernel : TableTarget} {relation : Relation} {request : Request}
    (made : info.rampRequest kernel tunables env policy relation = some request) :
    request.policy = policy ∧
      (request.policy.Ordered → request.policy.Contains request.target) := by
  simp only [rampRequest] at made
  obtain ⟨target, requested, rfl⟩ := Option.map_eq_some_iff.mp made
  exact ⟨rfl, fun ordered => contains_targetRequest ordered requested⟩

/-- `GOV_LIMITS` requests a limit of the policy. -/
theorem limitsRequest_contains {request : Request} (made : limitsRequest policy = some request) :
    request.policy = policy ∧
      (request.policy.Ordered → request.policy.Contains request.target) := by
  unfold limitsRequest at made
  split_ifs at made
  · obtain rfl := Option.some.inj made
    exact ⟨rfl, CpufreqPolicy.Ordered.contains_max⟩
  · obtain rfl := Option.some.inj made
    exact ⟨rfl, CpufreqPolicy.Ordered.contains_min⟩

end Policy

end BoostedInfo

end Jordan.Cpufreq
