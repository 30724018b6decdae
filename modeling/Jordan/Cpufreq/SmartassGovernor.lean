import Jordan.Cpufreq.BoostedGovernor
import Jordan.Cpufreq.CpuLoad
import Jordan.Cpufreq.SmartassRamp

/-! # The smartass governor

The governor on `n` possible CPUs, each with a policy of its own. A handler is one step,
with two exceptions. `GOV_STOP` is three steps. The work function is cut where other
handlers can run: it copies `work_cpumask`, and for each CPU of the copy it takes the load,
has the driver set a frequency, and clears the bit. There are two work queues for the one
work item, each with a thread per CPU, and the work item is no longer pending while its
function runs; so it can run in several threads at once.
-/

namespace Jordan.Cpufreq

open Execution

/-! ## The tunables -/

/-- The tunables, as their store functions accept them. -/
structure SmartassSettings extends SmartassRampTunables where
  downRateUs : U32
  sleepMaxFreq : U32
  sleepWakeupFreq : U32
  awakeMinFreq : U32
  sampleRateJiffies : U32
  downRateAccepted : 1000 ≤ downRateUs ∧ downRateUs ≤ 100000000
  sampleRateAccepted : 0 < sampleRateJiffies ∧ sampleRateJiffies ≤ 1000

inductive SmartassTunable where
  | downRateUs
  | upMinFreq
  | sleepMaxFreq
  | sleepWakeupFreq
  | awakeMinFreq
  | sampleRateJiffies
  | rampUpStep
  | maxRampDown
  | maxCpuLoad
  | minCpuLoad
deriving DecidableEq, Repr

namespace SmartassSettings

/-- The values that `cpufreq_smartass_init` sets. -/
def default : SmartassSettings where
  toSmartassRampTunables := .default
  downRateUs := 99000
  sleepMaxFreq := 250000
  sleepWakeupFreq := 1200000
  awakeMinFreq := 0
  sampleRateJiffies := 2
  downRateAccepted := by decide
  sampleRateAccepted := by decide

/-- The store functions, on a number that `strict_strtoul` accepts. -/
def store (settings : SmartassSettings) (input : U32) : SmartassTunable → SmartassSettings
  | .downRateUs =>
      if accepted : 1000 ≤ input ∧ input ≤ 100000000 then
        { settings with downRateUs := input, downRateAccepted := accepted }
      else settings
  | .upMinFreq => { settings with upMinFreq := input }
  | .sleepMaxFreq => { settings with sleepMaxFreq := input }
  | .sleepWakeupFreq => { settings with sleepWakeupFreq := input }
  | .awakeMinFreq => { settings with awakeMinFreq := input }
  | .sampleRateJiffies =>
      if accepted : 0 < input ∧ input ≤ 1000 then
        { settings with sampleRateJiffies := input, sampleRateAccepted := accepted }
      else settings
  | .rampUpStep => { settings with rampUpStep := input }
  | .maxRampDown => { settings with toSmartassRampTunables := settings.storeMaxRampDown input }
  | .maxCpuLoad => { settings with toSmartassRampTunables := settings.storeMaxCpuLoad input }
  | .minCpuLoad => { settings with toSmartassRampTunables := settings.storeMinCpuLoad input }

/-- What the timer reads of the tunables. -/
def timer (settings : SmartassSettings) : SmartassTunables :=
  ⟨settings.downRateUs, settings.sampleRateJiffies, settings.maxCpuLoad⟩

end SmartassSettings

/-- The frequency that the branches of the work function choose, with its locals
`cpu_load` and `force_ramp_up`. -/
def SmartassRampTunables.rampFreq (tunables : SmartassRampTunables) (cur maxSpeed cpuLoad : U32)
    (forceRampUp : Bool) : U32 :=
  if forceRampUp ∨ tunables.maxCpuLoad < cpuLoad then
    if forceRampUp ∧ tunables.upMinFreq ≠ 0 then tunables.upMinFreq
    else if tunables.rampUpStep ≠ 0 then cur + tunables.rampUpStep
    else maxSpeed
  else if cpuLoad < tunables.minCpuLoad then
    -- dummy load
    let newFreq := cur * (cpuLoad + (100 - tunables.maxCpuLoad)) / 100
    if tunables.maxRampDown ≠ 0 ∧ newFreq < cur - tunables.maxRampDown then
      cur - tunables.maxRampDown
    else newFreq
  else cur

/-! ## The data of a CPU -/

/-- `struct smartass_info_s` -/
structure SmartassCpuInfo extends SmartassInfo where
  curPolicy : Option CpufreqPolicy
  enable : Bool
  minSpeed : U32

namespace SmartassCpuInfo

/-- The per-CPU data that `cpufreq_smartass_init` leaves. -/
def init : SmartassCpuInfo where
  timer := none
  timeInIdle := 0
  idleExitTime := 0
  freqChangeTime := 0
  freqChangeTimeInIdle := 0
  curCpuLoad := 0
  forceRampUp := false
  maxSpeed := 1200000
  curPolicy := none
  enable := false
  minSpeed := 0

/-- `smartass_update_min_max` -/
def updateMinMax (info : SmartassCpuInfo) (settings : SmartassSettings) (policy : CpufreqPolicy)
    (suspend : Bool) : SmartassCpuInfo :=
  if suspend then
    { info with
      minSpeed := policy.min
      maxSpeed :=
        if policy.max > settings.sleepMaxFreq then
          if settings.sleepMaxFreq > policy.min then settings.sleepMaxFreq else policy.min
        else policy.max }
  else
    { info with
      minSpeed :=
        if policy.min < settings.awakeMinFreq then
          if settings.awakeMinFreq < policy.max then settings.awakeMinFreq else policy.max
        else policy.min
      maxSpeed := policy.max }

/-- `validate_freq` -/
def validateFreq (info : SmartassCpuInfo) (freq : U32) : U32 :=
  if freq > info.maxSpeed then info.maxSpeed
  else if freq < info.minSpeed then info.minSpeed
  else freq

/-- `reset_timer` -/
def resetTimer (info : SmartassCpuInfo) (settings : SmartassSettings) (env : KernelEnv)
    (reading : IdleReading) : SmartassCpuInfo :=
  { info with toSmartassInfo := info.toSmartassInfo.resetTimer settings.timer env reading }

end SmartassCpuInfo

/-- Where a CPU is between `GOV_START` and the end of `GOV_STOP`, whose three steps are
told apart. -/
inductive SmartassPhase where
  | out
  | started
  | deleted
  | disabled
deriving DecidableEq, Repr

/-- A CPU: its per-CPU data, whether it is inside `cpufreq_idle` and was enabled when it
entered, its last governor event, and whether its policy has the files of the governor. -/
structure SmartassCpuState where
  info : SmartassCpuInfo
  hook : Option Bool
  phase : SmartassPhase
  group : Bool

/-! ## The governor -/

/-- A thread of a work queue. -/
abbrev SmartassThread (n : Nat) := SmartassQueue × Fin n

/-- Where a thread is in the work function, with the rest of its copy of the mask:
`loaded` has taken the load of a CPU, and `driven` has had the driver set its frequency. -/
inductive SmartassWork (n : Nat) where
  | resting
  | looping (todo : List (Fin n))
  | loaded (c : Fin n) (cpuLoad : U32) (forceRampUp : Bool) (todo : List (Fin n))
  | driven (c : Fin n) (todo : List (Fin n))
deriving DecidableEq

/-- A call of `__cpufreq_driver_target`, and whether the governor is enabled on the CPU
then. -/
structure SmartassRequest (n : Nat) where
  owner : Fin n
  enabled : Bool
  request : Request

/-- The state of the governor. `requests` lists the calls of `__cpufreq_driver_target`.
A null pointer is `none`. -/
structure SmartassGovernor (n : Nat) where
  settings : SmartassSettings
  suspended : Bool
  activeCount : Int
  pmIdle : Option IdleHandler
  pmIdleOld : Option IdleHandler
  cpu : Fin n → SmartassCpuState
  workCpumask : Finset (Fin n)
  workQueued : Option (SmartassThread n)
  thread : SmartassThread n → SmartassWork n
  requests : List (SmartassRequest n)
  /-- History variable: the CPUs whose timer has asked for a ramp since their load was
  last taken. -/
  asked : Finset (Fin n)

/-- What can happen. `start` carries the result of `sysfs_create_group`; `earlySuspend`
and `lateResume` carry the CPU that runs them while they are at each CPU of their loop.
`transition` is a change of the frequency that the governor has not asked for, and
`outside` a change of a policy that another governor has. -/
inductive SmartassGovEvent (n : Nat) where
  | timer (c : Fin n)
  | idleEnter (c : Fin n)
  | idleExit (c : Fin n)
  | work (thread : SmartassThread n)
  | start (c : Fin n) (policy : CpufreqPolicy) (rc : Option Errno)
  | limits (c : Fin n) (min max : U32)
  | stopDelTimer (c : Fin n)
  | stopDisable (c : Fin n)
  | stopFinish (c : Fin n)
  | earlySuspend (processor : Fin n → Fin n)
  | lateResume (processor : Fin n → Fin n)
  | store (tunable : SmartassTunable) (input : U32)
  | transition (c : Fin n) (cur : U32)
  | outside (c : Fin n) (policy : CpufreqPolicy)

/-- An event and its environment. -/
structure SmartassAction (n : Nat) where
  event : SmartassGovEvent n
  env : Env n

namespace SmartassGovernor

variable {n : Nat}

/-- The governor after `cpufreq_smartass_init`. -/
def init (n : Nat) : SmartassGovernor n where
  settings := .default
  suspended := false
  activeCount := 0
  pmIdle := some .original
  pmIdleOld := none
  cpu := fun _ => ⟨.init, none, .out, false⟩
  workCpumask := ∅
  workQueued := none
  thread := fun _ => .resting
  requests := []
  asked := ∅

def setCpu (g : SmartassGovernor n) (c : Fin n) (s : SmartassCpuState) : SmartassGovernor n :=
  { g with cpu := Function.update g.cpu c s }

def setInfo (g : SmartassGovernor n) (c : Fin n) (info : SmartassCpuInfo) : SmartassGovernor n :=
  g.setCpu c { g.cpu c with info := info }

def setThread (g : SmartassGovernor n) (w : SmartassThread n) (work : SmartassWork n) :
    SmartassGovernor n :=
  { g with thread := Function.update g.thread w work }

/-- `__cpufreq_driver_target` on the policy of a CPU. -/
def driverTarget (g : SmartassGovernor n) (env : KernelEnv) (c : Fin n) (policy : CpufreqPolicy)
    (target : U32) (relation : Relation) : SmartassGovernor n :=
  let request : Request := ⟨target, relation, policy⟩
  let asked : SmartassGovernor n :=
    { g with requests := g.requests ++ [⟨c, (g.cpu c).info.enable, request⟩] }
  asked.setInfo c
    { (g.cpu c).info with curPolicy := some { policy with cur := env.drive request } }

/-! ### The timer and the idle hook -/

/-- The bit of the CPU is set, and the work is queued on the CPU unless it is pending. -/
def queueWork (g : SmartassGovernor n) (queue : SmartassQueue) (c : Fin n) :
    SmartassGovernor n :=
  { g with
    workCpumask := insert c g.workCpumask
    workQueued := g.workQueued.or (some (queue, c))
    asked := insert c g.asked }

/-- `cpufreq_smartass_timer`; the expired timer has been taken off. -/
def cpufreqSmartassTimer (g : SmartassGovernor n) (env : Env n) (c : Fin n) :
    Option (SmartassGovernor n) :=
  let info := (g.cpu c).info
  info.curPolicy.map fun policy =>
    let (sampled, queue) := { info.toSmartassInfo with timer := none }.timerFunction
      g.settings.timer env.toKernelEnv policy (env.reading c)
    let left := g.setInfo c { info with toSmartassInfo := sampled }
    match queue with
    | none => left
    | some queue => left.queueWork queue c

/-- `cpufreq_idle`, up to the call of `pm_idle_old`. -/
def cpufreqIdleEnter (g : SmartassGovernor n) (c : Fin n) : Option (SmartassGovernor n) :=
  let s := g.cpu c
  if s.info.enable then
    s.info.curPolicy.map fun policy =>
      let info := if policy.cur = s.info.minSpeed then { s.info with timer := none } else s.info
      g.setCpu c { s with info := info, hook := some true }
  else some (g.setCpu c { s with hook := some false })

/-- `cpufreq_idle`, after the call of `pm_idle_old`. -/
def cpufreqIdleExit (g : SmartassGovernor n) (env : Env n) (c : Fin n) (enabled : Bool) :
    SmartassGovernor n :=
  let s := g.cpu c
  let info :=
    if enabled ∧ s.info.timer = none then
      s.info.resetTimer g.settings env.toKernelEnv (env.reading c).reset
    else s.info
  g.setCpu c { s with info := info, hook := none }

/-! ### The work function -/

/-- The work is no longer pending, and the mask is copied. -/
def workBegin (g : SmartassGovernor n) (w : SmartassThread n) : SmartassGovernor n :=
  { g with workQueued := none }.setThread w
    (.looping ((List.finRange n).filter (· ∈ g.workCpumask)))

/-- The load and `force_ramp_up` of a CPU are taken. -/
def workLoad (g : SmartassGovernor n) (env : Env n) (w : SmartassThread n) (c : Fin n)
    (todo : List (Fin n)) : SmartassGovernor n :=
  let info := (g.cpu c).info
  let taken : SmartassGovernor n :=
    { g.setInfo c { info with forceRampUp := false } with asked := g.asked.erase c }
  taken.setThread w
    (.loaded c info.curCpuLoad (info.forceRampUp && decide (1 < env.nrRunning)) todo)

/-- The driver sets the frequency. -/
def workDrive (g : SmartassGovernor n) (env : Env n) (w : SmartassThread n) (c : Fin n)
    (cpuLoad : U32) (forceRampUp : Bool) (todo : List (Fin n)) : Option (SmartassGovernor n) :=
  let info := (g.cpu c).info
  info.curPolicy.map fun policy =>
    let newFreq := info.validateFreq
      (g.settings.rampFreq policy.cur info.maxSpeed cpuLoad forceRampUp)
    let driven := g.driverTarget env.toKernelEnv c policy newFreq .L
    let timed : SmartassCpuInfo :=
      { (driven.cpu c).info with
        freqChangeTimeInIdle := (env.reading c).sample.idle
        freqChangeTime := (env.reading c).sample.wall }
    (driven.setInfo c timed).setThread w (.driven c todo)

/-- The bit of the CPU is cleared. -/
def workClear (g : SmartassGovernor n) (w : SmartassThread n) (c : Fin n)
    (todo : List (Fin n)) : SmartassGovernor n :=
  { g with workCpumask := g.workCpumask.erase c }.setThread w (.looping todo)

/-- `cpufreq_smartass_freq_change_time_work`: the next step of a thread. -/
def workStep (g : SmartassGovernor n) (env : Env n) (w : SmartassThread n) :
    Option (SmartassGovernor n) :=
  match g.thread w with
  | .resting => some (g.workBegin w)
  | .looping [] => some (g.setThread w .resting)
  | .looping (c :: todo) => some (g.workLoad env w c todo)
  | .loaded c cpuLoad forceRampUp todo => g.workDrive env w c cpuLoad forceRampUp todo
  | .driven c todo => some (g.workClear w c todo)

/-! ### Governor events -/

/-- `GOV_LIMITS`, and the end of `GOV_START`. -/
def governorLimits (g : SmartassGovernor n) (env : KernelEnv) (c : Fin n)
    (policy : CpufreqPolicy) : SmartassGovernor n :=
  let info :=
    { (g.cpu c).info.updateMinMax g.settings policy g.suspended with curPolicy := some policy }
  let updated := g.setInfo c info
  if policy.cur ≠ info.maxSpeed then updated.driverTarget env c policy info.maxSpeed .H
  else updated

/-- `GOV_START`: the new state, and the error that is returned. -/
def governorStart (g : SmartassGovernor n) (env : Env n) (c : Fin n) (policy : CpufreqPolicy)
    (rc : Option Errno) : SmartassGovernor n × Option Errno :=
  if env.online c = false ∨ policy.cur = 0 then (g, some EINVAL)
  else
    let counted : SmartassGovernor n := { g with activeCount := g.activeCount + 1 }
    let enabled (s : SmartassCpuState) : SmartassCpuState :=
      { s with info := { s.info with curPolicy := some policy, enable := true }, phase := .started }
    if counted.activeCount ≤ 1 then
      match rc with
      | some errno => (counted, some errno)
      | none =>
          let hooked : SmartassGovernor n :=
            { counted with pmIdleOld := g.pmIdle, pmIdle := some .cpufreqIdle }
          ((hooked.setCpu c { enabled (g.cpu c) with group := true }).governorLimits
            env.toKernelEnv c policy, none)
    else ((counted.setCpu c (enabled (g.cpu c))).governorLimits env.toKernelEnv c policy, none)

/-- The end of `GOV_STOP`. -/
def stopFinish (g : SmartassGovernor n) (c : Fin n) : SmartassGovernor n :=
  let counted : SmartassGovernor n :=
    { g.setCpu c { g.cpu c with phase := .out } with activeCount := g.activeCount - 1 }
  if 1 < counted.activeCount then counted
  else
    { counted.setCpu c { counted.cpu c with group := false } with pmIdle := g.pmIdleOld }

/-! ### Suspend and resume -/

/-- `smartass_suspend` on the CPU that runs it. -/
def smartassSuspend (g : SmartassGovernor n) (env : Env n) (current : Fin n) (suspend : Bool) :
    Option (SmartassGovernor n) :=
  let info := (g.cpu current).info
  if info.enable = false ∨ g.settings.sleepMaxFreq = 0 then some g
  else
    info.curPolicy.map fun policy =>
      let updated := info.updateMinMax g.settings policy suspend
      let limited := g.setInfo current updated
      if suspend then
        if updated.maxSpeed < policy.cur then
          limited.driverTarget env.toKernelEnv current policy updated.maxSpeed .H
        else limited
      -- resume at max speed
      else
        limited.driverTarget env.toKernelEnv current policy
          (updated.validateFreq g.settings.sleepWakeupFreq) .H

/-- The loop of `smartass_early_suspend` and `smartass_late_resume`. -/
def suspendAll (g : SmartassGovernor n) (env : Env n) (processor : Fin n → Fin n)
    (suspend : Bool) : Option (SmartassGovernor n) :=
  exec (fun g i => if env.online i then g.smartassSuspend env (processor i) suspend else some g)
    { g with suspended := suspend } (List.finRange n)

/-! ### Steps -/

/-- The core's order of the events of a CPU. A timer expires when it is due, a thread
begins when the work is pending on it, and a CPU enters the hook that `pm_idle` is. -/
def Enabled (g : SmartassGovernor n) (env : Env n) : SmartassGovEvent n → Prop
  | .timer c => ∃ expiry ∈ (g.cpu c).info.timer, expiry ≤ env.jiffies
  | .idleEnter c => g.pmIdle = some .cpufreqIdle ∧ (g.cpu c).hook = none
  | .idleExit c => (g.cpu c).hook ≠ none
  | .work w => g.thread w = .resting → g.workQueued = some w
  | .start c policy _ => (g.cpu c).phase = .out ∧ policy.Ordered
  | .limits c min max => (g.cpu c).phase = .started ∧ min ≤ max
  | .stopDelTimer c => (g.cpu c).phase = .started
  | .stopDisable c => (g.cpu c).phase = .deleted
  | .stopFinish c => (g.cpu c).phase = .disabled
  | .earlySuspend _ | .lateResume _ | .transition _ _ => True
  | .store _ _ => ∃ c, (g.cpu c).group = true
  | .outside c _ => (g.cpu c).phase = .out

instance (g : SmartassGovernor n) (env : Env n) : DecidablePred (g.Enabled env)
  | .timer _ => inferInstanceAs (Decidable (∃ expiry ∈ _, expiry ≤ env.jiffies))
  | .idleEnter _ | .start _ _ _ | .limits _ _ _ => inferInstanceAs (Decidable (_ ∧ _))
  | .idleExit _ => inferInstanceAs (Decidable (_ ≠ _))
  | .work _ => inferInstanceAs (Decidable (_ → _))
  | .stopDelTimer _ | .stopDisable _ | .stopFinish _ | .outside _ _ =>
      inferInstanceAs (Decidable (_ = _))
  | .earlySuspend _ | .lateResume _ | .transition _ _ => .isTrue trivial
  | .store _ _ => inferInstanceAs (Decidable (∃ _ : Fin n, _))

/-- The policy of a CPU changes without the governor. -/
def changePolicy (g : SmartassGovernor n) (c : Fin n) (change : CpufreqPolicy → CpufreqPolicy) :
    SmartassGovernor n :=
  g.setInfo c { (g.cpu c).info with curPolicy := (g.cpu c).info.curPolicy.map change }

/-- The handler of an event. -/
def handle (g : SmartassGovernor n) (env : Env n) :
    SmartassGovEvent n → Option (SmartassGovernor n)
  | .timer c => g.cpufreqSmartassTimer env c
  | .idleEnter c => g.cpufreqIdleEnter c
  | .idleExit c => (g.cpu c).hook.map (g.cpufreqIdleExit env c)
  | .work w => g.workStep env w
  | .start c policy rc => some (g.governorStart env c policy rc).1
  | .limits c min max =>
      (g.cpu c).info.curPolicy.map fun policy =>
        g.governorLimits env.toKernelEnv c { policy with min := min, max := max }
  | .stopDelTimer c =>
      some (g.setCpu c
        { g.cpu c with info := { (g.cpu c).info with timer := none }, phase := .deleted })
  | .stopDisable c =>
      some (g.setCpu c
        { g.cpu c with info := { (g.cpu c).info with enable := false }, phase := .disabled })
  | .stopFinish c => some (g.stopFinish c)
  | .earlySuspend processor => g.suspendAll env processor true
  | .lateResume processor => g.suspendAll env processor false
  | .store tunable input => some { g with settings := g.settings.store input tunable }
  | .transition c cur => some (g.changePolicy c fun policy => { policy with cur := cur })
  | .outside c policy => some (g.changePolicy c fun _ => policy)

/-- One step. -/
def step (g : SmartassGovernor n) (action : SmartassAction n) : Option (SmartassGovernor n) :=
  if g.Enabled action.env action.event then g.handle action.env action.event else none

/-- A step is an event that can come here and its handler, which follows no null pointer. -/
theorem step_eq_some {g after : SmartassGovernor n} {action : SmartassAction n} :
    g.step action = some after ↔
      g.Enabled action.env action.event ∧ g.handle action.env action.event = some after :=
  Option.ite_none_right_eq_some

end SmartassGovernor

end Jordan.Cpufreq
