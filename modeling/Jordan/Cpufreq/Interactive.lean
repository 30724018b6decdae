import Jordan.Cpufreq.BoostedGovernor

/-! # The interactive governor

The governor on `n` possible CPUs. The cpufreq core has a policy object for each CPU that
manages CPUs; the governor keeps a pointer to one of them, one target frequency and one
time of the last change for all CPUs. A handler is one step, except for the work function,
which is cut where other handlers can run: it copies `work_cpumask`, and for each CPU of
the copy it compares the target frequency with the maximum, sets the target frequency when
they differ, calls the driver with what the target frequency is by then, and clears the bit
of the CPU. The one work item is put on two work queues, each with a thread per CPU, and is
no longer pending while its function runs.
-/

namespace Jordan.Cpufreq

open Execution

/-- `struct cpufreq_policy`, with the CPUs it manages. -/
structure InteractivePolicy (n : Nat) extends CpufreqPolicy where
  cpus : Finset (Fin n)

/-- The per-CPU data, and whether the CPU is inside `cpufreq_idle`. The timer holds the
jiffy it expires at while it is pending. -/
structure InteractiveCpu where
  timer : Option Nat
  timeInIdle : U64
  idleExitTime : U64
  inIdle : Bool
deriving DecidableEq

/-- The timer of a CPU is armed, and its sample starts. -/
def InteractiveCpu.arm (s : InteractiveCpu) (env : KernelEnv) (reading : IdleReading) :
    InteractiveCpu :=
  { s with
    timeInIdle := reading.idle
    idleExitTime := reading.wall
    timer := some (env.jiffies + 2) }

/-- `up_wq` and `down_wq` -/
inductive InteractiveQueue where
  | up
  | down
deriving DecidableEq, Repr

/-- A thread of a work queue. -/
abbrev InteractiveThread (n : Nat) := InteractiveQueue × Fin n

/-- Where a thread is in the work function, with the rest of its copy of the mask:
`lowering` has found the target frequency below the maximum, `calling` is about to call the
driver, and `driven` is about to clear the bit of the CPU. -/
inductive InteractiveWork (n : Nat) where
  | resting
  | looping (todo : List (Fin n))
  | lowering (c : Fin n) (todo : List (Fin n))
  | calling (c : Fin n) (relation : Relation) (todo : List (Fin n))
  | driven (c : Fin n) (todo : List (Fin n))
deriving DecidableEq

/-- The state of the governor and the policies of the core. `requests` lists the calls of
`__cpufreq_driver_target`, each with the CPU of its policy. A null pointer is `none`. -/
structure InteractiveGovernor (n : Nat) where
  minSampleTime : U32
  activeCount : Int
  pmIdle : Option IdleHandler
  pmIdleOld : Option IdleHandler
  group : Bool
  policy : Option (Fin n)
  targetFreq : U32
  freqChangeTime : U64
  freqChangeTimeInIdle : U64
  policies : Fin n → InteractivePolicy n
  cpu : Fin n → InteractiveCpu
  workCpumask : Finset (Fin n)
  workQueued : Option (InteractiveThread n)
  thread : InteractiveThread n → InteractiveWork n
  requests : List (Fin n × Request)
  /-- The policies between `GOV_START` and `GOV_STOP`. -/
  started : Finset (Fin n)
  /-- History variable: the CPUs that have asked for a change since a thread was last at
  them. -/
  asked : Finset (Fin n)
  /-- History variable: those that have asked to go up last. -/
  raised : Finset (Fin n)

/-- What can happen. `start` carries the result of `sysfs_create_group`, and `store` what
`strict_strtoul` leaves in the tunable. `transition` is a change of the frequency that the
governor has not asked for, and `outside` a change of a policy that it is not started on. -/
inductive InteractiveEvent (n : Nat) where
  | timer (c : Fin n)
  | idleEnter (c : Fin n)
  | idleExit (c : Fin n)
  | work (thread : InteractiveThread n)
  | start (p : Fin n) (rc : Option Errno)
  | stop (p : Fin n)
  | limits (p : Fin n) (min max : U32)
  | store (minSampleTime : U32)
  | transition (p : Fin n) (cur : U32)
  | outside (p : Fin n) (policy : InteractivePolicy n)

/-- An event and its environment. -/
structure InteractiveAction (n : Nat) where
  event : InteractiveEvent n
  env : Env n

/-- `DEFAULT_MIN_SAMPLE_TIME` -/
def defaultMinSampleTime : U32 := 50000

namespace InteractiveGovernor

variable {n : Nat}

/-- The governor after `cpufreq_interactive_init`, with the policies of the core. -/
def init (policies : Fin n → InteractivePolicy n) : InteractiveGovernor n where
  minSampleTime := defaultMinSampleTime
  activeCount := 0
  pmIdle := some .original
  pmIdleOld := none
  group := false
  policy := none
  targetFreq := 0
  freqChangeTime := 0
  freqChangeTimeInIdle := 0
  policies := policies
  cpu := fun _ => ⟨none, 0, 0, false⟩
  workCpumask := ∅
  workQueued := none
  thread := fun _ => .resting
  requests := []
  started := ∅
  asked := ∅
  raised := ∅

def setCpu (g : InteractiveGovernor n) (c : Fin n) (s : InteractiveCpu) :
    InteractiveGovernor n :=
  { g with cpu := Function.update g.cpu c s }

def setPolicy (g : InteractiveGovernor n) (p : Fin n) (policy : InteractivePolicy n) :
    InteractiveGovernor n :=
  { g with policies := Function.update g.policies p policy }

def setThread (g : InteractiveGovernor n) (w : InteractiveThread n) (work : InteractiveWork n) :
    InteractiveGovernor n :=
  { g with thread := Function.update g.thread w work }

/-- `__cpufreq_driver_target` -/
def driverTarget (g : InteractiveGovernor n) (env : KernelEnv) (p : Fin n) (target : U32)
    (relation : Relation) : InteractiveGovernor n :=
  let request : Request := ⟨target, relation, (g.policies p).toCpufreqPolicy⟩
  { g with
    policies := Function.update g.policies p { g.policies p with cur := env.drive request }
    requests := g.requests ++ [(p, request)] }

/-! ## The timer and the idle hook -/

/-- The bit of the CPU is set, and the work is queued on the CPU unless it is pending. -/
def queueWork (g : InteractiveGovernor n) (queue : InteractiveQueue) (c : Fin n) (target : U32) :
    InteractiveGovernor n :=
  { g with
    targetFreq := target
    workCpumask := insert c g.workCpumask
    workQueued := g.workQueued.or (some (queue, c))
    asked := insert c g.asked
    raised := match queue with
      | .up => insert c g.raised
      | .down => g.raised.erase c }

/-- `cpufreq_interactive_timer`; the expired timer has been taken off. -/
def cpufreqInteractiveTimer (g : InteractiveGovernor n) (env : Env n) (c : Fin n) :
    Option (InteractiveGovernor n) :=
  let s : InteractiveCpu := { g.cpu c with timer := none }
  let updateTime := (env.reading c).sample.wall
  if updateTime = s.idleExitTime then some (g.setCpu c s)
  else
    g.policy.map fun p =>
      let policy := g.policies p
      let deltaIdle := (env.reading c).sample.idle - s.timeInIdle
      -- no idle cycles since coming out of idle
      if deltaIdle = 0 then
        if policy.cur = policy.max then g.setCpu c s
        else if env.nrRunning < 1 then g.setCpu c s
        else (g.setCpu c s).queueWork .up c policy.max
      else
        let armed := if 0 < env.nrRunning then s.arm env.toKernelEnv (env.reading c).reset else s
        if policy.cur = policy.min then g.setCpu c armed
        -- not at this frequency for the minimum sample time
        else if updateTime - g.freqChangeTime < g.minSampleTime.setWidth 64 then g.setCpu c armed
        else (g.setCpu c armed).queueWork .down c policy.min

/-- `cpufreq_idle`, up to the call of `pm_idle_old`. -/
def cpufreqIdleEnter (g : InteractiveGovernor n) (c : Fin n) : Option (InteractiveGovernor n) :=
  g.pmIdleOld.map fun _ => g.setCpu c { g.cpu c with inIdle := true }

/-- `cpufreq_idle`, after the call of `pm_idle_old`. -/
def cpufreqIdleExit (g : InteractiveGovernor n) (env : Env n) (c : Fin n) :
    Option (InteractiveGovernor n) :=
  g.policy.map fun p =>
    let s : InteractiveCpu := { g.cpu c with inIdle := false }
    if c ∉ (g.policies p).cpus then g.setCpu c s
    else if s.timer = none then g.setCpu c (s.arm env.toKernelEnv (env.reading c).reset)
    else g.setCpu c s

/-! ## The work function -/

/-- `cpufreq_interactive_calc_freq`, with the differences and the products in 32 bits. -/
def cpufreqInteractiveCalcFreq (g : InteractiveGovernor n) (policy : CpufreqPolicy)
    (reading : IdleReading) : U32 :=
  let idleTime := (reading.idle - g.freqChangeTimeInIdle).setWidth 32
  let deltaTime := (reading.wall - g.freqChangeTime).setWidth 32
  let cpuLoad := 100 * (deltaTime - idleTime) / deltaTime
  policy.cur * cpuLoad / 100

/-- The work is no longer pending, and the mask is copied. -/
def workBegin (g : InteractiveGovernor n) (w : InteractiveThread n) : InteractiveGovernor n :=
  { g with workQueued := none }.setThread w
    (.looping ((List.finRange n).filter (· ∈ g.workCpumask)))

/-- The target frequency is compared with the maximum. With a single task running, the CPU
is not taken up: its bit is cleared, and the function returns. -/
def workCompare (g : InteractiveGovernor n) (env : Env n) (w : InteractiveThread n) (c : Fin n)
    (todo : List (Fin n)) : Option (InteractiveGovernor n) :=
  g.policy.map fun p =>
    let seen : InteractiveGovernor n :=
      { g with asked := g.asked.erase c, raised := g.raised.erase c }
    if g.targetFreq = (g.policies p).max then
      if env.nrRunning = 1 then
        { seen with workCpumask := g.workCpumask.erase c }.setThread w .resting
      else seen.setThread w (.calling c .H todo)
    else seen.setThread w (.lowering c todo)

/-- The target frequency is set to what satisfies the load. -/
def workLower (g : InteractiveGovernor n) (env : Env n) (w : InteractiveThread n) (c : Fin n)
    (todo : List (Fin n)) : Option (InteractiveGovernor n) :=
  g.policy.map fun p =>
    let target := g.cpufreqInteractiveCalcFreq (g.policies p).toCpufreqPolicy
      (env.reading c).sample
    { g with targetFreq := target }.setThread w (.calling c .L todo)

/-- The driver sets the frequency, and the time of the change is taken. -/
def workCall (g : InteractiveGovernor n) (env : Env n) (w : InteractiveThread n) (c : Fin n)
    (relation : Relation) (todo : List (Fin n)) : Option (InteractiveGovernor n) :=
  g.policy.map fun p =>
    { g.driverTarget env.toKernelEnv p g.targetFreq relation with
      freqChangeTimeInIdle := (env.reading c).sample.idle
      freqChangeTime := (env.reading c).sample.wall }.setThread w (.driven c todo)

/-- The bit of the CPU is cleared. -/
def workClear (g : InteractiveGovernor n) (w : InteractiveThread n) (c : Fin n)
    (todo : List (Fin n)) : InteractiveGovernor n :=
  { g with workCpumask := g.workCpumask.erase c }.setThread w (.looping todo)

/-- `cpufreq_interactive_freq_change_time_work`: the next step of a thread. -/
def workStep (g : InteractiveGovernor n) (env : Env n) (w : InteractiveThread n) :
    Option (InteractiveGovernor n) :=
  match g.thread w with
  | .resting => some (g.workBegin w)
  | .looping [] => some (g.setThread w .resting)
  | .looping (c :: todo) => g.workCompare env w c todo
  | .lowering c todo => g.workLower env w c todo
  | .calling c relation todo => g.workCall env w c relation todo
  | .driven c todo => some (g.workClear w c todo)

/-! ## Governor events -/

/-- `GOV_START`: the new state, and the error that is returned. -/
def governorStart (g : InteractiveGovernor n) (env : Env n) (p : Fin n) (rc : Option Errno) :
    InteractiveGovernor n × Option Errno :=
  if env.online p = false then (g, some EINVAL)
  else
    let counted : InteractiveGovernor n := { g with activeCount := g.activeCount + 1 }
    if counted.activeCount > 1 then ({ counted with started := insert p g.started }, none)
    else
      match rc with
      | some errno => (counted, some errno)
      | none =>
          ({ counted with
            started := insert p g.started
            group := true
            pmIdleOld := g.pmIdle
            pmIdle := some .cpufreqIdle
            policy := some p }, none)

/-- `GOV_STOP` -/
def governorStop (g : InteractiveGovernor n) (p : Fin n) : InteractiveGovernor n :=
  let counted : InteractiveGovernor n :=
    { g with activeCount := g.activeCount - 1, started := g.started.erase p }
  if counted.activeCount > 1 then counted
  else
    { counted with group := false, pmIdle := g.pmIdleOld }.setCpu p
      { g.cpu p with timer := none }

/-- `GOV_LIMITS`, after the core has set the limits. -/
def governorLimits (g : InteractiveGovernor n) (env : KernelEnv) (p : Fin n) :
    InteractiveGovernor n :=
  let policy := g.policies p
  if policy.max < policy.cur then g.driverTarget env p policy.max .H
  else if policy.min > policy.cur then g.driverTarget env p policy.min .L
  else g

/-! ## Steps -/

/-- The core's order of the events of a policy. A timer expires when it is due, a thread
begins when the work is pending on it, and a CPU enters the hook that `pm_idle` is. -/
def Enabled (g : InteractiveGovernor n) (env : Env n) : InteractiveEvent n → Prop
  | .timer c => ∃ expiry ∈ (g.cpu c).timer, expiry ≤ env.jiffies
  | .idleEnter c => g.pmIdle = some .cpufreqIdle ∧ (g.cpu c).inIdle = false
  | .idleExit c => (g.cpu c).inIdle = true
  | .work w => g.thread w = .resting → g.workQueued = some w
  | .start p _ => p ∉ g.started
  | .stop p => p ∈ g.started
  | .limits p min max => p ∈ g.started ∧ min ≤ max
  | .store _ => g.group = true
  | .transition _ _ => True
  | .outside p _ => p ∉ g.started

instance (g : InteractiveGovernor n) (env : Env n) : DecidablePred (g.Enabled env)
  | .timer _ => inferInstanceAs (Decidable (∃ expiry ∈ _, expiry ≤ env.jiffies))
  | .idleEnter _ | .limits _ _ _ => inferInstanceAs (Decidable (_ ∧ _))
  | .idleExit _ | .store _ => inferInstanceAs (Decidable (_ = _))
  | .work _ => inferInstanceAs (Decidable (_ → _))
  | .start p _ | .outside p _ => inferInstanceAs (Decidable (¬ p ∈ g.started))
  | .stop p => inferInstanceAs (Decidable (p ∈ g.started))
  | .transition _ _ => .isTrue trivial

/-- The handler of an event. -/
def handle (g : InteractiveGovernor n) (env : Env n) :
    InteractiveEvent n → Option (InteractiveGovernor n)
  | .timer c => g.cpufreqInteractiveTimer env c
  | .idleEnter c => g.cpufreqIdleEnter c
  | .idleExit c => g.cpufreqIdleExit env c
  | .work w => g.workStep env w
  | .start p rc => some (g.governorStart env p rc).1
  | .stop p => some (g.governorStop p)
  | .limits p min max =>
      let limited := g.setPolicy p { g.policies p with min := min, max := max }
      some (limited.governorLimits env.toKernelEnv p)
  | .store minSampleTime => some { g with minSampleTime := minSampleTime }
  | .transition p cur => some (g.setPolicy p { g.policies p with cur := cur })
  | .outside p policy => some (g.setPolicy p policy)

/-- One step. -/
def step (g : InteractiveGovernor n) (action : InteractiveAction n) :
    Option (InteractiveGovernor n) :=
  if g.Enabled action.env action.event then g.handle action.env action.event else none

/-- A step is an event that can come here and its handler, which follows no null pointer. -/
theorem step_eq_some {g after : InteractiveGovernor n} {action : InteractiveAction n} :
    g.step action = some after ↔
      g.Enabled action.env action.event ∧ g.handle action.env action.event = some after :=
  Option.ite_none_right_eq_some

end InteractiveGovernor

end Jordan.Cpufreq
