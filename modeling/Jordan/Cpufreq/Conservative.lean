import Jordan.Cpufreq.BoostedInfo
import Jordan.Library.Execution
import Mathlib.Data.Fintype.Card

/-! # The conservative governor

The governor on `n` possible CPUs. A policy object is named by its `cpu`, and
`cur_policy` points to one. A step is one handler: an expired work item, a part of a
governor event, a transition that the governor did not ask for, or a store to a
tunable. `GOV_START` is two steps, the second one outside `dbs_mutex`, and
`GOV_STOP` three.

A null pointer that a handler follows is `none`; `Dbs.Enabled` tells that from an
event that cannot happen.
-/

namespace Jordan.Cpufreq

open Execution

/-! ## Times -/

/-- `jiffies_to_usecs` and `usecs_to_jiffies` of the kernel: ten jiffies are some time
below half the range, and a time that is not zero is a number of jiffies between 1 and
`MAX_JIFFY_OFFSET`. -/
structure JiffyClock where
  jiffiesToUsecs : U32 → U32
  usecsToJiffies : U32 → U32
  tenJiffies_pos : 0 < (jiffiesToUsecs 10).toNat
  tenJiffies_lt : (jiffiesToUsecs 10).toNat < 2 ^ 31
  usecsToJiffies_pos {time : U32} (positive : 0 < time.toNat) : 0 < (usecsToJiffies time).toNat
  usecsToJiffies_le (time : U32) : (usecsToJiffies time).toNat ≤ 2 ^ 30 - 2

/-- The conversions with 128 jiffies a second, for times below 536 seconds. -/
def JiffyClock.hz128 : JiffyClock where
  jiffiesToUsecs jiffies := BitVec.ofNat 32 (15625 * jiffies.toNat / 2)
  usecsToJiffies time := BitVec.ofNat 32 ((128 * time.toNat + 999999) / 1000000)
  tenJiffies_pos := by decide
  tenJiffies_lt := by decide
  usecsToJiffies_pos {time} positive := by
    have bound := time.isLt
    rw [BitVec.toNat_ofNat, Nat.mod_eq_of_lt (by omega)]
    omega
  usecsToJiffies_le time := by
    have bound := time.isLt
    rw [BitVec.toNat_ofNat, Nat.mod_eq_of_lt (by omega)]
    omega

/-- The fields of `kstat_cpu(cpu).cpustat` that the governor reads. -/
structure CpuStat where
  user : U64
  system : U64
  irq : U64
  softirq : U64
  steal : U64
  nice : U64
deriving DecidableEq, Repr

/-- What can be read about a CPU: the result of `get_cpu_idle_time_us`, which is -1
without accurate accounting, the time it was read at, the jiffies and the statistics. -/
structure CpuTimes where
  idleUs : U64
  wallUs : U64
  jiffies64 : U64
  stat : CpuStat
deriving DecidableEq, Repr

namespace JiffyClock

variable (clock : JiffyClock)

/-- `get_cpu_idle_time_jiffy` -/
def getCpuIdleTimeJiffy (times : CpuTimes) : IdleReading :=
  let busy := times.stat.user + times.stat.system + times.stat.irq + times.stat.softirq +
    times.stat.steal + times.stat.nice
  let idle := times.jiffies64 - busy
  { idle := (clock.jiffiesToUsecs (idle.setWidth 32)).setWidth 64
    wall := (clock.jiffiesToUsecs (times.jiffies64.setWidth 32)).setWidth 64 }

/-- `get_cpu_idle_time` -/
def getCpuIdleTime (times : CpuTimes) : IdleReading :=
  if times.idleUs = -1 then clock.getCpuIdleTimeJiffy times else ⟨times.idleUs, times.wallUs⟩

/-- The delay after which all CPUs sample nearly on the same jiffy. -/
def delay (samplingRate : U32) (jiffies : Nat) : U32 :=
  let delay := clock.usecsToJiffies samplingRate
  delay - BitVec.ofNat 32 jiffies % delay

end JiffyClock

/-! ## Tunables -/

/-- `struct dbs_tuners` -/
structure DbsTuners where
  samplingRate : U32
  samplingDownFactor : U32
  upThreshold : U32
  downThreshold : U32
  ignoreNice : U32
  freqStep : U32
deriving DecidableEq, Repr

/-- `dbs_tuners_ins` -/
def DbsTuners.default : DbsTuners where
  samplingRate := 0
  samplingDownFactor := 1
  upThreshold := 80
  downThreshold := 20
  ignoreNice := 0
  freqStep := 5

/-- The files that can be written. -/
inductive DbsTunable where
  | samplingRate
  | samplingDownFactor
  | upThreshold
  | downThreshold
  | ignoreNiceLoad
  | freqStep
deriving DecidableEq, Repr

/-- The store functions, on the number that `sscanf` finds, if any; a value that is
refused gives `-EINVAL`. -/
def DbsTuners.store (tuners : DbsTuners) (minSamplingRate : U32) (tunable : DbsTunable) :
    Option U32 → Except Errno DbsTuners
  | none => .error EINVAL
  | some input =>
    match tunable with
    | .samplingRate =>
        .ok { tuners with
          samplingRate := if input < minSamplingRate then minSamplingRate else input }
    | .samplingDownFactor =>
        if 10 < input ∨ input < 1 then .error EINVAL
        else .ok { tuners with samplingDownFactor := input }
    | .upThreshold =>
        if 100 < input ∨ input ≤ tuners.downThreshold then .error EINVAL
        else .ok { tuners with upThreshold := input }
    | .downThreshold =>
        if input < 11 ∨ 100 < input ∨ tuners.upThreshold ≤ input then .error EINVAL
        else .ok { tuners with downThreshold := input }
    | .ignoreNiceLoad => .ok { tuners with ignoreNice := if 1 < input then 1 else input }
    | .freqStep => .ok { tuners with freqStep := if 100 < input then 100 else input }

/-! ## The data of a CPU -/

/-- A policy object: its limits and its current frequency, the CPUs it applies to and
the transition latency in nanoseconds. -/
structure DbsPolicy (n : Nat) extends CpufreqPolicy where
  cpus : List (Fin n)
  transitionLatency : U32
deriving DecidableEq, Repr

/-- A delayed work that is queued: the CPU of its work queue, and the jiffy it is due. -/
structure QueuedWork where
  cpu : Nat
  expiry : Nat
deriving DecidableEq, Repr

/-- `struct cpu_dbs_info_s` -/
structure CpuDbsInfo (n : Nat) where
  prevCpuIdle : U64
  prevCpuWall : U64
  prevCpuNice : U64
  curPolicy : Option (Fin n)
  work : Option QueuedWork
  downSkip : U32
  requestedFreq : U32
  cpu : Nat
  enable : Bool

namespace CpuDbsInfo

variable {n : Nat}

/-- The per-CPU data before any event. -/
def init : CpuDbsInfo n where
  prevCpuIdle := 0
  prevCpuWall := 0
  prevCpuNice := 0
  curPolicy := none
  work := none
  downSkip := 0
  requestedFreq := 0
  cpu := 0
  enable := false

/-- The previous times become those read now, the nice time only when it is ignored. -/
def rebase (info : CpuDbsInfo n) (clock : JiffyClock) (ignoreNice : U32) (times : CpuTimes) :
    CpuDbsInfo n :=
  { info with
    prevCpuIdle := (clock.getCpuIdleTime times).idle
    prevCpuWall := (clock.getCpuIdleTime times).wall
    prevCpuNice := if ignoreNice ≠ 0 then times.stat.nice else info.prevCpuNice }

/-- The microseconds of nice time that count as idle. -/
def niceTime (info : CpuDbsInfo n) (clock : JiffyClock) (ignoreNice : U32) (times : CpuTimes) :
    U32 :=
  if ignoreNice ≠ 0 then clock.jiffiesToUsecs ((times.stat.nice - info.prevCpuNice).setWidth 32)
  else 0

/-- The load that a sample of a CPU shows, unless the sample is skipped. -/
def sampleLoad (info : CpuDbsInfo n) (clock : JiffyClock) (ignoreNice : U32) (times : CpuTimes) :
    Option U32 :=
  let now := clock.getCpuIdleTime times
  let wallTime := (now.wall - info.prevCpuWall).setWidth 32
  let idleTime := (now.idle - info.prevCpuIdle).setWidth 32 +
    info.niceTime clock ignoreNice times
  if wallTime = 0 ∨ wallTime < idleTime then none
  else some (100 * (wallTime - idleTime) / wallTime)

/-- `queue_delayed_work_on`: a work that is pending stays as it is. -/
def queueDelayedWorkOn (info : CpuDbsInfo n) (cpu expiry : Nat) : CpuDbsInfo n :=
  if info.work.isSome then info else { info with work := some ⟨cpu, expiry⟩ }

end CpuDbsInfo

/-- The step of the frequency, in percent of the maximum. -/
def DbsTuners.freqTarget (tuners : DbsTuners) (policy : CpufreqPolicy) : U32 :=
  tuners.freqStep * policy.max / 100

/-- The part of `dbs_check_cpu` after the load is known: the new data of the CPU, and
the frequency that is requested of the driver. -/
def CpuDbsInfo.scale {n : Nat} (info : CpuDbsInfo n) (tuners : DbsTuners) (policy : CpufreqPolicy)
    (load : U32) : CpuDbsInfo n × Option U32 :=
  if tuners.freqStep = 0 then (info, none)
  else if tuners.upThreshold < load then
    let info := { info with downSkip := 0 }
    if info.requestedFreq = policy.max then (info, none)
    else
      let freqTarget := if tuners.freqTarget policy = 0 then 5 else tuners.freqTarget policy
      let raised := info.requestedFreq + freqTarget
      let requested := if policy.max < raised then policy.max else raised
      ({ info with requestedFreq := requested }, some requested)
  else if load < tuners.downThreshold - 10 then
    let lowered := info.requestedFreq - tuners.freqTarget policy
    let requested := if lowered < policy.min then policy.min else lowered
    ({ info with requestedFreq := requested },
      if policy.cur = policy.min then none else some requested)
  else (info, none)

/-! ## The governor -/

/-- Where a CPU is between `GOV_START` and the end of `GOV_STOP`: `created` is between
the two steps of the start, `disabled` and `cancelled` are between those of the stop. -/
inductive DbsPhase where
  | stopped
  | created
  | running
  | disabled
  | cancelled
deriving DecidableEq, Repr

/-- A call of `__cpufreq_driver_target`, with the policy object as it is then. -/
structure DbsRequest (n : Nat) where
  owner : Fin n
  policy : CpufreqPolicy
  target : U32
  relation : Relation
deriving DecidableEq, Repr

/-- A transition of the driver: the new frequency, and the CPUs it notifies of it. -/
structure Transition (n : Nat) where
  new : U32
  notified : List (Fin n)

/-- The environment of a step: what a CPU can read, and whether the driver answers a
request by a transition. -/
structure DbsEnv (n : Nat) where
  jiffies : Nat
  online : Fin n → Bool
  times : Fin n → CpuTimes
  drive : DbsRequest n → Option (Transition n)

/-- The state of the governor, with the policy objects of the core. `registered` is the
notifier, `group` the files of a policy, and `requests` lists the calls of
`__cpufreq_driver_target`. -/
structure Dbs (n : Nat) where
  tuners : DbsTuners
  minSamplingRate : U32
  dbsEnable : Nat
  registered : Bool
  policy : Fin n → DbsPolicy n
  group : Fin n → Bool
  info : Fin n → CpuDbsInfo n
  phase : Fin n → DbsPhase
  requests : List (DbsRequest n)

/-- What can happen. `start` carries the policy as the core has prepared it, and the
result of `sysfs_create_group`. -/
inductive DbsEvent (n : Nat) where
  | start (c : Fin n) (policy : DbsPolicy n) (rc : Option Errno)
  | startTimer (c : Fin n)
  | work (c : Fin n)
  | limits (c : Fin n) (min max : U32)
  | transition (p : Fin n) (transition : Transition n)
  | store (tunable : DbsTunable) (input : Option U32)
  | stopDisable (c : Fin n)
  | stopCancel (c : Fin n)
  | stopFinish (c : Fin n)

/-- An event and its environment. -/
structure DbsAction (n : Nat) where
  event : DbsEvent n
  env : DbsEnv n

namespace Dbs

variable {n : Nat}

/-- The governor after `cpufreq_gov_dbs_init`, over the policies of the core. -/
def init (policy : Fin n → DbsPolicy n) : Dbs n where
  tuners := .default
  minSamplingRate := 0
  dbsEnable := 0
  registered := false
  policy := policy
  group := fun _ => false
  info := fun _ => .init
  phase := fun _ => .stopped
  requests := []

def setInfo (g : Dbs n) (c : Fin n) (info : CpuDbsInfo n) : Dbs n :=
  { g with info := Function.update g.info c info }

def setPhase (g : Dbs n) (c : Fin n) (phase : DbsPhase) : Dbs n :=
  { g with phase := Function.update g.phase c phase }

def setPolicy (g : Dbs n) (p : Fin n) (policy : DbsPolicy n) : Dbs n :=
  { g with policy := Function.update g.policy p policy }

/-! ### Transitions -/

/-- `dbs_cpufreq_notifier` -/
def dbsCpufreqNotifier (new : U32) (g : Dbs n) (c : Fin n) : Option (Dbs n) :=
  let info := g.info c
  if info.enable then
    info.curPolicy.map fun p =>
      let policy := g.policy p
      if policy.max < info.requestedFreq ∨ info.requestedFreq < policy.min then
        g.setInfo c { info with requestedFreq := new }
      else g
  else some g

/-- A transition of a policy: the registered notifier is called for each CPU that the
driver names. -/
def notifyTransition (g : Dbs n) (p : Fin n) (transition : Transition n) : Option (Dbs n) :=
  (exec (dbsCpufreqNotifier transition.new) g
      (if g.registered then transition.notified else [])).map fun notified =>
    notified.setPolicy p { notified.policy p with cur := transition.new }

/-- `__cpufreq_driver_target` -/
def driverTarget (g : Dbs n) (env : DbsEnv n) (p : Fin n) (target : U32) (relation : Relation) :
    Option (Dbs n) :=
  let request : DbsRequest n := ⟨p, (g.policy p).toCpufreqPolicy, target, relation⟩
  let asked : Dbs n := { g with requests := g.requests ++ [request] }
  match env.drive request with
  | none => some asked
  | some transition => asked.notifyTransition p transition

/-! ### The work item -/

/-- A turn of the loop that reads the CPUs of a policy; the load of the last CPU whose
sample counts is kept. -/
def sampleCpu (clock : JiffyClock) (env : DbsEnv n) (sampled : Dbs n × U32) (j : Fin n) :
    Dbs n × U32 :=
  let (g, load) := sampled
  let info := g.info j
  (g.setInfo j (info.rebase clock g.tuners.ignoreNice (env.times j)),
    (info.sampleLoad clock g.tuners.ignoreNice (env.times j)).getD load)

/-- The loop. -/
def sampleCpus (clock : JiffyClock) (env : DbsEnv n) (g : Dbs n) (cpus : List (Fin n)) :
    Dbs n × U32 :=
  cpus.foldl (sampleCpu clock env) (g, 0)

/-- The rest of `dbs_check_cpu`. -/
def scaleCpu (g : Dbs n) (env : DbsEnv n) (c p : Fin n) (load : U32) : Option (Dbs n) :=
  let (info, request) := (g.info c).scale g.tuners (g.policy p).toCpufreqPolicy load
  let scaled := g.setInfo c info
  match request with
  | none => some scaled
  | some target => scaled.driverTarget env p target .H

/-- `dbs_check_cpu` -/
def dbsCheckCpu (clock : JiffyClock) (g : Dbs n) (env : DbsEnv n) (c : Fin n) : Option (Dbs n) :=
  (g.info c).curPolicy.bind fun p =>
    let (sampled, load) := g.sampleCpus clock env (g.policy p).cpus
    sampled.scaleCpu env c p load

/-- `do_dbs_timer`; the work is no longer pending when its function runs. -/
def doDbsTimer (clock : JiffyClock) (g : Dbs n) (env : DbsEnv n) (c : Fin n) : Option (Dbs n) :=
  let delay := clock.delay g.tuners.samplingRate env.jiffies
  (dbsCheckCpu clock (g.setInfo c { g.info c with work := none }) env c).map fun checked =>
    checked.setInfo c
      ((checked.info c).queueDelayedWorkOn (g.info c).cpu (env.jiffies + delay.toNat))

/-! ### Governor events -/

/-- The loop of `GOV_START`. -/
def startCpus (clock : JiffyClock) (env : DbsEnv n) (g : Dbs n) (p : Fin n)
    (cpus : List (Fin n)) : Dbs n :=
  cpus.foldl (fun g j =>
    g.setInfo j ({ g.info j with curPolicy := some p }.rebase clock g.tuners.ignoreNice
      (env.times j))) g

/-- The latency in microseconds, at least 1. -/
def latency (policy : DbsPolicy n) : U32 :=
  if policy.transitionLatency / 1000 = 0 then 1 else policy.transitionLatency / 1000

/-- What the first start adds: the sampling rates and the notifier. -/
def startFirst (clock : JiffyClock) (g : Dbs n) (policy : DbsPolicy n) : Dbs n :=
  let fromJiffies := 2 * clock.jiffiesToUsecs 10
  let fromLatency := 100 * latency policy
  let minSamplingRate := if fromJiffies < fromLatency then fromLatency else fromJiffies
  let fromDriver := latency policy * 1000
  { g with
    minSamplingRate := minSamplingRate
    tuners := { g.tuners with
      samplingRate := if minSamplingRate < fromDriver then fromDriver else minSamplingRate }
    registered := true }

/-- What `GOV_START` sets for the CPUs of the policy and for the CPU it is sent to. -/
def startCpu (clock : JiffyClock) (g : Dbs n) (env : DbsEnv n) (c : Fin n) : Dbs n :=
  let created : Dbs n := { g with group := Function.update g.group c true }
  let started := created.startCpus clock env c (g.policy c).cpus
  started.setInfo c { started.info c with downSkip := 0, requestedFreq := (g.policy c).cur }

/-- The start is counted. -/
def countStart (clock : JiffyClock) (g : Dbs n) (policy : DbsPolicy n) : Dbs n :=
  let counted : Dbs n := { g with dbsEnable := g.dbsEnable + 1 }
  if counted.dbsEnable = 1 then counted.startFirst clock policy else counted

/-- `GOV_START` up to the unlocking of `dbs_mutex`: the new state, and the error. -/
def governorStart (clock : JiffyClock) (g : Dbs n) (env : DbsEnv n) (c : Fin n)
    (rc : Option Errno) : Dbs n × Option Errno :=
  let policy := g.policy c
  if env.online c = false ∨ policy.cur = 0 then (g, some EINVAL)
  else
    match rc with
    | some errno => (g, some errno)
    | none => (((g.startCpu clock env c).countStart clock policy).setPhase c .created, none)

/-- `dbs_timer_init` -/
def dbsTimerInit (clock : JiffyClock) (g : Dbs n) (env : DbsEnv n) (c : Fin n) : Dbs n :=
  let delay := clock.delay g.tuners.samplingRate env.jiffies
  -- `INIT_DELAYED_WORK_DEFERRABLE` forgets a pending work
  let initialised := { g.info c with enable := true, work := none }
  (g.setInfo c (initialised.queueDelayedWorkOn initialised.cpu
    (env.jiffies + delay.toNat))).setPhase c .running

/-- `GOV_LIMITS` -/
def governorLimits (g : Dbs n) (env : DbsEnv n) (c : Fin n) : Option (Dbs n) :=
  (g.info c).curPolicy.bind fun p =>
    let cur := (g.policy p).cur
    if (g.policy c).max < cur then g.driverTarget env p (g.policy c).max .H
    else if cur < (g.policy c).min then g.driverTarget env p (g.policy c).min .L
    else some g

/-- The last step of `GOV_STOP`. -/
def stopFinish (g : Dbs n) (c : Fin n) : Dbs n :=
  { g with
    group := Function.update g.group c false
    dbsEnable := g.dbsEnable - 1
    registered := if g.dbsEnable - 1 = 0 then false else g.registered
    phase := Function.update g.phase c .stopped }

/-! ### Stores -/

/-- The re-evaluation of the previous times of the online CPUs. -/
def rebaseOnline (clock : JiffyClock) (g : Dbs n) (env : DbsEnv n) : Dbs n :=
  { g with
    info := fun j =>
      if env.online j then (g.info j).rebase clock g.tuners.ignoreNice (env.times j)
      else g.info j }

/-- A store function: the new state, and the error. -/
def store (clock : JiffyClock) (g : Dbs n) (env : DbsEnv n) (tunable : DbsTunable)
    (input : Option U32) : Dbs n × Option Errno :=
  match g.tuners.store g.minSamplingRate tunable input with
  | .error errno => (g, some errno)
  | .ok tuners =>
      let stored : Dbs n := { g with tuners := tuners }
      if tuners.ignoreNice = g.tuners.ignoreNice then (stored, none)
      else (stored.rebaseOnline clock env, none)

/-! ### Steps -/

/-- The governor has been started for the CPU and its stop has not ended. -/
def Live (g : Dbs n) (c : Fin n) : Prop := g.phase c ≠ .stopped

instance (g : Dbs n) (c : Fin n) : Decidable (g.Live c) := inferInstanceAs (Decidable (_ ≠ _))

/-- The core's order of events and the policies it prepares: they contain their CPU, no
CPU twice, and none of another policy that is in use. A work runs when it is due, and a
file of the governor is written while it is there. -/
def Enabled (g : Dbs n) (env : DbsEnv n) : DbsEvent n → Prop
  | .start c policy _ =>
      g.phase c = .stopped ∧ c ∈ policy.cpus ∧ policy.cpus.Nodup ∧ policy.Ordered ∧
        ∀ other, g.Live other → ∀ j ∈ policy.cpus, j ∉ (g.policy other).cpus
  | .startTimer c => g.phase c = .created
  | .work c => ∃ work ∈ (g.info c).work, work.expiry ≤ env.jiffies
  | .limits c min max => g.phase c = .running ∧ min ≤ max
  | .transition _ _ => True
  | .store _ _ => ∃ c, g.group c = true
  | .stopDisable c => g.phase c = .running
  | .stopCancel c => g.phase c = .disabled
  | .stopFinish c => g.phase c = .cancelled

instance (g : Dbs n) (env : DbsEnv n) : DecidablePred (g.Enabled env) := fun event => by
  cases event <;> unfold Enabled <;> infer_instance

/-- The handler of an event. -/
def handle (clock : JiffyClock) (g : Dbs n) (env : DbsEnv n) : DbsEvent n → Option (Dbs n)
  | .start c policy rc => some ((g.setPolicy c policy).governorStart clock env c rc).1
  | .startTimer c => some (g.dbsTimerInit clock env c)
  | .work c => g.doDbsTimer clock env c
  | .limits c min max =>
      (g.setPolicy c { g.policy c with min := min, max := max }).governorLimits env c
  | .transition p transition => g.notifyTransition p transition
  | .store tunable input => some (g.store clock env tunable input).1
  | .stopDisable c => some ((g.setInfo c { g.info c with enable := false }).setPhase c .disabled)
  | .stopCancel c => some ((g.setInfo c { g.info c with work := none }).setPhase c .cancelled)
  | .stopFinish c => some (g.stopFinish c)

/-- One step. -/
def step (clock : JiffyClock) (g : Dbs n) (action : DbsAction n) : Option (Dbs n) :=
  if g.Enabled action.env action.event then g.handle clock action.env action.event else none

/-- A step is an event that can come, handled at once. -/
theorem step_eq_some {clock : JiffyClock} {g after : Dbs n} {action : DbsAction n} :
    g.step clock action = some after ↔
      g.Enabled action.env action.event ∧
        g.handle clock action.env action.event = some after :=
  Option.ite_none_right_eq_some

end Dbs

end Jordan.Cpufreq
