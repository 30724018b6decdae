import Jordan.Cpufreq.BoostedInfo
import Jordan.Library.Execution
import Mathlib.Data.List.FinRange
import Mathlib.Logic.Relation

/-! # The boosted governor

The governor on `n` possible CPUs. A step is one handler: an expired timer, the
entry or the exit of the idle hook, the work item, a governor event, the suspend
or resume of the device, or a store to a tunable. `GOV_STOP` is four steps, so
that other handlers can run between them; the core does not send a CPU another
event meanwhile. The core passes every event of a CPU the same policy object.
-/

namespace Jordan.Cpufreq

open Execution

/-- The functions `pm_idle` can point to. -/
inductive IdleHandler where
  | original
  | cpufreqIdle
deriving DecidableEq, Repr

/-- The state of the governor. `requests` lists the calls of
`__cpufreq_driver_target`; `jiffies` and `wall` are the times of the last step. A null
pointer is `none`. -/
structure Governor (n : Nat) where
  tunables : Tunables
  activeCount : Int
  pmIdle : Option IdleHandler
  pmIdleOld : Option IdleHandler
  sysfsGroup : Bool
  suspended : Bool
  workQueued : Bool
  cpu : Fin n → CpuState
  requests : List (Fin n × Request)
  jiffies : Nat
  wall : Fin n → U64

/-- The environment of a step. -/
structure Env (n : Nat) extends KernelEnv where
  online : Fin n → Bool
  reading : Fin n → CpuReading

/-- The tunables that have a store function and are not masks for messages. -/
inductive Tunable where
  | upRateUs
  | downRateUs
  | sleepIdealFreq
  | sleepWakeupFreq
  | awakeIdealFreq
  | sampleRateJiffies
  | rampUpStep
  | rampDownStep
  | maxCpuLoad
  | minCpuLoad
deriving DecidableEq, Repr

/-- The store functions, on a number that `strict_strtoul` accepts. -/
def Tunables.store (tunables : Tunables) (input : U32) : Tunable → Tunables
  | .upRateUs => if input ≤ 100000000 then { tunables with upRateUs := input } else tunables
  | .downRateUs => if input ≤ 100000000 then { tunables with downRateUs := input } else tunables
  | .sleepIdealFreq => { tunables with sleepIdealFreq := input }
  | .sleepWakeupFreq => { tunables with sleepWakeupFreq := input }
  | .awakeIdealFreq => { tunables with awakeIdealFreq := input }
  | .sampleRateJiffies =>
      if 0 < input ∧ input ≤ 1000 then { tunables with sampleRateJiffies := input } else tunables
  | .rampUpStep => { tunables with rampUpStep := input }
  | .rampDownStep => { tunables with rampDownStep := input }
  | .maxCpuLoad =>
      if 0 < input ∧ input ≤ 100 then { tunables with maxCpuLoad := input } else tunables
  | .minCpuLoad =>
      if 0 < input ∧ input < 100 then { tunables with minCpuLoad := input } else tunables

/-- What can happen. `start` carries the result of `sysfs_create_group`, and
`earlySuspend` and `lateResume` the CPU that runs them. -/
inductive Event (n : Nat) where
  | timer (c : Fin n)
  | idleEnter (c : Fin n)
  | idleExit (c : Fin n)
  | work
  | start (c : Fin n) (policy : CpufreqPolicy) (freqTable : Option FreqTable)
      (rc : Option Errno)
  | limits (c : Fin n) (min max : U32)
  | stopClear (c : Fin n)
  | stopDelTimer (c : Fin n)
  | stopFlush (c : Fin n)
  | stopFinish (c : Fin n)
  | earlySuspend (current : Fin n)
  | lateResume (current : Fin n)
  | store (tunable : Tunable) (input : U32)

/-- An event and its environment. -/
structure Action (n : Nat) where
  event : Event n
  env : Env n

/-- What a handler does to one CPU: its new state, whether it queues the work,
and the request it makes. -/
structure CpuEffect where
  state : CpuState
  queued : Bool
  request : Option Request

namespace Governor

variable {n : Nat}

/-- The governor after `cpufreq_boosted_init`. -/
def init (n : Nat) : Governor n where
  tunables := .default
  activeCount := 0
  pmIdle := some .original
  pmIdleOld := none
  sysfsGroup := false
  suspended := false
  workQueued := false
  cpu := fun _ => .init
  requests := []
  jiffies := 0
  wall := fun _ => 0

/-- Apply the effect of a handler on a CPU. -/
def onCpu (g : Governor n) (c : Fin n) (effect : CpuEffect) : Governor n :=
  { g with
    cpu := Function.update g.cpu c effect.state
    workQueued := g.workQueued || effect.queued
    requests := g.requests ++ effect.request.toList.map (c, ·) }

/-- A handler that changes the per-CPU data and makes a request. -/
def setInfo (g : Governor n) (c : Fin n) (info : BoostedInfo) (request : Option Request) :
    Governor n :=
  g.onCpu c ⟨{ g.cpu c with info := info }, false, request⟩

/-- A step of `GOV_STOP`. -/
def setPhase (g : Governor n) (c : Fin n) (info : BoostedInfo) (phase : GovPhase) : Governor n :=
  g.onCpu c ⟨{ g.cpu c with info := info, phase := phase }, false, none⟩

/-! ## Handlers -/

/-- `cpufreq_boosted_timer` -/
def cpufreqBoostedTimer (g : Governor n) (env : Env n) (c : Fin n) : Option (Governor n) :=
  let s := g.cpu c
  (s.info.expire g.tunables env.toKernelEnv (env.reading c)).map fun (info, queued) =>
    g.onCpu c ⟨{ s with info := info, inMask := s.inMask || queued }, queued, none⟩

/-- `cpufreq_idle`, up to the call of `pm_idle_old`. -/
def cpufreqIdleEnter (g : Governor n) (c : Fin n) : Option (Governor n) :=
  let s := g.cpu c
  if s.info.enable then
    s.info.curPolicy.map fun policy =>
      let info := if policy.cur = policy.min then { s.info with timer := none } else s.info
      g.onCpu c ⟨{ s with info := info, hook := some true }, false, none⟩
  else some (g.onCpu c ⟨{ s with hook := some false }, false, none⟩)

/-- `cpufreq_idle`, after the call of `pm_idle_old`. -/
def cpufreqIdleExit (g : Governor n) (env : Env n) (c : Fin n) (enabled : Bool) : Governor n :=
  let s := g.cpu c
  let info :=
    if enabled then
      s.info.resetUnlessPending g.tunables env.toKernelEnv (env.reading c).reset
    else s.info
  g.onCpu c ⟨{ s with info := info, hook := none }, false, none⟩

/-- One turn of the loop of `cpufreq_boosted_freq_change_time_work`, which
carries `relation` from one CPU to the next. -/
def workOn (kernel : TableTarget) (env : Env n) (loop : Governor n × Relation) (c : Fin n) :
    Option (Governor n × Relation) :=
  let (g, relation) := loop
  let s := g.cpu c
  if s.inMask then
    s.info.curPolicy.map fun policy =>
      let info := s.info.freqChangeTimeWork kernel g.tunables env.toKernelEnv policy relation
        (env.reading c)
      let request := s.info.rampRequest kernel g.tunables env.toKernelEnv policy relation
      (g.onCpu c ⟨{ s with info := info, inMask := false }, false, request⟩,
        (s.info.rampFreq g.tunables env.toKernelEnv policy relation).2)
  else some (g, relation)

/-- `cpufreq_boosted_freq_change_time_work`. The work is no longer queued when
its function runs. -/
def freqChangeTimeWork (g : Governor n) (kernel : TableTarget) (env : Env n) :
    Option (Governor n) :=
  (exec (workOn kernel env) ({ g with workQueued := false }, .L) (List.finRange n)).map Prod.fst

/-- `flush_work(&freq_scale_work)` -/
def flushWork (g : Governor n) (kernel : TableTarget) (env : Env n) : Option (Governor n) :=
  if g.workQueued then g.freqChangeTimeWork kernel env else some g

/-- `GOV_START`: the new state, and the error that is returned. -/
def governorStart (g : Governor n) (env : Env n) (c : Fin n) (policy : CpufreqPolicy)
    (freqTable : Option FreqTable) (rc : Option Errno) : Governor n × Option Errno :=
  if env.online c = false ∨ policy.cur = 0 then (g, some EINVAL)
  else
    let info := (g.cpu c).info.start g.tunables g.suspended policy freqTable
    let counted : Governor n := { g with activeCount := g.activeCount + 1 }
    let armed := info.armBelowMax g.tunables env.toKernelEnv policy (env.reading c)
    if counted.activeCount ≤ 1 then
      match rc with
      | some errno => (counted.setPhase c info .out, some errno)
      | none =>
          ({ counted with
              sysfsGroup := true
              pmIdleOld := g.pmIdle
              pmIdle := some .cpufreqIdle }.setPhase c armed .started, none)
    else (counted.setPhase c armed .started, none)

/-- `GOV_LIMITS`, on the policy with its new limits. -/
def governorLimits (g : Governor n) (env : Env n) (c : Fin n) (policy : CpufreqPolicy) :
    Governor n :=
  g.setInfo c
    ((g.cpu c).info.limits g.tunables g.suspended env.toKernelEnv policy (env.reading c))
    (BoostedInfo.limitsRequest policy)

/-- The end of `GOV_STOP`: `idle_exit_time` is cleared and `active_count`
decremented. -/
def stopFinish (g : Governor n) (c : Fin n) : Governor n :=
  let counted : Governor n := { g with activeCount := g.activeCount - 1 }
  let removed : Governor n :=
    if counted.activeCount ≤ 1 then
      { counted with sysfsGroup := false, pmIdle := g.pmIdleOld }
    else counted
  removed.setPhase c { (g.cpu c).info with idleExitTime := 0 } .stopped

/-- `boosted_suspend(i, suspend)` on the CPU that runs it. -/
def boostedSuspend (g : Governor n) (env : Env n) (current : Fin n) (suspend : Bool)
    (i : Fin n) : Option (Governor n) :=
  let info := (g.cpu current).info
  if info.enable then
    info.curPolicy.map fun policy =>
      g.setInfo current
        (info.boostedSuspend g.tunables env.toKernelEnv policy suspend
          ⟨(env.reading i).sample, (env.reading current).reset⟩)
        (if suspend then none else some (BoostedInfo.resumeRequest g.tunables policy))
  else some g

/-- Run a handler for each online CPU. -/
def forEachOnline (env : Env n) (handler : Governor n → Fin n → Option (Governor n))
    (g : Governor n) : Option (Governor n) :=
  exec (fun g i => if env.online i then handler g i else some g) g (List.finRange n)

/-- `boosted_early_suspend` -/
def boostedEarlySuspend (g : Governor n) (env : Env n) (current : Fin n) :
    Option (Governor n) :=
  if g.suspended ∨ g.tunables.sleepIdealFreq = 0 then some g
  else forEachOnline env (boostedSuspend · env current true) { g with suspended := true }

/-- `boosted_late_resume` -/
def boostedLateResume (g : Governor n) (env : Env n) (current : Fin n) :
    Option (Governor n) :=
  if g.suspended then
    forEachOnline env (boostedSuspend · env current false) { g with suspended := false }
  else some g

/-- `boosted_update_min_max` of an enabled CPU. -/
def updateMinMax (g : Governor n) (i : Fin n) : Option (Governor n) :=
  let info := (g.cpu i).info
  if info.enable then
    info.curPolicy.map fun policy =>
      g.setInfo i (info.updateMinMax g.tunables policy g.suspended) none
  else some g

/-- The store function of the tunable updates the ideal speeds. -/
def updatesIdeal (g : Governor n) : Tunable → Bool
  | .sleepIdealFreq => g.suspended
  | .awakeIdealFreq => !g.suspended
  | _ => false

/-- A store function: an ideal frequency in use reaches the CPUs at once. -/
def store (g : Governor n) (env : Env n) (tunable : Tunable) (input : U32) :
    Option (Governor n) :=
  let stored : Governor n := { g with tunables := g.tunables.store input tunable }
  -- `boosted_update_min_max_allcpus`
  if g.updatesIdeal tunable then forEachOnline env updateMinMax stored else some stored

/-! ## Steps -/

/-- The handler of an event, when the event can happen. -/
def handle (kernel : TableTarget) (g : Governor n) (env : Env n) :
    Event n → Option (Governor n)
  | .timer c =>
      match (g.cpu c).info.timer with
      | some expiry => if expiry ≤ env.jiffies then g.cpufreqBoostedTimer env c else none
      | none => none
  | .idleEnter c =>
      if g.pmIdle = some .cpufreqIdle ∧ (g.cpu c).hook = none then g.cpufreqIdleEnter c else none
  | .idleExit c => (g.cpu c).hook.map (g.cpufreqIdleExit env c)
  | .work => if g.workQueued then g.freqChangeTimeWork kernel env else none
  | .start c policy freqTable rc =>
      if (g.cpu c).phase.Settled then some (g.governorStart env c policy freqTable rc).1 else none
  | .limits c min max =>
      if (g.cpu c).phase.Settled then
        (g.cpu c).info.curPolicy.map fun policy =>
          g.governorLimits env c { policy with min := min, max := max }
      else none
  | .stopClear c =>
      if (g.cpu c).phase.Settled then
        some (g.setPhase c { (g.cpu c).info with enable := false } .cleared)
      else none
  | .stopDelTimer c =>
      if (g.cpu c).phase = .cleared then
        some (g.setPhase c { (g.cpu c).info with timer := none } .deleted)
      else none
  | .stopFlush c =>
      if (g.cpu c).phase = .deleted then
        (g.flushWork kernel env).map fun g => g.setPhase c (g.cpu c).info .flushed
      else none
  | .stopFinish c => if (g.cpu c).phase = .flushed then some (g.stopFinish c) else none
  | .earlySuspend current => g.boostedEarlySuspend env current
  | .lateResume current => g.boostedLateResume env current
  | .store tunable input => g.store env tunable input

/-- An event that happens, with what it needs and what its handler leaves. -/
inductive Happens (kernel : TableTarget) (g : Governor n) (env : Env n) :
    Event n → Governor n → Prop where
  | timer {c : Fin n} {expiry : Nat} {after : Governor n}
      (pending : (g.cpu c).info.timer = some expiry) (due : expiry ≤ env.jiffies)
      (ran : g.cpufreqBoostedTimer env c = some after) : Happens kernel g env (.timer c) after
  | idleEnter {c : Fin n} {after : Governor n}
      (ran : g.cpufreqIdleEnter c = some after) : Happens kernel g env (.idleEnter c) after
  | idleExit {c : Fin n} {entered : Bool} (inside : (g.cpu c).hook = some entered) :
      Happens kernel g env (.idleExit c) (g.cpufreqIdleExit env c entered)
  | work {after : Governor n} (queued : g.workQueued = true)
      (ran : g.freqChangeTimeWork kernel env = some after) : Happens kernel g env .work after
  | start (c : Fin n) (policy : CpufreqPolicy) (freqTable : Option FreqTable)
      (rc : Option Errno) :
      Happens kernel g env (.start c policy freqTable rc)
        (g.governorStart env c policy freqTable rc).1
  | limits {c : Fin n} {min max : U32} {policy : CpufreqPolicy}
      (current : (g.cpu c).info.curPolicy = some policy) :
      Happens kernel g env (.limits c min max)
        (g.governorLimits env c { policy with min := min, max := max })
  | stopClear (c : Fin n) :
      Happens kernel g env (.stopClear c)
        (g.setPhase c { (g.cpu c).info with enable := false } .cleared)
  | stopDelTimer {c : Fin n} (cleared : (g.cpu c).phase = .cleared) :
      Happens kernel g env (.stopDelTimer c)
        (g.setPhase c { (g.cpu c).info with timer := none } .deleted)
  | stopFlush {c : Fin n} {flushed : Governor n} (deleted : (g.cpu c).phase = .deleted)
      (waited : g.flushWork kernel env = some flushed) :
      Happens kernel g env (.stopFlush c) (flushed.setPhase c (flushed.cpu c).info .flushed)
  | stopFinish {c : Fin n} (flushed : (g.cpu c).phase = .flushed) :
      Happens kernel g env (.stopFinish c) (g.stopFinish c)
  | earlySuspend {current : Fin n} {after : Governor n}
      (ran : g.boostedEarlySuspend env current = some after) :
      Happens kernel g env (.earlySuspend current) after
  | lateResume {current : Fin n} {after : Governor n}
      (ran : g.boostedLateResume env current = some after) :
      Happens kernel g env (.lateResume current) after
  | store {tunable : Tunable} {input : U32} {after : Governor n}
      (ran : g.store env tunable input = some after) :
      Happens kernel g env (.store tunable input) after

/-- What is handled happens. -/
theorem happens_of_handle {kernel : TableTarget} {g after : Governor n} {env : Env n}
    {event : Event n} (ran : g.handle kernel env event = some after) :
    Happens kernel g env event after := by
  cases event with
  | timer c =>
      simp only [handle] at ran
      split at ran
      next expiry pending =>
        obtain ⟨due, ran⟩ := Option.ite_none_right_eq_some.mp ran
        exact .timer pending due ran
      next => cases ran
  | idleEnter c => exact .idleEnter (Option.ite_none_right_eq_some.mp ran).2
  | idleExit c =>
      obtain ⟨entered, inside, rfl⟩ := Option.map_eq_some_iff.mp ran
      exact .idleExit inside
  | work =>
      obtain ⟨queued, ran⟩ := Option.ite_none_right_eq_some.mp ran
      exact .work queued ran
  | start c policy freqTable rc =>
      obtain ⟨_, ran⟩ := Option.ite_none_right_eq_some.mp ran
      exact Option.some.inj ran ▸ .start c policy freqTable rc
  | limits c min max =>
      obtain ⟨_, ran⟩ := Option.ite_none_right_eq_some.mp ran
      obtain ⟨policy, current, rfl⟩ := Option.map_eq_some_iff.mp ran
      exact .limits current
  | stopClear c =>
      obtain ⟨_, ran⟩ := Option.ite_none_right_eq_some.mp ran
      exact Option.some.inj ran ▸ .stopClear c
  | stopDelTimer c =>
      obtain ⟨cleared, ran⟩ := Option.ite_none_right_eq_some.mp ran
      exact Option.some.inj ran ▸ .stopDelTimer cleared
  | stopFlush c =>
      obtain ⟨deleted, ran⟩ := Option.ite_none_right_eq_some.mp ran
      obtain ⟨flushed, waited, rfl⟩ := Option.map_eq_some_iff.mp ran
      exact .stopFlush deleted waited
  | stopFinish c =>
      obtain ⟨flushed, ran⟩ := Option.ite_none_right_eq_some.mp ran
      exact Option.some.inj ran ▸ .stopFinish flushed
  | earlySuspend current => exact .earlySuspend ran
  | lateResume current => exact .lateResume ran
  | store tunable input => exact .store ran

/-- Record the times of a step. -/
def tick (g : Governor n) (env : Env n) : Governor n :=
  { g with jiffies := env.jiffies, wall := fun c => (env.reading c).reset.wall }

/-- One step of the governor. -/
def step (kernel : TableTarget) (g : Governor n) (action : Action n) : Option (Governor n) :=
  (g.handle kernel action.env action.event).map (·.tick action.env)

/-- The order in which the core sends events to a CPU. -/
def Orderly (g : Governor n) : Event n → Prop
  | .start c _ _ _ => (g.cpu c).phase = .out ∨ (g.cpu c).phase = .stopped
  | .limits c _ _ => (g.cpu c).phase = .started
  | .stopClear c => (g.cpu c).phase = .started
  | _ => True

instance (g : Governor n) : DecidablePred g.Orderly := fun event => by
  cases event <;> unfold Orderly <;> infer_instance

/-- A step of the governor under the core. -/
def coreStep (kernel : TableTarget) (g : Governor n) (action : Action n) : Option (Governor n) :=
  if g.Orderly action.event then g.step kernel action else none

/-- A step of the core is an orderly step. -/
theorem coreStep_eq_some {kernel : TableTarget} {g after : Governor n} {action : Action n} :
    g.coreStep kernel action = some after ↔
      g.Orderly action.event ∧ g.step kernel action = some after := by
  simp only [coreStep, Option.ite_none_right_eq_some]

/-! ## The effect on one CPU -/

section OnCpu

variable {g : Governor n} {c d : Fin n} {effect : CpuEffect}

@[simp] theorem onCpu_self : (g.onCpu c effect).cpu c = effect.state := Function.update_self ..

theorem onCpu_of_ne (other : d ≠ c) : (g.onCpu c effect).cpu d = g.cpu d :=
  Function.update_of_ne other ..

/-- What an effect leaves alone on its CPU is left alone on all CPUs. -/
theorem onCpu_view {View : Type*} (view : CpuState → View)
    (same : view effect.state = view (g.cpu c)) (d : Fin n) :
    view ((g.onCpu c effect).cpu d) = view (g.cpu d) := by
  rcases eq_or_ne d c with rfl | other
  · rw [onCpu_self, same]
  · rw [onCpu_of_ne other]

@[simp] theorem onCpu_activeCount : (g.onCpu c effect).activeCount = g.activeCount := rfl
@[simp] theorem onCpu_workQueued :
    (g.onCpu c effect).workQueued = (g.workQueued || effect.queued) := rfl

end OnCpu

/-! ## Handlers that are not governor events

Such a handler has a sequence of effects on CPUs, and may change the tunables,
`suspended` and whether the work is queued. What an effect can do is said once,
in `Fits`, and every property of the handlers is derived from it.
-/

/-- A loop over the online CPUs respects what its handler respects. -/
theorem forEachOnline_related {env : Env n} {handler : Governor n → Fin n → Option (Governor n)}
    (related : Governor n → Governor n → Prop) (refl : ∀ g, related g g)
    (trans : ∀ {first second third}, related first second → related second third →
      related first third)
    (each : ∀ before i after, handler before i = some after → related before after)
    {start last : Governor n} (ran : forEachOnline env handler start = some last) :
    related start last := by
  refine exec_related id refl trans ?_ ran
  intro before i after taken
  split at taken
  · exact each _ _ _ taken
  · exact Option.some.inj taken ▸ refl before

/-- No handler has anything to do on the CPU. -/
structure Resting (s : CpuState) : Prop where
  disabled : s.info.enable = false
  timer : s.info.timer = none
  clear : s.inMask = false

/-- An effect of a handler on a CPU. It changes neither what the governor events
decide nor the limits of the policy; a request is made with the policy of the
CPU and within its limits; and a CPU at rest is left alone, unless it is one of
those that leave an idle hook they entered enabled. -/
structure Fits (leaves : Fin n → Prop) (g : Governor n) (c : Fin n) (effect : CpuEffect) :
    Prop where
  phase : effect.state.phase = (g.cpu c).phase
  enable : effect.state.info.enable = (g.cpu c).info.enable
  limits : effect.state.info.curPolicy.map CpufreqPolicy.limits =
    (g.cpu c).info.curPolicy.map CpufreqPolicy.limits
  request : ∀ request ∈ effect.request, request.policy ∈ (g.cpu c).info.curPolicy ∧
    (request.policy.Ordered → request.policy.Contains request.target)
  rests : ¬ leaves c → Resting (g.cpu c) → effect.state.info = (g.cpu c).info ∧
    effect.state.inMask = (g.cpu c).inMask ∧ effect.request = none

/-- One effect, or a change of what is shared by the CPUs. -/
inductive HandlerStep (leaves : Fin n → Prop) : Governor n → Governor n → Prop where
  | effect {g : Governor n} {c : Fin n} {effect : CpuEffect} (fits : Fits leaves g c effect) :
      HandlerStep leaves g (g.onCpu c effect)
  | shared {g : Governor n} (tunables : Tunables) (suspended workQueued : Bool) :
      HandlerStep leaves g
        { g with tunables := tunables, suspended := suspended, workQueued := workQueued }

/-- What a handler does. -/
abbrev Handles (leaves : Fin n → Prop) : Governor n → Governor n → Prop :=
  Relation.ReflTransGen (HandlerStep leaves)

section Handlers

variable {leaves : Fin n → Prop} {g after : Governor n} {env : Env n}

/-- An effect that fits is one handler step. -/
theorem Fits.handles {c : Fin n} {effect : CpuEffect} (fits : Fits leaves g c effect) :
    Handles leaves g (g.onCpu c effect) :=
  .single (.effect fits)

/-- The expiry of a pending timer is a series of handler steps. -/
theorem cpufreqBoostedTimer_handles {c : Fin n} (pending : (g.cpu c).info.timer ≠ none)
    (ran : g.cpufreqBoostedTimer env c = some after) : Handles leaves g after := by
  simp only [cpufreqBoostedTimer, BoostedInfo.expire, Option.map_map, Option.map_eq_some_iff] at ran
  obtain ⟨policy, _, rfl⟩ := ran
  exact Fits.handles
    { phase := rfl
      enable := BoostedInfo.timerFunction_enable ..
      limits := congrArg _ (BoostedInfo.timerFunction_curPolicy ..)
      request := nofun
      rests := fun _ resting => absurd resting.timer pending }

theorem cpufreqIdleEnter_handles {c : Fin n} (ran : g.cpufreqIdleEnter c = some after) :
    Handles leaves g after := by
  simp only [cpufreqIdleEnter] at ran
  split at ran
  next enabled =>
    obtain ⟨policy, _, rfl⟩ := Option.map_eq_some_iff.mp ran
    refine Fits.handles
      { phase := rfl
        enable := ?_
        limits := ?_
        request := nofun
        rests := fun _ resting => Bool.noConfusion (enabled.symm.trans resting.disabled) }
    · simp only
      split <;> rfl
    · simp only
      split <;> rfl
  next =>
    obtain rfl := Option.some.inj ran
    exact Fits.handles ⟨rfl, rfl, rfl, nofun, fun _ _ => ⟨rfl, rfl, rfl⟩⟩

/-- The exit of the idle hook looks only at what was the case at its entry. -/
theorem cpufreqIdleExit_handles {c : Fin n} {enabled : Bool}
    (leaving : enabled = true → leaves c) :
    Handles leaves g (g.cpufreqIdleExit env c enabled) := by
  cases enabled with
  | true =>
      exact Fits.handles
        { phase := rfl
          enable := BoostedInfo.resetUnlessPending_enable ..
          limits := congrArg _ (BoostedInfo.resetUnlessPending_curPolicy ..)
          request := nofun
          rests := fun stays => absurd (leaving rfl) stays }
  | false => exact Fits.handles ⟨rfl, rfl, rfl, nofun, fun _ _ => ⟨rfl, rfl, rfl⟩⟩

/-- A turn of the work is a series of handler steps. -/
theorem workOn_handles {kernel : TableTarget} {before after : Governor n × Relation}
    {c : Fin n} (ran : workOn kernel env before c = some after) :
    Handles leaves before.1 after.1 := by
  simp only [workOn] at ran
  split at ran
  next set =>
    obtain ⟨policy, current, rfl⟩ := Option.map_eq_some_iff.mp ran
    refine Fits.handles
      { phase := rfl
        enable := BoostedInfo.freqChangeTimeWork_enable ..
        limits := ?_
        request := ?_
        rests := fun _ resting => Bool.noConfusion (set.symm.trans resting.clear) }
    · rw [BoostedInfo.freqChangeTimeWork_limits, current, Option.map_some]
    · intro request made
      obtain ⟨same, contained⟩ := BoostedInfo.rampRequest_contains made
      exact ⟨same ▸ current, fun ordered => contained ordered⟩
  next => exact Option.some.inj ran ▸ .refl

/-- The work is a series of handler steps. -/
theorem freqChangeTimeWork_handles {kernel : TableTarget}
    (ran : g.freqChangeTimeWork kernel env = some after) : Handles leaves g after := by
  obtain ⟨last, looped, rfl⟩ := Option.map_eq_some_iff.mp ran
  exact .head (.shared g.tunables g.suspended false)
    (exec_related Prod.fst (fun _ => .refl) .trans (fun _ _ _ => workOn_handles) looped)

/-- A flush of the work is a series of handler steps. -/
theorem flushWork_handles (leaves : Fin n → Prop) {kernel : TableTarget}
    (ran : g.flushWork kernel env = some after) : Handles leaves g after := by
  unfold flushWork at ran
  split at ran
  · exact freqChangeTimeWork_handles ran
  · exact Option.some.inj ran ▸ .refl

theorem boostedSuspend_handles {current i : Fin n} {suspend : Bool}
    (ran : g.boostedSuspend env current suspend i = some after) : Handles leaves g after := by
  simp only [boostedSuspend] at ran
  split at ran
  next enabled =>
    obtain ⟨policy, found, rfl⟩ := Option.map_eq_some_iff.mp ran
    refine Fits.handles
      { phase := rfl
        enable := BoostedInfo.boostedSuspend_enable ..
        limits := ?_
        request := ?_
        rests := fun _ resting => Bool.noConfusion (enabled.symm.trans resting.disabled) }
    · exact BoostedInfo.boostedSuspend_limits found ..
    · intro request made
      cases suspend with
      | true => cases made
      | false =>
          obtain rfl := Option.some.inj made
          exact ⟨found, fun ordered => contains_validateFreq ordered _⟩
  next => exact Option.some.inj ran ▸ .refl

theorem updateMinMax_handles {i : Fin n} (ran : g.updateMinMax i = some after) :
    Handles leaves g after := by
  simp only [updateMinMax] at ran
  split at ran
  next enabled =>
    obtain ⟨policy, _, rfl⟩ := Option.map_eq_some_iff.mp ran
    exact Fits.handles
      { phase := rfl
        enable := rfl
        limits := rfl
        request := nofun
        rests := fun _ resting => Bool.noConfusion (enabled.symm.trans resting.disabled) }
  next => exact Option.some.inj ran ▸ .refl

/-- A loop over the online CPUs is a series of handler steps, if each turn is. -/
theorem forEachOnline_handles {handler : Governor n → Fin n → Option (Governor n)}
    (each : ∀ before i after, handler before i = some after → Handles leaves before after)
    (ran : forEachOnline env handler g = some after) : Handles leaves g after :=
  forEachOnline_related (Handles leaves) (fun _ => .refl) .trans each ran

/-- An early suspend is a series of handler steps. -/
theorem boostedEarlySuspend_handles {current : Fin n}
    (ran : g.boostedEarlySuspend env current = some after) : Handles leaves g after := by
  unfold boostedEarlySuspend at ran
  split at ran
  · exact Option.some.inj ran ▸ .refl
  · exact .head (.shared g.tunables true g.workQueued)
      (forEachOnline_handles (fun _ _ _ => boostedSuspend_handles) ran)

/-- A late resume is a series of handler steps. -/
theorem boostedLateResume_handles {current : Fin n}
    (ran : g.boostedLateResume env current = some after) : Handles leaves g after := by
  unfold boostedLateResume at ran
  split at ran
  · exact .head (.shared g.tunables false g.workQueued)
      (forEachOnline_handles (fun _ _ _ => boostedSuspend_handles) ran)
  · exact Option.some.inj ran ▸ .refl

/-- A store is a series of handler steps. -/
theorem store_handles {tunable : Tunable} {input : U32}
    (ran : g.store env tunable input = some after) : Handles leaves g after := by
  simp only [store] at ran
  have stored : Handles leaves g { g with tunables := g.tunables.store input tunable } :=
    .single (.shared (g.tunables.store input tunable) g.suspended g.workQueued)
  split at ran
  · exact stored.trans (forEachOnline_handles (fun _ _ _ => updateMinMax_handles) ran)
  · exact Option.some.inj ran ▸ stored

end Handlers

/-! ## Governor events -/

section Start

variable (g : Governor n) (env : Env n) (c : Fin n) (policy : CpufreqPolicy)
  (freqTable : Option FreqTable)

/-- The per-CPU data when `active_count` is incremented. -/
abbrev startInfo : BoostedInfo :=
  (g.cpu c).info.start g.tunables g.suspended policy freqTable

/-- The per-CPU data at the end of `GOV_START`. -/
abbrev armedInfo : BoostedInfo :=
  (g.startInfo c policy freqTable).armBelowMax g.tunables env.toKernelEnv policy (env.reading c)

/-- What `GOV_START` does, by the outcome: the state it leads to and the error
it returns. -/
inductive StartTaken : Option Errno → Governor n → Option Errno → Prop where
  | refused {rc : Option Errno} (offline : env.online c = false ∨ policy.cur = 0) :
      StartTaken rc g (some EINVAL)
  | failed {errno : Errno} (accepted : ¬ (env.online c = false ∨ policy.cur = 0))
      (first : g.activeCount + 1 ≤ 1) :
      StartTaken (some errno)
        ({ g with activeCount := g.activeCount + 1 }.setPhase c
          (g.startInfo c policy freqTable) .out) (some errno)
  | installed (accepted : ¬ (env.online c = false ∨ policy.cur = 0))
      (first : g.activeCount + 1 ≤ 1) :
      StartTaken none
        ({ g with
            activeCount := g.activeCount + 1
            sysfsGroup := true
            pmIdleOld := g.pmIdle
            pmIdle := some .cpufreqIdle }.setPhase c
          (g.armedInfo env c policy freqTable) .started) none
  | joined {rc : Option Errno} (accepted : ¬ (env.online c = false ∨ policy.cur = 0))
      (later : ¬ g.activeCount + 1 ≤ 1) :
      StartTaken rc
        ({ g with activeCount := g.activeCount + 1 }.setPhase c
          (g.armedInfo env c policy freqTable) .started) none

/-- Every start is one of the cases of `StartTaken`. -/
theorem governorStart_taken (rc : Option Errno) :
    StartTaken g env c policy freqTable rc (g.governorStart env c policy freqTable rc).1
      (g.governorStart env c policy freqTable rc).2 := by
  simp only [governorStart]
  split_ifs with refused first
  · exact .refused refused
  · cases rc with
    | some errno => exact .failed refused first
    | none => exact .installed refused first
  · exact .joined refused first

end Start

section StopFinish

variable (g : Governor n) (c : Fin n)

theorem stopFinish_activeCount : (g.stopFinish c).activeCount = g.activeCount - 1 := by
  simp only [stopFinish]
  split <;> rfl

/-- The end of `GOV_STOP` puts the saved idle function back when at most one CPU is left. -/
theorem stopFinish_pmIdle :
    (g.stopFinish c).pmIdle = if g.activeCount - 1 ≤ 1 then g.pmIdleOld else g.pmIdle := by
  simp only [stopFinish]
  split <;> rfl

theorem stopFinish_pmIdleOld : (g.stopFinish c).pmIdleOld = g.pmIdleOld := by
  simp only [stopFinish]
  split <;> rfl

theorem stopFinish_sysfsGroup :
    (g.stopFinish c).sysfsGroup = if g.activeCount - 1 ≤ 1 then false else g.sysfsGroup := by
  simp only [stopFinish]
  split <;> rfl

/-- The CPUs and the requests are those after the last step of `GOV_STOP`. -/
theorem stopFinish_cpu : (g.stopFinish c).cpu =
    (g.setPhase c { (g.cpu c).info with idleExitTime := 0 } .stopped).cpu := by
  simp only [stopFinish]
  split <;> rfl

theorem stopFinish_requests : (g.stopFinish c).requests =
    (g.setPhase c { (g.cpu c).info with idleExitTime := 0 } .stopped).requests := by
  simp only [stopFinish]
  split <;> rfl

end StopFinish

/-- The CPU that a governor event is for. -/
def subject : Event n → Option (Fin n)
  | .start c _ _ _ | .limits c _ _ | .stopClear c | .stopDelTimer c | .stopFlush c
  | .stopFinish c => some c
  | _ => none

/-- The CPU leaves the idle hook, which it entered enabled. -/
def LeavesHook (g : Governor n) (event : Event n) (c : Fin n) : Prop :=
  event = .idleExit c ∧ (g.cpu c).hook = some true

/-- What an event does. The events that are no governor events are handled. -/
inductive EventTaken (g : Governor n) (env : Env n) : Event n → Governor n → Prop where
  | handled {event : Event n} {after : Governor n} (plain : subject event = none)
      (handles : Handles (g.LeavesHook event) g after) : EventTaken g env event after
  | start {c : Fin n} {policy : CpufreqPolicy} {freqTable : Option FreqTable}
      {rc returned : Option Errno} {after : Governor n}
      (result : g.governorStart env c policy freqTable rc = (after, returned))
      (taken : StartTaken g env c policy freqTable rc after returned) :
      EventTaken g env (.start c policy freqTable rc) after
  | limits {c : Fin n} {min max : U32} {policy : CpufreqPolicy}
      (current : (g.cpu c).info.curPolicy = some policy) :
      EventTaken g env (.limits c min max)
        (g.governorLimits env c { policy with min := min, max := max })
  | stopClear (c : Fin n) :
      EventTaken g env (.stopClear c)
        (g.setPhase c { (g.cpu c).info with enable := false } .cleared)
  | stopDelTimer {c : Fin n} (cleared : (g.cpu c).phase = .cleared) :
      EventTaken g env (.stopDelTimer c)
        (g.setPhase c { (g.cpu c).info with timer := none } .deleted)
  | stopFlush {c : Fin n} {flushed : Governor n} (deleted : (g.cpu c).phase = .deleted)
      (handles : Handles (fun _ => False) g flushed) :
      EventTaken g env (.stopFlush c) (flushed.setPhase c (flushed.cpu c).info .flushed)
  | stopFinish {c : Fin n} (flushed : (g.cpu c).phase = .flushed) :
      EventTaken g env (.stopFinish c) (g.stopFinish c)

/-- Every event is one of the cases of `EventTaken`. -/
theorem handle_taken {kernel : TableTarget} {g after : Governor n} {env : Env n}
    {event : Event n} (ran : g.handle kernel env event = some after) :
    EventTaken g env event after := by
  cases happens_of_handle ran with
  | timer pending _ ran =>
      exact .handled rfl (cpufreqBoostedTimer_handles
        (by rw [pending]; exact Option.some_ne_none _) ran)
  | idleEnter ran => exact .handled rfl (cpufreqIdleEnter_handles ran)
  | idleExit inside =>
      exact .handled rfl (cpufreqIdleExit_handles fun entered => ⟨rfl, entered ▸ inside⟩)
  | work _ ran => exact .handled rfl (freqChangeTimeWork_handles ran)
  | earlySuspend ran => exact .handled rfl (boostedEarlySuspend_handles ran)
  | lateResume ran => exact .handled rfl (boostedLateResume_handles ran)
  | store ran => exact .handled rfl (store_handles ran)
  | start c policy freqTable rc =>
      exact .start rfl (governorStart_taken g env c policy freqTable rc)
  | limits current => exact .limits current
  | stopClear c => exact .stopClear c
  | stopDelTimer cleared => exact .stopDelTimer cleared
  | stopFlush deleted waited => exact .stopFlush deleted (flushWork_handles _ waited)
  | stopFinish flushed => exact .stopFinish flushed

/-- A relation that holds between the states before and after every step of a
handler holds between those before and after the handler. -/
theorem Handles.related {leaves : Fin n → Prop} (related : Governor n → Governor n → Prop)
    (refl : ∀ g, related g g)
    (trans : ∀ {first second third}, related first second → related second third →
      related first third)
    (each : ∀ {before after}, HandlerStep leaves before after → related before after)
    {before after : Governor n} (handles : Handles leaves before after) : related before after := by
  induction handles with
  | refl => exact refl _
  | tail _ step ih => exact trans ih (each step)

/-- The governor events of the two states are the same. -/
structure SameLife (before after : Governor n) : Prop where
  activeCount : after.activeCount = before.activeCount
  pmIdle : after.pmIdle = before.pmIdle
  pmIdleOld : after.pmIdleOld = before.pmIdleOld
  sysfsGroup : after.sysfsGroup = before.sysfsGroup
  phase (c : Fin n) : (after.cpu c).phase = (before.cpu c).phase
  enable (c : Fin n) : (after.cpu c).info.enable = (before.cpu c).info.enable

namespace SameLife

variable {g before middle after : Governor n}

theorem refl (g : Governor n) : SameLife g g := ⟨rfl, rfl, rfl, rfl, fun _ => rfl, fun _ => rfl⟩

theorem trans (first : SameLife before middle) (second : SameLife middle after) :
    SameLife before after where
  activeCount := second.activeCount.trans first.activeCount
  pmIdle := second.pmIdle.trans first.pmIdle
  pmIdleOld := second.pmIdleOld.trans first.pmIdleOld
  sysfsGroup := second.sysfsGroup.trans first.sysfsGroup
  phase c := (second.phase c).trans (first.phase c)
  enable c := (second.enable c).trans (first.enable c)

theorem onCpu {c : Fin n} {effect : CpuEffect} (phase : effect.state.phase = (g.cpu c).phase)
    (enable : effect.state.info.enable = (g.cpu c).info.enable) :
    SameLife g (g.onCpu c effect) where
  activeCount := rfl
  pmIdle := rfl
  pmIdleOld := rfl
  sysfsGroup := rfl
  phase := onCpu_view (·.phase) phase
  enable := onCpu_view (·.info.enable) enable

end SameLife

/-- Handlers do not start or stop the governor. -/
theorem Handles.sameLife {leaves : Fin n → Prop} {before after : Governor n}
    (handles : Handles leaves before after) : SameLife before after := by
  refine handles.related SameLife .refl .trans fun step => ?_
  cases step with
  | effect fits => exact .onCpu fits.phase fits.enable
  | shared => exact ⟨rfl, rfl, rfl, rfl, fun _ => rfl, fun _ => rfl⟩

theorem tick_sameLife (g : Governor n) (env : Env n) : SameLife g (g.tick env) :=
  ⟨rfl, rfl, rfl, rfl, fun _ => rfl, fun _ => rfl⟩

/-! ## A busy device -/

/-- A step on a device whose CPUs are online and never idle, with 10ms to the
jiffy. The driver sets the frequency it is asked for. -/
def busyEnv (n jiffies : Nat) : Env n where
  jiffies := jiffies
  nrRunning := 2
  drive := Request.target
  online := fun _ => true
  reading := fun _ =>
    let now : IdleReading := ⟨0, BitVec.ofNat 64 (10000 * (jiffies + 1))⟩
    ⟨now, now⟩

/-- Events that happen in one jiffy. -/
def atJiffy (jiffies : Nat) (events : List (Event n)) : List (Action n) :=
  events.map fun event => ⟨event, busyEnv n jiffies⟩

/-- A start between 300 and 1000 MHz. -/
def startAt (c : Fin n) (cur : U32) : Event n := .start c ⟨300000, 1000000, cur⟩ none none

/-- The CPU of a device with one, and those of a device with two. -/
def onlyCpu : Fin 1 := ⟨0, Nat.one_pos⟩
def firstCpu : Fin 2 := ⟨0, Nat.two_pos⟩
def secondCpu : Fin 2 := ⟨1, Nat.one_lt_two⟩

/-- The steps of `GOV_STOP`. -/
def stop (c : Fin n) : List (Event n) :=
  [.stopClear c, .stopDelTimer c, .stopFlush c, .stopFinish c]

end Governor

end Jordan.Cpufreq
