import Jordan.Cpufreq.BoostedRamp

/-! # How long the boosted governor stays at a frequency

A ramp up from the ideal speed is to be queued `up_rate_us` after the last change
of the frequency at the earliest, and a ramp down `down_rate_us` after it. The
timer compares with `freq_change_time`, which the work item sets when it has made
a request and an early suspend sets without one; `GOV_LIMITS` and a late resume
make requests and leave it as it is. In runs in which these two leave the frequency
as it is, the frequency is kept as long as it should be
(`Jordan.Cpufreq.Governor.Dwelling.dwell_kept`).
-/

namespace Jordan.Cpufreq

open Execution

namespace BoostedInfo

/-! ## What sets `freq_change_time` -/

section Frame

variable (info : BoostedInfo) (tunables : Tunables) (env : KernelEnv) (policy : CpufreqPolicy)
  (suspended : Bool) (reading : CpuReading)

@[simp] theorem resetUnlessPending_freqChangeTime (sample : IdleReading) :
    (info.resetUnlessPending tunables env sample).freqChangeTime = info.freqChangeTime := by
  unfold resetUnlessPending
  split <;> rfl

@[simp] theorem armBelowMax_freqChangeTime :
    (info.armBelowMax tunables env policy reading).freqChangeTime = info.freqChangeTime := by
  unfold armBelowMax
  split
  · exact resetUnlessPending_freqChangeTime ..
  · rfl

@[simp] theorem timerFunction_freqChangeTime :
    (info.timerFunction tunables env policy reading).1.freqChangeTime = info.freqChangeTime := by
  simp only [timerFunction]
  split_ifs <;> first | rfl | exact resetUnlessPending_freqChangeTime ..

@[simp] theorem limits_freqChangeTime :
    (info.limits tunables suspended env policy reading).freqChangeTime = info.freqChangeTime := by
  simp only [limits, armBelowMax_freqChangeTime]
  rfl

theorem boostedSuspend_freqChangeTime :
    (info.boostedSuspend tunables env policy suspended reading).freqChangeTime =
      if suspended then reading.sample.wall else info.freqChangeTime := by
  cases suspended <;> rfl

/-- The work dates the CPU exactly if it has a frequency to ask for. -/
theorem freqChangeTimeWork_freqChangeTime (kernel : TableTarget) (relation : Relation) :
    (info.freqChangeTimeWork kernel tunables env policy relation reading).freqChangeTime =
      if ((info.rampRequest kernel tunables env policy relation).map Request.target).getD 0 ≠ 0
        then reading.sample.wall
      else info.freqChangeTime := by
  simp only [freqChangeTimeWork]
  split_ifs <;> rfl

end Frame

/-! ## What the timer compares -/

section Sample

variable {info sampled : BoostedInfo} {tunables : Tunables} {env : KernelEnv}
  {policy : CpufreqPolicy} {reading : CpuReading}

/-- The rate has passed since a change of the frequency, if the ramp leads away from
the ideal speed and is not one up after a sample without idle time. -/
def Waited (info : BoostedInfo) (tunables : Tunables) (policy : CpufreqPolicy)
    (reading : IdleReading) (changed : U64) (ramp : RampDir) : Prop :=
  (ramp = .up → ¬ policy.cur.slt info.idealSpeed → reading.idle - info.timeInIdle ≠ 0 →
      changed.toNat + tunables.upRateUs.toNat ≤ reading.wall.toNat) ∧
    (ramp = .down → ¬ info.idealSpeed.slt policy.cur →
      changed.toNat + tunables.downRateUs.toNat ≤ reading.wall.toNat)

/-- A ramp that is queued is the one that the sample asks for. -/
theorem expire_queued (ran : info.expire tunables env reading = some (sampled, true))
    (current : info.curPolicy = some policy) :
    ∃ load, sampled.rampDir = info.sampledRamp tunables policy load
      (reading.sample.idle - info.timeInIdle) reading.sample.wall := by
  simp only [expire, current, Option.map_some, Option.some.injEq, timerFunction] at ran
  split_ifs at ran
  · cases ran
  · cases ran
  · exact ⟨_, congrArg BoostedInfo.rampDir (Prod.mk.inj ran).1.symm⟩
  · cases ran
  · cases ran

/-- A ramp up of a CPU that was idle meanwhile waits for `up_rate_us`. -/
theorem rate_of_sampledRamp_up {load : U32} {deltaIdle updateTime : U64}
    (up : info.sampledRamp tunables policy load deltaIdle updateTime = .up)
    (above : ¬ policy.cur.slt info.idealSpeed) (idled : deltaIdle ≠ 0) :
    tunables.upRateUs.setWidth 64 ≤ updateTime - info.freqChangeTime := by
  simp only [sampledRamp] at up
  split_ifs at up with high rises
  exact (rises.2.resolve_left above).resolve_left idled

/-- A ramp down to the ideal speed waits for `down_rate_us`. -/
theorem rate_of_sampledRamp_down {load : U32} {deltaIdle updateTime : U64}
    (down : info.sampledRamp tunables policy load deltaIdle updateTime = .down)
    (below : ¬ info.idealSpeed.slt policy.cur) :
    tunables.downRateUs.setWidth 64 ≤ updateTime - info.freqChangeTime := by
  simp only [sampledRamp] at down
  split_ifs at down with high rises falls
  exact falls.2.2.resolve_left below

end Sample

end BoostedInfo

namespace Governor

variable {n : Nat} {c : Fin n} {env : Env n}

/-- The requests that are made for the CPU leave its frequency as it is. -/
def Steady (c : Fin n) (env : Env n) (before after : Governor n) : Prop :=
  ∃ made, after.requests = before.requests ++ made ∧
    ∀ request ∈ ownRequests c made, env.drive request = request.policy.cur

theorem Steady.of_same {before after : Governor n} (requests : after.requests = before.requests) :
    Steady c env before after :=
  ⟨[], by rw [requests, List.append_nil], nofun⟩

/-- Steady steps one after the other are steady. -/
theorem Steady.trans {before middle after : Governor n} (first : Steady c env before middle)
    (second : Steady c env middle after) : Steady c env before after := by
  obtain ⟨made, extended, kept⟩ := first
  obtain ⟨more, further, still⟩ := second
  refine ⟨made ++ more, ?_, ?_⟩
  · rw [further, extended, List.append_assoc]
  · intro request member
    rw [ownRequests_append] at member
    exact (List.mem_append.mp member).elim (kept request) (still request)

/-- Neither the frequency of the CPU nor its `freq_change_time` is changed. -/
structure Leaves (c : Fin n) (env : Env n) (before after : Governor n) : Prop where
  time : (after.cpu c).info.freqChangeTime = (before.cpu c).info.freqChangeTime
  steady : Steady c env before after

namespace Leaves

variable {g now before middle after : Governor n}

theorem of_same (cpus : after.cpu c = before.cpu c) (requests : after.requests = before.requests) :
    Leaves c env before after :=
  ⟨congrArg (·.info.freqChangeTime) cpus, .of_same requests⟩

theorem refl (g : Governor n) : Leaves c env g g := of_same rfl rfl

theorem trans (first : Leaves c env before middle) (second : Leaves c env middle after) :
    Leaves c env before after :=
  ⟨second.time.trans first.time, first.steady.trans second.steady⟩

/-- An effect on a CPU, whatever it does to another one. -/
theorem onCpu {d : Fin n} {effect : CpuEffect}
    (time : effect.state.info.freqChangeTime = (g.cpu d).info.freqChangeTime)
    (kept : d = c → ∀ request ∈ effect.request, env.drive request = request.policy.cur) :
    Leaves c env g (g.onCpu d effect) := by
  refine ⟨onCpu_view (·.info.freqChangeTime) time c, _, rfl, ?_⟩
  intro request member
  rcases eq_or_ne d c with rfl | other
  · rw [ownRequests_self] at member
    exact kept rfl request (Option.mem_toList.mp member)
  · rw [ownRequests_of_ne other] at member
    cases member

/-- An effect that makes no request, after a change of what the CPUs share. -/
theorem silent {d : Fin n} {state : CpuState} {queued : Bool} (cpus : now.cpu = g.cpu)
    (requests : now.requests = g.requests)
    (time : state.info.freqChangeTime = (g.cpu d).info.freqChangeTime) :
    Leaves c env g (now.onCpu d ⟨state, queued, none⟩) :=
  (of_same (congrFun cpus c) requests).trans (onCpu (cpus ▸ time) fun _ => nofun)

end Leaves

/-! ## The handlers that leave the frequency as it is -/

section Handlers

variable {g after : Governor n}

theorem cpufreqBoostedTimer_leaves {d : Fin n} (ran : g.cpufreqBoostedTimer env d = some after) :
    Leaves c env g after := by
  simp only [cpufreqBoostedTimer, BoostedInfo.expire, Option.map_map, Option.map_eq_some_iff] at ran
  obtain ⟨policy, _, rfl⟩ := ran
  exact .silent rfl rfl (BoostedInfo.timerFunction_freqChangeTime ..)

/-- Entering idle leaves the dates and frequencies. -/
theorem cpufreqIdleEnter_leaves {d : Fin n} (ran : g.cpufreqIdleEnter d = some after) :
    Leaves c env g after := by
  simp only [cpufreqIdleEnter] at ran
  split at ran
  next =>
    obtain ⟨policy, _, rfl⟩ := Option.map_eq_some_iff.mp ran
    refine .silent rfl rfl ?_
    simp only
    split <;> rfl
  next =>
    obtain rfl := Option.some.inj ran
    exact .silent rfl rfl rfl

theorem cpufreqIdleExit_leaves {d : Fin n} {enabled : Bool} :
    Leaves c env g (g.cpufreqIdleExit env d enabled) := by
  cases enabled with
  | true => exact .silent rfl rfl (BoostedInfo.resetUnlessPending_freqChangeTime ..)
  | false => exact .silent rfl rfl rfl

/-- A start asks for no frequency. -/
theorem governorStart_leaves {d : Fin n} {policy : CpufreqPolicy} {freqTable : Option FreqTable}
    {rc : Option Errno} : Leaves c env g (g.governorStart env d policy freqTable rc).1 := by
  have armed : (g.armedInfo env d policy freqTable).freqChangeTime =
      (g.cpu d).info.freqChangeTime := BoostedInfo.armBelowMax_freqChangeTime ..
  have taken := g.governorStart_taken env d policy freqTable rc
  generalize g.governorStart env d policy freqTable rc = result at taken ⊢
  obtain ⟨after, returned⟩ := result
  cases taken with
  | refused => exact Leaves.refl _
  | failed => exact Leaves.silent rfl rfl rfl
  | installed => exact Leaves.silent rfl rfl armed
  | joined => exact Leaves.silent rfl rfl armed

/-- Recomputing the limits leaves the dates and frequencies. -/
theorem updateMinMax_leaves {i : Fin n} (ran : g.updateMinMax i = some after) :
    Leaves c env g after := by
  simp only [updateMinMax] at ran
  split at ran
  next =>
    obtain ⟨policy, _, rfl⟩ := Option.map_eq_some_iff.mp ran
    exact .silent rfl rfl rfl
  next => exact Option.some.inj ran ▸ .refl g

/-- A store leaves the dates and frequencies. -/
theorem store_leaves {tunable : Tunable} {input : U32}
    (ran : g.store env tunable input = some after) : Leaves c env g after := by
  simp only [store] at ran
  have stored : Leaves c env g { g with tunables := g.tunables.store input tunable } :=
    .of_same rfl rfl
  split at ran
  · exact stored.trans (forEachOnline_related (Leaves c env) .refl .trans
      (fun _ _ _ => updateMinMax_leaves) ran)
  · exact Option.some.inj ran ▸ stored

theorem stopFinish_leaves {d : Fin n} : Leaves c env g (g.stopFinish d) := by
  have finished : Leaves c env g
      (g.setPhase d { (g.cpu d).info with idleExitTime := 0 } .stopped) := .silent rfl rfl rfl
  exact finished.trans (.of_same (congrFun (stopFinish_cpu g d) c) (stopFinish_requests g d))

end Handlers

/-! ## The handlers that may change the frequency -/

/-- The new limits leave the frequency of the CPU as it is. -/
def LimitsSteady (g : Governor n) (env : Env n) (c : Fin n) (min max : U32) : Prop :=
  ∀ policy ∈ (g.cpu c).info.curPolicy,
    ∀ request ∈ BoostedInfo.limitsRequest { policy with min := min, max := max },
      env.drive request = policy.cur

/-- A resume leaves the frequency of the CPU as it is. -/
def ResumeSteady (g : Governor n) (env : Env n) (c : Fin n) : Prop :=
  (g.cpu c).info.enable = true → ∀ policy ∈ (g.cpu c).info.curPolicy,
    env.drive (BoostedInfo.resumeRequest g.tunables policy) = policy.cur

/-- The work item does not change the frequency of the CPU by asking for 0 kHz. -/
def WorkNonzero (g : Governor n) (kernel : TableTarget) (env : Env n) (c : Fin n) : Prop :=
  ∀ after ∈ g.freqChangeTimeWork kernel env, ∀ request ∈ g.madeFor after c,
    request.target = 0 → env.drive request = request.policy.cur

/-- A step that changes the frequency of the CPU is one of the work item, and does
not ask for 0 kHz. -/
def DatesChanges (kernel : TableTarget) (c : Fin n) (g : Governor n) (action : Action n) : Prop :=
  match action.event with
  | .limits d min max => d = c → g.LimitsSteady action.env c min max
  | .lateResume current => current = c → g.suspended = true → g.ResumeSteady action.env c
  | .work | .stopFlush _ => g.workQueued = true → g.WorkNonzero kernel action.env c
  | _ => True

/-- The CPUs whose clock is read for `freq_change_time` of the CPU. -/
def ReadFor (c : Fin n) : Event n → Fin n → Prop
  | .earlySuspend current, i => i = c ∨ current = c
  | _, i => i = c

theorem readFor_self (c : Fin n) (event : Event n) : ReadFor c event c := by
  cases event with
  | earlySuspend => exact .inl rfl
  | _ => rfl

/-- What a step does: it leaves the frequency and `freq_change_time` as they are, or
it sets the latter, and then a change of the frequency is timed by the CPU's clock. -/
def Outcome (c : Fin n) (env : Env n) (event : Event n) (before after : Governor n) : Prop :=
  Leaves c env before after ∨
    ∃ i, ReadFor c event i ∧
      (after.cpu c).info.freqChangeTime = (env.reading i).sample.wall ∧
      (i = c ∧ (∃ made, after.requests = before.requests ++ made) ∨ Steady c env before after)

/-- A step that leaves the CPU adds nothing to the outcome of those before it. -/
theorem Outcome.leaves {event : Event n} {before middle after : Governor n}
    (outcome : Outcome c env event before middle) (leaves : Leaves c env middle after) :
    Outcome c env event before after := by
  rcases outcome with first | ⟨i, read, time, changed⟩
  · exact .inl (first.trans leaves)
  · refine .inr ⟨i, read, leaves.time.trans time, ?_⟩
    rcases changed with ⟨own, made, extended⟩ | steady
    · obtain ⟨more, further, _⟩ := leaves.steady
      exact .inl ⟨own, made ++ more, by rw [further, extended, List.append_assoc]⟩
    · exact .inr (steady.trans leaves.steady)

section Changing

variable {g after : Governor n} {kernel : TableTarget}

/-- A limit change leaves the frequency of a CPU that is within the new limits. -/
theorem governorLimits_leaves {d : Fin n} {min max : U32} {policy : CpufreqPolicy}
    (current : (g.cpu d).info.curPolicy = some policy)
    (steady : d = c → g.LimitsSteady env c min max) :
    Leaves c env g (g.governorLimits env d { policy with min := min, max := max }) := by
  refine .onCpu (BoostedInfo.limits_freqChangeTime ..) fun same request made => ?_
  subst same
  have made : request ∈ BoostedInfo.limitsRequest { policy with min := min, max := max } := made
  have kept := steady rfl policy current request made
  rwa [(BoostedInfo.limitsRequest_contains made).1]

/-- The pass of the work item sets `freq_change_time` when it asks for a frequency. -/
theorem freqChangeTimeWork_outcome {event : Event n} (nonzero : g.WorkNonzero kernel env c)
    (ran : g.freqChangeTimeWork kernel env = some after) : Outcome c env event g after := by
  obtain ⟨made, extended, pass⟩ := freqChangeTimeWork_pass ran
  have zeroSteady := nonzero after ran
  rw [madeFor_of_append c extended] at zeroSteady
  cases set : (g.cpu c).inMask with
  | false =>
      obtain ⟨none, same⟩ := pass.skipped (.inr set)
      refine .inl ⟨congrArg (·.info.freqChangeTime) same, made, extended, ?_⟩
      rw [none]
      exact nofun
  | true =>
      obtain ⟨policy, relation, _, served, info⟩ := pass.served (List.mem_finRange c) set
      have time := BoostedInfo.freqChangeTimeWork_freqChangeTime (g.cpu c).info g.tunables
        env.toKernelEnv policy (env.reading c) kernel relation
      rw [← info] at time
      rw [served] at zeroSteady
      cases requested : (g.cpu c).info.rampRequest kernel g.tunables env.toKernelEnv policy
          relation with
      | none =>
          rw [requested] at served time
          refine .inl ⟨time, made, extended, ?_⟩
          rw [served]
          exact nofun
      | some request =>
          rw [requested] at served time zeroSteady
          by_cases zero : request.target = 0
          · refine .inl ⟨time.trans (if_neg (not_not.mpr zero)), made, extended, ?_⟩
            intro other member
            rw [served] at member
            obtain rfl := List.mem_singleton.mp member
            exact zeroSteady other List.mem_cons_self zero
          · exact .inr ⟨c, readFor_self c event, time.trans (if_pos zero),
              .inl ⟨rfl, made, extended⟩⟩

/-- A flush of the work dates what it changes, as long as its requests are nonzero. -/
theorem flushWork_outcome {event : Event n}
    (nonzero : g.workQueued = true → g.WorkNonzero kernel env c)
    (ran : g.flushWork kernel env = some after) : Outcome c env event g after := by
  unfold flushWork at ran
  split at ran
  next queued => exact freqChangeTimeWork_outcome (nonzero queued) ran
  next => exact Option.some.inj ran ▸ .inl (.refl g)

/-- One call of `boosted_suspend` for a resume. -/
theorem boostedSuspend_resume {current i : Fin n}
    (steady : current = c → g.ResumeSteady env c)
    (ran : g.boostedSuspend env current false i = some after) :
    Leaves c env g after ∧ (current = c → after.ResumeSteady env c) := by
  simp only [boostedSuspend] at ran
  split at ran
  next enabled =>
    obtain ⟨policy, found, rfl⟩ := Option.map_eq_some_iff.mp ran
    refine ⟨.onCpu (BoostedInfo.boostedSuspend_freqChangeTime ..) ?_, ?_⟩
    · rintro rfl request made
      obtain rfl := Option.some.inj made
      exact steady rfl enabled policy found
    · rintro rfl _ held holds
      have kept := steady rfl enabled policy found
      have unchanged : policy.driven env.toKernelEnv
          (some (BoostedInfo.resumeRequest g.tunables policy)) = policy :=
        congrArg (fun cur => { policy with cur := cur }) kept
      rw [setInfo, onCpu_self] at holds
      obtain rfl := (Option.some.inj holds).symm.trans unchanged
      exact kept
  next => exact Option.some.inj ran ▸ ⟨.refl g, steady⟩

/-- A late resume leaves a CPU whose frequency is the one it asks for. -/
theorem boostedLateResume_leaves {current : Fin n}
    (steady : current = c → g.suspended = true → g.ResumeSteady env c)
    (ran : g.boostedLateResume env current = some after) : Leaves c env g after := by
  unfold boostedLateResume at ran
  split at ran
  next suspended =>
    have resumed : Leaves c env g { g with suspended := false } := .of_same rfl rfl
    refine resumed.trans (forEachOnline_related
      (fun before after => (current = c → before.ResumeSteady env c) →
        Leaves c env before after ∧ (current = c → after.ResumeSteady env c))
      (fun g kept => ⟨.refl g, kept⟩) ?_ ?_ ran fun same => steady same suspended).1
    · intro first second third before after kept
      obtain ⟨leaves, between⟩ := before kept
      exact (after between).imp_left leaves.trans
    · exact fun before i after ran kept => boostedSuspend_resume kept ran
  next => exact Option.some.inj ran ▸ .refl g

/-- What a suspend on the CPU `current` does. -/
structure Retimes (c current : Fin n) (env : Env n) (before after : Governor n) : Prop where
  steady : Steady c env before after
  time : (after.cpu c).info.freqChangeTime = (before.cpu c).info.freqChangeTime ∨
    current = c ∧ ∃ i, (after.cpu c).info.freqChangeTime = (env.reading i).sample.wall

theorem Retimes.trans {current : Fin n} {before middle after : Governor n}
    (first : Retimes c current env before middle) (second : Retimes c current env middle after) :
    Retimes c current env before after := by
  refine ⟨first.steady.trans second.steady, ?_⟩
  rcases second.time with same | set
  · rw [same]
    exact first.time
  · exact .inr set

/-- One call of `boosted_suspend` for a suspend. -/
theorem boostedSuspend_retimes {current i : Fin n}
    (ran : g.boostedSuspend env current true i = some after) : Retimes c current env g after := by
  simp only [boostedSuspend] at ran
  split at ran
  next =>
    obtain ⟨policy, _, rfl⟩ := Option.map_eq_some_iff.mp ran
    refine ⟨.of_same (List.append_nil _), ?_⟩
    rcases eq_or_ne current c with rfl | other
    · refine .inr ⟨rfl, i, ?_⟩
      rw [setInfo, onCpu_self]
      exact BoostedInfo.boostedSuspend_freqChangeTime ..
    · exact .inl (congrArg (·.info.freqChangeTime) (onCpu_of_ne other.symm))
  next => exact Option.some.inj ran ▸ ⟨.of_same rfl, .inl rfl⟩

/-- An early suspend dates the CPU it runs on. -/
theorem boostedEarlySuspend_outcome {current : Fin n}
    (ran : g.boostedEarlySuspend env current = some after) :
    Outcome c env (.earlySuspend current) g after := by
  unfold boostedEarlySuspend at ran
  split at ran
  next => exact Option.some.inj ran ▸ .inl (.refl g)
  next =>
    have suspended : Retimes c current env g { g with suspended := true } :=
      ⟨.of_same rfl, .inl rfl⟩
    obtain ⟨steady, time⟩ := suspended.trans (forEachOnline_related (Retimes c current env)
      (fun _ => ⟨.of_same rfl, .inl rfl⟩) .trans (fun _ _ _ => boostedSuspend_retimes) ran)
    rcases time with same | ⟨own, i, time⟩
    · exact .inl ⟨same, steady⟩
    · exact .inr ⟨i, .inr own, time, .inr steady⟩

end Changing

/-- Each event leaves a CPU, dates what it changes, or is excluded. -/
theorem handle_outcome {g after : Governor n} {kernel : TableTarget} {event : Event n}
    (dates : DatesChanges kernel c g ⟨event, env⟩)
    (ran : g.handle kernel env event = some after) : Outcome c env event g after := by
  cases happens_of_handle ran with
  | timer _ _ ran => exact .inl (cpufreqBoostedTimer_leaves ran)
  | idleEnter ran => exact .inl (cpufreqIdleEnter_leaves ran)
  | idleExit => exact .inl cpufreqIdleExit_leaves
  | work queued ran => exact freqChangeTimeWork_outcome (dates queued) ran
  | start => exact .inl governorStart_leaves
  | limits current => exact .inl (governorLimits_leaves current dates)
  | stopClear => exact .inl (.silent rfl rfl rfl)
  | stopDelTimer => exact .inl (.silent rfl rfl rfl)
  | stopFlush _ waited => exact (flushWork_outcome dates waited).leaves (.silent rfl rfl rfl)
  | stopFinish => exact .inl stopFinish_leaves
  | earlySuspend ran => exact boostedEarlySuspend_outcome ran
  | lateResume ran => exact .inl (boostedLateResume_leaves dates ran)
  | store ran => exact .inl (store_leaves ran)

/-! ## Runs -/

/-- The clocks that are read for the CPU do not run backwards. -/
def Ticks (c : Fin n) (g : Governor n) (action : Action n) : Prop :=
  ∀ i, ReadFor c action.event i → g.wall c ≤ (action.env.reading i).sample.wall ∧
    (action.env.reading i).sample.wall ≤ (action.env.reading c).reset.wall

/-- A run of the governor. -/
structure Dwelling (n : Nat) where
  governor : Governor n
  /-- History variable: when the governor last changed the frequency of the CPU. -/
  changedAt : Option U64

namespace Dwelling

def init (n : Nat) : Dwelling n := ⟨.init n, none⟩

/-- A step changes the frequency of the CPU when a call of the driver sets another
frequency than the current one. -/
def step (kernel : TableTarget) (c : Fin n) (run : Dwelling n) (action : Action n) :
    Option (Dwelling n) :=
  (run.governor.step kernel action).map fun after =>
    { governor := after
      changedAt :=
        if ∃ request ∈ run.governor.madeFor after c,
            action.env.drive request ≠ request.policy.cur then
          some (action.env.reading c).sample.wall
        else run.changedAt }

/-- A sample does not queue a ramp away from the ideal speed too early after a
change. -/
def SampleWaits (c : Fin n) (run : Dwelling n) (env : Env n) : Prop :=
  ∀ changed ∈ run.changedAt, ∀ policy ∈ (run.governor.cpu c).info.curPolicy,
    ∀ result ∈ (run.governor.cpu c).info.expire run.governor.tunables env.toKernelEnv
        (env.reading c), result.2 = true →
      (run.governor.cpu c).info.Waited run.governor.tunables policy (env.reading c).sample changed
        result.1.rampDir

/-- The frequency is kept long enough: every expiry of the CPU's timer waits. -/
def KeepsDwell (c : Fin n) (run : Dwelling n) (action : Action n) (_ : Dwelling n) : Prop :=
  match action.event with
  | .timer d => d = c → SampleWaits c run action.env
  | _ => True

/-- No change is later than `freq_change_time`, which is no later than the last
step. -/
structure Dated (c : Fin n) (run : Dwelling n) : Prop where
  past : (run.governor.cpu c).info.freqChangeTime ≤ run.governor.wall c
  since : ∀ changed ∈ run.changedAt, changed ≤ (run.governor.cpu c).info.freqChangeTime

variable {kernel : TableTarget} {run after : Dwelling n} {action : Action n}

theorem dated_init : (init n).Dated c := ⟨BitVec.le_refl _, nofun⟩

/-- A step keeps the date of the last change. -/
theorem Dated.step (dated : run.Dated c) (ticks : Ticks c run.governor action)
    (dates : DatesChanges kernel c run.governor action)
    (taken : step kernel c run action = some after) : after.Dated c := by
  obtain ⟨next, stepped, rfl⟩ := Option.map_eq_some_iff.mp taken
  obtain ⟨handled, ran, rfl⟩ := Option.map_eq_some_iff.mp stepped
  have unchanged (steady : Steady c action.env run.governor handled) :
      ¬ ∃ request ∈ run.governor.madeFor (handled.tick action.env) c,
        action.env.drive request ≠ request.policy.cur := by
    obtain ⟨made, extended, kept⟩ := steady
    rw [madeFor_of_append c (show (handled.tick action.env).requests = _ from extended)]
    rintro ⟨request, member, changed⟩
    exact changed (kept request member)
  have now := ticks c (readFor_self c action.event)
  rcases handle_outcome dates ran with leaves | ⟨i, read, time, changed⟩
  · have same : ((handled.tick action.env).cpu c).info.freqChangeTime =
        (run.governor.cpu c).info.freqChangeTime := leaves.time
    refine ⟨?_, ?_⟩
    · rw [same]
      exact BitVec.le_trans dated.past (BitVec.le_trans now.1 now.2)
    · rw [same, if_neg (unchanged leaves.steady)]
      exact dated.since
  · have set : ((handled.tick action.env).cpu c).info.freqChangeTime =
        (action.env.reading i).sample.wall := time
    obtain ⟨later, before⟩ := ticks i read
    refine ⟨?_, ?_⟩
    · rw [set]
      exact before
    · rw [set]
      split
      next changes =>
        have own := changed.resolve_right fun steady => unchanged steady changes
        rintro _ ⟨⟩
        rw [own.1]
        exact BitVec.le_refl _
      next =>
        intro changed held
        exact BitVec.le_trans (dated.since changed held) (BitVec.le_trans dated.past later)

/-- A rate that `freq_change_time` allows is one since the last change. -/
theorem Dated.rate (dated : run.Dated c) {now : U64} (later : run.governor.wall c ≤ now)
    {rate : U32}
    (allowed : rate.setWidth 64 ≤ now - (run.governor.cpu c).info.freqChangeTime)
    {changed : U64} (held : changed ∈ run.changedAt) :
    changed.toNat + rate.toNat ≤ now.toNat := by
  have since := BitVec.le_def.mp (dated.since changed held)
  have past := BitVec.le_trans dated.past later
  have elapsed := BitVec.le_def.mp allowed
  rw [BitVec.toNat_sub_of_le past, BitVec.toNat_setWidth_of_le (by decide)] at elapsed
  have bound := BitVec.le_def.mp past
  omega

/-- With the date kept, a change comes after the dwell time. -/
theorem Dated.keepsDwell (dated : run.Dated c) (ticks : Ticks c run.governor action) :
    KeepsDwell c run action after := by
  obtain ⟨event, env⟩ := action
  cases event with
  | timer d =>
      rintro _ changed held policy current ⟨sampled, queued⟩ ran ⟨⟩
      have later := (ticks c (readFor_self c _)).1
      obtain ⟨load, ramp⟩ := BoostedInfo.expire_queued ran current
      refine ⟨fun up above idled => ?_, fun down below => ?_⟩
      · exact dated.rate later
          (BoostedInfo.rate_of_sampledRamp_up (ramp.symm.trans up) above idled) held
      · exact dated.rate later
          (BoostedInfo.rate_of_sampledRamp_down (ramp.symm.trans down) below) held
  | _ => trivial

/-- **The frequency is kept long enough** in every run in which `GOV_LIMITS` and a
late resume leave it as it is. -/
theorem dwell_kept {kernel : TableTarget} {c : Fin n} {actions : List (Action n)}
    (ticks : Guarded (Dwelling.step kernel c) (fun run => Ticks c run.governor) (init n) actions)
    (dates : Guarded (Dwelling.step kernel c) (fun run => DatesChanges kernel c run.governor)
      (init n) actions) :
    Along (Dwelling.step kernel c) (KeepsDwell c) (init n) actions := by
  have guarded := ticks.and dates
  refine along_of_invariant (Dated c) ?_ dated_init guarded
  rintro run action after dated ⟨ticks, dates⟩ taken
  exact ⟨dated.step ticks dates taken, dated.keepsDwell ticks⟩

/-! ## A change of the limits -/

instance (c : Fin n) : ∀ event i, Decidable (ReadFor c event i)
  | .earlySuspend _, _ => inferInstanceAs (Decidable (_ ∨ _))
  | .timer _, _ | .idleEnter _, _ | .idleExit _, _ | .work, _ | .start _ _ _ _, _
  | .limits _ _ _, _ | .stopClear _, _ | .stopDelTimer _, _ | .stopFlush _, _
  | .stopFinish _, _ | .lateResume _, _ | .store _ _, _ => inferInstanceAs (Decidable (_ = _))

instance (c : Fin n) (g : Governor n) : DecidablePred (Ticks c g) := fun _ =>
  inferInstanceAs (Decidable (∀ _, _))

instance (g : Governor n) (env : Env n) (c : Fin n) (min max : U32) :
    Decidable (g.LimitsSteady env c min max) :=
  inferInstanceAs (Decidable (∀ policy ∈ _, ∀ request ∈ _, _))

instance (g : Governor n) (env : Env n) (c : Fin n) : Decidable (g.ResumeSteady env c) :=
  inferInstanceAs (Decidable (_ → ∀ policy ∈ _, _))

instance (g : Governor n) (kernel : TableTarget) (env : Env n) (c : Fin n) :
    Decidable (g.WorkNonzero kernel env c) :=
  inferInstanceAs (Decidable (∀ after ∈ _, ∀ request ∈ _, _))

instance (kernel : TableTarget) (c : Fin n) (g : Governor n) :
    DecidablePred (DatesChanges kernel c g) := fun ⟨event, env⟩ =>
  match event with
  | .limits d min max => inferInstanceAs (Decidable (d = c → g.LimitsSteady env c min max))
  | .lateResume current =>
      inferInstanceAs (Decidable (current = c → g.suspended = true → g.ResumeSteady env c))
  | .work | .stopFlush _ =>
      inferInstanceAs (Decidable (g.workQueued = true → g.WorkNonzero kernel env c))
  | .timer _ | .idleEnter _ | .idleExit _ | .start _ _ _ _ | .stopClear _ | .stopDelTimer _
  | .stopFinish _ | .earlySuspend _ | .store _ _ => .isTrue trivial

/-- The CPU is idle when its timer expires. -/
def idleEnv (n jiffies : Nat) : Env n :=
  let wall : U64 := BitVec.ofNat 64 (10000 * (jiffies + 1))
  { busyEnv n jiffies with reading := fun _ => ⟨⟨wall, wall⟩, ⟨wall, wall⟩⟩ }

/-- A CPU is ramped up to the ideal speed, then idle, and ramped down 100ms later. -/
def upAndDown : List (Action 1) :=
  atJiffy 1000 [.start onlyCpu ⟨100000, 1000000, 400000⟩ none none] ++
    atJiffy 1002 [.timer onlyCpu, .work] ++
    [⟨.timer onlyCpu, idleEnv 1 1004⟩, ⟨.timer onlyCpu, idleEnv 1 1012⟩]

/-- A CPU that is ramped up and then down spends the time between at its frequency. -/
theorem upAndDown_kept :
    ∃ run : Dwelling 1,
      exec (Dwelling.step cpufreqFrequencyTableTarget onlyCpu) (init 1) upAndDown = some run ∧
      run.changedAt = some 10030000 ∧ (run.governor.cpu onlyCpu).info.rampDir = .down ∧
      Along (Dwelling.step cpufreqFrequencyTableTarget onlyCpu) (KeepsDwell onlyCpu) (init 1)
        upAndDown :=
  ⟨_, (Option.some_get (by decide +kernel)).symm, by decide +kernel, by decide +kernel,
    dwell_kept (by decide +kernel) (by decide +kernel)⟩

/-- A run ends with a sample that queues a ramp down too early. -/
theorem not_kept_of_down {kernel : TableTarget} {c : Fin n} {actions : List (Action n)}
    {run : Dwelling n} {env : Env n} (changed : U64) (policy : CpufreqPolicy)
    (reached : exec (step kernel c) (init n) actions = some run)
    (enabled : (step kernel c run ⟨.timer c, env⟩).isSome)
    (held : run.changedAt = some changed)
    (current : (run.governor.cpu c).info.curPolicy = some policy)
    (queued : ((run.governor.cpu c).info.expire run.governor.tunables env.toKernelEnv
      (env.reading c)).map (fun result => (result.1.rampDir, result.2)) = some (.down, true))
    (away : ¬ (run.governor.cpu c).info.idealSpeed.slt policy.cur)
    (early : (env.reading c).sample.wall.toNat <
      changed.toNat + run.governor.tunables.downRateUs.toNat) :
    ¬ Along (step kernel c) (KeepsDwell c) (init n) (actions ++ [⟨.timer c, env⟩]) := by
  intro along
  obtain ⟨after, taken⟩ := Option.isSome_iff_exists.mp enabled
  have waits : SampleWaits c run env := (along.right reached after taken).1 rfl
  obtain ⟨result, ran, ramp⟩ := Option.map_eq_some_iff.mp queued
  obtain ⟨down, work⟩ := Prod.mk.inj ramp
  have waited := (waits changed held policy current result ran work).2 down away
  exact Nat.not_le_of_lt early waited

/-- The maximum is lowered to 500 MHz, and the CPU is sampled 10ms later. -/
def loweredMaximum : List (Action 1) :=
  atJiffy 1000 [.start onlyCpu ⟨100000, 1000000, 800000⟩ none none] ++
    atJiffy 1001 [.limits onlyCpu 100000 500000] ++ [⟨.timer onlyCpu, idleEnv 1 1002⟩]

/-- The device is suspended, resumed 200ms later, and the CPU is sampled after
another 20ms. -/
def resumed : List (Action 1) :=
  atJiffy 1000 [.start onlyCpu ⟨100000, 1000000, 800000⟩ none none] ++
    atJiffy 1001 [.earlySuspend onlyCpu] ++ atJiffy 1021 [.lateResume onlyCpu] ++
    [⟨.timer onlyCpu, idleEnv 1 1023⟩]

/-- In both runs a ramp down is queued before 97ms have passed. -/
theorem changes_undated :
    (Guarded (step cpufreqFrequencyTableTarget onlyCpu) (fun run => Ticks onlyCpu run.governor)
        (init 1) loweredMaximum ∧
      ¬ Along (step cpufreqFrequencyTableTarget onlyCpu) (KeepsDwell onlyCpu) (init 1)
        loweredMaximum) ∧
    (Guarded (step cpufreqFrequencyTableTarget onlyCpu) (fun run => Ticks onlyCpu run.governor)
        (init 1) resumed ∧
      ¬ Along (step cpufreqFrequencyTableTarget onlyCpu) (KeepsDwell onlyCpu) (init 1)
        resumed) := by
  refine ⟨⟨by decide +kernel, ?_⟩, by decide +kernel, ?_⟩
  · exact not_kept_of_down 10020000 ⟨100000, 500000, 500000⟩
      (Option.some_get (by decide +kernel)).symm (by decide +kernel) (by decide +kernel)
      (by decide +kernel) (by decide +kernel) (by decide +kernel) (by decide +kernel)
  · exact not_kept_of_down 10220000 ⟨100000, 1000000, 300000⟩
      (Option.some_get (by decide +kernel)).symm (by decide +kernel) (by decide +kernel)
      (by decide +kernel) (by decide +kernel) (by decide +kernel) (by decide +kernel)

end Dwelling

end Governor

end Jordan.Cpufreq
