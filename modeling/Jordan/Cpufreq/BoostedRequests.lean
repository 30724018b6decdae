import Jordan.Cpufreq.BoostedGovernor

/-! # The frequencies the boosted governor requests

The timer and the idle hook make no request. The work item asks for the result
of `target_freq`, `GOV_LIMITS` for a limit of the policy, and a late resume for
the wakeup frequency as `validate_freq` clamps it. Each of them is within the
limits of the policy the call is made with, as long as the core keeps the limits
of every policy in order.
-/

namespace Jordan.Cpufreq

open Execution

namespace Governor

variable {n : Nat}

/-- The policies have their limits in order, and the requests are within them. -/
structure WithinLimits (g : Governor n) : Prop where
  ordered (c : Fin n) : ∀ policy ∈ (g.cpu c).info.curPolicy, policy.Ordered
  contained : ∀ entry ∈ g.requests, entry.2.policy.Contains entry.2.target

/-- The core gives a policy limits that are in order. -/
def LimitsOrdered (action : Action n) : Prop :=
  match action.event with
  | .start _ policy _ _ => policy.Ordered
  | .limits _ min max => min ≤ max
  | _ => True

instance : DecidablePred (LimitsOrdered : Action n → Prop) := fun ⟨event, _⟩ =>
  match event with
  | .start _ policy _ _ => inferInstanceAs (Decidable policy.Ordered)
  | .limits _ min max => inferInstanceAs (Decidable (min ≤ max))
  | .timer _ | .idleEnter _ | .idleExit _ | .work | .stopClear _ | .stopDelTimer _
  | .stopFlush _ | .stopFinish _ | .earlySuspend _ | .lateResume _ | .store _ _ =>
      .isTrue trivial

/-- An effect on a CPU keeps the limits when the new policy and the request do. -/
theorem WithinLimits.onCpu {g now : Governor n} (within : g.WithinLimits) {c : Fin n}
    {effect : CpuEffect} (cpus : now.cpu = g.cpu) (requests : now.requests = g.requests)
    (ordered : ∀ policy ∈ effect.state.info.curPolicy, policy.Ordered)
    (contained : ∀ request ∈ effect.request, request.policy.Contains request.target) :
    (now.onCpu c effect).WithinLimits where
  ordered d := by
    rcases eq_or_ne d c with rfl | other
    · rw [onCpu_self]
      exact ordered
    · rw [onCpu_of_ne other, cpus]
      exact within.ordered d
  contained := by
    intro entry member
    rcases List.mem_append.mp member with before | made
    · exact within.contained entry (requests ▸ before)
    · obtain ⟨request, requested, rfl⟩ := List.mem_map.mp made
      exact contained request (Option.mem_toList.mp requested)

/-- Handlers keep within the limits. -/
theorem Handles.within {leaves : Fin n → Prop} {before after : Governor n}
    (handles : Handles leaves before after) (within : before.WithinLimits) :
    after.WithinLimits := by
  refine handles.related (fun before after => before.WithinLimits → after.WithinLimits)
    (fun _ => id) (fun first second => second ∘ first) (fun {g _} step within => ?_) within
  cases step with
  | @effect c effect fits =>
      refine within.onCpu rfl rfl ?_ ?_
      · intro policy current
        have limits := fits.limits
        rw [Option.mem_def.mp current, Option.map_some] at limits
        obtain ⟨old, held, same⟩ := Option.map_eq_some_iff.mp limits.symm
        exact CpufreqPolicy.ordered_of_limits same.symm (within.ordered c old held)
      · intro request made
        obtain ⟨held, contained⟩ := fits.request request made
        exact contained (within.ordered c _ held)
  | shared => exact ⟨within.ordered, within.contained⟩

/-- So does every event, when the core gives limits that are in order. -/
theorem WithinLimits.event {g after : Governor n} {env : Env n} {event : Event n}
    (within : g.WithinLimits) (limits : LimitsOrdered ⟨event, env⟩)
    (taken : EventTaken g env event after) : after.WithinLimits := by
  have unchanged {now : Governor n} {c : Fin n} {info : BoostedInfo} {phase : GovPhase}
      (withinNow : now.WithinLimits) (policy : info.curPolicy = (now.cpu c).info.curPolicy) :
      (now.setPhase c info phase).WithinLimits :=
    withinNow.onCpu rfl rfl (fun held current => withinNow.ordered c held (policy ▸ current)) nofun
  have started {now : Governor n} {c : Fin n} {info : BoostedInfo} {phase : GovPhase}
      {policy : CpufreqPolicy} (cpus : now.cpu = g.cpu) (requests : now.requests = g.requests)
      (current : info.curPolicy = some policy) (ordered : policy.Ordered) :
      (now.setPhase c info phase).WithinLimits := by
    refine within.onCpu cpus requests (fun held member => ?_) nofun
    rw [current] at member
    exact Option.some.inj member ▸ ordered
  cases taken with
  | handled plain handles => exact handles.within within
  | start result taken =>
      cases taken with
      | refused => exact within
      | failed => exact started rfl rfl (BoostedInfo.start_curPolicy ..) limits
      | installed =>
          exact started rfl rfl
            ((BoostedInfo.armBelowMax_curPolicy ..).trans (BoostedInfo.start_curPolicy ..)) limits
      | joined =>
          exact started rfl rfl
            ((BoostedInfo.armBelowMax_curPolicy ..).trans (BoostedInfo.start_curPolicy ..)) limits
  | @limits c min max policy current =>
      have ordered : CpufreqPolicy.Ordered { policy with min := min, max := max } := limits
      refine within.onCpu rfl rfl (fun held member => ?_) (fun request made => ?_)
      · have limited : (some held).map CpufreqPolicy.limits = some (min, max) :=
          Option.mem_def.mp member ▸ BoostedInfo.limits_limits g.suspended
        have same : held.limits = CpufreqPolicy.limits { policy with min := min, max := max } :=
          Option.some.inj limited
        exact CpufreqPolicy.ordered_of_limits same ordered
      · obtain ⟨same, contained⟩ := BoostedInfo.limitsRequest_contains made
        exact contained (same ▸ ordered)
  | stopClear => exact unchanged within rfl
  | stopDelTimer => exact unchanged within rfl
  | stopFlush deleted handles => exact unchanged (handles.within within) rfl
  | @stopFinish c =>
      have zeroed :
          (g.setPhase c { (g.cpu c).info with idleExitTime := 0 } .stopped).WithinLimits :=
        unchanged within rfl
      obtain ⟨ordered, contained⟩ := zeroed
      refine ⟨?_, ?_⟩
      · rw [stopFinish_cpu]
        exact ordered
      · rw [stopFinish_requests]
        exact contained

/-- **Every request is within the policy**, in every run of the governor in which
the core keeps the limits of a policy in order, and so is a nonzero result of
`target_freq`. -/
theorem requests_within_policy {kernel : TableTarget} {actions : List (Action n)}
    {g : Governor n} (limits : ∀ action ∈ actions, LimitsOrdered action)
    (reached : exec (step kernel) (init n) actions = some g) :
    (∀ entry ∈ g.requests, entry.2.policy.Contains entry.2.target) ∧
      ∀ (policy : CpufreqPolicy) (freqTable : Option FreqTable) (newFreq oldFreq : U32)
        (relation : Relation), policy.Ordered →
        targetFreq kernel policy freqTable newFreq oldFreq relation ≠ 0 →
          policy.Contains (targetFreq kernel policy freqTable newFreq oldFreq relation) := by
  refine ⟨?_, fun _ _ _ _ _ ordered nonzero => contains_targetFreq ordered nonzero⟩
  have initially : (init n).WithinLimits := ⟨fun _ => nofun, nofun⟩
  have within : g.WithinLimits := by
    refine invariant WithinLimits ?_ initially (guarded_of_mem limits (init n)) reached
    intro now action next within limits taken
    obtain ⟨handled, ran, rfl⟩ := Option.map_eq_some_iff.mp taken
    obtain ⟨ordered, contained⟩ := within.event limits (handle_taken ran)
    exact ⟨ordered, contained⟩
  exact within.contained

/-- A ramp up through the table, new limits below the frequency reached, and a
suspend and resume. -/
def manyRequests : List (Action 1) :=
  let table := [300000, 600000, 800000, 1000000]
  atJiffy 0 [.start onlyCpu ⟨300000, 1000000, 300000⟩ (some table) none] ++
    atJiffy 2 [.timer onlyCpu, .work, .limits onlyCpu 300000 400000] ++
    atJiffy 3 [.earlySuspend onlyCpu, .lateResume onlyCpu]

theorem manyRequests_within :
    ∃ g : Governor 1, exec (step cpufreqFrequencyTableTarget) (init 1) manyRequests = some g ∧
      g.requests.map (·.2.target) = [600000, 400000, 300000] ∧
      ∀ entry ∈ g.requests, entry.2.policy.Contains entry.2.target :=
  ⟨_, (Option.some_get (by decide +kernel)).symm, by decide +kernel,
    (requests_within_policy (by decide +kernel) (Option.some_get _).symm).1⟩

end Governor

end Jordan.Cpufreq
