import Jordan.Cpufreq.BoostedGovernor

/-! # What `GOV_STOP` leaves behind

A CPU at rest is disabled, its timer is not pending and its bit in
`work_cpumask` is clear: no handler touches it before the next event of the
core. `GOV_STOP` leaves a CPU at rest unless one of two handlers arms the timer
after `del_timer`: the work that `flush_work` waits for, when the CPU's bit is
set, and the exit of the idle hook, when the CPU was enabled at its entry.
Neither tests `enable`.
-/

namespace Jordan.Cpufreq

open Execution

/-- `GOV_STOP` has called `del_timer`, and no `GOV_START` has come since. -/
def GovPhase.PastDelTimer : GovPhase → Prop
  | .deleted | .flushed | .stopped => True
  | .out | .started | .cleared => False

instance : DecidablePred GovPhase.PastDelTimer := fun phase => by
  cases phase <;> unfold GovPhase.PastDelTimer <;> infer_instance

namespace Governor

variable {n : Nat}

/-- The requests that were made for a CPU. -/
def requestsFor (g : Governor n) (c : Fin n) : List Request :=
  (g.requests.filter (·.1 = c)).map Prod.snd

/-- The per-CPU data, the bit and the requests of a CPU are the same. -/
structure Untouched (c : Fin n) (before after : Governor n) : Prop where
  info : (after.cpu c).info = (before.cpu c).info
  inMask : (after.cpu c).inMask = (before.cpu c).inMask
  requests : after.requestsFor c = before.requestsFor c

namespace Untouched

variable {g before middle after : Governor n} {c d : Fin n}

theorem refl (c : Fin n) (g : Governor n) : Untouched c g g := ⟨rfl, rfl, rfl⟩

theorem trans (first : Untouched c before middle) (second : Untouched c middle after) :
    Untouched c before after :=
  ⟨second.info.trans first.info, second.inMask.trans first.inMask,
    second.requests.trans first.requests⟩

theorem resting (same : Untouched c before after) (resting : Resting (before.cpu c)) :
    Resting (after.cpu c) :=
  ⟨same.info ▸ resting.disabled, same.info ▸ resting.timer, same.inMask ▸ resting.clear⟩

/-- A handler on another CPU. -/
theorem onCpu_of_ne {effect : CpuEffect} (other : c ≠ d) : Untouched c g (g.onCpu d effect) where
  info := by rw [Governor.onCpu_of_ne other]
  inMask := by rw [Governor.onCpu_of_ne other]
  requests := by
    have foreign : (effect.request.toList.map (d, ·)).filter (·.1 = c) = [] := by
      rw [List.filter_eq_nil_iff]
      intro entry member
      obtain ⟨request, _, rfl⟩ := List.mem_map.mp member
      simpa only [decide_eq_true_eq] using other.symm
    simp only [requestsFor, Governor.onCpu, List.filter_append, foreign, List.append_nil]

/-- A handler that finds nothing to do on the CPU. -/
theorem onCpu_self {effect : CpuEffect} (info : effect.state.info = (g.cpu c).info)
    (inMask : effect.state.inMask = (g.cpu c).inMask) (silent : effect.request = none) :
    Untouched c g (g.onCpu c effect) where
  info := by rw [Governor.onCpu_self, info]
  inMask := by rw [Governor.onCpu_self, inMask]
  requests := by
    simp only [requestsFor, Governor.onCpu, silent, Option.toList_none, List.map_nil,
      List.append_nil]

end Untouched

/-- The CPU is not touched while it rests. -/
def Rests (c : Fin n) (before after : Governor n) : Prop :=
  Resting (before.cpu c) → Untouched c before after

section Rests

variable {c : Fin n}

theorem Rests.refl (g : Governor n) : Rests c g g := fun _ => .refl c g

theorem Rests.trans {before middle after : Governor n} (first : Rests c before middle)
    (second : Rests c middle after) : Rests c before after := by
  intro resting
  have same := first resting
  exact same.trans (second (same.resting resting))

/-- Handlers leave a CPU at rest alone, unless it leaves the idle hook. -/
theorem Handles.rests {leaves : Fin n → Prop} (stays : ¬ leaves c) {before after : Governor n}
    (handles : Handles leaves before after) : Rests c before after := by
  refine handles.related (Rests c) .refl .trans fun {before after} step => ?_
  cases step with
  | @effect d _ fits =>
      intro resting
      rcases eq_or_ne c d with rfl | other
      · obtain ⟨info, inMask, silent⟩ := fits.rests stays resting
        exact .onCpu_self info inMask silent
      · exact .onCpu_of_ne other
  | shared => exact fun _ => ⟨rfl, rfl, rfl⟩

end Rests

/-! ## Governor events -/

/-- What an event for another CPU leaves alone: the phase and the enable flag,
and a CPU at rest unless it leaves the idle hook. -/
structure Spares (g : Governor n) (event : Event n) (c : Fin n) (after : Governor n) : Prop where
  phase : (after.cpu c).phase = (g.cpu c).phase
  enable : (after.cpu c).info.enable = (g.cpu c).info.enable
  rests : ¬ g.LeavesHook event c → Rests c g after

theorem Handles.spares {leaves : Fin n → Prop} {g after : Governor n} {event : Event n}
    {c : Fin n} (handles : Handles leaves g after) (only : leaves c → g.LeavesHook event c) :
    g.Spares event c after where
  phase := handles.sameLife.phase c
  enable := handles.sameLife.enable c
  rests stays := handles.rests (mt only stays)

/-- An effect on another CPU, after the part shared by the CPUs was changed. -/
theorem Spares.onCpu (g : Governor n) {now : Governor n} {event : Event n} {c d : Fin n}
    (other : c ≠ d) (cpus : now.cpu = g.cpu) (requests : now.requests = g.requests)
    (effect : CpuEffect) :
    g.Spares event c (now.onCpu d effect) := by
  have same : Untouched c g now := by
    refine ⟨?_, ?_, ?_⟩
    · rw [cpus]
    · rw [cpus]
    · simp only [requestsFor, requests]
  refine ⟨?_, ?_, fun _ _ => same.trans (.onCpu_of_ne other)⟩
  · rw [onCpu_of_ne other, cpus]
  · rw [onCpu_of_ne other, cpus]

theorem Spares.setPhase {g now : Governor n} {event : Event n} {c d : Fin n} {info : BoostedInfo}
    {phase : GovPhase} (other : c ≠ d) (cpus : now.cpu = g.cpu)
    (requests : now.requests = g.requests) : g.Spares event c (now.setPhase d info phase) :=
  .onCpu g other cpus requests _

/-- An event of another CPU spares a CPU. -/
theorem EventTaken.spares {g after : Governor n} {env : Env n} {event : Event n} {c : Fin n}
    (taken : EventTaken g env event after) (other : subject event ≠ some c) :
    g.Spares event c after := by
  have foreign {d : Fin n} (named : subject event = some d) : c ≠ d := by
    rintro rfl
    exact other named
  cases taken with
  | handled plain handles => exact handles.spares id
  | start result taken =>
      cases taken with
      | refused => exact ⟨rfl, rfl, fun _ => .refl g⟩
      | failed => exact .setPhase (foreign rfl) rfl rfl
      | installed => exact .setPhase (foreign rfl) rfl rfl
      | joined => exact .setPhase (foreign rfl) rfl rfl
  | limits => exact .onCpu g (foreign rfl) rfl rfl _
  | stopClear => exact .setPhase (foreign rfl) rfl rfl
  | stopDelTimer => exact .setPhase (foreign rfl) rfl rfl
  | stopFlush deleted handles =>
      have before : Rests c g _ := handles.rests id
      refine ⟨?_, ?_, fun _ => before.trans fun _ => .onCpu_of_ne (foreign rfl)⟩
      · rw [setPhase, onCpu_of_ne (foreign rfl), handles.sameLife.phase]
      · rw [setPhase, onCpu_of_ne (foreign rfl), handles.sameLife.enable]
  | stopFinish =>
      simp only [Governor.stopFinish]
      split <;> exact .setPhase (foreign rfl) rfl rfl

/-! ## The stop -/

/-- The steps of `GOV_STOP` for the CPU have brought it to rest so far. -/
structure Settling (s : CpuState) : Prop where
  disabled : s.phase = .cleared → s.info.enable = false
  resting : s.phase.PastDelTimer → Resting s

/-- The `del_timer` of a CPU finds its bit clear, and the CPU does not leave the
idle hook that it entered enabled after `del_timer`. -/
def Undisturbed (c : Fin n) (g : Governor n) (action : Action n) : Prop :=
  match action.event with
  | .stopDelTimer d => d = c → (g.cpu c).inMask = false
  | .idleExit d => d = c → (g.cpu c).hook = some true → ¬ (g.cpu c).phase.PastDelTimer
  | _ => True

instance (c : Fin n) (g : Governor n) : DecidablePred (Undisturbed c g) := fun ⟨event, _⟩ =>
  match event with
  | .stopDelTimer d => inferInstanceAs (Decidable (d = c → (g.cpu c).inMask = false))
  | .idleExit d =>
      inferInstanceAs (Decidable
        (d = c → (g.cpu c).hook = some true → ¬ (g.cpu c).phase.PastDelTimer))
  | .timer _ | .idleEnter _ | .work | .start _ _ _ _ | .limits _ _ _ | .stopClear _
  | .stopFlush _ | .stopFinish _ | .earlySuspend _ | .lateResume _ | .store _ _ =>
      .isTrue trivial

/-- A CPU at rest does not leave the hook in an undisturbed event. -/
theorem Undisturbed.stays {g : Governor n} {event : Event n} {env : Env n} {c : Fin n}
    (undisturbed : Undisturbed c g ⟨event, env⟩) (past : (g.cpu c).phase.PastDelTimer) :
    ¬ g.LeavesHook event c := by
  rintro ⟨rfl, inside⟩
  exact undisturbed rfl inside past

/-- A phase in which nothing is promised. -/
theorem Settling.of_phase {s : CpuState} {phase : GovPhase} (here : s.phase = phase)
    (open_ : phase = .out ∨ phase = .started) : Settling s := by
  rcases open_ with rfl | rfl
  · exact ⟨fun cleared => GovPhase.noConfusion (here.symm.trans cleared), fun past => by
      rw [here] at past
      exact past.elim⟩
  · exact ⟨fun cleared => GovPhase.noConfusion (here.symm.trans cleared), fun past => by
      rw [here] at past
      exact past.elim⟩

/-- A CPU at rest in a late step of `GOV_STOP`. -/
theorem Settling.of_resting {s : CpuState} {phase : GovPhase} (here : s.phase = phase)
    (late : phase ≠ .cleared) (resting : Resting s) : Settling s :=
  ⟨fun cleared => absurd (here.symm.trans cleared) late, fun _ => resting⟩

/-- **Undisturbed events of the core bring a CPU to rest.** -/
theorem Settling.event {g after : Governor n} {env : Env n} {event : Event n} {c : Fin n}
    (settling : Settling (g.cpu c)) (orderly : g.Orderly event)
    (undisturbed : Undisturbed c g ⟨event, env⟩) (taken : EventTaken g env event after) :
    Settling (after.cpu c) := by
  by_cases own : subject event = some c
  · cases taken with
    | handled plain => exact absurd (plain.symm.trans own) nofun
    | start result taken =>
        obtain rfl := Option.some.inj own
        cases taken with
        | refused => exact settling
        | failed => exact .of_phase (congrArg _ onCpu_self) (.inl rfl)
        | installed => exact .of_phase (congrArg _ onCpu_self) (.inr rfl)
        | joined => exact .of_phase (congrArg _ onCpu_self) (.inr rfl)
    | limits =>
        obtain rfl := Option.some.inj own
        exact .of_phase ((congrArg _ onCpu_self).trans orderly) (.inr rfl)
    | stopClear =>
        obtain rfl := Option.some.inj own
        refine ⟨fun _ => ?_, fun past => ?_⟩
        · rw [setPhase, onCpu_self]
        · rw [setPhase, onCpu_self] at past
          exact past.elim
    | stopDelTimer cleared =>
        obtain rfl := Option.some.inj own
        refine .of_resting (congrArg _ onCpu_self) nofun ?_
        rw [setPhase, onCpu_self]
        exact ⟨settling.disabled cleared, rfl, undisturbed rfl⟩
    | @stopFlush _ waited deleted handles =>
        obtain rfl := Option.some.inj own
        refine .of_resting (congrArg _ onCpu_self) nofun ?_
        have resting := settling.resting (deleted ▸ trivial)
        have still := (handles.rests id resting).resting resting
        rw [setPhase, onCpu_self]
        exact ⟨still.disabled, still.timer, still.clear⟩
    | stopFinish flushed =>
        obtain rfl := Option.some.inj own
        have resting := settling.resting (flushed ▸ trivial)
        rw [stopFinish_cpu, setPhase, onCpu_self]
        exact .of_resting rfl nofun ⟨resting.disabled, resting.timer, resting.clear⟩
  · have spares := taken.spares own
    refine ⟨fun cleared => ?_, fun past => ?_⟩
    · rw [spares.enable]
      exact settling.disabled (spares.phase ▸ cleared)
    · have past : (g.cpu c).phase.PastDelTimer := spares.phase ▸ past
      have resting := settling.resting past
      exact (spares.rests (undisturbed.stays past) resting).resting resting

/-! ## Runs -/

/-- A stopped CPU that is at rest: nothing was requested for it since the
requests `made`. -/
structure Stopped (c : Fin n) (made : List Request) (g : Governor n) : Prop where
  phase : (g.cpu c).phase = .stopped
  resting : Resting (g.cpu c)
  requests : g.requestsFor c = made

/-- The core does not start the CPU in this action. -/
def NoStart (c : Fin n) (action : Action n) : Prop :=
  match action.event with
  | .start d _ _ _ => d ≠ c
  | _ => True

instance (c : Fin n) : DecidablePred (NoStart c) := fun ⟨event, _⟩ =>
  match event with
  | .start d _ _ _ => inferInstanceAs (Decidable (d ≠ c))
  | .timer _ | .idleEnter _ | .idleExit _ | .work | .limits _ _ _ | .stopClear _
  | .stopDelTimer _ | .stopFlush _ | .stopFinish _ | .earlySuspend _ | .lateResume _
  | .store _ _ => .isTrue trivial

/-- A stopped CPU stays as it is until the next start. -/
theorem Stopped.event {g after : Governor n} {env : Env n} {event : Event n} {c : Fin n}
    {made : List Request} (stopped : Stopped c made g) (orderly : g.Orderly event)
    (undisturbed : Undisturbed c g ⟨event, env⟩) (noStart : NoStart c ⟨event, env⟩)
    (taken : EventTaken g env event after) : Stopped c made after := by
  have other : subject event ≠ some c := by
    intro own
    have settled {phase : GovPhase} (here : (g.cpu c).phase = phase) : phase = .stopped :=
      here.symm.trans stopped.phase
    cases taken with
    | handled plain => exact absurd (plain.symm.trans own) nofun
    | start =>
        obtain rfl := Option.some.inj own
        exact noStart rfl
    | limits =>
        obtain rfl := Option.some.inj own
        exact absurd (settled orderly) nofun
    | stopClear =>
        obtain rfl := Option.some.inj own
        exact absurd (settled orderly) nofun
    | stopDelTimer cleared =>
        obtain rfl := Option.some.inj own
        exact absurd (settled cleared) nofun
    | stopFlush deleted =>
        obtain rfl := Option.some.inj own
        exact absurd (settled deleted) nofun
    | stopFinish flushed =>
        obtain rfl := Option.some.inj own
        exact absurd (settled flushed) nofun
  have spares := taken.spares other
  have past : (g.cpu c).phase.PastDelTimer := stopped.phase ▸ trivial
  have same := spares.rests (undisturbed.stays past) stopped.resting
  exact ⟨spares.phase.trans stopped.phase, same.resting stopped.resting,
    same.requests.trans stopped.requests⟩

/-- A step of the core is an orderly event, and then the clock. -/
theorem coreStep_taken {kernel : TableTarget} {g after : Governor n} {action : Action n}
    (taken : g.coreStep kernel action = some after) :
    ∃ handled, g.Orderly action.event ∧ EventTaken g action.env action.event handled ∧
      after = handled.tick action.env := by
  obtain ⟨orderly, stepped⟩ := coreStep_eq_some.mp taken
  obtain ⟨handled, ran, rfl⟩ := Option.map_eq_some_iff.mp stepped
  exact ⟨handled, orderly, handle_taken ran, rfl⟩

/-- **`GOV_STOP` quiesces the governor** in every run in which the CPU's `del_timer`
finds its bit clear and the CPU leaves no idle hook it entered enabled once
`del_timer` has run: from the return of `GOV_STOP` to the next `GOV_START` the
timer is not pending, the bit is clear, and no request is made for the CPU. -/
theorem stop_quiesces {kernel : TableTarget} {c : Fin n} {env : Env n}
    {before later : List (Action n)} {returned g : Governor n}
    (undisturbed : Guarded (coreStep kernel) (Undisturbed c) (init n)
      ((before ++ [⟨.stopFinish c, env⟩]) ++ later))
    (noStart : ∀ action ∈ later, NoStart c action)
    (stopped : exec (coreStep kernel) (init n) (before ++ [⟨.stopFinish c, env⟩]) = some returned)
    (reached : exec (coreStep kernel) returned later = some g) :
    (g.cpu c).info.timer = none ∧ (g.cpu c).inMask = false ∧
      g.requestsFor c = returned.requestsFor c := by
  have settling : Settling (returned.cpu c) := by
    refine invariant (fun g => Settling (g.cpu c)) ?_ (.of_phase rfl (.inl rfl))
      undisturbed.left stopped
    intro now action next settling undisturbed taken
    obtain ⟨handled, orderly, handling, rfl⟩ := coreStep_taken taken
    have still := settling.event orderly undisturbed handling
    exact still
  have phase : (returned.cpu c).phase = .stopped := by
    obtain ⟨flushed, _, last⟩ := exec_append_eq_some.mp stopped
    obtain ⟨_, finished, last⟩ := exec_cons_eq_some.mp last
    obtain rfl := Option.some.inj last
    obtain ⟨handled, _, taken, rfl⟩ := coreStep_taken finished
    cases taken with
    | handled plain => cases plain
    | stopFinish =>
        simp only [tick, stopFinish_cpu, setPhase, onCpu_self]
  have start : Stopped c (returned.requestsFor c) returned :=
    ⟨phase, settling.resting (phase ▸ trivial), rfl⟩
  have quiet := (undisturbed.right stopped).and (guarded_of_mem noStart returned)
  have last : Stopped c (returned.requestsFor c) g := by
    refine invariant (Stopped c (returned.requestsFor c)) ?_ start quiet reached
    intro now action next stopped ⟨undisturbed, noStart⟩ taken
    obtain ⟨handled, orderly, handling, rfl⟩ := coreStep_taken taken
    obtain ⟨phase, resting, requests⟩ := stopped.event orderly undisturbed noStart handling
    exact ⟨phase, resting, requests⟩
  exact ⟨last.resting.timer, last.resting.clear, last.requests⟩

/-- A busy CPU is sampled, the work raises its frequency, and it is stopped. -/
def stoppedAfterWork : List (Action 1) :=
  atJiffy 0 [startAt onlyCpu 300000] ++ atJiffy 2 [.timer onlyCpu, .work] ++
    atJiffy 3 [.stopClear onlyCpu, .stopDelTimer onlyCpu, .stopFlush onlyCpu] ++
    [⟨.stopFinish onlyCpu, busyEnv 1 3⟩]

/-- The device is suspended and resumed after that. -/
def suspendAndResume : List (Action 1) := atJiffy 5 [.earlySuspend onlyCpu, .lateResume onlyCpu]

/-- A CPU that is stopped after its work stays quiet while the device sleeps and wakes. -/
theorem stoppedAfterWork_quiet :
    ∃ returned g : Governor 1,
      exec (coreStep cpufreqFrequencyTableTarget) (init 1) stoppedAfterWork = some returned ∧
        exec (coreStep cpufreqFrequencyTableTarget) returned suspendAndResume = some g ∧
        (g.cpu onlyCpu).info.timer = none ∧ (g.cpu onlyCpu).inMask = false ∧
        g.requestsFor onlyCpu = returned.requestsFor onlyCpu := by
  have whole : (exec (coreStep cpufreqFrequencyTableTarget) (init 1)
      (stoppedAfterWork ++ suspendAndResume)).isSome = true := by decide +kernel
  obtain ⟨g, ran⟩ := Option.isSome_iff_exists.mp whole
  obtain ⟨returned, stopped, reached⟩ := exec_append_eq_some.mp ran
  exact ⟨returned, g, stopped, reached,
    stop_quiesces (by decide +kernel) (by decide +kernel) stopped reached⟩

/-- The CPU is stopped while the work of its sample is queued. -/
def stoppedBeforeWork : List (Action 1) :=
  atJiffy 0 [startAt onlyCpu 300000] ++ atJiffy 2 ([.timer onlyCpu] ++ stop onlyCpu)

/-- `flush_work` runs the work, which arms the timer again. -/
theorem stoppedBeforeWork_arms :
    ∃ g : Governor 1,
      exec (coreStep cpufreqFrequencyTableTarget) (init 1) stoppedBeforeWork = some g ∧
        (g.cpu onlyCpu).phase = .stopped ∧ (g.cpu onlyCpu).info.timer = some 4 := by
  refine ⟨_, (Option.some_get (by decide +kernel)).symm, ?_, ?_⟩
  · decide +kernel
  · decide +kernel

end Governor

end Jordan.Cpufreq
