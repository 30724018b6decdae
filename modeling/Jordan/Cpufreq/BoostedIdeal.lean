import Jordan.Cpufreq.BoostedGovernor

/-! # The ideal speed of the boosted governor

`ideal_speed` holds the ideal frequency within the limits of the policy. It is
computed again when the governor starts, when the limits or the ideal frequency
in use change, and when the device suspends or resumes. A `sleep_ideal_freq` of
0 means that the suspended state is not tracked.

`boosted_early_suspend` and `boosted_late_resume` compute it for the CPU they run
on only, and a `sleep_ideal_freq` that becomes 0 while the device is suspended is
taken for a frequency. In runs without either, the ideal speed of every enabled
CPU is right (`Jordan.Cpufreq.Governor.idealSpeeds_of_refreshed`).
-/

namespace Jordan.Cpufreq

open Execution

namespace CpufreqPolicy

/-- The frequency within the limits that is closest to the given one. -/
def clamp (policy : CpufreqPolicy) (freq : U32) : U32 :=
  if freq < policy.min then policy.min
  else if policy.max < freq then policy.max
  else freq

theorem clamp_of_limits {policy other : CpufreqPolicy} (same : policy.limits = other.limits)
    (freq : U32) : policy.clamp freq = other.clamp freq := by
  obtain ⟨lowest, highest⟩ := Prod.mk.inj same
  unfold clamp
  rw [lowest, highest]

end CpufreqPolicy

/-- `boosted_update_min_max` clamps the ideal frequency to limits that are in
order. -/
theorem Tunables.idealSpeed_eq_clamp (tunables : Tunables) {policy : CpufreqPolicy}
    (ordered : policy.Ordered) (suspend : Bool) :
    tunables.idealSpeed policy suspend =
      policy.clamp (if suspend then tunables.sleepIdealFreq else tunables.awakeIdealFreq) := by
  unfold CpufreqPolicy.Ordered at ordered
  cases suspend with
  | true =>
      simp only [Tunables.idealSpeed, CpufreqPolicy.clamp, if_true]
      split_ifs <;> bv_omega
  | false =>
      simp only [Tunables.idealSpeed, CpufreqPolicy.clamp, Bool.false_eq_true, if_false]
      split_ifs <;> bv_omega

/-- The ideal speed of a CPU, if it is enabled, is the frequency within the
limits of its policy. -/
def BoostedInfo.IsIdeal (info : BoostedInfo) (freq : U32) : Prop :=
  info.enable = true →
    ∃ policy ∈ info.curPolicy, policy.Ordered → info.idealSpeed = policy.clamp freq

instance (info : BoostedInfo) (freq : U32) : Decidable (info.IsIdeal freq) :=
  inferInstanceAs (Decidable (_ → _))

namespace Governor

variable {n : Nat}

/-- The ideal frequency in use. -/
def idealFreq (g : Governor n) : U32 :=
  if g.suspended = true ∧ g.tunables.sleepIdealFreq ≠ 0 then g.tunables.sleepIdealFreq
  else g.tunables.awakeIdealFreq

/-- Every enabled CPU has the ideal speed. -/
def IdealSpeeds (g : Governor n) : Prop := ∀ c, (g.cpu c).info.IsIdeal g.idealFreq

instance (g : Governor n) : Decidable g.IdealSpeeds := inferInstanceAs (Decidable (∀ _, _))

/-- The device is suspended, and the suspended state is not tracked. -/
def Untracked (g : Governor n) : Prop :=
  g.suspended = true ∧ g.tunables.sleepIdealFreq = 0

instance (g : Governor n) : Decidable g.Untracked := inferInstanceAs (Decidable (_ ∧ _))

/-- While the ideal frequency is tracked, the ideal speed is it, within the limits. -/
theorem idealSpeed_of_tracked {g : Governor n} {policy : CpufreqPolicy}
    (tracked : ¬ g.Untracked) (ordered : policy.Ordered) :
    g.tunables.idealSpeed policy g.suspended = policy.clamp g.idealFreq := by
  rw [Tunables.idealSpeed_eq_clamp _ ordered]
  unfold idealFreq
  cases suspended : g.suspended with
  | false => rfl
  | true =>
      have nonzero : g.tunables.sleepIdealFreq ≠ 0 := fun zero => tracked ⟨suspended, zero⟩
      simp only [nonzero, if_true, ne_eq, not_false_eq_true, and_self]

/-- The event computes the ideal speed of each CPU that needs it, and from a
frequency: `GOV_START` and the store functions do not meet an untracked suspended
state, and a suspend or resume finds no other CPU enabled. -/
def Refreshes (g : Governor n) (action : Action n) : Prop :=
  match action.event with
  | .start c policy _ _ => action.env.online c = true → policy.cur ≠ 0 → ¬ g.Untracked
  | .earlySuspend current =>
      g.suspended = false → g.tunables.sleepIdealFreq ≠ 0 →
        ∀ c, (g.cpu c).info.enable = true → c = current ∧ action.env.online c = true
  | .lateResume current =>
      g.suspended = true →
        ∀ c, (g.cpu c).info.enable = true → c = current ∧ action.env.online c = true
  | .store .sleepIdealFreq input =>
      g.suspended = true →
        ∀ c, (g.cpu c).info.enable = true → input ≠ 0 ∧ action.env.online c = true
  | .store .awakeIdealFreq _ =>
      g.suspended = false →
        ∀ c, (g.cpu c).info.enable = true → action.env.online c = true
  | _ => True

instance (g : Governor n) : DecidablePred g.Refreshes := fun ⟨event, _⟩ =>
  match event with
  | .start _ _ _ _ => inferInstanceAs (Decidable (_ → _ → _))
  | .earlySuspend _ => inferInstanceAs (Decidable (_ → _ → ∀ _ : Fin n, _))
  | .lateResume _ => inferInstanceAs (Decidable (_ → ∀ _ : Fin n, _))
  | .store .sleepIdealFreq _ => inferInstanceAs (Decidable (_ → ∀ _ : Fin n, _))
  | .store .awakeIdealFreq _ => inferInstanceAs (Decidable (_ → ∀ _ : Fin n, _))
  | .store .upRateUs _ | .store .downRateUs _ | .store .sleepWakeupFreq _
  | .store .sampleRateJiffies _ | .store .rampUpStep _ | .store .rampDownStep _
  | .store .maxCpuLoad _ | .store .minCpuLoad _ | .timer _ | .idleEnter _ | .idleExit _ | .work
  | .limits _ _ _ | .stopClear _ | .stopDelTimer _ | .stopFlush _ | .stopFinish _ =>
      .isTrue trivial

/-! ## CPUs with the right speed -/

/-- If the CPU is enabled, the suspended state is tracked and the ideal speed is
right. -/
def Sound (g : Governor n) (c : Fin n) : Prop :=
  ((g.cpu c).info.enable = true → ¬ g.Untracked) ∧ (g.cpu c).info.IsIdeal g.idealFreq

theorem sound_of_disabled {g : Governor n} {c : Fin n}
    (disabled : (g.cpu c).info.enable = false) : g.Sound c :=
  ⟨fun enabled => Bool.noConfusion (disabled.symm.trans enabled),
    fun enabled => Bool.noConfusion (disabled.symm.trans enabled)⟩

/-- A CPU is sound after its ideal speed has been computed. -/
theorem sound_onCpu {g : Governor n} {c : Fin n} {effect : CpuEffect} {policy : CpufreqPolicy}
    (tracked : ¬ g.Untracked)
    (limits : effect.state.info.curPolicy.map CpufreqPolicy.limits = some policy.limits)
    (computed : effect.state.info.idealSpeed = g.tunables.idealSpeed policy g.suspended) :
    (g.onCpu c effect).Sound c := by
  unfold Sound
  rw [onCpu_self]
  refine ⟨fun _ => tracked, fun _ => ?_⟩
  obtain ⟨current, found, same⟩ := Option.map_eq_some_iff.mp limits
  refine ⟨current, found, fun ordered => ?_⟩
  have inOrder : policy.Ordered := CpufreqPolicy.ordered_of_limits same.symm ordered
  rw [computed, idealSpeed_of_tracked tracked inOrder, CpufreqPolicy.clamp_of_limits same]
  rfl

/-- An effect on a CPU leaves the others as sound as they were. -/
theorem sound_onCpu_of_ne {g : Governor n} {c d : Fin n} {effect : CpuEffect} (other : d ≠ c)
    (sound : g.Sound d) : (g.onCpu c effect).Sound d := by
  unfold Sound
  rw [onCpu_of_ne other]
  exact sound

/-- The ideal frequency in use and what depends on it are the same. -/
structure SameIdeal (before after : Governor n) : Prop where
  idealFreq : after.idealFreq = before.idealFreq
  untracked : after.Untracked → before.Untracked
  enable (c : Fin n) : (after.cpu c).info.enable = (before.cpu c).info.enable
  limits (c : Fin n) : (after.cpu c).info.curPolicy.map CpufreqPolicy.limits =
    (before.cpu c).info.curPolicy.map CpufreqPolicy.limits
  idealSpeed (c : Fin n) : (after.cpu c).info.idealSpeed = (before.cpu c).info.idealSpeed

namespace SameIdeal

variable {g before middle after : Governor n} {c : Fin n} {effect : CpuEffect}

theorem refl (g : Governor n) : SameIdeal g g :=
  ⟨rfl, id, fun _ => rfl, fun _ => rfl, fun _ => rfl⟩

theorem trans (first : SameIdeal before middle) (second : SameIdeal middle after) :
    SameIdeal before after where
  idealFreq := second.idealFreq.trans first.idealFreq
  untracked := first.untracked ∘ second.untracked
  enable c := (second.enable c).trans (first.enable c)
  limits c := (second.limits c).trans (first.limits c)
  idealSpeed c := (second.idealSpeed c).trans (first.idealSpeed c)

/-- An effect on a CPU that leaves its ideal speed alone. -/
theorem onCpu (enable : effect.state.info.enable = (g.cpu c).info.enable)
    (limits : effect.state.info.curPolicy.map CpufreqPolicy.limits =
      (g.cpu c).info.curPolicy.map CpufreqPolicy.limits)
    (idealSpeed : effect.state.info.idealSpeed = (g.cpu c).info.idealSpeed) :
    SameIdeal g (g.onCpu c effect) where
  idealFreq := rfl
  untracked := id
  enable := onCpu_view (·.info.enable) enable
  limits := onCpu_view (fun s => s.info.curPolicy.map CpufreqPolicy.limits) limits
  idealSpeed := onCpu_view (·.info.idealSpeed) idealSpeed

/-- A CPU whose ideal speed is right stays so when nothing of it changes. -/
theorem sound (same : SameIdeal before after) (sound : before.Sound c) : after.Sound c := by
  obtain ⟨tracked, ideal⟩ := sound
  refine ⟨fun enabled untracked => ?_, fun enabled => ?_⟩
  · exact tracked (same.enable c ▸ enabled) (same.untracked untracked)
  · obtain ⟨policy, current, speed⟩ := ideal (same.enable c ▸ enabled)
    have limits := same.limits c
    rw [Option.mem_def.mp current, Option.map_some] at limits
    obtain ⟨now, found, limited⟩ := Option.map_eq_some_iff.mp limits
    refine ⟨now, found, fun ordered => ?_⟩
    have inOrder : policy.Ordered := CpufreqPolicy.ordered_of_limits limited.symm ordered
    rw [same.idealSpeed, speed inOrder, same.idealFreq, CpufreqPolicy.clamp_of_limits limited]

end SameIdeal

/-! ## Handlers that compute no ideal speed -/

section Handlers

variable {g after : Governor n} {env : Env n}

/-- The timer leaves the ideal speeds. -/
theorem cpufreqBoostedTimer_sameIdeal {c : Fin n} (ran : g.cpufreqBoostedTimer env c = some after) :
    SameIdeal g after := by
  simp only [cpufreqBoostedTimer, BoostedInfo.expire, Option.map_map, Option.map_eq_some_iff] at ran
  obtain ⟨policy, _, rfl⟩ := ran
  apply SameIdeal.onCpu
  · exact BoostedInfo.timerFunction_enable ..
  · exact congrArg _ (BoostedInfo.timerFunction_curPolicy ..)
  · exact BoostedInfo.timerFunction_idealSpeed ..

/-- The entry of the idle hook leaves the ideal speeds. -/
theorem cpufreqIdleEnter_sameIdeal {c : Fin n} (ran : g.cpufreqIdleEnter c = some after) :
    SameIdeal g after := by
  simp only [cpufreqIdleEnter] at ran
  split at ran
  · obtain ⟨policy, _, rfl⟩ := Option.map_eq_some_iff.mp ran
    apply SameIdeal.onCpu <;> (dsimp only; split <;> rfl)
  · exact Option.some.inj ran ▸ .onCpu rfl rfl rfl

/-- The exit of the idle hook leaves the ideal speeds. -/
theorem cpufreqIdleExit_sameIdeal (c : Fin n) (enabled : Bool) :
    SameIdeal g (g.cpufreqIdleExit env c enabled) := by
  cases enabled with
  | false => exact .onCpu rfl rfl rfl
  | true =>
      apply SameIdeal.onCpu
      · exact BoostedInfo.resetUnlessPending_enable ..
      · exact congrArg _ (BoostedInfo.resetUnlessPending_curPolicy ..)
      · exact BoostedInfo.resetUnlessPending_idealSpeed ..

/-- A turn of the work leaves the ideal speeds. -/
theorem workOn_sameIdeal {kernel : TableTarget} {before after : Governor n × Relation}
    {c : Fin n} (ran : workOn kernel env before c = some after) :
    SameIdeal before.1 after.1 := by
  simp only [workOn] at ran
  split at ran
  · obtain ⟨policy, current, rfl⟩ := Option.map_eq_some_iff.mp ran
    apply SameIdeal.onCpu
    · exact BoostedInfo.freqChangeTimeWork_enable ..
    · rw [BoostedInfo.freqChangeTimeWork_limits, current, Option.map_some]
    · exact BoostedInfo.freqChangeTimeWork_idealSpeed ..
  · exact Option.some.inj ran ▸ .refl _

theorem freqChangeTimeWork_sameIdeal {kernel : TableTarget}
    (ran : g.freqChangeTimeWork kernel env = some after) : SameIdeal g after := by
  obtain ⟨last, looped, rfl⟩ := Option.map_eq_some_iff.mp ran
  have dequeued : SameIdeal g { g with workQueued := false } :=
    ⟨rfl, id, fun _ => rfl, fun _ => rfl, fun _ => rfl⟩
  exact dequeued.trans
    (exec_related Prod.fst .refl .trans (fun _ _ _ => workOn_sameIdeal) looped)

theorem flushWork_sameIdeal {kernel : TableTarget} (ran : g.flushWork kernel env = some after) :
    SameIdeal g after := by
  unfold flushWork at ran
  split at ran
  · exact freqChangeTimeWork_sameIdeal ran
  · exact Option.some.inj ran ▸ .refl g

theorem tick_sameIdeal (g : Governor n) (env : Env n) : SameIdeal g (g.tick env) :=
  ⟨rfl, id, fun _ => rfl, fun _ => rfl, fun _ => rfl⟩

end Handlers

/-! ## Handlers that compute ideal speeds -/

/-- What a turn of a loop over the online CPUs does to the CPU it changes. -/
inductive ComputesIdeal (suspend : Bool) (c : Fin n) (g : Governor n) : Governor n → Prop where
  | disabled (off : (g.cpu c).info.enable = false) : ComputesIdeal suspend c g g
  | computed {effect : CpuEffect} {policy : CpufreqPolicy}
      (limits : effect.state.info.curPolicy.map CpufreqPolicy.limits = some policy.limits)
      (speed : effect.state.info.idealSpeed = g.tunables.idealSpeed policy suspend) :
      ComputesIdeal suspend c g (g.onCpu c effect)

section Computing

variable {g after : Governor n} {env : Env n} {suspend : Bool} {c d : Fin n}

theorem ComputesIdeal.tunables (computes : ComputesIdeal suspend c g after) :
    after.tunables = g.tunables := by
  cases computes <;> rfl

theorem ComputesIdeal.suspended (computes : ComputesIdeal suspend c g after) :
    after.suspended = g.suspended := by
  cases computes <;> rfl

theorem ComputesIdeal.sound (computes : ComputesIdeal suspend c g after)
    (tracked : ¬ g.Untracked) (entering : g.suspended = suspend) : after.Sound c := by
  cases computes with
  | disabled off => exact sound_of_disabled off
  | computed limits speed => exact sound_onCpu tracked limits (entering ▸ speed)

/-- Computing one ideal speed anew leaves the others right. -/
theorem ComputesIdeal.sound_of_sound (computes : ComputesIdeal suspend c g after)
    (tracked : ¬ g.Untracked) (entering : g.suspended = suspend) (sound : g.Sound d) :
    after.Sound d := by
  rcases eq_or_ne d c with rfl | other
  · exact computes.sound tracked entering
  · cases computes with
    | disabled => exact sound
    | computed => exact sound_onCpu_of_ne other sound

theorem updateMinMax_computes (ran : g.updateMinMax c = some after) :
    ComputesIdeal g.suspended c g after := by
  simp only [updateMinMax] at ran
  split at ran
  next enabled =>
    obtain ⟨policy, current, rfl⟩ := Option.map_eq_some_iff.mp ran
    apply ComputesIdeal.computed
    · rw [BoostedInfo.updateMinMax_curPolicy, current, Option.map_some]
    · rfl
  next disabled =>
    obtain rfl := Option.some.inj ran
    exact .disabled (Bool.eq_false_of_not_eq_true disabled)

/-- `boosted_suspend` changes the CPU that runs it, whatever CPU it is called for. -/
theorem boostedSuspend_computes {current i : Fin n}
    (ran : g.boostedSuspend env current suspend i = some after) :
    ComputesIdeal suspend current g after := by
  simp only [boostedSuspend] at ran
  split at ran
  next enabled =>
    obtain ⟨policy, found, rfl⟩ := Option.map_eq_some_iff.mp ran
    apply ComputesIdeal.computed
    · rw [BoostedInfo.boostedSuspend_limits found, found, Option.map_some]
    · exact BoostedInfo.boostedSuspend_idealSpeed ..
  next disabled =>
    obtain rfl := Option.some.inj ran
    exact .disabled (Bool.eq_false_of_not_eq_true disabled)

/-- After a loop over the online CPUs, the CPU that the turn of an online one
changes is sound. -/
theorem forEachOnline_sound {handler : Governor n → Fin n → Option (Governor n)}
    (target : Fin n → Fin n) (tracked : ¬ g.Untracked)
    (computes : ∀ before i after, before.suspended = g.suspended →
      handler before i = some after → ComputesIdeal g.suspended (target i) before after)
    (ran : forEachOnline env handler g = some after) {i : Fin n} (online : env.online i = true) :
    after.Sound (target i) := by
  have turn {before next : Governor n} {j : Fin n} (same : before.suspended = g.suspended)
      (taken : (if env.online j then handler before j else some before) = some next) :
      next = before ∨ ComputesIdeal g.suspended (target j) before next := by
    split at taken
    · exact .inr (computes _ _ _ same taken)
    · exact .inl (Option.some.inj taken).symm
  refine exec_establishes (fun now => ¬ now.Untracked ∧ now.suspended = g.suspended)
    (fun j now => env.online j = true → now.Sound (target j)) ?_ ?_ ?_ ⟨tracked, rfl⟩ ran i
    (.inl (List.mem_finRange i)) online
  · rintro before j next ⟨tracked, same⟩ taken
    rcases turn same taken with rfl | computed
    · exact ⟨tracked, same⟩
    · refine ⟨fun untracked => tracked ?_, computed.suspended.trans same⟩
      exact ⟨computed.suspended ▸ untracked.1, computed.tunables ▸ untracked.2⟩
  · intro before j next ⟨tracked, same⟩ taken online
    rw [if_pos online] at taken
    exact (computes _ _ _ same taken).sound tracked same
  · rintro before j next other ⟨tracked, same⟩ taken sound online
    rcases turn same taken with rfl | computed
    · exact sound online
    · exact computed.sound_of_sound tracked same (sound online)

/-! ### Suspend, resume and stores -/

/-- An early suspend that refreshes every CPU leaves the ideal speeds right. -/
theorem boostedEarlySuspend_sound {current : Fin n} (sound : g.Sound c)
    (enabled : (g.cpu c).info.enable = true)
    (refreshes : g.Refreshes ⟨.earlySuspend current, env⟩)
    (ran : g.boostedEarlySuspend env current = some after) : after.Sound c := by
  unfold boostedEarlySuspend at ran
  split at ran
  next => exact Option.some.inj ran ▸ sound
  next fires =>
    obtain ⟨awake, nonzero⟩ := not_or.mp fires
    obtain ⟨rfl, online⟩ := refreshes (Bool.eq_false_of_not_eq_true awake) nonzero c enabled
    have tracked : ¬ Untracked { g with suspended := true } := fun untracked => nonzero untracked.2
    exact forEachOnline_sound (fun _ => c) tracked
      (fun _ _ _ _ taken => boostedSuspend_computes taken) ran online

/-- A late resume that refreshes every CPU leaves the ideal speeds right. -/
theorem boostedLateResume_sound {current : Fin n} (sound : g.Sound c)
    (enabled : (g.cpu c).info.enable = true)
    (refreshes : g.Refreshes ⟨.lateResume current, env⟩)
    (ran : g.boostedLateResume env current = some after) : after.Sound c := by
  unfold boostedLateResume at ran
  split at ran
  next asleep =>
    obtain ⟨rfl, online⟩ := refreshes asleep c enabled
    have tracked : ¬ Untracked { g with suspended := false } :=
      fun untracked => Bool.false_ne_true untracked.1
    exact forEachOnline_sound (fun _ => c) tracked
      (fun _ _ _ _ taken => boostedSuspend_computes taken) ran online
  next => exact Option.some.inj ran ▸ sound

/-- A store that does not compute the ideal speeds leaves the ideal frequency in
use alone. -/
theorem sameIdeal_of_store {tunable : Tunable} {input : U32} (tracked : ¬ g.Untracked)
    (idle : g.updatesIdeal tunable = false) :
    SameIdeal g { g with tunables := g.tunables.store input tunable } := by
  have unchanged (sleep : (g.tunables.store input tunable).sleepIdealFreq =
        g.tunables.sleepIdealFreq)
      (awake : (g.tunables.store input tunable).awakeIdealFreq = g.tunables.awakeIdealFreq) :
      SameIdeal g { g with tunables := g.tunables.store input tunable } := by
    refine ⟨?_, ?_, fun _ => rfl, fun _ => rfl, fun _ => rfl⟩
    · simp only [idealFreq, sleep, awake]
    · rintro ⟨asleep, zero⟩
      exact ⟨asleep, sleep ▸ zero⟩
  cases tunable with
  | sleepIdealFreq =>
      have isAwake : g.suspended = false := idle
      refine ⟨?_, ?_, fun _ => rfl, fun _ => rfl, fun _ => rfl⟩
      · simp only [idealFreq, isAwake, Bool.false_eq_true, false_and, if_false]
        rfl
      · rintro ⟨asleep, _⟩
        exact absurd (isAwake.symm.trans asleep) Bool.false_ne_true
  | awakeIdealFreq =>
      have asleep : g.suspended = true := Bool.not_eq_eq_eq_not.mp idle
      have nonzero : g.tunables.sleepIdealFreq ≠ 0 := fun zero => tracked ⟨asleep, zero⟩
      refine ⟨?_, id, fun _ => rfl, fun _ => rfl, fun _ => rfl⟩
      simp only [idealFreq, Tunables.store, asleep, nonzero, ne_eq, not_false_eq_true, and_self,
        if_true]
  | sleepWakeupFreq | rampUpStep | rampDownStep => exact unchanged rfl rfl
  | upRateUs | downRateUs | sampleRateJiffies | maxCpuLoad | minCpuLoad =>
      apply unchanged <;> (simp only [Tunables.store]; split <;> rfl)

/-- A store that refreshes every CPU leaves the ideal speeds right. -/
theorem store_sound {tunable : Tunable} {input : U32} (sound : g.Sound c)
    (enabled : (g.cpu c).info.enable = true) (refreshes : g.Refreshes ⟨.store tunable input, env⟩)
    (ran : g.store env tunable input = some after) : after.Sound c := by
  simp only [store] at ran
  split at ran
  next updates =>
    have loop (tracked : ¬ Untracked { g with tunables := g.tunables.store input tunable })
        (online : env.online c = true) : after.Sound c :=
      forEachOnline_sound id tracked
        (fun _ _ _ same taken => same ▸ updateMinMax_computes taken) ran online
    cases tunable with
    | sleepIdealFreq =>
        obtain ⟨nonzero, online⟩ := refreshes updates c enabled
        exact loop (fun untracked => nonzero untracked.2) online
    | awakeIdealFreq =>
        have isAwake : g.suspended = false := Bool.not_eq_eq_eq_not.mp updates
        exact loop (fun untracked => Bool.false_ne_true (isAwake.symm.trans untracked.1))
          (refreshes isAwake c enabled)
    | _ => cases updates
  next idle =>
    obtain rfl := Option.some.inj ran
    exact (sameIdeal_of_store (sound.1 enabled) (Bool.eq_false_of_not_eq_true idle)).sound sound

end Computing

/-! ### Governor events -/

section Events

variable {g after : Governor n} {env : Env n} {c d : Fin n}

/-- After `GOV_START` the CPU is sound, unless nothing was done. -/
theorem governorStart_sound {policy : CpufreqPolicy} {freqTable : Option FreqTable}
    {rc : Option Errno} (sound : ∀ c, g.Sound c)
    (refreshes : g.Refreshes ⟨.start c policy freqTable rc, env⟩) :
    (g.governorStart env c policy freqTable rc).1.Sound d := by
  have started {now : Governor n} {info : BoostedInfo} {phase : GovPhase}
      (accepted : ¬ (env.online c = false ∨ policy.cur = 0)) (cpus : now.cpu = g.cpu)
      (tunables : now.tunables = g.tunables) (suspended : now.suspended = g.suspended)
      (current : info.curPolicy = some policy)
      (speed : info.idealSpeed = g.tunables.idealSpeed policy g.suspended) :
      (now.setPhase c info phase).Sound d := by
    obtain ⟨online, running⟩ := not_or.mp accepted
    have tracked : ¬ g.Untracked := refreshes (Bool.not_eq_false _ ▸ online) running
    have trackedNow : ¬ now.Untracked := by
      unfold Untracked
      rw [tunables, suspended]
      exact tracked
    rcases eq_or_ne d c with rfl | other
    · apply sound_onCpu trackedNow
      · rw [current, Option.map_some]
      · rw [speed, tunables, suspended]
    · apply sound_onCpu_of_ne other
      unfold Sound Untracked idealFreq
      rw [cpus, tunables, suspended]
      exact sound d
  have taken := governorStart_taken g env c policy freqTable rc
  generalize (g.governorStart env c policy freqTable rc).1 = next at taken ⊢
  generalize (g.governorStart env c policy freqTable rc).2 = returned at taken
  cases taken with
  | refused => exact sound d
  | failed accepted => exact started accepted rfl rfl rfl (BoostedInfo.start_curPolicy ..) rfl
  | installed accepted =>
      exact started accepted rfl rfl rfl
        ((BoostedInfo.armBelowMax_curPolicy ..).trans (BoostedInfo.start_curPolicy ..))
        (BoostedInfo.armBelowMax_idealSpeed ..)
  | joined accepted =>
      exact started accepted rfl rfl rfl
        ((BoostedInfo.armBelowMax_curPolicy ..).trans (BoostedInfo.start_curPolicy ..))
        (BoostedInfo.armBelowMax_idealSpeed ..)

/-- `GOV_LIMITS` computes the ideal speed for the new limits. -/
theorem governorLimits_sound {policy : CpufreqPolicy} (sound : ∀ c, g.Sound c) :
    (g.governorLimits env c policy).Sound d := by
  rcases eq_or_ne d c with rfl | other
  · cases enabled : (g.cpu d).info.enable with
    | false =>
        apply sound_of_disabled
        simp only [governorLimits, setInfo, onCpu_self, BoostedInfo.limits_enable, enabled]
    | true =>
        apply sound_onCpu ((sound d).1 enabled)
        · exact BoostedInfo.limits_limits g.suspended
        · exact BoostedInfo.limits_idealSpeed ..
  · exact sound_onCpu_of_ne other (sound d)

theorem stopFinish_sameIdeal (g : Governor n) (c : Fin n) :
    SameIdeal (g.setPhase c { (g.cpu c).info with idleExitTime := 0 } .stopped)
      (g.stopFinish c) := by
  have cpus := stopFinish_cpu g c
  refine ⟨?_, ?_, fun d => ?_, fun d => ?_, fun d => ?_⟩
  · simp only [stopFinish]
    split <;> rfl
  · simp only [stopFinish]
    split <;> exact id
  all_goals rw [cpus]

/-- An event that refreshes the ideal speeds keeps all CPUs sound. -/
theorem handle_sound {kernel : TableTarget} {event : Event n} (sound : ∀ c, g.Sound c)
    (refreshes : g.Refreshes ⟨event, env⟩) (ran : g.handle kernel env event = some after) :
    after.Sound d := by
  -- a handler that keeps disabled CPUs disabled matters for the enabled ones only
  have ifEnabled (handles : Handles (fun _ => False) g after)
      (enabledSound : (g.cpu d).info.enable = true → after.Sound d) : after.Sound d := by
    cases enabled : (g.cpu d).info.enable with
    | true => exact enabledSound enabled
    | false => exact sound_of_disabled ((handles.sameLife.enable d).trans enabled)
  cases happens_of_handle ran with
  | timer _ _ ran => exact (cpufreqBoostedTimer_sameIdeal ran).sound (sound d)
  | idleEnter ran => exact (cpufreqIdleEnter_sameIdeal ran).sound (sound d)
  | idleExit inside => exact (cpufreqIdleExit_sameIdeal _ _).sound (sound d)
  | work _ ran => exact (freqChangeTimeWork_sameIdeal ran).sound (sound d)
  | start c policy freqTable rc => exact governorStart_sound sound refreshes
  | limits => exact governorLimits_sound sound
  | stopClear c =>
      rcases eq_or_ne d c with rfl | other
      · apply sound_of_disabled
        simp only [setPhase, onCpu_self]
      · exact sound_onCpu_of_ne other (sound d)
  | stopDelTimer => exact (SameIdeal.onCpu rfl rfl rfl).sound (sound d)
  | stopFlush _ waited =>
      exact ((flushWork_sameIdeal waited).trans (.onCpu rfl rfl rfl)).sound (sound d)
  | @stopFinish c flushed =>
      have cleared :
          SameIdeal g (g.setPhase c { (g.cpu c).info with idleExitTime := 0 } .stopped) :=
        .onCpu rfl rfl rfl
      exact (cleared.trans (stopFinish_sameIdeal g c)).sound (sound d)
  | earlySuspend ran =>
      exact ifEnabled (boostedEarlySuspend_handles ran)
        fun enabled => boostedEarlySuspend_sound (sound d) enabled refreshes ran
  | lateResume ran =>
      exact ifEnabled (boostedLateResume_handles ran)
        fun enabled => boostedLateResume_sound (sound d) enabled refreshes ran
  | store ran =>
      exact ifEnabled (store_handles ran)
        fun enabled => store_sound (sound d) enabled refreshes ran

end Events

/-! ## The theorem -/

/-- **The ideal speeds are right** in every state that a run reaches whose events
all refresh them. -/
theorem idealSpeeds_of_refreshed {kernel : TableTarget} {actions : List (Action n)}
    {g : Governor n} (refreshed : Guarded (step kernel) Refreshes (init n) actions)
    (reached : exec (step kernel) (init n) actions = some g) : g.IdealSpeeds := by
  have sound : ∀ c, g.Sound c := by
    refine invariant (fun now => ∀ c, now.Sound c) ?_ ?_ refreshed reached
    · intro before action after sound refreshes taken c
      obtain ⟨handled, ran, rfl⟩ := Option.map_eq_some_iff.mp taken
      exact (tick_sameIdeal handled action.env).sound (handle_sound sound refreshes ran)
    · exact fun c => sound_of_disabled rfl
  exact fun c => (sound c).2

/-- One CPU through a suspend and a resume, with stores in both states. -/
def suspendAlone : List (Action 1) :=
  atJiffy 0 [startAt onlyCpu 300000, .earlySuspend onlyCpu, .store .sleepIdealFreq 400000,
    .store .awakeIdealFreq 2000000, .limits onlyCpu 500000 800000, .lateResume onlyCpu,
    .store .sleepIdealFreq 0]

theorem suspendAlone_idealSpeeds :
    ∃ g : Governor 1, exec (step cpufreqFrequencyTableTarget) (init 1) suspendAlone = some g ∧
      (g.cpu onlyCpu).info.idealSpeed = 800000 ∧ g.IdealSpeeds :=
  ⟨_, (Option.some_get (by decide +kernel)).symm, by decide +kernel,
    idealSpeeds_of_refreshed (by decide +kernel) (Option.some_get _).symm⟩

/-- Two CPUs are enabled when the first one runs `boosted_early_suspend`. -/
def suspendOnFirst : List (Action 2) :=
  atJiffy 0 [startAt firstCpu 300000, startAt secondCpu 300000, .earlySuspend firstCpu]

/-- The tracking is disabled while the device is suspended. -/
def disabledAsleep : List (Action 1) :=
  atJiffy 0 [startAt onlyCpu 300000, .earlySuspend onlyCpu, .store .sleepIdealFreq 0]

/-- The second CPU keeps the awake ideal speed; and a `sleep_ideal_freq` of 0 gives
the lowest frequency, not the awake ideal frequency. -/
theorem idealSpeeds_missed :
    (∃ g : Governor 2, exec (step cpufreqFrequencyTableTarget) (init 2) suspendOnFirst = some g ∧
      (g.cpu secondCpu).info.idealSpeed = 500000 ∧ g.idealFreq = 200000 ∧ ¬ g.IdealSpeeds) ∧
    ∃ g : Governor 1, exec (step cpufreqFrequencyTableTarget) (init 1) disabledAsleep = some g ∧
      (g.cpu onlyCpu).info.idealSpeed = 300000 ∧ g.idealFreq = 500000 ∧ ¬ g.IdealSpeeds :=
  ⟨⟨_, (Option.some_get (by decide +kernel)).symm, by decide +kernel, by decide +kernel,
      by decide +kernel⟩,
    ⟨_, (Option.some_get (by decide +kernel)).symm, by decide +kernel, by decide +kernel,
      by decide +kernel⟩⟩

end Governor

end Jordan.Cpufreq
