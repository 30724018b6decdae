import Jordan.Cpufreq.ConservativeLifecycle

/-! # The tunables of the conservative governor and its sampling period

Every store checks its value against the other tunables, so the thresholds stay in
order whatever is written and whenever, and the difference `down_threshold - 10` does not
wrap. The sampling rate never falls below the minimum that the first start sets. So the
period in jiffies that a work item divides by is not 0, and every work is due at a multiple
of it (`Jordan.Cpufreq.Dbs.samples_aligned`).
-/

namespace Jordan.Cpufreq

open Execution

/-! ## Tunables -/

/-- What the stores keep of the tunables. -/
structure DbsTuners.Coherent (tuners : DbsTuners) : Prop where
  down : 11 ≤ tuners.downThreshold
  ordered : tuners.downThreshold < tuners.upThreshold
  up : tuners.upThreshold ≤ 100
  downFactor : 1 ≤ tuners.samplingDownFactor ∧ tuners.samplingDownFactor ≤ 10
  ignoreNice : tuners.ignoreNice ≤ 1
  freqStep : tuners.freqStep ≤ 100

namespace DbsTuners

variable {tuners after : DbsTuners}

/-- The default tunables are what the stores would keep. -/
theorem coherent_default : DbsTuners.default.Coherent where
  down := by decide
  ordered := by decide
  up := by decide
  downFactor := by decide
  ignoreNice := by decide
  freqStep := by decide

/-- The comparison with the lower threshold is one of numbers. -/
theorem Coherent.down_sub_ten (coherent : tuners.Coherent) :
    (tuners.downThreshold - 10).toNat = tuners.downThreshold.toNat - 10 := by
  have eleven : (11 : U32).toNat = 11 := rfl
  have ten : (10 : U32).toNat = 10 := rfl
  have down := BitVec.le_def.mp coherent.down
  exact BitVec.toNat_sub_of_le (BitVec.le_def.mpr (by omega))

/-- A store that refuses some values. -/
theorem accepted_of_ite {refused : Prop} [Decidable refused] {errno : Errno}
    {accepted : DbsTuners} (stored : (if refused then .error errno else .ok accepted) =
      (.ok after : Except Errno DbsTuners)) : ¬ refused ∧ accepted = after := by
  by_cases bad : refused
  · rw [if_pos bad] at stored
    cases stored
  · rw [if_neg bad] at stored
    exact ⟨bad, Except.ok.inj stored⟩

/-- A value that is cut off is at most the bound. -/
theorem cut_le (bound input : U32) : (if bound < input then bound else input) ≤ bound := by
  by_cases beyond : bound < input
  · rw [if_pos beyond]
    exact BitVec.le_refl _
  · rw [if_neg beyond]
    exact BitVec.not_lt.mp beyond

/-- A store that is accepted keeps the tunables coherent, and a sampling rate that is at
least the minimum stays so. -/
theorem Coherent.store (coherent : tuners.Coherent) {minSamplingRate : U32} {tunable : DbsTunable}
    {input : Option U32} (stored : tuners.store minSamplingRate tunable input = .ok after) :
    after.Coherent ∧ (minSamplingRate ≤ tuners.samplingRate →
      minSamplingRate ≤ after.samplingRate) := by
  cases input with
  | none => cases stored
  | some input =>
      cases tunable with
      | samplingRate =>
          obtain rfl := Except.ok.inj stored
          refine ⟨{ coherent with }, fun _ => ?_⟩
          by_cases below : input < minSamplingRate
          · simp only [if_pos below, BitVec.le_refl]
          · simp only [if_neg below]
            exact BitVec.not_lt.mp below
      | samplingDownFactor =>
          obtain ⟨accepted, rfl⟩ := accepted_of_ite stored
          obtain ⟨atMost, atLeast⟩ := not_or.mp accepted
          exact ⟨{ coherent with
            downFactor := ⟨BitVec.not_lt.mp atLeast, BitVec.not_lt.mp atMost⟩ }, id⟩
      | upThreshold =>
          obtain ⟨accepted, rfl⟩ := accepted_of_ite stored
          obtain ⟨atMost, above⟩ := not_or.mp accepted
          exact ⟨{ coherent with
            ordered := BitVec.not_le.mp above
            up := BitVec.not_lt.mp atMost }, id⟩
      | downThreshold =>
          obtain ⟨accepted, rfl⟩ := accepted_of_ite stored
          obtain ⟨atLeast, rest⟩ := not_or.mp accepted
          obtain ⟨_, below⟩ := not_or.mp rest
          exact ⟨{ coherent with
            down := BitVec.not_lt.mp atLeast
            ordered := BitVec.not_le.mp below }, id⟩
      | ignoreNiceLoad =>
          obtain rfl := Except.ok.inj stored
          exact ⟨{ coherent with ignoreNice := cut_le 1 input }, id⟩
      | freqStep =>
          obtain rfl := Except.ok.inj stored
          exact ⟨{ coherent with freqStep := cut_le 100 input }, id⟩

end DbsTuners

/-! ## The sampling period -/

namespace JiffyClock

variable (clock : JiffyClock)

/-- A work queued at some jiffy is due within one period, at a multiple of the period. -/
structure Aligned (samplingRate : U32) (jiffies expiry : Nat) : Prop where
  period : 0 < (clock.usecsToJiffies samplingRate).toNat
  later : jiffies < expiry
  soon : expiry ≤ jiffies + (clock.usecsToJiffies samplingRate).toNat
  multiple : (clock.usecsToJiffies samplingRate).toNat ∣ jiffies % 2 ^ 32 + (expiry - jiffies)

/-- A positive sampling rate leads from any tick to one that is aligned. -/
theorem aligned_delay {samplingRate : U32} (positive : 0 < samplingRate.toNat) (jiffies : Nat) :
    clock.Aligned samplingRate jiffies (jiffies + (clock.delay samplingRate jiffies).toNat) := by
  have period := clock.usecsToJiffies_pos positive
  have rest := Nat.mod_lt (jiffies % 2 ^ 32) period
  have delay : (clock.delay samplingRate jiffies).toNat =
      (clock.usecsToJiffies samplingRate).toNat -
        jiffies % 2 ^ 32 % (clock.usecsToJiffies samplingRate).toNat := by
    have below : BitVec.ofNat 32 jiffies % clock.usecsToJiffies samplingRate ≤
        clock.usecsToJiffies samplingRate := by
      rw [BitVec.le_def, BitVec.toNat_umod, BitVec.toNat_ofNat]
      exact Nat.le_of_lt rest
    simp only [JiffyClock.delay]
    rw [BitVec.toNat_sub_of_le below, BitVec.toNat_umod, BitVec.toNat_ofNat]
  refine ⟨period, ?_, ?_, ?_⟩
  · rw [delay]
    omega
  · rw [delay]
    omega
  · rw [delay, Nat.add_sub_cancel_left]
    have whole := Nat.div_add_mod (jiffies % 2 ^ 32) (clock.usecsToJiffies samplingRate).toNat
    generalize (clock.usecsToJiffies samplingRate).toNat = p at *
    refine ⟨jiffies % 2 ^ 32 / p + 1, ?_⟩
    rw [Nat.mul_add, Nat.mul_one]
    omega

end JiffyClock

/-! ## Runs -/

namespace Dbs

variable {n : Nat} {clock : JiffyClock} {g after : Dbs n} {env : DbsEnv n} {c : Fin n}

/-- While the governor is started for a CPU, the sampling rate is at least the minimum,
which is not 0. -/
def Rated (g : Dbs n) : Prop :=
  g.live.Nonempty → 0 < g.minSamplingRate.toNat ∧ g.minSamplingRate ≤ g.tuners.samplingRate

theorem Rated.positive (rated : g.Rated) (live : g.Live c) : 0 < g.tuners.samplingRate.toNat := by
  obtain ⟨positive, above⟩ := rated ⟨c, mem_live.mpr live⟩
  exact positive.trans_le (BitVec.le_def.mp above)

/-- The first start sets a minimum that is not 0. -/
theorem startFirst_rated (clock : JiffyClock) (g : Dbs n) (policy : DbsPolicy n) :
    0 < (g.startFirst clock policy).minSamplingRate.toNat ∧
      (g.startFirst clock policy).minSamplingRate ≤
        (g.startFirst clock policy).tuners.samplingRate := by
  have ten := clock.tenJiffies_pos
  have small := clock.tenJiffies_lt
  have twice : (2 * clock.jiffiesToUsecs 10).toNat = 2 * (clock.jiffiesToUsecs 10).toNat := by
    have two : (2 : U32).toNat = 2 := rfl
    rw [BitVec.toNat_mul, two]
    exact Nat.mod_eq_of_lt (by omega)
  simp only [startFirst]
  constructor
  · split
    next above =>
      have := BitVec.lt_def.mp above
      omega
    next =>
      rw [twice]
      omega
  · generalize (if 2 * clock.jiffiesToUsecs 10 < 100 * latency policy then 100 * latency policy
      else 2 * clock.jiffiesToUsecs 10) = minimum
    by_cases above : minimum < latency policy * 1000
    · rw [if_pos above]
      exact BitVec.le_of_lt above
    · rw [if_neg above]
      exact BitVec.le_refl _

/-- A step that keeps the tunables and starts no first CPU keeps the rate above its minimum. -/
theorem Rated.of_same (rated : g.Rated) (tuners : after.tuners = g.tuners)
    (minimum : after.minSamplingRate = g.minSamplingRate)
    (live : after.live.Nonempty → g.live.Nonempty) : after.Rated := by
  intro some
  rw [minimum, tuners]
  exact rated (live some)

theorem Rated.sameLife (rated : g.Rated) (same : SameLife g after) : after.Rated :=
  rated.of_same same.tuners same.minSamplingRate fun some => live_of_phase same.phase ▸ some

/-- A work that is pending was pending before, or is aligned. -/
def Paces (clock : JiffyClock) (before : Dbs n) (env : DbsEnv n) (after : Dbs n) : Prop :=
  ∀ c, ∀ work ∈ (after.info c).work, work ∈ (before.info c).work ∨
    clock.Aligned before.tuners.samplingRate env.jiffies work.expiry

theorem paces_of_same (same : ∀ c, (after.info c).work = (g.info c).work) :
    g.Paces clock env after := by
  intro c work member
  rw [same c] at member
  exact .inl member

/-- One CPU gets a work, or loses it. -/
theorem paces_of_update {info : CpuDbsInfo n}
    (others : ∀ d, (after.info d).work = (Function.update g.info c info d).work)
    (aligned : ∀ work ∈ info.work,
      clock.Aligned g.tuners.samplingRate env.jiffies work.expiry) : g.Paces clock env after := by
  intro d work member
  rw [others d] at member
  by_cases here : d = c
  · subst here
    rw [Function.update_self] at member
    exact .inr (aligned work member)
  · rw [Function.update_of_ne here] at member
    exact .inl member

/-- What every step keeps: soundness, and the tunables and the rates. -/
structure Tuned (g : Dbs n) : Prop where
  sound : g.Sound
  coherent : g.tuners.Coherent
  rated : g.Rated

theorem tuned_init (policy : Fin n → DbsPolicy n) : (init policy).Tuned where
  sound := sound_init policy
  coherent := DbsTuners.coherent_default
  rated some := by
    rw [live_init] at some
    exact absurd some Finset.not_nonempty_empty

theorem startFirst_coherent (coherent : g.tuners.Coherent) (policy : DbsPolicy n) :
    (g.startFirst clock policy).tuners.Coherent :=
  { coherent with }

/-- An accepted start: the first one sets the rates, a later one finds them set. -/
theorem Tuned.started (tuned : g.Tuned) :
    (((g.startCpu clock env c).countStart clock (g.policy c)).setPhase c
      .created).tuners.Coherent ∧
    (((g.startCpu clock env c).countStart clock (g.policy c)).setPhase c .created).Rated := by
  have tuners := startCpu_tuners clock g env c
  have minimum : (g.startCpu clock env c).minSamplingRate = g.minSamplingRate := by
    simp only [startCpu, setInfo, startCpus_eq]
  have count : (g.startCpu clock env c).dbsEnable = g.dbsEnable := by
    simp only [startCpu, setInfo, startCpus_eq]
  simp only [countStart, count]
  by_cases first : g.dbsEnable + 1 = 1
  · rw [if_pos first]
    refine ⟨startFirst_coherent ?_ _, fun _ => startFirst_rated ..⟩
    rw [tuners]
    exact tuned.coherent
  · rw [if_neg first]
    have started : g.live.Nonempty := by
      by_contra none
      have alone : g.dbsEnable + 1 ≤ 1 := tuned.sound.shared.first_iff.mpr none
      omega
    refine ⟨?_, tuned.rated.of_same tuners minimum fun _ => started⟩
    simp only [setPhase, tuners]
    exact tuned.coherent

theorem startCpu_work (clock : JiffyClock) (g : Dbs n) (env : DbsEnv n) (c d : Fin n) :
    ((g.startCpu clock env c).info d).work = (g.info d).work :=
  congrArg (·.2.1) (startCpu_life clock g env c d)

/-- A store keeps the tunables coherent and the rate above the minimum. -/
theorem Tuned.store (tuned : g.Tuned) (tunable : DbsTunable) (input : Option U32) :
    (g.store clock env tunable input).1.tuners.Coherent ∧
      (g.store clock env tunable input).1.Rated ∧
      g.Paces clock env (g.store clock env tunable input).1 := by
  simp only [Dbs.store]
  cases stored : g.tuners.store g.minSamplingRate tunable input with
  | error errno => exact ⟨tuned.coherent, tuned.rated, paces_of_same fun _ => rfl⟩
  | ok tuners =>
      obtain ⟨coherent, above⟩ := tuned.coherent.store stored
      have rated : g.live.Nonempty → 0 < g.minSamplingRate.toNat ∧
          g.minSamplingRate ≤ tuners.samplingRate := fun some =>
        ⟨(tuned.rated some).1, above (tuned.rated some).2⟩
      by_cases unchanged : tuners.ignoreNice = g.tuners.ignoreNice
      · simp only [if_pos unchanged]
        exact ⟨coherent, rated, paces_of_same fun _ => rfl⟩
      · simp only [if_neg unchanged]
        refine ⟨coherent, rated, paces_of_same fun d => ?_⟩
        simp only [rebaseOnline]
        split <;> rfl

/-- One step: the tunables stay coherent, and the works that it queues are aligned. -/
theorem Tuned.handle (tuned : g.Tuned) {event : DbsEvent n} (enabled : g.Enabled env event)
    (handled : g.handle clock env event = some after) :
    after.tuners.Coherent ∧ after.Rated ∧ g.Paces clock env after := by
  have sound := tuned.sound
  cases event with
  | start c policy rc =>
      obtain rfl := Option.some.inj handled
      obtain ⟨stopped, _⟩ := enabled
      have prepared : (g.setPolicy c policy).Tuned :=
        ⟨sound.setPolicy fun live => absurd stopped live, tuned.coherent, tuned.rated⟩
      rcases governorStart_cases clock (g.setPolicy c policy) env c rc with
        ⟨_, same⟩ | ⟨_, accepted⟩
      · rw [same]
        exact ⟨tuned.coherent, tuned.rated, paces_of_same fun _ => rfl⟩
      · rw [accepted]
        refine ⟨prepared.started.1, prepared.started.2, paces_of_same fun d => ?_⟩
        simp only [setPhase, countStart_info]
        exact startCpu_work clock (g.setPolicy c policy) env c d
  | startTimer c =>
      obtain rfl := Option.some.inj handled
      have created : g.phase c = .created := enabled
      have live : g.Live c := by rw [Live, created]; decide
      refine ⟨tuned.coherent, tuned.rated.of_same rfl rfl fun _ => ⟨c, mem_live.mpr live⟩,
        paces_of_update (fun _ => rfl) ?_⟩
      rintro work (_ | _)
      exact clock.aligned_delay (tuned.rated.positive live) env.jiffies
  | work c =>
      obtain ⟨work, member, _⟩ := enabled
      have live := sound.live_of_pending (Option.isSome_of_mem member)
      have ran := doDbsTimer_of_pointed clock env sound.pointed
        (sound.curPolicy_self live) ((sound.each c).nodup live)
      obtain rfl := Option.some.inj (handled.symm.trans ran)
      have same := sameLife_timerRan clock g env c c
      refine ⟨same.tuners ▸ tuned.coherent, tuned.rated.of_same same.tuners same.minSamplingRate
        fun _ => ⟨c, mem_live.mpr live⟩, paces_of_update (fun d => same.work d) ?_⟩
      rintro work (_ | _)
      exact clock.aligned_delay (tuned.rated.positive live) env.jiffies
  | limits c min max =>
      obtain rfl := Option.some.inj (handled.symm.trans (sound.limits enabled.1))
      have same := sameLife_limitsDriven (g.limited c min max) env c c
      have rated : (g.limited c min max).Rated := tuned.rated
      exact ⟨same.tuners ▸ tuned.coherent, rated.sameLife same, paces_of_same same.work⟩
  | transition p transition =>
      have same := sameLife_transitioned g p transition
      obtain rfl := Option.some.inj
        (handled.symm.trans (notifyTransition_of_pointed sound.pointed p transition))
      exact ⟨tuned.coherent, tuned.rated.sameLife same, paces_of_same same.work⟩
  | store tunable input =>
      obtain rfl := Option.some.inj handled
      exact tuned.store tunable input
  | stopDisable c =>
      obtain rfl := Option.some.inj handled
      have place : g.phase c = .running := enabled
      have live : g.Live c := by rw [Live, place]; decide
      refine ⟨tuned.coherent, tuned.rated.of_same rfl rfl fun _ => ⟨c, mem_live.mpr live⟩,
        paces_of_same fun d => ?_⟩
      by_cases here : d = c
      · subst here
        simp only [setPhase, setInfo, Function.update_self]
      · simp only [setPhase, setInfo, Function.update_of_ne here]
  | stopCancel c =>
      obtain rfl := Option.some.inj handled
      have place : g.phase c = .disabled := enabled
      have live : g.Live c := by rw [Live, place]; decide
      exact ⟨tuned.coherent, tuned.rated.of_same rfl rfl fun _ => ⟨c, mem_live.mpr live⟩,
        paces_of_update (fun _ => rfl) fun _ member => absurd member (Option.not_mem_none _)⟩
  | stopFinish c =>
      obtain rfl := Option.some.inj handled
      have place : g.phase c = .cancelled := enabled
      have live : g.Live c := by rw [Live, place]; decide
      exact ⟨tuned.coherent, tuned.rated.of_same rfl rfl fun _ => ⟨c, mem_live.mpr live⟩,
        paces_of_same fun _ => rfl⟩

theorem Tuned.step {action : DbsAction n} (tuned : g.Tuned)
    (taken : g.step clock action = some after) : after.Tuned := by
  obtain ⟨enabled, handled⟩ := step_eq_some.mp taken
  obtain ⟨coherent, rated, _⟩ := tuned.handle enabled handled
  exact ⟨tuned.sound.step taken, coherent, rated⟩

/-- **Sampling is aligned along every run.** Whatever is stored, and however starts, stops
and expiries interleave, the tunables stay coherent and `down_threshold - 10` does not wrap,
and every work that is queued is due within one period of the rate in force, at a
multiple of it. -/
theorem samples_aligned (clock : JiffyClock) (policy : Fin n → DbsPolicy n)
    (actions : List (DbsAction n)) :
    Along (step clock) (fun before action after =>
      after.tuners.Coherent ∧
        (after.tuners.downThreshold - 10).toNat = after.tuners.downThreshold.toNat - 10 ∧
        after.Rated ∧ before.Paces clock action.env after)
      (init policy) actions := by
  have unguarded : Guarded (step clock) (fun _ _ => True) (init policy) actions :=
    along_of_forall (fun _ _ _ _ => trivial) _ _
  apply along_of_invariant Tuned _ (tuned_init policy) unguarded
  intro before action after tuned _ taken
  obtain ⟨enabled, handled⟩ := step_eq_some.mp taken
  obtain ⟨coherent, rated, paced⟩ := tuned.handle enabled handled
  exact ⟨tuned.step taken, coherent, coherent.down_sub_ten, rated, paced⟩

end Dbs

end Jordan.Cpufreq
