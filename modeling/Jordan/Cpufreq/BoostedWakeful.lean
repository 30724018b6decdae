import Jordan.Cpufreq.BoostedQuiet

/-! # The boosted governor keeps sampling

While the governor is enabled on a CPU that runs below the maximum, something
must be under way that samples it again: its timer, or the queued work with its
bit set. Only the idle loop resumes a CPU for which nothing is. Every handler
keeps this, but a timer that expires while `idle_exit_time` is 0 does nothing,
and is not armed again; `GOV_STOP` clears `idle_exit_time` after `flush_work`,
which may have armed the timer, and the next `GOV_START` finds it pending.
-/

namespace Jordan.Cpufreq

open Execution

/-- The CPU runs below the maximum of its policy. -/
def BoostedInfo.BelowMax (info : BoostedInfo) : Prop :=
  ∃ policy ∈ info.curPolicy, policy.cur < policy.max

instance (info : BoostedInfo) : Decidable info.BelowMax :=
  decidable_of_iff (info.curPolicy.any fun policy => policy.cur < policy.max)
    (by simp only [Option.any_eq_true, decide_eq_true_eq, BoostedInfo.BelowMax, Option.mem_def])

theorem BoostedInfo.belowMax_of_some {info : BoostedInfo} {policy : CpufreqPolicy}
    (current : info.curPolicy = some policy) (below : info.BelowMax) : policy.cur < policy.max := by
  obtain ⟨held, member, below⟩ := below
  rw [current] at member
  exact Option.some.inj member ▸ below

/-- The timer of a CPU is good at a time: `idle_exit_time` is 0, or not later
than the clock of the CPU, and earlier once the timer is due. -/
def BoostedInfo.Fresh (jiffies : Nat) (wall : U64) (info : BoostedInfo) : Prop :=
  ∀ expiry ∈ info.timer, info.idleExitTime = 0 ∨
    (info.idleExitTime ≤ wall ∧ (expiry ≤ jiffies → info.idleExitTime < wall))

theorem BoostedInfo.Fresh.of_none {jiffies : Nat} {wall : U64} {info : BoostedInfo}
    (stopped : info.timer = none) : info.Fresh jiffies wall := by
  intro expiry pending
  rw [stopped] at pending
  cases pending

/-- A CPU that needs to be sampled is going to be: the timer is pending, or the
bit is set and the work queued. -/
structure Alert (jiffies : Nat) (wall : U64) (queued : Bool) (s : CpuState) : Prop where
  sampled : s.info.enable = true → s.hook ≠ some true → s.info.BelowMax →
    s.info.timer ≠ none ∨ (s.inMask = true ∧ queued = true)
  fresh : s.info.Fresh jiffies wall

namespace Alert

variable {jiffies : Nat} {wall : U64} {queued : Bool} {s : CpuState}

/-- More work is queued. -/
theorem mono {more : Bool} (alert : Alert jiffies wall queued s)
    (kept : queued = true → more = true) : Alert jiffies wall more s where
  sampled enabled outside below :=
    (alert.sampled enabled outside below).imp_right fun ⟨set, queued⟩ => ⟨set, kept queued⟩
  fresh := alert.fresh

/-- A CPU that is disabled. -/
theorem of_disabled (disabled : s.info.enable = false) (fresh : s.info.Fresh jiffies wall) :
    Alert jiffies wall queued s where
  sampled enabled := Bool.noConfusion (enabled.symm.trans disabled)
  fresh := fresh

/-- A CPU whose timer is not pending and that needs no sample. -/
theorem of_idle (stopped : s.info.timer = none)
    (needless : s.info.enable = true → s.hook ≠ some true → s.info.BelowMax →
      s.inMask = true ∧ queued = true) : Alert jiffies wall queued s where
  sampled enabled outside below := .inr (needless enabled outside below)
  fresh := .of_none stopped

/-- Only the phase and the bits that are not looked at change. -/
theorem congr {t : CpuState} (alert : Alert jiffies wall queued s)
    (enable : t.info.enable = s.info.enable) (policy : t.info.curPolicy = s.info.curPolicy)
    (timer : t.info.timer = s.info.timer) (exit : t.info.idleExitTime = s.info.idleExitTime)
    (inMask : t.inMask = s.inMask) (hook : t.hook ≠ some true → s.hook ≠ some true) :
    Alert jiffies wall queued t where
  sampled enabled outside below := by
    have belowBefore : s.info.BelowMax := by
      obtain ⟨held, member, below⟩ := below
      exact ⟨held, policy ▸ member, below⟩
    rw [timer, inMask]
    exact alert.sampled (enable ▸ enabled) (hook outside) belowBefore
  fresh := by
    unfold BoostedInfo.Fresh
    rw [timer, exit]
    exact alert.fresh

end Alert

/-- Time passes on a CPU: jiffies and readings do not go back, and a reading in a
later jiffy is later. -/
structure Later (jiffies : Nat) (wall : U64) (env : KernelEnv) (reading : CpuReading) : Prop where
  forward : jiffies ≤ env.jiffies
  sample : wall ≤ reading.sample.wall
  strict : jiffies < env.jiffies → wall < reading.sample.wall
  reset : reading.sample.wall ≤ reading.reset.wall

namespace BoostedInfo

variable {info : BoostedInfo} {tunables : Tunables} {env : KernelEnv} {policy : CpufreqPolicy}
  {reading : CpuReading} {s : CpuState} {queued : Bool}

/-- A timer that has expired was started earlier than the new sample. -/
theorem Fresh.expired {jiffies : Nat} {wall : U64} {expiry : Nat}
    (fresh : info.Fresh jiffies wall) (later : Later jiffies wall env reading)
    (pending : info.timer = some expiry) (due : expiry ≤ env.jiffies)
    (running : info.idleExitTime ≠ 0) : info.idleExitTime < reading.sample.wall := by
  obtain ⟨earlier, strictly⟩ := (fresh expiry pending).resolve_left running
  have sample := later.sample
  rcases Nat.lt_or_ge jiffies expiry with ahead | passed
  · have strict := later.strict (ahead.trans_le due)
    bv_omega
  · have strict := strictly passed
    bv_omega

/-- A good timer stays good while time passes. -/
theorem Fresh.later {jiffies : Nat} {wall : U64} (fresh : info.Fresh jiffies wall)
    (later : Later jiffies wall env reading) : info.Fresh env.jiffies reading.reset.wall := by
  intro expiry pending
  by_cases running : info.idleExitTime = 0
  · exact .inl running
  · obtain ⟨earlier, _⟩ := (fresh expiry pending).resolve_left running
    have sample := later.sample
    have reset := later.reset
    refine .inr ⟨by bv_omega, fun due => ?_⟩
    have strict := fresh.expired later pending due running
    bv_omega

/-- A timer that is set now is good. -/
theorem fresh_resetTimer (rate : tunables.sampleRateJiffies ≠ 0) (sample : IdleReading) :
    (info.resetTimer tunables env sample).Fresh env.jiffies sample.wall := by
  intro expiry pending
  obtain rfl := Option.some.inj pending
  have positive : 0 < tunables.sampleRateJiffies.toNat :=
    Nat.pos_of_ne_zero fun zero => rate (BitVec.eq_of_toNat_eq zero)
  exact .inr ⟨BitVec.le_refl _, fun due => absurd due (by omega)⟩

theorem alert_resetTimer (rate : tunables.sampleRateJiffies ≠ 0) {sample : IdleReading}
    (reset : s.info = info.resetTimer tunables env sample) :
    Alert env.jiffies sample.wall queued s where
  sampled _ _ _ := .inl (by rw [reset]; exact Option.some_ne_none _)
  fresh := reset ▸ fresh_resetTimer rate sample

theorem alert_resetUnlessPending (rate : tunables.sampleRateJiffies ≠ 0) {sample : IdleReading}
    (fresh : info.Fresh env.jiffies sample.wall)
    (reset : s.info = info.resetUnlessPending tunables env sample) :
    Alert env.jiffies sample.wall queued s := by
  unfold resetUnlessPending at reset
  split at reset
  next pending =>
    rw [← reset] at pending fresh
    exact ⟨fun _ _ _ => .inl (Option.isSome_iff_ne_none.mp pending), fresh⟩
  next => exact alert_resetTimer rate reset

/-- The end of `GOV_START` and of `GOV_LIMITS`. -/
theorem alert_armBelowMax (rate : tunables.sampleRateJiffies ≠ 0)
    (armed : s.info = info.armBelowMax tunables env policy reading)
    (current : info.curPolicy = some policy) (fresh : info.Fresh env.jiffies reading.reset.wall) :
    Alert env.jiffies reading.reset.wall queued s := by
  unfold armBelowMax at armed
  split at armed
  next => exact alert_resetUnlessPending rate fresh armed
  next atMax =>
    refine ⟨fun _ _ below => ?_, armed ▸ fresh⟩
    rw [armed] at below
    exact absurd (belowMax_of_some current below) atMax

/-- The expiry of a timer arms it again, or queues the work, or leaves a CPU that
is at the maximum; or it returns at once and needs not do more. -/
theorem alert_timerFunction (rate : tunables.sampleRateJiffies ≠ 0)
    {expired : BoostedInfo} {set : Bool}
    (ran : info.timerFunction tunables env policy reading = (expired, set))
    (current : info.curPolicy = some policy) (stopped : info.timer = none)
    (started : info.idleExitTime ≠ 0 → info.idleExitTime < reading.sample.wall)
    (needless : info.idleExitTime = 0 → info.enable = true → s.hook ≠ some true →
      info.BelowMax → s.inMask = true ∧ queued = true) :
    Alert env.jiffies reading.reset.wall (queued || set)
      { s with info := expired, inMask := s.inMask || set } := by
  simp only [timerFunction] at ran
  split_ifs at ran with early short ramps below
  all_goals obtain ⟨rfl, rfl⟩ := Prod.mk.inj ran
  · -- the expiry does nothing
    have zero : info.idleExitTime = 0 := by
      by_contra running
      have earlier := started running
      rcases early with zero | same
      · exact running zero
      · rw [same] at earlier
        exact BitVec.lt_irrefl _ earlier
    refine .of_idle stopped fun enabled outside below => ?_
    simpa only [Bool.or_false] using needless zero enabled outside below
  · exact alert_resetUnlessPending rate (.of_none stopped) rfl
  · refine .of_idle stopped fun _ _ _ => ?_
    simp only [Bool.or_true, and_self]
  · exact alert_resetTimer rate rfl
  · exact .of_idle stopped fun _ _ atMax => absurd (belowMax_of_some current atMax) below

/-- The work item arms the timer, or has brought the CPU to the maximum. -/
theorem alert_freqChangeTimeWork {kernel : TableTarget} {relation : Relation}
    (rate : tunables.sampleRateJiffies ≠ 0) (driven : env.drive = Request.target)
    (worked : s.info = info.freqChangeTimeWork kernel tunables env policy relation reading) :
    Alert env.jiffies reading.reset.wall queued s := by
  simp only [freqChangeTimeWork] at worked
  generalize info.rampRequest kernel tunables env policy relation = request at worked
  by_cases below : (request.map Request.target).getD 0 < (policy.driven env request).max
  · rw [if_pos below] at worked
    exact alert_resetTimer rate worked
  · rw [if_neg below] at worked
    refine .of_idle (by rw [worked]) fun _ _ belowMax => absurd ?_ below
    rw [worked] at belowMax
    have less := belowMax_of_some rfl belowMax
    cases request with
    | none =>
        -- the result is 0, which is below the maximum when the current frequency is
        simp only [CpufreqPolicy.driven_none, Option.map_none, Option.getD_none] at less ⊢
        bv_omega
    | some request =>
        simp only [CpufreqPolicy.driven, driven, Option.map_some, Option.getD_some] at less ⊢
        exact less

/-- `GOV_LIMITS` arms the timer of a CPU below the new maximum. -/
theorem alert_limits (rate : tunables.sampleRateJiffies ≠ 0) {suspended : Bool}
    (fresh : info.Fresh env.jiffies reading.reset.wall)
    (limited : s.info = info.limits tunables suspended env policy reading) :
    Alert env.jiffies reading.reset.wall queued s := by
  simp only [limits] at limited
  exact alert_armBelowMax rate limited rfl fresh

/-- `boosted_suspend` arms the timer. -/
theorem alert_boostedSuspend (rate : tunables.sampleRateJiffies ≠ 0) {suspend : Bool}
    (reading : CpuReading)
    (suspended : s.info = info.boostedSuspend tunables env policy suspend reading) :
    Alert env.jiffies reading.reset.wall queued s :=
  alert_resetTimer rate suspended

end BoostedInfo

namespace Governor

variable {n : Nat}

/-- All CPUs are alert at the times given, while the work item runs or not. -/
structure AllAlert (jiffies : Nat) (wall : Fin n → U64) (working : Bool) (g : Governor n) :
    Prop where
  rate : g.tunables.sampleRateJiffies ≠ 0
  alert (c : Fin n) : Alert jiffies (wall c) (g.workQueued || working) (g.cpu c)

/-- All CPUs are alert at the times of an environment. -/
abbrev AlertIn (env : Env n) (working : Bool) (g : Governor n) : Prop :=
  g.AllAlert env.jiffies (fun c => (env.reading c).reset.wall) working

/-- The times of a step: jiffies and readings do not go back, and the readings of
a later jiffy are later. -/
def Timely (g : Governor n) (action : Action n) : Prop :=
  ∀ c, Later g.jiffies (g.wall c) action.env.toKernelEnv (action.env.reading c)

/-- Only its timer, or the idle loop, would sample the CPU again. -/
structure OnlyTimer (g : Governor n) (c : Fin n) : Prop where
  enabled : (g.cpu c).info.enable = true
  outside : (g.cpu c).hook ≠ some true
  below : (g.cpu c).info.BelowMax
  unqueued : ¬ ((g.cpu c).inMask = true ∧ g.workQueued = true)

/-- No timer expires in vain: while `idle_exit_time` is 0, on a CPU that needs
it. And `sysfs_create_group` does not fail in the start of a CPU below the
maximum that nothing samples yet. -/
def KeepsSampling (g : Governor n) (action : Action n) : Prop :=
  match action.event with
  | .timer c => (g.cpu c).info.idleExitTime = 0 → ¬ g.OnlyTimer c
  | .start c policy _ (some _) =>
      ¬ (action.env.online c = false ∨ policy.cur = 0) → g.activeCount + 1 ≤ 1 →
        policy.cur < policy.max → (g.cpu c).hook ≠ some true → (g.cpu c).info.timer ≠ none ∨
          ((g.cpu c).inMask = true ∧ g.workQueued = true)
  | _ => True

section Handlers

variable {working : Bool} {g after : Governor n} {env : Env n} {c : Fin n}

/-- The state before a step, at the times of the step. -/
theorem AllAlert.later {action : Action n} (all : g.AllAlert g.jiffies g.wall working)
    (timely : g.Timely action) : g.AlertIn action.env working where
  rate := all.rate
  alert c := ⟨(all.alert c).sampled, (all.alert c).fresh.later (timely c)⟩

/-- An effect that leaves its CPU alert. -/
theorem AllAlert.onCpu {jiffies : Nat} {wall : Fin n → U64} {effect : CpuEffect}
    (all : g.AllAlert jiffies wall working)
    (alert : Alert jiffies (wall c) (g.workQueued || working || effect.queued) effect.state) :
    (g.onCpu c effect).AllAlert jiffies wall working where
  rate := all.rate
  alert d := by
    have more : (g.workQueued || working) = true →
        (g.workQueued || effect.queued || working) = true := by
      simp only [Bool.or_eq_true]
      tauto
    rcases eq_or_ne d c with rfl | other
    · rw [onCpu_self]
      refine alert.mono ?_
      simp only [onCpu_workQueued, Bool.or_eq_true]
      tauto
    · rw [onCpu_of_ne other]
      exact (all.alert d).mono more

/-- An effect after which nothing more is queued. -/
theorem AllAlert.onCpu_quiet {jiffies : Nat} {wall : Fin n → U64} {state : CpuState}
    {request : Option Request} (all : g.AllAlert jiffies wall working)
    (alert : Alert jiffies (wall c) (g.workQueued || working) state) :
    (g.onCpu c ⟨state, false, request⟩).AllAlert jiffies wall working :=
  all.onCpu (alert.mono fun queued => by rw [Bool.or_false]; exact queued)

/-- The timer keeps the CPUs alert, unless it is the only one that is needed. -/
theorem AllAlert.cpufreqBoostedTimer (all : g.AlertIn env working)
    (expired : (g.cpu c).info.idleExitTime ≠ 0 →
      (g.cpu c).info.idleExitTime < (env.reading c).sample.wall)
    (needed : (g.cpu c).info.idleExitTime = 0 → ¬ g.OnlyTimer c)
    (ran : g.cpufreqBoostedTimer env c = some after) : after.AlertIn env working := by
  obtain ⟨⟨info, set⟩, expiry, rfl⟩ := Option.map_eq_some_iff.mp ran
  obtain ⟨policy, current, function⟩ := Option.map_eq_some_iff.mp expiry
  refine all.onCpu (BoostedInfo.alert_timerFunction all.rate function current rfl expired ?_)
  intro zero enabled outside below
  by_contra unqueued
  refine needed zero ⟨enabled, outside, below, fun queued => unqueued ?_⟩
  exact ⟨queued.1, by rw [queued.2, Bool.true_or]⟩

/-- The entry of the idle hook keeps the CPUs alert. -/
theorem AllAlert.cpufreqIdleEnter (all : g.AlertIn env working)
    (ran : g.cpufreqIdleEnter c = some after) : after.AlertIn env working := by
  simp only [Governor.cpufreqIdleEnter] at ran
  split at ran
  next enabled =>
    obtain ⟨policy, _, rfl⟩ := Option.map_eq_some_iff.mp ran
    refine all.onCpu_quiet ⟨fun _ outside => absurd rfl outside, ?_⟩
    simp only
    split
    · exact .of_none rfl
    · exact (all.alert c).fresh
  next disabled =>
    obtain rfl := Option.some.inj ran
    exact all.onCpu_quiet (.of_disabled (Bool.not_eq_true _ ▸ disabled) (all.alert c).fresh)

/-- The exit of the idle hook keeps the CPUs alert. -/
theorem AllAlert.cpufreqIdleExit (all : g.AlertIn env working) {entered : Bool}
    (inside : (g.cpu c).hook = some entered) :
    (g.cpufreqIdleExit env c entered).AlertIn env working := by
  refine all.onCpu_quiet ?_
  have alert := all.alert c
  cases entered with
  | true => exact BoostedInfo.alert_resetUnlessPending all.rate alert.fresh rfl
  | false =>
      refine alert.congr rfl rfl rfl rfl rfl fun _ => ?_
      rw [inside]
      exact nofun

theorem AllAlert.workOn {kernel : TableTarget} {before after : Governor n × Relation}
    (driven : env.drive = Request.target) (all : before.1.AlertIn env working)
    (ran : workOn kernel env before c = some after) : after.1.AlertIn env working := by
  simp only [Governor.workOn] at ran
  split at ran
  next =>
    obtain ⟨policy, _, rfl⟩ := Option.map_eq_some_iff.mp ran
    exact all.onCpu_quiet (BoostedInfo.alert_freqChangeTimeWork all.rate driven rfl)
  next => exact Option.some.inj ran ▸ all

/-- A turn of the work item clears the bit of its CPU and sets none. -/
theorem workOn_inMask {kernel : TableTarget} {before after : Governor n × Relation} {d : Fin n}
    (ran : workOn kernel env before c = some after) (set : (after.1.cpu d).inMask = true) :
    (before.1.cpu d).inMask = true ∧ d ≠ c := by
  simp only [Governor.workOn] at ran
  split at ran
  next =>
    obtain ⟨policy, _, rfl⟩ := Option.map_eq_some_iff.mp ran
    rcases eq_or_ne d c with rfl | other
    · simp only [onCpu_self] at set
      cases set
    · simp only [onCpu_of_ne other] at set
      exact ⟨set, other⟩
  next clear =>
    obtain rfl := Option.some.inj ran
    refine ⟨set, ?_⟩
    rintro rfl
    exact clear set

/-- The work item clears the bits of the CPUs it comes to. -/
theorem exec_workOn_inMask {kernel : TableTarget} {cpus : List (Fin n)}
    {before after : Governor n × Relation} {d : Fin n}
    (ran : exec (workOn kernel env) before cpus = some after)
    (set : (after.1.cpu d).inMask = true) : (before.1.cpu d).inMask = true ∧ d ∉ cpus := by
  induction cpus generalizing before with
  | nil =>
      obtain rfl := Option.some.inj ran
      exact ⟨set, List.not_mem_nil⟩
  | cons c rest ih =>
      obtain ⟨next, turn, ran⟩ := exec_cons_eq_some.mp ran
      obtain ⟨set, later⟩ := ih ran
      obtain ⟨set, other⟩ := workOn_inMask turn set
      exact ⟨set, fun member => (List.mem_cons.mp member).elim other later⟩

/-- The work item leaves the CPUs alert, with no bit set. -/
theorem AllAlert.freqChangeTimeWork {kernel : TableTarget} (driven : env.drive = Request.target)
    (all : g.AlertIn env false) (ran : g.freqChangeTimeWork kernel env = some after) :
    after.AlertIn env false := by
  obtain ⟨⟨last, relation⟩, looped, rfl⟩ := Option.map_eq_some_iff.mp ran
  -- while the loop runs, a bit that is set will be come to
  have entered : AlertIn env true { g with workQueued := false } :=
    ⟨all.rate, fun c => (all.alert c).mono fun _ => rfl⟩
  have left : last.AlertIn env true :=
    invariant_of_step (fun loop => loop.1.AlertIn env true)
      (fun _ _ _ all taken => all.workOn driven taken) entered looped
  refine ⟨left.rate, fun c => ?_⟩
  have clear : ¬ (last.cpu c).inMask = true := fun set =>
    (exec_workOn_inMask looped set).2 (List.mem_finRange c)
  exact ⟨fun enabled outside below => ((left.alert c).sampled enabled outside below).imp_right
    fun ⟨set, _⟩ => absurd set clear, (left.alert c).fresh⟩

theorem AllAlert.flushWork {kernel : TableTarget} (driven : env.drive = Request.target)
    (all : g.AlertIn env false) (ran : g.flushWork kernel env = some after) :
    after.AlertIn env false := by
  unfold Governor.flushWork at ran
  split at ran
  · exact all.freqChangeTimeWork driven ran
  · exact Option.some.inj ran ▸ all

theorem AllAlert.boostedSuspend {current i : Fin n} {suspend : Bool}
    (all : g.AlertIn env working) (ran : g.boostedSuspend env current suspend i = some after) :
    after.AlertIn env working := by
  simp only [Governor.boostedSuspend] at ran
  split at ran
  next =>
    obtain ⟨policy, _, rfl⟩ := Option.map_eq_some_iff.mp ran
    exact all.onCpu_quiet (BoostedInfo.alert_boostedSuspend all.rate
      ⟨(env.reading i).sample, (env.reading current).reset⟩ rfl)
  next => exact Option.some.inj ran ▸ all

theorem AllAlert.updateMinMax {i : Fin n} (all : g.AlertIn env working)
    (ran : g.updateMinMax i = some after) : after.AlertIn env working := by
  simp only [Governor.updateMinMax] at ran
  split at ran
  next =>
    obtain ⟨policy, _, rfl⟩ := Option.map_eq_some_iff.mp ran
    exact all.onCpu_quiet ((all.alert i).congr rfl rfl rfl rfl rfl id)
  next => exact Option.some.inj ran ▸ all

theorem AllAlert.forEachOnline {handler : Governor n → Fin n → Option (Governor n)}
    (each : ∀ before i after, handler before i = some after →
      before.AlertIn env working → after.AlertIn env working)
    (all : g.AlertIn env working) (ran : forEachOnline env handler g = some after) :
    after.AlertIn env working :=
  forEachOnline_related (fun before after => before.AlertIn env working → after.AlertIn env working)
    (fun _ => id) (fun first second => second ∘ first) each ran all

theorem AllAlert.boostedEarlySuspend {current : Fin n} (all : g.AlertIn env working)
    (ran : g.boostedEarlySuspend env current = some after) : after.AlertIn env working := by
  unfold Governor.boostedEarlySuspend at ran
  split at ran
  · exact Option.some.inj ran ▸ all
  · have marked : AlertIn env working { g with suspended := true } := ⟨all.rate, all.alert⟩
    exact marked.forEachOnline (fun _ _ _ ran all => all.boostedSuspend ran) ran

theorem AllAlert.boostedLateResume {current : Fin n} (all : g.AlertIn env working)
    (ran : g.boostedLateResume env current = some after) : after.AlertIn env working := by
  unfold Governor.boostedLateResume at ran
  split at ran
  · have marked : AlertIn env working { g with suspended := false } := ⟨all.rate, all.alert⟩
    exact marked.forEachOnline (fun _ _ _ ran all => all.boostedSuspend ran) ran
  · exact Option.some.inj ran ▸ all

/-- The store function of the sampling rate refuses 0. -/
theorem store_sampleRateJiffies {tunables : Tunables} (rate : tunables.sampleRateJiffies ≠ 0)
    (tunable : Tunable) (input : U32) : (tunables.store input tunable).sampleRateJiffies ≠ 0 := by
  cases tunable with
  | sampleRateJiffies =>
      simp only [Tunables.store]
      split
      next accepted =>
        rintro rfl
        exact BitVec.lt_irrefl _ accepted.1
      next => exact rate
  | upRateUs | downRateUs | maxCpuLoad | minCpuLoad =>
      simp only [Tunables.store]
      split <;> exact rate
  | sleepIdealFreq | sleepWakeupFreq | awakeIdealFreq | rampUpStep | rampDownStep => exact rate

theorem AllAlert.store {tunable : Tunable} {input : U32} (all : g.AlertIn env working)
    (ran : g.store env tunable input = some after) : after.AlertIn env working := by
  simp only [Governor.store] at ran
  have stored : AlertIn env working { g with tunables := g.tunables.store input tunable } :=
    ⟨store_sampleRateJiffies all.rate tunable input, all.alert⟩
  split at ran
  · exact stored.forEachOnline (fun _ _ _ ran all => all.updateMinMax ran) ran
  · exact Option.some.inj ran ▸ stored

/-! ## Governor events -/

/-- A start that keeps the sampling keeps the CPUs alert. -/
theorem AllAlert.start {policy : CpufreqPolicy} {freqTable : Option FreqTable}
    {rc returned : Option Errno} (all : g.AlertIn env false)
    (keeps : g.KeepsSampling ⟨.start c policy freqTable rc, env⟩)
    (taken : StartTaken g env c policy freqTable rc after returned) :
    after.AlertIn env false := by
  have fresh := (all.alert c).fresh
  have counted {now : Governor n} (info : BoostedInfo) (phase : GovPhase)
      (allNow : now.AlertIn env false) (cpus : now.cpu = g.cpu)
      (queued : now.workQueued = g.workQueued)
      (alert : Alert env.jiffies (env.reading c).reset.wall (g.workQueued || false)
        { g.cpu c with info := info, phase := phase }) :
      (now.setPhase c info phase).AlertIn env false := by
    refine allNow.onCpu_quiet ?_
    rw [cpus, queued]
    exact alert
  have armed {phase : GovPhase} : Alert env.jiffies (env.reading c).reset.wall
      (g.workQueued || false)
      { g.cpu c with info := g.armedInfo env c policy freqTable, phase := phase } :=
    BoostedInfo.alert_armBelowMax all.rate rfl rfl fresh
  cases taken with
  | refused => exact all
  | failed accepted first =>
      refine counted _ .out ⟨all.rate, all.alert⟩ rfl rfl ⟨fun _ outside below => ?_, fresh⟩
      rw [Bool.or_false]
      exact keeps accepted first (BoostedInfo.belowMax_of_some rfl below) outside
  | installed => exact counted _ .started ⟨all.rate, all.alert⟩ rfl rfl armed
  | joined => exact counted _ .started ⟨all.rate, all.alert⟩ rfl rfl armed

/-- A CPU is disabled when `GOV_STOP` deletes its timer. -/
def ClearedFirst (g : Governor n) : Prop :=
  ∀ c, (g.cpu c).phase = .cleared → (g.cpu c).info.enable = false

/-- After every event `GOV_STOP` has disabled the CPU whose timer it deletes. -/
theorem ClearedFirst.event {event : Event n} (cleared : g.ClearedFirst)
    (taken : EventTaken g env event after) : after.ClearedFirst := by
  intro c
  by_cases own : subject event = some c
  · cases taken with
    | handled plain => exact absurd (plain.symm.trans own) nofun
    | start result taken =>
        obtain rfl := Option.some.inj own
        cases taken with
        | refused => exact cleared _
        | failed => simp only [setPhase, onCpu_self, reduceCtorEq, false_implies]
        | installed => simp only [setPhase, onCpu_self, reduceCtorEq, false_implies]
        | joined => simp only [setPhase, onCpu_self, reduceCtorEq, false_implies]
    | limits =>
        obtain rfl := Option.some.inj own
        rw [governorLimits, setInfo, onCpu_self]
        exact fun here => (BoostedInfo.limits_enable ..).trans (cleared _ here)
    | stopClear =>
        obtain rfl := Option.some.inj own
        simp only [setPhase, onCpu_self, implies_true]
    | stopDelTimer =>
        obtain rfl := Option.some.inj own
        simp only [setPhase, onCpu_self, reduceCtorEq, false_implies]
    | stopFlush =>
        obtain rfl := Option.some.inj own
        simp only [setPhase, onCpu_self, reduceCtorEq, false_implies]
    | stopFinish =>
        obtain rfl := Option.some.inj own
        simp only [stopFinish_cpu, setPhase, onCpu_self, reduceCtorEq, false_implies]
  · have spares := taken.spares own
    rw [spares.phase, spares.enable]
    exact cleared c

/-- A step of `GOV_STOP`: only the timer of a disabled CPU may go. -/
theorem AllAlert.setPhase {info : BoostedInfo} {phase : GovPhase} (all : g.AlertIn env false)
    (alert : Alert env.jiffies (env.reading c).reset.wall (g.workQueued || false)
      { g.cpu c with info := info, phase := phase }) :
    (g.setPhase c info phase).AlertIn env false :=
  all.onCpu_quiet alert

end Handlers

/-! ## Steps and runs -/

/-- The invariant: all CPUs are alert. -/
structure Attentive (g : Governor n) : Prop where
  all : g.AllAlert g.jiffies g.wall false
  cleared : g.ClearedFirst

/-- Every event leaves the CPUs alert at its times. -/
theorem Attentive.handle {kernel : TableTarget} {g after : Governor n} {event : Event n}
    {env : Env n} (attentive : g.Attentive) (timely : g.Timely ⟨event, env⟩)
    (driven : env.drive = Request.target) (keeps : g.KeepsSampling ⟨event, env⟩)
    (ran : g.handle kernel env event = some after) : after.AlertIn env false := by
  have all : g.AlertIn env false := attentive.all.later timely
  cases happens_of_handle ran with
  | @timer c expiry after pending due ran =>
      exact all.cpufreqBoostedTimer ((attentive.all.alert c).fresh.expired (timely c) pending due)
        keeps ran
  | idleEnter ran => exact all.cpufreqIdleEnter ran
  | idleExit inside => exact all.cpufreqIdleExit inside
  | work _ ran => exact all.freqChangeTimeWork driven ran
  | earlySuspend ran => exact all.boostedEarlySuspend ran
  | lateResume ran => exact all.boostedLateResume ran
  | store ran => exact all.store ran
  | start c policy freqTable rc =>
      exact all.start keeps (governorStart_taken g env c policy freqTable rc)
  | @limits c =>
      exact all.onCpu_quiet (BoostedInfo.alert_limits all.rate (all.alert c).fresh rfl)
  | stopClear c => exact all.setPhase (.of_disabled rfl (all.alert c).fresh)
  | @stopDelTimer c cleared =>
      refine all.setPhase (.of_idle rfl fun enabled => ?_)
      exact Bool.noConfusion (enabled.symm.trans (attentive.cleared c cleared))
  | @stopFlush c flushed _ waited =>
      have waitedAll := all.flushWork driven waited
      exact waitedAll.setPhase ((waitedAll.alert c).congr rfl rfl rfl rfl rfl id)
  | @stopFinish c =>
      have alert := all.alert c
      have zero : (g.setPhase c { (g.cpu c).info with idleExitTime := 0 } .stopped).AlertIn
          env false :=
        all.setPhase ⟨alert.sampled, fun _ _ => .inl rfl⟩
      simp only [Governor.stopFinish]
      split <;> exact ⟨zero.rate, zero.alert⟩

/-- A CPU that is enabled, below the maximum and not inside the idle hook is
going to be sampled. -/
def Wakeful (g : Governor n) (c : Fin n) : Prop :=
  (g.cpu c).info.enable = true → (g.cpu c).info.BelowMax → (g.cpu c).hook = none →
    (g.cpu c).info.timer ≠ none ∨ ((g.cpu c).inMask = true ∧ g.workQueued = true)

instance (g : Governor n) (c : Fin n) : Decidable (g.Wakeful c) :=
  inferInstanceAs (Decidable (_ → _ → _ → _ ∨ _))

theorem Attentive.wakeful {g : Governor n} (attentive : g.Attentive) (c : Fin n) :
    g.Wakeful c := by
  intro enabled below outside
  have sampled := (attentive.all.alert c).sampled enabled (by rw [outside]; exact nofun) below
  rwa [Bool.or_false] at sampled

theorem attentive_init : (init n).Attentive where
  all := ⟨(by decide : Tunables.default.sampleRateJiffies ≠ 0), fun _ => .of_idle rfl nofun⟩
  cleared _ := nofun

/-- **The governor keeps sampling** in every run with a forward clock and a driver
that sets what is requested, in which no timer expires in vain and no start of a
CPU that nothing samples fails in `sysfs_create_group`. -/
theorem governor_wakeful {kernel : TableTarget} {actions : List (Action n)} {g : Governor n}
    (timely : Guarded (step kernel) Timely (init n) actions)
    (driven : ∀ action ∈ actions, action.env.drive = Request.target)
    (keeps : Guarded (step kernel) KeepsSampling (init n) actions)
    (reached : exec (step kernel) (init n) actions = some g) (c : Fin n) : g.Wakeful c := by
  have guarded := (timely.and (guarded_of_mem driven (init n))).and keeps
  refine (invariant Attentive ?_ attentive_init guarded reached).wakeful c
  intro now action next attentive ⟨⟨timely, driven⟩, keeps⟩ taken
  obtain ⟨handled, ran, rfl⟩ := Option.map_eq_some_iff.mp taken
  obtain ⟨rate, alert⟩ := attentive.handle timely driven keeps ran
  have cleared := attentive.cleared.event (handle_taken ran)
  exact ⟨⟨rate, alert⟩, cleared⟩

/-! ## A quick restart -/

instance (jiffies : Nat) (wall : U64) (env : KernelEnv) (reading : CpuReading) :
    Decidable (Later jiffies wall env reading) :=
  decidable_of_iff (jiffies ≤ env.jiffies ∧ wall ≤ reading.sample.wall ∧
      (jiffies < env.jiffies → wall < reading.sample.wall) ∧
      reading.sample.wall ≤ reading.reset.wall)
    ⟨fun ⟨forward, sample, strict, reset⟩ => ⟨forward, sample, strict, reset⟩,
      fun later => ⟨later.forward, later.sample, later.strict, later.reset⟩⟩

instance (g : Governor n) : DecidablePred g.Timely := fun _ =>
  inferInstanceAs (Decidable (∀ _, _))

instance (g : Governor n) (c : Fin n) : Decidable (g.OnlyTimer c) :=
  decidable_of_iff ((g.cpu c).info.enable = true ∧ (g.cpu c).hook ≠ some true ∧
      (g.cpu c).info.BelowMax ∧ ¬ ((g.cpu c).inMask = true ∧ g.workQueued = true))
    ⟨fun ⟨enabled, outside, below, unqueued⟩ => ⟨enabled, outside, below, unqueued⟩,
      fun only => ⟨only.enabled, only.outside, only.below, only.unqueued⟩⟩

instance (g : Governor n) : DecidablePred g.KeepsSampling := fun ⟨event, env⟩ =>
  match event with
  | .timer c => inferInstanceAs (Decidable ((g.cpu c).info.idleExitTime = 0 → ¬ g.OnlyTimer c))
  | .start c policy _ (some _) =>
      inferInstanceAs (Decidable (¬ (env.online c = false ∨ policy.cur = 0) →
        g.activeCount + 1 ≤ 1 → policy.cur < policy.max → (g.cpu c).hook ≠ some true →
          (g.cpu c).info.timer ≠ none ∨ ((g.cpu c).inMask = true ∧ g.workQueued = true)))
  | .start _ _ _ none | .idleEnter _ | .idleExit _ | .work | .limits _ _ _ | .stopClear _
  | .stopDelTimer _ | .stopFlush _ | .stopFinish _ | .earlySuspend _ | .lateResume _
  | .store _ _ => .isTrue trivial

theorem atJiffy_driven {jiffies : Nat} {events : List (Event n)} :
    ∀ action ∈ atJiffy jiffies events, action.env.drive = Request.target := by
  intro action member
  obtain ⟨event, _, rfl⟩ := List.mem_map.mp member
  rfl

/-- A CPU is sampled and its frequency raised; it goes idle and is sampled again. -/
def sampledTwice : List (Action 1) :=
  atJiffy 0 [startAt onlyCpu 300000] ++ atJiffy 2 [.timer onlyCpu, .work] ++
    atJiffy 3 [.idleEnter onlyCpu] ++ atJiffy 4 [.idleExit onlyCpu, .timer onlyCpu]

theorem sampledTwice_wakeful :
    ∃ g : Governor 1, exec (step cpufreqFrequencyTableTarget) (init 1) sampledTwice = some g ∧
      (g.cpu onlyCpu).inMask = true ∧ g.Wakeful onlyCpu := by
  have driven : ∀ action ∈ sampledTwice, action.env.drive = Request.target := by
    simp only [sampledTwice, List.forall_mem_append]
    exact ⟨⟨⟨atJiffy_driven, atJiffy_driven⟩, atJiffy_driven⟩, atJiffy_driven⟩
  exact ⟨_, (Option.some_get (by decide +kernel)).symm, by decide +kernel,
    governor_wakeful (by decide +kernel) driven (by decide +kernel) (Option.some_get _).symm
      onlyCpu⟩

/-- A CPU is stopped while the work of its sample is queued, and started again
before the timer that `flush_work` armed has expired. -/
def quickRestart : List (Action 1) :=
  atJiffy 0 [startAt onlyCpu 300000] ++
    atJiffy 2 ([.timer onlyCpu] ++ stop onlyCpu ++ [startAt onlyCpu 500000]) ++
    atJiffy 4 [.timer onlyCpu]

/-- The timer expires in vain, and nothing samples the CPU any more. -/
theorem quickRestart_deaf :
    ∃ g : Governor 1, exec (step cpufreqFrequencyTableTarget) (init 1) quickRestart = some g ∧
      Guarded (step cpufreqFrequencyTableTarget) Timely (init 1) quickRestart ∧
      (∀ action ∈ quickRestart, action.env.drive = Request.target) ∧ ¬ g.Wakeful onlyCpu := by
  refine ⟨_, (Option.some_get (by decide +kernel)).symm, by decide +kernel, ?_, by decide +kernel⟩
  simp only [quickRestart, List.forall_mem_append]
  exact ⟨⟨atJiffy_driven, atJiffy_driven⟩, atJiffy_driven⟩

end Governor

end Jordan.Cpufreq
