import Jordan.Cpufreq.ConservativeTracking

/-! # What the load of the conservative governor measures

A sample subtracts previous times that different handlers have written: the work item,
the start of the governor, and the store that changes `ignore_nice`, which reads the
online CPUs only. All three read the idle time, the wall time and, while it is ignored,
the nice time of a CPU at once. So every sample is the load of one interval between two
readings of that CPU, unless nice time is ignored from a moment on at which a CPU of
a policy in use is offline (`Jordan.Cpufreq.Dbs.load_of_interval`).
-/

namespace Jordan.Cpufreq

open Execution

/-! ## Intervals -/

/-- The load between two readings of a CPU, unless the sample is skipped. -/
def JiffyClock.intervalLoad (clock : JiffyClock) (ignoreNice : U32) (since now : CpuTimes) :
    Option U32 :=
  let wallTime := ((clock.getCpuIdleTime now).wall - (clock.getCpuIdleTime since).wall).setWidth 32
  let niceTime := if ignoreNice ≠ 0 then
    clock.jiffiesToUsecs ((now.stat.nice - since.stat.nice).setWidth 32) else 0
  let idleTime := ((clock.getCpuIdleTime now).idle -
    (clock.getCpuIdleTime since).idle).setWidth 32 + niceTime
  if wallTime = 0 ∨ wallTime < idleTime then none
  else some (100 * (wallTime - idleTime) / wallTime)

namespace CpuDbsInfo

variable {n : Nat} {info other : CpuDbsInfo n} {clock : JiffyClock} {ignoreNice : U32}

/-- The previous times of a CPU. -/
def base (info : CpuDbsInfo n) : U64 × U64 × U64 :=
  (info.prevCpuIdle, info.prevCpuWall, info.prevCpuNice)

/-- The previous times were read at once. -/
structure TakenAt (info : CpuDbsInfo n) (clock : JiffyClock) (ignoreNice : U32)
    (times : CpuTimes) : Prop where
  idle : info.prevCpuIdle = (clock.getCpuIdleTime times).idle
  wall : info.prevCpuWall = (clock.getCpuIdleTime times).wall
  nice : ignoreNice ≠ 0 → info.prevCpuNice = times.stat.nice

/-- The load is that of the interval since the base was taken. -/
theorem sampleLoad_of_takenAt {since : CpuTimes} (taken : info.TakenAt clock ignoreNice since)
    (now : CpuTimes) :
    info.sampleLoad clock ignoreNice now = clock.intervalLoad ignoreNice since now := by
  have nice : info.niceTime clock ignoreNice now = if ignoreNice ≠ 0 then
      clock.jiffiesToUsecs ((now.stat.nice - since.stat.nice).setWidth 32) else 0 := by
    unfold niceTime
    by_cases ignored : ignoreNice ≠ 0
    · rw [if_pos ignored, if_pos ignored, taken.nice ignored]
    · rw [if_neg ignored, if_neg ignored]
  simp only [sampleLoad, JiffyClock.intervalLoad]
  rw [nice, taken.idle, taken.wall]

theorem takenAt_of_base {times : CpuTimes} (same : other.base = info.base)
    (taken : info.TakenAt clock ignoreNice times) : other.TakenAt clock ignoreNice times := by
  simp only [base, Prod.mk.injEq] at same
  obtain ⟨idle, wall, nice⟩ := same
  exact ⟨idle.trans taken.idle, wall.trans taken.wall, fun ignored =>
    nice.trans (taken.nice ignored)⟩

theorem rebase_takenAt (info : CpuDbsInfo n) (clock : JiffyClock) (ignoreNice : U32)
    (times : CpuTimes) : (info.rebase clock ignoreNice times).TakenAt clock ignoreNice times where
  idle := rfl
  wall := rfl
  nice := fun ignored => if_pos ignored

@[simp] theorem scale_base (info : CpuDbsInfo n) (tuners : DbsTuners) (policy : CpufreqPolicy)
    (load : U32) : (info.scale tuners policy load).1.base = info.base := by
  simp only [scale]
  split_ifs <;> rfl

@[simp] theorem follow_base (info : CpuDbsInfo n) (policy : Fin n → DbsPolicy n) (new : U32) :
    (info.follow policy new).base = info.base := by
  rw [follow_eq]
  rfl

end CpuDbsInfo

namespace Dbs

variable {n : Nat} {clock : JiffyClock} {g after : Dbs n} {env : DbsEnv n} {c : Fin n}

theorem setInfo_base {info : CpuDbsInfo n} (same : info.base = (g.info c).base) (j : Fin n) :
    ((g.setInfo c info).info j).base = (g.info j).base := by
  by_cases here : j = c
  · subst here
    simp only [setInfo, Function.update_self, same]
  · simp only [setInfo, Function.update_of_ne here]

theorem transitioned_base (p : Fin n) (transition : Transition n) (j : Fin n) :
    ((g.transitioned p transition).info j).base = (g.info j).base :=
  Pointwise.changeAll_forall (fun j info => CpuDbsInfo.base info = (g.info j).base)
    (fun _ => rfl) (fun _ info same => (info.follow_base _ _).trans same) j

theorem driven_base (p : Fin n) (target : U32) (relation : Relation) (j : Fin n) :
    ((g.driven env p target relation).info j).base = (g.info j).base := by
  simp only [driven]
  split
  · rfl
  · exact transitioned_base ..

/-- Scaling leaves the bases. -/
theorem scaled_base (c p : Fin n) (load : U32) (j : Fin n) :
    ((g.scaled env c p load).info j).base = (g.info j).base := by
  have changed := setInfo_base (g := g) (c := c)
    ((g.info c).scale_base g.tuners (g.policy p).toCpufreqPolicy load) j
  simp only [scaled]
  split
  · exact changed
  · exact (driven_base ..).trans changed

/-- A limit change leaves the bases. -/
theorem limitsDriven_base (c p j : Fin n) :
    ((g.limitsDriven env c p).info j).base = (g.info j).base := by
  simp only [limitsDriven]
  split_ifs
  · exact driven_base ..
  · exact driven_base ..
  · rfl

/-- The expiry of a CPU reads the CPUs of its policy. -/
theorem timerRan_takenAt {p j : Fin n} (member : j ∈ (g.policy p).cpus) :
    ((g.timerRan clock env c p).info j).TakenAt clock g.tuners.ignoreNice (env.times j) := by
  have read := rebased_info_of_mem clock env
    (g := g.setInfo c { g.info c with work := none }) member
  simp only [timerRan]
  refine CpuDbsInfo.takenAt_of_base ((setInfo_base ?_ j).trans ((scaled_base ..).trans
    (congrArg CpuDbsInfo.base read))) (CpuDbsInfo.rebase_takenAt ..)
  rfl

/-- An expiry leaves the bases of the CPUs outside its policy. -/
theorem timerRan_base {p j : Fin n} (outside : j ∉ (g.policy p).cpus) :
    ((g.timerRan clock env c p).info j).base = (g.info j).base := by
  have kept := rebased_info_of_notMem clock env
    (g := g.setInfo c { g.info c with work := none }) outside
  have idle : { g.info c with work := none }.base = (g.info c).base := rfl
  simp only [timerRan]
  refine (setInfo_base ?_ j).trans ((scaled_base ..).trans
    ((congrArg CpuDbsInfo.base kept).trans (setInfo_base idle j)))
  rfl

/-- A start reads the CPUs of the policy. -/
theorem startCpu_takenAt {j : Fin n} (member : j ∈ (g.policy c).cpus) :
    ((g.startCpu clock env c).info j).TakenAt clock g.tuners.ignoreNice (env.times j) := by
  simp only [startCpu]
  refine CpuDbsInfo.takenAt_of_base (setInfo_base ?_ j) ?_
  · rfl
  · rw [startCpus_eq]
    simp only [Pointwise.changeAll_of_mem member]
    exact CpuDbsInfo.rebase_takenAt ..

theorem startCpu_base {j : Fin n} (outside : j ∉ (g.policy c).cpus) :
    ((g.startCpu clock env c).info j).base = (g.info j).base := by
  simp only [startCpu]
  refine (setInfo_base ?_ j).trans ?_
  · rfl
  · rw [startCpus_eq]
    simp only [Pointwise.changeAll_of_notMem outside]

/-! ## Runs -/

/-- When nice time is ignored from now on, every CPU of a policy in use is online. -/
def ReadsNice (g : Dbs n) (action : DbsAction n) : Prop :=
  match action.event with
  | .store .ignoreNiceLoad (some input) =>
      g.tuners.ignoreNice = 0 → input ≠ 0 →
        ∀ c, g.Live c → ∀ j ∈ (g.policy c).cpus, action.env.online j = true
  | _ => True

instance (g : Dbs n) : DecidablePred g.ReadsNice := fun ⟨event, env⟩ =>
  match event with
  | .store .ignoreNiceLoad (some input) =>
      inferInstanceAs (Decidable (g.tuners.ignoreNice = 0 → input ≠ 0 →
        ∀ c, g.Live c → ∀ j ∈ (g.policy c).cpus, env.online j = true))
  | .store .ignoreNiceLoad none | .store .samplingRate _ | .store .samplingDownFactor _
  | .store .upThreshold _ | .store .downThreshold _ | .store .freqStep _ | .start _ _ _
  | .startTimer _ | .work _ | .limits _ _ _ | .transition _ _ | .stopDisable _ | .stopCancel _
  | .stopFinish _ => .isTrue trivial

/-- The previous times of every CPU of a policy in use were read at once, by a step of
the past. -/
def Measured (clock : JiffyClock) (past : List (DbsAction n)) (g : Dbs n) : Prop :=
  ∀ c, g.Live c → ∀ j ∈ (g.policy c).cpus, ∃ action ∈ past,
    (g.info j).TakenAt clock g.tuners.ignoreNice (action.env.times j)

/-- A step reads a CPU, or leaves its previous times and does not begin to ignore nice time. -/
def Remeasures (clock : JiffyClock) (g : Dbs n) (env : DbsEnv n) (after : Dbs n) (j : Fin n) :
    Prop :=
  (after.info j).TakenAt clock after.tuners.ignoreNice (env.times j) ∨
    (after.info j).base = (g.info j).base ∧
      (after.tuners.ignoreNice ≠ 0 → g.tuners.ignoreNice ≠ 0)

/-- What is measured stays so. -/
theorem Measured.step {past : List (DbsAction n)} (measured : g.Measured clock past)
    {action : DbsAction n}
    (each : ∀ c, after.Live c → ∀ j ∈ (after.policy c).cpus,
      (after.info j).TakenAt clock after.tuners.ignoreNice (action.env.times j) ∨
        (g.Live c ∧ j ∈ (g.policy c).cpus) ∧ g.Remeasures clock action.env after j) :
    after.Measured clock (past ++ [action]) := by
  intro c live j member
  have now : action ∈ past ++ [action] := List.mem_append_right _ List.mem_cons_self
  rcases each c live j member with taken | ⟨⟨living, inside⟩, taken | ⟨same, ignores⟩⟩
  · exact ⟨action, now, taken⟩
  · exact ⟨action, now, taken⟩
  · obtain ⟨earlier, before, taken⟩ := measured c living j inside
    refine ⟨earlier, List.mem_append_left _ before, ?_⟩
    exact CpuDbsInfo.takenAt_of_base same
      ⟨taken.idle, taken.wall, fun ignored => taken.nice (ignores ignored)⟩

/-- A step that leaves the lifecycle and the previous times alone. -/
theorem Measured.sameLife {past : List (DbsAction n)} (measured : g.Measured clock past)
    {action : DbsAction n} (same : SameLife g after)
    (base : ∀ j, (after.info j).base = (g.info j).base) :
    after.Measured clock (past ++ [action]) := by
  refine measured.step fun c live j member => .inr ⟨⟨(same.live_iff c).mp live, ?_⟩, .inr
    ⟨base j, fun ignores => same.tuners ▸ ignores⟩⟩
  rwa [same.cpus c] at member

/-- A step of a start or a stop after which only CPUs are live that were so before. -/
theorem Measured.onCpu {past : List (DbsAction n)} (measured : g.Measured clock past)
    {action : DbsAction n} (live : ∀ d, after.Live d → g.Live d)
    (policy : after.policy = g.policy) (tuners : after.tuners = g.tuners)
    (base : ∀ j, (after.info j).base = (g.info j).base) :
    after.Measured clock (past ++ [action]) := by
  refine measured.step fun c living j member => .inr ⟨⟨live c living, ?_⟩, .inr
    ⟨base j, fun ignores => tuners ▸ ignores⟩⟩
  rwa [policy] at member

/-- Only the store of `ignore_nice` changes it. -/
theorem eq_of_ignoreNice_ne {tuners stored : DbsTuners} {minimum : U32} {tunable : DbsTunable}
    {input : Option U32} (accepted : tuners.store minimum tunable input = .ok stored)
    (changed : stored.ignoreNice ≠ tuners.ignoreNice) :
    ∃ value, tunable = .ignoreNiceLoad ∧ input = some value ∧
      (stored.ignoreNice ≠ 0 → value ≠ 0) := by
  cases input with
  | none => cases accepted
  | some value =>
      cases tunable with
      | ignoreNiceLoad =>
          obtain rfl := Except.ok.inj accepted
          refine ⟨value, rfl, rfl, fun ignores zero => ignores ?_⟩
          subst zero
          rfl
      | samplingRate =>
          obtain rfl := Except.ok.inj accepted
          exact absurd rfl changed
      | freqStep =>
          obtain rfl := Except.ok.inj accepted
          exact absurd rfl changed
      | samplingDownFactor =>
          obtain ⟨_, rfl⟩ := DbsTuners.accepted_of_ite accepted
          exact absurd rfl changed
      | upThreshold =>
          obtain ⟨_, rfl⟩ := DbsTuners.accepted_of_ite accepted
          exact absurd rfl changed
      | downThreshold =>
          obtain ⟨_, rfl⟩ := DbsTuners.accepted_of_ite accepted
          exact absurd rfl changed

/-- A store reads the online CPUs when it begins, or ends, to ignore nice time. -/
theorem Measured.store {past : List (DbsAction n)} (measured : g.Measured clock past)
    {action : DbsAction n} {tunable : DbsTunable} {input : Option U32}
    (event : action.event = .store tunable input) (reads : g.ReadsNice action) :
    (g.store clock action.env tunable input).1.Measured clock (past ++ [action]) := by
  simp only [Dbs.store]
  cases stored : g.tuners.store g.minSamplingRate tunable input with
  | error errno => exact measured.sameLife (SameLife.refl g) fun _ => rfl
  | ok tuners =>
      by_cases unchanged : tuners.ignoreNice = g.tuners.ignoreNice
      · simp only [if_pos unchanged]
        exact measured.step fun c live j member => .inr ⟨⟨live, member⟩, .inr
          ⟨rfl, fun ignores => unchanged ▸ ignores⟩⟩
      · simp only [if_neg unchanged]
        refine measured.step fun c live j member => ?_
        by_cases online : action.env.online j = true
        · refine .inl ?_
          simp only [rebaseOnline, online, ↓reduceIte]
          exact CpuDbsInfo.rebase_takenAt ..
        · refine .inr ⟨⟨live, member⟩, .inr ⟨?_, fun ignores none => ?_⟩⟩
          · simp only [rebaseOnline, online, Bool.false_eq_true, ↓reduceIte]
          · obtain ⟨value, rfl, rfl, positive⟩ := eq_of_ignoreNice_ne stored unchanged
            unfold ReadsNice at reads
            rw [event] at reads
            exact online (reads none (positive ignores) c live j member)

/-- A live CPU stays live when another one, or itself, changes its phase. -/
theorem live_of_setPhase {info : CpuDbsInfo n} {phase : DbsPhase} {d : Fin n} (live : g.Live c)
    (living : ((g.setInfo c info).setPhase c phase).Live d) : g.Live d := by
  by_cases here : d = c
  · exact here ▸ live
  · simp only [Live, setPhase, setInfo, Function.update_of_ne here] at living
    exact living

theorem countStart_ignoreNice (g : Dbs n) (policy : DbsPolicy n) :
    (g.countStart clock policy).tuners.ignoreNice = g.tuners.ignoreNice := by
  simp only [countStart]
  split <;> rfl

/-- One step. -/
theorem Measured.handle {past : List (DbsAction n)} (measured : g.Measured clock past)
    (sound : g.Sound) {action : DbsAction n} (reads : g.ReadsNice action)
    (taken : g.step clock action = some after) : after.Measured clock (past ++ [action]) := by
  obtain ⟨event, env⟩ := action
  obtain ⟨enabled, handled⟩ := step_eq_some.mp taken
  cases event with
  | start c policy rc =>
      obtain rfl := Option.some.inj handled
      obtain ⟨stopped, _, _, _, separate⟩ := enabled
      have self : (g.setPolicy c policy).policy c = policy := by
        simp only [setPolicy, Function.update_self]
      have others (d : Fin n) (different : d ≠ c) :
          (g.setPolicy c policy).policy d = g.policy d := by
        simp only [setPolicy, Function.update_of_ne different]
      have prepared : (g.setPolicy c policy).Measured clock past := by
        intro d live j member
        have different : d ≠ c := fun same => live (same ▸ stopped)
        rw [others d different] at member
        exact measured d live j member
      rcases governorStart_cases clock (g.setPolicy c policy) env c rc with ⟨_, same⟩ | ⟨_, same⟩
      · rw [same]
        exact prepared.sameLife (SameLife.refl _) fun _ => rfl
      · rw [same]
        refine prepared.step fun d live j member => ?_
        simp only [setPhase, countStart_policy, startCpu_policy, countStart_info] at member ⊢
        have ignoreNice : ((Dbs.startCpu clock (g.setPolicy c policy) env c).countStart clock
            ((g.setPolicy c policy).policy c)).tuners.ignoreNice = g.tuners.ignoreNice := by
          rw [countStart_ignoreNice, startCpu_tuners]
          rfl
        by_cases here : d = c
        · subst here
          refine .inl ?_
          rw [ignoreNice]
          exact startCpu_takenAt member
        · simp only [Live, setPhase, Function.update_of_ne here, countStart_phase,
            startCpu_phase] at live
          have outside : j ∉ ((g.setPolicy c policy).policy c).cpus := fun shared => by
            rw [others d here] at member
            rw [self] at shared
            exact separate d live j shared member
          refine .inr ⟨⟨live, member⟩, .inr ⟨?_, ?_⟩⟩
          · exact startCpu_base outside
          · intro ignores
            rwa [ignoreNice] at ignores
  | startTimer c =>
      obtain rfl := Option.some.inj handled
      have place : g.phase c = .created := enabled
      have living : g.Live c := by rw [Live, place]; decide
      have base : ({ g.info c with enable := true, work := none }.queueDelayedWorkOn
          (g.info c).cpu (g.expiry clock env)).base = (g.info c).base := rfl
      exact measured.onCpu (fun d => live_of_setPhase living) rfl rfl (setInfo_base base)
  | work c =>
      obtain ⟨work, member, _⟩ := enabled
      have pending : (g.info c).work.isSome = true := Option.isSome_of_mem member
      have live := sound.live_of_pending pending
      have ran := doDbsTimer_of_pointed clock env sound.pointed
        (sound.curPolicy_self live) ((sound.each c).nodup live)
      obtain rfl := Option.some.inj (handled.symm.trans ran)
      have same := sameLife_timerRan clock g env c c
      refine measured.step fun d living j inside => ?_
      rw [same.cpus d] at inside
      rw [same.tuners]
      by_cases member : j ∈ (g.policy c).cpus
      · exact .inl (timerRan_takenAt member)
      · exact .inr ⟨⟨(same.live_iff d).mp living, inside⟩, .inr
          ⟨timerRan_base member, fun ignores => same.tuners ▸ ignores⟩⟩
  | limits c min max =>
      obtain rfl := Option.some.inj (handled.symm.trans (sound.limits enabled.1))
      have limited : (g.limited c min max).Measured clock past := by
        intro d live j member
        by_cases here : d = c
        · subst here
          simp only [Dbs.limited, setPolicy, Function.update_self] at member
          exact measured d live j member
        · simp only [Dbs.limited, setPolicy, Function.update_of_ne here] at member
          exact measured d live j member
      exact limited.sameLife (sameLife_limitsDriven ..) (limitsDriven_base c c)
  | transition p transition =>
      obtain rfl := Option.some.inj
        (handled.symm.trans (notifyTransition_of_pointed sound.pointed p transition))
      exact measured.sameLife (sameLife_transitioned ..) fun j => transitioned_base p transition j
  | store tunable input =>
      obtain rfl := Option.some.inj handled
      exact measured.store rfl reads
  | stopDisable c =>
      obtain rfl := Option.some.inj handled
      have place : g.phase c = .running := enabled
      have living : g.Live c := by rw [Live, place]; decide
      have base : { g.info c with enable := false }.base = (g.info c).base := rfl
      exact measured.onCpu (fun d => live_of_setPhase living) rfl rfl (setInfo_base base)
  | stopCancel c =>
      obtain rfl := Option.some.inj handled
      have place : g.phase c = .disabled := enabled
      have living : g.Live c := by rw [Live, place]; decide
      have base : { g.info c with work := none }.base = (g.info c).base := rfl
      exact measured.onCpu (fun d => live_of_setPhase living) rfl rfl (setInfo_base base)
  | stopFinish c =>
      obtain rfl := Option.some.inj handled
      refine measured.onCpu (fun d living => ?_) rfl rfl fun _ => rfl
      by_cases here : d = c
      · subst here
        exact absurd (Function.update_self ..) living
      · simp only [Live, stopFinish, Function.update_of_ne here] at living
        exact living

/-- **Every load is that of one interval.** In every run in which all CPUs in use are
online when nice time begins to be ignored, the load that a work item uses is that of
the last of its CPUs whose sample counts, between a reading of the past and the one of
the work item, with the idle, the wall and the nice time of the same two readings. -/
theorem load_of_interval {policy : Fin n → DbsPolicy n} {actions : List (DbsAction n)}
    (reads : Guarded (step clock) ReadsNice (init policy) actions)
    (reached : exec (step clock) (init policy) actions = some g) {c : Fin n} (live : g.Live c) :
    ∃ since : Fin n → CpuTimes,
      (∀ j ∈ (g.policy c).cpus, ∃ action ∈ actions, since j = action.env.times j) ∧
      ∀ env, g.checkedLoad clock env c =
        (((g.policy c).cpus.filterMap fun j =>
          clock.intervalLoad g.tuners.ignoreNice (since j) (env.times j)).getLast?).getD 0 := by
  have measured : g.Sound ∧ g.Measured clock actions := by
    have initially : (init policy).Sound ∧ (init policy).Measured clock [] :=
      ⟨sound_init policy, fun _ live => absurd rfl live⟩
    refine invariant_with_past (fun past g => g.Sound ∧ g.Measured clock past) ?_ initially reads
      reached
    rintro past before action after ⟨sound, measured⟩ allowed taken
    exact ⟨sound.step taken, measured.handle sound allowed taken⟩
  have nonempty : Nonempty CpuTimes := ⟨⟨0, 0, 0, ⟨0, 0, 0, 0, 0, 0⟩⟩⟩
  have each : ∀ j ∈ (g.policy c).cpus, ∃ since, (∃ action ∈ actions, since = action.env.times j) ∧
      (g.info j).TakenAt clock g.tuners.ignoreNice since := by
    intro j inside
    obtain ⟨action, member, taken⟩ := measured.2 c live j inside
    exact ⟨_, ⟨action, member, rfl⟩, taken⟩
  choose! since past taken using each
  refine ⟨since, past, fun env => ?_⟩
  have loads : g.sampleLoads clock env (g.policy c).cpus = (g.policy c).cpus.filterMap fun j =>
      clock.intervalLoad g.tuners.ignoreNice (since j) (env.times j) :=
    List.filterMap_congr fun j inside => CpuDbsInfo.sampleLoad_of_takenAt (taken j inside) _
  rw [checkedLoad, loads]

/-- Nice time is ignored while the governor is started, and the work expires. -/
def niceIgnored : List (DbsAction 1) :=
  [⟨.start soleCpu halfSpeed none, idleFor 1000000⟩, ⟨.startTimer soleCpu, idleFor 1000000⟩,
    ⟨.store .ignoreNiceLoad (some 1), idleFor 1100000⟩, ⟨.work soleCpu, idleFor 2000000⟩]

/-- The next load is that since one of these readings. -/
theorem niceIgnored_load :
    ∃ g : Dbs 1, exec (step .hz128) (init fun _ => halfSpeed) niceIgnored = some g ∧
      ∃ since : Fin 1 → CpuTimes,
        (∀ j ∈ (g.policy soleCpu).cpus, ∃ action ∈ niceIgnored, since j = action.env.times j) ∧
        ∀ env, g.checkedLoad .hz128 env soleCpu =
          (((g.policy soleCpu).cpus.filterMap fun j => JiffyClock.hz128.intervalLoad
            g.tuners.ignoreNice (since j) (env.times j)).getLast?).getD 0 := by
  have reached : exec (step .hz128) (init fun _ => halfSpeed) niceIgnored = some _ :=
    (Option.some_get (by decide +kernel)).symm
  exact ⟨_, reached, load_of_interval (by decide +kernel) reached (by decide +kernel)⟩

end Dbs

end Jordan.Cpufreq
