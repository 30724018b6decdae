import Jordan.Cpufreq.ConservativeEffects
import Jordan.Library.SharedHook

/-! # The lifecycle of the conservative governor

The transition notifier serves all CPUs, and `dbs_enable` counts the starts. It is
incremented after everything that can fail, and the last stop is the one that leaves 0:
the notifier is registered exactly while the governor is started for some CPU. A CPU has
a work item pending from the end of its start until its stop has cancelled it, so no
pending work is initialised again, and no handler follows a null pointer
(`Jordan.Cpufreq.Dbs.sound_of_exec`).
-/

namespace Jordan.Cpufreq

open Execution

/-- A stopped CPU has no work pending. -/
theorem DbsPhase.stopped_not_queues :
    ¬ (DbsPhase.stopped = .running ∨ DbsPhase.stopped = .disabled) := by
  decide

namespace Dbs

variable {n : Nat}

/-! ## Soundness -/

/-- The CPUs the governor is started for. -/
def live (g : Dbs n) : Finset (Fin n) := Finset.univ.filter fun c => g.Live c

theorem mem_live {g : Dbs n} {c : Fin n} : c ∈ g.live ↔ g.Live c := by
  simp only [live, Finset.mem_filter, Finset.mem_univ, true_and]

/-- The notifier, as a hook shared by the CPUs. -/
def hook (g : Dbs n) : SharedHook.Hook (Fin n) := ⟨g.live, g.dbsEnable, g.registered⟩

/-- What a CPU has is what its place in the lifecycle says; the `cpu` of its work, which
nothing sets, is 0. -/
structure SoundAt (g : Dbs n) (c : Fin n) : Prop where
  group : g.group c = true ↔ g.Live c
  enable : (g.info c).enable = true ↔ g.phase c = .running
  pending : (g.info c).work.isSome = true ↔ g.phase c = .running ∨ g.phase c = .disabled
  queue : ∀ work ∈ (g.info c).work, work.cpu = 0
  cpu : (g.info c).cpu = 0
  member : g.Live c → c ∈ (g.policy c).cpus
  nodup : g.Live c → (g.policy c).cpus.Nodup
  curPolicy : g.Live c → ∀ j ∈ (g.policy c).cpus, (g.info j).curPolicy = some c

/-- The notifier is registered while a CPU is live, and every CPU is sound. -/
structure Sound (g : Dbs n) : Prop where
  shared : g.hook.Balanced
  each (c : Fin n) : g.SoundAt c

variable {clock : JiffyClock} {g after : Dbs n} {env : DbsEnv n} {c : Fin n}

theorem Sound.curPolicy_self (sound : g.Sound) (live : g.Live c) :
    (g.info c).curPolicy = some c :=
  (sound.each c).curPolicy live c ((sound.each c).member live)

/-- In a sound state the policies of all enabled CPUs are in place. -/
theorem Sound.pointed (sound : g.Sound) : g.Pointed := by
  intro c enabled
  have running := (sound.each c).enable.mp enabled
  have live : g.Live c := by rw [Live, running]; decide
  rw [sound.curPolicy_self live]
  rfl

/-- A CPU with a pending work is live. -/
theorem Sound.live_of_pending (sound : g.Sound) (pending : (g.info c).work.isSome = true) :
    g.Live c := by
  rcases (sound.each c).pending.mp pending with running | disabled
  · rw [Live, running]
    decide
  · rw [Live, disabled]
    decide

theorem live_init (policy : Fin n → DbsPolicy n) : (init policy).live = ∅ := by
  ext c
  rw [mem_live]
  exact iff_of_false (fun live => live rfl) (Finset.notMem_empty c)

/-- The governor is sound before the first start. -/
theorem sound_init (policy : Fin n → DbsPolicy n) : (init policy).Sound where
  shared := by
    rw [hook, live_init]
    exact SharedHook.Hook.balanced_empty
  each c := by
    have stopped : ¬ (init policy).Live c := fun live => live rfl
    exact {
      group := iff_of_false Bool.false_ne_true stopped
      enable := iff_of_false Bool.false_ne_true DbsPhase.noConfusion
      pending := iff_of_false Bool.false_ne_true DbsPhase.stopped_not_queues
      queue := fun _ member => absurd member (Option.not_mem_none _)
      cpu := rfl
      member := fun live => absurd live stopped
      nodup := fun live => absurd live stopped
      curPolicy := fun live => absurd live stopped }

/-! ## Steps that leave the lifecycle alone -/

theorem live_of_phase (same : after.phase = g.phase) : after.live = g.live := by
  ext c
  rw [mem_live, mem_live, Live, Live, same]

/-- The lifecycle of a CPU depends on its phase, its group, its policy's CPUs, its work
and its flag, and on what its policy's CPUs point to. -/
theorem SoundAt.of_same (sound : g.SoundAt c) (phase : after.phase c = g.phase c)
    (group : after.group c = g.group c) (life : (after.info c).life.2 = (g.info c).life.2)
    (cpus : g.Live c → (after.policy c).cpus = (g.policy c).cpus)
    (curPolicy : g.Live c → ∀ j ∈ (g.policy c).cpus,
      (after.info j).curPolicy = (g.info j).curPolicy) : after.SoundAt c := by
  simp only [CpuDbsInfo.life, Prod.mk.injEq] at life
  obtain ⟨work, cpu, enable⟩ := life
  have live_iff : after.Live c ↔ g.Live c := by rw [Live, Live, phase]
  exact {
    group := by rw [group, live_iff, sound.group]
    enable := by rw [enable, phase, sound.enable]
    pending := by rw [work, phase, sound.pending]
    queue := by
      rw [work]
      exact sound.queue
    cpu := cpu.trans sound.cpu
    member := fun live => by
      rw [cpus (live_iff.mp live)]
      exact sound.member (live_iff.mp live)
    nodup := fun live => by
      rw [cpus (live_iff.mp live)]
      exact sound.nodup (live_iff.mp live)
    curPolicy := fun live j member => by
      rw [cpus (live_iff.mp live)] at member
      exact (curPolicy (live_iff.mp live) j member).trans
        (sound.curPolicy (live_iff.mp live) j member) }

/-- What changes no CPU's life keeps the governor sound. -/
theorem Sound.sameLife (sound : g.Sound) (same : SameLife g after) : after.Sound where
  shared := by
    rw [hook, live_of_phase same.phase, same.dbsEnable, same.registered]
    exact sound.shared
  each c := (sound.each c).of_same (congrFun same.phase c) (congrFun same.group c)
    (congrArg Prod.snd (same.life c))
    (fun _ => same.cpus c) fun _ j _ => same.curPolicy j

/-- The core changes a policy object, but not its CPUs while it is in use. -/
theorem Sound.setPolicy (sound : g.Sound) {policy : DbsPolicy n}
    (cpus : g.Live c → policy.cpus = (g.policy c).cpus) : (g.setPolicy c policy).Sound where
  shared := sound.shared
  each d := by
    refine (sound.each d).of_same rfl rfl rfl (fun live => ?_) fun _ _ _ => rfl
    by_cases same : d = c
    · subst same
      simp only [Dbs.setPolicy, Function.update_self, cpus live]
    · simp only [Dbs.setPolicy, Function.update_of_ne same]

/-- A store keeps the governor sound. -/
theorem Sound.store (sound : g.Sound) (tunable : DbsTunable) (input : Option U32) :
    (g.store clock env tunable input).1.Sound := by
  simp only [Dbs.store]
  cases g.tuners.store g.minSamplingRate tunable input with
  | error errno => exact sound
  | ok tuners =>
      have stored : Sound { g with tuners := tuners } := ⟨sound.shared, fun c =>
        (sound.each c).of_same rfl rfl rfl (fun _ => rfl) fun _ _ _ => rfl⟩
      by_cases unchanged : tuners.ignoreNice = g.tuners.ignoreNice
      · simp only [if_pos unchanged]
        exact stored
      · have life (j : Fin n) : ((rebaseOnline clock { g with tuners := tuners } env).info j).life =
            (g.info j).life := by
          simp only [rebaseOnline]
          split <;> rfl
        simp only [if_neg unchanged]
        exact ⟨sound.shared, fun c => (stored.each c).of_same rfl rfl
          (congrArg Prod.snd (life c)) (fun _ => rfl) fun _ j _ => congrArg Prod.fst (life j)⟩

/-! ## Steps of one CPU -/

/-- A step that concerns one CPU, which stays live. -/
theorem Sound.onCpu (sound : g.Sound) (live : g.Live c) (info : CpuDbsInfo n) (phase : DbsPhase)
    (curPolicy : info.curPolicy = (g.info c).curPolicy) (still : phase ≠ .stopped)
    (enable : info.enable = true ↔ phase = .running)
    (pending : info.work.isSome = true ↔ phase = .running ∨ phase = .disabled)
    (queue : ∀ work ∈ info.work, work.cpu = 0) (cpu : info.cpu = 0) :
    ((g.setInfo c info).setPhase c phase).Sound where
  shared := by
    have same : ((g.setInfo c info).setPhase c phase).live = g.live := by
      ext d
      rw [mem_live, mem_live]
      by_cases here : d = c
      · subst here
        simp only [Live, setPhase, Function.update_self]
        exact iff_of_true still live
      · simp only [Live, setPhase, setInfo, Function.update_of_ne here]
    rw [hook, same]
    exact sound.shared
  each d := by
    have points (j : Fin n) : (((g.setInfo c info).setPhase c phase).info j).curPolicy =
        (g.info j).curPolicy := by
      by_cases here : j = c
      · subst here
        simp only [setPhase, setInfo, Function.update_self, curPolicy]
      · simp only [setPhase, setInfo, Function.update_of_ne here]
    by_cases here : d = c
    · subst here
      have old := sound.each d
      have nowLive : ((g.setInfo d info).setPhase d phase).Live d := by
        simp only [Live, setPhase, Function.update_self]
        exact still
      exact {
        group := iff_of_true (old.group.mpr live) nowLive
        enable := by
          simp only [setPhase, setInfo, Function.update_self]
          exact enable
        pending := by
          simp only [setPhase, setInfo, Function.update_self]
          exact pending
        queue := by
          simp only [setPhase, setInfo, Function.update_self]
          exact queue
        cpu := by
          simp only [setPhase, setInfo, Function.update_self]
          exact cpu
        member := fun _ => old.member live
        nodup := fun _ => old.nodup live
        curPolicy := fun _ j member => (points j).trans (old.curPolicy live j member) }
    · refine (sound.each d).of_same ?_ rfl ?_ (fun _ => rfl) fun _ j _ => points j
      · simp only [setPhase, setInfo, Function.update_of_ne here]
      · simp only [setPhase, setInfo, Function.update_of_ne here]

/-- A CPU becomes live. -/
theorem live_setPhase {phase : DbsPhase} (living : phase ≠ .stopped) :
    (g.setPhase c phase).live = insert c g.live := by
  ext d
  rw [Finset.mem_insert, mem_live, mem_live]
  by_cases here : d = c
  · subst here
    simp only [Live, setPhase, Function.update_self, true_or]
    exact iff_of_true living trivial
  · simp only [Live, setPhase, Function.update_of_ne here, here, false_or]

/-- Setting the first timer keeps the governor sound. -/
theorem Sound.timerInit (sound : g.Sound) (created : g.phase c = .created) :
    (g.dbsTimerInit clock env c).Sound := by
  have live : g.Live c := by rw [Live, created]; decide
  apply sound.onCpu live _ .running
  · rfl
  · exact DbsPhase.noConfusion
  · exact iff_of_true rfl rfl
  · exact iff_of_true rfl (.inl rfl)
  · rintro work (_ | _)
    exact (sound.each c).cpu
  · exact (sound.each c).cpu

/-- The work of a CPU is queued again. -/
theorem Sound.timerRan (sound : g.Sound) (pending : (g.info c).work.isSome = true) (p : Fin n) :
    (g.timerRan clock env c p).Sound := by
  have place := (sound.each c).pending.mp pending
  have live := sound.live_of_pending pending
  have queued := sound.onCpu live
    { g.info c with work := some ⟨(g.info c).cpu, g.expiry clock env⟩ } (g.phase c) rfl live
    (sound.each c).enable (iff_of_true rfl place)
    (fun work member => Option.some.inj member ▸ (sound.each c).cpu) (sound.each c).cpu
  have same : (g.setInfo c { g.info c with
      work := some ⟨(g.info c).cpu, g.expiry clock env⟩ }).setPhase c (g.phase c) =
      g.setInfo c { g.info c with work := some ⟨(g.info c).cpu, g.expiry clock env⟩ } := by
    simp only [setPhase, setInfo, Function.update_eq_self]
  exact (same ▸ queued).sameLife (sameLife_timerRan clock g env c p)

/-! ## Start -/

theorem countStart_info (g : Dbs n) (policy : DbsPolicy n) :
    (g.countStart clock policy).info = g.info := by
  simp only [countStart]
  split <;> rfl

theorem countStart_phase (g : Dbs n) (policy : DbsPolicy n) :
    (g.countStart clock policy).phase = g.phase := by
  simp only [countStart]
  split <;> rfl

theorem countStart_policy (g : Dbs n) (policy : DbsPolicy n) :
    (g.countStart clock policy).policy = g.policy := by
  simp only [countStart]
  split <;> rfl

theorem countStart_group (g : Dbs n) (policy : DbsPolicy n) :
    (g.countStart clock policy).group = g.group := by
  simp only [countStart]
  split <;> rfl

/-- The start of a CPU acquires the notifier. -/
theorem hook_countStart (g : Dbs n) (policy : DbsPolicy n) {phase : DbsPhase}
    (living : phase ≠ .stopped) :
    ((g.countStart clock policy).setPhase c phase).hook = g.hook.acquire c := by
  have members : ((g.countStart clock policy).setPhase c phase).live = insert c g.live := by
    rw [live_setPhase living, live_of_phase (countStart_phase g policy)]
  rw [hook, members]
  simp only [hook, SharedHook.Hook.acquire, setPhase, countStart, Nat.le_iff_lt_or_eq,
    Nat.lt_one_iff, Nat.succ_ne_zero, false_or]
  by_cases first : g.dbsEnable + 1 = 1
  · simp only [if_pos first, startFirst]
  · simp only [if_neg first]

/-- The CPUs of the policy point to it, and nothing else of a life changes. -/
theorem startCpu_life (clock : JiffyClock) (g : Dbs n) (env : DbsEnv n) (c d : Fin n) :
    ((g.startCpu clock env c).info d).life =
      (if d ∈ (g.policy c).cpus then some c else (g.info d).curPolicy, (g.info d).life.2) := by
  have started : ((startCpus clock env { g with group := Function.update g.group c true } c
      (g.policy c).cpus).info d).life =
        (if d ∈ (g.policy c).cpus then some c else (g.info d).curPolicy, (g.info d).life.2) := by
    rw [startCpus_eq]
    by_cases member : d ∈ (g.policy c).cpus
    · simp only [Pointwise.changeAll_of_mem member, if_pos member]
      rfl
    · simp only [Pointwise.changeAll_of_notMem member, if_neg member]
      rfl
  rw [← started]
  simp only [startCpu]
  by_cases here : d = c
  · subst here
    simp only [setInfo, Function.update_self]
    rfl
  · simp only [setInfo, Function.update_of_ne here]

theorem startCpu_policy (clock : JiffyClock) (g : Dbs n) (env : DbsEnv n) (c : Fin n) :
    (g.startCpu clock env c).policy = g.policy := by
  simp only [startCpu, setInfo, startCpus_eq]

theorem startCpu_phase (clock : JiffyClock) (g : Dbs n) (env : DbsEnv n) (c : Fin n) :
    (g.startCpu clock env c).phase = g.phase := by
  simp only [startCpu, setInfo, startCpus_eq]

theorem startCpu_tuners (clock : JiffyClock) (g : Dbs n) (env : DbsEnv n) (c : Fin n) :
    (g.startCpu clock env c).tuners = g.tuners := by
  simp only [startCpu, setInfo, startCpus_eq]

theorem startCpu_hook (clock : JiffyClock) (g : Dbs n) (env : DbsEnv n) (c : Fin n) :
    (g.startCpu clock env c).hook = g.hook := by
  rw [hook, live_of_phase (startCpu_phase clock g env c)]
  simp only [startCpu, setInfo, startCpus_eq]
  rfl

/-- An accepted start of a CPU whose policy has no CPU in common with another one in use. -/
theorem Sound.started (sound : g.Sound) (stopped : g.phase c = .stopped)
    (member : c ∈ (g.policy c).cpus) (nodup : (g.policy c).cpus.Nodup)
    (separate : ∀ other, g.Live other → ∀ j ∈ (g.policy c).cpus, j ∉ (g.policy other).cpus) :
    (((g.startCpu clock env c).countStart clock (g.policy c)).setPhase c .created).Sound where
  shared := by
    rw [hook_countStart _ _ DbsPhase.noConfusion, startCpu_hook]
    refine SharedHook.Hook.Balanced.acquire sound.shared fun live => ?_
    exact mem_live.mp live stopped
  each d := by
    have life (j : Fin n) := startCpu_life clock g env c j
    by_cases here : d = c
    · subst here
      have old := sound.each d
      have rest := congrArg Prod.snd (life d)
      simp only [CpuDbsInfo.life, Prod.mk.injEq] at rest
      obtain ⟨work, cpu, enable⟩ := rest
      have disabled : (g.info d).enable ≠ true := fun enabled => by
        cases stopped.symm.trans (old.enable.mp enabled)
      have idle : ¬ (g.info d).work.isSome = true := fun pending => by
        rcases old.pending.mp pending with running | disabled
        · cases stopped.symm.trans running
        · cases stopped.symm.trans disabled
      have created : (((g.startCpu clock env d).countStart clock (g.policy d)).setPhase d
          .created).phase d = .created := by
        simp only [setPhase, Function.update_self]
      have nowLive : (((g.startCpu clock env d).countStart clock (g.policy d)).setPhase d
          .created).Live d := by
        rw [Live, created]
        decide
      exact {
        group := by
          refine iff_of_true ?_ nowLive
          simp only [setPhase, countStart_group, startCpu, setInfo, startCpus_eq,
            Function.update_self]
        enable := by
          rw [created]
          refine iff_of_false ?_ DbsPhase.noConfusion
          simp only [setPhase, countStart_info, enable]
          exact disabled
        pending := by
          rw [created]
          refine iff_of_false ?_ (by decide)
          simp only [setPhase, countStart_info, work]
          exact idle
        queue := by
          simp only [setPhase, countStart_info, work]
          exact old.queue
        cpu := by
          simp only [setPhase, countStart_info, cpu]
          exact old.cpu
        member := fun _ => by
          simp only [setPhase, countStart_policy, startCpu_policy]
          exact member
        nodup := fun _ => by
          simp only [setPhase, countStart_policy, startCpu_policy]
          exact nodup
        curPolicy := fun _ j inside => by
          simp only [setPhase, countStart_policy, countStart_info, startCpu_policy] at inside ⊢
          exact (congrArg Prod.fst (life j)).trans (if_pos inside) }
    · refine (sound.each d).of_same ?_ ?_ ?_ (fun _ => ?_) fun live j inside => ?_
      · simp only [setPhase, Function.update_of_ne here, countStart_phase, startCpu_phase]
      · simp only [setPhase, countStart_group, startCpu, setInfo, startCpus_eq,
          Function.update_of_ne here]
      · have rest := congrArg Prod.snd (life d)
        simp only [setPhase, countStart_info]
        exact rest
      · simp only [setPhase, countStart_policy, startCpu_policy]
      · simp only [setPhase, countStart_info]
        have outside : j ∉ (g.policy c).cpus := fun shared => separate d live j shared inside
        exact (congrArg Prod.fst (life j)).trans (if_neg outside)

/-- Nothing stands in the way of a start. -/
def Accepts (env : DbsEnv n) (c : Fin n) (policy : DbsPolicy n) (rc : Option Errno) : Prop :=
  env.online c = true ∧ policy.cur ≠ 0 ∧ rc = none

instance (env : DbsEnv n) (c : Fin n) (policy : DbsPolicy n) (rc : Option Errno) :
    Decidable (Accepts env c policy rc) :=
  inferInstanceAs (Decidable (_ ∧ _))

/-- A start that is refused, or whose `sysfs_create_group` fails, changes nothing. -/
theorem governorStart_cases (clock : JiffyClock) (g : Dbs n) (env : DbsEnv n) (c : Fin n)
    (rc : Option Errno) :
    ¬ Accepts env c (g.policy c) rc ∧ (g.governorStart clock env c rc).1 = g ∨
      Accepts env c (g.policy c) rc ∧ (g.governorStart clock env c rc).1 =
        ((g.startCpu clock env c).countStart clock (g.policy c)).setPhase c .created := by
  simp only [governorStart]
  by_cases refused : env.online c = false ∨ (g.policy c).cur = 0
  · rw [if_pos refused]
    refine .inl ⟨fun ⟨online, cur, _⟩ => ?_, rfl⟩
    rcases refused with offline | zero
    · exact Bool.noConfusion (offline.symm.trans online)
    · exact cur zero
  · rw [if_neg refused]
    obtain ⟨online, cur⟩ := not_or.mp refused
    cases rc with
    | some errno => exact .inl ⟨fun accepts => absurd accepts.2.2 (Option.some_ne_none errno), rfl⟩
    | none => exact .inr ⟨⟨Bool.eq_true_of_not_eq_false online, cur, rfl⟩, rfl⟩

/-! ## Stop -/

/-- The end of a stop keeps the governor sound. -/
theorem Sound.stopFinish (sound : g.Sound) (cancelled : g.phase c = .cancelled) :
    (g.stopFinish c).Sound where
  shared := by
    have live : c ∈ g.live := mem_live.mpr (by rw [Live, cancelled]; decide)
    have members : (g.stopFinish c).live = g.live.erase c := by
      ext d
      rw [Finset.mem_erase, mem_live, mem_live]
      by_cases here : d = c
      · subst here
        simp only [Live, Dbs.stopFinish, Function.update_self, ne_eq, not_true_eq_false, false_and]
      · simp only [Live, Dbs.stopFinish, Function.update_of_ne here, ne_eq, here,
          not_false_eq_true, true_and]
    have released : (g.stopFinish c).hook = g.hook.release 0 c := by
      rw [hook, members]
      simp only [hook, SharedHook.Hook.release, Dbs.stopFinish, Nat.le_zero_eq]
    rw [released]
    exact SharedHook.Hook.Balanced.release_zero sound.shared live
  each d := by
    by_cases here : d = c
    · subst here
      have old := sound.each d
      have stopped : ¬ (g.stopFinish d).Live d := fun live => live (Function.update_self ..)
      have phase : (g.stopFinish d).phase d = .stopped := Function.update_self ..
      have disabled : (g.info d).enable ≠ true := fun enabled => by
        cases cancelled.symm.trans (old.enable.mp enabled)
      have idle : ¬ (g.info d).work.isSome = true := fun pending => by
        rcases old.pending.mp pending with running | disabled
        · cases cancelled.symm.trans running
        · cases cancelled.symm.trans disabled
      exact {
        group := by
          refine iff_of_false ?_ stopped
          simp only [Dbs.stopFinish, Function.update_self, Bool.false_eq_true, not_false_eq_true]
        enable := by
          rw [phase]
          exact iff_of_false disabled DbsPhase.noConfusion
        pending := by
          rw [phase]
          exact iff_of_false idle DbsPhase.stopped_not_queues
        queue := old.queue
        cpu := old.cpu
        member := fun live => absurd live stopped
        nodup := fun live => absurd live stopped
        curPolicy := fun live => absurd live stopped }
    · refine (sound.each d).of_same ?_ ?_ rfl (fun _ => rfl) fun _ _ _ => rfl
      · simp only [Dbs.stopFinish, Function.update_of_ne here]
      · simp only [Dbs.stopFinish, Function.update_of_ne here]

/-! ## Runs -/

/-- The core has changed the limits of a policy. -/
def limited (g : Dbs n) (c : Fin n) (min max : U32) : Dbs n :=
  g.setPolicy c { g.policy c with min := min, max := max }

theorem Sound.limited (sound : g.Sound) (c : Fin n) (min max : U32) :
    (g.limited c min max).Sound :=
  sound.setPolicy fun _ => rfl

/-- A limit change of a running CPU is never refused. -/
theorem Sound.limits (sound : g.Sound) (running : g.phase c = .running) {min max : U32} :
    g.handle clock env (.limits c min max) = some ((g.limited c min max).limitsDriven env c c) := by
  have live : (g.limited c min max).Live c := by
    rw [Live]
    exact fun stopped => DbsPhase.noConfusion (running.symm.trans stopped)
  exact governorLimits_of_pointed (sound.limited c min max).pointed
    ((sound.limited c min max).curPolicy_self live)

/-- **No handler follows a null pointer, and every handler keeps the lifecycle sound.** -/
theorem Sound.handle (sound : g.Sound) (clock : JiffyClock) {event : DbsEvent n}
    (enabled : g.Enabled env event) :
    ∃ after, g.handle clock env event = some after ∧ after.Sound := by
  cases event with
  | start c policy rc =>
      obtain ⟨stopped, member, nodup, _, separate⟩ := enabled
      refine ⟨_, rfl, ?_⟩
      have prepared : (g.setPolicy c policy).Sound :=
        sound.setPolicy fun live => absurd stopped live
      have self : (g.setPolicy c policy).policy c = policy := by
        simp only [Dbs.setPolicy, Function.update_self]
      rcases governorStart_cases clock (g.setPolicy c policy) env c rc with
        ⟨_, same⟩ | ⟨_, accepted⟩
      · rw [same]
        exact prepared
      · rw [accepted]
        refine prepared.started stopped ?_ ?_ fun other live j inside => ?_
        · rw [self]
          exact member
        · rw [self]
          exact nodup
        · rw [self] at inside
          have different : other ≠ c := fun same => live (same ▸ stopped)
          simp only [Dbs.setPolicy, Function.update_of_ne different]
          exact separate other live j inside
  | startTimer c => exact ⟨_, rfl, sound.timerInit enabled⟩
  | work c =>
      obtain ⟨work, member, _⟩ := enabled
      have pending : (g.info c).work.isSome = true := Option.isSome_of_mem member
      have live := sound.live_of_pending pending
      exact ⟨_, doDbsTimer_of_pointed clock env sound.pointed (sound.curPolicy_self live)
        ((sound.each c).nodup live), sound.timerRan pending c⟩
  | limits c min max =>
      exact ⟨_, sound.limits enabled.1, (sound.limited c min max).sameLife
        (sameLife_limitsDriven ..)⟩
  | transition p transition =>
      exact ⟨_, notifyTransition_of_pointed sound.pointed p transition,
        sound.sameLife (sameLife_transitioned ..)⟩
  | store tunable input => exact ⟨_, rfl, sound.store tunable input⟩
  | stopDisable c =>
      have place : g.phase c = .running := enabled
      have old := sound.each c
      refine ⟨_, rfl, sound.onCpu ?_ _ .disabled rfl DbsPhase.noConfusion ?_ ?_ old.queue old.cpu⟩
      · rw [Live, place]
        decide
      · exact iff_of_false Bool.false_ne_true DbsPhase.noConfusion
      · exact iff_of_true (old.pending.mpr (.inl place)) (.inr rfl)
  | stopCancel c =>
      have place : g.phase c = .disabled := enabled
      have old := sound.each c
      refine ⟨_, rfl, sound.onCpu ?_ _ .cancelled rfl DbsPhase.noConfusion ?_ ?_
        (fun _ member => absurd member (Option.not_mem_none _)) old.cpu⟩
      · rw [Live, place]
        decide
      · refine iff_of_false (fun enabled => ?_) DbsPhase.noConfusion
        cases place.symm.trans (old.enable.mp enabled)
      · exact iff_of_false Bool.false_ne_true (by decide)
  | stopFinish c => exact ⟨_, rfl, sound.stopFinish enabled⟩

/-- Every step keeps the governor sound. -/
theorem Sound.step {action : DbsAction n} (sound : g.Sound)
    (taken : g.step clock action = some after) : after.Sound := by
  obtain ⟨enabled, handled⟩ := step_eq_some.mp taken
  obtain ⟨reached, same, still⟩ := sound.handle clock enabled
  obtain rfl := Option.some.inj (handled.symm.trans same)
  exact still

/-- **The lifecycle of the governor.** In every state that the events lead to, in
whatever order they interleave on the CPUs, the lifecycle is sound, and every event that
is enabled is handled without following a null pointer. -/
theorem sound_of_exec {policy : Fin n → DbsPolicy n} {actions : List (DbsAction n)}
    (reached : exec (step clock) (init policy) actions = some after) :
    after.Sound ∧ ∀ env event, after.Enabled env event →
      (after.handle clock env event).isSome = true := by
  have sound : after.Sound :=
    invariant_of_step Sound (fun _ _ _ held taken => held.step taken) (sound_init policy) reached
  refine ⟨sound, fun env event enabled => ?_⟩
  obtain ⟨_, handled, _⟩ := sound.handle clock enabled
  exact Option.isSome_iff_exists.mpr ⟨_, handled⟩

/-- The CPU of a device that has one. -/
def soleCpu : Fin 1 := ⟨0, Nat.one_pos⟩

/-- A policy of one CPU, which runs at half its maximum. -/
def halfSpeed : DbsPolicy 1 where
  min := 300000
  max := 1000000
  cur := 500000
  cpus := [soleCpu]
  transitionLatency := 300000

/-- A CPU that has been idle since the boot, and a driver that does nothing. -/
def idleFor (usecs : U64) : DbsEnv 1 where
  jiffies := usecs.toNat / 7812
  online := fun _ => true
  times := fun _ => ⟨usecs, usecs, 0, ⟨0, 0, 0, 0, 0, 0⟩⟩
  drive := fun _ => none

/-- The governor is started, and its first work expires. -/
def oneExpiry : List (DbsAction 1) :=
  [⟨.start soleCpu halfSpeed none, idleFor 1000000⟩, ⟨.startTimer soleCpu, idleFor 1000000⟩,
    ⟨.work soleCpu, idleFor 2000000⟩]

/-- One expiry in a sound run. -/
theorem oneExpiry_sound :
    ∃ g : Dbs 1, exec (step .hz128) (init fun _ => halfSpeed) oneExpiry = some g ∧
      g.Sound ∧ (∀ env event, g.Enabled env event → (g.handle .hz128 env event).isSome = true) ∧
      g.phase soleCpu = .running := by
  have reached : exec (step .hz128) (init fun _ => halfSpeed) oneExpiry = some _ :=
    (Option.some_get (by decide +kernel)).symm
  have sound := sound_of_exec reached
  exact ⟨_, reached, sound.1, sound.2, by decide +kernel⟩

end Dbs

end Jordan.Cpufreq
