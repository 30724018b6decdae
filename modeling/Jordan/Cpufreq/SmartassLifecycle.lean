import Jordan.Cpufreq.SmartassSpeeds
import Jordan.Library.SharedHook

/-! # The idle hook and the speeds of the smartass governor over its life

`active_count` counts the CPUs that the governor is started on. The first start installs
the idle hook; a stop removes it unless more than one CPU is left. So a stop that leaves
one CPU takes the hook away from it, and the timer of that CPU is never armed again
(`Jordan.Cpufreq.SmartassGovernor.hooked_iff`).

A late resume lifts the cap on `max_speed`. Its loop over the online CPUs looks at the CPU
that runs it instead of the one the loop is at, and does nothing while `sleep_max_freq` is
0; the CPUs it misses stay capped while the device is awake
(`Jordan.Cpufreq.SmartassGovernor.uncapped_iff`).
-/

namespace Jordan.Cpufreq

open Execution

/-- What only the governor events and the suspend handlers change of a CPU. -/
def SmartassCpuState.life (s : SmartassCpuState) :
    SmartassPhase × Bool × U32 × Option (U32 × U32) :=
  (s.phase, s.info.enable, s.info.maxSpeed, s.info.curPolicy.map CpufreqPolicy.limits)

/-- An enabled CPU may run at the maximum of its policy. -/
def SmartassCpuState.FullSpeed (s : SmartassCpuState) : Prop :=
  s.info.enable = true → s.info.curPolicy.map CpufreqPolicy.max = some s.info.maxSpeed

instance (s : SmartassCpuState) : Decidable s.FullSpeed := inferInstanceAs (Decidable (_ → _))

/-- Full speed is a matter of what the governor events change. -/
theorem SmartassCpuState.fullSpeed_of_life {s t : SmartassCpuState} (same : t.life = s.life)
    (full : s.FullSpeed) : t.FullSpeed := by
  obtain ⟨_, rest⟩ := Prod.mk.inj same
  obtain ⟨enable, rest⟩ := Prod.mk.inj rest
  obtain ⟨maxSpeed, limits⟩ := Prod.mk.inj rest
  have max := congrArg (Option.map Prod.snd) limits
  rw [Option.map_map, Option.map_map] at max
  intro on
  rw [maxSpeed, ← full (enable ▸ on)]
  exact max

namespace SmartassGovernor

variable {n : Nat} {g after : SmartassGovernor n} {env : Env n} {c : Fin n}
  {w : SmartassThread n} {policy : CpufreqPolicy}

/-! ## Handlers that leave it as it is -/

/-- What only the governor events and the suspend handlers change. -/
structure SameLife (g after : SmartassGovernor n) : Prop where
  suspended : after.suspended = g.suspended
  activeCount : after.activeCount = g.activeCount
  pmIdle : after.pmIdle = g.pmIdle
  pmIdleOld : after.pmIdleOld = g.pmIdleOld
  cpu (c : Fin n) : (after.cpu c).life = (g.cpu c).life

theorem SameLife.trans {last : SmartassGovernor n} (first : g.SameLife after)
    (second : after.SameLife last) : g.SameLife last where
  suspended := second.suspended.trans first.suspended
  activeCount := second.activeCount.trans first.activeCount
  pmIdle := second.pmIdle.trans first.pmIdle
  pmIdleOld := second.pmIdleOld.trans first.pmIdleOld
  cpu c := (second.cpu c).trans (first.cpu c)

/-- Storing the data of a CPU changes nothing of the governor's life, if it keeps the CPU's. -/
theorem setCpu_sameLife {s : SmartassCpuState} (same : s.life = (g.cpu c).life) :
    g.SameLife (g.setCpu c s) where
  suspended := rfl
  activeCount := rfl
  pmIdle := rfl
  pmIdleOld := rfl
  cpu d := by
    by_cases here : d = c
    · subst here
      simpa only [setCpu, Function.update_self] using same
    · simp only [setCpu, Function.update_of_ne here]

theorem driverTarget_sameLife {env : KernelEnv} {target : U32} {relation : Relation}
    (current : (g.cpu c).info.curPolicy = some policy) :
    g.SameLife (g.driverTarget env c policy target relation) := by
  have asked : g.SameLife { g with requests := g.requests ++
      [⟨c, (g.cpu c).info.enable, ⟨target, relation, policy⟩⟩] } :=
    ⟨rfl, rfl, rfl, rfl, fun _ => rfl⟩
  refine asked.trans (setCpu_sameLife ?_)
  simp only [SmartassCpuState.life, current, Option.map_some, CpufreqPolicy.limits]

theorem setThread_sameLife (g : SmartassGovernor n) (w : SmartassThread n)
    (work : SmartassWork n) : g.SameLife (g.setThread w work) :=
  ⟨rfl, rfl, rfl, rfl, fun _ => rfl⟩

/-- A timer changes nothing of the governor's life. -/
theorem timer_sameLife (ran : g.cpufreqSmartassTimer env c = some after) :
    g.SameLife after := by
  obtain ⟨policy, _, rfl⟩ := Option.map_eq_some_iff.mp ran
  have speed := SmartassInfo.timerFunction_maxSpeed
    { (g.cpu c).info.toSmartassInfo with timer := none } g.settings.timer env.toKernelEnv policy
    (env.reading c)
  generalize { (g.cpu c).info.toSmartassInfo with timer := none }.timerFunction g.settings.timer
    env.toKernelEnv policy (env.reading c) = sampled at speed
  have left : g.SameLife (g.setInfo c { (g.cpu c).info with toSmartassInfo := sampled.1 }) := by
    apply setCpu_sameLife
    simp only [SmartassCpuState.life, speed]
  obtain ⟨info, queue⟩ := sampled
  cases queue with
  | none => exact left
  | some queue => exact left.trans ⟨rfl, rfl, rfl, rfl, fun _ => rfl⟩

/-- The begin of an idle period changes nothing of the governor's life. -/
theorem idleEnter_sameLife (ran : g.cpufreqIdleEnter c = some after) : g.SameLife after := by
  simp only [cpufreqIdleEnter] at ran
  by_cases enabled : (g.cpu c).info.enable = true
  · rw [if_pos enabled] at ran
    obtain ⟨policy, _, rfl⟩ := Option.map_eq_some_iff.mp ran
    apply setCpu_sameLife
    simp only [SmartassCpuState.life]
    split <;> rfl
  · rw [if_neg enabled] at ran
    obtain rfl := Option.some.inj ran
    exact setCpu_sameLife rfl

theorem idleExit_sameLife (g : SmartassGovernor n) (env : Env n) (c : Fin n) (entered : Bool) :
    g.SameLife (g.cpufreqIdleExit env c entered) := by
  apply setCpu_sameLife
  simp only [SmartassCpuState.life]
  split <;> rfl

/-- A step of a thread changes nothing of the governor's life. -/
theorem workStep_sameLife (ran : g.workStep env w = some after) : g.SameLife after := by
  unfold workStep at ran
  cases current : g.thread w with
  | resting =>
      rw [current] at ran
      exact Option.some.inj ran ▸ ⟨rfl, rfl, rfl, rfl, fun _ => rfl⟩
  | looping todo =>
      rw [current] at ran
      cases todo with
      | nil => exact Option.some.inj ran ▸ setThread_sameLife ..
      | cons c todo =>
          obtain rfl := Option.some.inj ran
          have taken : g.SameLife (g.setInfo c { (g.cpu c).info with forceRampUp := false }) :=
            setCpu_sameLife rfl
          exact taken.trans ⟨rfl, rfl, rfl, rfl, fun _ => rfl⟩
  | loaded c load force todo =>
      rw [current] at ran
      obtain ⟨policy, pointed, rfl⟩ := Option.map_eq_some_iff.mp ran
      have driven : g.SameLife (g.driverTarget env.toKernelEnv c policy
          ((g.cpu c).info.validateFreq
            (g.settings.rampFreq policy.cur (g.cpu c).info.maxSpeed load force)) .L) :=
        driverTarget_sameLife pointed
      refine (driven.trans (setCpu_sameLife ?_)).trans (setThread_sameLife ..)
      rfl
  | driven c todo =>
      rw [current] at ran
      exact Option.some.inj ran ▸ ⟨rfl, rfl, rfl, rfl, fun _ => rfl⟩

/-- The events that change neither the lifecycle nor the speeds. -/
def SmartassGovEvent.Routine : SmartassGovEvent n → Prop
  | .timer _ | .idleEnter _ | .idleExit _ | .work _ | .store _ _ | .transition _ _ => True
  | .start _ _ _ | .limits _ _ _ | .stopDelTimer _ | .stopDisable _ | .stopFinish _
  | .earlySuspend _ | .lateResume _ | .outside _ _ => False

/-- The routine events change nothing of the governor's life. -/
theorem handle_sameLife {event : SmartassGovEvent n} (routine : SmartassGovEvent.Routine event)
    (ran : g.handle env event = some after) : g.SameLife after := by
  cases event with
  | timer c => exact timer_sameLife ran
  | idleEnter c => exact idleEnter_sameLife ran
  | idleExit c =>
      obtain ⟨entered, _, rfl⟩ := Option.map_eq_some_iff.mp ran
      exact idleExit_sameLife ..
  | work w => exact workStep_sameLife ran
  | store tunable input => exact Option.some.inj ran ▸ ⟨rfl, rfl, rfl, rfl, fun _ => rfl⟩
  | transition c cur =>
      obtain rfl := Option.some.inj ran
      refine setCpu_sameLife ?_
      simp only [SmartassCpuState.life, Option.map_map]
      rfl
  | start | limits | stopDelTimer | stopDisable | stopFinish | earlySuspend | lateResume
  | outside => exact routine.elim

/-! ## The idle hook -/

/-- The count, the two pointers, and where the CPUs are. -/
def place (g : SmartassGovernor n) :
    Int × Option IdleHandler × Option IdleHandler × (Fin n → SmartassPhase) :=
  (g.activeCount, g.pmIdle, g.pmIdleOld, fun c => (g.cpu c).phase)

theorem SameLife.place (same : g.SameLife after) : after.place = g.place := by
  have phase : (fun c => (after.cpu c).phase) = fun c => (g.cpu c).phase :=
    funext fun c => congrArg Prod.fst (same.cpu c)
  simp only [SmartassGovernor.place, same.activeCount, same.pmIdle, same.pmIdleOld, phase]

theorem setCpu_place {s : SmartassCpuState} (same : s.phase = (g.cpu c).phase) :
    (g.setCpu c s).place = g.place := by
  have phase : (fun d => ((g.setCpu c s).cpu d).phase) = fun d => (g.cpu d).phase := by
    funext d
    by_cases here : d = c
    · subst here
      simpa only [setCpu, Function.update_self] using same
    · simp only [setCpu, Function.update_of_ne here]
  exact congrArg (fun phases => (g.activeCount, g.pmIdle, g.pmIdleOld, phases)) phase

theorem driverTarget_place (g : SmartassGovernor n) (env : KernelEnv) (c : Fin n)
    (policy : CpufreqPolicy) (target : U32) (relation : Relation) :
    (g.driverTarget env c policy target relation).place = g.place :=
  setCpu_place (g := { g with requests := g.requests ++
    [⟨c, (g.cpu c).info.enable, ⟨target, relation, policy⟩⟩] }) rfl

theorem governorLimits_place (g : SmartassGovernor n) (env : KernelEnv) (c : Fin n)
    (policy : CpufreqPolicy) : (g.governorLimits env c policy).place = g.place := by
  simp only [governorLimits]
  split
  · exact (driverTarget_place ..).trans (setCpu_place rfl)
  · exact setCpu_place rfl

/-- The suspend of one CPU moves nobody. -/
theorem smartassSuspend_place {current : Fin n} {suspend : Bool}
    (ran : g.smartassSuspend env current suspend = some after) : after.place = g.place := by
  simp only [smartassSuspend] at ran
  by_cases ignored : (g.cpu current).info.enable = false ∨ g.settings.sleepMaxFreq = 0
  · rw [if_pos ignored] at ran
    exact Option.some.inj ran ▸ rfl
  · rw [if_neg ignored] at ran
    obtain ⟨policy, _, rfl⟩ := Option.map_eq_some_iff.mp ran
    cases suspend with
    | false => exact (driverTarget_place ..).trans (setCpu_place rfl)
    | true =>
        rw [if_pos rfl]
        split
        · exact (driverTarget_place ..).trans (setCpu_place rfl)
        · exact setCpu_place rfl

theorem suspendAll_place {processor : Fin n → Fin n} {suspend : Bool}
    (ran : g.suspendAll env processor suspend = some after) : after.place = g.place := by
  refine invariant_of_step (fun left => left.place = g.place)
    (fun before i left same taken => ?_) rfl ran
  by_cases online : env.online i = true
  · rw [if_pos online] at taken
    exact (smartassSuspend_place taken).trans same
  · rw [if_neg online] at taken
    exact Option.some.inj taken ▸ same

/-- The CPUs between `GOV_START` and the end of `GOV_STOP`. -/
def members (g : SmartassGovernor n) : Finset (Fin n) :=
  Finset.univ.filter fun c => (g.cpu c).phase ≠ .out

theorem mem_members : c ∈ g.members ↔ (g.cpu c).phase ≠ .out := by
  simp only [members, Finset.mem_filter, Finset.mem_univ, true_and]

/-- The idle hook, held by the CPUs that the governor is started on. -/
def hook (g : SmartassGovernor n) : SharedHook.Hook (Fin n) where
  holders := g.members
  count := g.activeCount.toNat
  installed := decide (g.pmIdle = some .cpufreqIdle)

/-- The hook is there exactly while the governor is started on a CPU, `active_count` counts
these CPUs, `pm_idle` is never null, and the hook never calls itself. -/
structure Hooked (g : SmartassGovernor n) : Prop where
  natural : 0 ≤ g.activeCount
  balanced : g.hook.Balanced
  idle : g.pmIdle = some .original ∨
    g.pmIdle = some .cpufreqIdle ∧ g.pmIdleOld = some .original
  old : g.pmIdleOld ≠ some .cpufreqIdle

/-- Before the first event the hook is out and `pm_idle` is the original one. -/
theorem hooked_init (n : Nat) : (init n).Hooked where
  natural := Int.le_refl 0
  balanced := by
    have members : (init n).members = ∅ :=
      Finset.filter_eq_empty_iff.mpr fun c _ started => started rfl
    have hook : (init n).hook = ⟨∅, 0, false⟩ := by
      unfold SmartassGovernor.hook
      rw [members]
      rfl
    exact hook ▸ SharedHook.Hook.balanced_empty
  idle := .inl rfl
  old := (Option.some_ne_none _).symm

/-- The hook is a matter of the place alone. -/
theorem Hooked.of_place (hooked : g.Hooked) (same : after.place = g.place) : after.Hooked := by
  obtain ⟨count, rest⟩ := Prod.mk.inj same
  obtain ⟨idle, rest⟩ := Prod.mk.inj rest
  obtain ⟨old, phase⟩ := Prod.mk.inj rest
  have members : after.members = g.members := by
    ext c
    rw [mem_members, mem_members, congrFun phase c]
  have hook : after.hook = g.hook := by
    simp only [SmartassGovernor.hook, members, count, idle]
  exact ⟨count ▸ hooked.natural, hook ▸ hooked.balanced, idle ▸ old ▸ hooked.idle,
    old ▸ hooked.old⟩

/-- No start is refused by `sysfs_create_group`, and no stop leaves one CPU. -/
def HookSafe (g : SmartassGovernor n) (action : SmartassAction n) : Prop :=
  match action.event with
  | .start c policy rc =>
      action.env.online c = true → policy.cur ≠ 0 → g.activeCount < 1 → rc = none
  | .stopFinish _ => g.activeCount ≠ 2
  | _ => True

/-- A start takes its CPU to the members. -/
theorem members_start {s : SmartassCpuState} (started : s.phase = .started) :
    (g.setCpu c s).members = insert c g.members := by
  ext d
  rw [mem_members, Finset.mem_insert, mem_members]
  by_cases here : d = c
  · subst here
    simp only [setCpu, Function.update_self, started, ne_eq, reduceCtorEq, not_false_eq_true,
      true_or]
  · simp only [setCpu, Function.update_of_ne here, here, false_or]

/-- The end of a stop takes its CPU from the members. -/
theorem members_stop {s : SmartassCpuState} (out : s.phase = .out) :
    (g.setCpu c s).members = g.members.erase c := by
  ext d
  rw [mem_members, Finset.mem_erase, mem_members]
  by_cases here : d = c
  · subst here
    simp only [setCpu, Function.update_self, out, ne_eq, not_true_eq_false, false_and]
  · simp only [setCpu, Function.update_of_ne here, ne_eq, here, not_false_eq_true, true_and]

/-- A start that is carried out takes the hook for its CPU. -/
theorem Hooked.acquire (hooked : g.Hooked) (out : (g.cpu c).phase = .out)
    (hook : after.hook = g.hook.acquire c) (count : after.activeCount = g.activeCount + 1)
    (idle : after.pmIdle = some .original ∨
      after.pmIdle = some .cpufreqIdle ∧ after.pmIdleOld = some .original)
    (old : after.pmIdleOld ≠ some .cpufreqIdle) : after.Hooked where
  natural := by
    have natural := hooked.natural
    omega
  balanced := by
    rw [hook]
    exact hooked.balanced.acquire fun started => mem_members.mp started out
  idle := idle
  old := old

/-- A start keeps the hook right exactly if it is not a first one that fails. -/
theorem Hooked.start_iff (hooked : g.Hooked) (out : (g.cpu c).phase = .out)
    (rc : Option Errno) :
    (g.governorStart env c policy rc).1.Hooked ↔
      (env.online c = true → policy.cur ≠ 0 → g.activeCount < 1 → rc = none) := by
  have natural := hooked.natural
  simp only [governorStart]
  by_cases refused : env.online c = false ∨ policy.cur = 0
  · rw [if_pos refused]
    refine iff_of_true hooked fun online cur => ?_
    rcases refused with offline | zero
    · exact Bool.noConfusion (offline.symm.trans online)
    · exact absurd zero cur
  · rw [if_neg refused]
    obtain ⟨online, cur⟩ := not_or.mp refused
    have count : (g.activeCount + 1).toNat = g.activeCount.toNat + 1 := by omega
    by_cases first : g.activeCount + 1 ≤ 1
    · rw [if_pos first]
      cases rc with
      | some errno =>
          refine iff_of_false (fun after => ?_) fun safe => ?_
          · have before := hooked.balanced.count
            have counted := after.balanced.count
            simp only [hook] at before counted
            have members : ({ g with activeCount := g.activeCount + 1 } :
                SmartassGovernor n).members = g.members := rfl
            rw [members] at counted
            omega
          · have none := safe (Bool.eq_true_of_not_eq_false online) cur (by omega)
            exact Option.some_ne_none errno none
      | none =>
          refine iff_of_true ?_ fun _ _ _ => rfl
          have absent : g.pmIdle = some .original := by
            refine hooked.idle.resolve_right fun installed => ?_
            have present : g.hook.installed = true := decide_eq_true installed.1
            have empty := hooked.balanced.first_iff.mp
            simp only [hook] at empty present
            exact empty (by omega) (hooked.balanced.installed.mp present)
          refine Hooked.of_place ?_ (governorLimits_place ..)
          have old : g.pmIdle ≠ some .cpufreqIdle := absent ▸ by decide
          refine hooked.acquire out ?_ rfl (.inr ⟨rfl, absent⟩) old
          simp only [hook, SharedHook.Hook.acquire, SharedHook.Hook.mk.injEq]
          refine ⟨members_start rfl, count, ?_⟩
          exact (if_pos (show g.activeCount.toNat + 1 ≤ 1 by omega)).symm
    · rw [if_neg first]
      refine iff_of_true ?_ fun _ _ below => absurd below (by omega)
      refine Hooked.of_place ?_ (governorLimits_place ..)
      refine hooked.acquire out ?_ rfl hooked.idle hooked.old
      simp only [hook, SharedHook.Hook.acquire, SharedHook.Hook.mk.injEq]
      refine ⟨members_start rfl, count, ?_⟩
      exact (if_neg (show ¬ g.activeCount.toNat + 1 ≤ 1 by omega)).symm

/-- The end of a stop keeps the hook right exactly if it does not leave the count at one. -/
theorem Hooked.stopFinish_iff (hooked : g.Hooked) (disabled : (g.cpu c).phase = .disabled) :
    (g.stopFinish c).Hooked ↔ g.activeCount ≠ 2 := by
  have natural := hooked.natural
  have holds : c ∈ g.members := by
    rw [mem_members, disabled]
    exact SmartassPhase.noConfusion
  have card : g.hook.count = g.members.card := hooked.balanced.count
  have positive : 0 < g.members.card := Finset.card_pos.mpr ⟨c, holds⟩
  have installed : g.pmIdle = some .cpufreqIdle ∧ g.pmIdleOld = some .original := by
    refine hooked.idle.resolve_left fun original => ?_
    have present : g.hook.installed = true := hooked.balanced.installed.mpr ⟨c, holds⟩
    have idle := of_decide_eq_true present
    exact absurd (original.symm.trans idle) (by decide)
  simp only [hook] at card
  have released : (g.stopFinish c).hook = g.hook.release 1 c := by
    have members : (g.stopFinish c).members = g.members.erase c := by
      simp only [stopFinish]
      split
      · exact members_stop (g := g) rfl
      · have twice : (g.setCpu c { g.cpu c with phase := .out }).setCpu c
            { (g.setCpu c { g.cpu c with phase := .out }).cpu c with group := false } =
            g.setCpu c { g.cpu c with phase := .out, group := false } := by
          simp only [setCpu, Function.update_idem, Function.update_self]
        exact (congrArg SmartassGovernor.members twice).trans (members_stop (g := g) rfl)
    have count : (g.stopFinish c).activeCount = g.activeCount - 1 := by
      simp only [stopFinish]
      split <;> rfl
    simp only [hook, SharedHook.Hook.release, SharedHook.Hook.mk.injEq]
    refine ⟨members, ?_, ?_⟩
    · rw [count]
      omega
    · by_cases more : 1 < g.activeCount - 1
      · refine Eq.trans ?_ (if_neg (show ¬ g.activeCount.toNat - 1 ≤ 1 by omega)).symm
        simp only [stopFinish, if_pos more]
        rfl
      · refine Eq.trans ?_ (if_pos (show g.activeCount.toNat - 1 ≤ 1 by omega)).symm
        simp only [stopFinish, if_neg more, installed.2]
        decide
  have balanced_iff : (g.stopFinish c).hook.Balanced ↔ g.activeCount ≠ 2 := by
    rw [released, hooked.balanced.release_iff holds]
    simp only [hook]
    omega
  refine ⟨fun after => balanced_iff.mp after.balanced, fun safe => ?_⟩
  refine ⟨?_, balanced_iff.mpr safe, ?_, ?_⟩
  · have count : (g.stopFinish c).activeCount = g.activeCount - 1 := by
      simp only [stopFinish]
      split <;> rfl
    omega
  · simp only [stopFinish]
    split
    · exact .inr installed
    · exact .inl installed.2
  · simp only [stopFinish]
    split <;> exact hooked.old

/-- A CPU that stays between its start and the end of its stop. -/
theorem Hooked.move (hooked : g.Hooked) {s : SmartassCpuState} (before : (g.cpu c).phase ≠ .out)
    (now : s.phase ≠ .out) : (g.setCpu c s).Hooked := by
  have members : (g.setCpu c s).members = g.members := by
    ext d
    rw [mem_members, mem_members]
    by_cases here : d = c
    · subst here
      simpa only [setCpu, Function.update_self] using iff_of_true now before
    · simp only [setCpu, Function.update_of_ne here]
  have hook : (g.setCpu c s).hook = g.hook := by
    unfold SmartassGovernor.hook
    rw [members]
    rfl
  exact ⟨hooked.natural, hook ▸ hooked.balanced, hooked.idle, hooked.old⟩

/-- Any step keeps the hook right exactly if it is safe for the hook. -/
theorem Hooked.step {action : SmartassAction n} (hooked : g.Hooked)
    (taken : g.step action = some after) : after.Hooked ↔ g.HookSafe action := by
  obtain ⟨event, env⟩ := action
  obtain ⟨enabled, ran⟩ := step_eq_some.mp taken
  have routine (quiet : SmartassGovEvent.Routine event) : after.Hooked :=
    hooked.of_place (handle_sameLife quiet ran).place
  cases event with
  | start c policy rc => exact Option.some.inj ran ▸ hooked.start_iff enabled.1 rc
  | stopFinish c => exact Option.some.inj ran ▸ hooked.stopFinish_iff enabled
  | timer c => exact iff_of_true (routine trivial) trivial
  | idleEnter c => exact iff_of_true (routine trivial) trivial
  | idleExit c => exact iff_of_true (routine trivial) trivial
  | work w => exact iff_of_true (routine trivial) trivial
  | store tunable input => exact iff_of_true (routine trivial) trivial
  | transition c cur => exact iff_of_true (routine trivial) trivial
  | outside c policy =>
      exact iff_of_true (Option.some.inj ran ▸ hooked.of_place (setCpu_place rfl)) trivial
  | limits c min max =>
      obtain ⟨policy, _, rfl⟩ := Option.map_eq_some_iff.mp ran
      exact iff_of_true (hooked.of_place (governorLimits_place ..)) trivial
  | earlySuspend processor => exact iff_of_true (hooked.of_place (suspendAll_place ran)) trivial
  | lateResume processor => exact iff_of_true (hooked.of_place (suspendAll_place ran)) trivial
  | stopDelTimer c =>
      have moved := hooked.move (c := c) (s := { g.cpu c with
        info := { (g.cpu c).info with timer := none }, phase := .deleted })
        (by rw [show (g.cpu c).phase = .started from enabled]; exact SmartassPhase.noConfusion)
        SmartassPhase.noConfusion
      exact iff_of_true (Option.some.inj ran ▸ moved) trivial
  | stopDisable c =>
      have moved := hooked.move (c := c) (s := { g.cpu c with
        info := { (g.cpu c).info with enable := false }, phase := .disabled })
        (by rw [show (g.cpu c).phase = .deleted from enabled]; exact SmartassPhase.noConfusion)
        SmartassPhase.noConfusion
      exact iff_of_true (Option.some.inj ran ▸ moved) trivial

/-- **The idle hook.** In every run from the start, the hook is installed and counted right
all the time exactly if no `sysfs_create_group` of a first start fails and no stop leaves
one CPU. -/
theorem hooked_iff (n : Nat) (actions : List (SmartassAction n)) :
    Along step (fun _ _ after => after.Hooked) (init n) actions ↔
      Guarded step HookSafe (init n) actions := by
  refine along_iff Hooked (fun before action after hooked guard taken => ?_)
    (fun before action after hooked taken law => ?_) (hooked_init n) actions
  · exact ⟨(hooked.step taken).mpr guard, (hooked.step taken).mpr guard⟩
  · exact (hooked.step taken).mp law

/-! ## The cap -/

/-- While the device is awake no enabled CPU is capped. -/
def Uncapped (g : SmartassGovernor n) : Prop :=
  g.suspended = false → ∀ c, (g.cpu c).FullSpeed

/-- A late resume reaches every CPU that is capped: the behaviour is not disabled, and the
CPU itself runs the loop when it is at some online CPU. -/
def Lifts (g : SmartassGovernor n) (action : SmartassAction n) : Prop :=
  match action.event with
  | .lateResume processor =>
      ∀ c, ¬ (g.cpu c).FullSpeed →
        g.settings.sleepMaxFreq ≠ 0 ∧ ∃ i, action.env.online i = true ∧ processor i = c
  | _ => True

theorem driverTarget_cpu (g : SmartassGovernor n) (env : KernelEnv) {d : Fin n} (other : d ≠ c)
    (policy : CpufreqPolicy) (target : U32) (relation : Relation) :
    (g.driverTarget env c policy target relation).cpu d = g.cpu d :=
  Function.update_of_ne other ..

theorem governorLimits_cpu (g : SmartassGovernor n) (env : KernelEnv) {d : Fin n}
    (other : d ≠ c) (policy : CpufreqPolicy) :
    (g.governorLimits env c policy).cpu d = g.cpu d := by
  have updated (s : SmartassCpuState) : (g.setCpu c s).cpu d = g.cpu d :=
    Function.update_of_ne other ..
  simp only [governorLimits]
  split
  · exact (driverTarget_cpu _ _ other ..).trans (updated _)
  · exact updated _

theorem governorLimits_suspended (g : SmartassGovernor n) (env : KernelEnv) (c : Fin n)
    (policy : CpufreqPolicy) : (g.governorLimits env c policy).suspended = g.suspended := by
  simp only [governorLimits]
  split <;> rfl

/-- `GOV_LIMITS` of an awake device caps nothing. -/
theorem governorLimits_fullSpeed (awake : g.suspended = false) (env : KernelEnv) (c : Fin n)
    (policy : CpufreqPolicy) : ((g.governorLimits env c policy).cpu c).FullSpeed := by
  intro _
  simp only [governorLimits, awake]
  split
  · simp only [driverTarget, setInfo, setCpu, Function.update_self]
    rfl
  · simp only [setInfo, setCpu, Function.update_self]
    rfl

/-- What is true of all CPUs after the limits are set: it was of the others, and the device
is awake. -/
theorem Uncapped.governorLimits {env : KernelEnv}
    (others : g.suspended = false → ∀ d, d ≠ c → (g.cpu d).FullSpeed) :
    (g.governorLimits env c policy).Uncapped := by
  intro awake d
  rw [governorLimits_suspended] at awake
  by_cases here : d = c
  · subst here
    exact governorLimits_fullSpeed awake env d policy
  · rw [governorLimits_cpu g env here policy]
    exact others awake d here

/-- A start caps no CPU while the device is awake. -/
theorem Uncapped.governorStart (uncapped : g.Uncapped) (rc : Option Errno) :
    (g.governorStart env c policy rc).1.Uncapped := by
  have others (counted : SmartassGovernor n) (s : SmartassCpuState)
      (suspended : counted.suspended = g.suspended) (cpu : counted.cpu = g.cpu) :
      (counted.setCpu c s).suspended = false →
        ∀ d, d ≠ c → ((counted.setCpu c s).cpu d).FullSpeed := by
    intro awake d other
    simp only [setCpu, Function.update_of_ne other, cpu]
    exact uncapped (suspended ▸ awake) d
  simp only [SmartassGovernor.governorStart]
  by_cases refused : env.online c = false ∨ policy.cur = 0
  · rw [if_pos refused]
    exact uncapped
  · rw [if_neg refused]
    by_cases first : g.activeCount + 1 ≤ 1
    · rw [if_pos first]
      cases rc with
      | some errno => exact uncapped
      | none => exact Uncapped.governorLimits (others _ _ rfl rfl)
    · rw [if_neg first]
      exact Uncapped.governorLimits (others _ _ rfl rfl)

/-- A CPU is replaced by one that is not capped if the old one was not. -/
theorem Uncapped.setCpu (uncapped : g.Uncapped) {s : SmartassCpuState}
    (here : (g.cpu c).FullSpeed → s.FullSpeed) : (g.setCpu c s).Uncapped := by
  intro awake d
  by_cases same : d = c
  · subst same
    simpa only [SmartassGovernor.setCpu, Function.update_self] using here (uncapped awake d)
  · simpa only [SmartassGovernor.setCpu, Function.update_of_ne same] using uncapped awake d

theorem Uncapped.of_sameLife (uncapped : g.Uncapped) (same : g.SameLife after) :
    after.Uncapped :=
  fun awake c =>
    SmartassCpuState.fullSpeed_of_life (same.cpu c) (uncapped (same.suspended ▸ awake) c)

/-- A turn of the loop of a late resume lifts the cap of the CPU that runs it. -/
theorem resume_fullSpeed {current : Fin n}
    (ran : g.smartassSuspend env current false = some after) (d : Fin n) :
    (after.cpu d).FullSpeed ↔
      (g.cpu d).FullSpeed ∨ (g.settings.sleepMaxFreq ≠ 0 ∧ current = d) := by
  simp only [smartassSuspend] at ran
  by_cases ignored : (g.cpu current).info.enable = false ∨ g.settings.sleepMaxFreq = 0
  · rw [if_pos ignored] at ran
    obtain rfl := Option.some.inj ran
    refine ⟨.inl, fun full => full.elim id ?_⟩
    rintro ⟨nonzero, rfl⟩ enabled
    rcases ignored with disabled | zero
    · exact Bool.noConfusion (disabled.symm.trans enabled)
    · exact absurd zero nonzero
  · rw [if_neg ignored] at ran
    obtain ⟨policy, pointed, rfl⟩ := Option.map_eq_some_iff.mp ran
    obtain ⟨_, nonzero⟩ := not_or.mp ignored
    by_cases here : current = d
    · subst here
      refine iff_of_true (fun _ => ?_) (.inr ⟨nonzero, rfl⟩)
      simp only [if_neg Bool.false_ne_true, driverTarget, setInfo, SmartassGovernor.setCpu,
        Function.update_self]
      rfl
    · have other : d ≠ current := fun same => here same.symm
      rw [if_neg Bool.false_ne_true, driverTarget_cpu _ _ other]
      simp only [setInfo, SmartassGovernor.setCpu, Function.update_of_ne other, here, and_false,
        or_false]

/-- The suspend of one CPU changes neither a tunable nor whether the device is suspended. -/
theorem smartassSuspend_frame {current : Fin n} {suspend : Bool}
    (ran : g.smartassSuspend env current suspend = some after) :
    after.settings = g.settings ∧ after.suspended = g.suspended := by
  simp only [smartassSuspend] at ran
  by_cases ignored : (g.cpu current).info.enable = false ∨ g.settings.sleepMaxFreq = 0
  · rw [if_pos ignored] at ran
    exact Option.some.inj ran ▸ ⟨rfl, rfl⟩
  · rw [if_neg ignored] at ran
    obtain ⟨policy, _, rfl⟩ := Option.map_eq_some_iff.mp ran
    cases suspend with
    | false => exact ⟨rfl, rfl⟩
    | true =>
        rw [if_pos rfl]
        split <;> exact ⟨rfl, rfl⟩

theorem suspendAll_suspended {processor : Fin n → Fin n} {suspend : Bool}
    (ran : g.suspendAll env processor suspend = some after) : after.suspended = suspend := by
  refine invariant_of_step (fun left => left.suspended = suspend)
    (fun before i left same taken => ?_) rfl ran
  by_cases online : env.online i = true
  · rw [if_pos online] at taken
    exact (smartassSuspend_frame taken).2.trans same
  · rw [if_neg online] at taken
    exact Option.some.inj taken ▸ same

/-- A late resume lifts the caps of the CPUs that run its loop. -/
theorem lateResume_fullSpeed {processor : Fin n → Fin n}
    (ran : g.suspendAll env processor false = some after) (d : Fin n) :
    (after.cpu d).FullSpeed ↔ (g.cpu d).FullSpeed ∨
      (g.settings.sleepMaxFreq ≠ 0 ∧ ∃ i, env.online i = true ∧ processor i = d) := by
  have loop (cpus : List (Fin n)) (start : SmartassGovernor n)
      (settings : start.settings = g.settings)
      (ended : exec (fun g i =>
        if env.online i then g.smartassSuspend env (processor i) false else some g) start cpus =
          some after) :
      (after.cpu d).FullSpeed ↔ (start.cpu d).FullSpeed ∨ (g.settings.sleepMaxFreq ≠ 0 ∧
        ∃ i ∈ cpus, env.online i = true ∧ processor i = d) := by
    induction cpus generalizing start with
    | nil =>
        rw [exec_nil, Option.some.injEq] at ended
        simp only [ended, List.not_mem_nil, false_and, exists_false, and_false, or_false]
    | cons i rest ih =>
        obtain ⟨next, taken, ended⟩ := exec_cons_eq_some.mp ended
        simp only [List.mem_cons, exists_eq_or_imp]
        by_cases online : env.online i = true
        · rw [if_pos online] at taken
          rw [ih next ((smartassSuspend_frame taken).1.trans settings) ended,
            resume_fullSpeed taken d, settings]
          simp only [online, true_and, and_or_left, or_assoc]
        · rw [if_neg online] at taken
          rw [ih next (Option.some.inj taken ▸ settings) ended, ← Option.some.inj taken]
          simp only [online, false_and, false_or, Bool.false_eq_true]
  refine (loop (List.finRange n) { g with suspended := false } rfl ran).trans ?_
  simp only [List.mem_finRange, true_and]

/-- After any step no CPU of an awake device is capped exactly if the step lifts the caps. -/
theorem Uncapped.step {action : SmartassAction n} (sound : g.Sound) (uncapped : g.Uncapped)
    (taken : g.step action = some after) : after.Uncapped ↔ g.Lifts action := by
  obtain ⟨event, env⟩ := action
  obtain ⟨enabled, ran⟩ := step_eq_some.mp taken
  have routine (quiet : SmartassGovEvent.Routine event) : after.Uncapped :=
    uncapped.of_sameLife (handle_sameLife quiet ran)
  cases event with
  | lateResume processor =>
      have awake := suspendAll_suspended ran
      constructor
      · intro lifted c capped
        exact ((lateResume_fullSpeed ran c).mp (lifted awake c)).resolve_left capped
      · intro lifts _ c
        exact (lateResume_fullSpeed ran c).mpr (or_iff_not_imp_left.mpr (lifts c))
  | earlySuspend processor =>
      refine iff_of_true (fun awake => ?_) trivial
      exact Bool.noConfusion (awake.symm.trans (suspendAll_suspended ran))
  | start c policy rc =>
      exact iff_of_true (Option.some.inj ran ▸ uncapped.governorStart rc) trivial
  | limits c min max =>
      obtain ⟨policy, _, rfl⟩ := Option.map_eq_some_iff.mp ran
      exact iff_of_true (Uncapped.governorLimits fun awake d _ => uncapped awake d) trivial
  | stopDelTimer c => exact iff_of_true (Option.some.inj ran ▸ uncapped.setCpu id) trivial
  | stopDisable c =>
      refine iff_of_true (Option.some.inj ran ▸ uncapped.setCpu fun _ on => ?_) trivial
      exact Bool.noConfusion on
  | stopFinish c =>
      refine iff_of_true (Option.some.inj ran ▸ ?_) trivial
      have stopped : (g.setCpu c { g.cpu c with phase := .out }).Uncapped := uncapped.setCpu id
      simp only [stopFinish]
      split
      · exact stopped
      · exact stopped.setCpu id
  | outside c policy =>
      refine iff_of_true (Option.some.inj ran ▸ uncapped.setCpu fun _ on => ?_) trivial
      have phase := (sound.cpu c).enabled_iff.mp on
      rw [show (g.cpu c).phase = .out from enabled] at phase
      rcases phase with phase | phase <;> cases phase
  | timer c => exact iff_of_true (routine trivial) trivial
  | idleEnter c => exact iff_of_true (routine trivial) trivial
  | idleExit c => exact iff_of_true (routine trivial) trivial
  | work w => exact iff_of_true (routine trivial) trivial
  | store tunable input => exact iff_of_true (routine trivial) trivial
  | transition c cur => exact iff_of_true (routine trivial) trivial

/-- **The cap of several CPUs.** In every run from the start, no enabled CPU is capped while
the device is awake, exactly if every late resume that comes while a CPU is capped finds
`sleep_max_freq` nonzero and is run by each CPU that is capped. -/
theorem uncapped_iff (n : Nat) (actions : List (SmartassAction n)) :
    Along step (fun _ _ after => after.Uncapped) (init n) actions ↔
      Guarded step Lifts (init n) actions := by
  have initially : (init n).Sound ∧ (init n).Uncapped :=
    ⟨sound_init n, fun _ _ on => Bool.noConfusion on⟩
  refine along_iff (fun g => g.Sound ∧ g.Uncapped)
    (fun before action after ⟨sound, uncapped⟩ guard taken => ?_)
    (fun before action after ⟨sound, uncapped⟩ taken law => ?_) initially actions
  · obtain ⟨enabled, ran⟩ := step_eq_some.mp taken
    have lifted := (uncapped.step sound taken).mpr guard
    exact ⟨⟨sound.handle enabled ran, lifted⟩, lifted⟩
  · exact (uncapped.step sound taken).mp law

end SmartassGovernor

end Jordan.Cpufreq
