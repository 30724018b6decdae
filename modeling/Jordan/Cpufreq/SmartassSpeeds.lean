import Jordan.Cpufreq.SmartassHandoff

/-! # What the smartass governor requests

A CPU whose governor is enabled has a policy, and its speeds are within the limits of the
policy: `GOV_START` and `GOV_LIMITS` set both, and a suspend or a resume sets the speeds
again. The work function cuts its target off at the speeds, and the other handlers request
one of them. So whatever the tunables are and however the handlers interleave, a request
for an enabled CPU is within its policy. A timer, a bit in the mask, a thread and a CPU in
the idle hook all stem from a time at which the CPU was enabled, so that no handler meets a
null pointer (`Jordan.Cpufreq.SmartassGovernor.speeds_and_requests_within`).
-/

namespace Jordan.Cpufreq

open Execution

/-! ## The speeds of one update -/

namespace SmartassCpuInfo

variable {info : SmartassCpuInfo} {settings : SmartassSettings} {policy : CpufreqPolicy}

/-- The machine of one CPU that has these data. -/
def machine (info : SmartassCpuInfo) (settings : SmartassSettings) (suspended : Bool)
    (activeCount : Int) (capped : Bool) : Smartass where
  curPolicy := info.curPolicy
  enable := info.enable
  minSpeed := info.minSpeed
  maxSpeed := info.maxSpeed
  suspended := suspended
  sleepMaxFreq := settings.sleepMaxFreq
  sleepWakeupFreq := settings.sleepWakeupFreq
  awakeMinFreq := settings.awakeMinFreq
  activeCount := activeCount
  capped := capped

theorem updateMinMax_machine (suspended : Bool) (activeCount : Int) (capped suspend : Bool) :
    (info.updateMinMax settings policy suspend).machine settings suspended activeCount capped =
      (info.machine settings suspended activeCount capped).updateMinMax policy suspend := by
  cases suspend <;> rfl

/-- The speeds are within the limits of the policy. -/
def Within (info : SmartassCpuInfo) (policy : CpufreqPolicy) : Prop :=
  policy.min ≤ info.minSpeed ∧ info.minSpeed ≤ info.maxSpeed ∧ info.maxSpeed ≤ policy.max

theorem updateMinMax_within (ordered : policy.Ordered) (suspend : Bool) :
    (info.updateMinMax settings policy suspend).Within policy := by
  have same : (info.updateMinMax settings policy suspend).machine settings false 0 false =
      (info.machine settings false 0 false).updateMinMax policy suspend :=
    updateMinMax_machine ..
  have within := Smartass.updateMinMax_within (s := info.machine settings false 0 false) ordered
    suspend
  rw [← same] at within
  exact within

/-- A target that is cut off at the speeds is within the limits. -/
theorem Within.validateFreq (within : info.Within policy) (freq : U32) :
    policy.Contains (info.validateFreq freq) := by
  obtain ⟨low, between, high⟩ := within
  unfold CpufreqPolicy.Contains SmartassCpuInfo.validateFreq
  split_ifs <;> constructor <;> bv_omega

theorem Within.contains_maxSpeed (within : info.Within policy) :
    policy.Contains info.maxSpeed :=
  ⟨BitVec.le_trans within.1 within.2.1, within.2.2⟩

theorem Within.ordered (within : info.Within policy) : policy.Ordered :=
  BitVec.le_trans within.contains_maxSpeed.1 within.2.2

end SmartassCpuInfo

/-- What the timer leaves of the data that others read. -/
theorem SmartassInfo.timerFunction_maxSpeed (info : SmartassInfo) (tunables : SmartassTunables)
    (env : KernelEnv) (policy : CpufreqPolicy) (reading : CpuReading) :
    (info.timerFunction tunables env policy reading).1.maxSpeed = info.maxSpeed := by
  simp only [timerFunction]
  split_ifs <;> rfl

/-! ## The invariant -/

/-- An enabled CPU has speeds within its policy. A timer that is pending, and an idle hook
that was entered while the governor was enabled, find a policy. -/
structure SmartassCpuState.Sound (s : SmartassCpuState) : Prop where
  enabled_iff : s.info.enable = true ↔ s.phase = .started ∨ s.phase = .deleted
  within : s.info.enable = true → ∃ policy ∈ s.info.curPolicy, s.info.Within policy
  pending : s.info.timer ≠ none → s.info.curPolicy.isSome = true
  inside : s.hook = some true → s.info.curPolicy.isSome = true

/-- The CPUs that a thread has still to serve. -/
def SmartassWork.cpus {n : Nat} : SmartassWork n → List (Fin n)
  | .resting => []
  | .looping todo => todo
  | .loaded c _ _ todo => c :: todo
  | .driven c todo => c :: todo

namespace SmartassGovernor

variable {n : Nat} {g after : SmartassGovernor n} {env : Env n} {c : Fin n}
  {w : SmartassThread n} {policy : CpufreqPolicy}

/-- The bit of the CPU is set, or a thread has the CPU in its copy. -/
def Claimed (g : SmartassGovernor n) (c : Fin n) : Prop :=
  c ∈ g.workCpumask ∨ ∃ w, c ∈ (g.thread w).cpus

/-- The CPUs are sound, a CPU that is to be served has a policy, and the requests for enabled
CPUs are within the policy they were made with. -/
structure Sound (g : SmartassGovernor n) : Prop where
  cpu (c : Fin n) : (g.cpu c).Sound
  claimed (c : Fin n) : g.Claimed c → (g.cpu c).info.curPolicy.isSome = true
  requests : ∀ request ∈ g.requests, request.enabled = true →
    request.request.policy.Contains request.request.target

/-- Before the first event the governor is sound. -/
theorem sound_init (n : Nat) : (init n).Sound where
  cpu _ :=
    { enabled_iff :=
        ⟨Bool.noConfusion, fun phase => by rcases phase with phase | phase <;> cases phase⟩
      within := Bool.noConfusion
      pending := fun pending => absurd rfl pending
      inside := fun inside => absurd inside.symm (Option.some_ne_none true) }
  claimed c claimed := by
    rcases claimed with marked | ⟨w, copied⟩
    · exact absurd marked (Finset.notMem_empty c)
    · cases copied
  requests _ member := by cases member

/-- A CPU that is sound on its own may be replaced, if its policy is not taken away. -/
theorem Sound.setCpu (sound : g.Sound) {s : SmartassCpuState} (here : s.Sound)
    (kept : (g.cpu c).info.curPolicy.isSome = true → s.info.curPolicy.isSome = true) :
    (g.setCpu c s).Sound where
  cpu d := by
    by_cases same : d = c
    · subst same
      simpa only [SmartassGovernor.setCpu, Function.update_self] using here
    · simpa only [SmartassGovernor.setCpu, Function.update_of_ne same] using sound.cpu d
  claimed d claimed := by
    by_cases same : d = c
    · subst same
      simpa only [SmartassGovernor.setCpu, Function.update_self] using
        kept (sound.claimed d claimed)
    · simpa only [SmartassGovernor.setCpu, Function.update_of_ne same] using
        sound.claimed d claimed
  requests := sound.requests

/-- The driver sets the frequency of a CPU. -/
theorem Sound.driverTarget (sound : g.Sound) {env : KernelEnv} {target : U32}
    {relation : Relation} (current : (g.cpu c).info.curPolicy = some policy)
    (fits : (g.cpu c).info.enable = true → policy.Contains target) :
    (g.driverTarget env c policy target relation).Sound := by
  have old := sound.cpu c
  have asked : ({ g with requests := g.requests ++
      [⟨c, (g.cpu c).info.enable, ⟨target, relation, policy⟩⟩] } : SmartassGovernor n).Sound :=
    { sound with
      requests := fun request member enabled => by
        rcases List.mem_append.mp member with before | new
        · exact sound.requests request before enabled
        · obtain rfl := List.mem_singleton.mp new
          exact fits enabled }
  refine asked.setCpu ?_ fun _ => rfl
  refine ⟨old.enabled_iff, fun enabled => ?_, fun _ => rfl, fun _ => rfl⟩
  obtain ⟨held, same, within⟩ := old.within enabled
  obtain rfl := Option.some.inj (current.symm.trans same)
  exact ⟨_, rfl, within⟩

/-- The mask and the threads change, and no CPU without a policy is to be served. -/
theorem Sound.reclaim (sound : g.Sound) (cpu : after.cpu = g.cpu)
    (requests : after.requests = g.requests)
    (claimed : ∀ c, after.Claimed c → (g.cpu c).info.curPolicy.isSome = true) : after.Sound where
  cpu := cpu ▸ sound.cpu
  claimed := cpu ▸ claimed
  requests := requests ▸ sound.requests

/-! ## The timer and the idle hook -/

theorem Sound.queueWork (sound : g.Sound) (queue : SmartassQueue)
    (pointed : (g.cpu c).info.curPolicy.isSome = true) : (g.queueWork queue c).Sound := by
  refine sound.reclaim rfl rfl fun d claimed => ?_
  rcases claimed with marked | copied
  · rcases Finset.mem_insert.mp marked with rfl | before
    · exact pointed
    · exact sound.claimed d (.inl before)
  · exact sound.claimed d (.inr copied)

/-- A timer keeps the governor sound. -/
theorem Sound.timer (sound : g.Sound) (ran : g.cpufreqSmartassTimer env c = some after) :
    after.Sound := by
  obtain ⟨policy, current, rfl⟩ := Option.map_eq_some_iff.mp ran
  have old := sound.cpu c
  have speed := SmartassInfo.timerFunction_maxSpeed
    { (g.cpu c).info.toSmartassInfo with timer := none } g.settings.timer env.toKernelEnv policy
    (env.reading c)
  generalize { (g.cpu c).info.toSmartassInfo with timer := none }.timerFunction g.settings.timer
    env.toKernelEnv policy (env.reading c) = sampled at speed
  have pointed : (g.cpu c).info.curPolicy.isSome = true := by rw [current]; rfl
  have left : (g.setInfo c { (g.cpu c).info with toSmartassInfo := sampled.1 }).Sound := by
    refine sound.setCpu ⟨old.enabled_iff, fun enabled => ?_, fun _ => pointed, fun _ => pointed⟩ id
    obtain ⟨held, same, within⟩ := old.within enabled
    refine ⟨held, same, ?_⟩
    simpa only [SmartassCpuInfo.Within, speed] using within
  obtain ⟨info, queue⟩ := sampled
  cases queue with
  | none => exact left
  | some queue =>
      refine left.queueWork queue ?_
      simpa only [setInfo, SmartassGovernor.setCpu, Function.update_self] using pointed

/-- The begin of an idle period keeps the governor sound. -/
theorem Sound.idleEnter (sound : g.Sound) (ran : g.cpufreqIdleEnter c = some after) :
    after.Sound := by
  have old := sound.cpu c
  simp only [cpufreqIdleEnter] at ran
  by_cases enabled : (g.cpu c).info.enable = true
  · rw [if_pos enabled] at ran
    obtain ⟨policy, current, rfl⟩ := Option.map_eq_some_iff.mp ran
    have pointed : (g.cpu c).info.curPolicy.isSome = true := by rw [current]; rfl
    by_cases lowest : policy.cur = (g.cpu c).info.minSpeed
    · simp only [if_pos lowest]
      exact sound.setCpu ⟨old.enabled_iff, old.within, fun _ => pointed, fun _ => pointed⟩ id
    · simp only [if_neg lowest]
      exact sound.setCpu ⟨old.enabled_iff, old.within, fun _ => pointed, fun _ => pointed⟩ id
  · rw [if_neg enabled] at ran
    obtain rfl := Option.some.inj ran
    refine sound.setCpu ⟨old.enabled_iff, old.within, old.pending, fun inside => ?_⟩ id
    cases inside

/-- The end of an idle period keeps the governor sound. -/
theorem Sound.idleExit (sound : g.Sound) {entered : Bool}
    (inside : (g.cpu c).hook = some entered) : (g.cpufreqIdleExit env c entered).Sound := by
  have old := sound.cpu c
  have outside (hook : (none : Option Bool) = some true) (pointed : Prop) : pointed := by
    cases hook
  simp only [cpufreqIdleExit]
  by_cases arms : entered = true ∧ (g.cpu c).info.timer = none
  · rw [if_pos arms]
    have pointed := old.inside (arms.1 ▸ inside)
    exact sound.setCpu ⟨old.enabled_iff, old.within, fun _ => pointed, fun _ => pointed⟩ id
  · rw [if_neg arms]
    exact sound.setCpu ⟨old.enabled_iff, old.within, old.pending, fun hook => outside hook _⟩ id

/-! ## The work function -/

/-- A thread that goes on with CPUs already claimed keeps the governor sound. -/
theorem Sound.setThread (sound : g.Sound) {work : SmartassWork n}
    (copied : ∀ d ∈ work.cpus, g.Claimed d) : (g.setThread w work).Sound := by
  refine sound.reclaim rfl rfl fun d claimed => sound.claimed d ?_
  rcases claimed with marked | ⟨v, member⟩
  · exact .inl marked
  · by_cases same : v = w
    · subst same
      simp only [SmartassGovernor.setThread, Function.update_self] at member
      exact copied d member
    · simp only [SmartassGovernor.setThread, Function.update_of_ne same] at member
      exact .inr ⟨v, member⟩

theorem Sound.workBegin (sound : g.Sound) (w : SmartassThread n) : (g.workBegin w).Sound := by
  have begun : ({ g with workQueued := none } : SmartassGovernor n).Sound :=
    sound.reclaim rfl rfl sound.claimed
  refine begun.setThread fun d copied => .inl ?_
  exact of_decide_eq_true (List.mem_filter.mp copied).2

/-- A thread that reads a load keeps the governor sound. -/
theorem Sound.workLoad (sound : g.Sound) {todo : List (Fin n)}
    (current : g.thread w = .looping (c :: todo)) : (g.workLoad env w c todo).Sound := by
  have old := sound.cpu c
  have taken : (g.setInfo c { (g.cpu c).info with forceRampUp := false }).Sound :=
    sound.setCpu ⟨old.enabled_iff, old.within, old.pending, old.inside⟩ id
  have read : ({ g.setInfo c { (g.cpu c).info with forceRampUp := false } with
      asked := g.asked.erase c } : SmartassGovernor n).Sound :=
    taken.reclaim rfl rfl taken.claimed
  refine read.setThread fun d copied => .inr ⟨w, ?_⟩
  show d ∈ (g.thread w).cpus
  rw [current]
  exact copied

/-- A thread that calls the driver keeps the governor sound: the request is validated. -/
theorem Sound.workDrive (sound : g.Sound) {load : U32} {force : Bool} {todo : List (Fin n)}
    (current : g.thread w = .loaded c load force todo)
    (ran : g.workDrive env w c load force todo = some after) : after.Sound := by
  obtain ⟨policy, pointed, rfl⟩ := Option.map_eq_some_iff.mp ran
  have driven : (g.driverTarget env.toKernelEnv c policy ((g.cpu c).info.validateFreq
      (g.settings.rampFreq policy.cur (g.cpu c).info.maxSpeed load force)) .L).Sound := by
    refine sound.driverTarget pointed fun enabled => ?_
    obtain ⟨held, same, within⟩ := (sound.cpu c).within enabled
    obtain rfl := Option.some.inj (pointed.symm.trans same)
    exact within.validateFreq _
  have old := driven.cpu c
  apply Sound.setThread
  · exact driven.setCpu ⟨old.enabled_iff, old.within, old.pending, old.inside⟩ id
  · intro d copied
    refine .inr ⟨w, ?_⟩
    show d ∈ (g.thread w).cpus
    rw [current]
    exact copied

theorem Sound.workClear (sound : g.Sound) {todo : List (Fin n)}
    (current : g.thread w = .driven c todo) : (g.workClear w c todo).Sound := by
  have rest (d : Fin n) (copied : d ∈ todo) : g.Claimed d := by
    refine .inr ⟨w, ?_⟩
    rw [current]
    exact .tail c copied
  have looping : (g.setThread w (.looping todo)).Sound := sound.setThread rest
  refine looping.reclaim rfl rfl fun d claimed => looping.claimed d (claimed.imp_left ?_)
  exact Finset.mem_of_mem_erase

/-- Every step of a thread keeps the governor sound. -/
theorem Sound.workStep (sound : g.Sound) (ran : g.workStep env w = some after) :
    after.Sound := by
  unfold SmartassGovernor.workStep at ran
  cases current : g.thread w with
  | resting =>
      rw [current] at ran
      exact Option.some.inj ran ▸ sound.workBegin w
  | looping todo =>
      rw [current] at ran
      cases todo with
      | nil => exact Option.some.inj ran ▸ sound.setThread fun d copied => by cases copied
      | cons c todo => exact Option.some.inj ran ▸ sound.workLoad current
  | loaded c load force todo =>
      rw [current] at ran
      exact sound.workDrive current ran
  | driven c todo =>
      rw [current] at ran
      exact Option.some.inj ran ▸ sound.workClear current

/-- The machine of a CPU of the governor. -/
def machine (g : SmartassGovernor n) (c : Fin n) (capped : Bool) : SmartassCpu where
  toSmartass := (g.cpu c).info.machine g.settings g.suspended g.activeCount capped
  curCpuLoad := (g.cpu c).info.curCpuLoad
  forceRampUp := (g.cpu c).info.forceRampUp
  freqChangeTime := (g.cpu c).info.freqChangeTime
  freqChangeTimeInIdle := (g.cpu c).info.freqChangeTimeInIdle

theorem step_work (busy : g.thread w ≠ .resting) :
    g.step ⟨.work w, env⟩ = g.workStep env w :=
  if_pos fun resting => absurd resting busy

/-- A turn of a thread that nothing interrupts is a turn of the machine of the CPU. -/
theorem exec_turn {todo : List (Fin n)} (current : g.thread w = .looping (c :: todo))
    (pointed : (g.cpu c).info.curPolicy = some policy) (env : Env n) (capped : Bool) :
    ∃ after request,
      exec step g [⟨.work w, env⟩, ⟨.work w, env⟩, ⟨.work w, env⟩] = some after ∧
      (g.machine c capped).freqChangeTimeWork g.settings.toSmartassRampTunables env.toKernelEnv
        (env.reading c) = some (after.machine c capped, request) ∧
      after.requests = g.requests ++ [⟨c, (g.cpu c).info.enable, request⟩] := by
  have loaded : (g.workLoad env w c todo).thread w = .loaded c (g.cpu c).info.curCpuLoad
      ((g.cpu c).info.forceRampUp && decide (1 < env.nrRunning)) todo := by
    simp only [SmartassGovernor.workLoad, SmartassGovernor.setThread, Function.update_self]
  have taken : ((g.workLoad env w c todo).cpu c).info =
      { (g.cpu c).info with forceRampUp := false } := by
    simp only [SmartassGovernor.workLoad, SmartassGovernor.setThread, setInfo,
      SmartassGovernor.setCpu, Function.update_self]
  have still : ((g.workLoad env w c todo).cpu c).info.curPolicy = some policy := by
    rw [taken]
    exact pointed
  have first : g.step ⟨.work w, env⟩ = some (g.workLoad env w c todo) := by
    rw [step_work (by simp only [current, ne_eq, reduceCtorEq, not_false_eq_true]),
      SmartassGovernor.workStep, current]
  obtain ⟨driven, drove⟩ := Option.isSome_iff_exists.mp
    (show ((g.workLoad env w c todo).workStep env w).isSome = true by
      rw [SmartassGovernor.workStep, loaded]
      exact Option.isSome_map.trans (still ▸ rfl))
  have second : (g.workLoad env w c todo).step ⟨.work w, env⟩ = some driven := by
    rw [step_work (by simp only [loaded, ne_eq, reduceCtorEq, not_false_eq_true])]
    exact drove
  rw [SmartassGovernor.workStep, loaded] at drove
  simp only [SmartassGovernor.workDrive, still, Option.map_some, Option.some.injEq] at drove
  have waits : driven.thread w = .driven c todo := by
    simp only [← drove, SmartassGovernor.setThread, Function.update_self]
  have third : driven.step ⟨.work w, env⟩ = some (driven.workClear w c todo) := by
    rw [step_work (by simp only [waits, ne_eq, reduceCtorEq, not_false_eq_true]),
      SmartassGovernor.workStep, waits]
  refine ⟨driven.workClear w c todo, ⟨(g.cpu c).info.validateFreq
    (g.settings.rampFreq policy.cur (g.cpu c).info.maxSpeed (g.cpu c).info.curCpuLoad
      ((g.cpu c).info.forceRampUp && decide (1 < env.nrRunning))), .L, policy⟩, ?_, ?_, ?_⟩
  · simp only [exec_cons, first, second, third, Option.bind_some, exec_nil]
  · simp only [SmartassCpu.freqChangeTimeWork, machine, SmartassCpuInfo.machine, pointed,
      Option.map_some, ← drove]
    simp only [SmartassGovernor.workClear, SmartassGovernor.setThread, setInfo,
      SmartassGovernor.setCpu, SmartassGovernor.driverTarget, SmartassGovernor.workLoad,
      Function.update_self, Function.update_idem]
    rfl
  · simp only [← drove, SmartassGovernor.workClear, SmartassGovernor.setThread, setInfo,
      SmartassGovernor.setCpu, SmartassGovernor.driverTarget, SmartassGovernor.workLoad,
      Function.update_self]
    rfl

/-! ## Governor events -/

/-- The limits are set for a CPU that is enabled, whatever its speeds were. -/
theorem Sound.governorLimits {env : KernelEnv} {s : SmartassCpuState} (sound : g.Sound)
    (enabled : s.info.enable = true) (phase : s.phase = .started ∨ s.phase = .deleted)
    (ordered : policy.Ordered) : ((g.setCpu c s).governorLimits env c policy).Sound := by
  have within : SmartassCpuInfo.Within { s.info.updateMinMax g.settings policy g.suspended with
      curPolicy := some policy } policy :=
    SmartassCpuInfo.updateMinMax_within ordered g.suspended
  have still : (s.info.updateMinMax g.settings policy g.suspended).enable = s.info.enable := by
    cases g.suspended <;> rfl
  have updated : (g.setCpu c { s with info :=
      { s.info.updateMinMax g.settings policy g.suspended with
        curPolicy := some policy } }).Sound :=
    sound.setCpu ⟨iff_of_true (still.trans enabled) phase, fun _ => ⟨policy, rfl, within⟩,
      fun _ => rfl, fun _ => rfl⟩ fun _ => rfl
  have same : (g.setCpu c s).setInfo c { s.info.updateMinMax g.settings policy g.suspended with
      curPolicy := some policy } = g.setCpu c { s with info :=
      { s.info.updateMinMax g.settings policy g.suspended with curPolicy := some policy } } := by
    simp only [setInfo, SmartassGovernor.setCpu, Function.update_idem, Function.update_self]
  simp only [SmartassGovernor.governorLimits]
  have here : ((g.setCpu c s).cpu c).info = s.info := by
    simp only [SmartassGovernor.setCpu, Function.update_self]
  have settings : (g.setCpu c s).settings = g.settings := rfl
  have suspended : (g.setCpu c s).suspended = g.suspended := rfl
  rw [here, settings, suspended, same]
  split
  · refine updated.driverTarget ?_ fun _ => within.contains_maxSpeed
    simp only [SmartassGovernor.setCpu, Function.update_self]
  · exact updated

/-- A start keeps the governor sound, if its policy is in order. -/
theorem Sound.governorStart (sound : g.Sound) (ordered : policy.Ordered) (rc : Option Errno) :
    (g.governorStart env c policy rc).1.Sound := by
  simp only [SmartassGovernor.governorStart]
  by_cases refused : env.online c = false ∨ policy.cur = 0
  · rw [if_pos refused]
    exact sound
  · rw [if_neg refused]
    have counted : ({ g with activeCount := g.activeCount + 1 } : SmartassGovernor n).Sound :=
      sound.reclaim rfl rfl sound.claimed
    by_cases first : g.activeCount + 1 ≤ 1
    · rw [if_pos first]
      cases rc with
      | some errno => exact counted
      | none =>
          have hooked : ({ g with
              activeCount := g.activeCount + 1
              pmIdleOld := g.pmIdle
              pmIdle := some .cpufreqIdle } : SmartassGovernor n).Sound :=
            sound.reclaim rfl rfl sound.claimed
          exact hooked.governorLimits rfl (.inl rfl) ordered
    · rw [if_neg first]
      exact counted.governorLimits rfl (.inl rfl) ordered

theorem Sound.limits (sound : g.Sound) {min max : U32} (started : (g.cpu c).phase = .started)
    (ordered : min ≤ max) (policy : CpufreqPolicy) {env : KernelEnv} :
    (g.governorLimits env c { policy with min := min, max := max }).Sound := by
  have same : g.setCpu c (g.cpu c) = g := by
    simp only [SmartassGovernor.setCpu, Function.update_eq_self]
  have limited : ((g.setCpu c (g.cpu c)).governorLimits env c
      { policy with min := min, max := max }).Sound :=
    sound.governorLimits ((sound.cpu c).enabled_iff.mpr (.inl started)) (.inl started) ordered
  rwa [same] at limited

theorem Sound.stopDelTimer (sound : g.Sound) (started : (g.cpu c).phase = .started) :
    (g.setCpu c { g.cpu c with
      info := { (g.cpu c).info with timer := none }, phase := .deleted }).Sound := by
  have old := sound.cpu c
  refine sound.setCpu ⟨?_, old.within, fun pending => absurd rfl pending, old.inside⟩ id
  exact iff_of_true (old.enabled_iff.mpr (.inl started)) (.inr rfl)

theorem Sound.stopDisable (sound : g.Sound) :
    (g.setCpu c { g.cpu c with
      info := { (g.cpu c).info with enable := false }, phase := .disabled }).Sound := by
  have old := sound.cpu c
  refine sound.setCpu ⟨?_, fun enabled => Bool.noConfusion enabled, old.pending, old.inside⟩ id
  refine iff_of_false Bool.false_ne_true fun phase => ?_
  rcases phase with phase | phase <;> cases phase

/-- The end of `CPUFREQ_GOV_STOP` keeps the governor sound. -/
theorem Sound.stopFinish (sound : g.Sound) (disabled : (g.cpu c).phase = .disabled) :
    (g.stopFinish c).Sound := by
  have old := sound.cpu c
  have off : ¬ (g.cpu c).info.enable = true := by
    rw [old.enabled_iff, disabled]
    rintro (phase | phase) <;> cases phase
  have never (phase : SmartassPhase.out = .started ∨ SmartassPhase.out = .deleted) : False := by
    rcases phase with phase | phase <;> cases phase
  have stopped : (g.setCpu c { g.cpu c with phase := .out }).Sound :=
    sound.setCpu ⟨iff_of_false off never, old.within, old.pending, old.inside⟩ id
  have counted : ({ g.setCpu c { g.cpu c with phase := .out } with
      activeCount := g.activeCount - 1 } : SmartassGovernor n).Sound :=
    stopped.reclaim rfl rfl stopped.claimed
  simp only [SmartassGovernor.stopFinish]
  split
  · exact counted
  · have here := counted.cpu c
    have removed := counted.setCpu (c := c) (s := { (g.setCpu c
        { g.cpu c with phase := .out }).cpu c with group := false })
      ⟨here.enabled_iff, here.within, here.pending, here.inside⟩ id
    exact removed.reclaim rfl rfl removed.claimed

/-! ## Suspend and resume -/

/-- The suspend of one CPU keeps the governor sound. -/
theorem Sound.suspend (sound : g.Sound) {current : Fin n} {suspend : Bool}
    (ran : g.smartassSuspend env current suspend = some after) : after.Sound := by
  have old := sound.cpu current
  simp only [smartassSuspend] at ran
  by_cases ignored : (g.cpu current).info.enable = false ∨ g.settings.sleepMaxFreq = 0
  · rw [if_pos ignored] at ran
    exact Option.some.inj ran ▸ sound
  · rw [if_neg ignored] at ran
    obtain ⟨policy, pointed, rfl⟩ := Option.map_eq_some_iff.mp ran
    have enabled : (g.cpu current).info.enable = true :=
      Bool.eq_true_of_not_eq_false (not_or.mp ignored).1
    obtain ⟨held, same, before⟩ := old.within enabled
    obtain rfl := Option.some.inj (pointed.symm.trans same)
    have within : ((g.cpu current).info.updateMinMax g.settings policy suspend).Within policy :=
      SmartassCpuInfo.updateMinMax_within before.ordered suspend
    have kept : ((g.cpu current).info.updateMinMax g.settings policy suspend).curPolicy =
          (g.cpu current).info.curPolicy ∧
        ((g.cpu current).info.updateMinMax g.settings policy suspend).enable =
          (g.cpu current).info.enable := by
      cases suspend <;> exact ⟨rfl, rfl⟩
    have still := kept.1.trans pointed
    have isSome : ((g.cpu current).info.updateMinMax g.settings policy suspend).curPolicy.isSome =
        true := by rw [still]; rfl
    have limited : (g.setInfo current
        ((g.cpu current).info.updateMinMax g.settings policy suspend)).Sound := by
      refine sound.setCpu ⟨?_, fun _ => ⟨policy, still, within⟩, fun _ => isSome,
        fun _ => isSome⟩ fun _ => isSome
      exact iff_of_true (kept.2.trans enabled) (old.enabled_iff.mp enabled)
    have there : ((g.setInfo current ((g.cpu current).info.updateMinMax g.settings policy
        suspend)).cpu current).info =
        (g.cpu current).info.updateMinMax g.settings policy suspend := by
      simp only [setInfo, SmartassGovernor.setCpu, Function.update_self]
    cases suspend with
    | true =>
        rw [if_pos rfl]
        split
        · exact limited.driverTarget ((congrArg SmartassCpuInfo.curPolicy there).trans still)
            fun _ => within.contains_maxSpeed
        · exact limited
    | false =>
        exact limited.driverTarget ((congrArg SmartassCpuInfo.curPolicy there).trans still)
          fun _ => within.validateFreq _

theorem Sound.suspendAll (sound : g.Sound) {processor : Fin n → Fin n} {suspend : Bool}
    (ran : g.suspendAll env processor suspend = some after) : after.Sound := by
  have begun : ({ g with suspended := suspend } : SmartassGovernor n).Sound :=
    sound.reclaim rfl rfl sound.claimed
  refine invariant_of_step Sound (fun before i left sound taken => ?_) begun ran
  by_cases online : env.online i = true
  · rw [if_pos online] at taken
    exact sound.suspend taken
  · rw [if_neg online] at taken
    exact Option.some.inj taken ▸ sound

/-! ## Changes from outside -/

/-- A policy that changes under the governor keeps it sound, but for the limits of enabled CPUs.
-/
theorem Sound.changePolicy (sound : g.Sound) {change : CpufreqPolicy → CpufreqPolicy}
    (limits : (g.cpu c).info.enable = true →
      ∀ policy ∈ (g.cpu c).info.curPolicy, (change policy).limits = policy.limits) :
    (g.changePolicy c change).Sound := by
  have old := sound.cpu c
  have pointed (before : (g.cpu c).info.curPolicy.isSome = true) :
      ((g.cpu c).info.curPolicy.map change).isSome = true :=
    Option.isSome_map.trans before
  refine sound.setCpu ⟨old.enabled_iff, fun enabled => ?_, fun pending =>
    pointed (old.pending pending), fun inside => pointed (old.inside inside)⟩ pointed
  obtain ⟨policy, current, within⟩ := old.within enabled
  obtain ⟨low, high⟩ := Prod.mk.inj (limits enabled policy current)
  refine ⟨change policy, congrArg (Option.map change) current, ?_⟩
  unfold SmartassCpuInfo.Within at within ⊢
  rwa [low, high]

/-! ## Runs -/

/-- Every event that can come keeps the governor sound. -/
theorem Sound.handle {event : SmartassGovEvent n} (sound : g.Sound) (enabled : g.Enabled env event)
    (ran : g.handle env event = some after) : after.Sound := by
  cases event with
  | timer c => exact sound.timer ran
  | idleEnter c => exact sound.idleEnter ran
  | idleExit c =>
      obtain ⟨entered, inside, rfl⟩ := Option.map_eq_some_iff.mp ran
      exact sound.idleExit inside
  | work w => exact sound.workStep ran
  | start c policy rc => exact Option.some.inj ran ▸ sound.governorStart enabled.2 rc
  | limits c min max =>
      obtain ⟨policy, _, rfl⟩ := Option.map_eq_some_iff.mp ran
      exact sound.limits enabled.1 enabled.2 policy
  | stopDelTimer c => exact Option.some.inj ran ▸ sound.stopDelTimer enabled
  | stopDisable c => exact Option.some.inj ran ▸ sound.stopDisable
  | stopFinish c => exact Option.some.inj ran ▸ sound.stopFinish enabled
  | earlySuspend processor => exact sound.suspendAll ran
  | lateResume processor => exact sound.suspendAll ran
  | store tunable input => exact Option.some.inj ran ▸ sound.reclaim rfl rfl sound.claimed
  | transition c cur => exact Option.some.inj ran ▸ sound.changePolicy fun _ _ _ => rfl
  | outside c policy =>
      refine Option.some.inj ran ▸ sound.changePolicy fun on => ?_
      have phase := (sound.cpu c).enabled_iff.mp on
      rw [show (g.cpu c).phase = .out from enabled] at phase
      rcases phase with phase | phase <;> cases phase

theorem smartassSuspend_isSome (sound : g.Sound) (env : Env n) (current : Fin n)
    (suspend : Bool) : (g.smartassSuspend env current suspend).isSome = true := by
  simp only [smartassSuspend]
  by_cases ignored : (g.cpu current).info.enable = false ∨ g.settings.sleepMaxFreq = 0
  · rw [if_pos ignored]
    rfl
  · rw [if_neg ignored, Option.isSome_map]
    obtain ⟨policy, pointed, _⟩ :=
      (sound.cpu current).within (Bool.eq_true_of_not_eq_false (not_or.mp ignored).1)
    exact Option.isSome_of_mem pointed

/-- In a sound governor the suspend of all CPUs follows no null pointer. -/
theorem suspendAll_isSome (sound : g.Sound) (env : Env n) (processor : Fin n → Fin n)
    (suspend : Bool) : (g.suspendAll env processor suspend).isSome = true := by
  have begun : ({ g with suspended := suspend } : SmartassGovernor n).Sound :=
    sound.reclaim rfl rfl sound.claimed
  unfold suspendAll
  generalize ({ g with suspended := suspend } : SmartassGovernor n) = start at begun
  induction List.finRange n generalizing start with
  | nil => rfl
  | cons i rest ih =>
      rw [exec_cons]
      by_cases online : env.online i = true
      · rw [if_pos online]
        obtain ⟨next, taken⟩ :=
          Option.isSome_iff_exists.mp (smartassSuspend_isSome begun env (processor i) suspend)
        rw [taken]
        exact ih next (begun.suspend taken)
      · rw [if_neg online]
        exact ih start begun

/-- In a sound state no handler follows a null pointer. -/
theorem Sound.handle_isSome {event : SmartassGovEvent n} (sound : g.Sound)
    (enabled : g.Enabled env event) : (g.handle env event).isSome = true := by
  cases event with
  | timer c =>
      obtain ⟨expiry, pending, _⟩ := enabled
      refine Option.isSome_map.trans ((sound.cpu c).pending fun none => ?_)
      exact absurd (none.symm.trans pending) (Option.some_ne_none expiry).symm
  | idleEnter c =>
      simp only [SmartassGovernor.handle, cpufreqIdleEnter]
      by_cases on : (g.cpu c).info.enable = true
      · obtain ⟨policy, pointed, _⟩ := (sound.cpu c).within on
        rw [if_pos on, Option.isSome_map]
        exact Option.isSome_of_mem pointed
      · rw [if_neg on]
        rfl
  | idleExit c => exact Option.isSome_map.trans (Option.isSome_iff_ne_none.mpr enabled)
  | work w =>
      simp only [SmartassGovernor.handle, SmartassGovernor.workStep]
      cases current : g.thread w with
      | resting => rfl
      | looping todo => cases todo <;> rfl
      | loaded c load force todo =>
          refine Option.isSome_map.trans (sound.claimed c (.inr ⟨w, ?_⟩))
          rw [current]
          exact List.mem_cons_self
      | driven c todo => rfl
  | limits c min max =>
      obtain ⟨policy, pointed, _⟩ :=
        (sound.cpu c).within ((sound.cpu c).enabled_iff.mpr (.inl enabled.1))
      exact Option.isSome_map.trans (Option.isSome_of_mem pointed)
  | earlySuspend processor => exact suspendAll_isSome sound env processor true
  | lateResume processor => exact suspendAll_isSome sound env processor false
  | start c policy rc | stopDelTimer c | stopDisable c | stopFinish c | store tunable input
  | transition c cur | outside c policy => rfl

theorem sound_of_reached {actions : List (SmartassAction n)}
    (reached : exec step (init n) actions = some g) : g.Sound := by
  refine invariant_of_step Sound (fun before action after sound taken => ?_) (sound_init n)
    reached
  obtain ⟨enabled, ran⟩ := step_eq_some.mp taken
  exact sound.handle enabled ran

/-- **Requests within the policy.** After every run from the start, the speeds of an enabled
CPU are within its policy, all requests for CPUs that were enabled at the time were within
the policy, and every event that can happen is handled without a null pointer. -/
theorem speeds_and_requests_within {actions : List (SmartassAction n)}
    (reached : exec step (init n) actions = some g) :
    (∀ c, (g.cpu c).info.enable = true →
        ∃ policy ∈ (g.cpu c).info.curPolicy, (g.cpu c).info.Within policy) ∧
      (∀ request ∈ g.requests, request.enabled = true →
        request.request.policy.Contains request.request.target) ∧
      ∀ action, g.Enabled action.env action.event → (g.step action).isSome = true := by
  have sound := sound_of_reached reached
  refine ⟨fun c => (sound.cpu c).within, sound.requests, fun action enabled => ?_⟩
  rw [step, if_pos enabled]
  exact sound.handle_isSome enabled

/-- The ramp down of a CPU that is busy again. -/
theorem busyAgain_requests :
    ∃ g : SmartassGovernor 1, exec step (init 1) busyAgain = some g ∧
      (∀ request ∈ g.requests, request.enabled = true →
        request.request.policy.Contains request.request.target) ∧
      g.requests.map (fun request => request.request.target) = [300000] ∧
      (g.cpu Governor.onlyCpu).info.enable = true := by
  have reached : exec step (init 1) busyAgain = some _ :=
    (Option.some_get (by decide +kernel)).symm
  exact ⟨_, reached, (speeds_and_requests_within reached).2.1, by decide +kernel, by decide +kernel⟩

end SmartassGovernor

end Jordan.Cpufreq
