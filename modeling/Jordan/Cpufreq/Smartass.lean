import Jordan.Cpufreq.BoostedInfo
import Jordan.Library.Execution

/-! # The speeds of the smartass governor

`cpufreq_smartass.c` keeps the CPU between `min_speed` and `max_speed`. While the
device is suspended, `max_speed` is capped by `sleep_max_freq`, where 0 disables
the behaviour; a late resume lifts the cap.

The suspend handlers do nothing when `sleep_max_freq` is 0, so that a cap is not
lifted when it becomes 0 meanwhile; and `GOV_LIMITS` looks at `suspended` only,
so that it caps with 0 when the behaviour is disabled
(`Jordan.Cpufreq.Smartass.capLifted_iff`).
-/

namespace Jordan.Cpufreq

open Execution

/-- The limits the core gives a policy; it keeps them in order. -/
structure PolicyLimits where
  min : U32
  max : U32
  ordered : min ≤ max

/-- The tunables and the data of the governor on one CPU. A null pointer is
`none`. -/
structure Smartass where
  curPolicy : Option CpufreqPolicy
  enable : Bool
  minSpeed : U32
  maxSpeed : U32
  suspended : Bool
  sleepMaxFreq : U32
  sleepWakeupFreq : U32
  awakeMinFreq : U32
  activeCount : Int
  /-- History variable: `sleep_max_freq` has been nonzero since the governor started. -/
  capped : Bool

/-- What can happen. `start` carries the result of `sysfs_create_group`, and
`work` the frequency that the work item has had the driver set. -/
inductive SmartassEvent where
  | start (limits : PolicyLimits) (cur : U32) (online : Bool) (rc : Option Errno)
  | limits (limits : PolicyLimits)
  | stop
  | earlySuspend
  | lateResume
  | storeSleepMaxFreq (input : U32)
  | work (cur : U32)

namespace Smartass

/-- The governor after `cpufreq_smartass_init`. -/
def init : Smartass where
  curPolicy := none
  enable := false
  minSpeed := 0
  maxSpeed := 1200000
  suspended := false
  sleepMaxFreq := 250000
  sleepWakeupFreq := 1200000
  awakeMinFreq := 0
  activeCount := 0
  capped := false

/-- `smartass_update_min_max` -/
def updateMinMax (s : Smartass) (policy : CpufreqPolicy) (suspend : Bool) : Smartass :=
  if suspend then
    { s with
      minSpeed := policy.min
      maxSpeed :=
        if policy.max > s.sleepMaxFreq then
          if s.sleepMaxFreq > policy.min then s.sleepMaxFreq else policy.min
        else policy.max }
  else
    { s with
      minSpeed :=
        if policy.min < s.awakeMinFreq then
          if s.awakeMinFreq < policy.max then s.awakeMinFreq else policy.max
        else policy.min
      maxSpeed := policy.max }

/-- `validate_freq` -/
def validateFreq (s : Smartass) (freq : U32) : U32 :=
  if freq > s.maxSpeed then s.maxSpeed else if freq < s.minSpeed then s.minSpeed else freq

variable (drive : Request → U32)

/-- `__cpufreq_driver_target`: the driver sets the frequency `drive` says. -/
def driverTarget (policy : CpufreqPolicy) (target : U32) (relation : Relation) : CpufreqPolicy :=
  { policy with cur := drive ⟨target, relation, policy⟩ }

/-- `GOV_LIMITS`, on the policy with its new limits, and the end of `GOV_START`. -/
def governorLimits (s : Smartass) (policy : CpufreqPolicy) : Smartass :=
  let updated := s.updateMinMax policy s.suspended
  { updated with
    curPolicy :=
      some (if policy.cur ≠ updated.maxSpeed then driverTarget drive policy updated.maxSpeed .H
        else policy) }

/-- `GOV_START`: the new state, and the error that is returned. -/
def governorStart (s : Smartass) (policy : CpufreqPolicy) (online : Bool) (rc : Option Errno) :
    Smartass × Option Errno :=
  if online = false ∨ policy.cur = 0 then (s, some EINVAL)
  else
    let counted := { s with activeCount := s.activeCount + 1 }
    match if counted.activeCount ≤ 1 then rc else none with
    | some errno => (counted, some errno)
    | none =>
        ({ counted with
            curPolicy := some policy
            enable := true
            capped := s.sleepMaxFreq ≠ 0 }.governorLimits drive policy, none)

/-- `GOV_STOP` -/
def governorStop (s : Smartass) : Smartass :=
  { s with enable := false, activeCount := s.activeCount - 1 }

/-- `smartass_suspend` -/
def smartassSuspend (s : Smartass) (suspend : Bool) : Option Smartass :=
  if s.enable = false ∨ s.sleepMaxFreq = 0 then some s
  else
    s.curPolicy.map fun policy =>
      let updated := s.updateMinMax policy suspend
      { updated with
        curPolicy :=
          some (
            if suspend then
              if policy.cur > updated.maxSpeed then driverTarget drive policy updated.maxSpeed .H
              else policy
            -- resume at max speed
            else driverTarget drive policy (updated.validateFreq s.sleepWakeupFreq) .H) }

/-- One event. -/
def step (s : Smartass) : SmartassEvent → Option Smartass
  | .start limits cur online rc =>
      some (s.governorStart drive ⟨limits.min, limits.max, cur⟩ online rc).1
  | .limits limits =>
      s.curPolicy.map fun policy =>
        s.governorLimits drive { policy with min := limits.min, max := limits.max }
  | .stop => some s.governorStop
  | .earlySuspend => { s with suspended := true }.smartassSuspend drive true
  | .lateResume => { s with suspended := false }.smartassSuspend drive false
  | .storeSleepMaxFreq input =>
      some { s with sleepMaxFreq := input, capped := s.capped || input ≠ 0 }
  | .work cur =>
      some { s with curPolicy := s.curPolicy.map fun policy => { policy with cur := cur } }

/-! ## The law and the guard -/

/-- `[min_speed, max_speed]` is a sub-range of the policy's limits. -/
def Within (s : Smartass) (policy : CpufreqPolicy) : Prop :=
  policy.min ≤ s.minSpeed ∧ s.minSpeed ≤ s.maxSpeed ∧ s.maxSpeed ≤ policy.max

instance (s : Smartass) (policy : CpufreqPolicy) : Decidable (s.Within policy) :=
  inferInstanceAs (Decidable (_ ∧ _ ∧ _))

/-- The speeds are within the policy, with no cap while the device is awake or
the behaviour has been disabled. -/
def Lawful (s : Smartass) (policy : CpufreqPolicy) : Prop :=
  s.Within policy ∧ (s.suspended = false ∨ s.capped = false → s.maxSpeed = policy.max)

instance (s : Smartass) (policy : CpufreqPolicy) : Decidable (s.Lawful policy) :=
  inferInstanceAs (Decidable (_ ∧ (_ → _)))

/-- The speeds of an enabled governor are lawful. -/
def CapLifted (_ : Smartass) (_ : SmartassEvent) (after : Smartass) : Prop :=
  after.enable = true → ∃ policy ∈ after.curPolicy, after.Lawful policy

instance (before : Smartass) (event : SmartassEvent) (after : Smartass) :
    Decidable (CapLifted before event after) :=
  inferInstanceAs (Decidable (after.enable = true → ∃ policy ∈ after.curPolicy, _))

/-- `GOV_START` succeeds. -/
def Starts (s : Smartass) (cur : U32) (online : Bool) (rc : Option Errno) : Prop :=
  ¬ (online = false ∨ cur = 0) ∧ (s.activeCount + 1 ≤ 1 → rc = none)

/-- A late resume finds no cap when `sleep_max_freq` is 0, and the limits of a
suspended device are not set while the behaviour has been disabled, unless they
leave one frequency. -/
def SeesCap (s : Smartass) : SmartassEvent → Prop
  | .lateResume => s.enable = true → s.sleepMaxFreq = 0 →
      ∀ policy ∈ s.curPolicy, s.maxSpeed = policy.max
  | .limits limits => s.enable = true → s.suspended = true → s.capped = false →
      limits.min = limits.max
  | .start limits cur online rc => s.Starts cur online rc → s.suspended = true →
      s.sleepMaxFreq = 0 → limits.min = limits.max
  | _ => True

/-! ## The speeds of one update -/

variable {drive} {s : Smartass} {policy : CpufreqPolicy}

/-- The new speeds lie within the policy. -/
theorem updateMinMax_within (ordered : policy.Ordered) (suspend : Bool) :
    (s.updateMinMax policy suspend).Within policy := by
  unfold CpufreqPolicy.Ordered at ordered
  cases suspend with
  | true =>
      have above : (s.updateMinMax policy true).minSpeed = policy.min := rfl
      have capped : (s.updateMinMax policy true).maxSpeed =
          if policy.max > s.sleepMaxFreq then
            if s.sleepMaxFreq > policy.min then s.sleepMaxFreq else policy.min
          else policy.max := rfl
      refine ⟨above ▸ BitVec.le_refl _, ?_, ?_⟩
      · rw [above, capped]
        split_ifs <;> bv_omega
      · rw [capped]
        split_ifs <;> bv_omega
  | false =>
      have lifted : (s.updateMinMax policy false).maxSpeed = policy.max := rfl
      have raised : (s.updateMinMax policy false).minSpeed =
          if policy.min < s.awakeMinFreq then
            if s.awakeMinFreq < policy.max then s.awakeMinFreq else policy.max
          else policy.min := rfl
      refine ⟨?_, ?_, lifted ▸ BitVec.le_refl _⟩
      · rw [raised]
        split_ifs <;> bv_omega
      · rw [raised, lifted]
        split_ifs <;> bv_omega

/-- With `sleep_max_freq` 0 the cap is the lowest frequency. -/
theorem updateMinMax_disabled (ordered : policy.Ordered) (disabled : s.sleepMaxFreq = 0) :
    (s.updateMinMax policy true).maxSpeed = policy.min := by
  show (if policy.max > s.sleepMaxFreq then
    if s.sleepMaxFreq > policy.min then s.sleepMaxFreq else policy.min else policy.max) = policy.min
  unfold CpufreqPolicy.Ordered at ordered
  rw [disabled]
  split_ifs <;> bv_omega

/-- The law depends on the speeds, the flags and the limits of the policy only. -/
theorem lawful_congr {other : Smartass} {held : CpufreqPolicy}
    (speeds : (other.minSpeed, other.maxSpeed) = (s.minSpeed, s.maxSpeed))
    (flags : (other.suspended, other.capped) = (s.suspended, s.capped))
    (same : held.limits = policy.limits) : other.Lawful held ↔ s.Lawful policy := by
  obtain ⟨minSpeed, maxSpeed⟩ := Prod.mk.inj speeds
  obtain ⟨suspended, capped⟩ := Prod.mk.inj flags
  obtain ⟨lowest, highest⟩ := Prod.mk.inj same
  unfold Lawful Within
  rw [minSpeed, maxSpeed, suspended, capped, lowest, highest]

/-- An update while the device is suspended is lawful if the cap may be in force,
or if there is nothing to cap. -/
theorem updateMinMax_lawful_iff (ordered : policy.Ordered)
    (caps : s.capped = false → s.sleepMaxFreq = 0) :
    (s.updateMinMax policy s.suspended).Lawful policy ↔
      (s.suspended = true → s.capped = false → policy.min = policy.max) := by
  have within := updateMinMax_within (s := s) ordered s.suspended
  cases suspended : s.suspended with
  | false =>
      rw [suspended] at within
      exact ⟨fun _ => nofun, fun _ => ⟨within, fun _ => rfl⟩⟩
  | true =>
      rw [suspended] at within
      have awake : (s.updateMinMax policy true).suspended = true := suspended
      have since : (s.updateMinMax policy true).capped = s.capped := rfl
      unfold Lawful
      rw [awake, since]
      constructor
      · intro lawful _ disabled
        rw [← lawful.2 (.inr disabled), updateMinMax_disabled ordered (caps disabled)]
      · intro single
        refine ⟨within, fun uncapped => ?_⟩
        have disabled : s.capped = false := uncapped.resolve_left Bool.noConfusion
        rw [updateMinMax_disabled ordered (caps disabled)]
        exact single rfl disabled

@[simp] theorem updateMinMax_enable (suspend : Bool) :
    (s.updateMinMax policy suspend).enable = s.enable := by
  cases suspend <;> rfl

@[simp] theorem updateMinMax_capped (suspend : Bool) :
    (s.updateMinMax policy suspend).capped = s.capped := by
  cases suspend <;> rfl

@[simp] theorem updateMinMax_sleepMaxFreq (suspend : Bool) :
    (s.updateMinMax policy suspend).sleepMaxFreq = s.sleepMaxFreq := by
  cases suspend <;> rfl

theorem governorLimits_lawful_iff (ordered : policy.Ordered)
    (caps : s.capped = false → s.sleepMaxFreq = 0) :
    (∃ held ∈ (s.governorLimits drive policy).curPolicy,
        (s.governorLimits drive policy).Lawful held) ↔
      (s.suspended = true → s.capped = false → policy.min = policy.max) := by
  rw [← updateMinMax_lawful_iff ordered caps]
  simp only [governorLimits, Option.mem_def, Option.some.injEq, exists_eq_left']
  refine lawful_congr rfl rfl ?_
  split <;> rfl

/-! ## The invariant -/

/-- The law, and that a cap can be in force only if the behaviour has not been
disabled all the time. -/
structure Sound (s : Smartass) : Prop where
  lawful : s.enable = true → ∃ policy ∈ s.curPolicy, s.Lawful policy
  caps : s.enable = true → s.capped = false → s.sleepMaxFreq = 0

/-- What a successful `GOV_START` leads to, before it continues as `GOV_LIMITS`. -/
def started (s : Smartass) (policy : CpufreqPolicy) : Smartass :=
  { s with
    activeCount := s.activeCount + 1
    curPolicy := some policy
    enable := true
    capped := s.sleepMaxFreq ≠ 0 }

variable (drive policy) in
theorem governorStart_of_starts {online : Bool} {rc : Option Errno}
    (starts : s.Starts policy.cur online rc) :
    (s.governorStart drive policy online rc).1 =
      (s.started policy).governorLimits drive policy := by
  obtain ⟨accepted, created⟩ := starts
  unfold governorStart
  rw [if_neg accepted]
  have fine : (if s.activeCount + 1 ≤ 1 then rc else none) = none := by
    split
    next first => exact created first
    next => rfl
  simp only [fine]
  rfl

variable (drive policy) in
/-- A `GOV_START` that fails changes the count only. -/
theorem governorStart_of_not_starts {online : Bool} {rc : Option Errno}
    (fails : ¬ s.Starts policy.cur online rc) :
    ∃ count, (s.governorStart drive policy online rc).1 = { s with activeCount := count } := by
  unfold governorStart
  split
  next => exact ⟨s.activeCount, rfl⟩
  next accepted =>
    refine ⟨s.activeCount + 1, ?_⟩
    have failed : (if s.activeCount + 1 ≤ 1 then rc else none) ≠ none := by
      intro none
      refine fails ⟨accepted, fun first => ?_⟩
      rwa [if_pos first] at none
    obtain ⟨errno, error⟩ := Option.ne_none_iff_exists'.mp failed
    simp only [error]

theorem Sound.ordered (sound : s.Sound) (enabled : s.enable = true)
    (current : s.curPolicy = some policy) : policy.Ordered := by
  obtain ⟨held, holds, ⟨above, between, below⟩, _⟩ := sound.lawful enabled
  obtain rfl : held = policy := Option.some.inj (holds.symm.trans current)
  exact BitVec.le_trans above (BitVec.le_trans between below)

/-- What the steps are shown to do: the law holds afterwards exactly when the
step is guarded, and the history stays true. -/
structure StepSound (s : Smartass) (event : SmartassEvent) (after : Smartass) : Prop where
  lifted_iff : CapLifted s event after ↔ s.SeesCap event
  caps : after.enable = true → after.capped = false → after.sleepMaxFreq = 0

theorem governorLimits_stepSound {event : SmartassEvent} (ordered : policy.Ordered)
    (caps : s.enable = true → s.capped = false → s.sleepMaxFreq = 0)
    (guard : s.SeesCap event ↔
      (s.enable = true → s.suspended = true → s.capped = false → policy.min = policy.max)) :
    s.StepSound event (s.governorLimits drive policy) := by
  have enable : (s.governorLimits drive policy).enable = s.enable := updateMinMax_enable _
  have capped : (s.governorLimits drive policy).capped = s.capped := updateMinMax_capped _
  have sleepMaxFreq : (s.governorLimits drive policy).sleepMaxFreq = s.sleepMaxFreq :=
    updateMinMax_sleepMaxFreq _
  refine ⟨?_, by rwa [enable, capped, sleepMaxFreq]⟩
  rw [guard, CapLifted, enable]
  exact forall_congr' fun enabled => governorLimits_lawful_iff ordered (caps enabled)

/-- The suspend handlers that do something. -/
theorem smartassSuspend_eq_some {suspend : Bool} {after : Smartass}
    (taken : s.smartassSuspend drive suspend = some after) :
    ((s.enable = false ∨ s.sleepMaxFreq = 0) ∧ after = s) ∨
      (s.enable = true ∧ s.sleepMaxFreq ≠ 0 ∧ ∃ policy held, s.curPolicy = some policy ∧
        held.limits = policy.limits ∧
          after = { s.updateMinMax policy suspend with curPolicy := some held }) := by
  unfold smartassSuspend at taken
  split at taken
  next disabled => exact .inl ⟨disabled, (Option.some.inj taken).symm⟩
  next acts =>
    obtain ⟨enabled, nonzero⟩ := not_or.mp acts
    obtain ⟨policy, current, rfl⟩ := Option.map_eq_some_iff.mp taken
    refine .inr ⟨Bool.eq_true_of_not_eq_false enabled, nonzero, policy, _, current, ?_, rfl⟩
    split_ifs <;> rfl

/-- After a start the speeds are lawful exactly if the step sees the cap. -/
theorem Sound.start (sound : s.Sound) (limits : PolicyLimits) (cur : U32) (online : Bool)
    (rc : Option Errno) :
    s.StepSound (.start limits cur online rc)
      (s.governorStart drive ⟨limits.min, limits.max, cur⟩ online rc).1 := by
  have ordered : CpufreqPolicy.Ordered ⟨limits.min, limits.max, cur⟩ := limits.ordered
  by_cases starts : s.Starts cur online rc
  · rw [governorStart_of_starts drive ⟨limits.min, limits.max, cur⟩ starts]
    have capped_iff : (s.started ⟨limits.min, limits.max, cur⟩).capped = false ↔
        s.sleepMaxFreq = 0 := by
      simp only [started, ne_eq, decide_eq_false_iff_not, Decidable.not_not]
    obtain ⟨lifted_iff, caps⟩ : (s.started ⟨limits.min, limits.max, cur⟩).StepSound
        (.limits limits) ((s.started ⟨limits.min, limits.max, cur⟩).governorLimits drive _) :=
      governorLimits_stepSound ordered (fun _ => capped_iff.mp) Iff.rfl
    refine ⟨lifted_iff.trans ⟨fun sees _ => ?_, fun sees _ => ?_⟩, caps⟩
    · rw [← capped_iff]
      exact sees rfl
    · rw [capped_iff]
      exact sees starts
  · obtain ⟨count, failed⟩ :=
      governorStart_of_not_starts drive ⟨limits.min, limits.max, cur⟩ starts
    rw [failed]
    exact ⟨⟨fun _ succeeds => (starts succeeds).elim, fun _ => sound.lawful⟩, sound.caps⟩

/-- After an early suspend the speeds are lawful. -/
theorem Sound.earlySuspend (sound : s.Sound) {after : Smartass}
    (taken : { s with suspended := true }.smartassSuspend drive true = some after) :
    s.StepSound .earlySuspend after := by
  rcases smartassSuspend_eq_some taken with ⟨_, rfl⟩ | ⟨enabled, nonzero, policy, held, current,
    same, rfl⟩
  · refine ⟨⟨fun _ => trivial, fun _ enabled => ?_⟩, sound.caps⟩
    obtain ⟨policy, current, within, lifted⟩ := sound.lawful enabled
    exact ⟨policy, current, within, fun uncapped => lifted (.inr (uncapped.resolve_left nofun))⟩
  · have capped : s.capped = true :=
      Bool.eq_true_of_not_eq_false fun uncapped => nonzero (sound.caps enabled uncapped)
    refine ⟨⟨fun _ => trivial, fun _ _ => ⟨held, rfl, ?_⟩⟩,
      fun _ uncapped => Bool.noConfusion (capped.symm.trans uncapped)⟩
    rw [lawful_congr rfl rfl same]
    refine ⟨updateMinMax_within (sound.ordered enabled current) true, fun uncapped => ?_⟩
    exact Bool.noConfusion (capped.symm.trans (uncapped.resolve_left nofun))

/-- After a late resume the speeds are lawful exactly if it sees the cap. -/
theorem Sound.lateResume (sound : s.Sound) {after : Smartass}
    (taken : { s with suspended := false }.smartassSuspend drive false = some after) :
    s.StepSound .lateResume after := by
  rcases smartassSuspend_eq_some taken with ⟨silent, rfl⟩ | ⟨enabled, nonzero, policy, held,
    current, same, rfl⟩
  · refine ⟨⟨?_, ?_⟩, sound.caps⟩
    · intro lifted enabled _ policy current
      obtain ⟨held, holds, _, uncapped⟩ := lifted enabled
      obtain rfl : held = policy := Option.some.inj (holds.symm.trans current)
      exact uncapped (.inl rfl)
    · intro sees enabled
      have disabled : s.sleepMaxFreq = 0 :=
        silent.resolve_left fun off => Bool.noConfusion (off.symm.trans enabled)
      obtain ⟨policy, current, within, _⟩ := sound.lawful enabled
      exact ⟨policy, current, within, fun _ => sees enabled disabled policy current⟩
  · refine ⟨⟨fun _ _ disabled => (nonzero disabled).elim, fun _ _ => ⟨held, rfl, ?_⟩⟩, ?_⟩
    · rw [lawful_congr rfl rfl same]
      exact ⟨updateMinMax_within (sound.ordered enabled current) false, fun _ => rfl⟩
    · exact fun _ uncapped => (nonzero (sound.caps enabled uncapped)).elim

/-- After any step the speeds are lawful exactly if the step sees the cap. -/
theorem Sound.step (sound : s.Sound) {event : SmartassEvent} {after : Smartass}
    (taken : s.step drive event = some after) : s.StepSound event after := by
  cases event with
  | start limits cur online rc => exact Option.some.inj taken ▸ sound.start limits cur online rc
  | limits limits =>
      obtain ⟨policy, _, rfl⟩ := Option.map_eq_some_iff.mp taken
      exact governorLimits_stepSound limits.ordered sound.caps Iff.rfl
  | stop =>
      obtain rfl := Option.some.inj taken
      exact ⟨⟨fun _ => trivial, fun _ => nofun⟩, nofun⟩
  | earlySuspend => exact sound.earlySuspend taken
  | lateResume => exact sound.lateResume taken
  | storeSleepMaxFreq input =>
      obtain rfl := Option.some.inj taken
      refine ⟨⟨fun _ => trivial, fun _ enabled => ?_⟩, fun enabled uncapped => ?_⟩
      · obtain ⟨policy, current, within, lifted⟩ := sound.lawful enabled
        refine ⟨policy, current, within, fun uncapped => lifted ?_⟩
        exact uncapped.imp_right fun never => (Bool.or_eq_false_iff.mp never).1
      · simpa using (Bool.or_eq_false_iff.mp uncapped).2
  | work cur =>
      obtain rfl := Option.some.inj taken
      refine ⟨⟨fun _ => trivial, fun _ enabled => ?_⟩, sound.caps⟩
      obtain ⟨policy, current, lawful⟩ := sound.lawful enabled
      refine ⟨{ policy with cur := cur }, ?_, lawful⟩
      rw [Option.mem_def.mp current]
      rfl

/-- **The cap is lifted** along a run exactly when no late resume finds a cap
with the behaviour disabled, and no limits are set for a suspended device while
the behaviour has been disabled. -/
theorem capLifted_iff (drive : Request → U32) (events : List SmartassEvent) :
    Along (step drive) CapLifted init events ↔ Guarded (step drive) SeesCap init events := by
  apply along_iff Sound
  · intro before event after sound sees taken
    obtain ⟨lifted_iff, caps⟩ := sound.step taken
    have lifted := lifted_iff.mpr sees
    exact ⟨⟨lifted, caps⟩, lifted⟩
  · intro before event after sound taken lifted
    exact (sound.step taken).lifted_iff.mp lifted
  · exact ⟨nofun, nofun⟩

/-- The device is suspended, the behaviour is disabled, and the device wakes up. -/
def disabledWhileSuspended : List SmartassEvent :=
  [.start ⟨300000, 1000000, by decide⟩ 600000 true none, .earlySuspend, .storeSleepMaxFreq 0,
    .lateResume]

/-- The cap stays. -/
theorem disabledWhileSuspended_capped :
    ¬ Along (step Request.target) CapLifted init disabledWhileSuspended := by
  decide

end Smartass

end Jordan.Cpufreq
