import Jordan.Cpufreq.ConservativeTuners

/-! # The frequency that the conservative governor tracks

The governor steps a frequency of its own and requests it of the driver. A step up is
cut off at the maximum. A step down subtracts before it compares with the minimum: when
less is tracked than the step, the difference wraps and the highest frequency is
requested under the lowest load. The notifier brings the tracked frequency back after a
change of the limits only if a transition happens. The tracked frequency and all
requests stay within the limits in exactly the runs where neither goes wrong
(`Jordan.Cpufreq.Dbs.tracked_iff`).
-/

namespace Jordan.Cpufreq

open Execution

/-! ## One sample -/

/-- The sample lowers the tracked frequency. -/
def DbsTuners.Lowers (tuners : DbsTuners) (load : U32) : Prop :=
  tuners.freqStep ≠ 0 ∧ ¬ tuners.upThreshold < load ∧ load < tuners.downThreshold - 10

instance (tuners : DbsTuners) (load : U32) : Decidable (tuners.Lowers load) :=
  inferInstanceAs (Decidable (_ ∧ _))

theorem DbsTuners.freqTarget_le (tuners : DbsTuners) (policy : CpufreqPolicy) :
    (tuners.freqTarget policy).toNat ≤ 42949672 := by
  have bound := (tuners.freqStep * policy.max).isLt
  have hundred : (100 : U32).toNat = 100 := rfl
  rw [DbsTuners.freqTarget, BitVec.toNat_udiv, hundred]
  omega

/-- The sample raises the tracked frequency, unless it is the maximum. -/
def DbsTuners.Raises (tuners : DbsTuners) (load : U32) : Prop :=
  tuners.freqStep ≠ 0 ∧ tuners.upThreshold < load

instance (tuners : DbsTuners) (load : U32) : Decidable (tuners.Raises load) :=
  inferInstanceAs (Decidable (_ ∧ _))

/-- The step up, which is not 0. -/
def DbsTuners.raise (tuners : DbsTuners) (policy : CpufreqPolicy) : U32 :=
  if tuners.freqTarget policy = 0 then 5 else tuners.freqTarget policy

theorem DbsTuners.raise_le (tuners : DbsTuners) (policy : CpufreqPolicy) :
    (tuners.raise policy).toNat ≤ 42949672 := by
  unfold raise
  split
  · decide
  · exact tuners.freqTarget_le policy

namespace CpuDbsInfo

variable {n : Nat} {info : CpuDbsInfo n} {tuners : DbsTuners} {policy : CpufreqPolicy} {load : U32}

/-- Only the tracked frequency of a CPU decides what becomes of it. -/
theorem scale_congr {other : CpuDbsInfo n} (same : info.requestedFreq = other.requestedFreq) :
    (info.scale tuners policy load).1.requestedFreq =
      (other.scale tuners policy load).1.requestedFreq := by
  simp only [scale, same]
  split_ifs
  all_goals first | rfl | exact same

/-- What is requested is what is tracked. -/
theorem scale_request {target : U32} (requested : (info.scale tuners policy load).2 = some target) :
    target = (info.scale tuners policy load).1.requestedFreq := by
  simp only [scale] at requested ⊢
  split_ifs at requested ⊢ <;> exact (Option.some.inj requested).symm

/-- A sample between the thresholds changes nothing. -/
theorem scale_of_steady (down : ¬ tuners.Lowers load) (up : ¬ tuners.Raises load) :
    info.scale tuners policy load = (info, none) := by
  unfold scale
  by_cases still : tuners.freqStep = 0
  · exact if_pos still
  · have notAbove : ¬ tuners.upThreshold < load := fun above => up ⟨still, above⟩
    rw [if_neg still, if_neg notAbove, if_neg fun below => down ⟨still, notAbove, below⟩]

/-- A step up is cut off at the maximum. -/
theorem toNat_scale_raises (modest : policy.max.toNat < 2 ^ 31)
    (tracked : info.requestedFreq ≤ policy.max) (raises : tuners.Raises load) :
    (info.scale tuners policy load).1.requestedFreq.toNat =
      min policy.max.toNat (info.requestedFreq.toNat + (tuners.raise policy).toNat) := by
  have step := tuners.raise_le policy
  have below := BitVec.le_def.mp tracked
  have sum : (info.requestedFreq + tuners.raise policy).toNat =
      info.requestedFreq.toNat + (tuners.raise policy).toNat := by
    rw [BitVec.toNat_add]
    exact Nat.mod_eq_of_lt (by omega)
  simp only [scale]
  rw [if_neg raises.1, if_pos raises.2]
  by_cases full : info.requestedFreq = policy.max
  · rw [if_pos full, ← full]
    exact (Nat.min_eq_left (Nat.le_add_right ..)).symm
  · rw [if_neg full]
    change (if policy.max < info.requestedFreq + tuners.raise policy then policy.max
      else info.requestedFreq + tuners.raise policy).toNat = _
    rw [← sum]
    by_cases beyond : policy.max < info.requestedFreq + tuners.raise policy
    · rw [if_pos beyond]
      exact (Nat.min_eq_left (Nat.le_of_lt (BitVec.lt_def.mp beyond))).symm
    · rw [if_neg beyond]
      exact (Nat.min_eq_right (BitVec.le_def.mp (BitVec.not_lt.mp beyond))).symm

theorem scale_lowers (lowers : tuners.Lowers load) :
    (info.scale tuners policy load).1.requestedFreq =
      if info.requestedFreq - tuners.freqTarget policy < policy.min then policy.min
      else info.requestedFreq - tuners.freqTarget policy := by
  simp only [scale]
  rw [if_neg lowers.1, if_neg lowers.2.1, if_pos lowers.2.2]

/-- A step down is cut off at the minimum when it is at most the frequency. -/
theorem toNat_scale_lowers (lowers : tuners.Lowers load)
    (enough : tuners.freqTarget policy ≤ info.requestedFreq) :
    (info.scale tuners policy load).1.requestedFreq.toNat =
      max policy.min.toNat (info.requestedFreq.toNat - (tuners.freqTarget policy).toNat) := by
  rw [scale_lowers lowers, ← BitVec.toNat_sub_of_le enough]
  by_cases below : info.requestedFreq - tuners.freqTarget policy < policy.min
  · rw [if_pos below]
    exact (Nat.max_eq_left (Nat.le_of_lt (BitVec.lt_def.mp below))).symm
  · rw [if_neg below]
    exact (Nat.max_eq_right (BitVec.le_def.mp (BitVec.not_lt.mp below))).symm

/-- A step down that is more than the frequency leaves it above the maximum. -/
theorem lt_scale_of_wraps (ordered : policy.Ordered) (modest : policy.max.toNat < 2 ^ 31)
    (lowers : tuners.Lowers load) (wraps : info.requestedFreq < tuners.freqTarget policy) :
    policy.max < (info.scale tuners policy load).1.requestedFreq := by
  have step := tuners.freqTarget_le policy
  have limits := BitVec.le_def.mp ordered
  have less := BitVec.lt_def.mp wraps
  have difference : (info.requestedFreq - tuners.freqTarget policy).toNat =
      2 ^ 32 - (tuners.freqTarget policy).toNat + info.requestedFreq.toNat := by
    rw [BitVec.toNat_sub]
    exact Nat.mod_eq_of_lt (by omega)
  have notBelow : ¬ info.requestedFreq - tuners.freqTarget policy < policy.min := by
    rw [BitVec.lt_def, difference]
    omega
  rw [scale_lowers lowers, if_neg notBelow, BitVec.lt_def, difference]
  omega

/-- **One sample.** From within the limits, it leaves them exactly when it subtracts more
than is tracked. -/
theorem scale_contains_iff (ordered : policy.Ordered) (modest : policy.max.toNat < 2 ^ 31)
    (tracked : policy.Contains info.requestedFreq) :
    policy.Contains (info.scale tuners policy load).1.requestedFreq ↔
      ¬ (tuners.Lowers load ∧ info.requestedFreq < tuners.freqTarget policy) := by
  obtain ⟨above, below⟩ := tracked
  have aboveNat := BitVec.le_def.mp above
  have belowNat := BitVec.le_def.mp below
  have limits := BitVec.le_def.mp ordered
  by_cases lowers : tuners.Lowers load
  · by_cases wraps : info.requestedFreq < tuners.freqTarget policy
    · refine iff_of_false (fun inside => ?_) (not_not.mpr ⟨lowers, wraps⟩)
      exact absurd (lt_scale_of_wraps ordered modest lowers wraps) (BitVec.not_lt.mpr inside.2)
    · refine iff_of_true ?_ fun wrong => wraps wrong.2
      have number := toNat_scale_lowers lowers (BitVec.not_lt.mp wraps)
      constructor
      · rw [BitVec.le_def, number]
        omega
      · rw [BitVec.le_def, number]
        omega
  · refine iff_of_true ?_ fun wrong => lowers wrong.1
    by_cases raises : tuners.Raises load
    · have number := toNat_scale_raises modest below raises
      constructor
      · rw [BitVec.le_def, number]
        omega
      · rw [BitVec.le_def, number]
        omega
    · rw [scale_of_steady lowers raises]
      exact ⟨above, below⟩

end CpuDbsInfo

namespace Dbs

variable {n : Nat} {clock : JiffyClock} {g after : Dbs n} {env : DbsEnv n} {c : Fin n}

/-! ## The tracked frequencies and the requests -/

/-- The frequency tracked for every live CPU is within the limits of its policy. -/
def Tracked (g : Dbs n) : Prop :=
  ∀ c, g.Live c → (g.policy c).Contains (g.info c).requestedFreq

/-- Besides, every request was within the limits of the policy it was made with. -/
structure Within (g : Dbs n) : Prop where
  tracked : g.Tracked
  requests : ∀ request ∈ g.requests, request.policy.Contains request.target

theorem contains_of_limits {policy other : CpufreqPolicy} (same : policy.limits = other.limits)
    (freq : U32) : policy.Contains freq ↔ other.Contains freq := by
  obtain ⟨lowest, highest⟩ := Prod.mk.inj same
  rw [CpufreqPolicy.Contains, CpufreqPolicy.Contains, lowest, highest]

/-- Both depend on the limits, the tracked frequencies and the requests only. -/
theorem within_iff_of_same (live : ∀ d, after.Live d ↔ g.Live d)
    (limits : ∀ d, g.Live d → (after.policy d).limits = (g.policy d).limits)
    (freq : ∀ d, g.Live d → (after.info d).requestedFreq = (g.info d).requestedFreq)
    (requests : after.requests = g.requests) : after.Within ↔ g.Within := by
  have tracked_iff : after.Tracked ↔ g.Tracked := by
    refine forall_congr' fun d => ?_
    rw [live d]
    refine imp_congr_right fun living => ?_
    rw [freq d living]
    exact contains_of_limits (limits d living) _
  constructor
  · rintro ⟨tracked, within⟩
    exact ⟨tracked_iff.mp tracked, requests ▸ within⟩
  · rintro ⟨tracked, within⟩
    exact ⟨tracked_iff.mpr tracked, requests.symm ▸ within⟩

theorem within_setInfo_iff (info : CpuDbsInfo n)
    (same : info.requestedFreq = (g.info c).requestedFreq) :
    (g.setInfo c info).Within ↔ g.Within := by
  refine within_iff_of_same (fun _ => Iff.rfl) (fun _ _ => rfl) (fun d _ => ?_) rfl
  by_cases here : d = c
  · subst here
    simp only [setInfo, Function.update_self, same]
  · simp only [setInfo, Function.update_of_ne here]

theorem rebased_requestedFreq (cpus : List (Fin n)) (d : Fin n) :
    ((g.rebased clock env cpus).info d).requestedFreq = (g.info d).requestedFreq :=
  Pointwise.changeAll_forall
    (fun d info => CpuDbsInfo.requestedFreq info = (g.info d).requestedFreq) (fun _ => rfl)
    (fun _ info same => (info.rebase_requestedFreq _ _ _).trans same) d

theorem within_rebased_iff (cpus : List (Fin n)) :
    (g.rebased clock env cpus).Within ↔ g.Within :=
  within_iff_of_same (fun _ => Iff.rfl) (fun _ _ => rfl)
    (fun d _ => rebased_requestedFreq cpus d) rfl

/-- A CPU that follows transitions is live and follows those of its own policy. -/
def Attached (g : Dbs n) : Prop :=
  ∀ c, (g.info c).enable = true → g.Live c ∧ (g.info c).curPolicy = some c

theorem Sound.attached (sound : g.Sound) : g.Attached := by
  intro c enabled
  have running := (sound.each c).enable.mp enabled
  have live : g.Live c := by rw [Live, running]; decide
  exact ⟨live, sound.curPolicy_self live⟩

theorem Attached.sameLife (attached : g.Attached) (same : SameLife g after) : after.Attached := by
  intro c enabled
  rw [same.enable c] at enabled
  rw [same.live_iff c, same.curPolicy c]
  exact attached c enabled

/-- The notifier leaves a CPU whose tracked frequency is within the limits. -/
theorem Attached.transitioned_info (attached : g.Attached) {d : Fin n}
    (inside : g.Live d → (g.policy d).Contains (g.info d).requestedFreq) (p : Fin n)
    (transition : Transition n) : (g.transitioned p transition).info d = g.info d := by
  have follow : (g.info d).follow g.policy transition.new = g.info d := by
    by_cases enabled : (g.info d).enable = true
    · obtain ⟨live, current⟩ := attached d enabled
      exact CpuDbsInfo.follow_of_contains current (inside live) _
    · exact CpuDbsInfo.follow_of_disabled (Bool.eq_false_of_not_eq_true enabled) _ _
  by_cases member : d ∈ if g.registered then transition.notified else []
  · exact (transitioned_info_of_mem member).trans follow
  · exact transitioned_info_of_notMem member

/-- A transition changes nothing while the frequencies are tracked. -/
theorem Attached.within_transitioned (attached : g.Attached) (within : g.Within) (p : Fin n)
    (transition : Transition n) : (g.transitioned p transition).Within := by
  have same := sameLife_transitioned g p transition
  refine (within_iff_of_same same.live_iff (fun d _ => same.limits d) (fun d _ => ?_) rfl).mpr
    within
  rw [attached.transitioned_info (within.tracked d)]

/-- A transition brings a running CPU back whose tracked frequency is outside, when it is
notified of a frequency within the limits. -/
theorem Sound.within_transitioned_iff (sound : g.Sound) (running : g.phase c = .running)
    (others : ∀ d, d ≠ c → g.Live d → (g.policy d).Contains (g.info d).requestedFreq)
    (requests : ∀ request ∈ g.requests, request.policy.Contains request.target) (p : Fin n)
    (transition : Transition n) :
    (g.transitioned p transition).Within ↔
      (g.policy c).Contains (g.info c).requestedFreq ∨
        c ∈ transition.notified ∧ (g.policy c).Contains transition.new := by
  have live : g.Live c := by rw [Live, running]; decide
  have same := sameLife_transitioned g p transition
  by_cases inside : (g.policy c).Contains (g.info c).requestedFreq
  · refine iff_of_true
      (sound.attached.within_transitioned ⟨fun d living => ?_, requests⟩ p transition) (.inl inside)
    by_cases here : d = c
    · subst here
      exact inside
    · exact others d here living
  · rw [or_iff_right inside]
    have registered : g.registered = true :=
      sound.shared.installed.mpr ⟨c, mem_live.mpr live⟩
    have moved := CpuDbsInfo.follow_of_not_contains (sound.curPolicy_self live)
      ((sound.each c).enable.mpr running) inside transition.new
    by_cases member : c ∈ transition.notified
    · have told : c ∈ if g.registered then transition.notified else [] := by
        rw [registered]
        exact member
      have tracked : ((g.transitioned p transition).info c).requestedFreq = transition.new := by
        rw [transitioned_info_of_mem told, moved]
      have here : ((g.transitioned p transition).policy c).Contains
          ((g.transitioned p transition).info c).requestedFreq ↔
            (g.policy c).Contains transition.new := by
        rw [tracked]
        exact contains_of_limits (same.limits c) _
      rw [and_iff_right member]
      constructor
      · exact fun within => here.mp (within.tracked c ((same.live_iff c).mpr live))
      · intro new
        refine ⟨fun d living => ?_, requests⟩
        rw [same.live_iff] at living
        by_cases at_c : d = c
        · subst at_c
          exact here.mpr new
        · rw [sound.attached.transitioned_info (others d at_c)]
          exact (contains_of_limits (same.limits d) _).mpr (others d at_c living)
    · refine iff_of_false (fun within => ?_) fun told => member told.1
      have silent : c ∉ if g.registered then transition.notified else [] := by
        rw [registered]
        exact member
      have here := within.tracked c ((same.live_iff c).mpr live)
      rw [transitioned_info_of_notMem silent] at here
      exact inside ((contains_of_limits (same.limits c) _).mp here)

/-! ## The work item -/

/-- The rest of `dbs_check_cpu` keeps the frequencies and the requests within the limits
exactly when the frequency it steps to is. -/
theorem Attached.within_scaled_iff (attached : g.Attached) (within : g.Within)
    (live : g.Live c) (load : U32) :
    (g.scaled env c c load).Within ↔
      (g.policy c).Contains
        ((g.info c).scale g.tuners (g.policy c).toCpufreqPolicy load).1.requestedFreq := by
  generalize scales : (g.info c).scale g.tuners (g.policy c).toCpufreqPolicy load = scaled
  have life : scaled.1.life = (g.info c).life := by rw [← scales, CpuDbsInfo.scale_life]
  have changed := sameLife_setInfo life
  have self : ((g.setInfo c scaled.1).info c).requestedFreq = scaled.1.requestedFreq := by
    simp only [setInfo, Function.update_self]
  have tracked (inside : (g.policy c).Contains scaled.1.requestedFreq) :
      (g.setInfo c scaled.1).Tracked := by
    intro d living
    by_cases here : d = c
    · subst here
      rw [self]
      exact inside
    · simp only [setInfo, Function.update_of_ne here]
      exact within.tracked d living
  simp only [Dbs.scaled, scales]
  split
  · constructor
    · intro after
      have here := after.tracked c live
      rwa [self] at here
    · exact fun inside => ⟨tracked inside, within.requests⟩
  next target requested =>
    have same : target = scaled.1.requestedFreq := by
      rw [← scales] at requested ⊢
      exact CpuDbsInfo.scale_request requested
    have asked : DbsRequest n := ⟨c, (g.policy c).toCpufreqPolicy, target, .H⟩
    constructor
    · intro after
      rw [← same]
      refine after.requests ⟨c, (g.policy c).toCpufreqPolicy, target, .H⟩ ?_
      simp only [driven, setInfo]
      split
      · exact List.mem_append_right _ List.mem_cons_self
      · exact List.mem_append_right _ List.mem_cons_self
    · intro inside
      have requests : ∀ request ∈ g.requests ++ [⟨c, (g.policy c).toCpufreqPolicy, target, .H⟩],
          request.policy.Contains request.target := by
        intro request member
        rcases List.mem_append.mp member with old | new
        · exact within.requests request old
        · rw [List.mem_singleton.mp new, same]
          exact inside
      have before : Within { g.setInfo c scaled.1 with
          requests := g.requests ++ [⟨c, (g.policy c).toCpufreqPolicy, target, .H⟩] } :=
        ⟨tracked inside, requests⟩
      have still : Attached { g.setInfo c scaled.1 with
          requests := g.requests ++ [⟨c, (g.policy c).toCpufreqPolicy, target, .H⟩] } :=
        attached.sameLife { changed with }
      simp only [driven]
      split
      · exact before
      · exact still.within_transitioned before _ _

/-- The load depends on the readings of the CPUs only, not on the work that is pending. -/
theorem checkedLoad_setInfo_work (work : Option QueuedWork) (p : Fin n) :
    (g.setInfo c { g.info c with work := work }).checkedLoad clock env p =
      g.checkedLoad clock env p := by
  have same : (g.setInfo c { g.info c with work := work }).sampleLoads clock env
      (g.policy p).cpus = g.sampleLoads clock env (g.policy p).cpus := by
    apply List.filterMap_congr
    intro d _
    by_cases here : d = c
    · subst here
      simp only [setInfo, Function.update_self]
      rfl
    · simp only [setInfo, Function.update_of_ne here]
  exact congrArg (fun loads => (List.getLast? loads).getD 0) same

/-- The expiry of a CPU lowers a tracked frequency that is less than the step. -/
def LowersTooFar (clock : JiffyClock) (g : Dbs n) (env : DbsEnv n) (c : Fin n) : Prop :=
  g.tuners.Lowers (g.checkedLoad clock env c) ∧
    (g.info c).requestedFreq < g.tuners.freqTarget (g.policy c).toCpufreqPolicy

instance (clock : JiffyClock) (g : Dbs n) (env : DbsEnv n) (c : Fin n) :
    Decidable (g.LowersTooFar clock env c) :=
  inferInstanceAs (Decidable (_ ∧ _))

/-- The governor when the load of an expiry is known: the work has been taken off and the
CPUs of the policy have been read. -/
def sampled (clock : JiffyClock) (g : Dbs n) (env : DbsEnv n) (c : Fin n) : Dbs n :=
  (g.setInfo c { g.info c with work := none }).rebased clock env (g.policy c).cpus

/-- Sampling a CPU leaves the policies attached. -/
theorem Sound.sampled_attached (sound : g.Sound) (c : Fin n) :
    (g.sampled clock env c).Attached := by
  have idle : (g.setInfo c { g.info c with work := none }).Attached := by
    intro d enabled
    by_cases here : d = c
    · subst here
      simp only [setInfo, Function.update_self] at enabled ⊢
      exact sound.attached d enabled
    · simp only [setInfo, Function.update_of_ne here] at enabled ⊢
      exact sound.attached d enabled
  exact idle.sameLife (sameLife_rebased clock env _ (g.policy c).cpus)

theorem within_sampled (within : g.Within) (c : Fin n) : (g.sampled clock env c).Within :=
  (within_rebased_iff _).mpr ((within_setInfo_iff { g.info c with work := none } rfl).mpr within)

theorem sampled_requestedFreq (c d : Fin n) :
    ((g.sampled clock env c).info d).requestedFreq = (g.info d).requestedFreq := by
  refine (rebased_requestedFreq _ d).trans ?_
  by_cases here : d = c
  · subst here
    simp only [setInfo, Function.update_self]
  · simp only [setInfo, Function.update_of_ne here]

theorem checked_eq (clock : JiffyClock) (g : Dbs n) (env : DbsEnv n) (c : Fin n) :
    (g.setInfo c { g.info c with work := none }).checked clock env c c =
      (g.sampled clock env c).scaled env c c (g.checkedLoad clock env c) := by
  rw [checked, checkedLoad_setInfo_work]
  rfl

/-- What an expiry steps to, from what is tracked before. -/
theorem sampled_scale (clock : JiffyClock) (g : Dbs n) (env : DbsEnv n) (c : Fin n) :
    (((g.sampled clock env c).info c).scale (g.sampled clock env c).tuners
        ((g.sampled clock env c).policy c).toCpufreqPolicy
        (g.checkedLoad clock env c)).1.requestedFreq =
      ((g.info c).scale g.tuners (g.policy c).toCpufreqPolicy
        (g.checkedLoad clock env c)).1.requestedFreq :=
  CpuDbsInfo.scale_congr (sampled_requestedFreq c c)

/-- An expiry keeps the frequencies and the requests within the limits unless it lowers
too far. -/
theorem Sound.within_timerRan_iff (sound : g.Sound) (within : g.Within)
    (pending : (g.info c).work.isSome = true) (ordered : (g.policy c).Ordered)
    (modest : (g.policy c).max.toNat < 2 ^ 31) :
    (g.timerRan clock env c c).Within ↔ ¬ g.LowersTooFar clock env c := by
  have live := sound.live_of_pending pending
  simp only [Dbs.timerRan]
  refine (within_setInfo_iff _ ?_).trans ?_
  · rfl
  rw [checked_eq]
  refine ((sound.sampled_attached c).within_scaled_iff (within_sampled within c) live _).trans ?_
  rw [sampled_scale]
  exact CpuDbsInfo.scale_contains_iff ordered modest (within.tracked c live)

/-! ## Changes of the limits -/

/-- A request within the limits keeps everything within, or a transition does. -/
theorem Sound.within_driven_iff (sound : g.Sound) (running : g.phase c = .running)
    (others : ∀ d, d ≠ c → g.Live d → (g.policy d).Contains (g.info d).requestedFreq)
    (requests : ∀ request ∈ g.requests, request.policy.Contains request.target) {target : U32}
    (inside : (g.policy c).Contains target) (relation : Relation) :
    (g.driven env c target relation).Within ↔
      (g.policy c).Contains (g.info c).requestedFreq ∨
        ∃ transition ∈ env.drive ⟨c, (g.policy c).toCpufreqPolicy, target, relation⟩,
          c ∈ transition.notified ∧ (g.policy c).Contains transition.new := by
  have live : g.Live c := by rw [Live, running]; decide
  have asked : ∀ request ∈ g.requests ++ [⟨c, (g.policy c).toCpufreqPolicy, target, relation⟩],
      request.policy.Contains request.target := by
    intro request member
    rcases List.mem_append.mp member with old | new
    · exact requests request old
    · rw [List.mem_singleton.mp new]
      exact inside
  have still : Sound { g with
      requests := g.requests ++ [⟨c, (g.policy c).toCpufreqPolicy, target, relation⟩] } :=
    sound.sameLife { SameLife.refl g with }
  simp only [driven]
  cases env.drive ⟨c, (g.policy c).toCpufreqPolicy, target, relation⟩ with
  | none =>
      simp only [Option.mem_def, reduceCtorEq, false_and, exists_false, or_false]
      constructor
      · exact fun within => within.tracked c live
      · refine fun here => ⟨fun d living => ?_, asked⟩
        by_cases same : d = c
        · subst same
          exact here
        · exact others d same living
  | some transition =>
      simp only [Option.mem_def, Option.some.injEq, exists_eq_left']
      exact still.within_transitioned_iff running others asked c transition

/-- The transition that `GOV_LIMITS` causes, if any. -/
def limitsTransition (g : Dbs n) (env : DbsEnv n) (c : Fin n) : Option (Transition n) :=
  let policy := (g.policy c).toCpufreqPolicy
  if policy.max < policy.cur then env.drive ⟨c, policy, policy.max, .H⟩
  else if policy.cur < policy.min then env.drive ⟨c, policy, policy.min, .L⟩
  else none

/-- The tracked frequency is within the new limits, or a transition brings it there. -/
def LimitsFollowed (g : Dbs n) (env : DbsEnv n) (c : Fin n) : Prop :=
  (g.policy c).Contains (g.info c).requestedFreq ∨
    ∃ transition ∈ g.limitsTransition env c,
      c ∈ transition.notified ∧ (g.policy c).Contains transition.new

instance (g : Dbs n) (env : DbsEnv n) (c : Fin n) : Decidable (g.LimitsFollowed env c) :=
  inferInstanceAs (Decidable (_ ∨ _))

/-- Where everything else is within the limits, `CPUFREQ_GOV_LIMITS` leaves it all within exactly
if the tracked frequency follows the new limits. -/
theorem Sound.within_limitsDriven_iff (sound : g.Sound) (running : g.phase c = .running)
    (others : ∀ d, d ≠ c → g.Live d → (g.policy d).Contains (g.info d).requestedFreq)
    (requests : ∀ request ∈ g.requests, request.policy.Contains request.target)
    (ordered : (g.policy c).Ordered) :
    (g.limitsDriven env c c).Within ↔ g.LimitsFollowed env c := by
  have live : g.Live c := by rw [Live, running]; decide
  simp only [limitsDriven, LimitsFollowed, limitsTransition]
  by_cases above : (g.policy c).max < (g.policy c).cur
  · simp only [if_pos above]
    exact sound.within_driven_iff running others requests ordered.contains_max .H
  · simp only [if_neg above]
    by_cases below : (g.policy c).cur < (g.policy c).min
    · simp only [if_pos below]
      exact sound.within_driven_iff running others requests ordered.contains_min .L
    · simp only [if_neg below, Option.mem_def, reduceCtorEq, false_and, exists_false, or_false]
      constructor
      · exact fun within => within.tracked c live
      · refine fun here => ⟨fun d living => ?_, requests⟩
        by_cases same : d = c
        · subst same
          exact here
        · exact others d same living

/-! ## Starts -/

/-- The start of a CPU sets its requested frequency to the current one and leaves the others. -/
theorem startCpu_requestedFreq (clock : JiffyClock) (g : Dbs n) (env : DbsEnv n) (c d : Fin n) :
    ((g.startCpu clock env c).info d).requestedFreq =
      if d = c then (g.policy c).cur else (g.info d).requestedFreq := by
  simp only [startCpu]
  by_cases here : d = c
  · subst here
    simp only [setInfo, Function.update_self, ↓reduceIte]
  · simp only [setInfo, Function.update_of_ne here, if_neg here, startCpus_eq]
    exact Pointwise.changeAll_forall
      (fun d info => CpuDbsInfo.requestedFreq info = (g.info d).requestedFreq) (fun _ => rfl)
      (fun _ info same => (CpuDbsInfo.rebase_requestedFreq
        { info with curPolicy := some c } _ _ _).trans same) d

/-- A start tracks the current frequency. -/
theorem within_started_iff (within : g.Within) (stopped : g.phase c = .stopped) :
    (((g.startCpu clock env c).countStart clock (g.policy c)).setPhase c .created).Within ↔
      (g.policy c).Contains (g.policy c).cur := by
  have policy : (((g.startCpu clock env c).countStart clock (g.policy c)).setPhase c
      .created).policy = g.policy := by
    simp only [setPhase, countStart_policy, startCpu_policy]
  have freq (d : Fin n) : ((((g.startCpu clock env c).countStart clock (g.policy c)).setPhase c
      .created).info d).requestedFreq =
        if d = c then (g.policy c).cur else (g.info d).requestedFreq := by
    simp only [setPhase, countStart_info]
    exact startCpu_requestedFreq clock g env c d
  have requests : (((g.startCpu clock env c).countStart clock (g.policy c)).setPhase c
      .created).requests = g.requests := by
    have started : (g.startCpu clock env c).requests = g.requests := by
      simp only [startCpu, setInfo, startCpus_eq]
    simp only [setPhase, countStart]
    split <;> exact started
  have phase (d : Fin n) (other : d ≠ c) : (((g.startCpu clock env c).countStart clock
      (g.policy c)).setPhase c .created).phase d = g.phase d := by
    simp only [setPhase, Function.update_of_ne other, countStart_phase, startCpu_phase]
  constructor
  · intro after
    have live : (((g.startCpu clock env c).countStart clock (g.policy c)).setPhase c
        .created).Live c := by
      simp only [Live, setPhase, Function.update_self]
      decide
    have here := after.tracked c live
    rwa [policy, freq, if_pos rfl] at here
  · intro inside
    refine ⟨fun d living => ?_, requests ▸ within.requests⟩
    rw [policy, freq]
    by_cases here : d = c
    · subst here
      rw [if_pos rfl]
      exact inside
    · rw [if_neg here]
      rw [Live, phase d here] at living
      exact within.tracked d living

end Dbs

/-! ## Runs -/

/-- The limits that an event brings are below 2^31 kilohertz. -/
def DbsEvent.Modest {n : Nat} : DbsEvent n → Prop
  | .start _ policy _ => policy.max.toNat < 2 ^ 31
  | .limits _ _ max => max.toNat < 2 ^ 31
  | _ => True

instance {n : Nat} : DecidablePred (DbsEvent.Modest (n := n))
  | .start _ policy _ => Nat.decLt policy.max.toNat (2 ^ 31)
  | .limits _ _ max => Nat.decLt max.toNat (2 ^ 31)
  | .startTimer _ | .work _ | .transition _ _ | .store _ _ | .stopDisable _ | .stopCancel _
  | .stopFinish _ => .isTrue trivial

namespace Dbs

variable {n : Nat} {clock : JiffyClock} {g after : Dbs n} {env : DbsEnv n} {c : Fin n}

/-- The steps after which the tracked frequency is within the limits: a start at a
frequency within them, an expiry that does not lower too far, and a change of the limits
that leaves the tracked frequency inside or is followed by a transition into them. -/
def Safe (clock : JiffyClock) (g : Dbs n) (action : DbsAction n) : Prop :=
  match action.event with
  | .start c policy rc => Accepts action.env c policy rc → policy.Contains policy.cur
  | .work c => ¬ g.LowersTooFar clock action.env c
  | .limits c min max => (g.limited c min max).LimitsFollowed action.env c
  | _ => True

instance (clock : JiffyClock) (g : Dbs n) : DecidablePred (g.Safe clock) := fun ⟨event, env⟩ =>
  match event with
  | .start c policy rc =>
      inferInstanceAs (Decidable (Accepts env c policy rc → policy.Contains policy.cur))
  | .work c => inferInstanceAs (Decidable (¬ g.LowersTooFar clock env c))
  | .limits c min max =>
      inferInstanceAs (Decidable ((g.limited c min max).LimitsFollowed env c))
  | .startTimer _ | .transition _ _ | .store _ _ | .stopDisable _ | .stopCancel _
  | .stopFinish _ => .isTrue trivial

/-- The lifecycle is sound, and the limits of the policies in use are in order and below
2^31 kilohertz. -/
structure Limited (g : Dbs n) : Prop where
  sound : g.Sound
  ordered (c : Fin n) : g.Live c → (g.policy c).Ordered
  modest (c : Fin n) : g.Live c → (g.policy c).max.toNat < 2 ^ 31

/-- The limits of the live CPUs are those of before, but for one CPU. -/
theorem Limited.of_limits (limited : g.Limited) (sound : after.Sound) (c : Fin n)
    (live : ∀ d, d ≠ c → after.Live d → g.Live d)
    (others : ∀ d, d ≠ c → (after.policy d).limits = (g.policy d).limits)
    (here : after.Live c → (after.policy c).Ordered ∧ (after.policy c).max.toNat < 2 ^ 31) :
    after.Limited where
  sound := sound
  ordered d living := by
    by_cases same : d = c
    · subst same
      exact (here living).1
    · exact CpufreqPolicy.ordered_of_limits (others d same)
        (limited.ordered d (live d same living))
  modest d living := by
    by_cases same : d = c
    · subst same
      exact (here living).2
    · have max : (after.policy d).max = (g.policy d).max := (Prod.mk.inj (others d same)).2
      rw [max]
      exact limited.modest d (live d same living)

theorem Limited.sameLife (limited : g.Limited) (same : SameLife g after) : after.Limited where
  sound := limited.sound.sameLife same
  ordered d living :=
    CpufreqPolicy.ordered_of_limits (same.limits d)
      (limited.ordered d ((same.live_iff d).mp living))
  modest d living := by
    have max : (after.policy d).max = (g.policy d).max := (Prod.mk.inj (same.limits d)).2
    rw [max]
    exact limited.modest d ((same.live_iff d).mp living)

/-- A step of a start or a stop that leaves the tracked frequency. -/
theorem Limited.onCpu (limited : g.Limited) (within : g.Within) (live : g.Live c)
    {info : CpuDbsInfo n} {phase : DbsPhase} (sound : ((g.setInfo c info).setPhase c phase).Sound)
    (still : phase ≠ .stopped) (freq : info.requestedFreq = (g.info c).requestedFreq) :
    ((g.setInfo c info).setPhase c phase).Limited ∧
      ((g.setInfo c info).setPhase c phase).Within := by
  have living (d : Fin n) : ((g.setInfo c info).setPhase c phase).Live d ↔ g.Live d := by
    by_cases here : d = c
    · subst here
      simp only [Live, setPhase, Function.update_self]
      exact iff_of_true still live
    · simp only [Live, setPhase, setInfo, Function.update_of_ne here]
  refine ⟨limited.of_limits sound c (fun d _ => (living d).mp) (fun _ _ => rfl)
    fun _ => ⟨limited.ordered c live, limited.modest c live⟩, ?_⟩
  exact (within_iff_of_same (g := g.setInfo c info) living (fun _ _ => rfl) (fun _ _ => rfl)
    rfl).mpr ((within_setInfo_iff info freq).mpr within)

/-- A store reaches no policy, no tracked frequency and no request. -/
theorem store_frame (clock : JiffyClock) (g : Dbs n) (env : DbsEnv n) (tunable : DbsTunable)
    (input : Option U32) :
    (g.store clock env tunable input).1.phase = g.phase ∧
      (g.store clock env tunable input).1.policy = g.policy ∧
      (g.store clock env tunable input).1.requests = g.requests ∧
      ∀ d, ((g.store clock env tunable input).1.info d).requestedFreq =
        (g.info d).requestedFreq := by
  simp only [store]
  cases g.tuners.store g.minSamplingRate tunable input with
  | error errno => exact ⟨rfl, rfl, rfl, fun _ => rfl⟩
  | ok tuners =>
      by_cases unchanged : tuners.ignoreNice = g.tuners.ignoreNice
      · simp only [if_pos unchanged, implies_true, and_self]
      · simp only [if_neg unchanged]
        refine ⟨rfl, rfl, rfl, fun d => ?_⟩
        simp only [rebaseOnline]
        split <;> rfl

/-- One step: what is within the limits stays there exactly when the step is safe. -/
theorem Limited.step (limited : g.Limited) (within : g.Within) {action : DbsAction n}
    (modest : action.event.Modest) (taken : g.step clock action = some after) :
    after.Limited ∧ (after.Within ↔ g.Safe clock action) := by
  have sound := limited.sound
  have still := sound.step taken
  obtain ⟨event, env⟩ := action
  obtain ⟨enabled, handled⟩ := step_eq_some.mp taken
  cases event with
  | start c policy rc =>
      obtain rfl := Option.some.inj handled
      obtain ⟨stopped, _, _, ordered, _⟩ := enabled
      have self : (g.setPolicy c policy).policy c = policy := by
        simp only [setPolicy, Function.update_self]
      have prepared : (g.setPolicy c policy).Within := by
        refine ⟨fun d living => ?_, within.requests⟩
        have different : d ≠ c := fun same => living (same ▸ stopped)
        simp only [setPolicy, Function.update_of_ne different]
        exact within.tracked d living
      have others (d : Fin n) (different : d ≠ c) :
          ((g.setPolicy c policy).policy d).limits = (g.policy d).limits := by
        simp only [setPolicy, Function.update_of_ne different]
      simp only [Safe] at still ⊢
      rcases governorStart_cases clock (g.setPolicy c policy) env c rc with
        ⟨refused, same⟩ | ⟨accepts, same⟩
      · rw [same] at still ⊢
        rw [self] at refused
        refine ⟨limited.of_limits still c (fun d _ living => living) others
          fun living => absurd stopped living, ?_⟩
        exact iff_of_true prepared fun accepts => absurd accepts refused
      · rw [same] at still ⊢
        rw [self] at accepts
        refine ⟨limited.of_limits still c (fun d different living => ?_)
          (fun d different => ?_) fun _ => ?_, ?_⟩
        · simp only [Live, setPhase, Function.update_of_ne different, countStart_phase,
            startCpu_phase] at living
          exact living
        · simp only [setPhase, countStart_policy, startCpu_policy]
          exact others d different
        · simp only [setPhase, countStart_policy, startCpu_policy, self]
          exact ⟨ordered, modest⟩
        · rw [within_started_iff prepared stopped, self]
          exact ⟨fun inside _ => inside, fun inside => inside accepts⟩
  | startTimer c =>
      obtain rfl := Option.some.inj handled
      have place : g.phase c = .created := enabled
      have live : g.Live c := by rw [Live, place]; decide
      obtain ⟨kept, freq⟩ := limited.onCpu within live still DbsPhase.noConfusion rfl
      exact ⟨kept, iff_of_true freq trivial⟩
  | work c =>
      obtain ⟨work, member, _⟩ := enabled
      have pending : (g.info c).work.isSome = true := Option.isSome_of_mem member
      have live := sound.live_of_pending pending
      have ran := doDbsTimer_of_pointed clock env sound.pointed
        (sound.curPolicy_self live) ((sound.each c).nodup live)
      obtain rfl := Option.some.inj (handled.symm.trans ran)
      have same := sameLife_timerRan clock g env c c
      refine ⟨limited.of_limits still c (fun d _ => (same.live_iff d).mp)
        (fun d _ => same.limits d) fun _ => ?_,
        sound.within_timerRan_iff within pending (limited.ordered c live) (limited.modest c live)⟩
      rw [(Prod.mk.inj (same.limits c)).2]
      exact ⟨CpufreqPolicy.ordered_of_limits (same.limits c) (limited.ordered c live),
        limited.modest c live⟩
  | limits c min max =>
      obtain ⟨running, ordered⟩ := enabled
      obtain rfl := Option.some.inj (handled.symm.trans (sound.limits running))
      have changed : (g.limited c min max).Limited := by
        refine limited.of_limits (sound.limited c min max) c (fun d _ living => living)
          (fun d different => ?_) fun _ => ?_
        · simp only [Dbs.limited, setPolicy, Function.update_of_ne different]
        · simp only [Dbs.limited, setPolicy, Function.update_self]
          exact ⟨ordered, modest⟩
      have live : (g.limited c min max).Live c := by
        rw [Live]
        exact fun stopped => DbsPhase.noConfusion (running.symm.trans stopped)
      refine ⟨changed.sameLife (sameLife_limitsDriven ..), changed.sound.within_limitsDriven_iff
        running (fun d different living => ?_) within.requests (changed.ordered c live)⟩
      simp only [Dbs.limited, setPolicy, Function.update_of_ne different]
      exact within.tracked d living
  | transition p transition =>
      obtain rfl := Option.some.inj
        (handled.symm.trans (notifyTransition_of_pointed sound.pointed p transition))
      exact ⟨limited.sameLife (sameLife_transitioned ..),
        iff_of_true (sound.attached.within_transitioned within p transition) trivial⟩
  | store tunable input =>
      obtain rfl := Option.some.inj handled
      obtain ⟨phase, policy, requests, freq⟩ := store_frame clock g env tunable input
      have live (d : Fin n) : (g.store clock env tunable input).1.Live d ↔ g.Live d := by
        rw [Live, Live, phase]
      have limits (d : Fin n) : ((g.store clock env tunable input).1.policy d).limits =
          (g.policy d).limits := by rw [policy]
      refine ⟨⟨still, fun d living => ?_, fun d living => ?_⟩, iff_of_true ?_ trivial⟩
      · rw [policy]
        exact limited.ordered d ((live d).mp living)
      · rw [policy]
        exact limited.modest d ((live d).mp living)
      · exact (within_iff_of_same live (fun d _ => limits d) (fun d _ => freq d) requests).mpr
          within
  | stopDisable c =>
      obtain rfl := Option.some.inj handled
      have place : g.phase c = .running := enabled
      have live : g.Live c := by rw [Live, place]; decide
      obtain ⟨kept, freq⟩ := limited.onCpu within live still DbsPhase.noConfusion rfl
      exact ⟨kept, iff_of_true freq trivial⟩
  | stopCancel c =>
      obtain rfl := Option.some.inj handled
      have place : g.phase c = .disabled := enabled
      have live : g.Live c := by rw [Live, place]; decide
      obtain ⟨kept, freq⟩ := limited.onCpu within live still DbsPhase.noConfusion rfl
      exact ⟨kept, iff_of_true freq trivial⟩
  | stopFinish c =>
      obtain rfl := Option.some.inj handled
      have living (d : Fin n) (live : (g.stopFinish c).Live d) : d ≠ c ∧ g.Live d := by
        by_cases here : d = c
        · subst here
          exact absurd (Function.update_self ..) live
        · simp only [Live, stopFinish, Function.update_of_ne here] at live
          exact ⟨here, live⟩
      refine ⟨limited.of_limits still c (fun d _ live => (living d live).2) (fun _ _ => rfl)
        fun live => absurd rfl (living c live).1, iff_of_true ?_ trivial⟩
      exact ⟨fun d live => within.tracked d (living d live).2, within.requests⟩

theorem limited_init (policy : Fin n → DbsPolicy n) : (init policy).Limited :=
  ⟨sound_init policy, fun _ live => absurd rfl live, fun _ live => absurd rfl live⟩

theorem within_init (policy : Fin n → DbsPolicy n) : (init policy).Within :=
  ⟨fun _ live => absurd rfl live, fun _ member => absurd member List.not_mem_nil⟩

/-- **The tracked frequency and the requests stay within the limits in exactly the runs
whose steps are all safe**, whatever is stored and however the events interleave. -/
theorem tracked_iff (clock : JiffyClock) (policy : Fin n → DbsPolicy n)
    {actions : List (DbsAction n)} (modest : ∀ action ∈ actions, action.event.Modest) :
    Along (step clock) (fun _ _ after => after.Within) (init policy) actions ↔
      Guarded (step clock) (Safe clock) (init policy) actions := by
  have allModest : Guarded (step clock) (fun _ action => action.event.Modest) (init policy)
      actions := guarded_of_mem modest _
  have safe_iff : Along (step clock) (fun _ action after => action.event.Modest ∧ after.Within)
      (init policy) actions ↔
        Guarded (step clock) (fun before action => action.event.Modest ∧ before.Safe clock action)
          (init policy) actions := by
    apply along_iff (fun g => g.Limited ∧ g.Within) _ _ ⟨limited_init policy, within_init policy⟩
    · rintro before action after ⟨limited, within⟩ ⟨small, safe⟩ taken
      obtain ⟨still, kept⟩ := limited.step within small taken
      exact ⟨⟨still, kept.mpr safe⟩, small, kept.mpr safe⟩
    · rintro before action after ⟨limited, within⟩ taken ⟨small, kept⟩
      exact ⟨small, (limited.step within small taken).2.mp kept⟩
  constructor
  · intro along
    exact (safe_iff.mp (allModest.and along)).mono fun _ _ _ both => both.2
  · intro guarded
    exact (safe_iff.mpr (allModest.and guarded)).mono fun _ _ _ both => both.2

/-- The governor is started, the step is set to 60 percent, and the work expires. -/
def bigStep : List (DbsAction 1) :=
  [⟨.start soleCpu halfSpeed none, idleFor 1000000⟩, ⟨.startTimer soleCpu, idleFor 1000000⟩,
    ⟨.store .freqStep (some 60), idleFor 1100000⟩, ⟨.work soleCpu, idleFor 2000000⟩]

/-- The idle CPU is then asked to run at more than 4 terahertz. -/
theorem bigStep_leaves :
    (Along (step .hz128) (fun _ _ after => after.Within) (init fun _ => halfSpeed) bigStep ↔
      Guarded (step .hz128) (Safe .hz128) (init fun _ => halfSpeed) bigStep) ∧
      (exec (step .hz128) (init fun _ => halfSpeed) bigStep).map (fun g =>
        g.requests.map DbsRequest.target) = some [4294867296] := by
  have modest : ∀ action ∈ bigStep, action.event.Modest := by decide
  exact ⟨tracked_iff .hz128 _ modest, by decide +kernel⟩

end Dbs

end Jordan.Cpufreq
