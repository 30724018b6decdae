import Jordan.Cpufreq.ConservativeTracking

/-! # How fast the conservative governor reaches the limits

While a CPU is busy, each expiry of its work raises the tracked frequency by one step,
whatever the other CPUs do and whatever transitions the driver makes of the requests: the
notifier leaves a frequency that is within the limits. So the maximum is reached after as many
expiries as there are steps to it (`Jordan.Cpufreq.Dbs.reaches_max_iff`), and an idle CPU gets
to the minimum in the same way when the step is not more than the minimum
(`Jordan.Cpufreq.Dbs.reaches_min_iff`).
-/

namespace Jordan.Cpufreq

open Execution

namespace Dbs

variable {n : Nat} {clock : JiffyClock} {g after : Dbs n} {env : DbsEnv n} {c : Fin n}

/-! ## One expiry -/

/-- Scaling changes the data of its own CPU; the transition it may cause leaves a CPU whose
tracked frequency is within the limits then. -/
theorem Attached.scaled_info (attached : g.Attached) (env : DbsEnv n) (load : U32) (d : Fin n)
    (inside : (g.policy c).Contains ((g.setInfo d ((g.info d).scale g.tuners
      (g.policy d).toCpufreqPolicy load).1).info c).requestedFreq) :
    (g.scaled env d d load).info c =
      (g.setInfo d ((g.info d).scale g.tuners (g.policy d).toCpufreqPolicy load).1).info c := by
  generalize scales : (g.info d).scale g.tuners (g.policy d).toCpufreqPolicy load = scaled
    at inside
  have life : scaled.1.life = (g.info d).life := by rw [← scales, CpuDbsInfo.scale_life]
  have changed : SameLife g (g.setInfo d scaled.1) := sameLife_setInfo life
  simp only [Dbs.scaled, scales]
  split
  · rfl
  next target _ =>
    simp only [driven]
    split
    · rfl
    next transition _ =>
      have still : Attached { g.setInfo d scaled.1 with
          requests := g.requests ++ [⟨d, (g.policy d).toCpufreqPolicy, target, .H⟩] } :=
        attached.sameLife { changed with }
      exact still.transitioned_info (fun _ => inside) d transition

/-- What an expiry makes of the frequency tracked for a CPU, its own or another one. -/
def expiredFreq (clock : JiffyClock) (g : Dbs n) (env : DbsEnv n) (d c : Fin n) : U32 :=
  if c = d then ((g.info c).scale g.tuners (g.policy c).toCpufreqPolicy
    (g.checkedLoad clock env c)).1.requestedFreq
  else (g.info c).requestedFreq

/-- An expiry steps the frequency of its CPU and leaves those of the others, as far as they
are within the limits then. -/
theorem Sound.timerRan_requestedFreq (sound : g.Sound) (d : Fin n)
    (inside : (g.policy c).Contains (g.expiredFreq clock env d c)) :
    ((g.timerRan clock env d d).info c).requestedFreq = g.expiredFreq clock env d c := by
  have stepped : (((g.sampled clock env d).setInfo d (((g.sampled clock env d).info d).scale
      (g.sampled clock env d).tuners ((g.sampled clock env d).policy d).toCpufreqPolicy
      (g.checkedLoad clock env d)).1).info c).requestedFreq = g.expiredFreq clock env d c := by
    unfold expiredFreq
    by_cases here : c = d
    · subst here
      rw [if_pos rfl]
      simp only [setInfo, Function.update_self]
      exact sampled_scale clock g env c
    · rw [if_neg here]
      simp only [setInfo, Function.update_of_ne here]
      exact sampled_requestedFreq d c
  have requeued (checked : Dbs n) (work : Option QueuedWork) :
      ((checked.setInfo d { checked.info d with work := work }).info c).requestedFreq =
        (checked.info c).requestedFreq := by
    by_cases here : c = d
    · subst here
      simp only [setInfo, Function.update_self]
    · simp only [setInfo, Function.update_of_ne here]
  simp only [Dbs.timerRan]
  rw [requeued, checked_eq, (sound.sampled_attached d).scaled_info env _ d (stepped ▸ inside),
    stepped]

/-! ## Runs of expiries -/

/-- Expiries and transitions only. The work of one CPU sees loads of a kind. -/
def Sampling (clock : JiffyClock) (c : Fin n) (kind : DbsTuners → U32 → Prop) (g : Dbs n)
    (action : DbsAction n) : Prop :=
  match action.event with
  | .work d => d = c → kind g.tuners (g.checkedLoad clock action.env c)
  | .transition _ _ => True
  | _ => False

instance (clock : JiffyClock) (c : Fin n) (kind : DbsTuners → U32 → Prop)
    [∀ tuners load, Decidable (kind tuners load)] (g : Dbs n) :
    DecidablePred (g.Sampling clock c kind) := fun ⟨event, env⟩ =>
  match event with
  | .work d =>
      inferInstanceAs (Decidable (d = c → kind g.tuners (g.checkedLoad clock env c)))
  | .transition _ _ => .isTrue trivial
  | .start _ _ _ | .startTimer _ | .limits _ _ _ | .store _ _ | .stopDisable _ | .stopCancel _
  | .stopFinish _ => .isFalse id

end Dbs

/-- The expiry of one CPU. -/
def DbsAction.isWork {n : Nat} (c : Fin n) (action : DbsAction n) : Bool :=
  match action.event with
  | .work d => d = c
  | _ => false

namespace Dbs

variable {n : Nat} {clock : JiffyClock} {g after : Dbs n} {env : DbsEnv n} {c : Fin n}

/-- What does not change while works expire, and the frequency that is tracked for a CPU. -/
structure Ramping (c : Fin n) (start : Dbs n) (freq : Nat) (g : Dbs n) : Prop where
  sound : g.Sound
  live : g.Live c
  tuners : g.tuners = start.tuners
  limits : (g.policy c).limits = (start.policy c).limits
  inside : (g.policy c).Contains (g.info c).requestedFreq
  freq : (g.info c).requestedFreq.toNat = freq

/-- A load of some kind takes the tracked frequency to the next one, within the limits. -/
def StepsTo (c : Fin n) (start : Dbs n) (kind : DbsTuners → U32 → Prop) (next : Nat → Nat) : Prop :=
  ∀ (g : Dbs n) (freq : Nat), Ramping c start freq g → ∀ load, kind g.tuners load →
    (g.policy c).Contains
      ((g.info c).scale g.tuners (g.policy c).toCpufreqPolicy load).1.requestedFreq ∧
    ((g.info c).scale g.tuners (g.policy c).toCpufreqPolicy load).1.requestedFreq.toNat =
      next freq

/-- A step that changes no CPU's life and takes the tracked frequency to one within the
limits. -/
theorem Ramping.of_sameLife {before start : Dbs n} {freq : Nat} (same : SameLife before after)
    (sound : after.Sound) (live : before.Live c) (tuners : before.tuners = start.tuners)
    (limits : (before.policy c).limits = (start.policy c).limits)
    (inside : (before.policy c).Contains (after.info c).requestedFreq)
    (number : (after.info c).requestedFreq.toNat = freq) : Ramping c start freq after where
  sound := sound
  live := (same.live_iff c).mpr live
  tuners := same.tuners.trans tuners
  limits := (same.limits c).trans limits
  inside := (contains_of_limits (same.limits c) _).mpr inside
  freq := number

/-- An expiry of the CPU takes its frequency to the next one; one of another CPU keeps it. -/
theorem Ramping.expires {start : Dbs n} {kind : DbsTuners → U32 → Prop} {next : Nat → Nat}
    (steps : StepsTo c start kind next) {freq : Nat} (ramping : Ramping c start freq g)
    {d : Fin n} (sampling : g.Sampling clock c kind ⟨.work d, env⟩) :
    (g.policy c).Contains (g.expiredFreq clock env d c) ∧
      (g.expiredFreq clock env d c).toNat =
        if DbsAction.isWork c ⟨.work d, env⟩ then next freq else freq := by
  unfold expiredFreq
  by_cases here : d = c
  · subst here
    have isWork : DbsAction.isWork d ⟨.work d, env⟩ = true := decide_eq_true rfl
    rw [if_pos rfl, if_pos isWork]
    exact steps g freq ramping _ (sampling rfl)
  · have other : ¬ DbsAction.isWork c ⟨.work d, env⟩ = true := fun work =>
      here (of_decide_eq_true work)
    rw [if_neg (Ne.symm here), if_neg other]
    exact ⟨ramping.inside, ramping.freq⟩

/-- A step of other works and of transitions keeps the frequency, and an expiry of the
CPU takes it to the next one. -/
theorem Ramping.step {start : Dbs n} {kind : DbsTuners → U32 → Prop} {next : Nat → Nat}
    (steps : StepsTo c start kind next) {freq : Nat} (ramping : Ramping c start freq g)
    {action : DbsAction n} (sampling : g.Sampling clock c kind action)
    (taken : g.step clock action = some after) :
    Ramping c start (if action.isWork c then next freq else freq) after := by
  have sound := ramping.sound
  have later := sound.step taken
  obtain ⟨event, env⟩ := action
  obtain ⟨enabled, handled⟩ := step_eq_some.mp taken
  cases event with
  | work d =>
      obtain ⟨work, member, _⟩ := enabled
      have pending : (g.info d).work.isSome = true := Option.isSome_of_mem member
      have live := sound.live_of_pending pending
      have ran := doDbsTimer_of_pointed clock env sound.pointed
        (sound.curPolicy_self live) ((sound.each d).nodup live)
      obtain rfl := Option.some.inj (handled.symm.trans ran)
      obtain ⟨inside, number⟩ := ramping.expires steps sampling
      have stepped := sound.timerRan_requestedFreq d inside
      exact .of_sameLife (sameLife_timerRan clock g env d d) later ramping.live ramping.tuners
        ramping.limits (stepped ▸ inside) (stepped ▸ number)
  | transition p transition =>
      obtain rfl := Option.some.inj
        (handled.symm.trans (notifyTransition_of_pointed sound.pointed p transition))
      have other : ¬ DbsAction.isWork c ⟨.transition p transition, env⟩ = true :=
        Bool.false_ne_true
      have kept := sound.attached.transitioned_info (fun _ => ramping.inside) p transition
      rw [if_neg other]
      exact .of_sameLife (sameLife_transitioned g p transition) later ramping.live ramping.tuners
        ramping.limits (kept ▸ ramping.inside) (kept ▸ ramping.freq)
  | start => exact absurd sampling id
  | startTimer => exact absurd sampling id
  | limits => exact absurd sampling id
  | store => exact absurd sampling id
  | stopDisable => exact absurd sampling id
  | stopCancel => exact absurd sampling id
  | stopFinish => exact absurd sampling id

/-- After a run, the frequency has been taken to the next one as often as the work of the
CPU has expired. -/
theorem Ramping.run {start : Dbs n} {kind : DbsTuners → U32 → Prop} {next : Nat → Nat}
    (steps : StepsTo c start kind next) {freq : Nat} (ramping : Ramping c start freq g)
    {actions : List (DbsAction n)}
    (sampling : Guarded (Dbs.step clock) (Sampling clock c kind) g actions)
    (reached : exec (Dbs.step clock) g actions = some after) :
    Ramping c start (next^[actions.countP fun action => action.isWork c] freq) after := by
  refine invariant_with_past (fun past g =>
    Ramping c start (next^[past.countP fun action => action.isWork c] freq) g) ?_ ramping
    sampling reached
  intro past before action after ramping sampling taken
  have stepped := ramping.step steps sampling taken
  rw [List.countP_append, List.countP_singleton]
  by_cases work : action.isWork c = true
  · rw [if_pos work] at stepped ⊢
    rwa [Function.iterate_succ_apply']
  · rw [if_neg work] at stepped ⊢
    exact stepped

/-! ## Reaching the limits -/

theorem iterate_raise {highest amount freq : Nat} (below : freq ≤ highest) (count : Nat) :
    (fun freq => min highest (freq + amount))^[count] freq =
      min highest (freq + count * amount) := by
  induction count with
  | zero =>
      rw [Nat.zero_mul, Nat.add_zero]
      exact (Nat.min_eq_right below).symm
  | succ count ih =>
      rw [Function.iterate_succ_apply', ih, Nat.succ_mul]
      omega

theorem iterate_lower {lowest amount freq : Nat} (above : lowest ≤ freq) (count : Nat) :
    (fun freq => max lowest (freq - amount))^[count] freq =
      max lowest (freq - count * amount) := by
  induction count with
  | zero =>
      rw [Nat.zero_mul, Nat.sub_zero]
      exact (Nat.max_eq_right above).symm
  | succ count ih =>
      rw [Function.iterate_succ_apply', ih, Nat.succ_mul]
      omega

section Limits

variable {policy : Fin n → DbsPolicy n} {earlier actions : List (DbsAction n)}
  (begun : exec (step clock) (init policy) earlier = some g) (live : g.Live c)
  (inside : (g.policy c).Contains (g.info c).requestedFreq)
include begun live inside

/-- After any run, a live CPU can begin to ramp from within its limits. -/
theorem ramping_of_exec : Ramping c g (g.info c).requestedFreq.toNat g :=
  ⟨invariant_of_step Sound (fun _ _ _ held taken => held.step taken) (sound_init policy) begun,
    live, rfl, rfl, inside, rfl⟩

/-- **A busy CPU.** While its loads are above the upper threshold, a CPU that starts within its
limits gets to its maximum by one step with each of its expiries, whatever else expires and
whatever transitions there are. -/
theorem reaches_max_iff (modest : (g.policy c).max.toNat < 2 ^ 31)
    (busy : Guarded (step clock) (Sampling clock c DbsTuners.Raises) g actions)
    (reached : exec (step clock) g actions = some after) :
    (after.info c).requestedFreq = (g.policy c).max ↔
      (g.policy c).max.toNat ≤ (g.info c).requestedFreq.toNat +
        (actions.countP fun action => action.isWork c) *
          (g.tuners.raise (g.policy c).toCpufreqPolicy).toNat := by
  have below := BitVec.le_def.mp inside.2
  have steps : StepsTo c g DbsTuners.Raises fun freq =>
      min (g.policy c).max.toNat (freq + (g.tuners.raise (g.policy c).toCpufreqPolicy).toNat) := by
    rintro now freq ramping load raises
    have max : (now.policy c).max = (g.policy c).max := (Prod.mk.inj ramping.limits).2
    have raise : now.tuners.raise (now.policy c).toCpufreqPolicy =
        g.tuners.raise (g.policy c).toCpufreqPolicy := by
      rw [DbsTuners.raise, DbsTuners.raise, DbsTuners.freqTarget, DbsTuners.freqTarget, max,
        ramping.tuners]
    have number := CpuDbsInfo.toNat_scale_raises (max.symm ▸ modest) ramping.inside.2 raises
    have lowest := BitVec.le_def.mp ramping.inside.1
    have highest := BitVec.le_def.mp ramping.inside.2
    refine ⟨⟨?_, ?_⟩, ?_⟩
    · rw [BitVec.le_def, number]
      omega
    · rw [BitVec.le_def, number]
      exact Nat.min_le_left ..
    · rw [number, max, raise, ramping.freq]
  have freq := (Ramping.run steps (ramping_of_exec begun live inside) busy reached).freq
  rw [iterate_raise below] at freq
  rw [← BitVec.toNat_inj, freq]
  omega

/-- **An idle CPU.** While its loads are below the lower threshold, a CPU that starts within its
limits gets to its minimum by one step with each of its expiries, when the step is at most the
minimum, whatever else expires and whatever transitions there are. -/
theorem reaches_min_iff
    (small : g.tuners.freqTarget (g.policy c).toCpufreqPolicy ≤ (g.policy c).min)
    (idle : Guarded (step clock) (Sampling clock c DbsTuners.Lowers) g actions)
    (reached : exec (step clock) g actions = some after) :
    (after.info c).requestedFreq = (g.policy c).min ↔
      (g.info c).requestedFreq.toNat ≤ (g.policy c).min.toNat +
        (actions.countP fun action => action.isWork c) *
          (g.tuners.freqTarget (g.policy c).toCpufreqPolicy).toNat := by
  have above := BitVec.le_def.mp inside.1
  have steps : StepsTo c g DbsTuners.Lowers fun freq => max (g.policy c).min.toNat
      (freq - (g.tuners.freqTarget (g.policy c).toCpufreqPolicy).toNat) := by
    rintro now freq ramping load lowers
    obtain ⟨min, max⟩ := Prod.mk.inj ramping.limits
    have target : now.tuners.freqTarget (now.policy c).toCpufreqPolicy =
        g.tuners.freqTarget (g.policy c).toCpufreqPolicy := by
      rw [DbsTuners.freqTarget, DbsTuners.freqTarget, max, ramping.tuners]
    have enough : now.tuners.freqTarget (now.policy c).toCpufreqPolicy ≤
        (now.info c).requestedFreq := by
      rw [target]
      exact BitVec.le_trans small (min ▸ ramping.inside.1)
    have number := CpuDbsInfo.toNat_scale_lowers lowers enough
    have lowest := BitVec.le_def.mp ramping.inside.1
    have highest := BitVec.le_def.mp ramping.inside.2
    refine ⟨⟨?_, ?_⟩, ?_⟩
    · rw [BitVec.le_def, number]
      exact Nat.le_max_left ..
    · rw [BitVec.le_def, number]
      omega
    · rw [number, min, target, ramping.freq]
  have freq := (Ramping.run steps (ramping_of_exec begun live inside) idle reached).freq
  rw [iterate_lower above] at freq
  rw [← BitVec.toNat_inj, freq]
  omega

end Limits

/-- The CPU has been busy since its start. -/
def busyFor (usecs : U64) : DbsEnv 1 :=
  { idleFor usecs with times := fun _ => ⟨1000000, usecs, 0, ⟨0, 0, 0, 0, 0, 0⟩⟩ }

/-- With steps of 60 percent, one expiry takes a CPU from half its maximum to the maximum. -/
theorem bigStep_reaches_max :
    ∃ g after : Dbs 1, exec (step .hz128) (init fun _ => halfSpeed) (bigStep.take 3) = some g ∧
      exec (step .hz128) g [⟨.work soleCpu, busyFor 2000000⟩] = some after ∧
      ((after.info soleCpu).requestedFreq = (g.policy soleCpu).max ↔
        (g.policy soleCpu).max.toNat ≤ (g.info soleCpu).requestedFreq.toNat +
          ([⟨.work soleCpu, busyFor 2000000⟩].countP
            fun action : DbsAction 1 => action.isWork soleCpu) *
            (g.tuners.raise (g.policy soleCpu).toCpufreqPolicy).toNat) ∧
      (after.info soleCpu).requestedFreq = 1000000 := by
  have begun : exec (step .hz128) (init fun _ => halfSpeed) (bigStep.take 3) = some _ :=
    (Option.some_get (by decide +kernel)).symm
  refine ⟨_, _, begun, (Option.some_get (by decide +kernel)).symm, ?_, by decide +kernel⟩
  exact reaches_max_iff begun (by decide +kernel) ⟨by decide +kernel, by decide +kernel⟩
    (by decide +kernel) (by decide +kernel) (Option.some_get (by decide +kernel)).symm

/-- With steps of 5 percent, one idle expiry does not take a CPU from half its maximum to the
minimum. -/
theorem oneExpiry_above_min :
    ∃ g after : Dbs 1, exec (step .hz128) (init fun _ => halfSpeed) (oneExpiry.take 2) = some g ∧
      exec (step .hz128) g [⟨.work soleCpu, idleFor 2000000⟩] = some after ∧
      ((after.info soleCpu).requestedFreq = (g.policy soleCpu).min ↔
        (g.info soleCpu).requestedFreq.toNat ≤ (g.policy soleCpu).min.toNat +
          ([⟨.work soleCpu, idleFor 2000000⟩].countP
            fun action : DbsAction 1 => action.isWork soleCpu) *
            (g.tuners.freqTarget (g.policy soleCpu).toCpufreqPolicy).toNat) ∧
      (after.info soleCpu).requestedFreq = 450000 := by
  have begun : exec (step .hz128) (init fun _ => halfSpeed) (oneExpiry.take 2) = some _ :=
    (Option.some_get (by decide +kernel)).symm
  refine ⟨_, _, begun, (Option.some_get (by decide +kernel)).symm, ?_, by decide +kernel⟩
  exact reaches_min_iff begun (by decide +kernel) ⟨by decide +kernel, by decide +kernel⟩
    (by decide +kernel) (by decide +kernel) (Option.some_get (by decide +kernel)).symm

end Dbs

end Jordan.Cpufreq
