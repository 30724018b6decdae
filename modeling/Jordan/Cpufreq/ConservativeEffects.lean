import Jordan.Cpufreq.Conservative
import Jordan.Library.Pointwise

/-! # What the handlers of the conservative governor do

Where `cur_policy` is set for every CPU whose notifier looks at it, no handler fails,
and each one leaves a state that can be written down: a transition, the loop that reads
the CPUs, and the loop of `GOV_START` change the CPUs they name and no others. Neither
scaling nor a transition touches what the governor events set
(`Jordan.Cpufreq.Dbs.SameLife`).
-/

namespace Jordan.Cpufreq

open Execution

namespace CpuDbsInfo

variable {n : Nat} (info : CpuDbsInfo n)

/-- Reading the same times again changes nothing. -/
theorem rebase_rebase (clock : JiffyClock) (ignoreNice : U32) (times : CpuTimes) :
    (info.rebase clock ignoreNice times).rebase clock ignoreNice times =
      info.rebase clock ignoreNice times := by
  by_cases ignored : ignoreNice ≠ 0
  · simp only [rebase, if_pos ignored]
  · simp only [rebase, if_neg ignored]

/-- The data of a CPU after the notifier was called for it: a tracked frequency outside
the limits is replaced. -/
def follow (policy : Fin n → DbsPolicy n) (new : U32) : CpuDbsInfo n :=
  match info.curPolicy with
  | none => info
  | some p =>
      if info.enable = true ∧ ¬ (policy p).Contains info.requestedFreq then
        { info with requestedFreq := new }
      else info

variable {info}

/-- The notifier leaves a frequency that is within the limits. -/
theorem follow_of_contains {policy : Fin n → DbsPolicy n} {p : Fin n}
    (current : info.curPolicy = some p) (inside : (policy p).Contains info.requestedFreq)
    (new : U32) : info.follow policy new = info := by
  simp only [follow, current, inside, not_true_eq_false, and_false, ↓reduceIte]

/-- The notifier takes over the new frequency when the tracked one is outside the limits. -/
theorem follow_of_not_contains {policy : Fin n → DbsPolicy n} {p : Fin n}
    (current : info.curPolicy = some p) (enabled : info.enable = true)
    (outside : ¬ (policy p).Contains info.requestedFreq) (new : U32) :
    info.follow policy new = { info with requestedFreq := new } := by
  unfold follow
  split
  next absent => cases current.symm.trans absent
  next q found =>
    obtain rfl := Option.some.inj (current.symm.trans found)
    exact if_pos ⟨enabled, outside⟩

/-- The notifier leaves a CPU that is not enabled. -/
theorem follow_of_disabled (disabled : info.enable = false) (policy : Fin n → DbsPolicy n)
    (new : U32) : info.follow policy new = info := by
  unfold follow
  split
  next => rfl
  next => exact if_neg fun moved => Bool.noConfusion (disabled.symm.trans moved.1)

/-- The notifier leaves the data, or replaces the tracked frequency. -/
theorem follow_cases (info : CpuDbsInfo n) (policy : Fin n → DbsPolicy n) (new : U32) :
    info.follow policy new = info ∨
      (∃ p, info.curPolicy = some p ∧ info.enable = true ∧
        ¬ (policy p).Contains info.requestedFreq) ∧
      info.follow policy new = { info with requestedFreq := new } := by
  by_cases enabled : info.enable = true
  · cases current : info.curPolicy with
    | none => exact .inl (by simp only [follow, current])
    | some p =>
        by_cases inside : (policy p).Contains info.requestedFreq
        · exact .inl (follow_of_contains current inside new)
        · exact .inr ⟨⟨p, rfl, enabled, inside⟩,
            current ▸ follow_of_not_contains current enabled inside new⟩
  · exact .inl (follow_of_disabled (Bool.eq_false_of_not_eq_true enabled) policy new)

/-- The notifier changes the tracked frequency only. -/
theorem follow_eq (policy : Fin n → DbsPolicy n) (new : U32) :
    info.follow policy new =
      { info with requestedFreq := (info.follow policy new).requestedFreq } := by
  rcases follow_cases info policy new with same | ⟨_, moved⟩
  · rw [same]
  · rw [moved]

/-- `PRECHANGE` and `POSTCHANGE` together do what one of them does. -/
theorem follow_follow (policy : Fin n → DbsPolicy n) (new : U32) :
    (info.follow policy new).follow policy new = info.follow policy new := by
  rcases follow_cases info policy new with same | ⟨_, moved⟩
  · rw [same, same]
  · rw [moved]
    rcases follow_cases { info with requestedFreq := new } policy new with again | ⟨_, again⟩
    · exact again
    · exact again

end CpuDbsInfo

namespace Dbs

variable {n : Nat} {clock : JiffyClock} {g after : Dbs n} {env : DbsEnv n}

/-- `cur_policy` is set for every CPU whose notifier looks at it. -/
def Pointed (g : Dbs n) : Prop :=
  ∀ c, (g.info c).enable = true → (g.info c).curPolicy.isSome = true

/-! ### Transitions -/

/-- The governor after a transition. -/
def transitioned (g : Dbs n) (p : Fin n) (transition : Transition n) : Dbs n :=
  { g with
    info := Pointwise.changeAll (fun _ info => info.follow g.policy transition.new)
      (if g.registered then transition.notified else []) g.info
    policy := Function.update g.policy p { g.policy p with cur := transition.new } }

/-- A transition tells the CPUs that are notified. -/
theorem transitioned_info_of_mem {p d : Fin n} {transition : Transition n}
    (told : d ∈ if g.registered then transition.notified else []) :
    (g.transitioned p transition).info d = (g.info d).follow g.policy transition.new :=
  if_pos told

/-- A transition leaves the CPUs that are not notified. -/
theorem transitioned_info_of_notMem {p d : Fin n} {transition : Transition n}
    (silent : d ∉ if g.registered then transition.notified else []) :
    (g.transitioned p transition).info d = g.info d :=
  if_neg silent

/-- With all policies in place, the notifier follows its CPU's. -/
theorem dbsCpufreqNotifier_of_pointed (pointed : g.Pointed) (new : U32) (c : Fin n) :
    dbsCpufreqNotifier new g c = some (g.setInfo c ((g.info c).follow g.policy new)) := by
  have same : g.setInfo c (g.info c) = g := by
    unfold setInfo
    rw [Function.update_eq_self]
  unfold dbsCpufreqNotifier
  by_cases enabled : (g.info c).enable = true
  · obtain ⟨p, current⟩ := Option.isSome_iff_exists.mp (pointed c enabled)
    have outside_iff : (g.policy p).max < (g.info c).requestedFreq ∨
        (g.info c).requestedFreq < (g.policy p).min ↔
          ¬ (g.policy p).Contains (g.info c).requestedFreq := by
      rw [CpufreqPolicy.Contains, not_and_or, BitVec.not_le, BitVec.not_le, or_comm]
    refine (if_pos enabled).trans ((congrArg (Option.map _) current).trans ?_)
    simp only [Option.map_some, outside_iff]
    by_cases inside : (g.policy p).Contains (g.info c).requestedFreq
    · rw [if_neg (not_not.mpr inside), CpuDbsInfo.follow_of_contains current inside, same]
    · rw [if_pos inside, CpuDbsInfo.follow_of_not_contains current enabled inside]
  · rw [CpuDbsInfo.follow_of_disabled (Bool.eq_false_of_not_eq_true enabled), same]
    exact if_neg enabled

/-- Changing a CPU keeps the policies in place, if it has one or is not enabled. -/
theorem Pointed.setInfo (pointed : g.Pointed) {c : Fin n} {info : CpuDbsInfo n}
    (still : info.enable = true → info.curPolicy.isSome = true) : (g.setInfo c info).Pointed := by
  intro d
  by_cases same : d = c
  · subst same
    simp only [Dbs.setInfo, Function.update_self]
    exact still
  · simp only [Dbs.setInfo, Function.update_of_ne same]
    exact pointed d

/-- The notifier is called for one CPU after the other. -/
theorem exec_dbsCpufreqNotifier (pointed : g.Pointed) (new : U32) (notified : List (Fin n)) :
    exec (dbsCpufreqNotifier new) g notified =
      some { g with
        info := Pointwise.changeAll (fun _ info => info.follow g.policy new) notified g.info } := by
  induction notified generalizing g with
  | nil => rw [Pointwise.changeAll_nil, exec_nil]
  | cons c rest ih =>
      have still : (g.setInfo c ((g.info c).follow g.policy new)).Pointed :=
        pointed.setInfo fun enabled => by
          rw [CpuDbsInfo.follow_eq] at enabled ⊢
          exact pointed c enabled
      rw [exec_cons, dbsCpufreqNotifier_of_pointed pointed, Option.bind_some, ih still,
        Pointwise.changeAll_cons fun _ _ => CpuDbsInfo.follow_follow ..]
      rfl

/-- With all policies in place, a transition reaches every CPU that is notified. -/
theorem notifyTransition_of_pointed (pointed : g.Pointed) (p : Fin n) (transition : Transition n) :
    g.notifyTransition p transition = some (g.transitioned p transition) := by
  unfold notifyTransition
  rw [exec_dbsCpufreqNotifier pointed, Option.map_some]
  rfl

/-- The governor after a call of `__cpufreq_driver_target`. -/
def driven (g : Dbs n) (env : DbsEnv n) (p : Fin n) (target : U32) (relation : Relation) : Dbs n :=
  let request : DbsRequest n := ⟨p, (g.policy p).toCpufreqPolicy, target, relation⟩
  let asked : Dbs n := { g with requests := g.requests ++ [request] }
  match env.drive request with
  | none => asked
  | some transition => asked.transitioned p transition

/-- With all policies in place, a request to the driver is carried out. -/
theorem driverTarget_of_pointed (pointed : g.Pointed) (env : DbsEnv n) (p : Fin n) (target : U32)
    (relation : Relation) :
    g.driverTarget env p target relation = some (g.driven env p target relation) := by
  simp only [driverTarget, driven]
  cases env.drive ⟨p, (g.policy p).toCpufreqPolicy, target, relation⟩ with
  | none => rfl
  | some transition =>
      have still : Pointed { g with requests := g.requests ++
          [⟨p, (g.policy p).toCpufreqPolicy, target, relation⟩] } := pointed
      exact notifyTransition_of_pointed still p transition

/-! ### Reading the CPUs -/

theorem sampleCpus_cons (env : DbsEnv n) (g : Dbs n) (load : U32) (j : Fin n)
    (rest : List (Fin n)) :
    (j :: rest).foldl (sampleCpu clock env) (g, load) =
      rest.foldl (sampleCpu clock env)
        (g.setInfo j ((g.info j).rebase clock g.tuners.ignoreNice (env.times j)),
          ((g.info j).sampleLoad clock g.tuners.ignoreNice (env.times j)).getD load) := rfl

/-- The CPUs of the policy start new samples. -/
def rebased (clock : JiffyClock) (env : DbsEnv n) (g : Dbs n) (cpus : List (Fin n)) : Dbs n :=
  { g with
    info := Pointwise.changeAll
      (fun j info => info.rebase clock g.tuners.ignoreNice (env.times j)) cpus g.info }

/-- A CPU in the list gets a new base. -/
theorem rebased_info_of_mem (clock : JiffyClock) (env : DbsEnv n) {cpus : List (Fin n)}
    {j : Fin n} (member : j ∈ cpus) :
    (g.rebased clock env cpus).info j =
      (g.info j).rebase clock g.tuners.ignoreNice (env.times j) :=
  if_pos member

/-- The other CPUs keep their base. -/
theorem rebased_info_of_notMem (clock : JiffyClock) (env : DbsEnv n) {cpus : List (Fin n)}
    {j : Fin n} (outside : j ∉ cpus) :
    (g.rebased clock env cpus).info j = g.info j :=
  if_neg outside

/-- The loop over the CPUs samples each of them. -/
theorem foldl_sampleCpu_fst (load : U32) (cpus : List (Fin n)) :
    (cpus.foldl (sampleCpu clock env) (g, load)).1 = g.rebased clock env cpus := by
  unfold rebased
  induction cpus generalizing g load with
  | nil => rw [Pointwise.changeAll_nil, List.foldl_nil]
  | cons j rest ih =>
      rw [sampleCpus_cons, ih, Pointwise.changeAll_cons fun _ _ => CpuDbsInfo.rebase_rebase ..]
      rfl

/-- The loads of the samples that count, in the order of the loop. -/
def sampleLoads (clock : JiffyClock) (env : DbsEnv n) (g : Dbs n) (cpus : List (Fin n)) :
    List U32 :=
  cpus.filterMap fun j => (g.info j).sampleLoad clock g.tuners.ignoreNice (env.times j)

/-- The load that `dbs_check_cpu` uses. -/
theorem foldl_sampleCpu_snd (load : U32) {cpus : List (Fin n)} (nodup : cpus.Nodup) :
    (cpus.foldl (sampleCpu clock env) (g, load)).2 =
      ((g.sampleLoads clock env cpus).getLast?).getD load := by
  induction cpus generalizing g load with
  | nil => rfl
  | cons j rest ih =>
      obtain ⟨fresh, nodup⟩ := List.nodup_cons.mp nodup
      have others : (g.setInfo j ((g.info j).rebase clock g.tuners.ignoreNice
          (env.times j))).sampleLoads clock env rest = g.sampleLoads clock env rest := by
        apply List.filterMap_congr
        intro d member
        have different : d ≠ j := fun same => fresh (same ▸ member)
        simp only [setInfo, Function.update_of_ne different]
      rw [sampleCpus_cons, ih _ nodup, others]
      unfold sampleLoads
      rw [List.filterMap_cons]
      cases (g.info j).sampleLoad clock g.tuners.ignoreNice (env.times j) with
      | none => rfl
      | some first => simp only [List.getLast?_cons, Option.getD_some]

/-! ### The work item -/

/-- The load that `dbs_check_cpu` finds. -/
def checkedLoad (clock : JiffyClock) (env : DbsEnv n) (g : Dbs n) (p : Fin n) : U32 :=
  (g.sampleLoads clock env (g.policy p).cpus).getLast?.getD 0

/-- The governor after the rest of `dbs_check_cpu`. -/
def scaled (g : Dbs n) (env : DbsEnv n) (c p : Fin n) (load : U32) : Dbs n :=
  let changed := g.setInfo c ((g.info c).scale g.tuners (g.policy p).toCpufreqPolicy load).1
  match ((g.info c).scale g.tuners (g.policy p).toCpufreqPolicy load).2 with
  | none => changed
  | some target => changed.driven env p target .H

end Dbs

/-- Neither scaling nor the notifier touches what `GOV_START` and `GOV_STOP` set. -/
def CpuDbsInfo.life {n : Nat} (info : CpuDbsInfo n) :
    Option (Fin n) × Option QueuedWork × Nat × Bool :=
  (info.curPolicy, info.work, info.cpu, info.enable)

section Life

variable {n : Nat} (info : CpuDbsInfo n)

@[simp] theorem CpuDbsInfo.scale_life (tuners : DbsTuners) (policy : CpufreqPolicy) (load : U32) :
    (info.scale tuners policy load).1.life = info.life := by
  simp only [CpuDbsInfo.scale]
  split_ifs <;> rfl

@[simp] theorem CpuDbsInfo.rebase_life (clock : JiffyClock) (ignoreNice : U32) (times : CpuTimes) :
    (info.rebase clock ignoreNice times).life = info.life := rfl

@[simp] theorem CpuDbsInfo.rebase_requestedFreq (clock : JiffyClock) (ignoreNice : U32)
    (times : CpuTimes) :
    (info.rebase clock ignoreNice times).requestedFreq = info.requestedFreq := rfl

@[simp] theorem CpuDbsInfo.follow_life (policy : Fin n → DbsPolicy n) (new : U32) :
    (info.follow policy new).life = info.life := by
  rw [CpuDbsInfo.follow_eq]
  rfl

end Life

namespace Dbs

variable {n : Nat} {clock : JiffyClock} {g after : Dbs n} {env : DbsEnv n}

/-- Nothing differs that `GOV_START` or `GOV_STOP` sets, and no limits. -/
structure SameLife (before after : Dbs n) : Prop where
  tuners : after.tuners = before.tuners
  minSamplingRate : after.minSamplingRate = before.minSamplingRate
  dbsEnable : after.dbsEnable = before.dbsEnable
  registered : after.registered = before.registered
  group : after.group = before.group
  phase : after.phase = before.phase
  policy (p : Fin n) : after.policy p = { before.policy p with cur := (after.policy p).cur }
  life (c : Fin n) : (after.info c).life = (before.info c).life

theorem SameLife.refl (g : Dbs n) : SameLife g g where
  tuners := rfl
  minSamplingRate := rfl
  dbsEnable := rfl
  registered := rfl
  group := rfl
  phase := rfl
  policy _ := rfl
  life _ := rfl

theorem SameLife.trans {first second third : Dbs n} (before : SameLife first second)
    (later : SameLife second third) : SameLife first third where
  tuners := later.tuners.trans before.tuners
  minSamplingRate := later.minSamplingRate.trans before.minSamplingRate
  dbsEnable := later.dbsEnable.trans before.dbsEnable
  registered := later.registered.trans before.registered
  group := later.group.trans before.group
  phase := later.phase.trans before.phase
  policy p := by
    have same := later.policy p
    rw [before.policy p] at same
    exact same
  life c := (later.life c).trans (before.life c)

section SameLife

variable (same : SameLife g after) (c : Fin n)
include same

theorem SameLife.curPolicy : (after.info c).curPolicy = (g.info c).curPolicy :=
  congrArg Prod.fst (same.life c)

theorem SameLife.work : (after.info c).work = (g.info c).work :=
  congrArg (·.2.1) (same.life c)

theorem SameLife.cpu : (after.info c).cpu = (g.info c).cpu :=
  congrArg (·.2.2.1) (same.life c)

theorem SameLife.enable : (after.info c).enable = (g.info c).enable :=
  congrArg (·.2.2.2) (same.life c)

theorem SameLife.cpus : (after.policy c).cpus = (g.policy c).cpus := by
  rw [same.policy c]

theorem SameLife.limits : (after.policy c).limits = (g.policy c).limits := by
  rw [same.policy c]
  rfl

theorem SameLife.live_iff : after.Live c ↔ g.Live c := by
  rw [Live, Live, same.phase]

/-- The policies in place stay there. -/
theorem SameLife.pointed (pointed : g.Pointed) : after.Pointed := by
  intro c enabled
  rw [same.curPolicy c]
  rw [same.enable c] at enabled
  exact pointed c enabled

end SameLife

theorem sameLife_setInfo {c : Fin n} {info : CpuDbsInfo n} (life : info.life = (g.info c).life) :
    SameLife g (g.setInfo c info) where
  tuners := rfl
  minSamplingRate := rfl
  dbsEnable := rfl
  registered := rfl
  group := rfl
  phase := rfl
  policy _ := rfl
  life d := by
    by_cases same : d = c
    · subst same
      simp only [setInfo, Function.update_self, life]
    · simp only [setInfo, Function.update_of_ne same]

/-- A transition changes no CPU's life. -/
theorem sameLife_transitioned (g : Dbs n) (p : Fin n) (transition : Transition n) :
    SameLife g (g.transitioned p transition) where
  tuners := rfl
  minSamplingRate := rfl
  dbsEnable := rfl
  registered := rfl
  group := rfl
  phase := rfl
  policy q := by
    by_cases same : q = p
    · subst same
      simp only [transitioned, Function.update_self]
    · simp only [transitioned, Function.update_of_ne same]
  life c := Pointwise.changeAll_forall
    (fun i info => CpuDbsInfo.life info = (g.info i).life) (fun _ => rfl)
    (fun _ info same => (info.follow_life _ _).trans same) c

/-- A request to the driver changes no CPU's life. -/
theorem sameLife_driven (g : Dbs n) (env : DbsEnv n) (p : Fin n) (target : U32)
    (relation : Relation) : SameLife g (g.driven env p target relation) := by
  have asked : SameLife g { g with requests := g.requests ++
      [⟨p, (g.policy p).toCpufreqPolicy, target, relation⟩] } :=
    { SameLife.refl g with }
  simp only [driven]
  split
  · exact asked
  · exact asked.trans (sameLife_transitioned ..)

/-- Sampling changes no CPU's life. -/
theorem sameLife_rebased (clock : JiffyClock) (env : DbsEnv n) (g : Dbs n) (cpus : List (Fin n)) :
    SameLife g (g.rebased clock env cpus) where
  tuners := rfl
  minSamplingRate := rfl
  dbsEnable := rfl
  registered := rfl
  group := rfl
  phase := rfl
  policy _ := rfl
  life c := Pointwise.changeAll_forall
    (fun i info => CpuDbsInfo.life info = (g.info i).life) (fun _ => rfl)
    (fun _ info same => (info.rebase_life _ _ _).trans same) c

/-- Scaling changes no CPU's life. -/
theorem sameLife_scaled (g : Dbs n) (env : DbsEnv n) (c p : Fin n) (load : U32) :
    SameLife g (g.scaled env c p load) := by
  have changed := sameLife_setInfo (g := g) (c := c)
    ((g.info c).scale_life g.tuners (g.policy p).toCpufreqPolicy load)
  simp only [scaled]
  split
  · exact changed
  · exact changed.trans (sameLife_driven ..)

/-- The governor after `dbs_check_cpu`. -/
def checked (clock : JiffyClock) (g : Dbs n) (env : DbsEnv n) (c p : Fin n) : Dbs n :=
  (g.rebased clock env (g.policy p).cpus).scaled env c p (g.checkedLoad clock env p)

theorem sameLife_checked (clock : JiffyClock) (g : Dbs n) (env : DbsEnv n) (c p : Fin n) :
    SameLife g (g.checked clock env c p) :=
  (sameLife_rebased ..).trans (sameLife_scaled ..)

/-- With all policies in place, a check samples and scales its CPU. -/
theorem dbsCheckCpu_of_pointed (pointed : g.Pointed) {c p : Fin n}
    (current : (g.info c).curPolicy = some p) (nodup : (g.policy p).cpus.Nodup) :
    dbsCheckCpu clock g env c = some (g.checked clock env c p) := by
  have sampled : g.sampleCpus clock env (g.policy p).cpus =
      (g.rebased clock env (g.policy p).cpus, g.checkedLoad clock env p) :=
    Prod.ext (foldl_sampleCpu_fst ..) (foldl_sampleCpu_snd 0 nodup)
  have still := (sameLife_rebased clock env g (g.policy p).cpus).pointed pointed
  rw [dbsCheckCpu, current, Option.bind_some, sampled]
  simp only [scaleCpu, checked, scaled]
  cases (((g.rebased clock env (g.policy p).cpus).info c).scale
    (g.rebased clock env (g.policy p).cpus).tuners
    ((g.rebased clock env (g.policy p).cpus).policy p).toCpufreqPolicy
    (g.checkedLoad clock env p)).2 with
  | none => rfl
  | some target =>
      exact driverTarget_of_pointed ((sameLife_setInfo (CpuDbsInfo.scale_life ..)).pointed still) ..

/-- The jiffy a work that is queued now is due. -/
def expiry (clock : JiffyClock) (g : Dbs n) (env : DbsEnv n) : Nat :=
  env.jiffies + (clock.delay g.tuners.samplingRate env.jiffies).toNat

/-- The governor after `do_dbs_timer`. -/
def timerRan (clock : JiffyClock) (g : Dbs n) (env : DbsEnv n) (c p : Fin n) : Dbs n :=
  let checked := (g.setInfo c { g.info c with work := none }).checked clock env c p
  checked.setInfo c { checked.info c with work := some ⟨(g.info c).cpu, g.expiry clock env⟩ }

/-- With all policies in place, the work checks its CPU and queues itself again. -/
theorem doDbsTimer_of_pointed (clock : JiffyClock) (env : DbsEnv n) (pointed : g.Pointed)
    {c p : Fin n}
    (current : (g.info c).curPolicy = some p) (nodup : (g.policy p).cpus.Nodup) :
    doDbsTimer clock g env c = some (g.timerRan clock env c p) := by
  have taken : (g.setInfo c { g.info c with work := none }).Pointed :=
    pointed.setInfo (pointed c)
  have points : ((g.setInfo c { g.info c with work := none }).info c).curPolicy = some p := by
    simp only [setInfo, Function.update_self, current]
  have idle := (sameLife_checked clock (g.setInfo c { g.info c with work := none }) env c p).work c
  simp only [setInfo, Function.update_self] at idle
  simp only [doDbsTimer]
  rw [dbsCheckCpu_of_pointed taken points nodup, Option.map_some]
  simp only [timerRan, CpuDbsInfo.queueDelayedWorkOn]
  rw [if_neg]
  · rfl
  · simp only [setInfo, idle, Option.isSome_none, Bool.false_eq_true, not_false_eq_true]

/-- What the expiry of a CPU changes of what `GOV_START` and `GOV_STOP` set. -/
theorem sameLife_timerRan (clock : JiffyClock) (g : Dbs n) (env : DbsEnv n) (c p : Fin n) :
    SameLife (g.setInfo c { g.info c with work := some ⟨(g.info c).cpu, g.expiry clock env⟩ })
      (g.timerRan clock env c p) := by
  have same := sameLife_checked clock (g.setInfo c { g.info c with work := none }) env c p
  refine { same with life := fun d => ?_ }
  have life := same.life d
  by_cases here : d = c
  · subst here
    simp only [timerRan, setInfo, Function.update_self, CpuDbsInfo.life, Prod.mk.injEq] at life ⊢
    exact ⟨life.1, trivial, life.2.2⟩
  · simp only [timerRan, setInfo, Function.update_of_ne here] at life ⊢
    exact life

/-! ### Governor events -/

/-- The governor after `GOV_LIMITS`. -/
def limitsDriven (g : Dbs n) (env : DbsEnv n) (c p : Fin n) : Dbs n :=
  if (g.policy c).max < (g.policy p).cur then g.driven env p (g.policy c).max .H
  else if (g.policy p).cur < (g.policy c).min then g.driven env p (g.policy c).min .L
  else g

/-- With all policies in place, a limit change drives the CPU into the limits. -/
theorem governorLimits_of_pointed (pointed : g.Pointed) {c p : Fin n}
    (current : (g.info c).curPolicy = some p) :
    g.governorLimits env c = some (g.limitsDriven env c p) := by
  rw [governorLimits, current, Option.bind_some]
  simp only [limitsDriven]
  split_ifs
  · exact driverTarget_of_pointed pointed ..
  · exact driverTarget_of_pointed pointed ..
  · rfl

/-- A limit change changes no CPU's life. -/
theorem sameLife_limitsDriven (g : Dbs n) (env : DbsEnv n) (c p : Fin n) :
    SameLife g (g.limitsDriven env c p) := by
  unfold limitsDriven
  split_ifs
  · exact sameLife_driven ..
  · exact sameLife_driven ..
  · exact SameLife.refl g

theorem startCpus_eq (g : Dbs n) (p : Fin n) (cpus : List (Fin n)) :
    g.startCpus clock env p cpus =
      { g with
        info := Pointwise.changeAll (fun j info =>
          { info with curPolicy := some p }.rebase clock g.tuners.ignoreNice (env.times j))
          cpus g.info } := by
  unfold startCpus
  induction cpus generalizing g with
  | nil => rw [Pointwise.changeAll_nil, List.foldl_nil]
  | cons j rest ih =>
      rw [List.foldl_cons, ih, Pointwise.changeAll_cons fun _ info => by
        exact CpuDbsInfo.rebase_rebase ({ info with curPolicy := some p }) ..]
      rfl

end Dbs

end Jordan.Cpufreq
