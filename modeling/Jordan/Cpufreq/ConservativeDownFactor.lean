import Jordan.Cpufreq.ConservativeEffects

/-! # The sampling down factor has no effect

The comment of `dbs_check_cpu` says that the frequency is decreased every
`sampling_rate * sampling_down_factor` only. The code stores `sampling_down_factor` and
never reads it, and sets `down_skip` without reading it. Two runs that differ only in
what is written to that file differ in nothing else
(`Jordan.Cpufreq.Dbs.samplingDownFactor_inert`).
-/

namespace Jordan.Cpufreq

open Execution

/-- A store to `sampling_down_factor` is replaced by one that is refused. -/
def DbsEvent.blind {n : Nat} : DbsEvent n → DbsEvent n
  | .store .samplingDownFactor _ => .store .samplingDownFactor none
  | event => event

def DbsAction.blind {n : Nat} (action : DbsAction n) : DbsAction n :=
  { action with event := action.event.blind }

/-- The tunables without `sampling_down_factor`. -/
def DbsTuners.erase (tuners : DbsTuners) : DbsTuners := { tuners with samplingDownFactor := 1 }

/-- The data of a CPU without `down_skip`. -/
def CpuDbsInfo.erase {n : Nat} (info : CpuDbsInfo n) : CpuDbsInfo n := { info with downSkip := 0 }

/-- Scaling does not read the factor. -/
theorem CpuDbsInfo.scale_erase {n : Nat} (info : CpuDbsInfo n) (tuners : DbsTuners)
    (policy : CpufreqPolicy) (load : U32) :
    info.erase.scale tuners.erase policy load =
      ((info.scale tuners policy load).1.erase, (info.scale tuners policy load).2) := by
  have target : tuners.erase.freqTarget policy = tuners.freqTarget policy := rfl
  have still_iff : tuners.erase.freqStep = 0 ↔ tuners.freqStep = 0 := Iff.rfl
  have above_iff : tuners.erase.upThreshold < load ↔ tuners.upThreshold < load := Iff.rfl
  have below_iff : load < tuners.erase.downThreshold - 10 ↔ load < tuners.downThreshold - 10 :=
    Iff.rfl
  have full_iff : info.erase.requestedFreq = policy.max ↔ info.requestedFreq = policy.max :=
    Iff.rfl
  simp only [scale, target, still_iff, above_iff, below_iff, full_iff]
  by_cases still : tuners.freqStep = 0
  · rw [if_pos still, if_pos still]
  · rw [if_neg still, if_neg still]
    by_cases above : tuners.upThreshold < load
    · rw [if_pos above, if_pos above]
      by_cases full : info.requestedFreq = policy.max
      · rw [if_pos full, if_pos full]
        rfl
      · rw [if_neg full, if_neg full]
        rfl
    · rw [if_neg above, if_neg above]
      by_cases below : load < tuners.downThreshold - 10
      · rw [if_pos below, if_pos below]
        rfl
      · rw [if_neg below, if_neg below]

namespace Dbs

variable {n : Nat} (clock : JiffyClock) (g : Dbs n) (env : DbsEnv n)

/-- The governor without them. -/
def erase : Dbs n :=
  { g with tuners := g.tuners.erase, info := fun c => (g.info c).erase }

theorem setInfo_erase (c : Fin n) (info : CpuDbsInfo n) :
    (g.setInfo c info).erase = g.erase.setInfo c info.erase := by
  have updated : (fun d => (Function.update g.info c info d).erase) =
      Function.update (fun d => (g.info d).erase) c info.erase := by
    funext d
    by_cases here : d = c
    · subst here
      rw [Function.update_self, Function.update_self]
    · rw [Function.update_of_ne here, Function.update_of_ne here]
  simp only [erase, setInfo, updated]

/-- The notifier does not read the factor. -/
theorem dbsCpufreqNotifier_erase (new : U32) (c : Fin n) :
    dbsCpufreqNotifier new g.erase c = (dbsCpufreqNotifier new g c).map erase := by
  have moved (p : Fin n) :
      (if (g.policy p).max < (g.info c).requestedFreq ∨ (g.info c).requestedFreq < (g.policy p).min
        then g.setInfo c { g.info c with requestedFreq := new } else g).erase =
      if (g.policy p).max < (g.info c).requestedFreq ∨ (g.info c).requestedFreq < (g.policy p).min
        then g.erase.setInfo c { (g.info c).erase with requestedFreq := new } else g.erase := by
    rw [apply_ite erase, setInfo_erase]
    rfl
  simp only [dbsCpufreqNotifier]
  by_cases enabled : (g.info c).enable = true
  · rw [if_pos enabled, if_pos (show (g.erase.info c).enable = true from enabled), Option.map_map]
    exact congrFun (congrArg Option.map (funext fun p => (moved p).symm)) _
  · rw [if_neg enabled, if_neg (show ¬ (g.erase.info c).enable = true from enabled)]
    rfl

/-- A transition does not read the factor. -/
theorem notifyTransition_erase (p : Fin n) (transition : Transition n) :
    g.erase.notifyTransition p transition = (g.notifyTransition p transition).map erase := by
  have notified (told : List (Fin n)) : exec (dbsCpufreqNotifier transition.new) g.erase told =
      (exec (dbsCpufreqNotifier transition.new) g told).map erase :=
    (exec_simulates (fun _ => True) erase (fun _ _ _ _ _ => trivial)
      (fun g c _ => (dbsCpufreqNotifier_erase g transition.new c).symm) trivial told).symm
  have registered : g.erase.registered = g.registered := rfl
  simp only [notifyTransition]
  rw [registered, notified, Option.map_map, Option.map_map]
  rfl

/-- A request to the driver does not read the factor. -/
theorem driverTarget_erase (p : Fin n) (target : U32) (relation : Relation) :
    g.erase.driverTarget env p target relation =
      (g.driverTarget env p target relation).map erase := by
  have policy : g.erase.policy = g.policy := rfl
  simp only [driverTarget, policy]
  cases env.drive ⟨p, (g.policy p).toCpufreqPolicy, target, relation⟩ with
  | none => rfl
  | some transition =>
      exact notifyTransition_erase ({ g with requests := g.requests ++
        [⟨p, (g.policy p).toCpufreqPolicy, target, relation⟩] }) p transition

/-! ## The work item -/

/-- Sampling the loads does not read the factor. -/
theorem sampleCpus_erase (load : U32) (cpus : List (Fin n)) :
    cpus.foldl (sampleCpu clock env) (g.erase, load) =
      ((cpus.foldl (sampleCpu clock env) (g, load)).1.erase,
        (cpus.foldl (sampleCpu clock env) (g, load)).2) := by
  induction cpus generalizing g load with
  | nil => rfl
  | cons j rest ih =>
      have read : g.erase.setInfo j ((g.erase.info j).rebase clock g.erase.tuners.ignoreNice
          (env.times j)) = (g.setInfo j ((g.info j).rebase clock g.tuners.ignoreNice
            (env.times j))).erase :=
        (setInfo_erase g j ((g.info j).rebase clock g.tuners.ignoreNice (env.times j))).symm
      rw [sampleCpus_cons, sampleCpus_cons, read]
      exact ih _ _

/-- Scaling a CPU does not read the factor. -/
theorem scaleCpu_erase (c p : Fin n) (load : U32) :
    g.erase.scaleCpu env c p load = (g.scaleCpu env c p load).map erase := by
  have scaled := (g.info c).scale_erase g.tuners (g.policy p).toCpufreqPolicy load
  have same : (g.erase.info c).scale g.erase.tuners (g.erase.policy p).toCpufreqPolicy load =
      (((g.info c).scale g.tuners (g.policy p).toCpufreqPolicy load).1.erase,
        ((g.info c).scale g.tuners (g.policy p).toCpufreqPolicy load).2) := scaled
  simp only [scaleCpu]
  rw [same]
  simp only [← setInfo_erase]
  cases ((g.info c).scale g.tuners (g.policy p).toCpufreqPolicy load).2 with
  | none => rfl
  | some target => exact driverTarget_erase _ env p target .H

/-- A check does not read the factor. -/
theorem dbsCheckCpu_erase (c : Fin n) :
    dbsCheckCpu clock g.erase env c = (dbsCheckCpu clock g env c).map erase := by
  have points : (g.erase.info c).curPolicy = (g.info c).curPolicy := rfl
  simp only [dbsCheckCpu]
  rw [points]
  cases (g.info c).curPolicy with
  | none => rfl
  | some p =>
      rw [Option.bind_some, Option.bind_some]
      have sampled := sampleCpus_erase clock g env 0 (g.policy p).cpus
      have same : g.erase.sampleCpus clock env (g.erase.policy p).cpus =
          ((g.sampleCpus clock env (g.policy p).cpus).1.erase,
            (g.sampleCpus clock env (g.policy p).cpus).2) := sampled
      rw [same]
      exact scaleCpu_erase ..

theorem queueDelayedWorkOn_erase (info : CpuDbsInfo n) (cpu expiry : Nat) :
    (info.queueDelayedWorkOn cpu expiry).erase = info.erase.queueDelayedWorkOn cpu expiry := by
  have work : info.erase.work = info.work := rfl
  unfold CpuDbsInfo.queueDelayedWorkOn
  rw [work, apply_ite CpuDbsInfo.erase]
  rfl

/-- An expiry does not read the factor. -/
theorem doDbsTimer_erase (c : Fin n) :
    doDbsTimer clock g.erase env c = (doDbsTimer clock g env c).map erase := by
  have taken : g.erase.setInfo c { g.erase.info c with work := none } =
      (g.setInfo c { g.info c with work := none }).erase :=
    (setInfo_erase g c { g.info c with work := none }).symm
  simp only [doDbsTimer]
  rw [taken, dbsCheckCpu_erase, Option.map_map, Option.map_map]
  refine congrFun (congrArg Option.map (funext fun checked => ?_)) _
  simp only [Function.comp_apply]
  rw [setInfo_erase, queueDelayedWorkOn_erase]
  rfl

/-! ## Governor events -/

theorem startCpus_erase (p : Fin n) (cpus : List (Fin n)) :
    g.erase.startCpus clock env p cpus = (g.startCpus clock env p cpus).erase := by
  unfold startCpus
  induction cpus generalizing g with
  | nil => rfl
  | cons j rest ih =>
      rw [List.foldl_cons, List.foldl_cons, ← ih, setInfo_erase]
      rfl

theorem startCpu_erase (c : Fin n) :
    g.erase.startCpu clock env c = (g.startCpu clock env c).erase := by
  have started := startCpus_erase clock { g with group := Function.update g.group c true } env c
    (g.policy c).cpus
  have same : startCpus clock env { g.erase with group := Function.update g.erase.group c true } c
      (g.erase.policy c).cpus = (startCpus clock env
        { g with group := Function.update g.group c true } c (g.policy c).cpus).erase := started
  simp only [startCpu]
  rw [same, setInfo_erase]
  rfl

theorem countStart_erase (policy : DbsPolicy n) :
    g.erase.countStart clock policy = (g.countStart clock policy).erase := by
  simp only [countStart]
  rw [apply_ite erase]
  rfl

/-- `CPUFREQ_GOV_START` does not read the factor. -/
theorem governorStart_erase (c : Fin n) (rc : Option Errno) :
    (g.erase.governorStart clock env c rc).1 = (g.governorStart clock env c rc).1.erase := by
  have policy : g.erase.policy = g.policy := rfl
  simp only [governorStart, policy]
  by_cases refused : env.online c = false ∨ (g.policy c).cur = 0
  · rw [if_pos refused, if_pos refused]
  · rw [if_neg refused, if_neg refused]
    cases rc with
    | some errno => rfl
    | none =>
        simp only [startCpu_erase, countStart_erase]
        rfl

/-- `CPUFREQ_GOV_LIMITS` does not read the factor. -/
theorem governorLimits_erase (c : Fin n) :
    g.erase.governorLimits env c = (g.governorLimits env c).map erase := by
  have points : (g.erase.info c).curPolicy = (g.info c).curPolicy := rfl
  have policy : g.erase.policy = g.policy := rfl
  simp only [governorLimits, points, policy]
  cases (g.info c).curPolicy with
  | none => rfl
  | some p =>
      rw [Option.bind_some, Option.bind_some]
      split_ifs
      · exact driverTarget_erase ..
      · exact driverTarget_erase ..
      · rfl

/-! ## Stores -/

/-- The tunables that are left are stored in the same way. -/
theorem tuners_store_erase (tuners : DbsTuners) (minimum : U32) {tunable : DbsTunable}
    (other : tunable ≠ .samplingDownFactor) (input : Option U32) :
    tuners.erase.store minimum tunable input =
      (tuners.store minimum tunable input).map DbsTuners.erase := by
  have down : tuners.erase.downThreshold = tuners.downThreshold := rfl
  have up : tuners.erase.upThreshold = tuners.upThreshold := rfl
  cases input with
  | none => rfl
  | some input =>
      cases tunable with
      | samplingDownFactor => exact absurd rfl other
      | samplingRate => rfl
      | ignoreNiceLoad => rfl
      | freqStep => rfl
      | upThreshold =>
          simp only [DbsTuners.store, down]
          rw [apply_ite (Except.map DbsTuners.erase)]
          rfl
      | downThreshold =>
          simp only [DbsTuners.store, up]
          rw [apply_ite (Except.map DbsTuners.erase)]
          rfl

/-- The stores of the other tunables do not read the factor. -/
theorem store_erase {tunable : DbsTunable} (other : tunable ≠ .samplingDownFactor)
    (input : Option U32) :
    (g.erase.store clock env tunable input).1 = (g.store clock env tunable input).1.erase := by
  have minimum : g.erase.minSamplingRate = g.minSamplingRate := rfl
  have stored : g.erase.tuners.store g.minSamplingRate tunable input =
      (g.tuners.store g.minSamplingRate tunable input).map DbsTuners.erase :=
    tuners_store_erase g.tuners g.minSamplingRate other input
  simp only [store, minimum]
  rw [stored]
  cases g.tuners.store g.minSamplingRate tunable input with
  | error errno => rfl
  | ok tuners =>
      have unchanged_iff : tuners.erase.ignoreNice = g.erase.tuners.ignoreNice ↔
          tuners.ignoreNice = g.tuners.ignoreNice := Iff.rfl
      simp only [Except.map, unchanged_iff]
      by_cases unchanged : tuners.ignoreNice = g.tuners.ignoreNice
      · rw [if_pos unchanged, if_pos unchanged]
        rfl
      · rw [if_neg unchanged, if_neg unchanged]
        simp only [rebaseOnline, erase]
        congr 1
        funext j
        rw [apply_ite CpuDbsInfo.erase]
        rfl

/-- A store to `sampling_down_factor` changes nothing else. -/
theorem store_samplingDownFactor_erase (input : Option U32) :
    (g.store clock env .samplingDownFactor input).1.erase = g.erase := by
  simp only [store]
  cases stored : g.tuners.store g.minSamplingRate .samplingDownFactor input with
  | error errno => rfl
  | ok tuners =>
      cases input with
      | none => cases stored
      | some input =>
          simp only [DbsTuners.store] at stored
          split at stored
          · cases stored
          · obtain rfl := Except.ok.inj stored
            simp only [↓reduceIte]
            rfl

/-! ## Steps and runs -/

/-- No event reads the factor. -/
theorem handle_erase (event : DbsEvent n) :
    g.erase.handle clock env event.blind = (g.handle clock env event).map erase := by
  cases event with
  | start c policy rc =>
      exact congrArg some (governorStart_erase clock (g.setPolicy c policy) env c rc)
  | startTimer c =>
      exact congrArg (fun g => some (setPhase g c .running))
        (setInfo_erase g c { g.info c with
          enable := true, work := some ⟨(g.info c).cpu, g.expiry clock env⟩ }).symm
  | work c => exact doDbsTimer_erase clock g env c
  | limits c min max =>
      exact governorLimits_erase (g.setPolicy c { g.policy c with min := min, max := max }) env c
  | transition p transition => exact notifyTransition_erase g p transition
  | store tunable input =>
      by_cases factor : tunable = .samplingDownFactor
      · subst factor
        exact congrArg some (store_samplingDownFactor_erase clock g env input).symm
      · have same : (DbsEvent.store tunable input : DbsEvent n).blind = .store tunable input := by
          cases tunable <;> first | rfl | exact absurd rfl factor
        rw [same]
        exact congrArg some (store_erase clock g env factor input)
  | stopDisable c =>
      exact congrArg (fun g => some (setPhase g c .disabled))
        (setInfo_erase g c { g.info c with enable := false }).symm
  | stopCancel c =>
      exact congrArg (fun g => some (setPhase g c .cancelled))
        (setInfo_erase g c { g.info c with work := none }).symm
  | stopFinish c => rfl

theorem enabled_erase (event : DbsEvent n) :
    g.erase.Enabled env event.blind ↔ g.Enabled env event := by
  cases event with
  | store tunable input => cases tunable <;> exact Iff.rfl
  | _ => exact Iff.rfl

theorem step_erase (action : DbsAction n) :
    g.erase.step clock action.blind = (g.step clock action).map erase := by
  have enabled := enabled_erase g action.env action.event
  have handled := handle_erase clock g action.env action.event
  unfold step
  by_cases here : g.Enabled action.env action.event
  · rw [if_pos here]
    exact (if_pos (enabled.mpr here)).trans handled
  · rw [if_neg here]
    exact if_neg (mt enabled.mp here)

theorem blind_blind (action : DbsAction n) : action.blind.blind = action.blind := by
  obtain ⟨event, env⟩ := action
  cases event with
  | store tunable input => cases tunable <;> rfl
  | _ => rfl

/-- **The sampling down factor is inert.** If every store to `sampling_down_factor` were
refused, every run would lead to the same state but for that tunable: the same
frequencies are requested, and the same works are pending. -/
theorem samplingDownFactor_inert (clock : JiffyClock) (policy : Fin n → DbsPolicy n)
    (actions : List (DbsAction n)) :
    (exec (step clock) (init policy) (actions.map DbsAction.blind)).map erase =
      (exec (step clock) (init policy) actions).map erase := by
  have erased (actions : List (DbsAction n)) :
      (exec (step clock) (init policy) actions).map erase =
        exec (step clock) (init policy).erase (actions.map DbsAction.blind) := by
    generalize init policy = g
    induction actions generalizing g with
    | nil => rfl
    | cons action rest ih =>
        rw [List.map_cons, exec_cons, exec_cons, step_erase, Option.map_bind, Option.bind_map]
        exact Option.bind_congr fun next _ => ih next
  rw [erased, erased, List.map_map, Function.comp_def]
  simp only [blind_blind]

end Dbs

end Jordan.Cpufreq
