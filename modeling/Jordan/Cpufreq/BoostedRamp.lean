import Jordan.Cpufreq.BoostedGovernor
import Jordan.Cpufreq.BoostedTarget

/-! # The direction of a ramp

A pass of the work item that ramps a CPU up asks for no frequency below the old
one, and one that ramps it down for none above it, as long as the step does not
wrap: the sum of the old frequency and `ramp_up_step` has to stay positive as an
`int`, and the difference to `ramp_down_step` must not come out positive again.
The store functions accept every step (`Jordan.Cpufreq.Governor.ramp_direction_iff`).
-/

namespace Jordan.Cpufreq

open Execution

/-! ## The direction of a target -/

/-- An `int` strictly beyond a frequency in the direction of a relation. -/
def Relation.ltInt : Relation → U32 → Int → Prop
  | .L, a, b => a.toNat < b
  | .H, a, b => b < a.toNat

section Direction

variable {kernel : TableTarget} (selects : kernel.Selects) {policy : CpufreqPolicy}
  (signed : policy.Signed) {table : FreqTable} {old : U32}
  (oldInRange : table.InRange policy old)
include signed oldInRange

/-- The frequency asked for is beyond the old one exactly when the clamped one is,
unless the old one is the limit in that direction. -/
theorem onward_or_nothing_iff (direction : Relation) (newFreq : U32) :
    (direction.lt old (validateFreq policy newFreq) →
        ∀ entry, table.InRange policy entry → ¬ direction.lt old entry) ↔
      ¬ direction.ltInt old newFreq.toInt ∨
        ∀ entry, table.InRange policy entry → ¬ direction.lt old entry := by
  have clamped := toNat_validateFreq oldInRange.2.ordered signed newFreq
  have least := BitVec.le_def.mp oldInRange.2.1
  have most := BitVec.le_def.mp oldInRange.2.2
  unfold clampedFreq at clamped
  constructor
  · intro nothing
    by_cases beyond : direction.ltInt old newFreq.toInt
    · refine .inr fun entry inRange ahead => ?_
      refine nothing ?_ entry inRange ahead
      have low := BitVec.le_def.mp inRange.2.1
      have high := BitVec.le_def.mp inRange.2.2
      cases direction with
      | L =>
          have beyond : (old.toNat : Int) < newFreq.toInt := beyond
          rw [Relation.L_lt_iff, BitVec.lt_def] at ahead ⊢
          omega
      | H =>
          have beyond : newFreq.toInt < old.toNat := beyond
          rw [Relation.H_lt_iff, BitVec.lt_def] at ahead ⊢
          omega
    · exact .inl beyond
  · rintro (inside | nothing) onward
    · refine absurd ?_ inside
      cases direction with
      | L =>
          rw [Relation.L_lt_iff, BitVec.lt_def] at onward
          show (old.toNat : Int) < newFreq.toInt
          omega
      | H =>
          rw [Relation.H_lt_iff, BitVec.lt_def] at onward
          show newFreq.toInt < old.toNat
          omega
    · exact nothing

include selects

/-- No target is beyond the old frequency exactly when the frequency asked for is
not, or there is no entry beyond it. -/
theorem targetRequest_onside_iff (direction relation : Relation) (newFreq : U32) :
    (∀ target ∈ targetRequest kernel policy (some table) newFreq old relation,
        ¬ direction.lt old target) ↔
      (direction.lt old (validateFreq policy newFreq) →
        ∀ entry, table.InRange policy entry → ¬ direction.lt old entry) := by
  constructor
  · intro onside onward
    rcases targetRequest_onward selects signed oldInRange relation onward with
      ⟨target, requested, _, beyond⟩ | ⟨_, nothing⟩
    · exact absurd beyond (onside target requested)
    · exact nothing
  · intro nothing target requested beyond
    by_cases onward : direction.lt old (validateFreq policy newFreq)
    · rcases targetRequest_onward selects signed oldInRange relation onward with
        ⟨other, made, inRange, _⟩ | ⟨made, _⟩
      · obtain rfl := Option.some.inj (made.symm.trans requested)
        exact nothing onward other inRange beyond
      · cases made.symm.trans requested
    · have changed : validateFreq policy newFreq ≠ old := by
        intro same
        simp only [targetRequest, same, ↓reduceIte, ite_self] at requested
        cases requested
      have backward : direction.other.lt old (validateFreq policy newFreq) := fun ahead =>
        changed (Relation.le_antisymm (not_not.mp onward) (Relation.other_le.mp ahead))
      rcases targetRequest_onward selects signed oldInRange relation backward with
        ⟨other, made, _, behind⟩ | ⟨made, _⟩
      · obtain rfl := Option.some.inj (made.symm.trans requested)
        exact beyond (Relation.le_total.resolve_right fun ahead =>
          behind (Relation.other_le.mpr ahead))
      · cases made.symm.trans requested

/-- No target is above the old frequency. -/
theorem targetRequest_le_iff (relation : Relation) (newFreq : U32) :
    (∀ target ∈ targetRequest kernel policy (some table) newFreq old relation, target ≤ old) ↔
      newFreq.toInt ≤ old.toNat ∨ ∀ entry, table.InRange policy entry → entry ≤ old := by
  have onside := targetRequest_onside_iff selects signed oldInRange .L relation newFreq
  rw [onward_or_nothing_iff signed oldInRange] at onside
  simpa only [Relation.L_lt_iff, BitVec.not_lt, Relation.ltInt, Int.not_lt] using onside

/-- No target is below the old frequency. -/
theorem targetRequest_ge_iff (relation : Relation) (newFreq : U32) :
    (∀ target ∈ targetRequest kernel policy (some table) newFreq old relation, old ≤ target) ↔
      (old.toNat : Int) ≤ newFreq.toInt ∨ ∀ entry, table.InRange policy entry → old ≤ entry := by
  have onside := targetRequest_onside_iff selects signed oldInRange .H relation newFreq
  rw [onward_or_nothing_iff signed oldInRange] at onside
  simpa only [Relation.H_lt_iff, BitVec.not_lt, Relation.ltInt, Int.not_lt] using onside

end Direction

/-! ## The steps -/

namespace BoostedInfo

/-- What a pass finds on a CPU whose frequency nobody else has changed. -/
structure RampReady (info : BoostedInfo) (policy : CpufreqPolicy) (table : FreqTable) : Prop where
  current : info.curPolicy = some policy
  listed : info.freqTable = some table
  unchanged : info.oldFreq = policy.cur
  inRange : table.InRange policy info.oldFreq
  ideal : policy.Contains info.idealSpeed

/-- A step up from the ideal speed does not overflow, or nothing is below. -/
def StepUpFits (info : BoostedInfo) (tunables : Tunables) (policy : CpufreqPolicy)
    (table : FreqTable) : Prop :=
  info.oldFreq < info.idealSpeed ∨
    info.oldFreq.toNat + tunables.rampUpStep.toNat < 2 ^ 31 ∨
      ∀ entry, table.InRange policy entry → info.oldFreq ≤ entry

/-- A step down from the ideal speed does not come out positive, or nothing is
above. -/
def StepDownFits (info : BoostedInfo) (tunables : Tunables) (policy : CpufreqPolicy)
    (table : FreqTable) : Prop :=
  info.idealSpeed < info.oldFreq ∨
    tunables.rampDownStep.toNat ≤ info.oldFreq.toNat + 2 ^ 31 ∨
      ∀ entry, table.InRange policy entry → entry ≤ info.oldFreq

section Ramp

variable {info : BoostedInfo} {policy : CpufreqPolicy} {tunables : Tunables} {env : KernelEnv}
  {relation : Relation}

theorem forall_rampRequest {kernel : TableTarget} (property : U32 → Prop) :
    (∀ request ∈ info.rampRequest kernel tunables env policy relation, property request.target) ↔
      ∀ target ∈ targetRequest kernel policy info.freqTable
          (info.rampFreq tunables env policy relation).1 info.oldFreq
          (info.rampFreq tunables env policy relation).2, property target := by
  simp only [rampRequest, Option.mem_def, Option.map_eq_some_iff, forall_exists_index, and_imp,
    forall_apply_eq_imp_iff₂]

theorem rampFreq_up (unchanged : info.oldFreq = policy.cur) (up : info.rampDir = .up)
    (busy : 1 < env.nrRunning) :
    (info.rampFreq tunables env policy relation).1 =
      if info.oldFreq.slt info.idealSpeed then info.idealSpeed
      else if tunables.rampUpStep ≠ 0 then info.oldFreq + tunables.rampUpStep
      else policy.max := by
  simp only [rampFreq, unchanged, ne_eq, not_true_eq_false, ↓reduceIte, up, busy]
  split_ifs <;> rfl

theorem rampFreq_down (unchanged : info.oldFreq = policy.cur) (down : info.rampDir = .down) :
    (info.rampFreq tunables env policy relation).1 =
      if info.idealSpeed.slt info.oldFreq then info.idealSpeed
      else if tunables.rampDownStep ≠ 0 then info.oldFreq - tunables.rampDownStep
      else if info.oldFreq.slt (info.oldFreq * info.curCpuLoad / tunables.maxCpuLoad) then
        info.oldFreq - 1
      else info.oldFreq * info.curCpuLoad / tunables.maxCpuLoad := by
  simp only [rampFreq, unchanged, ne_eq, not_true_eq_false, ↓reduceIte, down]
  split_ifs <;> rfl

variable {kernel : TableTarget} (selects : kernel.Selects) (signed : policy.Signed)
  {table : FreqTable} (ready : info.RampReady policy table)
include selects signed ready

/-- A ramp up asks for no lower frequency exactly when its step fits. -/
theorem rampRequest_up_iff (up : info.rampDir = .up) (busy : 1 < env.nrRunning) :
    (∀ request ∈ info.rampRequest kernel tunables env policy relation,
        info.oldFreq ≤ request.target) ↔ info.StepUpFits tunables policy table := by
  have small := ready.inRange.2.signed signed
  have smallIdeal := ready.ideal.signed signed
  rw [forall_rampRequest (info.oldFreq ≤ ·), ready.listed,
    targetRequest_ge_iff selects signed ready.inRange, rampFreq_up ready.unchanged up busy,
    StepUpFits]
  simp only [Words.slt_iff_lt (by decide) small smallIdeal]
  split_ifs with under step
  · have toIdeal : (info.oldFreq.toNat : Int) ≤ info.idealSpeed.toInt := by
      rw [BitVec.toInt_eq_toNat_of_lt (by omega)]
      exact Int.ofNat_le.mpr (Nat.le_of_lt under)
    exact iff_of_true (.inl toIdeal) (.inl under)
  · simp only [under, false_or, Words.le_toInt_add_iff (by decide) info.oldFreq]
  · have noStep : tunables.rampUpStep = 0 := not_not.mp step
    have toMax : (info.oldFreq.toNat : Int) ≤ policy.max.toInt := by
      rw [BitVec.toInt_eq_toNat_of_lt (by have limit : policy.max.toNat < 2 ^ 31 := signed; omega)]
      exact Int.ofNat_le.mpr (BitVec.le_def.mp ready.inRange.2.2)
    exact iff_of_true (.inl toMax) (.inr (.inl (by rw [noStep]; simpa using small)))

/-- A ramp down asks for no higher frequency exactly when its step fits. -/
theorem rampRequest_down_iff (down : info.rampDir = .down) :
    (∀ request ∈ info.rampRequest kernel tunables env policy relation,
        request.target ≤ info.oldFreq) ↔ info.StepDownFits tunables policy table := by
  have small := ready.inRange.2.signed signed
  have smallIdeal := ready.ideal.signed signed
  rw [forall_rampRequest (· ≤ info.oldFreq), ready.listed,
    targetRequest_le_iff selects signed ready.inRange, rampFreq_down ready.unchanged down,
    StepDownFits]
  simp only [Words.slt_iff_lt (by decide) smallIdeal small]
  have noStep (none : ¬ tunables.rampDownStep ≠ 0) :
      tunables.rampDownStep.toNat ≤ info.oldFreq.toNat + 2 ^ 31 := by
    rw [not_not.mp none]
    exact Nat.zero_le _
  split_ifs with beyond step scaled
  · have toIdeal : info.idealSpeed.toInt ≤ info.oldFreq.toNat := by
      rw [BitVec.toInt_eq_toNat_of_lt (by omega)]
      exact Int.ofNat_le.mpr (Nat.le_of_lt beyond)
    exact iff_of_true (.inl toIdeal) (.inl beyond)
  · simp only [beyond, false_or, Words.toInt_sub_le_iff (by decide) small]
  · have fits : (info.oldFreq - 1).toInt ≤ info.oldFreq.toNat :=
      (Words.toInt_sub_le_iff (by decide) small 1).mpr (Nat.le_add_left_of_le (by decide))
    exact iff_of_true (.inl fits) (.inr (.inl (noStep step)))
  · have fits : (info.oldFreq * info.curCpuLoad / tunables.maxCpuLoad).toInt ≤
        info.oldFreq.toNat := by
      have positive : info.oldFreq.toInt = info.oldFreq.toNat :=
        BitVec.toInt_eq_toNat_of_lt (by omega)
      rw [BitVec.slt_iff_toInt_lt, positive] at scaled
      exact Int.not_lt.mp scaled
    exact iff_of_true (.inl fits) (.inr (.inl (noStep step)))

end Ramp

end BoostedInfo

/-! ## A pass of the work item -/

namespace Governor

variable {n : Nat}

/-- The requests of a list that are made for a CPU. -/
def ownRequests (c : Fin n) (made : List (Fin n × Request)) : List Request :=
  made.filterMap fun entry => if entry.1 = c then some entry.2 else none

theorem ownRequests_append (c : Fin n) (first second : List (Fin n × Request)) :
    ownRequests c (first ++ second) = ownRequests c first ++ ownRequests c second :=
  List.filterMap_append

theorem ownRequests_self (c : Fin n) (request : Option Request) :
    ownRequests c (request.toList.map (c, ·)) = request.toList := by
  cases request with
  | none => rfl
  | some request => simp [ownRequests]

theorem ownRequests_of_ne {c d : Fin n} (other : d ≠ c) (request : Option Request) :
    ownRequests c (request.toList.map (d, ·)) = [] := by
  cases request with
  | none => rfl
  | some request => simp [ownRequests, other]

/-- The requests that a pass adds for a CPU. -/
def madeFor (g after : Governor n) (c : Fin n) : List Request :=
  ownRequests c (after.requests.drop g.requests.length)

/-- A turn of the loop for a CPU: the request it makes, and what it leaves. -/
structure Turn (kernel : TableTarget) (env : Env n) (c : Fin n)
    (before after : Governor n × Relation) (request : Option Request) : Prop where
  requests : after.1.requests = before.1.requests ++ request.toList.map (c, ·)
  tunables : after.1.tunables = before.1.tunables
  others (d : Fin n) (other : d ≠ c) : after.1.cpu d = before.1.cpu d
  clear (unset : (before.1.cpu c).inMask = false) :
    request = none ∧ after.1.cpu c = before.1.cpu c
  served (set : (before.1.cpu c).inMask = true) :
    ∃ policy, (before.1.cpu c).info.curPolicy = some policy ∧
      request = (before.1.cpu c).info.rampRequest kernel before.1.tunables env.toKernelEnv policy
        before.2 ∧
      (after.1.cpu c).info = (before.1.cpu c).info.freqChangeTimeWork kernel before.1.tunables
        env.toKernelEnv policy before.2 (env.reading c)

/-- A turn of the loop makes the request of its CPU. -/
theorem workOn_turn {kernel : TableTarget} {env : Env n} {before after : Governor n × Relation}
    {c : Fin n} (ran : workOn kernel env before c = some after) :
    ∃ request, Turn kernel env c before after request := by
  obtain ⟨g, relation⟩ := before
  simp only [workOn] at ran
  split at ran
  next set =>
    obtain ⟨policy, current, rfl⟩ := Option.map_eq_some_iff.mp ran
    exact ⟨g.cpu c |>.info.rampRequest kernel g.tunables env.toKernelEnv policy relation,
      { requests := rfl
        tunables := rfl
        others := fun d other => onCpu_of_ne other
        clear := fun unset => Bool.noConfusion (set.symm.trans unset)
        served := fun _ => ⟨policy, current, rfl, by rw [onCpu_self]⟩ }⟩
  next clear =>
    obtain rfl := Option.some.inj ran
    exact ⟨none,
      { requests := (List.append_nil _).symm
        tunables := rfl
        others := fun _ _ => rfl
        clear := fun _ => ⟨rfl, rfl⟩
        served := fun set => absurd set clear }⟩

/-- What the turns of the loop do to a CPU: a turn of its own, by what it held
before the loop, if its bit is set. -/
structure Pass (kernel : TableTarget) (env : Env n) (g : Governor n) (cpus : List (Fin n))
    (made : List (Fin n × Request)) (last : Governor n) : Prop where
  skipped {c : Fin n} (untouched : c ∉ cpus ∨ (g.cpu c).inMask = false) :
    ownRequests c made = [] ∧ last.cpu c = g.cpu c
  served {c : Fin n} (inside : c ∈ cpus) (set : (g.cpu c).inMask = true) :
    ∃ policy relation, (g.cpu c).info.curPolicy = some policy ∧
      ownRequests c made = ((g.cpu c).info.rampRequest kernel g.tunables env.toKernelEnv policy
        relation).toList ∧
      (last.cpu c).info = (g.cpu c).info.freqChangeTimeWork kernel g.tunables env.toKernelEnv
        policy relation (env.reading c)

/-- A pass over distinct CPUs makes one turn for each of them. -/
theorem exec_workOn_pass {kernel : TableTarget} {env : Env n} {cpus : List (Fin n)}
    (distinct : cpus.Nodup) {before last : Governor n × Relation}
    (ran : exec (workOn kernel env) before cpus = some last) :
    ∃ made, last.1.requests = before.1.requests ++ made ∧
      Pass kernel env before.1 cpus made last.1 := by
  induction cpus generalizing before with
  | nil =>
      obtain rfl := Option.some.inj ran
      exact ⟨[], (List.append_nil _).symm, fun _ => ⟨rfl, rfl⟩, nofun⟩
  | cons c rest ih =>
      obtain ⟨fresh, distinctRest⟩ := List.nodup_cons.mp distinct
      obtain ⟨middle, ran, ranRest⟩ := exec_cons_eq_some.mp ran
      obtain ⟨request, turn⟩ := workOn_turn ran
      obtain ⟨made, extended, pass⟩ := ih distinctRest ranRest
      have own : ownRequests c (request.toList.map (c, ·) ++ made) = request.toList ∧
          last.1.cpu c = middle.1.cpu c := by
        obtain ⟨none, same⟩ := pass.skipped (.inl fresh)
        rw [ownRequests_append, ownRequests_self, none, List.append_nil]
        exact ⟨rfl, same⟩
      have others (d : Fin n) (other : d ≠ c) :
          ownRequests d (request.toList.map (c, ·) ++ made) = ownRequests d made := by
        rw [ownRequests_append, ownRequests_of_ne other.symm, List.nil_append]
      refine ⟨request.toList.map (c, ·) ++ made, ?_, ?_, ?_⟩
      · rw [extended, turn.requests, List.append_assoc]
      · intro d untouched
        rcases eq_or_ne d c with rfl | other
        · have unset := untouched.resolve_left fun outside => outside List.mem_cons_self
          obtain ⟨rfl, same⟩ := turn.clear unset
          exact ⟨own.1, own.2.trans same⟩
        · rw [← turn.others d other] at untouched ⊢
          rw [others d other]
          exact pass.skipped (untouched.imp_left fun outside later => outside (.tail _ later))
      · intro d inside set
        rcases List.mem_cons.mp inside with rfl | later
        · obtain ⟨policy, current, rfl, info⟩ := turn.served set
          exact ⟨policy, before.2, current, own.1, own.2.symm ▸ info⟩
        · have other : d ≠ c := fun same => fresh (same ▸ later)
          rw [← turn.others d other] at set ⊢
          rw [others d other, ← turn.tunables]
          exact pass.served later set

/-- A pass of the work item, with the requests it makes. -/
theorem freqChangeTimeWork_pass {kernel : TableTarget} {env : Env n} {g after : Governor n}
    (ran : g.freqChangeTimeWork kernel env = some after) :
    ∃ made, after.requests = g.requests ++ made ∧
      Pass kernel env g (List.finRange n) made after := by
  obtain ⟨last, looped, rfl⟩ := Option.map_eq_some_iff.mp ran
  obtain ⟨made, extended, pass⟩ := exec_workOn_pass (List.nodup_finRange n) looped
  exact ⟨made, extended, pass.skipped, pass.served⟩

theorem madeFor_of_append {g after : Governor n} {made : List (Fin n × Request)} (c : Fin n)
    (extended : after.requests = g.requests ++ made) : g.madeFor after c = ownRequests c made := by
  rw [madeFor, extended, List.drop_left]

/-- **A ramp goes the right way exactly when its step fits.** -/
theorem ramp_direction_iff {kernel : TableTarget} (selects : kernel.Selects) {env : Env n}
    {g after : Governor n} (ran : g.freqChangeTimeWork kernel env = some after) {c : Fin n}
    {policy : CpufreqPolicy} {table : FreqTable} (set : (g.cpu c).inMask = true)
    (ready : (g.cpu c).info.RampReady policy table) (signed : policy.Signed) :
    ((g.cpu c).info.rampDir = .up → 1 < env.nrRunning →
        ((∀ request ∈ g.madeFor after c, (g.cpu c).info.oldFreq ≤ request.target) ↔
          (g.cpu c).info.StepUpFits g.tunables policy table)) ∧
      ((g.cpu c).info.rampDir = .down →
        ((∀ request ∈ g.madeFor after c, request.target ≤ (g.cpu c).info.oldFreq) ↔
          (g.cpu c).info.StepDownFits g.tunables policy table)) := by
  obtain ⟨made, extended, pass⟩ := freqChangeTimeWork_pass ran
  obtain ⟨held, relation, current, served, _⟩ := pass.served (List.mem_finRange c) set
  obtain rfl := Option.some.inj (current.symm.trans ready.current)
  simp only [madeFor_of_append c extended, served, Option.mem_toList]
  exact ⟨fun up busy => BoostedInfo.rampRequest_up_iff selects signed ready up busy,
    fun down => BoostedInfo.rampRequest_down_iff selects signed ready down⟩

/-- A CPU is started at 600 MHz, above the ideal speed of 500 MHz, and found busy. -/
def rampingUp (step : U32) : List (Action 1) :=
  atJiffy 0 [.start onlyCpu ⟨300000, 1000000, 600000⟩ (some [300000, 600000, 800000, 1000000]) none,
    .store .rampUpStep step] ++ atJiffy 2 [.timer onlyCpu]

/-- With a step of 200 MHz it is ramped up to 800 MHz. -/
theorem rampingUp_onward :
    ∃ g after : Governor 1,
      exec (coreStep cpufreqFrequencyTableTarget) (init 1) (rampingUp 200000) = some g ∧
      g.freqChangeTimeWork cpufreqFrequencyTableTarget (busyEnv 1 2) = some after ∧
      (g.madeFor after onlyCpu).map Request.target = [800000] ∧
      ((∀ request ∈ g.madeFor after onlyCpu, (g.cpu onlyCpu).info.oldFreq ≤ request.target) ↔
        (g.cpu onlyCpu).info.StepUpFits g.tunables ⟨300000, 1000000, 600000⟩
          [300000, 600000, 800000, 1000000]) :=
  ⟨_, _, (Option.some_get (by decide +kernel)).symm, (Option.some_get (by decide +kernel)).symm,
    by decide +kernel,
    (ramp_direction_iff cpufreqFrequencyTableTarget_selects (Option.some_get _).symm
      (by decide +kernel)
      ⟨by decide +kernel, by decide +kernel, by decide +kernel, by decide +kernel,
        by decide +kernel⟩ (by decide)).1 (by decide +kernel) (by decide)⟩

/-- With a step of 2^31 kHz it is ramped up to 300 MHz. -/
theorem rampingUp_turnsBack :
    ∃ g after : Governor 1,
      exec (coreStep cpufreqFrequencyTableTarget) (init 1) (rampingUp 0x80000000) = some g ∧
      g.freqChangeTimeWork cpufreqFrequencyTableTarget (busyEnv 1 2) = some after ∧
      (g.cpu onlyCpu).info.RampReady ⟨300000, 1000000, 600000⟩
        [300000, 600000, 800000, 1000000] ∧
      (g.cpu onlyCpu).info.curCpuLoad ≤ 100 ∧ (g.cpu onlyCpu).info.rampDir = .up ∧
      1 < (busyEnv 1 2).nrRunning ∧
      ¬ ∀ request ∈ g.madeFor after onlyCpu,
        (g.cpu onlyCpu).info.oldFreq ≤ request.target :=
  ⟨_, _, (Option.some_get (by decide +kernel)).symm, (Option.some_get (by decide +kernel)).symm,
    ⟨by decide +kernel, by decide +kernel, by decide +kernel, by decide +kernel,
      by decide +kernel⟩,
    by decide +kernel, by decide +kernel, by decide, by decide +kernel⟩

end Governor

end Jordan.Cpufreq
