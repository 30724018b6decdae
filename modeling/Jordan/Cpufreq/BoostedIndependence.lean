import Jordan.Cpufreq.BoostedRamp

/-! # The CPUs of a pass

The loop of the work item assigns `relation` in some branches only, and never
resets it between two CPUs: once a CPU has set it to `CPUFREQ_RELATION_H`, the CPUs
after it whose branch leaves it alone search the table with that relation too. The
requests of a pass are those of one pass for each CPU exactly when every such CPU
comes to nothing in both directions
(`Jordan.Cpufreq.Governor.cpus_independent_iff`).
-/

namespace Jordan.Cpufreq

open Execution

/-- `target_freq` requests nothing whatever the relation: the frequency is the old
one, is clamped to it, or is rounded to it both up and down. -/
def Settles (kernel : TableTarget) (policy : CpufreqPolicy) (freqTable : Option FreqTable)
    (newFreq oldFreq : U32) : Prop :=
  newFreq = oldFreq ∨ validateFreq policy newFreq = oldFreq ∨
    ∃ table ∈ freqTable, ∀ relation,
      kernel.frequency policy table (validateFreq policy newFreq) relation = some oldFreq

section Settles

variable {kernel : TableTarget} {policy : CpufreqPolicy} {newFreq oldFreq : U32}

theorem tableFreq_of_rounded {table : FreqTable}
    (rounded : ∀ relation, kernel.frequency policy table newFreq relation = some oldFreq)
    (relation : Relation) :
    tableFreq kernel policy table newFreq oldFreq relation oldFreq = oldFreq := by
  simp only [tableFreq, rounded, Option.getD_some, ite_self]

/-- The second search is made only when the first one ends at the old frequency. -/
theorem first_eq_of_tableFreq_eq {table : FreqTable} {relation : Relation} {first : U32}
    (same : tableFreq kernel policy table newFreq oldFreq relation first = oldFreq) :
    first = oldFreq := by
  by_contra other
  rw [tableFreq, if_neg other] at same
  exact other same

theorem targetRequest_eq_none_iff {freqTable : Option FreqTable} :
    (∀ relation, targetRequest kernel policy freqTable newFreq oldFreq relation = none) ↔
      Settles kernel policy freqTable newFreq oldFreq := by
  by_cases same : newFreq = oldFreq
  · exact iff_of_true (fun _ => if_pos same) (.inl same)
  by_cases kept : validateFreq policy newFreq = oldFreq
  · refine iff_of_true (fun relation => ?_) (.inr (.inl kept))
    simp only [targetRequest, kept, ↓reduceIte, ite_self]
  simp only [targetRequest, Settles, same, kept, ↓reduceIte, false_or]
  cases freqTable with
  | none =>
      refine iff_of_false (fun nothing => Option.some_ne_none _ (nothing .L)) fun found => ?_
      obtain ⟨table, member, _⟩ := found
      cases member
  | some table =>
      simp only [Option.mem_some_iff, exists_eq_left']
      constructor
      · intro nothing relation
        have none := nothing relation
        cases lookup : kernel.frequency policy table (validateFreq policy newFreq) relation with
        | none =>
            rw [lookup] at none
            exact absurd none (Option.some_ne_none _)
        | some first =>
            rw [lookup] at none
            simp only [ite_eq_left_iff, reduceCtorEq, imp_false, not_not] at none
            rw [first_eq_of_tableFreq_eq none]
      · intro rounded relation
        simp only [rounded relation, tableFreq_of_rounded rounded, ↓reduceIte]

end Settles

namespace BoostedInfo

/-- The branch that a CPU takes assigns `relation`. -/
def SetsRelation (info : BoostedInfo) (env : KernelEnv) (policy : CpufreqPolicy) : Prop :=
  info.oldFreq = policy.cur ∧
    (info.rampDir = .up ∧ 1 < env.nrRunning ∧ ¬ info.oldFreq.slt info.idealSpeed ∨
      info.rampDir = .down ∧ info.idealSpeed.slt info.oldFreq)

variable {info : BoostedInfo} {tunables : Tunables} {env : KernelEnv} {policy : CpufreqPolicy}

instance : Decidable (info.SetsRelation env policy) := inferInstanceAs (Decidable (_ ∧ _))

/-- The relation after a turn. -/
theorem rampFreq_relation (relation : Relation) :
    (info.rampFreq tunables env policy relation).2 =
      if info.SetsRelation env policy then .H else relation := by
  by_cases unchanged : info.oldFreq = policy.cur
  · cases ramp : info.rampDir with
    | up =>
        simp only [rampFreq, SetsRelation, unchanged, ramp, ne_eq, not_true_eq_false, ↓reduceIte,
          true_and, reduceCtorEq, false_and, or_false]
        split_ifs <;> grind
    | down =>
        simp only [rampFreq, SetsRelation, unchanged, ramp, ne_eq, not_true_eq_false, ↓reduceIte,
          true_and, reduceCtorEq, false_and, false_or]
        split_ifs <;> rfl
    | stay =>
        simp only [rampFreq, SetsRelation, unchanged, ramp, ne_eq, not_true_eq_false, ↓reduceIte,
          reduceCtorEq, false_and, or_self, and_false]
  · simp only [rampFreq, SetsRelation, ne_eq, unchanged, not_false_eq_true, ↓reduceIte, false_and]

/-- The frequency that a branch asks for does not depend on the relation. -/
theorem rampFreq_freq (relation other : Relation) :
    (info.rampFreq tunables env policy relation).1 =
      (info.rampFreq tunables env policy other).1 := by
  by_cases unchanged : info.oldFreq = policy.cur
  · cases ramp : info.rampDir with
    | up =>
        simp only [rampFreq, unchanged, ramp, ne_eq, not_true_eq_false, ↓reduceIte]
        split_ifs <;> rfl
    | down =>
        simp only [rampFreq, unchanged, ramp, ne_eq, not_true_eq_false, ↓reduceIte]
        split_ifs <;> rfl
    | stay => simp only [rampFreq, unchanged, ramp, ne_eq, not_true_eq_false, ↓reduceIte]
  · simp only [rampFreq, ne_eq, unchanged, not_false_eq_true, ↓reduceIte]

/-- A CPU for which the relation it comes with makes no difference: its branch
assigns one, or it comes to nothing with either. -/
def Indifferent (info : BoostedInfo) (kernel : TableTarget) (tunables : Tunables)
    (env : KernelEnv) (policy : CpufreqPolicy) : Prop :=
  info.SetsRelation env policy ∨
    Settles kernel policy info.freqTable (info.rampFreq tunables env policy .L).1 info.oldFreq

theorem rampRequest_eq_iff {kernel : TableTarget} :
    info.rampRequest kernel tunables env policy .H =
        info.rampRequest kernel tunables env policy .L ↔
      info.Indifferent kernel tunables env policy := by
  simp only [rampRequest, Indifferent, ← targetRequest_eq_none_iff, rampFreq_relation,
    rampFreq_freq .H .L]
  by_cases sets : info.SetsRelation env policy
  · simp only [sets, ↓reduceIte, true_or]
  · simp only [sets, ↓reduceIte, false_or]
    constructor
    · intro same
      -- a request with one relation is not a request with the other
      have none : targetRequest kernel policy info.freqTable
          (info.rampFreq tunables env policy .L).1 info.oldFreq .H = none := by
        by_contra asked
        obtain ⟨target, asked⟩ := Option.ne_none_iff_exists'.mp asked
        rw [asked, Option.map_some] at same
        obtain ⟨_, _, other⟩ := Option.map_eq_some_iff.mp same.symm
        cases congrArg Request.relation other
      rw [none, Option.map_none] at same
      intro relation
      cases relation with
      | L => exact Option.map_eq_none_iff.mp same.symm
      | H => exact none
    · intro nothing
      rw [nothing .H, nothing .L]
      rfl

end BoostedInfo

namespace Governor

variable {n : Nat}

/-- The same state with only the bit of one CPU set. -/
def withOnly (g : Governor n) (c : Fin n) : Governor n :=
  { g with cpu := fun d => { g.cpu d with inMask := decide (d = c) } }

/-- The turn of a CPU assigns `relation`. -/
def SetsRelation (g : Governor n) (env : Env n) (c : Fin n) : Prop :=
  (g.cpu c).inMask = true ∧
    ∃ policy ∈ (g.cpu c).info.curPolicy, (g.cpu c).info.SetsRelation env.toKernelEnv policy

/-- Every CPU of the mask after one that assigns `relation` is indifferent to it. -/
def Separate (g : Governor n) (kernel : TableTarget) (env : Env n) : Prop :=
  ∀ d c, d < c → g.SetsRelation env d → (g.cpu c).inMask = true →
    ∀ policy ∈ (g.cpu c).info.curPolicy,
      (g.cpu c).info.Indifferent kernel g.tunables env.toKernelEnv policy

section Pass

variable {kernel : TableTarget} {env : Env n}

theorem workOn_relation {before after : Governor n × Relation} {c : Fin n}
    (ran : workOn kernel env before c = some after) :
    after.2 = .H ↔ before.2 = .H ∨ before.1.SetsRelation env c := by
  obtain ⟨g, relation⟩ := before
  simp only [workOn] at ran
  split at ran
  next set =>
    obtain ⟨policy, current, rfl⟩ := Option.map_eq_some_iff.mp ran
    simp only [BoostedInfo.rampFreq_relation, SetsRelation, set, current, Option.mem_some_iff,
      exists_eq_left', true_and]
    split_ifs with sets
    · exact iff_of_true rfl (.inr sets)
    · exact (or_iff_left sets).symm
  next clear =>
    obtain rfl := Option.some.inj ran
    exact (or_iff_left fun sets => clear sets.1).symm

theorem exec_workOn_tunables {cpus : List (Fin n)} {before last : Governor n × Relation}
    (ran : exec (workOn kernel env) before cpus = some last) :
    last.1.tunables = before.1.tunables := by
  refine invariant_of_step (fun loop => loop.1.tunables = before.1.tunables) ?_ rfl ran
  intro loop c after same ran
  obtain ⟨_, turn⟩ := workOn_turn ran
  exact turn.tunables.trans same

/-- The relation after some turns. -/
theorem exec_workOn_relation {cpus : List (Fin n)} (distinct : cpus.Nodup)
    {before last : Governor n × Relation}
    (ran : exec (workOn kernel env) before cpus = some last) :
    last.2 = .H ↔ before.2 = .H ∨ ∃ d ∈ cpus, before.1.SetsRelation env d := by
  induction cpus generalizing before with
  | nil =>
      rw [Option.some.inj ran]
      simp only [List.not_mem_nil, false_and, exists_false, or_false]
  | cons c rest ih =>
      obtain ⟨fresh, distinctRest⟩ := List.nodup_cons.mp distinct
      obtain ⟨middle, ran, ranRest⟩ := exec_cons_eq_some.mp ran
      obtain ⟨_, turn⟩ := workOn_turn ran
      have later : (∃ d ∈ rest, middle.1.SetsRelation env d) ↔
          ∃ d ∈ rest, before.1.SetsRelation env d := by
        refine exists_congr fun d => and_congr_right fun inRest => ?_
        have other : d ≠ c := fun same => fresh (same ▸ inRest)
        rw [SetsRelation, turn.others d other, SetsRelation]
      rw [ih distinctRest ranRest, workOn_relation ran, later, or_assoc, List.exists_mem_cons_iff]

/-- The CPUs before one in the order of a loop over all of them. -/
theorem finRange_at (c : Fin n) :
    ∃ first rest, List.finRange n = first ++ c :: rest ∧ c ∉ first ∧ c ∉ rest ∧
      ∀ d, d ∈ first ↔ d < c := by
  obtain ⟨first, rest, whole⟩ := List.append_of_mem (List.mem_finRange c)
  have ordered := List.pairwise_lt_finRange n
  rw [whole, List.pairwise_append, List.pairwise_cons] at ordered
  obtain ⟨_, ⟨after, _⟩, before⟩ := ordered
  refine ⟨first, rest, whole, ?_, ?_, fun d => ⟨fun inFirst => ?_, fun below => ?_⟩⟩
  · exact fun inFirst => lt_irrefl c (before c inFirst c List.mem_cons_self)
  · exact fun inRest => lt_irrefl c (after c inRest)
  · exact before d inFirst c List.mem_cons_self
  · have member : d ∈ first ++ c :: rest := whole ▸ List.mem_finRange d
    rcases List.mem_append.mp member with inFirst | inRest
    · exact inFirst
    · rcases List.mem_cons.mp inRest with rfl | inRest
      · exact absurd below (lt_irrefl d)
      · exact absurd below (after d inRest).asymm

/-- **The request of a CPU**: that of its own turn, with the relation set by a CPU
before it. -/
theorem freqChangeTimeWork_madeFor {g after : Governor n}
    (ran : g.freqChangeTimeWork kernel env = some after) {c : Fin n}
    (set : (g.cpu c).inMask = true) :
    ∃ policy relation, (g.cpu c).info.curPolicy = some policy ∧
      g.madeFor after c = ((g.cpu c).info.rampRequest kernel g.tunables env.toKernelEnv policy
        relation).toList ∧
      (relation = .H ↔ ∃ d < c, g.SetsRelation env d) := by
  obtain ⟨last, looped, rfl⟩ := Option.map_eq_some_iff.mp ran
  obtain ⟨first, rest, whole, notFirst, notRest, earlier⟩ := finRange_at c
  have distinct := List.nodup_finRange n
  rw [whole] at looped distinct
  obtain ⟨distinctFirst, distinctLater, _⟩ := List.nodup_append.mp distinct
  obtain ⟨middle, ranFirst, ranLater⟩ := exec_append_eq_some.mp looped
  obtain ⟨served, ranTurn, ranRest⟩ := exec_cons_eq_some.mp ranLater
  obtain ⟨request, turn⟩ := workOn_turn ranTurn
  obtain ⟨madeFirst, extendedFirst, passFirst⟩ := exec_workOn_pass distinctFirst ranFirst
  obtain ⟨madeRest, extendedRest, passRest⟩ :=
    exec_workOn_pass (List.nodup_cons.mp distinctLater).2 ranRest
  obtain ⟨noneFirst, sameFirst⟩ := passFirst.skipped (.inl notFirst)
  obtain ⟨noneRest, _⟩ := passRest.skipped (.inl notRest)
  have tunables : middle.1.tunables = g.tunables := exec_workOn_tunables ranFirst
  obtain ⟨policy, current, rfl, _⟩ := turn.served (sameFirst ▸ set)
  rw [sameFirst] at current
  refine ⟨policy, middle.2, current, ?_, ?_⟩
  · have extended : last.1.requests = g.requests ++ (madeFirst ++
        (((middle.1.cpu c).info.rampRequest kernel middle.1.tunables env.toKernelEnv policy
          middle.2).toList.map (c, ·) ++ madeRest)) := by
      rw [extendedRest, turn.requests, extendedFirst]
      simp only [List.append_assoc]
    rw [madeFor_of_append c extended, ownRequests_append, ownRequests_append, ownRequests_self,
      noneFirst, noneRest, List.nil_append, List.append_nil, sameFirst, tunables]
  · rw [exec_workOn_relation distinctFirst ranFirst]
    simp only [reduceCtorEq, false_or, earlier]
    rfl

/-- A pass in which no CPU of the mask is without a policy runs to its end. -/
theorem exec_workOn_total {cpus : List (Fin n)} (distinct : cpus.Nodup)
    {before : Governor n × Relation}
    (governed : ∀ c ∈ cpus, (before.1.cpu c).inMask = true →
      (before.1.cpu c).info.curPolicy.isSome) :
    ∃ last, exec (workOn kernel env) before cpus = some last := by
  induction cpus generalizing before with
  | nil => exact ⟨before, rfl⟩
  | cons c rest ih =>
      obtain ⟨fresh, distinctRest⟩ := List.nodup_cons.mp distinct
      have turns : ∃ middle, workOn kernel env before c = some middle := by
        by_cases set : (before.1.cpu c).inMask = true
        · obtain ⟨policy, current⟩ :=
            Option.isSome_iff_exists.mp (governed c List.mem_cons_self set)
          simp only [workOn, set, current, ↓reduceIte, Option.map_some, Option.some.injEq,
            exists_eq']
        · simp only [workOn, set, Bool.false_eq_true, ↓reduceIte, Option.some.injEq, exists_eq']
      obtain ⟨middle, ran⟩ := turns
      obtain ⟨_, turn⟩ := workOn_turn ran
      have governedRest : ∀ d ∈ rest, (middle.1.cpu d).inMask = true →
          (middle.1.cpu d).info.curPolicy.isSome := by
        intro d inRest set
        have other : d ≠ c := fun same => fresh (same ▸ inRest)
        rw [turn.others d other] at set ⊢
        exact governed d (.tail _ inRest) set
      obtain ⟨last, ranRest⟩ := ih distinctRest governedRest
      exact ⟨last, exec_cons_eq_some.mpr ⟨middle, ran, ranRest⟩⟩

/-- A pass for one of its CPUs runs too. -/
theorem withOnly_ran {g after : Governor n} (ran : g.freqChangeTimeWork kernel env = some after)
    {c : Fin n} (set : (g.cpu c).inMask = true) :
    ∃ alone, (g.withOnly c).freqChangeTimeWork kernel env = some alone := by
  obtain ⟨policy, _, current, _⟩ := freqChangeTimeWork_madeFor ran set
  have governed : ∀ d ∈ List.finRange n, ((g.withOnly c).cpu d).inMask = true →
      ((g.withOnly c).cpu d).info.curPolicy.isSome := by
    intro d _ own
    obtain rfl : d = c := of_decide_eq_true own
    exact Option.isSome_iff_exists.mpr ⟨policy, current⟩
  have runs : ∃ last, exec (workOn kernel env) ({ g.withOnly c with workQueued := false }, .L)
      (List.finRange n) = some last := exec_workOn_total (List.nodup_finRange n) governed
  obtain ⟨last, looped⟩ := runs
  exact ⟨last.1, Option.map_eq_some_iff.mpr ⟨last, looped, rfl⟩⟩

/-- Alone, a CPU is asked for what its turn asks for with the first relation. -/
theorem withOnly_madeFor {g alone : Governor n} {c : Fin n}
    (ran : (g.withOnly c).freqChangeTimeWork kernel env = some alone) {policy : CpufreqPolicy}
    (current : (g.cpu c).info.curPolicy = some policy) :
    (g.withOnly c).madeFor alone c = ((g.cpu c).info.rampRequest kernel g.tunables
      env.toKernelEnv policy .L).toList := by
  obtain ⟨held, relation, same, made, assigned⟩ :=
    freqChangeTimeWork_madeFor (c := c) ran (decide_eq_true rfl)
  obtain rfl := Option.some.inj (current.symm.trans same)
  have first : relation = .L := by
    cases relation with
    | L => rfl
    | H =>
        obtain ⟨d, below, set, _⟩ := assigned.mp rfl
        exact absurd (of_decide_eq_true set) (Fin.ne_of_lt below)
  rw [made, first]
  rfl

/-- **The CPUs of a pass are independent exactly when none inherits a relation that
makes a difference.** -/
theorem cpus_independent_iff {g after : Governor n}
    (ran : g.freqChangeTimeWork kernel env = some after) :
    (∀ c, (g.cpu c).inMask = true →
        ∃ alone, (g.withOnly c).freqChangeTimeWork kernel env = some alone ∧
          g.madeFor after c = (g.withOnly c).madeFor alone c) ↔
      g.Separate kernel env := by
  constructor
  · intro independent d c below sets set policy current
    obtain ⟨held, relation, same, made, assigned⟩ := freqChangeTimeWork_madeFor ran set
    obtain ⟨alone, ranAlone, equal⟩ := independent c set
    obtain rfl := Option.some.inj (same.symm.trans current)
    obtain rfl := assigned.mpr ⟨d, below, sets⟩
    rw [made, withOnly_madeFor ranAlone current] at equal
    have requests := congrArg List.head? equal
    rw [Option.head?_toList, Option.head?_toList] at requests
    exact BoostedInfo.rampRequest_eq_iff.mp requests
  · intro separate c set
    obtain ⟨policy, relation, current, made, assigned⟩ := freqChangeTimeWork_madeFor ran set
    obtain ⟨alone, ranAlone⟩ := withOnly_ran ran set
    refine ⟨alone, ranAlone, ?_⟩
    rw [made, withOnly_madeFor ranAlone current]
    cases relation with
    | L => rfl
    | H =>
        obtain ⟨d, below, sets⟩ := assigned.mp rfl
        have requests :=
          BoostedInfo.rampRequest_eq_iff.mpr (separate d c below sets set policy current)
        exact congrArg Option.toList requests

end Pass

/-- The first CPU is busy and the second one idle. -/
def unevenEnv (jiffies : Nat) : Env 2 :=
  { busyEnv 2 jiffies with
    reading := fun c =>
      let wall : U64 := BitVec.ofNat 64 (10000 * (jiffies + 1))
      let now : IdleReading := ⟨if c = secondCpu then wall else 0, wall⟩
      ⟨now, now⟩ }

/-- Two CPUs are started, the first at 600 MHz, and their timers expire. -/
def unevenRun (second : U32) : List (Action 2) :=
  let table : FreqTable := [300000, 400000, 500000, 600000, 800000, 1000000]
  [.start firstCpu ⟨300000, 1000000, 600000⟩ (some table) none,
    .start secondCpu ⟨300000, 1000000, second⟩ (some table) none].map (⟨·, unevenEnv 0⟩) ++
  [.timer firstCpu, .timer secondCpu].map (⟨·, unevenEnv 12⟩)

/-- A second CPU that comes down from 600 MHz to the ideal speed assigns `relation`
itself. -/
theorem unevenRun_apart :
    ∃ g after : Governor 2,
      exec (coreStep cpufreqFrequencyTableTarget) (init 2) (unevenRun 600000) = some g ∧
      g.freqChangeTimeWork cpufreqFrequencyTableTarget (unevenEnv 12) = some after ∧
      (g.madeFor after secondCpu).map Request.target = [500000] ∧
      ((∀ c, (g.cpu c).inMask = true → ∃ alone,
          (g.withOnly c).freqChangeTimeWork cpufreqFrequencyTableTarget (unevenEnv 12) =
            some alone ∧ g.madeFor after c = (g.withOnly c).madeFor alone c) ↔
        g.Separate cpufreqFrequencyTableTarget (unevenEnv 12)) :=
  ⟨_, _, (Option.some_get (by decide +kernel)).symm, (Option.some_get (by decide +kernel)).symm,
    by decide +kernel, cpus_independent_iff (Option.some_get _).symm⟩

/-- A second CPU that comes down from the ideal speed by a step is asked for 300 MHz
after the first one, and for 400 MHz alone. -/
theorem unevenRun_inherits :
    ∃ g after alone : Governor 2,
      exec (coreStep cpufreqFrequencyTableTarget) (init 2) (unevenRun 500000) = some g ∧
      g.freqChangeTimeWork cpufreqFrequencyTableTarget (unevenEnv 12) = some after ∧
      (g.withOnly secondCpu).freqChangeTimeWork cpufreqFrequencyTableTarget (unevenEnv 12) =
        some alone ∧
      (g.cpu secondCpu).inMask = true ∧
      (g.madeFor after secondCpu).map Request.target = [300000] ∧
      ((g.withOnly secondCpu).madeFor alone secondCpu).map Request.target = [400000] ∧
      g.madeFor after secondCpu ≠ (g.withOnly secondCpu).madeFor alone secondCpu :=
  ⟨_, _, _, (Option.some_get (by decide +kernel)).symm,
    (Option.some_get (by decide +kernel)).symm, (Option.some_get (by decide +kernel)).symm,
    by decide +kernel, by decide +kernel, by decide +kernel, by decide +kernel⟩

end Governor

end Jordan.Cpufreq
