import Jordan.Cpufreq.BoostedGovernor
import Mathlib.Data.Fintype.Card

/-! # The idle hook and the sysfs group of the boosted governor

The hook and the group serve all CPUs: the first `GOV_START` installs them and
the last `GOV_STOP` has to remove them. `active_count` counts the starts. The
count is right as long as no start fails after it was incremented, but both
tests of it are `<= 1`: the hook is removed when one CPU is still started.
-/

namespace Jordan.Cpufreq

open Execution

/-- Between the return of `GOV_START` and the return of `GOV_STOP`. -/
def GovPhase.Active : GovPhase → Prop
  | .started | .cleared | .deleted | .flushed => True
  | .out | .stopped => False

instance : DecidablePred GovPhase.Active := fun phase => by
  cases phase <;> unfold GovPhase.Active <;> infer_instance

namespace Governor

variable {n : Nat}

/-- The CPUs that are started. -/
def started (g : Governor n) : Finset (Fin n) :=
  Finset.univ.filter fun c => (g.cpu c).phase.Active

theorem mem_started {g : Governor n} {c : Fin n} : c ∈ g.started ↔ (g.cpu c).phase.Active := by
  simp only [started, Finset.mem_filter, Finset.mem_univ, true_and]

/-- A CPU that becomes active joins the started ones. -/
theorem started_onCpu_active {g : Governor n} {c : Fin n} {effect : CpuEffect}
    (active : effect.state.phase.Active) : (g.onCpu c effect).started = insert c g.started := by
  ext d
  rw [Finset.mem_insert, mem_started, mem_started]
  by_cases same : d = c
  · subst same
    simp only [onCpu_self, active, true_or]
  · simp only [onCpu_of_ne same, same, false_or]

/-- A CPU that does not stay active leaves the started ones. -/
theorem started_onCpu_inactive {g : Governor n} {c : Fin n} {effect : CpuEffect}
    (inactive : ¬ effect.state.phase.Active) :
    (g.onCpu c effect).started = g.started.erase c := by
  ext d
  rw [Finset.mem_erase, mem_started, mem_started]
  by_cases same : d = c
  · subst same
    simp only [onCpu_self, inactive, ne_eq, not_true_eq_false, false_and]
  · simp only [onCpu_of_ne same, ne_eq, same, not_false_eq_true, true_and]

theorem SameLife.started {before after : Governor n} (same : SameLife before after) :
    after.started = before.started := by
  ext c
  rw [mem_started, mem_started, same.phase c]

/-- The idle hook and the sysfs group are there exactly while a CPU is started,
and the idle handler is the original one otherwise. -/
structure Balanced (g : Governor n) : Prop where
  hook : g.pmIdle = if g.started.Nonempty then some .cpufreqIdle else some .original
  group : g.sysfsGroup = true ↔ g.started.Nonempty

/-- Besides, `active_count` counts the started CPUs. -/
structure Counted (g : Governor n) : Prop extends Balanced g where
  count : g.activeCount = g.started.card
  saved : g.started.Nonempty → g.pmIdleOld = some .original

theorem started_init : (init n).started = ∅ := by
  ext c
  rw [mem_started]
  simp only [init, CpuState.init, GovPhase.Active, Finset.notMem_empty]

/-- At first nothing is counted, and no hook is installed. -/
theorem counted_init : (init n).Counted := by
  have none : ¬ (init n).started.Nonempty := by rw [started_init]; exact Finset.not_nonempty_empty
  refine ⟨⟨?_, ?_⟩, ?_, fun some => absurd some none⟩
  · rw [if_neg none]
    rfl
  · exact ⟨nofun, fun some => absurd some none⟩
  · rw [started_init]
    rfl

theorem Counted.sameLife {before after : Governor n} (counted : before.Counted)
    (same : SameLife before after) : after.Counted where
  hook := by rw [same.pmIdle, same.started, counted.hook]
  group := by rw [same.sysfsGroup, same.started, counted.group]
  count := by rw [same.activeCount, same.started, counted.count]
  saved some := by
    rw [same.pmIdleOld]
    exact counted.saved (same.started ▸ some)

/-- A step of `GOV_STOP` before the last one. -/
theorem Counted.setPhase {g : Governor n} (counted : g.Counted) {c : Fin n}
    (active : (g.cpu c).phase.Active) (info : BoostedInfo) {phase : GovPhase}
    (still : phase.Active) : (g.setPhase c info phase).Counted := by
  have same : (g.setPhase c info phase).started = g.started := by
    rw [Governor.setPhase, started_onCpu_active still,
      Finset.insert_eq_self.mpr (mem_started.mpr active)]
  refine ⟨⟨?_, ?_⟩, ?_, ?_⟩
  · rw [same]
    exact counted.hook
  · rw [same]
    exact counted.group
  · rw [same]
    exact counted.count
  · rw [same]
    exact counted.saved

/-! ## Start -/

/-- `sysfs_create_group` fails in this event. -/
def CreateFails (g : Governor n) (env : Env n) : Event n → Prop
  | .start c policy _ rc =>
      ¬ (env.online c = false ∨ policy.cur = 0) ∧ ¬ g.started.Nonempty ∧ rc.isSome = true
  | _ => False

/-- The counter, the idle handler and the CPU's enable flag are as they were. -/
structure UnchangedBy (before : Governor n) (c : Fin n) (after : Governor n) : Prop where
  activeCount : after.activeCount = before.activeCount
  pmIdle : after.pmIdle = before.pmIdle
  enable : (after.cpu c).info.enable = (before.cpu c).info.enable

/-- A `GOV_START` that returns an error leaves them as they were. -/
def ErrorHarmless (before : Governor n) (env : Env n) (after : Governor n) : Event n → Prop
  | .start c policy freqTable rc =>
      (before.governorStart env c policy freqTable rc).2 ≠ none → before.UnchangedBy c after
  | _ => True

/-- The counter is about to be 1 exactly when no CPU is started. -/
theorem Counted.first_iff {g : Governor n} (counted : g.Counted) :
    g.activeCount + 1 ≤ 1 ↔ ¬ g.started.Nonempty := by
  rw [counted.count, Finset.not_nonempty_iff_eq_empty, ← Finset.card_eq_zero]
  omega

/-- A CPU joins the started ones. -/
theorem Counted.join {g joined : Governor n} (counted : g.Counted) {c : Fin n}
    (fresh : c ∉ g.started) (started : joined.started = insert c g.started)
    (hook : joined.pmIdle = some .cpufreqIdle) (group : joined.sysfsGroup = true)
    (count : joined.activeCount = g.activeCount + 1)
    (saved : joined.pmIdleOld = some .original) : joined.Counted := by
  have present : joined.started.Nonempty := started ▸ Finset.insert_nonempty c g.started
  refine ⟨⟨?_, ?_⟩, ?_, fun _ => saved⟩
  · rw [if_pos present, hook]
  · exact ⟨fun _ => present, fun _ => group⟩
  · rw [started, Finset.card_insert_of_notMem fresh, count, counted.count]
    push_cast
    rfl

/-- Starts keep the balance when `sysfs_create_group` does not fail. -/
theorem Counted.start {g after : Governor n} (counted : g.Counted) {env : Env n} {c : Fin n}
    {policy : CpufreqPolicy} {freqTable : Option FreqTable} {rc returned : Option Errno}
    (inactive : ¬ (g.cpu c).phase.Active)
    (created : ¬ g.CreateFails env (.start c policy freqTable rc))
    (taken : StartTaken g env c policy freqTable rc after returned) :
    after.Counted ∧ (returned ≠ none → g.UnchangedBy c after) := by
  have fresh : c ∉ g.started := fun member => inactive (mem_started.mp member)
  cases taken with
  | refused offline => exact ⟨counted, fun _ => ⟨rfl, rfl, rfl⟩⟩
  | failed accepted first => exact absurd ⟨accepted, counted.first_iff.mp first, rfl⟩ created
  | installed accepted first =>
      have original : g.pmIdle = some .original := by
        rw [counted.hook, if_neg (counted.first_iff.mp first)]
      exact ⟨counted.join fresh (started_onCpu_active trivial) rfl rfl rfl original,
        fun error => absurd rfl error⟩
  | joined accepted later =>
      have present : g.started.Nonempty := not_not.mp (mt counted.first_iff.mpr later)
      have hooked : g.pmIdle = some .cpufreqIdle := by rw [counted.hook, if_pos present]
      exact ⟨counted.join fresh (started_onCpu_active trivial) hooked
        (counted.group.mpr present) rfl (counted.saved present), fun error => absurd rfl error⟩

/-- A start that fails in `sysfs_create_group` leaves the counter incremented. -/
theorem CreateFails.changes {g after : Governor n} (counted : g.Counted) {env : Env n}
    {c : Fin n} {policy : CpufreqPolicy} {freqTable : Option FreqTable}
    {rc returned : Option Errno} (fails : g.CreateFails env (.start c policy freqTable rc))
    (taken : StartTaken g env c policy freqTable rc after returned) :
    returned ≠ none ∧ ¬ g.UnchangedBy c after := by
  obtain ⟨accepted, alone, error⟩ := fails
  cases taken with
  | refused offline => exact absurd offline accepted
  | failed =>
      refine ⟨nofun, fun same => ?_⟩
      have counter := same.activeCount
      simp only [Governor.setPhase, onCpu_activeCount] at counter
      omega
  | installed => cases error
  | joined _ later => exact absurd (counted.first_iff.mpr alone) later

/-! ## Stop -/

theorem stopFinish_started (g : Governor n) (c : Fin n) :
    (g.stopFinish c).started = g.started.erase c := by
  have same : (g.stopFinish c).started =
      (g.setPhase c { (g.cpu c).info with idleExitTime := 0 } .stopped).started := by
    simp only [started, stopFinish_cpu]
  rw [same]
  exact started_onCpu_inactive id

/-- A stop keeps the balance unless exactly two CPUs are started. -/
theorem Counted.stopFinish {g : Governor n} (counted : g.Counted) {c : Fin n}
    (active : (g.cpu c).phase.Active) (notTwo : g.started.card ≠ 2) :
    (g.stopFinish c).Counted := by
  have member : c ∈ g.started := mem_started.mpr active
  have present : g.started.Nonempty := ⟨c, member⟩
  have positive : 0 < g.started.card := Finset.card_pos.mpr present
  have card : (g.started.erase c).card = g.started.card - 1 := Finset.card_erase_of_mem member
  -- the test of the source, `<= 1`, is right for every count but two
  have removed : g.activeCount - 1 ≤ 1 ↔ ¬ (g.started.erase c).Nonempty := by
    rw [counted.count, ← Finset.card_pos, card]
    omega
  refine ⟨⟨?_, ?_⟩, ?_, fun _ => ?_⟩
  · rw [stopFinish_pmIdle, stopFinish_started, counted.saved present, counted.hook, if_pos present]
    simp only [removed, ite_not]
  · rw [stopFinish_sysfsGroup, stopFinish_started, counted.group.mpr present]
    simp only [removed, ite_not, ite_eq_left_iff, Bool.false_eq_true, imp_false, not_not]
  · rw [stopFinish_activeCount, stopFinish_started, counted.count, card]
    omega
  · rw [stopFinish_pmIdleOld, counted.saved present]

/-- With two CPUs started, the stop of one removes the hook of the other. -/
theorem Counted.stopFinish_not_balanced {g : Governor n} (counted : g.Counted) {c : Fin n}
    (active : (g.cpu c).phase.Active) (two : g.started.card = 2) :
    ¬ (g.stopFinish c).Balanced := by
  have member : c ∈ g.started := mem_started.mpr active
  have others : (g.started.erase c).Nonempty := by
    rw [← Finset.card_pos, Finset.card_erase_of_mem member, two]
    exact Nat.one_pos
  have removed : g.activeCount - 1 ≤ 1 := by
    rw [counted.count, two]
    exact le_rfl
  intro balanced
  have hook := balanced.hook
  rw [stopFinish_started, if_pos others, stopFinish_pmIdle, if_pos removed,
    counted.saved ⟨c, member⟩] at hook
  cases hook

/-! ## Runs -/

/-- The lifecycle law of a step: the hook and the group are balanced after it,
and a failed start is harmless. -/
def Lifecycle (before : Governor n) (action : Action n) (after : Governor n) : Prop :=
  after.Balanced ∧ ErrorHarmless before action.env after action.event

/-- A step that `active_count` is right for: `sysfs_create_group` does not fail,
and no CPU is stopped while exactly two are started. -/
def CountsRight (before : Governor n) (action : Action n) : Prop :=
  ¬ before.CreateFails action.env action.event ∧
    ∀ c, action.event = .stopFinish c → before.started.card ≠ 2

theorem balanced_tick {g : Governor n} {env : Env n} : (g.tick env).Balanced ↔ g.Balanced :=
  ⟨fun ⟨hook, group⟩ => ⟨hook, group⟩, fun ⟨hook, group⟩ => ⟨hook, group⟩⟩

theorem errorHarmless_tick {before g : Governor n} {env : Env n} {event : Event n} :
    ErrorHarmless before env (g.tick env) event ↔ ErrorHarmless before env g event := by
  have unchanged (c : Fin n) : before.UnchangedBy c (g.tick env) ↔ before.UnchangedBy c g :=
    ⟨fun ⟨count, idle, enable⟩ => ⟨count, idle, enable⟩,
      fun ⟨count, idle, enable⟩ => ⟨count, idle, enable⟩⟩
  cases event <;> simp only [ErrorHarmless, unchanged]

/-- Every event of the core either obeys the lifecycle law and keeps the count
right, or is one of the two that the count is wrong for. -/
theorem Counted.handle {kernel : TableTarget} {g after : Governor n} {env : Env n}
    {event : Event n} (counted : g.Counted) (orderly : g.Orderly event)
    (ran : g.handle kernel env event = some after) :
    (g.CountsRight ⟨event, env⟩ ∧ after.Counted ∧ ErrorHarmless g env after event) ∨
      (¬ g.CountsRight ⟨event, env⟩ ∧ ¬ (after.Balanced ∧ ErrorHarmless g env after event)) := by
  have active {c : Fin n} {phase : GovPhase} (here : (g.cpu c).phase = phase)
      (active : phase.Active) : (g.cpu c).phase.Active := here ▸ active
  cases handle_taken ran with
  | handled plain handles =>
      refine .inl ⟨⟨?_, ?_⟩, counted.sameLife handles.sameLife, ?_⟩
      · cases event <;> first | exact id | cases plain
      · rintro c rfl
        cases plain
      · cases event <;> first | exact trivial | cases plain
  | @start c policy freqTable rc returned _ result taken =>
      have harmless_iff : ErrorHarmless g env after (.start c policy freqTable rc) ↔
          (returned ≠ none → g.UnchangedBy c after) := by
        simp only [ErrorHarmless, result]
      rw [harmless_iff]
      by_cases fails : g.CreateFails env (.start c policy freqTable rc)
      · obtain ⟨error, changed⟩ := fails.changes counted taken
        exact .inr ⟨fun right => right.1 fails, fun lawful => changed (lawful.2 error)⟩
      · have inactive : ¬ (g.cpu c).phase.Active := by
          rcases orderly with out | stopped
          · rw [out]
            exact id
          · rw [stopped]
            exact id
        exact .inl ⟨⟨fails, nofun⟩, counted.start inactive fails taken⟩
  | @limits c min max policy =>
      have same : SameLife g (g.governorLimits env c { policy with min := min, max := max }) :=
        .onCpu rfl (BoostedInfo.limits_enable ..)
      exact .inl ⟨⟨id, nofun⟩, counted.sameLife same, trivial⟩
  | stopClear c =>
      exact .inl ⟨⟨id, nofun⟩, counted.setPhase (active orderly trivial) _ trivial, trivial⟩
  | stopDelTimer cleared =>
      exact .inl ⟨⟨id, nofun⟩, counted.setPhase (active cleared trivial) _ trivial, trivial⟩
  | stopFlush deleted handles =>
      have still := handles.sameLife.phase _ ▸ active deleted trivial
      exact .inl ⟨⟨id, nofun⟩,
        (counted.sameLife handles.sameLife).setPhase still _ trivial, trivial⟩
  | @stopFinish c flushed =>
      by_cases two : g.started.card = 2
      · exact .inr ⟨fun right => right.2 c rfl two, fun lawful =>
          counted.stopFinish_not_balanced (active flushed trivial) two lawful.1⟩
      · exact .inl ⟨⟨id, fun _ _ => two⟩,
          counted.stopFinish (active flushed trivial) two, trivial⟩

/-- **The lifecycle of the governor.** The idle hook and the sysfs group are
installed exactly while a CPU is started, and a failed start changes nothing,
in exactly the runs in which `sysfs_create_group` does not fail and no CPU is
stopped while exactly two are started. -/
theorem lifecycle_iff_countsRight (kernel : TableTarget) (actions : List (Action n)) :
    ((init n).Balanced ∧ Along (coreStep kernel) Lifecycle (init n) actions) ↔
      Guarded (coreStep kernel) CountsRight (init n) actions := by
  have stepped {before after : Governor n} {action : Action n} (counted : before.Counted)
      (taken : before.coreStep kernel action = some after) :
      (before.CountsRight action ∧ after.Counted ∧ before.Lifecycle action after) ∨
        (¬ before.CountsRight action ∧ ¬ before.Lifecycle action after) := by
    obtain ⟨orderly, taken⟩ := coreStep_eq_some.mp taken
    obtain ⟨handled, ran, rfl⟩ := Option.map_eq_some_iff.mp taken
    unfold Lifecycle
    rw [balanced_tick, errorHarmless_tick]
    rcases counted.handle orderly ran with ⟨right, still, harmless⟩ | wrong
    · exact .inl ⟨right, still.sameLife (tick_sameLife ..), still.toBalanced, harmless⟩
    · exact .inr wrong
  rw [and_iff_right counted_init.toBalanced]
  refine along_iff Counted ?_ ?_ counted_init actions
  · intro before action after counted right taken
    rcases stepped counted taken with ⟨_, still, lawful⟩ | ⟨wrong, _⟩
    · exact ⟨still, lawful⟩
    · exact absurd right wrong
  · intro before action after counted taken lawful
    rcases stepped counted taken with ⟨right, _⟩ | ⟨_, unlawful⟩
    · exact right
    · exact absurd lawful unlawful

/-- Two CPUs are started, and one of them is stopped. -/
def oneOfTwoStops : List (Action 2) :=
  atJiffy 0 ([startAt firstCpu 300000, startAt secondCpu 300000] ++ stop secondCpu)

/-- The other CPU stays started, without its idle hook. -/
theorem oneOfTwoStops_unhooks :
    ∃ g : Governor 2,
      exec (coreStep cpufreqFrequencyTableTarget) (init 2) oneOfTwoStops = some g ∧
        (g.cpu firstCpu).phase = .started ∧ g.pmIdle = some .original ∧ g.sysfsGroup = false ∧
        ¬ g.Balanced := by
  refine ⟨_, (Option.some_get (by decide +kernel)).symm, ?_, ?_, ?_, fun balanced => ?_⟩
  · decide +kernel
  · decide +kernel
  · decide +kernel
  · exact absurd balanced.hook (by decide +kernel)

end Governor

end Jordan.Cpufreq
