import Jordan.Cpufreq.InteractiveHandoff
import Jordan.Library.SharedHook

/-! # The life of the interactive governor

`active_count` counts the policies that the governor is started on. The first start
installs the idle hook and keeps the policy; a stop removes the hook unless more than one
policy is left. So a stop that leaves one policy takes the hook away from it, and one of the
policy that is kept leaves the handlers with a policy that the governor is not started on
(`Jordan.Cpufreq.InteractiveGovernor.governed_iff`).

A stop takes off the timer of one CPU. Timers of the other CPUs, the work, and CPUs that
are inside the idle hook, which arm their timers when they leave it, go on after the last
stop and change the frequency of a policy that another governor has
(`Jordan.Cpufreq.InteractiveGovernor.silent_iff`). They still find the pointers they follow
(`Jordan.Cpufreq.InteractiveGovernor.handled_of_reached`).
-/

namespace Jordan.Cpufreq

open Execution SharedHook

namespace InteractiveGovernor

variable {n : Nat} {g after : InteractiveGovernor n} {env : Env n} {c p : Fin n}
  {w : InteractiveThread n}

/-! ## What runs, and what the governor events change -/

/-- Nothing of the governor is left that can run. -/
structure Silent (g : InteractiveGovernor n) : Prop where
  timer (c : Fin n) : (g.cpu c).timer = none
  idle (c : Fin n) : (g.cpu c).inIdle = false
  queued : g.workQueued = none
  thread (w : InteractiveThread n) : g.thread w = .resting

/-- What only the governor events change. -/
def life (g : InteractiveGovernor n) :
    Finset (Fin n) × Int × Option IdleHandler × Option IdleHandler × Bool × Option (Fin n) :=
  (g.started, g.activeCount, g.pmIdle, g.pmIdleOld, g.group, g.policy)

/-- The data that the timers, the idle hook and the work function run on. -/
def activity (g : InteractiveGovernor n) :
    (Fin n → InteractiveCpu) × Option (InteractiveThread n) ×
      (InteractiveThread n → InteractiveWork n) :=
  (g.cpu, g.workQueued, g.thread)

theorem silent_congr (same : after.activity = g.activity) : after.Silent ↔ g.Silent := by
  obtain ⟨cpu, rest⟩ := Prod.mk.inj same
  obtain ⟨queued, thread⟩ := Prod.mk.inj rest
  constructor
  · intro silent
    exact ⟨cpu ▸ silent.timer, cpu ▸ silent.idle, queued ▸ silent.queued, thread ▸ silent.thread⟩
  · intro silent
    exact ⟨cpu ▸ silent.timer, cpu ▸ silent.idle, queued ▸ silent.queued, thread ▸ silent.thread⟩

/-- The events of the timers, the idle hook and the work function. -/
def Runs : InteractiveEvent n → Prop
  | .timer _ | .idleEnter _ | .idleExit _ | .work _ => True
  | .start _ _ | .stop _ | .limits _ _ _ | .store _ | .transition _ _ | .outside _ _ => False

/-- In silence, without the hook, nothing of the governor runs. -/
theorem Silent.not_runs {event : InteractiveEvent n} (silent : g.Silent)
    (unhooked : g.pmIdle ≠ some .cpufreqIdle) (enabled : g.Enabled env event) : ¬ Runs event := by
  intro runs
  cases event with
  | timer c =>
      obtain ⟨expiry, pending, _⟩ := enabled
      exact Option.some_ne_none expiry ((silent.timer c).symm.trans pending).symm
  | idleEnter c => exact unhooked enabled.1
  | idleExit c => exact Bool.noConfusion ((silent.idle c).symm.trans enabled)
  | work w =>
      have queued : g.workQueued = some w := enabled (silent.thread w)
      exact Option.some_ne_none w (silent.queued.symm.trans queued).symm
  | start | stop | limits | store | transition | outside => exact runs

theorem timer_life (ran : g.cpufreqInteractiveTimer env c = some after) :
    after.life = g.life := by
  simp only [cpufreqInteractiveTimer] at ran
  split at ran
  · exact Option.some.inj ran ▸ rfl
  · obtain ⟨p, _, rfl⟩ := Option.map_eq_some_iff.mp ran
    split
    · split
      · rfl
      · split <;> rfl
    · split
      · rfl
      · split <;> rfl

/-- A step of a thread changes nothing of the governor's life. -/
theorem workStep_life (ran : g.workStep env w = some after) : after.life = g.life := by
  unfold workStep at ran
  cases current : g.thread w with
  | resting =>
      rw [current] at ran
      exact Option.some.inj ran ▸ rfl
  | looping todo =>
      rw [current] at ran
      cases todo with
      | nil => exact Option.some.inj ran ▸ rfl
      | cons c todo =>
          obtain ⟨p, _, rfl⟩ := Option.map_eq_some_iff.mp ran
          split
          · split <;> rfl
          · rfl
  | lowering c todo =>
      rw [current] at ran
      obtain ⟨p, _, rfl⟩ := Option.map_eq_some_iff.mp ran
      rfl
  | calling c relation todo =>
      rw [current] at ran
      obtain ⟨p, _, rfl⟩ := Option.map_eq_some_iff.mp ran
      rfl
  | driven c todo =>
      rw [current] at ran
      exact Option.some.inj ran ▸ rfl

theorem idleExit_life (ran : g.cpufreqIdleExit env c = some after) : after.life = g.life := by
  obtain ⟨p, _, rfl⟩ := Option.map_eq_some_iff.mp ran
  by_cases outside : c ∉ (g.policies p).cpus
  · rw [if_pos outside]
    rfl
  · rw [if_neg outside]
    split <;> rfl

/-- The events other than the starts and the stops. -/
def InnerEvent : InteractiveEvent n → Prop
  | .start _ _ | .stop _ => False
  | .timer _ | .idleEnter _ | .idleExit _ | .work _ | .limits _ _ _ | .store _ | .transition _ _
  | .outside _ _ => True

theorem governorLimits_frame (g : InteractiveGovernor n) (env : KernelEnv) (p : Fin n) :
    (g.governorLimits env p).life = g.life ∧ (g.governorLimits env p).activity = g.activity := by
  simp only [governorLimits]
  split
  · exact ⟨rfl, rfl⟩
  · split <;> exact ⟨rfl, rfl⟩

theorem handle_life {event : InteractiveEvent n} (inner : InnerEvent event)
    (ran : g.handle env event = some after) : after.life = g.life := by
  cases event with
  | timer c => exact timer_life ran
  | idleEnter c =>
      obtain ⟨old, _, rfl⟩ := Option.map_eq_some_iff.mp ran
      rfl
  | idleExit c => exact idleExit_life ran
  | work w => exact workStep_life ran
  | limits p min max => exact Option.some.inj ran ▸ (governorLimits_frame ..).1
  | store minSampleTime | transition p cur | outside p policy => exact Option.some.inj ran ▸ rfl
  | start | stop => exact inner.elim

/-- Changes of the limits, the tunable and the policies leave what runs as it is. -/
theorem handle_activity {event : InteractiveEvent n} (inner : InnerEvent event)
    (rests : ¬ Runs event) (ran : g.handle env event = some after) :
    after.activity = g.activity := by
  cases event with
  | limits p min max => exact Option.some.inj ran ▸ (governorLimits_frame ..).2
  | store minSampleTime | transition p cur | outside p policy => exact Option.some.inj ran ▸ rfl
  | timer | idleEnter | idleExit | work => exact absurd trivial rests
  | start | stop => exact inner.elim

/-! ## The count, the hook and the pointers -/

/-- What always holds: the count is the number of started policies, or one more after a
failed start; in the first case the pointers to the idle handlers are there. While the
policy is a null pointer, nothing runs. -/
structure Steady (g : InteractiveGovernor n) : Prop where
  atLeast : (g.started.card : Int) ≤ g.activeCount
  atMost : g.activeCount ≤ g.started.card + 1
  hooked : g.pmIdle = some .cpufreqIdle → g.activeCount = g.started.card ∧ g.started.Nonempty
  old : g.pmIdleOld ≠ some .cpufreqIdle
  natural : g.activeCount = g.started.card →
    g.pmIdle.isSome = true ∧ (g.started.Nonempty → g.pmIdleOld.isSome = true)
  pointer : g.policy = none → g.Silent ∧ g.pmIdle ≠ some .cpufreqIdle

theorem steady_init (policies : Fin n → InteractivePolicy n) : (init policies).Steady where
  atLeast := Int.le_refl 0
  atMost := Int.le.intro 1 rfl
  hooked installed := by cases installed
  old := Option.some_ne_none _ ∘ Eq.symm
  natural _ := ⟨rfl, fun started => absurd started Finset.not_nonempty_empty⟩
  pointer _ := by
    refine ⟨⟨fun _ => rfl, fun _ => rfl, rfl, fun _ => rfl⟩, fun installed => ?_⟩
    cases installed

/-- A step that keeps the governor's life keeps it steady, if it is silent while the policy is
null. -/
theorem Steady.of_life (steady : g.Steady) (same : after.life = g.life)
    (pointer : g.policy = none → after.Silent) : after.Steady := by
  obtain ⟨started, rest⟩ := Prod.mk.inj same
  obtain ⟨count, rest⟩ := Prod.mk.inj rest
  obtain ⟨idle, rest⟩ := Prod.mk.inj rest
  obtain ⟨old, rest⟩ := Prod.mk.inj rest
  obtain ⟨_, policy⟩ := Prod.mk.inj rest
  refine ⟨?_, ?_, ?_, ?_, ?_, fun null => ?_⟩
  · rw [started, count]
    exact steady.atLeast
  · rw [started, count]
    exact steady.atMost
  · rw [started, count, idle]
    exact steady.hooked
  · rw [old]
    exact steady.old
  · rw [started, count, idle, old]
    exact steady.natural
  · rw [policy] at null
    exact ⟨pointer null, idle ▸ (steady.pointer null).2⟩

/-- Before a first start nothing is started, and no start has failed. -/
theorem Steady.first (steady : g.Steady) (first : ¬ g.activeCount + 1 > 1) :
    g.activeCount = 0 ∧ g.started = ∅ := by
  have atLeast := steady.atLeast
  have zero : g.started.card = 0 := by omega
  exact ⟨by omega, Finset.card_eq_zero.mp zero⟩

/-- A start keeps the governor steady. -/
theorem Steady.start (steady : g.Steady) (fresh : p ∉ g.started) (rc : Option Errno) :
    (g.governorStart env p rc).1.Steady := by
  have card : (insert p g.started).card = g.started.card + 1 := Finset.card_insert_of_notMem fresh
  have atLeast := steady.atLeast
  have atMost := steady.atMost
  simp only [governorStart]
  by_cases offline : env.online p = false
  · rw [if_pos offline]
    exact steady
  · rw [if_neg offline]
    by_cases again : g.activeCount + 1 > 1
    · rw [if_pos again]
      refine ⟨?_, ?_, fun installed => ⟨?_, Finset.insert_nonempty ..⟩, steady.old, fun same => ?_,
        fun null => ?_⟩
      · rw [card]
        push_cast
        omega
      · rw [card]
        push_cast
        omega
      · rw [card, (steady.hooked installed).1]
        push_cast
        rfl
      · have counted : g.activeCount = g.started.card := by
          have counted : g.activeCount + 1 = (insert p g.started).card := same
          rw [card] at counted
          push_cast at counted
          omega
        obtain ⟨idle, old⟩ := steady.natural counted
        exact ⟨idle, fun _ => old (Finset.card_pos.mp (by omega))⟩
      · obtain ⟨silent, unhooked⟩ := steady.pointer null
        exact ⟨⟨silent.timer, silent.idle, silent.queued, silent.thread⟩, unhooked⟩
    · rw [if_neg again]
      obtain ⟨zero, empty⟩ := steady.first again
      cases rc with
      | some errno =>
          refine ⟨?_, ?_, fun installed => ?_, steady.old, fun same => ?_, fun null => ?_⟩
          · show (g.started.card : Int) ≤ g.activeCount + 1
            omega
          · show g.activeCount + 1 ≤ g.started.card + 1
            omega
          · exact absurd (steady.hooked installed).2 (Finset.not_nonempty_iff_eq_empty.mpr empty)
          · have same : g.activeCount + 1 = g.started.card := same
            rw [empty, zero] at same
            cases same
          · obtain ⟨silent, unhooked⟩ := steady.pointer null
            exact ⟨⟨silent.timer, silent.idle, silent.queued, silent.thread⟩, unhooked⟩
      | none =>
          have counted : g.activeCount = g.started.card := by
            rw [zero, empty]
            rfl
          obtain ⟨idle, _⟩ := steady.natural counted
          have before : g.pmIdle ≠ some .cpufreqIdle := fun installed =>
            absurd (steady.hooked installed).2 (Finset.not_nonempty_iff_eq_empty.mpr empty)
          have one : (((insert p g.started).card : Nat) : Int) = g.activeCount + 1 := by
            rw [card, counted]
            push_cast
            rfl
          exact ⟨one.le, one.symm.le.trans (by omega), fun _ => ⟨one.symm,
            Finset.insert_nonempty ..⟩, before, fun _ => ⟨rfl, fun _ => idle⟩, fun null => by
              cases null⟩

/-- A stop keeps the governor steady. -/
theorem Steady.stop (steady : g.Steady) (member : p ∈ g.started) : (g.governorStop p).Steady := by
  have card : (g.started.erase p).card = g.started.card - 1 := Finset.card_erase_of_mem member
  have positive : 0 < g.started.card := Finset.card_pos.mpr ⟨p, member⟩
  have atLeast := steady.atLeast
  have atMost := steady.atMost
  have counted (same : g.activeCount - 1 = (g.started.erase p).card) :
      g.activeCount = g.started.card := by
    rw [card] at same
    omega
  simp only [governorStop]
  by_cases several : g.activeCount - 1 > 1
  · rw [if_pos several]
    refine ⟨?_, ?_, fun installed => ?_, steady.old, fun same => ?_, fun null => ?_⟩
    · show ((g.started.erase p).card : Int) ≤ g.activeCount - 1
      rw [card]
      omega
    · show g.activeCount - 1 ≤ (g.started.erase p).card + 1
      rw [card]
      omega
    · have all := (steady.hooked installed).1
      have left : 0 < (g.started.erase p).card := by
        rw [card]
        omega
      refine ⟨?_, Finset.card_pos.mp left⟩
      show g.activeCount - 1 = (g.started.erase p).card
      rw [card]
      omega
    · obtain ⟨idle, old⟩ := steady.natural (counted same)
      exact ⟨idle, fun _ => old ⟨p, member⟩⟩
    · obtain ⟨silent, unhooked⟩ := steady.pointer null
      exact ⟨⟨silent.timer, silent.idle, silent.queued, silent.thread⟩, unhooked⟩
  · rw [if_neg several]
    refine ⟨?_, ?_, fun installed => absurd installed steady.old, steady.old, fun same => ?_,
      fun null => ⟨?_, steady.old⟩⟩
    · show ((g.started.erase p).card : Int) ≤ g.activeCount - 1
      rw [card]
      omega
    · show g.activeCount - 1 ≤ (g.started.erase p).card + 1
      rw [card]
      omega
    · obtain ⟨_, old⟩ := steady.natural (counted same)
      exact ⟨old ⟨p, member⟩, fun _ => old ⟨p, member⟩⟩
    · obtain ⟨silent, _⟩ := steady.pointer null
      refine ⟨fun c => ?_, fun c => ?_, silent.queued, silent.thread⟩
      · by_cases here : c = p
        · subst here
          simp only [setCpu, Function.update_self]
        · simpa only [setCpu, Function.update_of_ne here] using silent.timer c
      · by_cases here : c = p
        · subst here
          simpa only [setCpu, Function.update_self] using silent.idle c
        · simpa only [setCpu, Function.update_of_ne here] using silent.idle c

theorem Steady.handle {event : InteractiveEvent n} (steady : g.Steady)
    (enabled : g.Enabled env event) (ran : g.handle env event = some after) : after.Steady := by
  have inner (within : InnerEvent event) : after.Steady := by
    refine steady.of_life (handle_life within ran) fun null => ?_
    obtain ⟨silent, unhooked⟩ := steady.pointer null
    exact (silent_congr (handle_activity within (silent.not_runs unhooked enabled) ran)).mpr silent
  cases event with
  | start p rc => exact Option.some.inj ran ▸ steady.start enabled rc
  | stop p => exact Option.some.inj ran ▸ steady.stop enabled
  | timer | idleEnter | idleExit | work | limits | store | transition | outside =>
      exact inner trivial

theorem Steady.step {action : InteractiveAction n} (steady : g.Steady)
    (taken : g.step action = some after) : after.Steady := by
  obtain ⟨enabled, ran⟩ := step_eq_some.mp taken
  exact steady.handle enabled ran

theorem steady_of_reached {policies : Fin n → InteractivePolicy n}
    {actions : List (InteractiveAction n)}
    (reached : exec step (init policies) actions = some g) : g.Steady :=
  invariant_of_step Steady (fun _ _ _ steady taken => steady.step taken) (steady_init policies)
    reached

/-- What runs has a policy. -/
theorem Steady.pointer_isSome {event : InteractiveEvent n} (steady : g.Steady)
    (enabled : g.Enabled env event) (runs : Runs event) : g.policy.isSome = true := by
  refine Option.isSome_iff_ne_none.mpr fun null => ?_
  obtain ⟨silent, unhooked⟩ := steady.pointer null
  exact silent.not_runs unhooked enabled runs

/-- In a steady state no handler follows a null pointer. -/
theorem Steady.handle_isSome {event : InteractiveEvent n} (steady : g.Steady)
    (enabled : g.Enabled env event) : (g.handle env event).isSome = true := by
  cases event with
  | timer c =>
      have pointer := steady.pointer_isSome enabled trivial
      simp only [InteractiveGovernor.handle, cpufreqInteractiveTimer]
      by_cases early : (env.reading c).sample.wall = (g.cpu c).idleExitTime
      · rw [if_pos early]
        rfl
      · rw [if_neg early]
        exact Option.isSome_map.trans pointer
  | idleEnter c =>
      obtain ⟨counted, started⟩ := steady.hooked enabled.1
      exact Option.isSome_map.trans ((steady.natural counted).2 started)
  | idleExit c => exact Option.isSome_map.trans (steady.pointer_isSome enabled trivial)
  | work w =>
      have pointer := steady.pointer_isSome enabled trivial
      simp only [InteractiveGovernor.handle, workStep]
      cases g.thread w with
      | resting => rfl
      | looping todo =>
          cases todo with
          | nil => rfl
          | cons c todo => exact Option.isSome_map.trans pointer
      | lowering c todo => exact Option.isSome_map.trans pointer
      | calling c relation todo => exact Option.isSome_map.trans pointer
      | driven c todo => rfl
  | start | stop | limits | store | transition | outside => rfl

/-! ## The hook -/

/-- The policies hold the hook that the count keeps. -/
def hook (g : InteractiveGovernor n) : Hook (Fin n) where
  holders := g.started
  count := g.activeCount.toNat
  installed := decide (g.pmIdle = some .cpufreqIdle)

/-- The hook is installed while the governor is started on some policy, the count is the
number of these policies, and the policy that the handlers follow is one of them. -/
structure Governed (g : InteractiveGovernor n) : Prop where
  balanced : g.hook.Balanced
  follows : g.started.Nonempty → ∀ p ∈ g.policy, p ∈ g.started

/-- A first start does not fail, and a stop is that of the only policy, or it leaves two or
more policies, among them the one that the handlers follow. -/
def HookSafe (g : InteractiveGovernor n) (action : InteractiveAction n) : Prop :=
  match action.event with
  | .start p rc => action.env.online p = true → g.activeCount + 1 ≤ 1 → rc = none
  | .stop p => g.started.card = 1 ∨ (2 < g.started.card ∧ p ∉ g.policy)
  | .timer _ | .idleEnter _ | .idleExit _ | .work _ | .limits _ _ _ | .store _ | .transition _ _
  | .outside _ _ => True

theorem governed_init (policies : Fin n → InteractivePolicy n) : (init policies).Governed where
  balanced := Hook.balanced_empty
  follows started := absurd started Finset.not_nonempty_empty

theorem Governed.of_life (governed : g.Governed) (same : after.life = g.life) :
    after.Governed := by
  obtain ⟨started, rest⟩ := Prod.mk.inj same
  obtain ⟨count, rest⟩ := Prod.mk.inj rest
  obtain ⟨idle, rest⟩ := Prod.mk.inj rest
  obtain ⟨_, rest⟩ := Prod.mk.inj rest
  obtain ⟨_, policy⟩ := Prod.mk.inj rest
  refine ⟨?_, ?_⟩
  · simpa only [hook, started, count, idle] using governed.balanced
  · rw [started, policy]
    exact governed.follows

/-- The count of a governed state, as the number that `active_count` is. -/
theorem Governed.count (governed : g.Governed) (steady : g.Steady) :
    g.activeCount = g.started.card := by
  have balanced : g.activeCount.toNat = g.started.card := governed.balanced.count
  have atLeast := steady.atLeast
  omega

/-- A start leaves the hook and the pointer with the started policies exactly if it is safe. -/
theorem Governed.start_iff (governed : g.Governed) (steady : g.Steady) (fresh : p ∉ g.started)
    (rc : Option Errno) :
    (g.governorStart env p rc).1.Governed ↔ g.HookSafe ⟨.start p rc, env⟩ := by
  have count := governed.count steady
  have acquired := governed.balanced.acquire fresh
  unfold HookSafe
  simp only [governorStart]
  by_cases offline : env.online p = false
  · rw [if_pos offline]
    exact iff_of_true governed fun online => Bool.noConfusion (offline.symm.trans online)
  · rw [if_neg offline]
    have next : (g.activeCount + 1).toNat = g.activeCount.toNat + 1 := by omega
    by_cases again : g.activeCount + 1 > 1
    · rw [if_pos again]
      refine iff_of_true ⟨?_, fun _ q pointed => ?_⟩ fun _ first => absurd first (not_le.mpr again)
      · have same : g.hook.acquire p = ⟨insert p g.started, (g.activeCount + 1).toNat,
            decide (g.pmIdle = some .cpufreqIdle)⟩ := by
          have later : ¬ g.activeCount.toNat + 1 ≤ 1 := by omega
          simp only [Hook.acquire, hook, later, ↓reduceIte, next]
        rw [same] at acquired
        exact acquired
      · have started : g.started.Nonempty := Finset.card_pos.mp (by omega)
        exact Finset.mem_insert_of_mem (governed.follows started q pointed)
    · rw [if_neg again]
      cases rc with
      | some errno =>
          refine iff_of_false (fun counted => ?_) fun succeeds => ?_
          · have leaked : (g.activeCount + 1).toNat = g.started.card := counted.balanced.count
            omega
          · cases succeeds (Bool.eq_true_of_not_eq_false offline) (not_lt.mp again)
      | none =>
          refine iff_of_true ⟨?_, fun _ q pointed => ?_⟩ fun _ _ => rfl
          · have same : g.hook.acquire p =
                ⟨insert p g.started, (g.activeCount + 1).toNat, true⟩ := by
              have first : g.activeCount.toNat + 1 ≤ 1 := by omega
              simp only [Hook.acquire, hook, first, ↓reduceIte, next]
            rw [same] at acquired
            exact acquired
          · obtain rfl := Option.some.inj pointed
            exact Finset.mem_insert_self ..

/-- A stop leaves the hook and the pointer with the started policies exactly if it is safe. -/
theorem Governed.stop_iff (governed : g.Governed) (steady : g.Steady) (member : p ∈ g.started) :
    (g.governorStop p).Governed ↔ g.HookSafe ⟨.stop p, env⟩ := by
  have count := governed.count steady
  have positive : 0 < g.started.card := Finset.card_pos.mpr ⟨p, member⟩
  have card : (g.started.erase p).card = g.started.card - 1 := Finset.card_erase_of_mem member
  have pointer : g.policy.isSome = true := by
    have installed : decide (g.pmIdle = some .cpufreqIdle) = true :=
      governed.balanced.installed.mpr ⟨p, member⟩
    refine Option.isSome_iff_ne_none.mpr fun null => ?_
    exact (steady.pointer null).2 (of_decide_eq_true installed)
  have started : (g.governorStop p).started = g.started.erase p := by
    simp only [governorStop]
    split <;> rfl
  have policy : (g.governorStop p).policy = g.policy := by
    simp only [governorStop]
    split <;> rfl
  have released : (g.governorStop p).hook = g.hook.release 1 p := by
    have next : (g.activeCount - 1).toNat = g.activeCount.toNat - 1 := by omega
    by_cases several : g.activeCount - 1 > 1
    · have many : ¬ g.activeCount.toNat - 1 ≤ 1 := by omega
      simp only [hook, governorStop, several, Hook.release, many, ↓reduceIte, next]
    · have few : g.activeCount.toNat - 1 ≤ 1 := by omega
      simp only [hook, governorStop, several, Hook.release, few, ↓reduceIte, next, setCpu,
        steady.old, decide_false]
  have balanced_iff := governed.balanced.release_iff member 1
  have follows_iff : ((g.started.erase p).Nonempty → ∀ q ∈ g.policy, q ∈ g.started.erase p) ↔
      (g.started.card = 1 ∨ p ∉ g.policy) := by
    have left_iff : (g.started.erase p).Nonempty ↔ g.started.card ≠ 1 := by
      rw [← Finset.card_pos, card]
      omega
    rw [left_iff, or_iff_not_imp_left]
    refine imp_congr_right fun _ => ⟨fun follows pointed => ?_, fun other q pointed => ?_⟩
    · exact Finset.notMem_erase p g.started (follows p pointed)
    · refine Finset.mem_erase.mpr ⟨?_, governed.follows ⟨p, member⟩ q pointed⟩
      rintro rfl
      exact other pointed
  constructor
  · intro after
    have hooked := balanced_iff.mp (released ▸ after.balanced)
    have followed := after.follows
    rw [started, policy, follows_iff] at followed
    rcases hooked with only | many
    · exact .inl only
    · rcases followed with only | other
      · exact .inl only
      · exact .inr ⟨many, other⟩
  · intro safe
    refine ⟨released ▸ balanced_iff.mpr (safe.imp_right And.left), ?_⟩
    rw [started, policy]
    exact follows_iff.mpr (safe.imp_right And.right)

theorem Governed.step {action : InteractiveAction n} (governed : g.Governed) (steady : g.Steady)
    (taken : g.step action = some after) : after.Governed ↔ g.HookSafe action := by
  obtain ⟨event, env⟩ := action
  obtain ⟨enabled, ran⟩ := step_eq_some.mp taken
  have inner (within : InnerEvent event) : after.Governed :=
    governed.of_life (handle_life within ran)
  cases event with
  | start p rc => exact Option.some.inj ran ▸ governed.start_iff steady enabled rc
  | stop p => exact Option.some.inj ran ▸ governed.stop_iff steady enabled
  | timer | idleEnter | idleExit | work | limits | store | transition | outside =>
      exact iff_of_true (inner trivial) trivial

/-- **The idle hook.** In every run from the start, the hook is installed and counted right
all the time, and the handlers follow a policy that the governor is started on, exactly if
no first start fails, no stop leaves one policy, and none is that of the policy that the
handlers follow while others are left. -/
theorem governed_iff (policies : Fin n → InteractivePolicy n)
    (actions : List (InteractiveAction n)) :
    Along step (fun _ _ after => after.Governed) (init policies) actions ↔
      Guarded step HookSafe (init policies) actions := by
  have initially : (init policies).Steady ∧ (init policies).Governed :=
    ⟨steady_init policies, governed_init policies⟩
  refine along_iff (fun g => g.Steady ∧ g.Governed)
    (fun before action after ⟨steady, governed⟩ safe taken => ?_)
    (fun before action after ⟨steady, governed⟩ taken law => ?_) initially actions
  · have still := (governed.step steady taken).mpr safe
    exact ⟨⟨steady.step taken, still⟩, still⟩
  · exact (governed.step steady taken).mp law

/-! ## After the last stop -/

/-- Nothing is left that can run but the timer of one CPU. -/
def SilentApart (g : InteractiveGovernor n) (p : Fin n) : Prop :=
  (∀ c, c ≠ p → (g.cpu c).timer = none) ∧ (∀ c, (g.cpu c).inIdle = false) ∧
    g.workQueued = none ∧ ∀ w, g.thread w = .resting

instance (g : InteractiveGovernor n) (p : Fin n) : Decidable (g.SilentApart p) :=
  inferInstanceAs (Decidable (_ ∧ _ ∧ _ ∧ _))

/-- At the last stop, nothing is left that can run but the timer that it takes off. -/
def StopsSilent (g : InteractiveGovernor n) (action : InteractiveAction n) : Prop :=
  match action.event with
  | .stop p => g.started = {p} → g.SilentApart p
  | .timer _ | .idleEnter _ | .idleExit _ | .work _ | .start _ _ | .limits _ _ _ | .store _
  | .transition _ _ | .outside _ _ => True

instance (g : InteractiveGovernor n) : DecidablePred g.StopsSilent := fun ⟨event, _⟩ =>
  match event with
  | .stop p => inferInstanceAs (Decidable (_ → g.SilentApart p))
  | .timer _ | .idleEnter _ | .idleExit _ | .work _ | .start _ _ | .limits _ _ _ | .store _
  | .transition _ _ | .outside _ _ => .isTrue trivial

/-- While the governor is not started, nothing of it is left that can run. -/
def Rests (g : InteractiveGovernor n) : Prop := g.started = ∅ → g.Silent

/-- The last stop leaves nothing at work exactly if it finds nothing at work. -/
theorem Steady.rests_stop_iff (steady : g.Steady) (member : p ∈ g.started) :
    (g.governorStop p).Rests ↔ g.StopsSilent ⟨.stop p, env⟩ := by
  have last_iff : g.started.erase p = ∅ ↔ g.started = {p} := by
    constructor
    · intro none
      rw [← Finset.insert_erase member, none]
      rfl
    · intro only
      rw [only, Finset.erase_singleton]
  have started : (g.governorStop p).started = g.started.erase p := by
    simp only [governorStop]
    split <;> rfl
  unfold Rests StopsSilent
  rw [started, last_iff]
  refine imp_congr_right fun only => ?_
  have single : g.started.card = 1 := by rw [only, Finset.card_singleton]
  have atMost := steady.atMost
  have few : ¬ g.activeCount - 1 > 1 := by omega
  simp only [governorStop, if_neg few]
  constructor
  · intro silent
    refine ⟨fun c other => ?_, fun c => ?_, silent.queued, silent.thread⟩
    · simpa only [setCpu, Function.update_of_ne other] using silent.timer c
    · have awake := silent.idle c
      by_cases here : c = p
      · subst here
        simpa only [setCpu, Function.update_self] using awake
      · simpa only [setCpu, Function.update_of_ne here] using awake
  · rintro ⟨timer, idle, queued, thread⟩
    refine ⟨fun c => ?_, fun c => ?_, queued, thread⟩
    · by_cases here : c = p
      · subst here
        simp only [setCpu, Function.update_self]
      · simpa only [setCpu, Function.update_of_ne here] using timer c here
    · by_cases here : c = p
      · subst here
        simpa only [setCpu, Function.update_self] using idle c
      · simpa only [setCpu, Function.update_of_ne here] using idle c

/-- A start does not disturb the rest of a governor that is not started. -/
theorem Rests.start (rests : g.Rests) (rc : Option Errno) :
    (g.governorStart env p rc).1.Rests := by
  have inserted (empty : insert p g.started = ∅) : False :=
    Finset.insert_ne_empty p g.started empty
  have kept (empty : g.started = ∅) := rests empty
  simp only [governorStart]
  by_cases offline : env.online p = false
  · rw [if_pos offline]
    exact rests
  · rw [if_neg offline]
    by_cases again : g.activeCount + 1 > 1
    · rw [if_pos again]
      exact fun empty => (inserted empty).elim
    · rw [if_neg again]
      cases rc with
      | some errno =>
          intro empty
          obtain ⟨timer, idle, queued, thread⟩ := kept empty
          exact ⟨timer, idle, queued, thread⟩
      | none => exact fun empty => (inserted empty).elim

/-- While the governor is not started, no event of a policy reaches it, and nothing runs. -/
theorem Rests.not_runs {event : InteractiveEvent n} (rests : g.Rests) (steady : g.Steady)
    (empty : g.started = ∅) (enabled : g.Enabled env event) : ¬ Runs event := by
  refine (rests empty).not_runs (fun installed => ?_) enabled
  exact absurd (steady.hooked installed).2 (Finset.not_nonempty_iff_eq_empty.mpr empty)

/-- Any step leaves a governor that is not started at rest exactly if it stops it silently. -/
theorem Rests.step {action : InteractiveAction n} (rests : g.Rests) (steady : g.Steady)
    (taken : g.step action = some after) : after.Rests ↔ g.StopsSilent action := by
  obtain ⟨event, env⟩ := action
  obtain ⟨enabled, ran⟩ := step_eq_some.mp taken
  have inner (within : InnerEvent event) : after.Rests := by
    have started : after.started = g.started := congrArg Prod.fst (handle_life within ran)
    intro empty
    rw [started] at empty
    have same := handle_activity within (rests.not_runs steady empty enabled) ran
    exact (silent_congr same).mpr (rests empty)
  cases event with
  | start p rc => exact iff_of_true (Option.some.inj ran ▸ rests.start rc) trivial
  | stop p => exact Option.some.inj ran ▸ steady.rests_stop_iff enabled
  | timer | idleEnter | idleExit | work | limits | store | transition | outside =>
      exact iff_of_true (inner trivial) trivial

/-- While the governor is not started it makes no request. -/
theorem Rests.requests {action : InteractiveAction n} (rests : g.Rests) (steady : g.Steady)
    (taken : g.step action = some after) (empty : g.started = ∅) :
    after.requests = g.requests := by
  obtain ⟨event, env⟩ := action
  obtain ⟨enabled, ran⟩ := step_eq_some.mp taken
  have outside {p : Fin n} (member : p ∈ g.started) : False := by
    rw [empty] at member
    exact Finset.notMem_empty p member
  cases event with
  | timer | idleEnter | idleExit | work =>
      exact absurd trivial (rests.not_runs steady empty enabled)
  | start p rc =>
      obtain rfl := Option.some.inj ran
      simp only [governorStart]
      split
      · rfl
      · split
        · rfl
        · cases rc <;> rfl
  | stop p => exact (outside enabled).elim
  | limits p min max => exact (outside enabled.1).elim
  | store minSampleTime | transition p cur | outside p policy => exact Option.some.inj ran ▸ rfl

/-- **Silence after the last stop.** In every run from the start, nothing of the governor is
left that can run while it is not started, so that it makes no request then, exactly if at
each last stop no other timer is pending, no CPU is inside the idle hook, the work is not
pending and no thread is in it. -/
theorem silent_iff (policies : Fin n → InteractivePolicy n)
    (actions : List (InteractiveAction n)) :
    Along step (fun before _ after => after.Rests ∧
        (before.started = ∅ → after.requests = before.requests)) (init policies) actions ↔
      Guarded step StopsSilent (init policies) actions := by
  have initially : (init policies).Steady ∧ (init policies).Rests :=
    ⟨steady_init policies, fun _ => ((steady_init policies).pointer rfl).1⟩
  refine along_iff (fun g => g.Steady ∧ g.Rests)
    (fun before action after ⟨steady, rests⟩ stops taken => ?_)
    (fun before action after ⟨steady, rests⟩ taken law => ?_) initially actions
  · have still := (rests.step steady taken).mpr stops
    exact ⟨⟨steady.step taken, still⟩, still, rests.requests steady taken⟩
  · exact (rests.step steady taken).mp law.1

/-- A CPU leaves the idle hook after the last stop, and its timer is armed again. -/
def stoppedAsleep : List (InteractiveAction 2) :=
  [⟨.start Governor.firstCpu none, busyAt 1 0 0⟩,
    ⟨.idleEnter Governor.firstCpu, busyAt 1 0 0⟩,
    ⟨.stop Governor.firstCpu, busyAt 1 1 10000⟩,
    ⟨.idleExit Governor.firstCpu, busyAt 1 1 20000⟩,
    ⟨.timer Governor.firstCpu, busyAt 2 3 40000⟩]

example : (exec step (init pairPolicy) stoppedAsleep).isSome = true ∧
    ¬ Guarded step StopsSilent (init pairPolicy) stoppedAsleep := by decide +kernel

/-! ## Null pointers -/

/-- **No null pointer.** After every run from the start, whatever starts have failed, the
count is the number of started policies or one more, the hook is installed only while the
governor is started, and every event that can happen is handled without a null pointer. -/
theorem handled_of_reached {policies : Fin n → InteractivePolicy n}
    {actions : List (InteractiveAction n)}
    (reached : exec step (init policies) actions = some g) :
    ((g.started.card : Int) ≤ g.activeCount ∧ g.activeCount ≤ g.started.card + 1) ∧
      (g.pmIdle = some .cpufreqIdle → g.started.Nonempty) ∧
      ∀ action, g.Enabled action.env action.event → (g.step action).isSome = true := by
  have steady := steady_of_reached reached
  refine ⟨⟨steady.atLeast, steady.atMost⟩, fun installed => (steady.hooked installed).2,
    fun action enabled => ?_⟩
  rw [InteractiveGovernor.step, if_pos enabled]
  exact steady.handle_isSome enabled

/-- After the last stop the work is pending, and a thread takes it. -/
theorem stoppedAsleep_handled :
    ∃ g : InteractiveGovernor 2, exec step (init pairPolicy) stoppedAsleep = some g ∧
      g.started = ∅ ∧
        (g.step ⟨.work (.up, Governor.firstCpu), busyAt 2 3 40000⟩).isSome = true := by
  have reached : exec step (init pairPolicy) stoppedAsleep = some _ :=
    (Option.some_get (by decide +kernel)).symm
  exact ⟨_, reached, by decide +kernel, (handled_of_reached reached).2.2 _ (by decide +kernel)⟩

end InteractiveGovernor

end Jordan.Cpufreq
