import Jordan.Cpufreq.CpuLoad
import Jordan.Cpufreq.Interactive
import Jordan.Library.Handoff

/-! # Requests to the work function of the interactive governor

A timer that wants another frequency sets the bit of its CPU in `work_cpumask` and queues
the work. The work function clears the bit last, after the driver has set the frequency; a
timer that expires in between has its bit taken away. And when the work function is to go
up with a single task running, it returns from the middle of its loop: the CPUs it has not
come to keep their bits, but no work is pending for them
(`Jordan.Cpufreq.InteractiveGovernor.changes_kept_iff`).

All CPUs share the target frequency, and going up means that it is the maximum. A CPU that
has asked to go up does so only if nothing sets the target frequency to something else, or
changes the maximum, before a thread has called the driver for it
(`Jordan.Cpufreq.InteractiveGovernor.raises_kept_iff`).
-/

namespace Jordan.Cpufreq

open Execution Handoff

/-- The thread is about to call the driver to go up. -/
def InteractiveWork.callsUp {n : Nat} : InteractiveWork n → Bool
  | .calling _ .H _ => true
  | .resting | .looping _ | .lowering _ _ | .calling _ .L _ | .driven _ _ => false

/-- The CPUs that a thread has still to come to. -/
def InteractiveWork.todo {n : Nat} : InteractiveWork n → List (Fin n)
  | .resting => []
  | .looping todo => todo
  | .lowering _ todo => todo
  | .calling _ _ todo => todo
  | .driven _ todo => todo

/-- The CPU whose bit a thread clears next. -/
def InteractiveWork.clears {n : Nat} : InteractiveWork n → Option (Fin n)
  | .driven c _ => some c
  | .resting | .looping _ | .lowering _ _ | .calling _ _ _ => none

/-- The CPUs behind the one that a thread comes to next. -/
def InteractiveWork.behind {n : Nat} : InteractiveWork n → List (Fin n)
  | .looping (_ :: todo) => todo
  | .resting | .looping [] | .lowering _ _ | .calling _ _ _ | .driven _ _ => []

/-- The CPU for whose load a thread sets the target frequency next. -/
def InteractiveWork.lowers {n : Nat} : InteractiveWork n → Option (Fin n)
  | .lowering c _ => some c
  | .resting | .looping _ | .calling _ _ _ | .driven _ _ => none

/-- The events that are neither an expired timer nor a step of a thread. -/
def InteractiveEvent.Apart {n : Nat} : InteractiveEvent n → Prop
  | .timer _ | .work _ => False
  | .idleEnter _ | .idleExit _ | .start _ _ | .stop _ | .limits _ _ _ | .store _
  | .transition _ _ | .outside _ _ => True

instance : Fintype InteractiveQueue where
  elems := {.up, .down}
  complete queue := by cases queue <;> decide

namespace InteractiveGovernor

variable {n : Nat} {g after : InteractiveGovernor n} {env : Env n} {c : Fin n}
  {w : InteractiveThread n}

/-- The CPUs as members that ask, and the threads as workers. -/
def board (g : InteractiveGovernor n) : Board (Fin n) (InteractiveThread n) where
  asked := g.asked
  marked := g.workCpumask
  called := g.workQueued
  unread w := (g.thread w).todo.toFinset

/-- What timers and threads share, and where the threads are. -/
def shared (g : InteractiveGovernor n) :
    Finset (Fin n) × Finset (Fin n) × Option (InteractiveThread n) ×
      (InteractiveThread n → InteractiveWork n) :=
  (g.asked, g.workCpumask, g.workQueued, g.thread)

/-- States that share the threads and masks have the same board. -/
theorem board_of_shared (same : after.shared = g.shared) : after.board = g.board := by
  obtain ⟨asked, rest⟩ := Prod.mk.inj same
  obtain ⟨mask, rest⟩ := Prod.mk.inj rest
  obtain ⟨queued, thread⟩ := Prod.mk.inj rest
  simp only [board, asked, mask, queued, thread]

/-! ## What the handlers do to the board -/

/-- A thread that goes on with some work has these CPUs left to read. -/
theorem setThread_unread (g : InteractiveGovernor n) (w : InteractiveThread n)
    (work : InteractiveWork n) :
    (g.setThread w work).board.unread =
      Function.update g.board.unread w work.todo.toFinset := by
  funext v
  by_cases same : v = w
  · subst same
    simp only [board, setThread, Function.update_self]
  · simp only [board, setThread, Function.update_of_ne same]

/-- A thread goes on with the same copy. -/
theorem setThread_board (g : InteractiveGovernor n) {work : InteractiveWork n}
    (same : work.todo = (g.thread w).todo) : (g.setThread w work).board = g.board := by
  have unread : (g.setThread w work).board.unread = g.board.unread := by
    rw [setThread_unread, same]
    exact Function.update_eq_self w g.board.unread
  exact congrArg (Board.mk g.asked g.workCpumask g.workQueued) unread

/-- A thread that begins takes the marked CPUs as its own. -/
theorem workBegin_board (g : InteractiveGovernor n) (w : InteractiveThread n) :
    (g.workBegin w).board = g.board.answer w := by
  have copy : ((List.finRange n).filter (· ∈ g.workCpumask)).toFinset = g.workCpumask := by
    ext c
    simp only [List.mem_toFinset, List.mem_filter, List.mem_finRange, decide_eq_true_eq, true_and]
  have unread : (g.workBegin w).board.unread =
      Function.update g.board.unread w g.board.marked :=
    (setThread_unread ..).trans (congrArg _ copy)
  exact congrArg (Board.mk g.asked g.workCpumask none) unread

/-- With a single task running, a thread that is to go up turns back. -/
def TurnsBack (g : InteractiveGovernor n) (env : Env n) : Prop :=
  env.nrRunning = 1 ∧ ∃ p ∈ g.policy, g.targetFreq = (g.policies p).max

instance (g : InteractiveGovernor n) (env : Env n) : Decidable (g.TurnsBack env) :=
  inferInstanceAs (Decidable (_ ∧ ∃ p ∈ g.policy, _))

/-- Reading the load of one CPU takes that CPU off those the thread has not read. -/
theorem read_unread {todo : List (Fin n)} (current : g.thread w = .looping (c :: todo))
    (once : (c :: todo).Nodup) : todo.toFinset = (g.board.unread w).erase c := by
  have copy : g.board.unread w = insert c todo.toFinset := by
    simp only [board, current, InteractiveWork.todo, List.toFinset_cons]
  rw [copy, Finset.erase_insert]
  exact fun again => (List.nodup_cons.mp once).1 (List.mem_toFinset.mp again)

/-- A thread that comes to a CPU reads it; if it turns back it also clears its bit and
leaves the rest of its copy. -/
theorem workCompare_board {todo : List (Fin n)} (current : g.thread w = .looping (c :: todo))
    (once : (c :: todo).Nodup) (ran : g.workCompare env w c todo = some after) :
    after.board = if g.TurnsBack env then ((g.board.read w c).unmark c).leave w
      else g.board.read w c := by
  obtain ⟨p, pointed, rfl⟩ := Option.map_eq_some_iff.mp ran
  have reads (seen : InteractiveGovernor n) (work : InteractiveWork n)
      (same : seen.shared = (g.asked.erase c, g.workCpumask, g.workQueued, g.thread))
      (rest : work.todo = todo) : (seen.setThread w work).board = g.board.read w c := by
    obtain ⟨asked, same⟩ := Prod.mk.inj same
    obtain ⟨mask, same⟩ := Prod.mk.inj same
    obtain ⟨queued, thread⟩ := Prod.mk.inj same
    have unread : (seen.setThread w work).board.unread =
        Function.update g.board.unread w ((g.board.unread w).erase c) := by
      rw [setThread_unread, rest, read_unread current once]
      simp only [board, thread]
    have shared : (seen.setThread w work).board =
        ⟨seen.asked, seen.workCpumask, seen.workQueued, (seen.setThread w work).board.unread⟩ := rfl
    rw [shared, asked, mask, queued, unread]
    rfl
  by_cases highest : g.targetFreq = (g.policies p).max
  · by_cases single : env.nrRunning = 1
    · rw [if_pos highest, if_pos single, if_pos ⟨single, p, pointed, highest⟩]
      have unread := setThread_unread { g with
        asked := g.asked.erase c, raised := g.raised.erase c,
        workCpumask := g.workCpumask.erase c } w .resting
      have left : Function.update g.board.unread w (∅ : Finset (Fin n)) =
          (((g.board.read w c).unmark c).leave w).unread := by
        simp only [Board.leave, Board.unmark, Board.read, Function.update_idem]
      exact congrArg (Board.mk (g.asked.erase c) (g.workCpumask.erase c) g.workQueued)
        (unread.trans left)
    · rw [if_pos highest, if_neg single, if_neg fun turns => single turns.1]
      exact reads _ _ rfl rfl
  · rw [if_neg highest, if_neg ?_]
    · exact reads _ _ rfl rfl
    · rintro ⟨_, other, same, equal⟩
      obtain rfl := Option.some.inj (pointed.symm.trans same)
      exact highest equal

/-- Setting the target frequency for a CPU that goes down moves no mark. -/
theorem workLower_board {todo : List (Fin n)} (current : g.thread w = .lowering c todo)
    (ran : g.workLower env w c todo = some after) : after.board = g.board := by
  obtain ⟨p, _, rfl⟩ := Option.map_eq_some_iff.mp ran
  refine setThread_board { g with targetFreq := _ } ?_
  simp only [current, InteractiveWork.todo]

/-- The call of the driver moves no mark. -/
theorem workCall_board {relation : Relation} {todo : List (Fin n)}
    (current : g.thread w = .calling c relation todo)
    (ran : g.workCall env w c relation todo = some after) : after.board = g.board := by
  obtain ⟨p, _, rfl⟩ := Option.map_eq_some_iff.mp ran
  refine setThread_board { g.driverTarget env.toKernelEnv p g.targetFreq relation with
    freqChangeTimeInIdle := _, freqChangeTime := _ } ?_
  simp only [driverTarget, current, InteractiveWork.todo]

/-- Clearing the bit of a CPU takes off its mark. -/
theorem workClear_board {todo : List (Fin n)} (current : g.thread w = .driven c todo) :
    (g.workClear w c todo).board = g.board.unmark c := by
  refine setThread_board { g with workCpumask := g.workCpumask.erase c } ?_
  simp only [current, InteractiveWork.todo]

/-- A thread that ends has read everything before. -/
theorem workEnd_board (current : g.thread w = .looping []) :
    (g.setThread w .resting).board = g.board := by
  refine setThread_board g ?_
  simp only [current, InteractiveWork.todo]

/-- The timer of a CPU leaves the board, or asks for its CPU. -/
theorem timer_board (ran : g.cpufreqInteractiveTimer env c = some after) :
    after.thread = g.thread ∧
      (after.board = g.board ∨ ∃ queue, after.board = g.board.ask c (queue, c)) := by
  simp only [cpufreqInteractiveTimer] at ran
  split at ran
  · obtain rfl := Option.some.inj ran
    exact ⟨rfl, .inl rfl⟩
  · obtain ⟨p, _, rfl⟩ := Option.map_eq_some_iff.mp ran
    split
    · split
      · exact ⟨rfl, .inl rfl⟩
      · split
        · exact ⟨rfl, .inl rfl⟩
        · exact ⟨rfl, .inr ⟨.up, rfl⟩⟩
    · split
      · exact ⟨rfl, .inl rfl⟩
      · split
        · exact ⟨rfl, .inl rfl⟩
        · exact ⟨rfl, .inr ⟨.down, rfl⟩⟩

/-- `CPUFREQ_GOV_START` touches neither thread nor mask. -/
theorem governorStart_shared (g : InteractiveGovernor n) (env : Env n) (p : Fin n)
    (rc : Option Errno) : (g.governorStart env p rc).1.shared = g.shared := by
  simp only [governorStart]
  split
  · rfl
  · split
    · rfl
    · cases rc <;> rfl

/-- `CPUFREQ_GOV_STOP` touches neither thread nor mask. -/
theorem governorStop_shared (g : InteractiveGovernor n) (p : Fin n) :
    (g.governorStop p).shared = g.shared := by
  simp only [governorStop]
  split <;> rfl

/-- `CPUFREQ_GOV_LIMITS` touches neither thread nor mask. -/
theorem governorLimits_shared (g : InteractiveGovernor n) (env : KernelEnv) (p : Fin n) :
    (g.governorLimits env p).shared = g.shared := by
  simp only [governorLimits]
  split
  · rfl
  · split <;> rfl

/-- The end of an idle period touches neither thread nor mask. -/
theorem cpufreqIdleExit_shared (ran : g.cpufreqIdleExit env c = some after) :
    after.shared = g.shared := by
  obtain ⟨p, _, rfl⟩ := Option.map_eq_some_iff.mp ran
  by_cases outside : c ∉ (g.policies p).cpus
  · rw [if_pos outside]
    rfl
  · rw [if_neg outside]
    split <;> rfl

/-- Only timers and the work function touch what is shared. -/
theorem handle_shared {event : InteractiveEvent n} (ran : g.handle env event = some after)
    (apart : event.Apart) : after.shared = g.shared := by
  cases event with
  | timer c => exact apart.elim
  | work w => exact apart.elim
  | idleEnter c =>
      obtain ⟨old, _, rfl⟩ := Option.map_eq_some_iff.mp ran
      rfl
  | idleExit c => exact cpufreqIdleExit_shared ran
  | start p rc => exact Option.some.inj ran ▸ governorStart_shared g env p rc
  | stop p => exact Option.some.inj ran ▸ governorStop_shared g p
  | limits p min max => exact Option.some.inj ran ▸ governorLimits_shared ..
  | store minSampleTime | transition p cur | outside p policy => exact Option.some.inj ran ▸ rfl

/-! ## No request is lost -/

/-- A thread clears the bit of a CPU only if the CPU has not asked again, or another thread
has still to come to it. -/
def ClearsServed (g : InteractiveGovernor n) (w : InteractiveThread n) : Prop :=
  ∀ c ∈ (g.thread w).clears, c ∈ g.asked → g.board.Copied c

/-- A thread turns back only if each CPU it has not come to has not asked, or is marked with
the work pending, or another thread has still to come to it. -/
def LeavesServed (g : InteractiveGovernor n) (env : Env n) (w : InteractiveThread n) : Prop :=
  g.TurnsBack env → ∀ c ∈ (g.thread w).behind, c ∈ g.asked →
    (c ∈ g.workCpumask ∧ g.workQueued.isSome = true) ∨
      ∃ other, other ≠ w ∧ c ∈ g.board.unread other

/-- The step of a thread serves the CPUs it gives up. -/
def Serves (g : InteractiveGovernor n) (action : InteractiveAction n) : Prop :=
  match action.event with
  | .work w => g.ClearsServed w ∧ g.LeavesServed action.env w
  | .timer _ | .idleEnter _ | .idleExit _ | .start _ _ | .stop _ | .limits _ _ _ | .store _
  | .transition _ _ | .outside _ _ => True

instance (g : InteractiveGovernor n) : DecidablePred g.Serves := fun ⟨event, env⟩ =>
  have (c : Fin n) : Decidable (g.board.Copied c) := inferInstanceAs (Decidable (∃ _, _))
  match event with
  | .work w =>
      have : Decidable (g.ClearsServed w) :=
        inferInstanceAs (Decidable (∀ c ∈ (g.thread w).clears, _))
      have (c : Fin n) : Decidable (∃ other, other ≠ w ∧ c ∈ g.board.unread other) :=
        inferInstanceAs (Decidable (∃ _ : InteractiveThread n, _))
      have : Decidable (g.LeavesServed env w) :=
        inferInstanceAs (Decidable (_ → ∀ c ∈ (g.thread w).behind, _ → _ ∨ _))
      inferInstanceAs (Decidable (g.ClearsServed w ∧ g.LeavesServed env w))
  | .timer _ | .idleEnter _ | .idleExit _ | .start _ _ | .stop _ | .limits _ _ _ | .store _
  | .transition _ _ | .outside _ _ => .isTrue trivial

/-- No request is lost so far, and a thread goes once through its copy. -/
structure Handed (g : InteractiveGovernor n) : Prop where
  once (w : InteractiveThread n) : (g.thread w).todo.Nodup
  kept : g.board.Kept

/-- Before the first event no thread has anything left to do. -/
theorem handed_init (policies : Fin n → InteractivePolicy n) : (init policies).Handed where
  once _ := List.nodup_nil
  kept := Board.kept_of_asked_empty rfl

/-- Every thread goes once through its CPUs when one goes on with a list without repetition. -/
theorem once_setThread {work : InteractiveWork n} (once : ∀ v, (g.thread v).todo.Nodup)
    (goesOnce : work.todo.Nodup) (v : InteractiveThread n) :
    ((g.setThread w work).thread v).todo.Nodup := by
  by_cases same : v = w
  · subst same
    simpa only [setThread, Function.update_self] using goesOnce
  · simpa only [setThread, Function.update_of_ne same] using once v

/-- What a thread that turns back leaves is what the guard says. -/
theorem leave_kept_iff {todo : List (Fin n)} (kept : g.board.Kept)
    (current : g.thread w = .looping (c :: todo)) (once : (c :: todo).Nodup) :
    (((g.board.read w c).unmark c).leave w).Kept ↔
      ∀ d ∈ todo, d ∈ g.asked → (d ∈ g.workCpumask ∧ g.workQueued.isSome = true) ∨
        ∃ other, other ≠ w ∧ d ∈ g.board.unread other := by
  have unmarked : ((g.board.read w c).unmark c).Kept := by
    refine (kept.read w c).unmark_iff.mpr fun asked => ?_
    exact absurd asked (Finset.notMem_erase c g.asked)
  have rest : ((g.board.read w c).unmark c).unread w = todo.toFinset := by
    rw [read_unread current once]
    simp only [Board.unmark, Board.read, Function.update_self]
  have others {other : InteractiveThread n} (different : other ≠ w) :
      ((g.board.read w c).unmark c).unread other = g.board.unread other := by
    simp only [Board.unmark, Board.read, Function.update_of_ne different]
  rw [unmarked.leave_iff, rest]
  refine forall_congr' fun d => ?_
  rw [List.mem_toFinset]
  refine imp_congr_right fun member => ?_
  have different : d ≠ c := by
    rintro rfl
    exact (List.nodup_cons.mp once).1 member
  have asked : d ∈ ((g.board.read w c).unmark c).asked ↔ d ∈ g.asked :=
    Finset.mem_erase.trans (and_iff_right different)
  have marked : d ∈ ((g.board.read w c).unmark c).marked ↔ d ∈ g.workCpumask :=
    Finset.mem_erase.trans (and_iff_right different)
  rw [asked, marked]
  refine imp_congr_right fun _ => or_congr_right (exists_congr fun other => ?_)
  refine and_congr_right fun away => ?_
  rw [others away]

/-- A step of a thread keeps the requests exactly if it serves the CPUs it gives up. -/
theorem Handed.workStep (handed : g.Handed) (ran : g.workStep env w = some after) :
    (∀ v, (after.thread v).todo.Nodup) ∧
      (after.board.Kept ↔ g.ClearsServed w ∧ g.LeavesServed env w) := by
  have goesOnce := handed.once w
  have served (work : InteractiveWork n) (clears : work.clears = none) (behind : work.behind = [])
      (kept : after.board.Kept) :
      after.board.Kept ↔ (∀ c ∈ work.clears, c ∈ g.asked → g.board.Copied c) ∧
        (g.TurnsBack env → ∀ c ∈ work.behind, c ∈ g.asked →
          (c ∈ g.workCpumask ∧ g.workQueued.isSome = true) ∨
            ∃ other, other ≠ w ∧ c ∈ g.board.unread other) := by
    refine iff_of_true kept ⟨fun c cleared => ?_, fun _ c left => ?_⟩
    · rw [clears] at cleared
      cases cleared
    · rw [behind] at left
      cases left
  unfold InteractiveGovernor.workStep at ran
  unfold ClearsServed LeavesServed
  cases current : g.thread w with
  | resting =>
      rw [current] at ran
      obtain rfl := Option.some.inj ran
      refine ⟨once_setThread handed.once ((List.nodup_finRange n).filter _), ?_⟩
      refine served _ rfl rfl ?_
      rw [workBegin_board]
      refine handed.kept.answer ?_
      simp only [board, current, InteractiveWork.todo, List.toFinset_nil]
  | looping todo =>
      rw [current] at ran goesOnce
      cases todo with
      | nil =>
          obtain rfl := Option.some.inj ran
          refine ⟨once_setThread handed.once List.nodup_nil, ?_⟩
          refine served _ rfl rfl ?_
          rw [workEnd_board current]
          exact handed.kept
      | cons c todo =>
          have once : ∀ v, (after.thread v).todo.Nodup := by
            obtain ⟨p, _, rfl⟩ := Option.map_eq_some_iff.mp ran
            have shorter := (List.nodup_cons.mp goesOnce).2
            split
            · split
              · exact once_setThread handed.once List.nodup_nil
              · exact once_setThread handed.once shorter
            · exact once_setThread handed.once shorter
          refine ⟨once, ?_⟩
          rw [workCompare_board current goesOnce ran]
          by_cases turns : g.TurnsBack env
          · rw [if_pos turns, leave_kept_iff handed.kept current goesOnce]
            refine ⟨fun rest => ⟨fun d cleared => ?_, fun _ => rest⟩, fun guard => guard.2 turns⟩
            cases cleared
          · rw [if_neg turns]
            refine iff_of_true (handed.kept.read w c)
              ⟨fun d cleared => ?_, fun turned => absurd turned turns⟩
            cases cleared
  | lowering c todo =>
      rw [current] at ran goesOnce
      have same := workLower_board current ran
      obtain ⟨p, _, rfl⟩ := Option.map_eq_some_iff.mp ran
      refine ⟨once_setThread handed.once goesOnce, ?_⟩
      refine served _ rfl rfl ?_
      rw [same]
      exact handed.kept
  | calling c relation todo =>
      rw [current] at ran goesOnce
      have same := workCall_board current ran
      obtain ⟨p, _, rfl⟩ := Option.map_eq_some_iff.mp ran
      refine ⟨once_setThread handed.once goesOnce, ?_⟩
      refine served _ rfl rfl ?_
      rw [same]
      exact handed.kept
  | driven c todo =>
      rw [current] at ran goesOnce
      obtain rfl := Option.some.inj ran
      refine ⟨once_setThread handed.once goesOnce, ?_⟩
      rw [workClear_board current, handed.kept.unmark_iff]
      refine ⟨fun read => ⟨fun d cleared => ?_, fun _ d left => ?_⟩, fun guard => guard.1 c rfl⟩
      · exact Option.some.inj cleared ▸ read
      · cases left

/-- A step keeps the requests exactly if it meets the guard. -/
theorem Handed.step {action : InteractiveAction n} (handed : g.Handed)
    (taken : g.step action = some after) :
    (∀ v, (after.thread v).todo.Nodup) ∧ (after.board.Kept ↔ g.Serves action) := by
  obtain ⟨event, env⟩ := action
  obtain ⟨_, ran⟩ := step_eq_some.mp taken
  have routine (apart : event.Apart) :
      (∀ v, (after.thread v).todo.Nodup) ∧ after.board.Kept := by
    have same := handle_shared ran apart
    have thread : after.thread = g.thread := congrArg (fun shared => shared.2.2.2) same
    exact ⟨thread ▸ handed.once, board_of_shared same ▸ handed.kept⟩
  cases event with
  | work w => exact handed.workStep ran
  | timer c =>
      obtain ⟨thread, same | ⟨queue, asks⟩⟩ := timer_board ran
      · exact ⟨thread ▸ handed.once, iff_of_true (same ▸ handed.kept) trivial⟩
      · exact ⟨thread ▸ handed.once, iff_of_true (asks ▸ handed.kept.ask c (queue, c)) trivial⟩
  | idleEnter _ | idleExit _ | start _ _ | stop _ | limits _ _ _ | store _ | transition _ _
  | outside _ _ =>
      obtain ⟨once, kept⟩ := routine trivial
      exact ⟨once, iff_of_true kept trivial⟩

/-- **Requests that are lost.** In every run from the start, a CPU whose timer has asked for
a change has its bit set with the work pending, or is in the copy of a thread that has still
to come to it, exactly if no thread clears the bit of a CPU that has asked again, unless
another thread has still to come to it, and none turns back with an unserved CPU left. -/
theorem changes_kept_iff (policies : Fin n → InteractivePolicy n)
    (actions : List (InteractiveAction n)) :
    Along step (fun _ _ after => after.board.Kept) (init policies) actions ↔
      Guarded step Serves (init policies) actions := by
  refine along_iff Handed (fun before action after handed guard taken => ?_)
    (fun before action after handed taken law => ?_) (handed_init policies) actions
  · obtain ⟨once, kept_iff⟩ := handed.step taken
    exact ⟨⟨once, kept_iff.mpr guard⟩, kept_iff.mpr guard⟩
  · exact (handed.step taken).2.mp law

/-- Two CPUs with one policy. -/
def pairPolicy (_ : Fin 2) : InteractivePolicy 2 := ⟨⟨300000, 1000000, 300000⟩, Finset.univ⟩

/-- A number of tasks is running, and no CPU has been idle since the boot. -/
def busyAt (nrRunning : U32) (jiffies : Nat) (wall : U64) : Env 2 where
  jiffies := jiffies
  nrRunning := nrRunning
  drive := Request.target
  online _ := true
  reading _ := readingAt 0 wall

/-- Both CPUs ask to go up; a single task is left when a thread comes to the first one. -/
def turnsBack : List (InteractiveAction 2) :=
  [⟨.start Governor.firstCpu none, busyAt 2 0 0⟩,
    ⟨.idleEnter Governor.firstCpu, busyAt 2 0 0⟩,
    ⟨.idleExit Governor.firstCpu, busyAt 2 0 10000⟩,
    ⟨.idleEnter Governor.secondCpu, busyAt 2 0 10000⟩,
    ⟨.idleExit Governor.secondCpu, busyAt 2 0 10000⟩,
    ⟨.timer Governor.firstCpu, busyAt 2 2 30000⟩,
    ⟨.timer Governor.secondCpu, busyAt 2 2 30000⟩,
    ⟨.work (.up, Governor.firstCpu), busyAt 2 2 30000⟩,
    ⟨.work (.up, Governor.firstCpu), busyAt 1 2 30000⟩]

example : (exec step (init pairPolicy) turnsBack).isSome = true ∧
    ¬ Guarded step Serves (init pairPolicy) turnsBack := by decide +kernel

/-! ## Going up -/

/-- The target frequency is the maximum. -/
def Highest (g : InteractiveGovernor n) : Prop :=
  ∃ p ∈ g.policy, g.targetFreq = (g.policies p).max

instance (g : InteractiveGovernor n) : Decidable g.Highest :=
  inferInstanceAs (Decidable (∃ p ∈ g.policy, _))

/-- A thread is about to call the driver to go up. -/
def CallsUp (g : InteractiveGovernor n) : Prop := ∃ w, (g.thread w).callsUp = true

instance (g : InteractiveGovernor n) : Decidable g.CallsUp :=
  inferInstanceAs (Decidable (∃ w, (g.thread w).callsUp = true))

/-- A CPU that has asked to go up waits, or is being taken up. -/
def Climbs (g : InteractiveGovernor n) : Prop := g.raised.Nonempty ∨ g.CallsUp

/-- While a CPU that has asked to go up waits or is being taken up, the target frequency is
the maximum. -/
def Aims (g : InteractiveGovernor n) : Prop := g.Climbs → g.Highest

/-- What the aim depends on. -/
def aim (g : InteractiveGovernor n) :
    Finset (Fin n) × (InteractiveThread n → Bool) × U32 × Option (Fin n) × (Fin n → U32) :=
  (g.raised, fun w => (g.thread w).callsUp, g.targetFreq, g.policy,
    fun p => (g.policies p).max)

/-- Governors with the same aim data are both aimed or both not. -/
theorem aims_congr (same : after.aim = g.aim) : after.Aims ↔ g.Aims := by
  obtain ⟨raised, rest⟩ := Prod.mk.inj same
  obtain ⟨calls, rest⟩ := Prod.mk.inj rest
  obtain ⟨target, rest⟩ := Prod.mk.inj rest
  obtain ⟨pointer, max⟩ := Prod.mk.inj rest
  have calling (w : InteractiveThread n) :
      (after.thread w).callsUp = (g.thread w).callsUp := congrFun calls w
  have maxima (p : Fin n) : (after.policies p).max = (g.policies p).max := congrFun max p
  unfold Aims Climbs CallsUp Highest
  rw [raised, target, pointer]
  simp only [calling, maxima]

/-- A thread that is not about to go up, and was not, changes nothing of the aim. -/
theorem setThread_aim {work : InteractiveWork n} (same : work.callsUp = (g.thread w).callsUp) :
    (g.setThread w work).aim = g.aim := by
  have calls : (fun v => ((g.setThread w work).thread v).callsUp) =
      fun v => (g.thread v).callsUp := by
    funext v
    by_cases here : v = w
    · subst here
      simpa only [setThread, Function.update_self] using same
    · simp only [setThread, Function.update_of_ne here]
  exact congrArg (fun calls => (g.raised, calls, g.targetFreq, g.policy,
    fun p => (g.policies p).max)) calls

/-- A thread that is not about to go up takes no CPU up. -/
theorem CallsUp.of_setThread {work : InteractiveWork n} (quiet : work.callsUp = false)
    (calls : (g.setThread w work).CallsUp) : g.CallsUp := by
  obtain ⟨v, up⟩ := calls
  by_cases here : v = w
  · subst here
    simp only [setThread, Function.update_self] at up
    exact Bool.noConfusion (quiet.symm.trans up)
  · simp only [setThread, Function.update_of_ne here] at up
    exact ⟨v, up⟩

/-- The sample of a CPU was idle in part, and the frequency was not changed just before. -/
def MayLower (g : InteractiveGovernor n) (env : Env n) (c : Fin n) : Prop :=
  let reading := (env.reading c).sample
  reading.wall ≠ (g.cpu c).idleExitTime ∧ reading.idle - (g.cpu c).timeInIdle ≠ 0 ∧
    ¬ reading.wall - g.freqChangeTime < g.minSampleTime.setWidth 64

instance (g : InteractiveGovernor n) (env : Env n) (c : Fin n) : Decidable (g.MayLower env c) :=
  inferInstanceAs (Decidable (_ ∧ _ ∧ _))

/-- A thread sets the target frequency below the maximum only when no CPU that has asked to
go up waits or is being taken up. -/
def LowersLast (g : InteractiveGovernor n) (env : Env n) (w : InteractiveThread n) : Prop :=
  ∀ c ∈ (g.thread w).lowers, g.Climbs → ∀ p ∈ g.policy,
    g.cpufreqInteractiveCalcFreq (g.policies p).toCpufreqPolicy (env.reading c).sample =
      (g.policies p).max

/-- A step leaves the target frequency at the maximum while a CPU that has asked to go up
waits or is being taken up. -/
def KeepsAim (g : InteractiveGovernor n) (action : InteractiveAction n) : Prop :=
  match action.event with
  | .timer c =>
      g.MayLower action.env c → (g.raised.erase c).Nonempty ∨ g.CallsUp →
        ∀ p ∈ g.policy, (g.policies p).cur = (g.policies p).min ∨
          (g.policies p).min = (g.policies p).max
  | .work w => g.LowersLast action.env w
  | .start p rc =>
      g.Climbs → action.env.online p = true → g.activeCount + 1 ≤ 1 → rc = none →
        g.targetFreq = (g.policies p).max
  | .limits p _ max => g.Climbs → p ∈ g.policy → g.targetFreq = max
  | .outside p policy => g.Climbs → p ∈ g.policy → g.targetFreq = policy.max
  | .idleEnter _ | .idleExit _ | .stop _ | .store _ | .transition _ _ => True

/-- The aim of a raise depends on a policy only by its maximum. -/
theorem setPolicy_aim {p : Fin n} {policy : InteractivePolicy n}
    (same : policy.max = (g.policies p).max) : (g.setPolicy p policy).aim = g.aim := by
  have max : (fun q => ((g.setPolicy p policy).policies q).max) = fun q => (g.policies q).max := by
    funext q
    by_cases here : q = p
    · subst here
      simpa only [setPolicy, Function.update_self] using same
    · simp only [setPolicy, Function.update_of_ne here]
  exact congrArg (fun max => (g.raised, fun w => (g.thread w).callsUp, g.targetFreq, g.policy,
    max)) max

/-- A call of the driver does not move the aim. -/
theorem driverTarget_aim (g : InteractiveGovernor n) (env : KernelEnv) (p : Fin n)
    (target : U32) (relation : Relation) :
    (g.driverTarget env p target relation).aim = g.aim := by
  have driven (cur : U32) : (g.setPolicy p { g.policies p with cur := cur }).aim = g.aim :=
    setPolicy_aim rfl
  exact driven _

/-- `CPUFREQ_GOV_LIMITS` does not move the aim. -/
theorem governorLimits_aim (g : InteractiveGovernor n) (env : KernelEnv) (p : Fin n) :
    (g.governorLimits env p).aim = g.aim := by
  simp only [governorLimits]
  split
  · exact driverTarget_aim ..
  · split
    · exact driverTarget_aim ..
    · rfl

/-- The maximum of a policy changes. -/
theorem setPolicy_aims_iff (aims : g.Aims) (p : Fin n) (policy : InteractivePolicy n) :
    (g.setPolicy p policy).Aims ↔
      (g.Climbs → p ∈ g.policy → g.targetFreq = policy.max) := by
  refine forall_congr' fun waits => ?_
  obtain ⟨q, pointed, equal⟩ := aims waits
  have here (max : U32) (same : ((g.setPolicy p policy).policies q).max = max) :
      (g.setPolicy p policy).Highest ↔ g.targetFreq = max := by
    constructor
    · rintro ⟨r, other, highest⟩
      obtain rfl := Option.some.inj (pointed.symm.trans other)
      exact highest.trans same
    · intro highest
      exact ⟨q, pointed, highest.trans same.symm⟩
  by_cases same : q = p
  · subst same
    rw [here policy.max (by simp only [setPolicy, Function.update_self])]
    exact ⟨fun highest _ => highest, fun keeps => keeps pointed⟩
  · rw [here (g.policies q).max (by simp only [setPolicy, Function.update_of_ne same])]
    refine iff_of_true equal fun other => ?_
    exact absurd (Option.some.inj (pointed.symm.trans other)) same

/-- After a timer the raises still aim at the maximum exactly if the timer kept the aim. -/
theorem Aims.timer_iff (aims : g.Aims) (ran : g.cpufreqInteractiveTimer env c = some after) :
    after.Aims ↔ g.KeepsAim ⟨.timer c, env⟩ := by
  have unasked (quiet : ¬ g.MayLower env c) (still : after.Aims) :
      after.Aims ↔ g.KeepsAim ⟨.timer c, env⟩ :=
    iff_of_true still fun asks => absurd asks quiet
  simp only [cpufreqInteractiveTimer] at ran
  by_cases early : (env.reading c).sample.wall = (g.cpu c).idleExitTime
  · rw [if_pos early] at ran
    obtain rfl := Option.some.inj ran
    exact unasked (fun asks => asks.1 early) ((aims_congr rfl).mpr aims)
  · rw [if_neg early] at ran
    obtain ⟨p, pointed, rfl⟩ := Option.map_eq_some_iff.mp ran
    by_cases busy : (env.reading c).sample.idle - (g.cpu c).timeInIdle = 0
    · refine unasked (fun asks => asks.2.1 busy) ?_
      rw [if_pos busy]
      split
      · exact (aims_congr rfl).mpr aims
      · split
        · exact (aims_congr rfl).mpr aims
        · exact fun _ => ⟨p, pointed, rfl⟩
    · rw [if_neg busy]
      by_cases lowest : (g.policies p).cur = (g.policies p).min
      · rw [if_pos lowest]
        refine iff_of_true ((aims_congr rfl).mpr aims) fun _ _ q other => .inl ?_
        obtain rfl := Option.some.inj (pointed.symm.trans other)
        exact lowest
      · rw [if_neg lowest]
        by_cases recent : (env.reading c).sample.wall - g.freqChangeTime <
            g.minSampleTime.setWidth 64
        · rw [if_pos recent]
          exact iff_of_true ((aims_congr rfl).mpr aims) fun asks => absurd recent asks.2.2
        · rw [if_neg recent]
          constructor
          · intro still _ waits q other
            obtain rfl := Option.some.inj (pointed.symm.trans other)
            obtain ⟨r, same, highest⟩ := still waits
            obtain rfl := Option.some.inj (pointed.symm.trans same)
            exact .inr highest
          · intro keeps waits
            refine ⟨p, pointed, ?_⟩
            exact (keeps ⟨early, busy, recent⟩ waits p pointed).resolve_left lowest

/-- The comparison with the maximum sends a thread up only when the target frequency is it. -/
theorem Aims.workCompare {todo : List (Fin n)} (aims : g.Aims)
    (ran : g.workCompare env w c todo = some after) : after.Aims := by
  obtain ⟨p, pointed, rfl⟩ := Option.map_eq_some_iff.mp ran
  by_cases highest : g.targetFreq = (g.policies p).max
  · rw [if_pos highest]
    split
    · exact fun _ => ⟨p, pointed, highest⟩
    · exact fun _ => ⟨p, pointed, highest⟩
  · rw [if_neg highest]
    intro climbs
    refine aims (climbs.imp (fun waits => ?_) fun calls => ?_)
    · exact Finset.Nonempty.mono (Finset.erase_subset c g.raised) waits
    · have quiet : (InteractiveWork.lowering c todo).callsUp = false := rfl
      have seen := CallsUp.of_setThread quiet calls
      exact seen

/-- After a thread has set the target frequency the raises still aim at the maximum exactly if
what it calculates is the maximum, or nothing is to go up. -/
theorem workLower_aims_iff {todo : List (Fin n)} (current : g.thread w = .lowering c todo)
    (ran : g.workLower env w c todo = some after) : after.Aims ↔ g.LowersLast env w := by
  unfold LowersLast
  rw [current]
  obtain ⟨p, pointed, rfl⟩ := Option.map_eq_some_iff.mp ran
  have climbs_iff (target : U32) :
      ({ g with targetFreq := target }.setThread w (.calling c .L todo)).Climbs ↔ g.Climbs := by
    have quiet : (InteractiveWork.calling c .L todo).callsUp = (g.thread w).callsUp :=
      (congrArg InteractiveWork.callsUp current).symm
    have calls := congrArg (fun aim => aim.2.1) (setThread_aim quiet)
    refine or_congr_right (exists_congr fun v => ?_)
    exact Eq.congr_left (congrFun calls v)
  constructor
  · intro still d lowered climbs q other
    obtain rfl := Option.some.inj lowered
    obtain rfl := Option.some.inj (pointed.symm.trans other)
    obtain ⟨r, same, highest⟩ := still ((climbs_iff _).mpr climbs)
    obtain rfl := Option.some.inj (pointed.symm.trans same)
    exact highest
  · intro keeps climbs
    exact ⟨p, pointed, keeps c rfl ((climbs_iff _).mp climbs) p pointed⟩

/-- After a step of a thread the raises still aim at the maximum exactly if the thread lowered
last. -/
theorem Aims.workStep_iff (aims : g.Aims) (ran : g.workStep env w = some after) :
    after.Aims ↔ g.LowersLast env w := by
  have routine (lowers : (g.thread w).lowers = none) (still : after.Aims) :
      after.Aims ↔ g.LowersLast env w := by
    refine iff_of_true still fun c lowered => ?_
    rw [lowers] at lowered
    cases lowered
  unfold InteractiveGovernor.workStep at ran
  cases current : g.thread w with
  | resting =>
      rw [current] at ran routine
      obtain rfl := Option.some.inj ran
      have begun : (g.workBegin w).aim = g.aim :=
        setThread_aim (congrArg InteractiveWork.callsUp current).symm
      exact routine rfl ((aims_congr begun).mpr aims)
  | looping todo =>
      rw [current] at ran routine
      cases todo with
      | nil =>
          obtain rfl := Option.some.inj ran
          have ended : (g.setThread w .resting).aim = g.aim :=
            setThread_aim (congrArg InteractiveWork.callsUp current).symm
          exact routine rfl ((aims_congr ended).mpr aims)
      | cons c todo => exact routine rfl (aims.workCompare ran)
  | lowering c todo =>
      rw [current] at ran
      exact workLower_aims_iff current ran
  | calling c relation todo =>
      rw [current] at ran routine
      obtain ⟨p, _, rfl⟩ := Option.map_eq_some_iff.mp ran
      have called := (aims_congr (driverTarget_aim g env.toKernelEnv p g.targetFreq
        relation)).mpr aims
      exact routine rfl fun climbs => called (climbs.imp_right (CallsUp.of_setThread rfl))
  | driven c todo =>
      rw [current] at ran routine
      obtain rfl := Option.some.inj ran
      have cleared : (g.workClear w c todo).aim = g.aim :=
        setThread_aim (congrArg InteractiveWork.callsUp current).symm
      exact routine rfl ((aims_congr cleared).mpr aims)

/-- After a start the raises still aim at the maximum exactly if the start kept the aim. -/
theorem Aims.start_iff (aims : g.Aims) (p : Fin n) (rc : Option Errno) :
    (g.governorStart env p rc).1.Aims ↔ g.KeepsAim ⟨.start p rc, env⟩ := by
  unfold KeepsAim
  simp only [governorStart]
  by_cases offline : env.online p = false
  · rw [if_pos offline]
    exact iff_of_true aims fun _ online => Bool.noConfusion (offline.symm.trans online)
  · rw [if_neg offline]
    by_cases again : g.activeCount + 1 > 1
    · rw [if_pos again]
      exact iff_of_true ((aims_congr rfl).mpr aims) fun _ _ first => absurd first (not_le.mpr again)
    · rw [if_neg again]
      cases rc with
      | some errno =>
          refine iff_of_true ((aims_congr rfl).mpr aims) fun _ _ _ failed => ?_
          cases failed
      | none =>
          constructor
          · intro still waits _ _ _
            obtain ⟨q, pointed, highest⟩ := still waits
            obtain rfl := Option.some.inj pointed
            exact highest
          · intro keeps waits
            exact ⟨p, rfl, keeps waits (Bool.eq_true_of_not_eq_false offline) (not_lt.mp again) rfl⟩

/-- After any step the raises still aim at the maximum exactly if the step kept the aim. -/
theorem Aims.step {action : InteractiveAction n} (aims : g.Aims)
    (taken : g.step action = some after) : after.Aims ↔ g.KeepsAim action := by
  obtain ⟨event, env⟩ := action
  obtain ⟨_, ran⟩ := step_eq_some.mp taken
  cases event with
  | timer c => exact aims.timer_iff ran
  | work w => exact aims.workStep_iff ran
  | start p rc => exact Option.some.inj ran ▸ aims.start_iff p rc
  | limits p min max =>
      obtain rfl := Option.some.inj ran
      exact (aims_congr (governorLimits_aim ..)).trans (setPolicy_aims_iff aims p _)
  | outside p policy => exact Option.some.inj ran ▸ setPolicy_aims_iff aims p policy
  | idleEnter c =>
      obtain ⟨old, _, rfl⟩ := Option.map_eq_some_iff.mp ran
      exact iff_of_true ((aims_congr rfl).mpr aims) trivial
  | idleExit c =>
      obtain ⟨p, _, rfl⟩ := Option.map_eq_some_iff.mp ran
      refine iff_of_true ((aims_congr ?_).mpr aims) trivial
      by_cases outside : c ∉ (g.policies p).cpus
      · rw [if_pos outside]
        rfl
      · rw [if_neg outside]
        split <;> rfl
  | stop p =>
      obtain rfl := Option.some.inj ran
      refine iff_of_true ((aims_congr ?_).mpr aims) trivial
      simp only [governorStop]
      split <;> rfl
  | store minSampleTime =>
      exact iff_of_true (Option.some.inj ran ▸ (aims_congr rfl).mpr aims) trivial
  | transition p cur =>
      have same : (g.setPolicy p { g.policies p with cur := cur }).aim = g.aim := setPolicy_aim rfl
      exact iff_of_true (Option.some.inj ran ▸ (aims_congr same).mpr aims) trivial

/-- What the threads do for the CPUs that have asked to go up. -/
structure GoesUp (before : InteractiveGovernor n) (action : InteractiveAction n)
    (after : InteractiveGovernor n) : Prop where
  /-- A thread that comes to such a CPU goes on to call the driver to go up, or turns back with
  a single task running. -/
  comes : ∀ w c todo, action.event = .work w → before.thread w = .looping (c :: todo) →
    c ∈ before.raised → action.env.nrRunning = 1 ∨ after.thread w = .calling c .H todo
  /-- A thread that calls the driver to go up requests the maximum. -/
  calls : ∀ w c todo, action.event = .work w → before.thread w = .calling c .H todo →
    ∃ p ∈ before.policy, after.requests = before.requests ++
      [(p, ⟨(before.policies p).max, .H, (before.policies p).toCpufreqPolicy⟩)]

/-- In an aimed state the threads do it. -/
theorem Aims.goesUp {action : InteractiveAction n} (aims : g.Aims)
    (taken : g.step action = some after) : GoesUp g action after := by
  obtain ⟨_, ran⟩ := step_eq_some.mp taken
  constructor
  · intro w c todo works current raised
    have compares : g.workCompare action.env w c todo = some after := by
      rw [works] at ran
      simpa only [handle, InteractiveGovernor.workStep, current] using ran
    obtain ⟨p, pointed, rfl⟩ := Option.map_eq_some_iff.mp compares
    obtain ⟨q, same, highest⟩ := aims (.inl ⟨c, raised⟩)
    obtain rfl := Option.some.inj (pointed.symm.trans same)
    refine or_iff_not_imp_left.mpr fun several => ?_
    rw [if_pos highest, if_neg several]
    simp only [setThread, Function.update_self]
  · intro w c todo works current
    have calls : g.workCall action.env w c .H todo = some after := by
      rw [works] at ran
      simpa only [handle, InteractiveGovernor.workStep, current] using ran
    obtain ⟨p, pointed, rfl⟩ := Option.map_eq_some_iff.mp calls
    have up : (g.thread w).callsUp = true := congrArg InteractiveWork.callsUp current
    obtain ⟨q, same, highest⟩ := aims (.inr ⟨w, up⟩)
    obtain rfl := Option.some.inj (pointed.symm.trans same)
    refine ⟨p, pointed, ?_⟩
    rw [← highest]
    rfl

/-- At first no CPU asks, and no thread runs. -/
theorem aims_init (policies : Fin n → InteractivePolicy n) : (init policies).Aims := by
  rintro (waits | ⟨w, up⟩)
  · exact absurd waits Finset.not_nonempty_empty
  · exact absurd up Bool.false_ne_true

/-- **Going up.** In every run from the start, the target frequency is the maximum while a
CPU that has asked to go up waits or is being taken up, and a thread that comes to such a CPU
goes on to call the driver, for the maximum, exactly if no step sets the target frequency to
something else, or changes the maximum, meanwhile. -/
theorem raises_kept_iff (policies : Fin n → InteractivePolicy n)
    (actions : List (InteractiveAction n)) :
    Along step (fun before action after => after.Aims ∧ GoesUp before action after)
        (init policies) actions ↔
      Guarded step KeepsAim (init policies) actions := by
  refine along_iff Aims (fun before action after aims keeps taken => ?_)
    (fun before action after aims taken law => ?_) (aims_init policies) actions
  · have still := (aims.step taken).mpr keeps
    exact ⟨still, still, aims.goesUp taken⟩
  · exact (aims.step taken).mp law.1

end InteractiveGovernor

end Jordan.Cpufreq
