import Jordan.Cpufreq.SmartassGovernor
import Jordan.Library.Handoff

/-! # Ramps of the smartass governor that are lost

A timer that wants its CPU ramped sets the bit of the CPU in `work_cpumask` and queues the
work. The work function clears the bit last: after it has taken the load of the CPU, and
after the driver, which may sleep, has set the frequency. A timer that expires in between
sets a bit that is already set; the work is queued again, but when it runs the bit is gone.
A ramp is lost in exactly the runs in which a thread clears the bit of a CPU that has asked
again, while no other thread has still to take its load
(`Jordan.Cpufreq.SmartassGovernor.ramps_kept_iff`).
-/

namespace Jordan.Cpufreq

open Execution Handoff

/-- The CPUs whose load a thread has still to take. -/
def SmartassWork.todo {n : Nat} : SmartassWork n → List (Fin n)
  | .resting => []
  | .looping todo => todo
  | .loaded _ _ _ todo => todo
  | .driven _ todo => todo

/-- The CPU whose bit a thread clears next. -/
def SmartassWork.clears {n : Nat} : SmartassWork n → Option (Fin n)
  | .driven c _ => some c
  | .resting | .looping _ | .loaded _ _ _ _ => none

/-- The thread that takes a step. -/
def SmartassGovEvent.worker {n : Nat} : SmartassGovEvent n → Option (SmartassThread n)
  | .work w => some w
  | .timer _ | .idleEnter _ | .idleExit _ | .start _ _ _ | .limits _ _ _ | .stopDelTimer _
  | .stopDisable _ | .stopFinish _ | .earlySuspend _ | .lateResume _ | .store _ _
  | .transition _ _ | .outside _ _ => none

instance : Fintype SmartassQueue where
  elems := {.up, .down}
  complete queue := by cases queue <;> decide

namespace SmartassGovernor

variable {n : Nat} {g after : SmartassGovernor n} {env : Env n} {c : Fin n}
  {w : SmartassThread n}

/-- The CPUs as members that ask, and the threads as workers. -/
def board (g : SmartassGovernor n) : Board (Fin n) (SmartassThread n) where
  asked := g.asked
  marked := g.workCpumask
  called := g.workQueued
  unread w := (g.thread w).todo.toFinset

/-- What timers and threads share, and where the threads are. -/
def shared (g : SmartassGovernor n) :
    Finset (Fin n) × Finset (Fin n) × Option (SmartassThread n) ×
      (SmartassThread n → SmartassWork n) :=
  (g.asked, g.workCpumask, g.workQueued, g.thread)

/-- States that share the threads and masks have the same board. -/
theorem board_of_shared (same : after.shared = g.shared) : after.board = g.board := by
  obtain ⟨asked, rest⟩ := Prod.mk.inj same
  obtain ⟨mask, rest⟩ := Prod.mk.inj rest
  obtain ⟨queued, thread⟩ := Prod.mk.inj rest
  simp only [board, asked, mask, queued, thread]

/-! ## The handlers that share nothing -/

/-- `CPUFREQ_GOV_LIMITS` touches neither thread nor mask. -/
theorem governorLimits_shared (g : SmartassGovernor n) (env : KernelEnv) (c : Fin n)
    (policy : CpufreqPolicy) : (g.governorLimits env c policy).shared = g.shared := by
  simp only [governorLimits]
  split <;> rfl

/-- `CPUFREQ_GOV_START` touches neither thread nor mask. -/
theorem governorStart_shared (g : SmartassGovernor n) (env : Env n) (c : Fin n)
    (policy : CpufreqPolicy) (rc : Option Errno) :
    (g.governorStart env c policy rc).1.shared = g.shared := by
  simp only [governorStart]
  by_cases refused : env.online c = false ∨ policy.cur = 0
  · rw [if_pos refused]
  · rw [if_neg refused]
    by_cases first : g.activeCount + 1 ≤ 1
    · rw [if_pos first]
      cases rc with
      | some errno => rfl
      | none => exact governorLimits_shared ..
    · rw [if_neg first]
      exact governorLimits_shared ..

/-- The end of `CPUFREQ_GOV_STOP` touches neither thread nor mask. -/
theorem stopFinish_shared (g : SmartassGovernor n) (c : Fin n) :
    (g.stopFinish c).shared = g.shared := by
  simp only [stopFinish]
  split <;> rfl

/-- Entering idle touches neither thread nor mask. -/
theorem cpufreqIdleEnter_shared (entered : g.cpufreqIdleEnter c = some after) :
    after.shared = g.shared := by
  simp only [cpufreqIdleEnter] at entered
  by_cases enabled : (g.cpu c).info.enable = true
  · rw [if_pos enabled] at entered
    obtain ⟨policy, _, rfl⟩ := Option.map_eq_some_iff.mp entered
    rfl
  · rw [if_neg enabled] at entered
    exact Option.some.inj entered ▸ rfl

/-- The suspend of one CPU touches neither thread nor mask. -/
theorem smartassSuspend_shared {current : Fin n} {suspend : Bool}
    (ran : g.smartassSuspend env current suspend = some after) : after.shared = g.shared := by
  simp only [smartassSuspend] at ran
  by_cases ignored : (g.cpu current).info.enable = false ∨ g.settings.sleepMaxFreq = 0
  · rw [if_pos ignored] at ran
    exact Option.some.inj ran ▸ rfl
  · rw [if_neg ignored] at ran
    obtain ⟨policy, _, rfl⟩ := Option.map_eq_some_iff.mp ran
    cases suspend with
    | false => rfl
    | true =>
        rw [if_pos rfl]
        split <;> rfl

/-- The suspend of all CPUs touches neither thread nor mask. -/
theorem suspendAll_shared {processor : Fin n → Fin n} {suspend : Bool}
    (ran : g.suspendAll env processor suspend = some after) : after.shared = g.shared := by
  refine invariant_of_step (fun left => left.shared = g.shared)
    (fun before i left same taken => ?_) rfl ran
  by_cases online : env.online i = true
  · rw [if_pos online] at taken
    exact (smartassSuspend_shared taken).trans same
  · rw [if_neg online] at taken
    exact Option.some.inj taken ▸ same

/-! ## The board -/

/-- A thread that goes on with some work has these CPUs left to read. -/
theorem setThread_unread (g : SmartassGovernor n) (w : SmartassThread n)
    (work : SmartassWork n) :
    (g.setThread w work).board.unread =
      Function.update g.board.unread w work.todo.toFinset := by
  funext v
  by_cases same : v = w
  · subst same
    simp only [board, setThread, Function.update_self]
  · simp only [board, setThread, Function.update_of_ne same]

/-- A thread that begins takes the marked CPUs as its own. -/
theorem workBegin_board (g : SmartassGovernor n) (w : SmartassThread n) :
    (g.workBegin w).board = g.board.answer w := by
  have copy : ((List.finRange n).filter (· ∈ g.workCpumask)).toFinset = g.workCpumask := by
    ext c
    simp only [List.mem_toFinset, List.mem_filter, List.mem_finRange, decide_eq_true_eq, true_and]
  have unread : (g.workBegin w).board.unread =
      Function.update g.board.unread w g.board.marked :=
    (setThread_unread ..).trans (congrArg _ copy)
  exact congrArg (Board.mk g.asked g.workCpumask none) unread

/-- Reading the load of one CPU takes that CPU off those the thread has not read. -/
theorem workLoad_board {todo : List (Fin n)} (current : g.thread w = .looping (c :: todo))
    (once : (c :: todo).Nodup) :
    (g.workLoad env w c todo).board = g.board.read w c := by
  have rest : todo.toFinset = (g.board.unread w).erase c := by
    have copy : g.board.unread w = insert c todo.toFinset := by
      simp only [board, current, SmartassWork.todo, List.toFinset_cons]
    rw [copy, Finset.erase_insert]
    exact fun again => (List.nodup_cons.mp once).1 (List.mem_toFinset.mp again)
  have unread : (g.workLoad env w c todo).board.unread =
      Function.update g.board.unread w ((g.board.unread w).erase c) :=
    (setThread_unread ..).trans (congrArg _ rest)
  exact congrArg (Board.mk (g.asked.erase c) g.workCpumask g.workQueued) unread

/-- The call of the driver moves no mark. -/
theorem workDrive_board {load : U32} {force : Bool} {todo : List (Fin n)}
    (current : g.thread w = .loaded c load force todo)
    (driven : g.workDrive env w c load force todo = some after) : after.board = g.board := by
  obtain ⟨policy, _, rfl⟩ := Option.map_eq_some_iff.mp driven
  have copy : g.board.unread w = todo.toFinset := by
    simp only [board, current, SmartassWork.todo]
  have unread := (setThread_unread g w (.driven c todo)).trans
    ((congrArg _ copy.symm).trans (Function.update_eq_self w g.board.unread))
  exact congrArg (Board.mk g.asked g.workCpumask g.workQueued) unread

/-- Clearing the bit of a CPU takes off its mark. -/
theorem workClear_board {todo : List (Fin n)} (current : g.thread w = .driven c todo) :
    (g.workClear w c todo).board = g.board.unmark c := by
  have copy : g.board.unread w = todo.toFinset := by
    simp only [board, current, SmartassWork.todo]
  have unread := (setThread_unread g w (.looping todo)).trans
    ((congrArg _ copy.symm).trans (Function.update_eq_self w g.board.unread))
  exact congrArg (Board.mk g.asked (g.workCpumask.erase c) g.workQueued) unread

/-- A thread that ends has read everything before. -/
theorem workEnd_board (current : g.thread w = .looping []) :
    (g.setThread w .resting).board = g.board := by
  have copy : g.board.unread w = ∅ := by
    simp only [board, current, SmartassWork.todo, List.toFinset_nil]
  have unread := (setThread_unread g w .resting).trans
    ((congrArg _ copy.symm).trans (Function.update_eq_self w g.board.unread))
  exact congrArg (Board.mk g.asked g.workCpumask g.workQueued) unread

/-- The timer of a CPU leaves the board, or asks for its CPU. -/
theorem timer_board (ran : g.cpufreqSmartassTimer env c = some after) :
    after.thread = g.thread ∧
      (after.board = g.board ∨ ∃ queue, after.board = g.board.ask c (queue, c)) := by
  obtain ⟨policy, _, rfl⟩ := Option.map_eq_some_iff.mp ran
  cases asked : ({ (g.cpu c).info.toSmartassInfo with timer := none }.timerFunction
      g.settings.timer env.toKernelEnv policy (env.reading c)).2 with
  | none =>
      simp only [asked]
      exact ⟨rfl, .inl rfl⟩
  | some queue =>
      simp only [asked]
      exact ⟨rfl, .inr ⟨queue, rfl⟩⟩

/-- Only timers and the work function touch what is shared. -/
theorem handle_shared {event : SmartassGovEvent n} (ran : g.handle env event = some after)
    (notTimer : ∀ c, event ≠ .timer c) (notWork : ∀ w, event ≠ .work w) :
    after.shared = g.shared := by
  cases event with
  | timer c => exact absurd rfl (notTimer c)
  | work w => exact absurd rfl (notWork w)
  | idleEnter c => exact cpufreqIdleEnter_shared ran
  | idleExit c =>
      obtain ⟨enabled, _, rfl⟩ := Option.map_eq_some_iff.mp ran
      rfl
  | start c policy rc => exact Option.some.inj ran ▸ governorStart_shared g env c policy rc
  | limits c min max =>
      obtain ⟨policy, _, rfl⟩ := Option.map_eq_some_iff.mp ran
      exact governorLimits_shared ..
  | stopFinish c => exact Option.some.inj ran ▸ stopFinish_shared g c
  | earlySuspend processor => exact suspendAll_shared ran
  | lateResume processor => exact suspendAll_shared ran
  | stopDelTimer c | stopDisable c | store tunable input | transition c cur
  | outside c policy =>
      exact Option.some.inj ran ▸ rfl

/-! ## No ramp is lost -/

/-- A thread clears the bit of a CPU only if the CPU has not asked again, or another thread
has still to take its load. -/
def ClearsServed (g : SmartassGovernor n) (action : SmartassAction n) : Prop :=
  ∀ w ∈ action.event.worker, ∀ c ∈ (g.thread w).clears, c ∈ g.asked → g.board.Copied c

instance (g : SmartassGovernor n) : DecidablePred g.ClearsServed := fun action =>
  have (c : Fin n) : Decidable (g.board.Copied c) := inferInstanceAs (Decidable (∃ _, _))
  inferInstanceAs (Decidable (∀ w ∈ action.event.worker, ∀ c ∈ (g.thread w).clears, _))

/-- No ramp is lost so far, and a thread goes once through its copy. -/
structure Handed (g : SmartassGovernor n) : Prop where
  once (w : SmartassThread n) : (g.thread w).todo.Nodup
  kept : g.board.Kept

/-- Before the first event nobody has asked and no thread has anything to do. -/
theorem handed_init (n : Nat) : (init n).Handed where
  once _ := List.nodup_nil
  kept := Board.kept_of_asked_empty rfl

/-- Every thread goes once through its CPUs when one goes on with a list without repetition. -/
theorem once_setThread {work : SmartassWork n} (once : ∀ v, (g.thread v).todo.Nodup)
    (goesOnce : work.todo.Nodup) (v : SmartassThread n) :
    ((g.setThread w work).thread v).todo.Nodup := by
  by_cases same : v = w
  · subst same
    simpa only [setThread, Function.update_self] using goesOnce
  · simpa only [setThread, Function.update_of_ne same] using once v

/-- A step of a thread keeps the ramps exactly if it does not clear the bit of a CPU that
has asked again. -/
theorem Handed.workStep (handed : g.Handed) (ran : g.workStep env w = some after) :
    (∀ v, (after.thread v).todo.Nodup) ∧
      (after.board.Kept ↔ ∀ c ∈ (g.thread w).clears, c ∈ g.asked → g.board.Copied c) := by
  have goesOnce := handed.once w
  have served (work : SmartassWork n) (other : work.clears = none) (kept : after.board.Kept) :
      after.board.Kept ↔ ∀ c ∈ work.clears, c ∈ g.asked → g.board.Copied c := by
    refine iff_of_true kept fun c clears => ?_
    rw [other] at clears
    cases clears
  unfold SmartassGovernor.workStep at ran
  cases current : g.thread w with
  | resting =>
      rw [current] at ran
      obtain rfl := Option.some.inj ran
      refine ⟨once_setThread handed.once ((List.nodup_finRange n).filter _), ?_⟩
      refine served _ rfl ?_
      rw [workBegin_board]
      refine handed.kept.answer ?_
      simp only [board, current, SmartassWork.todo, List.toFinset_nil]
  | looping todo =>
      rw [current] at ran goesOnce
      cases todo with
      | nil =>
          obtain rfl := Option.some.inj ran
          refine ⟨once_setThread handed.once List.nodup_nil, ?_⟩
          refine served _ rfl ?_
          rw [workEnd_board current]
          exact handed.kept
      | cons c todo =>
          obtain rfl := Option.some.inj ran
          refine ⟨once_setThread handed.once (List.nodup_cons.mp goesOnce).2, ?_⟩
          refine served _ rfl ?_
          rw [workLoad_board current goesOnce]
          exact handed.kept.read w c
  | loaded c load force todo =>
      rw [current] at ran goesOnce
      have same := workDrive_board current ran
      obtain ⟨policy, _, rfl⟩ := Option.map_eq_some_iff.mp ran
      refine ⟨once_setThread handed.once goesOnce, ?_⟩
      refine served _ rfl ?_
      rw [same]
      exact handed.kept
  | driven c todo =>
      rw [current] at ran goesOnce
      obtain rfl := Option.some.inj ran
      refine ⟨once_setThread handed.once goesOnce, ?_⟩
      rw [workClear_board current, handed.kept.unmark_iff]
      constructor
      · intro read d clears
        exact Option.some.inj clears ▸ read
      · intro guard
        exact guard c rfl

/-- A step keeps the ramps exactly if it meets the guard. -/
theorem Handed.step {action : SmartassAction n} (handed : g.Handed)
    (taken : g.step action = some after) :
    (∀ v, (after.thread v).todo.Nodup) ∧ (after.board.Kept ↔ g.ClearsServed action) := by
  obtain ⟨event, env⟩ := action
  obtain ⟨_, ran⟩ := step_eq_some.mp taken
  have kept (notWork : ∀ w, event ≠ .work w) (still : after.board.Kept) :
      after.board.Kept ↔ g.ClearsServed ⟨event, env⟩ := by
    refine iff_of_true still fun w works => ?_
    cases event with
    | work v => exact absurd rfl (notWork v)
    | _ => cases works
  by_cases work : ∃ w, event = .work w
  · obtain ⟨w, rfl⟩ := work
    obtain ⟨once, kept_iff⟩ := handed.workStep ran
    refine ⟨once, kept_iff.trans ⟨fun guard v works => ?_, fun guard => guard w rfl⟩⟩
    exact Option.some.inj works ▸ guard
  · have notWork (w : SmartassThread n) : event ≠ .work w := fun same => work ⟨w, same⟩
    by_cases timer : ∃ c, event = .timer c
    · obtain ⟨c, rfl⟩ := timer
      obtain ⟨thread, same | ⟨queue, asks⟩⟩ := timer_board ran
      · exact ⟨thread ▸ handed.once, kept notWork (same ▸ handed.kept)⟩
      · exact ⟨thread ▸ handed.once, kept notWork (asks ▸ handed.kept.ask c (queue, c))⟩
    · have same := handle_shared ran (fun c same => timer ⟨c, same⟩) notWork
      have thread : after.thread = g.thread := congrArg (fun shared => shared.2.2.2) same
      exact ⟨thread ▸ handed.once, kept notWork (board_of_shared same ▸ handed.kept)⟩

/-- **Ramps that are lost.** In every run from the start, a CPU whose timer has asked for a
ramp has its bit set with the work pending, or is in the copy of a thread that has still to
take its load, exactly if no thread clears the bit of a CPU that has asked again, unless
another thread has still to take its load. -/
theorem ramps_kept_iff (n : Nat) (actions : List (SmartassAction n)) :
    Along step (fun _ _ after => after.board.Kept) (init n) actions ↔
      Guarded step ClearsServed (init n) actions := by
  refine along_iff Handed (fun before action after handed guard taken => ?_)
    (fun before action after handed taken law => ?_) (handed_init n) actions
  · obtain ⟨once, kept_iff⟩ := handed.step taken
    exact ⟨⟨once, kept_iff.mpr guard⟩, kept_iff.mpr guard⟩
  · exact (handed.step taken).2.mp law

/-- A CPU that runs a task, at a time. -/
def sampledAt (jiffies : Nat) (idle wall : U64) : Env 1 where
  jiffies := jiffies
  nrRunning := 1
  drive := Request.target
  online _ := true
  reading _ := readingAt idle wall

/-- A CPU goes down after an idle period; it is busy again, and its timer expires, before
the thread has cleared its bit. -/
def busyAgain : List (SmartassAction 1) :=
  [⟨.start Governor.onlyCpu ⟨300000, 1000000, 1000000⟩ none, sampledAt 0 0 0⟩,
    ⟨.idleEnter Governor.onlyCpu, sampledAt 0 900000 1000000⟩,
    ⟨.idleExit Governor.onlyCpu, sampledAt 0 900000 1000000⟩,
    ⟨.timer Governor.onlyCpu, sampledAt 2 919000 1020000⟩,
    ⟨.work (.down, Governor.onlyCpu), sampledAt 2 919000 1020000⟩,
    ⟨.work (.down, Governor.onlyCpu), sampledAt 2 919000 1020000⟩,
    ⟨.work (.down, Governor.onlyCpu), sampledAt 2 919000 1020000⟩,
    ⟨.idleEnter Governor.onlyCpu, sampledAt 2 919000 1020000⟩,
    ⟨.idleExit Governor.onlyCpu, sampledAt 2 920000 1030000⟩,
    ⟨.timer Governor.onlyCpu, sampledAt 4 920000 1050000⟩,
    ⟨.work (.down, Governor.onlyCpu), sampledAt 4 920000 1050000⟩]

example : ¬ Guarded step ClearsServed (init 1) busyAgain := by decide

/-- A governor at rest: the work is not pending, and no thread is in the work function. -/
def WorkDone (g : SmartassGovernor n) : Prop :=
  g.workQueued = none ∧ ∀ w, g.thread w = .resting

/-- When the work is done after a run that loses nothing, the load of every CPU whose timer
has asked for a ramp has been taken since. -/
theorem asked_eq_empty_of_workDone {actions : List (SmartassAction n)}
    (served : Guarded step ClearsServed (init n) actions)
    (reached : exec step (init n) actions = some g) (done : g.WorkDone) : g.asked = ∅ := by
  have handed : g.Handed := by
    refine invariant Handed (fun before action after handed guard taken => ?_) (handed_init n)
      served reached
    obtain ⟨once, kept_iff⟩ := handed.step taken
    exact ⟨once, kept_iff.mpr guard⟩
  refine handed.kept.asked_eq_empty done.1 fun w => ?_
  simp only [board, done.2 w, SmartassWork.todo, List.toFinset_nil]

end SmartassGovernor

end Jordan.Cpufreq
