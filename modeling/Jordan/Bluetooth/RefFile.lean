import Jordan.Machine
import Jordan.Library.Execution
import Mathlib.Algebra.BigOperators.Group.Finset.Basic
import Mathlib.Algebra.BigOperators.Group.Finset.Piecewise
import Mathlib.Data.Fintype.BigOperators

/-! # The Bluetooth reference file

`bluedroid.c` counts the users of the Bluetooth chip in a file shared by all
processes. `inc_atomic` and `dec_atomic` read the file under a shared record
lock, release it, take an exclusive lock and write the new count. The processes
of the system below run any number of these calls, in every interleaving of
their system calls that the record locks allow, all of which succeed.

Between the two locks another process may write: two processes can both read
the same count and one of the updates is lost
(`Jordan.Bluetooth.two_increments_lose_one`). A write that still finds the count
from which its value was computed moves the count by exactly one
(`Jordan.Bluetooth.write_exact_iff`), and when every write does, nothing is lost
(`Jordan.Bluetooth.refCount_eq_of_guarded`).
-/

namespace Jordan.Bluetooth

open Execution

/-- `struct RefBase_s`. -/
structure RefBase where
  magic : U32
  base : U32
deriving DecidableEq, Repr

def MAGIC : U32 := 0x55665566#32

/-- The content of `REF_FILE`; `none` is the empty file `open` with `O_CREAT` makes. -/
abbrev RefFile := Option RefBase

/-- Reading the file into `ref`, which is initialised to `{MAGIC, 0}`: reading an
empty file changes nothing. -/
def readRef (file : RefFile) : RefBase := file.getD ⟨MAGIC, 0⟩

/-- The count a file stands for: a foreign magic number counts as 0. -/
def refCount (file : RefFile) : Nat :=
  if (readRef file).magic = MAGIC then (readRef file).base.toNat else 0

/-- The two functions that update the file. -/
inductive RefCall where
  | incAtomic
  | decAtomic
deriving DecidableEq, Repr

/-- What `inc_atomic` computes from the `ref` it has read. -/
def incRef (ref : RefBase) : RefBase :=
  let ref := if ref.magic ≠ MAGIC then ⟨MAGIC, 0⟩ else ref
  { ref with base := ref.base + 1 }

/-- What `dec_atomic` computes from the `ref` it has read. -/
def decRef (ref : RefBase) : RefBase :=
  let ref := if ref.magic ≠ MAGIC then ⟨MAGIC, 1⟩ else ref
  let ref := if ref.base = 0#32 then { ref with base := 1 } else ref
  { ref with base := ref.base - 1 }

def RefCall.update : RefCall → RefBase → RefBase
  | .incAtomic => incRef
  | .decAtomic => decRef

/-- What a call should add to the count. -/
def RefCall.delta : RefCall → Int
  | .incAtomic => 1
  | .decAtomic => -1

/-- Where a process is inside a call, with its local `ref` once it is computed. -/
inductive RefStage where
  | opened
  | readLocked
  | computed (ref : RefBase)
  | unlocked (ref : RefBase)
  | writeLocked (ref : RefBase)
  | written (ref : RefBase)
deriving DecidableEq, Repr

inductive RecordLock where
  | unlocked
  | shared
  | exclusive
deriving DecidableEq, Repr

/-- The record lock a process holds at a stage. -/
def RefStage.lock : RefStage → RecordLock
  | .opened => .unlocked
  | .readLocked => .shared
  | .computed _ => .shared
  | .unlocked _ => .unlocked
  | .writeLocked _ => .exclusive
  | .written _ => .exclusive

/-- A process: not in a call, or at a stage of one. -/
abbrev RefProcess := Option (RefCall × RefStage)

def RefProcess.lock : RefProcess → RecordLock
  | none => .unlocked
  | some (_, stage) => stage.lock

structure RefState (Pid : Type) where
  file : RefFile
  process : Pid → RefProcess

/-- The system calls of `inc_atomic` and `dec_atomic`, in program order. -/
inductive RefSyscall where
  | openFile (call : RefCall)
  | lockShared
  | read
  | unlock
  | lockExclusive
  | write
  | close
deriving DecidableEq, Repr

structure RefAction (Pid : Type) where
  pid : Pid
  syscall : RefSyscall

variable {Pid : Type} [DecidableEq Pid]

/-- Move one process to a stage, or out of its call. -/
def RefState.put (state : RefState Pid) (pid : Pid) (process : RefProcess) : RefState Pid :=
  { state with process := Function.update state.process pid process }

variable [Fintype Pid]

/-- One system call of one process. `F_SETLKW` waits until no other process
holds a conflicting lock; `close` drops the lock. -/
def refStep (state : RefState Pid) (action : RefAction Pid) : Option (RefState Pid) :=
  match action.syscall, state.process action.pid with
  | .openFile call, none => some (state.put action.pid (some (call, .opened)))
  | .lockShared, some (call, .opened) =>
      if ∀ other, other ≠ action.pid → (state.process other).lock ≠ .exclusive then
        some (state.put action.pid (some (call, .readLocked)))
      else none
  | .read, some (call, .readLocked) =>
      some (state.put action.pid (some (call, .computed (call.update (readRef state.file)))))
  | .unlock, some (call, .computed ref) =>
      some (state.put action.pid (some (call, .unlocked ref)))
  | .lockExclusive, some (call, .unlocked ref) =>
      if ∀ other, other ≠ action.pid → (state.process other).lock = .unlocked then
        some (state.put action.pid (some (call, .writeLocked ref)))
      else none
  | .write, some (call, .writeLocked ref) =>
      some { state.put action.pid (some (call, .written ref)) with file := some ref }
  | .close, some (_, .written _) => some (state.put action.pid none)
  | _, _ => none

/-- No process is inside a call. -/
def RefState.Quiet (state : RefState Pid) : Prop := ∀ pid, state.process pid = none

/-- The count can move by the call without leaving the range of `unsigned int`:
no decrement at 0, no increment at the largest value. -/
def RefCall.InRange (call : RefCall) (count : Nat) : Prop :=
  match call with
  | .incAtomic => count + 1 < 2 ^ 32
  | .decAtomic => 0 < count

instance (call : RefCall) (count : Nat) : Decidable (call.InRange count) := by
  cases call <;> exact inferInstanceAs (Decidable (_ < _))

/-- A write finds the count from which its value was computed, in range. -/
def WriteFindsItsCount (state : RefState Pid) (action : RefAction Pid) : Prop :=
  match action.syscall, state.process action.pid with
  | .write, some (call, .writeLocked ref) =>
      ref = call.update (readRef state.file) ∧ call.InRange (refCount state.file)
  | _, _ => True

instance (state : RefState Pid) (action : RefAction Pid) :
    Decidable (WriteFindsItsCount state action) := by
  unfold WriteFindsItsCount
  split <;> infer_instance

/-- A write moves the count by exactly what its call should add. -/
def WriteMovesByDelta (before : RefState Pid) (action : RefAction Pid) (after : RefState Pid) :
    Prop :=
  match action.syscall, before.process action.pid with
  | .write, some (call, .writeLocked _) =>
      (refCount after.file : Int) = refCount before.file + call.delta
  | _, _ => True

/-- The number of times a function is called along the actions. -/
def callCount (call : RefCall) (actions : List (RefAction Pid)) : Nat :=
  actions.countP fun action => action.syscall = .openFile call

/-! ## What one system call does -/

omit [Fintype Pid] in
@[simp] theorem RefState.put_file (state : RefState Pid) (pid : Pid) (process : RefProcess) :
    (state.put pid process).file = state.file := rfl

/-- What an enabled system call does: its process moves one stage on, and only
`write` changes the file. -/
inductive RefTaken (before : RefState Pid) : RefAction Pid → RefState Pid → Prop
  | openFile {pid : Pid} (call : RefCall) (idle : before.process pid = none) :
      RefTaken before ⟨pid, .openFile call⟩ (before.put pid (some (call, .opened)))
  | lockShared {pid : Pid} {call : RefCall} (stage : before.process pid = some (call, .opened)) :
      RefTaken before ⟨pid, .lockShared⟩ (before.put pid (some (call, .readLocked)))
  | read {pid : Pid} {call : RefCall} (stage : before.process pid = some (call, .readLocked)) :
      RefTaken before ⟨pid, .read⟩
        (before.put pid (some (call, .computed (call.update (readRef before.file)))))
  | unlock {pid : Pid} {call : RefCall} {ref : RefBase}
      (stage : before.process pid = some (call, .computed ref)) :
      RefTaken before ⟨pid, .unlock⟩ (before.put pid (some (call, .unlocked ref)))
  | lockExclusive {pid : Pid} {call : RefCall} {ref : RefBase}
      (stage : before.process pid = some (call, .unlocked ref)) :
      RefTaken before ⟨pid, .lockExclusive⟩ (before.put pid (some (call, .writeLocked ref)))
  | write {pid : Pid} {call : RefCall} {ref : RefBase}
      (stage : before.process pid = some (call, .writeLocked ref)) :
      RefTaken before ⟨pid, .write⟩
        { before.put pid (some (call, .written ref)) with file := some ref }
  | close {pid : Pid} {call : RefCall} {ref : RefBase}
      (stage : before.process pid = some (call, .written ref)) :
      RefTaken before ⟨pid, .close⟩ (before.put pid none)

/-- Every step of the counting functions is one of the cases of `RefTaken`. -/
theorem refStep_taken {before after : RefState Pid} {action : RefAction Pid}
    (taken : refStep before action = some after) : RefTaken before action after := by
  obtain ⟨pid, syscall⟩ := action
  unfold refStep at taken
  split at taken
  next call syscallIs processIs =>
    cases syscallIs
    cases taken
    exact .openFile call processIs
  next call syscallIs processIs =>
    cases syscallIs
    split at taken
    · cases taken
      exact .lockShared processIs
    · cases taken
  next call syscallIs processIs =>
    cases syscallIs
    cases taken
    exact .read processIs
  next call ref syscallIs processIs =>
    cases syscallIs
    cases taken
    exact .unlock processIs
  next call ref syscallIs processIs =>
    cases syscallIs
    split at taken
    · cases taken
      exact .lockExclusive processIs
    · cases taken
  next call ref syscallIs processIs =>
    cases syscallIs
    cases taken
    exact .write processIs
  next call ref syscallIs processIs =>
    cases syscallIs
    cases taken
    exact .close processIs
  next => cases taken

/-- A `ref` computed from a file carries the magic number. -/
theorem RefCall.update_magic (call : RefCall) (ref : RefBase) :
    (call.update ref).magic = MAGIC := by
  cases call with
  | incAtomic =>
      unfold RefCall.update incRef
      by_cases foreign : ref.magic = MAGIC <;> simp [foreign]
  | decAtomic =>
      unfold RefCall.update decRef
      by_cases foreign : ref.magic = MAGIC <;> by_cases zero : ref.base = 0#32 <;>
        simp [foreign, zero]

theorem refCount_some {ref : RefBase} (magic : ref.magic = MAGIC) :
    refCount (some ref) = ref.base.toNat := by
  simp [refCount, readRef, magic]

/-- The base of the count a file stands for, as `inc_atomic` and `dec_atomic` see it. -/
theorem toNat_update_base (call : RefCall) (file : RefFile)
    (inRange : call.InRange (refCount file)) :
    ((call.update (readRef file)).base.toNat : Int) = refCount file + call.delta := by
  cases call with
  | incAtomic =>
      simp only [RefCall.InRange] at inRange
      simp only [RefCall.update, incRef, RefCall.delta, refCount] at inRange ⊢
      by_cases foreign : (readRef file).magic = MAGIC
      · simp only [foreign, ↓reduceIte, ne_eq, not_true_eq_false] at inRange ⊢
        bv_omega
      · simp [foreign]
  | decAtomic =>
      simp only [RefCall.InRange] at inRange
      simp only [RefCall.update, decRef, RefCall.delta, refCount] at inRange ⊢
      by_cases foreign : (readRef file).magic = MAGIC
      · have nonzero : (readRef file).base ≠ 0#32 := by
          intro zero
          simp [foreign, zero] at inRange
        simp only [foreign, ↓reduceIte, ne_eq, not_true_eq_false, nonzero] at inRange ⊢
        bv_omega
      · simp [foreign] at inRange

/-! ## The count along an execution -/

/-- What a process still has to add to the count: its delta, until it has written. -/
def pendingDelta : RefProcess → Int
  | none => 0
  | some (_, .written _) => 0
  | some (call, _) => call.delta

/-- The count the file will stand for once the calls under way have written. -/
def settledCount (state : RefState Pid) : Int :=
  refCount state.file + ∑ pid, pendingDelta (state.process pid)

/-- The pending deltas change by the one of the process that moved. -/
theorem sum_pendingDelta_put (state : RefState Pid) (pid : Pid) (process : RefProcess) :
    ∑ other, pendingDelta ((state.put pid process).process other) =
      ∑ other, pendingDelta (state.process other) - pendingDelta (state.process pid) +
        pendingDelta process := by
  have split := Finset.add_sum_erase Finset.univ (fun other => pendingDelta (state.process other))
    (Finset.mem_univ pid)
  have splitAfter := Finset.add_sum_erase Finset.univ
    (fun other => pendingDelta ((state.put pid process).process other)) (Finset.mem_univ pid)
  have others : ∑ other ∈ Finset.univ.erase pid,
      pendingDelta ((state.put pid process).process other) =
        ∑ other ∈ Finset.univ.erase pid, pendingDelta (state.process other) := by
    apply Finset.sum_congr rfl
    intro other member
    simp only [RefState.put, Function.update_of_ne (Finset.ne_of_mem_erase member)]
  simp only [RefState.put, Function.update_self] at splitAfter others ⊢
  omega

/-- What opening the file adds to the count to come. -/
def RefSyscall.opens : RefSyscall → Int
  | .openFile call => call.delta
  | _ => 0

/-- A guarded step changes the settled count only by opening a call. -/
theorem settledCount_step {before after : RefState Pid} {action : RefAction Pid}
    (guarded : WriteFindsItsCount before action) (taken : refStep before action = some after) :
    settledCount after = settledCount before + action.syscall.opens := by
  unfold settledCount
  cases refStep_taken taken with
  | openFile call idle =>
      rw [sum_pendingDelta_put, idle]
      simp only [RefState.put_file, pendingDelta, RefSyscall.opens]
      omega
  | lockShared stage | unlock stage | lockExclusive stage =>
      rw [sum_pendingDelta_put, stage]
      simp only [RefState.put_file, pendingDelta, RefSyscall.opens]
      omega
  | read stage =>
      rw [sum_pendingDelta_put, stage]
      simp only [RefState.put_file, pendingDelta, RefSyscall.opens]
      omega
  | @write pid call ref stage =>
      simp only [WriteFindsItsCount, stage] at guarded
      obtain ⟨current, inRange⟩ := guarded
      have moved := toNat_update_base call before.file inRange
      have magic := call.update_magic (readRef before.file)
      rw [← current] at moved magic
      change (refCount (some ref) : Int) + ∑ other, pendingDelta
        ((before.put pid (some (call, .written ref))).process other) = _
      rw [sum_pendingDelta_put, stage, refCount_some magic, moved]
      simp only [pendingDelta, RefSyscall.opens]
      omega
  | close stage =>
      rw [sum_pendingDelta_put, stage]
      simp only [RefState.put_file, pendingDelta, RefSyscall.opens]
      omega

omit [DecidableEq Pid] in
theorem settledCount_of_quiet {state : RefState Pid} (quiet : state.Quiet) :
    settledCount state = refCount state.file := by
  unfold settledCount
  rw [Finset.sum_eq_zero, add_zero]
  intro pid _
  rw [quiet pid]
  rfl

omit [DecidableEq Pid] [Fintype Pid] in
theorem callCount_cons (call : RefCall) (action : RefAction Pid) (rest : List (RefAction Pid)) :
    callCount call (action :: rest) =
      callCount call rest + if action.syscall = .openFile call then 1 else 0 := by
  simp only [callCount, List.countP_cons, decide_eq_true_eq]

omit [DecidableEq Pid] [Fintype Pid] in
theorem opens_eq_calls (syscall : RefSyscall) :
    syscall.opens = (if syscall = .openFile .incAtomic then 1 else 0) -
      (if syscall = .openFile .decAtomic then 1 else 0) := by
  cases syscall with
  | openFile call => cases call <;> rfl
  | lockShared | read | unlock | lockExclusive | write | close => rfl

/-- Along a guarded run the settled count moves with the calls that begin. -/
theorem settledCount_exec {start last : RefState Pid} {actions : List (RefAction Pid)}
    (guarded : Guarded refStep WriteFindsItsCount start actions)
    (reached : exec refStep start actions = some last) :
    settledCount last =
      settledCount start + callCount .incAtomic actions - callCount .decAtomic actions := by
  induction actions generalizing start with
  | nil =>
      rw [exec_nil, Option.some.injEq] at reached
      simp [callCount, reached]
  | cons action rest ih =>
      obtain ⟨next, taken, reached⟩ := exec_cons_eq_some.mp reached
      obtain ⟨here, later⟩ := guarded next taken
      have moved := settledCount_step here taken
      have rest := ih later reached
      rw [opens_eq_calls] at moved
      rw [callCount_cons, callCount_cons]
      split_ifs at moved ⊢ <;> push_cast <;> omega

/-- **No update is lost when every write finds its count.** Along every
interleaving in which no other process writes between the read and the write of
a call, and no count leaves the range of `unsigned int`, the file ends up with
the initial count plus the increments minus the decrements. -/
theorem refCount_eq_of_guarded (start last : RefState Pid) (actions : List (RefAction Pid))
    (startQuiet : start.Quiet) (lastQuiet : last.Quiet)
    (reached : exec refStep start actions = some last)
    (guarded : Guarded refStep WriteFindsItsCount start actions) :
    (refCount last.file : Int) =
      refCount start.file + callCount .incAtomic actions - callCount .decAtomic actions := by
  rw [← settledCount_of_quiet lastQuiet, ← settledCount_of_quiet startQuiet]
  exact settledCount_exec guarded reached

/-- One whole call of one process, alone. -/
def wholeCall (pid : Pid) (call : RefCall) : List (RefAction Pid) :=
  [⟨pid, .openFile call⟩, ⟨pid, .lockShared⟩, ⟨pid, .read⟩, ⟨pid, .unlock⟩,
    ⟨pid, .lockExclusive⟩, ⟨pid, .write⟩, ⟨pid, .close⟩]

/-- Two increments one after the other on an empty file count 2. -/
theorem two_increments_in_turn :
    ∃ last : RefState (Fin 2),
      exec refStep ⟨none, fun _ => none⟩
        (wholeCall 0 .incAtomic ++ wholeCall 1 .incAtomic) = some last ∧
      (refCount last.file : Int) = 2 := by
  refine ⟨_, rfl, ?_⟩
  refine (refCount_eq_of_guarded ⟨none, fun _ => none⟩ _
    (wholeCall 0 .incAtomic ++ wholeCall 1 .incAtomic) (fun _ => rfl) ?_ rfl ?_).trans (by decide)
  · unfold RefState.Quiet
    decide
  · decide

/-! ## The guard is exact -/

omit [DecidableEq Pid] [Fintype Pid] in
/-- As long as every `ref` under way came from one of the two
functions, a write moves the count by its delta only when it finds its count. -/
theorem write_exact {before : RefState Pid} {call : RefCall} {ref : RefBase}
    (computed : ∃ seen, ref = call.update seen)
    (moves : (refCount (some ref) : Int) = refCount before.file + call.delta) :
    ref = call.update (readRef before.file) ∧ call.InRange (refCount before.file) := by
  obtain ⟨seen, rfl⟩ := computed
  have small := (call.update seen).base.isLt
  rw [refCount_some (call.update_magic seen)] at moves
  have inRange : call.InRange (refCount before.file) := by
    cases call <;> simp only [RefCall.InRange, RefCall.delta] at moves ⊢ <;> omega
  refine ⟨?_, inRange⟩
  have same := toNat_update_base call before.file inRange
  have bases : (call.update seen).base = (call.update (readRef before.file)).base := by
    apply BitVec.eq_of_toNat_eq
    omega
  have magics := (call.update_magic seen).trans (call.update_magic (readRef before.file)).symm
  calc call.update seen
      = ⟨(call.update seen).magic, (call.update seen).base⟩ := rfl
    _ = call.update (readRef before.file) := by rw [magics, bases]

/-- Every `ref` a process carries was computed by the function it is calling. -/
def RefsComputed (state : RefState Pid) : Prop :=
  ∀ pid call ref, (state.process pid = some (call, .computed ref) ∨
    state.process pid = some (call, .unlocked ref) ∨
    state.process pid = some (call, .writeLocked ref)) → ∃ seen, ref = call.update seen

omit [Fintype Pid] in
theorem RefsComputed.put {state : RefState Pid} (computed : RefsComputed state) (pid : Pid)
    (process : RefProcess)
    (here : ∀ call ref, (process = some (call, .computed ref) ∨
      process = some (call, .unlocked ref) ∨ process = some (call, .writeLocked ref)) →
        ∃ seen, ref = call.update seen) : RefsComputed (state.put pid process) := by
  intro other call ref stage
  by_cases same : other = pid
  · subst same
    simp only [RefState.put, Function.update_self] at stage
    exact here call ref stage
  · simp only [RefState.put, Function.update_of_ne same] at stage
    exact computed other call ref stage

/-- A step keeps that every reference to be written was computed from one that was seen. -/
theorem refsComputed_step {before after : RefState Pid} {action : RefAction Pid}
    (computed : RefsComputed before) (taken : refStep before action = some after) :
    RefsComputed after := by
  cases refStep_taken taken with
  | openFile call idle | lockShared stage | close stage =>
      exact computed.put _ _ (by simp)
  | @read pid call stage =>
      refine computed.put _ _ ?_
      intro other ref held
      simp only [Option.some.injEq, Prod.mk.injEq, RefStage.computed.injEq, reduceCtorEq, and_false,
        or_self, or_false] at held
      obtain ⟨rfl, rfl⟩ := held
      exact ⟨_, rfl⟩
  | @unlock pid call ref stage =>
      refine computed.put _ _ ?_
      intro other held same
      simp only [Option.some.injEq, Prod.mk.injEq, RefStage.unlocked.injEq, reduceCtorEq, and_false,
        false_or, or_false] at same
      obtain ⟨rfl, rfl⟩ := same
      exact computed pid call ref (.inl stage)
  | @lockExclusive pid call ref stage =>
      refine computed.put _ _ ?_
      intro other held same
      simp only [Option.some.injEq, Prod.mk.injEq, RefStage.writeLocked.injEq, reduceCtorEq,
        and_false, false_or] at same
      obtain ⟨rfl, rfl⟩ := same
      exact computed pid call ref (.inr (.inl stage))
  | @write pid call ref stage =>
      have moved : RefsComputed (before.put pid (some (call, .written ref))) :=
        computed.put _ _ (by simp)
      exact fun other => moved other

/-- **When a write counts.** Along every interleaving, all writes move the count
by exactly their delta if and only if every one of them finds its count. -/
theorem write_exact_iff (start : RefState Pid) (quiet : start.Quiet)
    (actions : List (RefAction Pid)) :
    Along refStep WriteMovesByDelta start actions ↔
      Guarded refStep WriteFindsItsCount start actions := by
  refine along_iff RefsComputed ?_ ?_ ?_ actions
  · intro before action after computed guarded taken
    refine ⟨refsComputed_step computed taken, ?_⟩
    cases refStep_taken taken with
    | @write pid call ref stage =>
        simp only [WriteFindsItsCount, WriteMovesByDelta, stage] at guarded ⊢
        obtain ⟨current, inRange⟩ := guarded
        have magic := call.update_magic (readRef before.file)
        rw [← current] at magic
        rw [refCount_some magic, current]
        exact toNat_update_base call before.file inRange
    | openFile | lockShared | read | unlock | lockExclusive | close => trivial
  · intro before action after computed taken moves
    cases refStep_taken taken with
    | @write pid call ref stage =>
        simp only [WriteFindsItsCount, WriteMovesByDelta, stage] at moves ⊢
        exact write_exact (computed pid call ref (.inr (.inr stage))) moves
    | openFile | lockShared | read | unlock | lockExclusive | close => trivial
  · intro pid call ref stage
    rw [quiet pid] at stage
    simp at stage

/-! ## The lost update -/

/-- Two increments of an empty file that read before either writes. -/
def racingIncrements : List (RefAction (Fin 2)) :=
  [⟨0, .openFile .incAtomic⟩, ⟨1, .openFile .incAtomic⟩, ⟨0, .lockShared⟩, ⟨1, .lockShared⟩,
    ⟨0, .read⟩, ⟨1, .read⟩, ⟨0, .unlock⟩, ⟨1, .unlock⟩, ⟨0, .lockExclusive⟩, ⟨0, .write⟩,
    ⟨0, .close⟩, ⟨1, .lockExclusive⟩, ⟨1, .write⟩, ⟨1, .close⟩]

/-- Both increments return, and the count is 1. -/
theorem two_increments_lose_one :
    ∃ last : RefState (Fin 2),
      exec refStep ⟨none, fun _ => none⟩ racingIncrements = some last ∧ last.Quiet ∧
        refCount last.file = 1 ∧
        (refCount last.file : Int) ≠ refCount none + callCount .incAtomic racingIncrements -
          callCount .decAtomic racingIncrements := by
  refine ⟨_, rfl, ?_, by decide, by decide⟩
  unfold RefState.Quiet
  decide

end Jordan.Bluetooth
