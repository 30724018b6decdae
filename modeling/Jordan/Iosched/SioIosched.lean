import Jordan.Machine
import Jordan.Library.Execution
import Jordan.Library.NodeLists

/-! # The sio scheduler

`sio-iosched.c` keeps the queued requests in four fifo lists, one for each
synchronicity and direction. A dispatch takes the head of a list: after a batch
of requests that of a list whose head has expired, otherwise that of a list in
the preferred direction, which is `READ` until reads have starved the writes.

No request is lost and none is dispatched twice
(`Jordan.Iosched.Run.Partitioned`), whatever the counters, the tunables and the
clock are.
-/

namespace Jordan.Iosched

open Execution NodeLists

/-- `enum { ASYNC, SYNC }` -/
inductive Synchronicity where
  | ASYNC
  | SYNC
deriving DecidableEq, Repr

/-- The direction of the data. -/
inductive DataDir where
  | READ
  | WRITE
deriving DecidableEq, Repr

/-- `!data_dir` -/
def DataDir.not : DataDir → DataDir
  | .READ => .WRITE
  | .WRITE => .READ

/-- The two indices of `fifo_list`. -/
abbrev Fifo := Synchronicity × DataDir

/-- What `rq_is_sync` and `rq_data_dir` tell of a request. -/
structure RqFlags (Rq : Type*) where
  rqIsSync : Rq → Synchronicity
  rqDataDir : Rq → DataDir

/-- The indices of the list that a request belongs to. -/
def RqFlags.fifo {Rq : Type*} (flags : RqFlags Rq) (rq : Rq) : Fifo :=
  (flags.rqIsSync rq, flags.rqDataDir rq)

/-- `time_before(a, b)`: the difference of the 32-bit words is negative. -/
def timeBefore (a b : Nat) : Bool := (BitVec.ofNat 32 a - BitVec.ofNat 32 b).slt 0#32

/-- `time_after(a, b)` -/
def timeAfter (a b : Nat) : Bool := timeBefore b a

/-- `struct sio_data`. The expire times are jiffies, never negative. -/
structure SioData (Rq : Type*) where
  fifoList : Fifo → List Rq
  batched : U32
  starved : U32
  fifoExpire : Fifo → Nat
  fifoBatch : U32
  writesStarved : U32

/-- What the elevator works on: its own data, the `rq_fifo_time` of each request
(the source keeps the low 32 bits, all that the comparisons see) and the requests
given to `elv_dispatch_add_tail`. -/
structure RequestQueue (Rq : Type*) where
  sd : SioData Rq
  rqFifoTime : Rq → Nat
  dispatched : List Rq

/-- `HZ` and `msecs_to_jiffies` of the kernel. -/
structure Clock where
  HZ : Nat
  msecsToJiffies : U32 → Nat

/-- The expire times of `sio_init_queue`. -/
def Clock.fifoExpire (clock : Clock) : Fifo → Nat
  | (.SYNC, .READ) => clock.HZ / 2
  | (.SYNC, .WRITE) => 2 * clock.HZ
  | (.ASYNC, .READ) => 4 * clock.HZ
  | (.ASYNC, .WRITE) => 16 * clock.HZ

/-- The constant `writes_starved`, which nothing reads. -/
def writesStarved : U32 := 2#32

/-- The constant `fifo_batch`. -/
def fifoBatch : U32 := 8#32

/-- What `sio_init_queue` makes of the memory: it sets neither `starved` nor
`writes_starved`. -/
def SioData.initialized {Rq : Type*} (memory : SioData Rq) (clock : Clock) : SioData Rq :=
  { memory with
    fifoList := fun _ => []
    batched := 0
    fifoExpire := clock.fifoExpire
    fifoBatch := Iosched.fifoBatch }

/-- `sio_init_queue`, given what `kmalloc_node` returns. -/
def initQueue {Rq : Type*} (clock : Clock) (memory : Option (SioData Rq)) : Option (SioData Rq) :=
  memory.map fun sd => sd.initialized clock

/-- The tunables of `sio_attrs`. -/
inductive Tunable where
  | expire (fifo : Fifo)
  | fifoBatch
  | writesStarved
deriving DecidableEq, Repr

/-- The clamping of `STORE_FUNCTION` to `0` and `INT_MAX`. -/
def clamped (data : U32) : U32 :=
  if data.slt 0#32 then 0 else if (BitVec.intMax 32).slt data then BitVec.intMax 32 else data

/-- The functions that `STORE_FUNCTION` defines, given the number in the page. -/
def SioData.store {Rq : Type*} (sd : SioData Rq) (clock : Clock) (tunable : Tunable)
    (data : U32) : SioData Rq :=
  match tunable with
  | .expire fifo =>
      { sd with
        fifoExpire := Function.update sd.fifoExpire fifo (clock.msecsToJiffies (clamped data)) }
  | .fifoBatch => { sd with fifoBatch := clamped data }
  | .writesStarved => { sd with writesStarved := clamped data }

variable {Rq : Type*}

/-- `sio_queue_empty` -/
def SioData.queueEmpty (sd : SioData Rq) : Bool :=
  (sd.fifoList (.SYNC, .READ)).isEmpty && (sd.fifoList (.SYNC, .WRITE)).isEmpty &&
    (sd.fifoList (.ASYNC, .READ)).isEmpty && (sd.fifoList (.ASYNC, .WRITE)).isEmpty

/-- `sio_choose_request` -/
def SioData.chooseRequest (sd : SioData Rq) (dataDir : DataDir) : Option Rq :=
  (sd.fifoList (.SYNC, dataDir)).head?.or <|
    (sd.fifoList (.ASYNC, dataDir)).head?.or <|
      (sd.fifoList (.SYNC, dataDir.not)).head?.or (sd.fifoList (.ASYNC, dataDir.not)).head?

namespace RequestQueue

/-- `sio_expired_request` -/
def expiredRequest (q : RequestQueue Rq) (jiffies : Nat) (fifo : Fifo) : Option Rq :=
  match q.sd.fifoList fifo with
  | [] => none
  | rq :: _ => if timeAfter jiffies (q.rqFifoTime rq) then some rq else none

/-- `sio_choose_expired_request` -/
def chooseExpiredRequest (q : RequestQueue Rq) (jiffies : Nat) : Option Rq :=
  (q.expiredRequest jiffies (.ASYNC, .WRITE)).or <|
    (q.expiredRequest jiffies (.ASYNC, .READ)).or <|
      (q.expiredRequest jiffies (.SYNC, .WRITE)).or (q.expiredRequest jiffies (.SYNC, .READ))

/-- The expired request that `sio_dispatch_requests` takes after a batch. -/
def afterBatch (q : RequestQueue Rq) (jiffies : Nat) : RequestQueue Rq × Option Rq :=
  if q.sd.batched > q.sd.fifoBatch then
    let q := { q with sd := { q.sd with batched := 0 } }
    (q, q.chooseExpiredRequest jiffies)
  else (q, none)

/-- The direction that `sio_dispatch_requests` prefers. -/
def dataDir (q : RequestQueue Rq) : DataDir :=
  if q.sd.starved > q.sd.writesStarved then .WRITE else .READ

/-- The request that `sio_dispatch_requests` dispatches. -/
def chosen (q : RequestQueue Rq) (jiffies : Nat) : Option Rq :=
  (q.afterBatch jiffies).2.or
    ((q.afterBatch jiffies).1.sd.chooseRequest (q.afterBatch jiffies).1.dataDir)

variable [DecidableEq Rq] (flags : RqFlags Rq)

/-- `sio_add_request` -/
def addRequest (q : RequestQueue Rq) (rq : Rq) (jiffies : Nat) : RequestQueue Rq :=
  { q with
    rqFifoTime := Function.update q.rqFifoTime rq (jiffies + q.sd.fifoExpire (flags.fifo rq))
    sd := { q.sd with fifoList := addTail q.sd.fifoList (flags.fifo rq) rq } }

/-- The request is linked into its fifo list. -/
def Queued (q : RequestQueue Rq) (rq : Rq) : Prop := rq ∈ q.sd.fifoList (flags.fifo rq)

instance (q : RequestQueue Rq) (rq : Rq) : Decidable (q.Queued flags rq) :=
  inferInstanceAs (Decidable (_ ∈ _))

/-- `rq_fifo_clear` -/
def rqFifoClear (q : RequestQueue Rq) (rq : Rq) : RequestQueue Rq :=
  { q with sd := { q.sd with fifoList := unlink q.sd.fifoList rq } }

/-- `sio_merged_requests` -/
def mergedRequests (q : RequestQueue Rq) (rq next : Rq) : RequestQueue Rq :=
  let q :=
    if q.Queued flags rq ∧ q.Queued flags next ∧
        timeBefore (q.rqFifoTime next) (q.rqFifoTime rq) then
      { q with
        sd := { q.sd with fifoList := moveAfter q.sd.fifoList rq next }
        rqFifoTime := Function.update q.rqFifoTime rq (q.rqFifoTime next) }
    else q
  q.rqFifoClear next

/-- `sio_dispatch_request` -/
def dispatchRequest (q : RequestQueue Rq) (rq : Rq) : RequestQueue Rq :=
  let q := q.rqFifoClear rq
  { q with
    dispatched := q.dispatched ++ [rq]
    sd :=
      { q.sd with
        batched := q.sd.batched + 1
        starved := if flags.rqDataDir rq = .WRITE then 0 else q.sd.starved + 1 } }

/-- `sio_dispatch_requests`: what it returns, and what it leaves behind. -/
def dispatchRequests (q : RequestQueue Rq) (jiffies : Nat) : Nat × RequestQueue Rq :=
  match q.chosen jiffies with
  | none => (0, (q.afterBatch jiffies).1)
  | some rq => (1, (q.afterBatch jiffies).1.dispatchRequest flags rq)

end RequestQueue

/-! ## The choice of a request -/

/-- What holds of every list holds of the four lists. -/
theorem Fifo.forall_iff {property : Fifo → Prop} :
    (∀ fifo, property fifo) ↔ property (.SYNC, .READ) ∧ property (.SYNC, .WRITE) ∧
      property (.ASYNC, .READ) ∧ property (.ASYNC, .WRITE) := by
  constructor
  · exact fun all => ⟨all _, all _, all _, all _⟩
  · rintro ⟨_, _, _, _⟩ ⟨_ | _, _ | _⟩ <;> assumption

/-- All four lists are empty. -/
def SioData.Empty (sd : SioData Rq) : Prop := ∀ fifo, sd.fifoList fifo = []

theorem SioData.queueEmpty_iff {sd : SioData Rq} : sd.queueEmpty = true ↔ sd.Empty := by
  unfold SioData.Empty SioData.queueEmpty
  rw [Fifo.forall_iff]
  simp only [Bool.and_eq_true, List.isEmpty_iff, and_assoc]

theorem SioData.chooseRequest_eq_none_iff {sd : SioData Rq} {dataDir : DataDir} :
    sd.chooseRequest dataDir = none ↔ sd.Empty := by
  unfold SioData.Empty SioData.chooseRequest
  rw [Fifo.forall_iff]
  cases dataDir <;>
    simp only [DataDir.not, Option.or_eq_none_iff, List.head?_eq_none_iff] <;> tauto

/-- A request that is chosen is at the head of a list. -/
theorem SioData.head_of_chooseRequest {sd : SioData Rq} {dataDir : DataDir} {rq : Rq}
    (taken : sd.chooseRequest dataDir = some rq) : ∃ fifo, (sd.fifoList fifo).head? = some rq := by
  unfold SioData.chooseRequest at taken
  simp only [Option.or_eq_some_iff] at taken
  rcases taken with head | ⟨_, head | ⟨_, head | ⟨_, head⟩⟩⟩ <;> exact ⟨_, head⟩

/-- A store changes a setting, no list. -/
theorem SioData.store_fifoList (sd : SioData Rq) (clock : Clock) (tunable : Tunable) (data : U32) :
    (sd.store clock tunable data).fifoList = sd.fifoList := by
  cases tunable <;> rfl

namespace RequestQueue

/-- An expired request is the head of its list. -/
theorem head_of_expiredRequest {q : RequestQueue Rq} {jiffies : Nat} {fifo : Fifo} {rq : Rq}
    (taken : q.expiredRequest jiffies fifo = some rq) :
    (q.sd.fifoList fifo).head? = some rq := by
  unfold expiredRequest at taken
  split at taken
  · cases taken
  · next first _ list =>
      obtain ⟨_, ⟨⟩⟩ := Option.ite_none_right_eq_some.mp taken
      rw [list]
      rfl

/-- The expired request that is chosen is the head of some list. -/
theorem head_of_chooseExpiredRequest {q : RequestQueue Rq} {jiffies : Nat} {rq : Rq}
    (taken : q.chooseExpiredRequest jiffies = some rq) :
    ∃ fifo, (q.sd.fifoList fifo).head? = some rq := by
  unfold chooseExpiredRequest at taken
  simp only [Option.or_eq_some_iff] at taken
  rcases taken with expired | ⟨_, expired | ⟨_, expired | ⟨_, expired⟩⟩⟩ <;>
    exact ⟨_, head_of_expiredRequest expired⟩

variable {q : RequestQueue Rq} {jiffies : Nat} {rq : Rq}

/-- Looking for an expired request changes the batch counter only. -/
theorem afterBatch_fst : (q.afterBatch jiffies).1 =
    { q with
      sd := { q.sd with
        batched := if q.sd.batched > q.sd.fifoBatch then 0 else q.sd.batched } } := by
  unfold afterBatch
  split_ifs <;> rfl

@[simp] theorem afterBatch_fifoList : (q.afterBatch jiffies).1.sd.fifoList = q.sd.fifoList := by
  rw [afterBatch_fst]

@[simp] theorem afterBatch_rqFifoTime : (q.afterBatch jiffies).1.rqFifoTime = q.rqFifoTime := by
  rw [afterBatch_fst]

@[simp] theorem afterBatch_dispatched : (q.afterBatch jiffies).1.dispatched = q.dispatched := by
  rw [afterBatch_fst]

/-- There is nothing to dispatch only when all lists are empty. -/
theorem chosen_eq_none_iff : q.chosen jiffies = none ↔ q.sd.Empty := by
  unfold chosen
  rw [Option.or_eq_none_iff, SioData.chooseRequest_eq_none_iff, SioData.Empty, afterBatch_fifoList]
  constructor
  · exact And.right
  · intro empty
    refine ⟨?_, empty⟩
    unfold afterBatch
    split_ifs
    · rw [← Option.not_isSome_iff_eq_none]
      intro found
      obtain ⟨fifo, head⟩ := head_of_chooseExpiredRequest (Option.some_get found).symm
      rw [show _ = [] from empty fifo] at head
      cases head
    · rfl

/-- The request that is dispatched is the head of some list. -/
theorem head_of_chosen (taken : q.chosen jiffies = some rq) :
    ∃ fifo, (q.sd.fifoList fifo).head? = some rq := by
  unfold chosen at taken
  rcases Option.or_eq_some_iff.mp taken with expired | ⟨_, next⟩
  · unfold afterBatch at expired
    split_ifs at expired
    exact head_of_chooseExpiredRequest expired
  · obtain ⟨fifo, head⟩ := SioData.head_of_chooseRequest next
    rw [afterBatch_fifoList] at head
    exact ⟨fifo, head⟩

/-- A request that is chosen is queued. -/
theorem mem_of_chosen (taken : q.chosen jiffies = some rq) : ∃ fifo, rq ∈ q.sd.fifoList fifo := by
  obtain ⟨fifo, head⟩ := head_of_chosen taken
  exact ⟨fifo, List.mem_of_mem_head? head⟩

variable [DecidableEq Rq] {flags : RqFlags Rq}

theorem dispatchRequests_of_none (nothing : q.chosen jiffies = none) :
    q.dispatchRequests flags jiffies = (0, (q.afterBatch jiffies).1) := by
  unfold dispatchRequests
  rw [nothing]

theorem dispatchRequests_of_some (taken : q.chosen jiffies = some rq) :
    q.dispatchRequests flags jiffies = (1, (q.afterBatch jiffies).1.dispatchRequest flags rq) := by
  unfold dispatchRequests
  rw [taken]

/-- **Nothing is dispatched exactly when nothing is queued.** -/
theorem dispatchRequests_eq_zero_iff : (q.dispatchRequests flags jiffies).1 = 0 ↔ q.sd.Empty := by
  rw [show q.sd.Empty ↔ q.chosen jiffies = none from chosen_eq_none_iff.symm]
  cases taken : q.chosen jiffies with
  | none => simp [dispatchRequests_of_none taken]
  | some rq => simp [dispatchRequests_of_some taken]

@[simp] theorem dispatchRequest_fifoList :
    (q.dispatchRequest flags rq).sd.fifoList = unlink q.sd.fifoList rq := rfl

@[simp] theorem dispatchRequest_dispatched :
    (q.dispatchRequest flags rq).dispatched = q.dispatched ++ [rq] := rfl

@[simp] theorem dispatchRequest_rqFifoTime :
    (q.dispatchRequest flags rq).rqFifoTime = q.rqFifoTime := rfl

/-- A merge permutes the lists and unlinks the request that is merged away. -/
theorem mergedRequests_perm {next : Rq} (homed : Homed flags.fifo q.sd.fifoList)
    (different : rq ≠ next) (same : flags.fifo rq = flags.fifo next)
    (queued : q.Queued flags rq) (queuedNext : q.Queued flags next) (fifo : Fifo) :
    ((q.mergedRequests flags rq next).sd.fifoList fifo).Perm (unlink q.sd.fifoList next fifo) := by
  unfold mergedRequests
  split_ifs
  · have target : next ∈ q.sd.fifoList (flags.fifo rq) := by
      rw [same]
      exact queuedNext
    exact (moveAfter_perm homed queued target different fifo).erase next
  · exact .refl _

/-- A merge changes the lists, no counter. -/
theorem mergedRequests_counters (q : RequestQueue Rq) (flags : RqFlags Rq) (rq next : Rq) :
    (q.mergedRequests flags rq next).sd =
      { q.sd with fifoList := (q.mergedRequests flags rq next).sd.fifoList } := by
  unfold mergedRequests
  split_ifs <;> rfl

@[simp] theorem mergedRequests_dispatched {next : Rq} :
    (q.mergedRequests flags rq next).dispatched = q.dispatched := by
  unfold mergedRequests
  split_ifs <;> rfl

@[simp] theorem dispatchRequests_fifoExpire :
    (q.dispatchRequests flags jiffies).2.sd.fifoExpire = q.sd.fifoExpire := by
  cases taken : q.chosen jiffies with
  | none => rw [dispatchRequests_of_none taken, afterBatch_fst]
  | some rq =>
      rw [dispatchRequests_of_some taken, afterBatch_fst]
      rfl

/-- The number of queued requests. -/
def length (q : RequestQueue Rq) : Nat :=
  (q.sd.fifoList (.SYNC, .READ)).length + (q.sd.fifoList (.SYNC, .WRITE)).length +
    (q.sd.fifoList (.ASYNC, .READ)).length + (q.sd.fifoList (.ASYNC, .WRITE)).length

/-- A call that dispatches something leaves fewer requests in the queue. -/
theorem length_dispatchRequests_lt (more : (q.dispatchRequests flags jiffies).1 ≠ 0) :
    (q.dispatchRequests flags jiffies).2.length < q.length := by
  obtain ⟨rq, taken⟩ := Option.ne_none_iff_exists'.mp fun nothing =>
    more (dispatchRequests_eq_zero_iff.mpr (chosen_eq_none_iff.mp nothing))
  rw [dispatchRequests_of_some taken]
  obtain ⟨fifo, member⟩ := mem_of_chosen taken
  have shorter := List.length_erase_of_mem member
  have nonempty := List.length_pos_of_mem member
  have others (other : Fifo) :
      ((q.sd.fifoList other).erase rq).length ≤ (q.sd.fifoList other).length :=
    List.erase_sublist.length_le
  have syncRead := others (.SYNC, .READ)
  have syncWrite := others (.SYNC, .WRITE)
  have asyncRead := others (.ASYNC, .READ)
  have asyncWrite := others (.ASYNC, .WRITE)
  simp only [length, dispatchRequest_fifoList, unlink, afterBatch_fifoList]
  obtain ⟨_ | _, _ | _⟩ := fifo <;> omega

/-- Call `sio_dispatch_requests` until it returns 0; `ticks` are the values of
`jiffies` that the calls read. -/
def drain (flags : RqFlags Rq) (ticks : Nat → Nat) (call : Nat) (q : RequestQueue Rq) :
    RequestQueue Rq :=
  if (q.dispatchRequests flags (ticks call)).1 = 0 then (q.dispatchRequests flags (ticks call)).2
  else drain flags ticks (call + 1) (q.dispatchRequests flags (ticks call)).2
termination_by q.length
decreasing_by exact length_dispatchRequests_lt ‹_›

/-- What draining the queue leads to, from a queue without duplicates. -/
structure Drained (q last : RequestQueue Rq) (order : List Rq) : Prop where
  empty : last.sd.Empty
  dispatched : last.dispatched = q.dispatched ++ order
  distinct : order.Nodup
  mem_iff (rq : Rq) : rq ∈ order ↔ ∃ fifo, rq ∈ q.sd.fifoList fifo

/-- **Draining dispatches every queued request once.** -/
theorem exists_drained (homed : Homed flags.fifo q.sd.fifoList) (ticks : Nat → Nat) (call : Nat) :
    ∃ order, q.Drained (drain flags ticks call q) order := by
  induction call, q using drain.induct flags ticks with
  | case1 call q nothing =>
      have empty := dispatchRequests_eq_zero_iff.mp nothing
      rw [drain, if_pos nothing, dispatchRequests_of_none (chosen_eq_none_iff.mpr empty)]
      refine ⟨[], ?_, ?_, List.nodup_nil, ?_⟩
      · simpa [SioData.Empty] using empty
      · simp
      · intro rq
        simp [show ∀ fifo, q.sd.fifoList fifo = [] from empty]
  | case2 call q more ih =>
      obtain ⟨rq, taken⟩ := Option.ne_none_iff_exists'.mp fun nothing =>
        more (dispatchRequests_eq_zero_iff.mpr (chosen_eq_none_iff.mp nothing))
      obtain ⟨fifo, present⟩ := mem_of_chosen taken
      rw [drain, if_neg more]
      rw [dispatchRequests_of_some taken] at ih ⊢
      have rest : Homed flags.fifo (unlink q.sd.fifoList rq) := homed.unlink rq
      obtain ⟨order, later⟩ := ih (by simpa using rest)
      have remaining (entry : Rq) :
          entry ∈ order ↔ entry ≠ rq ∧ ∃ fifo, entry ∈ q.sd.fifoList fifo := by
        rw [later.mem_iff]
        simp only [dispatchRequest_fifoList, afterBatch_fifoList, unlink,
          (homed.distinct _).mem_erase_iff, exists_and_left]
      refine ⟨rq :: order, later.empty, ?_, ?_, ?_⟩
      · simp [later.dispatched]
      · exact List.nodup_cons.mpr ⟨fun again => ((remaining rq).mp again).1 rfl, later.distinct⟩
      · intro entry
        rw [List.mem_cons, remaining]
        by_cases first : entry = rq
        · subst first
          simp only [true_or, true_iff]
          exact ⟨fifo, present⟩
        · simp only [first, false_or, ne_eq, not_false_eq_true, true_and]

end RequestQueue

/-! ## Runs -/

/-- The queue and its history: the requests that were added and those that were
merged into another one, the last value of `jiffies` that was read, and how many
reads were dispatched while a write was queued since the last write. -/
structure Run (Rq : Type*) where
  queue : RequestQueue Rq
  added : List Rq
  merged : List Rq
  now : Nat
  waiting : Nat

/-- The elevator's operations. -/
inductive Action (Rq : Type*) where
  | addRequest (rq : Rq) (jiffies : Nat)
  | mergedRequests (rq next : Rq)
  | dispatchRequests (jiffies : Nat)
  | store (tunable : Tunable) (data : U32)
deriving Repr

/-- Some write is queued. -/
def SioData.WriteQueued (sd : SioData Rq) : Prop :=
  sd.fifoList (.SYNC, .WRITE) ≠ [] ∨ sd.fifoList (.ASYNC, .WRITE) ≠ []

instance (sd : SioData Rq) [DecidableEq Rq] : Decidable sd.WriteQueued :=
  inferInstanceAs (Decidable (_ ∨ _))

namespace Run

variable [DecidableEq Rq]

/-- A queue whose elevator has just been set up. -/
def init (sd : SioData Rq) (rqFifoTime : Rq → Nat) (now : Nat) : Run Rq :=
  ⟨⟨sd, rqFifoTime, []⟩, [], [], now, 0⟩

/-- The reads that writes have waited for once the request is dispatched. -/
def waitingAfter (run : Run Rq) (flags : RqFlags Rq) (rq : Rq) : Nat :=
  if flags.rqDataDir rq = .WRITE then 0
  else if run.queue.sd.WriteQueued then run.waiting + 1
  else run.waiting

/-- One operation. A request is added once, and requests are merged when both
are queued in the same list. -/
def step (clock : Clock) (flags : RqFlags Rq) (run : Run Rq) : Action Rq → Option (Run Rq)
  | .addRequest rq jiffies =>
      if rq ∉ run.added then
        some { run with
          queue := run.queue.addRequest flags rq jiffies
          added := run.added ++ [rq]
          now := jiffies }
      else none
  | .mergedRequests rq next =>
      if rq ≠ next ∧ flags.fifo rq = flags.fifo next ∧ run.queue.Queued flags rq ∧
          run.queue.Queued flags next then
        some { run with
          queue := run.queue.mergedRequests flags rq next
          merged := run.merged ++ [next] }
      else none
  | .dispatchRequests jiffies =>
      some { run with
        queue := (run.queue.dispatchRequests flags jiffies).2
        now := jiffies
        waiting := ((run.queue.chosen jiffies).map (run.waitingAfter flags)).getD run.waiting }
  | .store tunable data =>
      some { run with
        queue := { run.queue with sd := run.queue.sd.store clock tunable data } }

variable {clock : Clock} {flags : RqFlags Rq} {run last : Run Rq}

/-- Every added request is in one place: its own fifo list, the merged requests or
the dispatched ones. -/
structure Partitioned (flags : RqFlags Rq) (run : Run Rq) : Prop where
  homed : Homed flags.fifo run.queue.sd.fifoList
  distinct : run.added.Nodup
  places (rq : Rq) : (run.queue.sd.fifoList (flags.fifo rq)).count rq + run.merged.count rq +
    run.queue.dispatched.count rq = run.added.count rq

/-- Before the first operation nothing has been added, so everything is in its place. -/
theorem Partitioned.init {sd : SioData Rq} (empty : sd.Empty) (rqFifoTime : Rq → Nat)
    (now : Nat) : (Run.init sd rqFifoTime now).Partitioned flags where
  homed := by
    constructor
    · intro fifo
      rw [show (Run.init sd rqFifoTime now).queue.sd.fifoList fifo = [] from empty fifo]
      exact List.nodup_nil
    · intro fifo rq present
      rw [show (Run.init sd rqFifoTime now).queue.sd.fifoList fifo = [] from empty fifo] at present
      cases present
  distinct := List.nodup_nil
  places rq := by
    rw [show (Run.init sd rqFifoTime now).queue.sd.fifoList _ = [] from empty _]
    rfl

/-- A queued request was added. -/
theorem Partitioned.added_of_queued (holds : run.Partitioned flags) {rq : Rq}
    (queued : run.queue.Queued flags rq) : rq ∈ run.added := by
  have once := holds.places rq
  have present := List.count_pos_iff.mpr queued
  exact List.count_pos_iff.mp (by omega)

/-- A request that is added is put in one place. -/
theorem Partitioned.addRequest (holds : run.Partitioned flags) {rq : Rq} (fresh : rq ∉ run.added)
    (jiffies : Nat) :
    Partitioned flags { run with
      queue := run.queue.addRequest flags rq jiffies
      added := run.added ++ [rq]
      now := jiffies } where
  homed := holds.homed.addTail fun queued => fresh (holds.added_of_queued queued)
  distinct := by
    rw [List.nodup_append_comm]
    exact List.nodup_cons.mpr ⟨fresh, holds.distinct⟩
  places entry := by
    have before := holds.places entry
    have appended : (addTail run.queue.sd.fifoList (flags.fifo rq) rq (flags.fifo entry)).count
        entry = (run.queue.sd.fifoList (flags.fifo entry)).count entry + [rq].count entry :=
      count_addTail rq entry
    rw [List.count_append]
    simp only [RequestQueue.addRequest]
    omega

/-- A merge moves a request from its list to the merged ones. -/
theorem Partitioned.mergedRequests (holds : run.Partitioned flags) {rq next : Rq}
    (different : rq ≠ next) (same : flags.fifo rq = flags.fifo next)
    (queued : run.queue.Queued flags rq) (queuedNext : run.queue.Queued flags next) :
    Partitioned flags { run with
      queue := run.queue.mergedRequests flags rq next
      merged := run.merged ++ [next] } := by
  have perm := RequestQueue.mergedRequests_perm holds.homed different same queued queuedNext
  constructor
  · exact (holds.homed.unlink next).of_perm perm
  · exact holds.distinct
  · intro entry
    have before := holds.places entry
    have unlinked := count_unlink_add queuedNext entry
    have moved := (perm (flags.fifo entry)).count_eq entry
    rw [List.count_append]
    simp only [RequestQueue.mergedRequests_dispatched]
    omega

/-- A dispatch moves a request from its list to the dispatched ones. -/
theorem Partitioned.dispatchRequests (holds : run.Partitioned flags) (jiffies waiting : Nat) :
    Partitioned flags { run with
      queue := (run.queue.dispatchRequests flags jiffies).2
      now := jiffies
      waiting := waiting } := by
  cases taken : run.queue.chosen jiffies with
  | none =>
      rw [RequestQueue.dispatchRequests_of_none taken]
      constructor
      · simpa using holds.homed
      · exact holds.distinct
      · simpa using holds.places
  | some rq =>
      rw [RequestQueue.dispatchRequests_of_some taken]
      obtain ⟨fifo, present⟩ := RequestQueue.mem_of_chosen taken
      obtain rfl := holds.homed.atHome present
      constructor
      · simpa using holds.homed.unlink rq
      · exact holds.distinct
      · intro entry
        have before := holds.places entry
        have unlinked := count_unlink_add present entry
        simp only [RequestQueue.dispatchRequest_fifoList, RequestQueue.afterBatch_fifoList,
          RequestQueue.dispatchRequest_dispatched, RequestQueue.afterBatch_dispatched,
          List.count_append]
        omega

/-- Every operation keeps each request in one place. -/
theorem Partitioned.step (holds : run.Partitioned flags) {action : Action Rq}
    (taken : run.step clock flags action = some last) : last.Partitioned flags := by
  cases action with
  | addRequest rq jiffies =>
      obtain ⟨fresh, ⟨⟩⟩ := Option.ite_none_right_eq_some.mp taken
      exact holds.addRequest fresh jiffies
  | mergedRequests rq next =>
      obtain ⟨⟨different, same, queued, queuedNext⟩, ⟨⟩⟩ :=
        Option.ite_none_right_eq_some.mp taken
      exact holds.mergedRequests different same queued queuedNext
  | dispatchRequests jiffies =>
      obtain rfl := Option.some.inj taken
      exact holds.dispatchRequests jiffies _
  | store tunable data =>
      obtain rfl := Option.some.inj taken
      have lists := run.queue.sd.store_fifoList clock tunable data
      exact ⟨lists ▸ holds.homed, holds.distinct, lists ▸ holds.places⟩

theorem Partitioned.exec {actions : List (Action Rq)} (holds : run.Partitioned flags)
    (reached : exec (Run.step clock flags) run actions = some last) : last.Partitioned flags :=
  invariant_of_step (Partitioned flags) (fun _ _ _ holds taken => holds.step taken) holds reached

/-- **The scheduler loses and duplicates nothing.** In every state of a run each
added request is in exactly one place, once; a dispatch returns 0 exactly when
`sio_queue_empty` says so; and calling it until it returns 0 dispatches every
queued request once. -/
theorem requests_partitioned {sd : SioData Rq} (empty : sd.Empty) (rqFifoTime : Rq → Nat)
    (now : Nat) {actions : List (Action Rq)}
    (reached : exec (step clock flags) (init sd rqFifoTime now) actions = some last) :
    (∀ rq ∈ last.added,
      (last.queue.sd.fifoList (flags.fifo rq)).count rq + last.merged.count rq +
          last.queue.dispatched.count rq = 1 ∧
        ∀ fifo, rq ∈ last.queue.sd.fifoList fifo → fifo = flags.fifo rq) ∧
      (∀ jiffies, (last.queue.dispatchRequests flags jiffies).1 = 0 ↔ last.queue.sd.Empty) ∧
      (last.queue.sd.queueEmpty = true ↔ last.queue.sd.Empty) ∧
      ∀ ticks, ∃ order, last.queue.Drained (last.queue.drain flags ticks 0) order := by
  have holds : last.Partitioned flags := (Partitioned.init empty rqFifoTime now).exec reached
  refine ⟨?_, ?_, ?_, ?_⟩
  · intro rq added
    refine ⟨?_, fun fifo present => (holds.homed.atHome present).symm⟩
    rw [holds.places, List.count_eq_one_of_mem holds.distinct added]
  · exact fun jiffies => RequestQueue.dispatchRequests_eq_zero_iff
  · exact SioData.queueEmpty_iff
  · exact fun ticks => RequestQueue.exists_drained holds.homed ticks 0

/-- Numbers as requests: the last two bits tell the list. -/
def numbered : RqFlags Nat where
  rqIsSync rq := if rq % 4 < 2 then .SYNC else .ASYNC
  rqDataDir rq := if rq % 2 = 0 then .READ else .WRITE

/-- A clock that ticks a hundred times a second. -/
def centiseconds : Clock where
  HZ := 100
  msecsToJiffies msecs := (msecs.toNat + 9) / 10

/-- Memory of the elevator with a value where `writes_starved` will be, and zeros. -/
def memory (writesStarved : U32) : SioData Nat :=
  { fifoList := fun _ => []
    batched := 0
    starved := 0
    fifoExpire := fun _ => 0
    fifoBatch := 0
    writesStarved := writesStarved }

/-- Three reads, one of which is merged into an older one, and a write. -/
def mergedReads : List (Action Nat) :=
  [.addRequest 0 5, .addRequest 1 6, .store (.expire (.SYNC, .READ)) 100#32, .addRequest 4 7,
    .mergedRequests 0 4, .addRequest 8 9, .dispatchRequests 20]

/-- The run that merges two reads, and where its requests are. -/
theorem mergedReads_partitioned :
    ∃ last, exec (step centiseconds numbered)
        (init ((memory 0).initialized centiseconds) (fun _ => 0) 0) mergedReads = some last ∧
      (∀ rq ∈ last.added,
        (last.queue.sd.fifoList (numbered.fifo rq)).count rq + last.merged.count rq +
            last.queue.dispatched.count rq = 1 ∧
          ∀ fifo, rq ∈ last.queue.sd.fifoList fifo → fifo = numbered.fifo rq) ∧
      last.queue.dispatched = [0] ∧ last.merged = [4] := by
  refine ⟨_, (Option.some_get (by decide +kernel)).symm, ?_, by decide +kernel, by decide +kernel⟩
  exact (requests_partitioned (fun _ => rfl) (fun _ => 0) 0 (Option.some_get _).symm).1

end Run

end Jordan.Iosched
