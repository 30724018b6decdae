import Jordan.Iosched.SioIosched
import Jordan.Library.Words

/-! # Deadlines of the sio scheduler

With fixed expire times each fifo list is sorted by deadline, because a request
is added at the tail with the latest deadline, and one that takes over an earlier
deadline in a merge takes over the place as well. So `sio_expired_request` may
look at the head only (`Jordan.Iosched.Run.deadlines_sorted`). The deadlines are
compared as 32-bit words, which is their order as long as they are within half
the range of `jiffies`.
-/

namespace Jordan.Iosched

open Execution NodeLists

/-- `time_before` is the order of times less than half the range apart. -/
theorem timeBefore_iff {a b : Nat} (near : a < b + 2 ^ 31) (near' : b < a + 2 ^ 31) :
    timeBefore a b = true ↔ a < b :=
  Words.sub_slt_zero_iff (by decide) near near'

variable {Rq : Type*}

/-- The expire times stay as they are. -/
def Steady : Action Rq → Prop
  | .store (.expire _) _ => False
  | _ => True

instance : DecidablePred (Steady : Action Rq → Prop)
  | .store (.expire _) _ => inferInstanceAs (Decidable False)
  | .store .fifoBatch _ => inferInstanceAs (Decidable True)
  | .store .writesStarved _ => inferInstanceAs (Decidable True)
  | .addRequest _ _ => inferInstanceAs (Decidable True)
  | .mergedRequests _ _ => inferInstanceAs (Decidable True)
  | .dispatchRequests _ => inferInstanceAs (Decidable True)

/-- The value of `jiffies` during an operation; the operations that do not read
it take no time. -/
def Action.jiffies (now : Nat) : Action Rq → Nat
  | .addRequest _ jiffies => jiffies
  | .dispatchRequests jiffies => jiffies
  | .mergedRequests _ _ => now
  | .store _ _ => now

namespace RequestQueue

/-- The deadlines of a list, from head to tail. -/
def deadlines (q : RequestQueue Rq) (fifo : Fifo) : List Nat :=
  (q.sd.fifoList fifo).map q.rqFifoTime

/-- The deadlines of all queued requests. -/
def live (q : RequestQueue Rq) : List Nat :=
  q.deadlines (.SYNC, .READ) ++ q.deadlines (.SYNC, .WRITE) ++
    q.deadlines (.ASYNC, .READ) ++ q.deadlines (.ASYNC, .WRITE)

/-- The live deadlines are within half the range of each other and of `jiffies`. -/
def Comparable (q : RequestQueue Rq) (jiffies : Nat) : Prop :=
  ∀ time ∈ q.live, (∀ other ∈ q.live, time < other + 2 ^ 31) ∧
    time < jiffies + 2 ^ 31 ∧ jiffies < time + 2 ^ 31

instance (q : RequestQueue Rq) (jiffies : Nat) : Decidable (q.Comparable jiffies) :=
  inferInstanceAs (Decidable (∀ time ∈ q.live, _))

theorem mem_live {q : RequestQueue Rq} {fifo : Fifo} {rq : Rq} (queued : rq ∈ q.sd.fifoList fifo) :
    q.rqFifoTime rq ∈ q.live := by
  have listed : q.rqFifoTime rq ∈ q.deadlines fifo := List.mem_map_of_mem queued
  unfold live
  obtain ⟨_ | _, _ | _⟩ := fifo <;> simp only [List.mem_append] <;> tauto

/-- In a sorted list only the head needs to be compared with `jiffies`. -/
theorem expiredRequest_isSome_iff {q : RequestQueue Rq} {fifo : Fifo}
    (sorted : (q.deadlines fifo).Pairwise (· ≤ ·)) {jiffies : Nat}
    (comparable : q.Comparable jiffies) :
    (q.expiredRequest jiffies fifo).isSome ↔
      ∃ rq ∈ q.sd.fifoList fifo, timeAfter jiffies (q.rqFifoTime rq) = true := by
  have expired {rq : Rq} (queued : rq ∈ q.sd.fifoList fifo) :
      timeAfter jiffies (q.rqFifoTime rq) = true ↔ q.rqFifoTime rq < jiffies := by
    obtain ⟨_, ahead, behind⟩ := comparable _ (mem_live queued)
    exact timeBefore_iff ahead behind
  unfold expiredRequest deadlines at *
  cases list : q.sd.fifoList fifo with
  | nil => simp
  | cons head rest =>
      rw [list] at expired sorted
      simp only [Option.isSome_ite]
      constructor
      · exact fun first => ⟨head, List.mem_cons_self, first⟩
      · rintro ⟨rq, queued, later⟩
        apply (expired List.mem_cons_self).mpr
        have late := (expired queued).mp later
        rcases List.mem_cons.mp queued with rfl | queued
        · exact late
        · exact Nat.lt_of_le_of_lt
            (List.rel_of_pairwise_cons sorted (List.mem_map_of_mem queued)) late

variable [DecidableEq Rq] {flags : RqFlags Rq} {q : RequestQueue Rq}

/-- A merge leaves a sublist of the deadlines: a request that takes over the
deadline of the other one takes over its place. -/
theorem deadlines_mergedRequests (homed : Homed flags.fifo q.sd.fifoList) {rq next : Rq}
    (different : rq ≠ next) (same : flags.fifo rq = flags.fifo next)
    (queued : q.Queued flags rq) (queuedNext : q.Queued flags next) (fifo : Fifo) :
    ((q.mergedRequests flags rq next).deadlines fifo).Sublist (q.deadlines fifo) := by
  unfold mergedRequests
  split_ifs
  · have target : next ∈ q.sd.fifoList (flags.fifo rq) := by
      rw [same]
      exact queuedNext
    exact map_unlink_moveAfter homed queued target different q.rqFifoTime fifo
  · exact List.erase_sublist.map _

/-- The request that survives a merge carries the earlier deadline. -/
theorem rqFifoTime_mergedRequests {rq next : Rq} (queued : q.Queued flags rq)
    (queuedNext : q.Queued flags next) {now : Nat} (comparable : q.Comparable now) :
    (q.mergedRequests flags rq next).rqFifoTime rq = min (q.rqFifoTime rq) (q.rqFifoTime next) := by
  have listed := mem_live queued
  have listedNext := mem_live queuedNext
  have before : timeBefore (q.rqFifoTime next) (q.rqFifoTime rq) = true ↔
      q.rqFifoTime next < q.rqFifoTime rq :=
    timeBefore_iff ((comparable _ listedNext).1 _ listed) ((comparable _ listed).1 _ listedNext)
  unfold mergedRequests
  by_cases earlier : q.rqFifoTime next < q.rqFifoTime rq
  · rw [if_pos ⟨queued, queuedNext, before.mpr earlier⟩]
    exact (Function.update_self ..).trans (Nat.min_eq_right earlier.le).symm
  · rw [if_neg fun moved => earlier (before.mp moved.2.2)]
    exact (Nat.min_eq_left (Nat.le_of_not_lt earlier)).symm

/-- A dispatch leaves a sublist of the deadlines. -/
theorem deadlines_dispatchRequests {jiffies : Nat} (fifo : Fifo) :
    ((q.dispatchRequests flags jiffies).2.deadlines fifo).Sublist (q.deadlines fifo) := by
  unfold deadlines
  cases taken : q.chosen jiffies with
  | none =>
      rw [dispatchRequests_of_none taken, afterBatch_fifoList, afterBatch_rqFifoTime]
  | some rq =>
      rw [dispatchRequests_of_some taken]
      simp only [dispatchRequest_fifoList, dispatchRequest_rqFifoTime, afterBatch_fifoList,
        afterBatch_rqFifoTime]
      exact List.erase_sublist.map _

/-- A new request has the last deadline of its list; the others keep theirs. -/
theorem deadlines_addRequest {rq : Rq} (fresh : ∀ fifo, rq ∉ q.sd.fifoList fifo) (jiffies : Nat)
    (fifo : Fifo) :
    (q.addRequest flags rq jiffies).deadlines fifo =
      if fifo = flags.fifo rq then q.deadlines fifo ++ [jiffies + q.sd.fifoExpire fifo]
      else q.deadlines fifo := by
  have others : (q.sd.fifoList fifo).map (q.addRequest flags rq jiffies).rqFifoTime =
      q.deadlines fifo := by
    apply List.map_congr_left
    intro entry queued
    have another : entry ≠ rq := by
      intro same
      subst same
      exact fresh fifo queued
    exact Function.update_of_ne another ..
  by_cases here : fifo = flags.fifo rq
  · subst here
    rw [if_pos rfl, ← others]
    simp [deadlines, addRequest]
  · rw [if_neg here, ← others]
    simp [deadlines, addRequest, here]

end RequestQueue

namespace Run

variable {clock : Clock} {flags : RqFlags Rq} {run last : Run Rq}

/-- The clock does not go back, and the deadlines can be compared. -/
def Timely (run : Run Rq) (action : Action Rq) : Prop :=
  run.now ≤ action.jiffies run.now ∧ run.queue.Comparable (action.jiffies run.now)

instance (run : Run Rq) (action : Action Rq) : Decidable (run.Timely action) :=
  inferInstanceAs (Decidable (_ ∧ _))

/-- The lists are sorted, and no deadline is later than the one a request would
get now. -/
structure Sorted (run : Run Rq) : Prop where
  sorted (fifo : Fifo) : (run.queue.deadlines fifo).Pairwise (· ≤ ·)
  due (fifo : Fifo) : ∀ time ∈ run.queue.deadlines fifo,
    time ≤ run.now + run.queue.sd.fifoExpire fifo

/-- Operations that leave a sublist of each list's deadlines keep them sorted. -/
theorem Sorted.of_sublist (holds : run.Sorted) (later : run.now ≤ last.now)
    (expire : last.queue.sd.fifoExpire = run.queue.sd.fifoExpire)
    (sub : ∀ fifo, (last.queue.deadlines fifo).Sublist (run.queue.deadlines fifo)) :
    last.Sorted where
  sorted fifo := (holds.sorted fifo).sublist (sub fifo)
  due fifo time listed := by
    have due := holds.due fifo time ((sub fifo).subset listed)
    rw [expire]
    omega

variable [DecidableEq Rq]

/-- A request that is added gets the last deadline of its list. -/
theorem Sorted.addRequest (holds : run.Sorted) {rq : Rq}
    (fresh : ∀ fifo, rq ∉ run.queue.sd.fifoList fifo) {jiffies : Nat}
    (later : run.now ≤ jiffies) :
    Sorted { run with
      queue := run.queue.addRequest flags rq jiffies
      added := run.added ++ [rq]
      now := jiffies } := by
  have lists (fifo : Fifo) : (run.queue.addRequest flags rq jiffies).deadlines fifo = _ :=
    RequestQueue.deadlines_addRequest fresh jiffies fifo
  constructor
  · intro fifo
    rw [lists fifo]
    split_ifs
    · rw [List.pairwise_append]
      refine ⟨holds.sorted fifo, List.pairwise_singleton .., ?_⟩
      intro time listed new added
      have due := holds.due fifo time listed
      rw [List.mem_singleton.mp added]
      omega
    · exact holds.sorted fifo
  · intro fifo time listed
    rw [lists fifo] at listed
    have due := holds.due fifo time
    change time ≤ jiffies + run.queue.sd.fifoExpire fifo
    split_ifs at listed
    · rcases List.mem_append.mp listed with older | newest
      · have := due older
        omega
      · rw [List.mem_singleton.mp newest]
    · have := due listed
      omega

theorem Sorted.step (holds : run.Sorted) (partitioned : run.Partitioned flags)
    {action : Action Rq} (steady : Steady action) (timely : run.Timely action)
    (taken : run.step clock flags action = some last) : last.Sorted := by
  cases action with
  | addRequest rq jiffies =>
      obtain ⟨fresh, ⟨⟩⟩ := Option.ite_none_right_eq_some.mp taken
      refine holds.addRequest (fun fifo queued => fresh ?_) timely.1
      apply partitioned.added_of_queued
      obtain rfl := partitioned.homed.atHome queued
      exact queued
  | mergedRequests rq next =>
      obtain ⟨⟨different, same, queued, queuedNext⟩, ⟨⟩⟩ :=
        Option.ite_none_right_eq_some.mp taken
      refine holds.of_sublist (Nat.le_refl _) ?_
        (RequestQueue.deadlines_mergedRequests partitioned.homed different same queued queuedNext)
      rw [RequestQueue.mergedRequests_counters]
  | dispatchRequests jiffies =>
      obtain rfl := Option.some.inj taken
      refine holds.of_sublist timely.1 ?_ RequestQueue.deadlines_dispatchRequests
      exact RequestQueue.dispatchRequests_fifoExpire
  | store tunable data =>
      obtain rfl := Option.some.inj taken
      cases tunable with
      | expire fifo => exact steady.elim
      | fifoBatch => exact holds.of_sublist (Nat.le_refl _) rfl fun _ => .refl _
      | writesStarved => exact holds.of_sublist (Nat.le_refl _) rfl fun _ => .refl _

/-- The request that survives a merge carries the earlier of the two deadlines. -/
def CarriesEarlier (before : Run Rq) (action : Action Rq) (after : Run Rq) : Prop :=
  ∀ rq next, action = .mergedRequests rq next →
    after.queue.rqFifoTime rq = min (before.queue.rqFifoTime rq) (before.queue.rqFifoTime next)

theorem carriesEarlier_of_step {action : Action Rq} (timely : run.Timely action)
    (taken : run.step clock flags action = some last) : CarriesEarlier run action last := by
  rintro rq next rfl
  obtain ⟨⟨_, _, queued, queuedNext⟩, ⟨⟩⟩ := Option.ite_none_right_eq_some.mp taken
  exact RequestQueue.rqFifoTime_mergedRequests queued queuedNext timely.2

/-- **The lists are sorted by deadline.** With fixed expire times, a clock that
does not go back and deadlines that can be compared, every merge keeps the earlier
deadline, every list stays sorted, and `sio_expired_request` finds an expired
request of the list whenever there is one. -/
theorem deadlines_sorted {sd : SioData Rq} (empty : sd.Empty) (rqFifoTime : Rq → Nat) (now : Nat)
    {actions : List (Action Rq)} (steady : ∀ action ∈ actions, Steady action)
    (timely : Guarded (step clock flags) Timely (init sd rqFifoTime now) actions)
    (reached : exec (step clock flags) (init sd rqFifoTime now) actions = some last) :
    Along (step clock flags) CarriesEarlier (init sd rqFifoTime now) actions ∧
      (∀ fifo, (last.queue.deadlines fifo).Pairwise (· ≤ ·)) ∧
      ∀ fifo jiffies, last.queue.Comparable jiffies →
        ((last.queue.expiredRequest jiffies fifo).isSome ↔
          ∃ rq ∈ last.queue.sd.fifoList fifo, timeAfter jiffies (last.queue.rqFifoTime rq) = true)
    := by
  have guarded := (guarded_of_mem steady _).and timely
  have nothing (fifo : Fifo) : (init sd rqFifoTime now).queue.deadlines fifo = [] :=
    List.map_eq_nil_iff.mpr (empty fifo)
  have initially : (init sd rqFifoTime now).Sorted := by
    constructor <;> intro fifo <;> rw [nothing fifo]
    · exact .nil
    · exact fun time listed => absurd listed List.not_mem_nil
  have kept : last.Partitioned flags ∧ last.Sorted := by
    refine invariant (fun run => run.Partitioned flags ∧ run.Sorted) ?_
      ⟨Partitioned.init empty rqFifoTime now, initially⟩ guarded reached
    rintro before action after ⟨partitioned, sorted⟩ ⟨unchanged, timed⟩ taken
    exact ⟨partitioned.step taken, sorted.step partitioned unchanged timed taken⟩
  refine ⟨?_, kept.2.sorted, ?_⟩
  · have each (before : Run Rq) (action : Action Rq) (after : Run Rq) (_ : True)
        (timed : before.Timely action) (taken : before.step clock flags action = some after) :
        True ∧ CarriesEarlier before action after :=
      ⟨trivial, carriesEarlier_of_step timed taken⟩
    exact along_of_invariant (fun _ => True) each trivial timely
  · exact fun fifo jiffies => RequestQueue.expiredRequest_isSome_iff (kept.2.sorted fifo)

/-- A write with a far deadline, two reads around the end of the 32-bit range of
`jiffies`, a merge of the older one into the newer one, and a dispatch. -/
def aroundTheEnd : List (Action Nat) :=
  [.addRequest 1 (2 ^ 32 - 60), .addRequest 0 (2 ^ 32 - 51), .addRequest 4 (2 ^ 32 - 40),
    .mergedRequests 4 0, .dispatchRequests (2 ^ 32)]

theorem aroundTheEnd_sorted :
    ∃ last, exec (step centiseconds numbered)
        (init ((memory 0).initialized centiseconds) (fun _ => 0) (2 ^ 32 - 61)) aroundTheEnd =
          some last ∧
      Along (step centiseconds numbered) CarriesEarlier
        (init ((memory 0).initialized centiseconds) (fun _ => 0) (2 ^ 32 - 61)) aroundTheEnd ∧
      (∀ fifo, (last.queue.deadlines fifo).Pairwise (· ≤ ·)) ∧
      ∀ fifo jiffies, last.queue.Comparable jiffies →
        ((last.queue.expiredRequest jiffies fifo).isSome ↔
          ∃ rq ∈ last.queue.sd.fifoList fifo,
            timeAfter jiffies (last.queue.rqFifoTime rq) = true) := by
  refine ⟨_, (Option.some_get (by decide +kernel)).symm, ?_⟩
  have steady : ∀ action ∈ aroundTheEnd, Steady action := by decide +kernel
  have timely : Guarded (step centiseconds numbered) Timely
      (init ((memory 0).initialized centiseconds) (fun _ => 0) (2 ^ 32 - 61)) aroundTheEnd := by
    decide +kernel
  exact deadlines_sorted (fun _ => rfl) (fun _ => 0) (2 ^ 32 - 61) steady timely
    (Option.some_get _).symm

end Run

end Jordan.Iosched
