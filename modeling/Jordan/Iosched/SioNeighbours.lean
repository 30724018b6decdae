import Jordan.Iosched.SioDeadlines
import Jordan.Library.Neighbours

/-! # Neighbours of a request

The block layer asks the elevator for the request before or behind a request, and merges the
two when their sectors adjoin. `sio_former_request` and `sio_latter_request` look at the
fifo list of the request: they are inverse, and stay within one list
(`Jordan.Iosched.Run.neighbours_inverse`). As the lists are sorted by deadline, such a merge
moves nothing: the request behind is taken out of the list
(`Jordan.Iosched.Run.neighbours_merge`).
-/

namespace Jordan.Iosched

open Execution NodeLists Neighbours

variable {Rq : Type*} [DecidableEq Rq]

namespace RequestQueue

/-- `sio_former_request`, of a queued request -/
def formerRequest (q : RequestQueue Rq) (flags : RqFlags Rq) (rq : Rq) : Option Rq :=
  previous rq (q.sd.fifoList (flags.fifo rq))

/-- `sio_latter_request`, of a queued request -/
def latterRequest (q : RequestQueue Rq) (flags : RqFlags Rq) (rq : Rq) : Option Rq :=
  following rq (q.sd.fifoList (flags.fifo rq))

variable {q : RequestQueue Rq} {flags : RqFlags Rq} {rq next : Rq}

/-- Where a request and the one behind it are. -/
theorem latterRequest_eq_some_iff (homed : Homed flags.fifo q.sd.fifoList) :
    q.latterRequest flags rq = some next ↔
      ∃ left right, q.sd.fifoList (flags.fifo rq) = left ++ rq :: next :: right :=
  following_eq_some_iff (homed.distinct _)

/-- The request behind another one is in the same list. -/
theorem fifo_of_latterRequest (homed : Homed flags.fifo q.sd.fifoList)
    (behind : q.latterRequest flags rq = some next) : flags.fifo next = flags.fifo rq := by
  obtain ⟨left, right, split⟩ := (latterRequest_eq_some_iff homed).mp behind
  have member : next ∈ q.sd.fifoList (flags.fifo rq) := by
    rw [split]
    exact List.mem_append_right left (List.mem_cons_of_mem rq List.mem_cons_self)
  exact homed.atHome member

/-- Both are queued, and they are different. -/
theorem queued_of_latterRequest (homed : Homed flags.fifo q.sd.fifoList)
    (behind : q.latterRequest flags rq = some next) :
    rq ≠ next ∧ q.Queued flags rq ∧ q.Queued flags next := by
  have same := fifo_of_latterRequest homed behind
  obtain ⟨left, right, split⟩ := (latterRequest_eq_some_iff homed).mp behind
  have distinct := homed.distinct (flags.fifo rq)
  rw [split] at distinct
  have later := (List.nodup_append.mp distinct).2.1
  refine ⟨?_, ?_, ?_⟩
  · rintro rfl
    exact (List.nodup_cons.mp later).1 List.mem_cons_self
  · unfold Queued
    rw [split]
    exact List.mem_append_right left List.mem_cons_self
  · unfold Queued
    rw [same, split]
    exact List.mem_append_right left (List.mem_cons_of_mem rq List.mem_cons_self)

/-- A request is the former one of the next exactly if the next is its latter one. -/
theorem formerRequest_iff_latterRequest (homed : Homed flags.fifo q.sd.fifoList) :
    q.formerRequest flags next = some rq ↔ q.latterRequest flags rq = some next := by
  have inverse (fifo : Fifo) : previous next (q.sd.fifoList fifo) = some rq ↔
      following rq (q.sd.fifoList fifo) = some next :=
    previous_iff_following (homed.distinct fifo)
  constructor
  · intro before
    have behind := (inverse _).mp before
    obtain ⟨left, right, split⟩ := (following_eq_some_iff (homed.distinct _)).mp behind
    have member : rq ∈ q.sd.fifoList (flags.fifo next) := by
      rw [split]
      exact List.mem_append_right left List.mem_cons_self
    have same : flags.fifo rq = flags.fifo next := homed.atHome member
    unfold latterRequest
    rw [same]
    exact behind
  · intro behind
    unfold formerRequest
    rw [fifo_of_latterRequest homed behind]
    exact (inverse _).mpr behind

/-- The request behind another one in a sorted list has no earlier deadline. -/
theorem rqFifoTime_le_of_latterRequest (homed : Homed flags.fifo q.sd.fifoList)
    (sorted : (q.deadlines (flags.fifo rq)).Pairwise (· ≤ ·))
    (behind : q.latterRequest flags rq = some next) : q.rqFifoTime rq ≤ q.rqFifoTime next := by
  obtain ⟨left, right, split⟩ := (latterRequest_eq_some_iff homed).mp behind
  unfold deadlines at sorted
  rw [split, List.map_append, List.map_cons, List.map_cons] at sorted
  exact List.rel_of_pairwise_cons (List.pairwise_append.mp sorted).2.1 List.mem_cons_self

/-- A merge with the request behind takes that one out, and moves nothing. -/
theorem mergedRequests_latterRequest (homed : Homed flags.fifo q.sd.fifoList)
    (sorted : (q.deadlines (flags.fifo rq)).Pairwise (· ≤ ·)) {now : Nat}
    (comparable : q.Comparable now) (behind : q.latterRequest flags rq = some next) :
    q.mergedRequests flags rq next = q.rqFifoClear next := by
  obtain ⟨_, queued, queuedNext⟩ := queued_of_latterRequest homed behind
  have listed := mem_live queued
  have listedNext := mem_live queuedNext
  have before := timeBefore_iff ((comparable _ listedNext).1 _ listed)
    ((comparable _ listed).1 _ listedNext)
  have later := rqFifoTime_le_of_latterRequest homed sorted behind
  have inOrder : ¬ (q.Queued flags rq ∧ q.Queued flags next ∧
      timeBefore (q.rqFifoTime next) (q.rqFifoTime rq) = true) := fun moved =>
    absurd (before.mp moved.2.2) (Nat.not_lt.mpr later)
  simp only [mergedRequests, inOrder, ↓reduceIte]

/-- When the request behind is taken out, the one behind that one follows. -/
theorem latterRequest_rqFifoClear (homed : Homed flags.fifo q.sd.fifoList)
    (behind : q.latterRequest flags rq = some next) :
    (q.rqFifoClear next).latterRequest flags rq = q.latterRequest flags next := by
  have same := fifo_of_latterRequest homed behind
  unfold latterRequest
  rw [same]
  exact following_erase (homed.distinct _) behind

end RequestQueue

namespace Run

variable {clock : Clock} {flags : RqFlags Rq} {run last : Run Rq}

theorem partitioned_of_reached {sd : SioData Rq} (empty : sd.Empty) (rqFifoTime : Rq → Nat)
    (now : Nat) {actions : List (Action Rq)}
    (reached : exec (step clock flags) (init sd rqFifoTime now) actions = some last) :
    last.Partitioned flags :=
  invariant_of_step (fun run => run.Partitioned flags) (fun _ _ _ holds taken => holds.step taken)
    (Partitioned.init empty rqFifoTime now) reached

theorem sorted_of_reached {sd : SioData Rq} (empty : sd.Empty) (rqFifoTime : Rq → Nat)
    (now : Nat) {actions : List (Action Rq)} (steady : ∀ action ∈ actions, Steady action)
    (timely : Guarded (step clock flags) Timely (init sd rqFifoTime now) actions)
    (reached : exec (step clock flags) (init sd rqFifoTime now) actions = some last) :
    last.Partitioned flags ∧ last.Sorted := by
  have guarded := (guarded_of_mem steady _).and timely
  have nothing (fifo : Fifo) : (init sd rqFifoTime now).queue.deadlines fifo = [] :=
    List.map_eq_nil_iff.mpr (empty fifo)
  have initially : (init sd rqFifoTime now).Sorted := by
    constructor
    · intro fifo
      rw [nothing fifo]
      exact .nil
    · intro fifo
      rw [nothing fifo]
      exact fun time listed => absurd listed List.not_mem_nil
  refine invariant (fun run => run.Partitioned flags ∧ run.Sorted) ?_
    ⟨Partitioned.init empty rqFifoTime now, initially⟩ guarded reached
  intro before action after kept allowed taken
  exact ⟨kept.1.step taken, kept.2.step kept.1 allowed.1 allowed.2 taken⟩

/-- **Neighbours.** After every run, a queued request is behind another one exactly if that
one is before it; the two can be merged then. Only the head of a list has none before it. -/
theorem neighbours_inverse {sd : SioData Rq} (empty : sd.Empty) (rqFifoTime : Rq → Nat)
    (now : Nat) {actions : List (Action Rq)}
    (reached : exec (step clock flags) (init sd rqFifoTime now) actions = some last) (rq : Rq)
    (queued : last.queue.Queued flags rq) :
    (∀ next, last.queue.Queued flags next →
        (last.queue.formerRequest flags next = some rq ↔
          last.queue.latterRequest flags rq = some next)) ∧
      (∀ next, last.queue.latterRequest flags rq = some next →
        (last.step clock flags (.mergedRequests rq next)).isSome = true) ∧
      (last.queue.formerRequest flags rq = none ↔
        (last.queue.sd.fifoList (flags.fifo rq)).head? = some rq) := by
  have homed := (partitioned_of_reached empty rqFifoTime now reached).homed
  refine ⟨fun next _ => RequestQueue.formerRequest_iff_latterRequest homed,
    fun next behind => ?_, previous_eq_none_iff (homed.distinct _) queued⟩
  have same := RequestQueue.fifo_of_latterRequest homed behind
  obtain ⟨different, _, queuedNext⟩ := RequestQueue.queued_of_latterRequest homed behind
  simp only [step]
  rw [if_pos ⟨different, same.symm, queued, queuedNext⟩]
  rfl

/-- **Merges with a neighbour.** With fixed expire times, a clock that does not go back and
deadlines that can be compared, the request behind another one has no earlier deadline, and
merging it into that one takes it out of the list and changes nothing else; then the one
behind it follows. -/
theorem neighbours_merge {sd : SioData Rq} (empty : sd.Empty) (rqFifoTime : Rq → Nat) (now : Nat)
    {actions : List (Action Rq)} (steady : ∀ action ∈ actions, Steady action)
    (timely : Guarded (step clock flags) Timely (init sd rqFifoTime now) actions)
    (reached : exec (step clock flags) (init sd rqFifoTime now) actions = some last)
    (comparable : last.queue.Comparable last.now) (rq next : Rq)
    (behind : last.queue.latterRequest flags rq = some next) :
    last.queue.rqFifoTime rq ≤ last.queue.rqFifoTime next ∧
      last.queue.mergedRequests flags rq next = last.queue.rqFifoClear next ∧
      (last.queue.mergedRequests flags rq next).latterRequest flags rq =
        last.queue.latterRequest flags next := by
  obtain ⟨partitioned, sorted⟩ := sorted_of_reached empty rqFifoTime now steady timely reached
  have merged := RequestQueue.mergedRequests_latterRequest partitioned.homed (sorted.sorted _)
    comparable behind
  refine ⟨RequestQueue.rqFifoTime_le_of_latterRequest partitioned.homed (sorted.sorted _) behind,
    merged, ?_⟩
  rw [merged]
  exact RequestQueue.latterRequest_rqFifoClear partitioned.homed behind

/-- Three reads of one list. -/
def threeReads : List (Action Nat) :=
  [.addRequest 0 5, .addRequest 4 7, .addRequest 8 9]

/-- The run of `threeReads` from an empty queue. -/
def afterThreeReads : Run Nat :=
  (exec (step centiseconds numbered) (init ((memory 0).initialized centiseconds) (fun _ => 0) 0)
    threeReads).get (by decide +kernel)

theorem exec_threeReads :
    exec (step centiseconds numbered) (init ((memory 0).initialized centiseconds) (fun _ => 0) 0)
      threeReads = some afterThreeReads :=
  (Option.some_get _).symm

theorem threeReads_inverse :
    afterThreeReads.queue.formerRequest numbered 4 = some 0 ∧
      afterThreeReads.queue.latterRequest numbered 0 = some 4 := by
  have inverse := (neighbours_inverse (fun _ => rfl) (fun _ => 0) 0 exec_threeReads 0
    (by decide +kernel)).1 4 (by decide +kernel)
  have behind : afterThreeReads.queue.latterRequest numbered 0 = some 4 := by decide +kernel
  exact ⟨inverse.mpr behind, behind⟩

theorem threeReads_merge :
    afterThreeReads.queue.mergedRequests numbered 0 4 = afterThreeReads.queue.rqFifoClear 4 ∧
      (afterThreeReads.queue.mergedRequests numbered 0 4).latterRequest numbered 0 = some 8 := by
  have steady : ∀ action ∈ threeReads, Steady action := by decide +kernel
  have timely : Guarded (step centiseconds numbered) Timely
      (init ((memory 0).initialized centiseconds) (fun _ => 0) 0) threeReads := by decide +kernel
  have merged := neighbours_merge (fun _ => rfl) (fun _ => 0) 0 steady timely exec_threeReads
    (by decide +kernel) 0 4 (by decide +kernel)
  exact ⟨merged.2.1, merged.2.2.trans (by decide +kernel)⟩

end Run

end Jordan.Iosched
