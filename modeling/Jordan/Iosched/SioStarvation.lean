import Jordan.Iosched.SioIosched

/-! # Reads against writes

A write waits for at most two reads more than `writes_starved` says, one of which
an expired request may add. The comparison is with the field `writes_starved`,
which `sio_init_queue` leaves as it was in memory; the bound holds as long as the
field makes the same choices as the constant would, and no expired read wraps the
counter of the reads (`Jordan.Iosched.Run.waiting_le`).
-/

namespace Jordan.Iosched

open Execution NodeLists

variable {Rq : Type*}

theorem SioData.writeQueued_iff {sd : SioData Rq} :
    sd.WriteQueued ↔ ∃ sync, sd.fifoList (sync, .WRITE) ≠ [] := by
  constructor
  · rintro (sync | async) <;> exact ⟨_, by assumption⟩
  · rintro ⟨_ | _, queued⟩
    · exact .inr queued
    · exact .inl queued

/-- A write is preferred to the reads if there is one. -/
theorem SioData.write_of_chooseRequest {sd : SioData Rq} (queued : sd.WriteQueued) {rq : Rq}
    (taken : sd.chooseRequest .WRITE = some rq) : ∃ sync, rq ∈ sd.fifoList (sync, .WRITE) := by
  unfold SioData.chooseRequest at taken
  rcases Option.or_eq_some_iff.mp taken with sync | ⟨noSync, taken⟩
  · exact ⟨_, List.mem_of_mem_head? sync⟩
  rcases Option.or_eq_some_iff.mp taken with async | ⟨noAsync, _⟩
  · exact ⟨_, List.mem_of_mem_head? async⟩
  rcases queued with sync | async
  · exact absurd (List.head?_eq_none_iff.mp noSync) sync
  · exact absurd (List.head?_eq_none_iff.mp noAsync) async

namespace RequestQueue

variable {q : RequestQueue Rq} {jiffies : Nat} {rq : Rq}

/-- An expired request is taken after a batch, and otherwise one in the preferred
direction. -/
theorem chosen_cases (taken : q.chosen jiffies = some rq) :
    q.sd.batched > q.sd.fifoBatch ∧ rq ∈ (q.afterBatch jiffies).2 ∨
      q.sd.chooseRequest q.dataDir = some rq := by
  unfold chosen at taken
  rcases Option.or_eq_some_iff.mp taken with expired | ⟨_, next⟩
  · left
    refine ⟨?_, expired⟩
    unfold afterBatch at expired
    split_ifs at expired with batch
    exact batch
  · right
    rw [afterBatch_fst] at next
    exact next

end RequestQueue

namespace Run

variable {clock : Clock} {flags : RqFlags Rq} {run last : Run Rq}

/-- The tunables that are stored: any but `writes_starved`, and a `fifo_batch`
greater than that. -/
def Allowed : Action Rq → Prop
  | .store .writesStarved _ => False
  | .store .fifoBatch data => writesStarved < clamped data
  | _ => True

instance : DecidablePred (Allowed : Action Rq → Prop)
  | .store .writesStarved _ => inferInstanceAs (Decidable False)
  | .store .fifoBatch _ => inferInstanceAs (Decidable (_ < _))
  | .store (.expire _) _ => inferInstanceAs (Decidable True)
  | .addRequest _ _ => inferInstanceAs (Decidable True)
  | .mergedRequests _ _ => inferInstanceAs (Decidable True)
  | .dispatchRequests _ => inferInstanceAs (Decidable True)

variable (flags) in
/-- While a write is queued, reads are preferred only if the constant
`writes_starved` allows them, and the counter of the reads can still count an
expired read that is taken. -/
def Patient (run : Run Rq) (jiffies : Nat) : Prop :=
  run.queue.sd.WriteQueued →
    (run.queue.dataDir = .READ → run.queue.sd.starved ≤ writesStarved) ∧
      ∀ rq ∈ (run.queue.afterBatch jiffies).2, flags.rqDataDir rq = .READ →
        run.queue.sd.starved ≠ BitVec.allOnes 32

instance (run : Run Rq) [DecidableEq Rq] (jiffies : Nat) : Decidable (run.Patient flags jiffies) :=
  inferInstanceAs (Decidable (_ → _))

variable (flags) in
/-- A dispatch is made in a patient state. -/
def PatientAt (run : Run Rq) : Action Rq → Prop
  | .dispatchRequests jiffies => run.Patient flags jiffies
  | _ => True

instance [DecidableEq Rq] :
    ∀ (run : Run Rq) (action : Action Rq), Decidable (run.PatientAt flags action)
  | run, .dispatchRequests jiffies => inferInstanceAs (Decidable (run.Patient flags jiffies))
  | _, .addRequest _ _ => inferInstanceAs (Decidable True)
  | _, .mergedRequests _ _ => inferInstanceAs (Decidable True)
  | _, .store _ _ => inferInstanceAs (Decidable True)

/-- How long writes have waited, against the counters of the elevator. -/
structure Bounded (run : Run Rq) : Prop where
  batch : writesStarved < run.queue.sd.fifoBatch
  counted : run.waiting ≤ run.queue.sd.starved.toNat
  -- The read that makes it four was an expired one, and began a new batch.
  bound : run.waiting ≤ 3 ∨ run.waiting = 4 ∧ run.queue.sd.batched = 1
  queued : run.waiting = 0 ∨ run.queue.sd.WriteQueued

theorem Bounded.init {memory sd : SioData Rq} (created : initQueue clock (some memory) = some sd)
    (rqFifoTime : Rq → Nat) (now : Nat) : (Run.init sd rqFifoTime now).Bounded := by
  obtain rfl := Option.some.inj created
  exact ⟨show writesStarved < fifoBatch by decide, Nat.zero_le _, .inl (Nat.zero_le _), .inl rfl⟩

/-- Operations that dispatch nothing keep the bound if they leave the counters
and keep a write queued. -/
theorem Bounded.of_same (holds : run.Bounded)
    (batch : writesStarved < last.queue.sd.fifoBatch)
    (starved : last.queue.sd.starved = run.queue.sd.starved)
    (batched : last.queue.sd.batched = run.queue.sd.batched)
    (waiting : last.waiting = run.waiting)
    (queued : run.queue.sd.WriteQueued → last.queue.sd.WriteQueued) : last.Bounded where
  batch := batch
  counted := by
    rw [waiting, starved]
    exact holds.counted
  bound := by
    rw [waiting, batched]
    exact holds.bound
  queued := by
    rw [waiting]
    exact holds.queued.imp_right queued

/-- A read that is dispatched while a write waits leaves the bound intact. -/
theorem Bounded.read (holds : run.Bounded) (homed : Homed flags.fifo run.queue.sd.fifoList)
    {jiffies : Nat} (patient : run.Patient flags jiffies) (writes : run.queue.sd.WriteQueued)
    {rq : Rq} (taken : run.queue.chosen jiffies = some rq) (read : flags.rqDataDir rq = .READ) :
    run.waiting + 1 ≤ (run.queue.sd.starved + 1).toNat ∧
      (run.waiting + 1 ≤ 3 ∨ run.waiting + 1 = 4 ∧ run.queue.sd.batched > run.queue.sd.fifoBatch)
    := by
  obtain ⟨preferred, counts⟩ := patient writes
  have counted := holds.counted
  have incremented (below : run.queue.sd.starved.toNat ≠ 2 ^ 32 - 1) :
      (run.queue.sd.starved + 1).toNat = run.queue.sd.starved.toNat + 1 := by
    have := run.queue.sd.starved.isLt
    rw [BitVec.toNat_add]
    change (run.queue.sd.starved.toNat + 1) % 2 ^ 32 = _
    omega
  rcases RequestQueue.chosen_cases taken with ⟨expired, late⟩ | next
  · have next := incremented fun full => counts rq late read (BitVec.eq_of_toNat_eq full)
    refine ⟨by omega, ?_⟩
    -- A fourth read began a batch, so no batch has been completed since.
    rcases holds.bound with few | ⟨_, begun⟩
    · rcases Nat.lt_or_ge run.waiting 3 with fewer | third
      · exact .inl fewer
      · exact .inr ⟨by omega, expired⟩
    · have batch := holds.batch
      rw [begun] at expired
      exact absurd (BitVec.lt_trans batch expired) (by decide)
  · have reads : run.queue.dataDir = .READ := by
      cases direction : run.queue.dataDir with
      | READ => rfl
      | WRITE =>
          rw [direction] at next
          obtain ⟨sync, present⟩ := SioData.write_of_chooseRequest writes next
          have home := congrArg Prod.snd (homed.atHome present)
          exact absurd (read.symm.trans home) DataDir.noConfusion
    have few : run.queue.sd.starved.toNat ≤ 2 := preferred reads
    have next := incremented (by omega)
    omega

theorem Bounded.store (holds : run.Bounded) {tunable : Tunable} {data : U32}
    (allowed : Allowed (.store tunable data : Action Rq)) :
    Bounded { run with
      queue := { run.queue with sd := run.queue.sd.store clock tunable data } } := by
  cases tunable with
  | expire fifo => exact holds.of_same holds.batch rfl rfl rfl id
  | fifoBatch => exact holds.of_same allowed rfl rfl rfl id
  | writesStarved => exact allowed.elim

variable [DecidableEq Rq]

/-- What a dispatch leaves of the counters. -/
theorem dispatch_counters {jiffies : Nat} {rq : Rq} (taken : run.queue.chosen jiffies = some rq) :
    (run.queue.dispatchRequests flags jiffies).2.sd =
      { run.queue.sd with
        fifoList := unlink run.queue.sd.fifoList rq
        batched :=
          (if run.queue.sd.batched > run.queue.sd.fifoBatch then 0 else run.queue.sd.batched) + 1
        starved := if flags.rqDataDir rq = .WRITE then 0 else run.queue.sd.starved + 1 } := by
  rw [RequestQueue.dispatchRequests_of_some taken, RequestQueue.afterBatch_fst]
  rfl

/-- Dispatching a read leaves the writes in the queue. -/
theorem writeQueued_unlink {sd : SioData Rq} (homed : Homed flags.fifo sd.fifoList) {rq : Rq}
    (read : flags.rqDataDir rq = .READ) (sync : Synchronicity) :
    unlink sd.fifoList rq (sync, .WRITE) = sd.fifoList (sync, .WRITE) := by
  apply List.erase_of_not_mem
  intro present
  have home := congrArg Prod.snd (homed.atHome present)
  exact absurd (read.symm.trans home) DataDir.noConfusion

/-- A patient dispatch keeps the bound. -/
theorem Bounded.dispatch (holds : run.Bounded) (homed : Homed flags.fifo run.queue.sd.fifoList)
    {jiffies : Nat} (patient : run.Patient flags jiffies) :
    Bounded { run with
      queue := (run.queue.dispatchRequests flags jiffies).2
      now := jiffies
      waiting := ((run.queue.chosen jiffies).map (run.waitingAfter flags)).getD run.waiting } := by
  cases taken : run.queue.chosen jiffies with
  | none =>
      have empty := RequestQueue.chosen_eq_none_iff.mp taken
      have idle : run.waiting = 0 := by
        rcases holds.queued with idle | sync | async
        · exact idle
        · exact absurd (empty _) sync
        · exact absurd (empty _) async
      rw [RequestQueue.dispatchRequests_of_none taken, RequestQueue.afterBatch_fst]
      exact ⟨holds.batch, holds.counted, .inl (by simp [idle]), .inl idle⟩
  | some rq =>
      have after : (run.queue.dispatchRequests flags jiffies).2.sd = _ := dispatch_counters taken
      have batch : writesStarved < (run.queue.dispatchRequests flags jiffies).2.sd.fifoBatch := by
        rw [after]
        exact holds.batch
      simp only [Option.map_some, Option.getD_some, waitingAfter]
      cases direction : flags.rqDataDir rq with
      | WRITE =>
          exact ⟨batch, Nat.zero_le _, .inl (Nat.zero_le _), .inl rfl⟩
      | READ =>
          by_cases writes : run.queue.sd.WriteQueued
          · obtain ⟨counted, bound⟩ := holds.read homed patient writes taken direction
            simp only [reduceCtorEq, ↓reduceIte, writes]
            refine ⟨batch, ?_, ?_, .inr ?_⟩
            · rw [after]
              simpa only [direction, reduceCtorEq, ↓reduceIte] using counted
            · refine bound.imp_right fun ⟨fourth, expired⟩ => ⟨fourth, ?_⟩
              rw [after]
              simp only [expired, ↓reduceIte]
              rfl
            · rw [after]
              simpa only [SioData.writeQueued_iff, writeQueued_unlink homed direction]
                using writes
          · have idle := holds.queued.resolve_right writes
            simp only [reduceCtorEq, ↓reduceIte, writes]
            exact ⟨batch, by simp [idle], .inl (by simp [idle]), .inl idle⟩

theorem Bounded.addRequest (holds : run.Bounded) (rq : Rq) (jiffies : Nat) :
    Bounded { run with
      queue := run.queue.addRequest flags rq jiffies
      added := run.added ++ [rq]
      now := jiffies } := by
  refine holds.of_same holds.batch rfl rfl rfl fun writes => ?_
  obtain ⟨sync, queued⟩ := SioData.writeQueued_iff.mp writes
  refine SioData.writeQueued_iff.mpr ⟨sync, ?_⟩
  by_cases here : (sync, DataDir.WRITE) = flags.fifo rq
  · simp [RequestQueue.addRequest, here]
  · simpa [RequestQueue.addRequest, here] using queued

/-- A merge leaves the request that the other one was merged into. -/
theorem Bounded.mergedRequests (holds : run.Bounded)
    (homed : Homed flags.fifo run.queue.sd.fifoList) {rq next : Rq} (different : rq ≠ next)
    (same : flags.fifo rq = flags.fifo next) (queued : run.queue.Queued flags rq)
    (queuedNext : run.queue.Queued flags next) :
    Bounded { run with
      queue := run.queue.mergedRequests flags rq next
      merged := run.merged ++ [next] } := by
  have counters := run.queue.mergedRequests_counters flags rq next
  refine holds.of_same ?_ ?_ ?_ rfl fun writes => ?_
  · rw [counters]
    exact holds.batch
  · rw [counters]
  · rw [counters]
  · have perm := RequestQueue.mergedRequests_perm homed different same queued queuedNext
    obtain ⟨sync, filled⟩ := SioData.writeQueued_iff.mp writes
    refine SioData.writeQueued_iff.mpr ⟨sync, ?_⟩
    by_cases here : flags.fifo rq = (sync, .WRITE)
    · have remains : rq ∈ unlink run.queue.sd.fifoList next (sync, .WRITE) := by
        rw [← here]
        exact (List.mem_erase_of_ne different).mpr queued
      exact List.ne_nil_of_mem ((perm _).mem_iff.mpr remains)
    · have absent : next ∉ run.queue.sd.fifoList (sync, .WRITE) := by
        intro present
        exact here (same.trans (homed.atHome present))
      intro empty
      have unlinked := (perm (sync, .WRITE)).length_eq
      rw [empty, unlink, List.erase_of_not_mem absent] at unlinked
      exact filled (List.length_eq_zero_iff.mp unlinked.symm)

theorem Bounded.step (holds : run.Bounded) (partitioned : run.Partitioned flags)
    {action : Action Rq} (allowed : Allowed action) (patient : run.PatientAt flags action)
    (taken : run.step clock flags action = some last) : last.Bounded := by
  cases action with
  | addRequest rq jiffies =>
      obtain ⟨_, ⟨⟩⟩ := Option.ite_none_right_eq_some.mp taken
      exact holds.addRequest rq jiffies
  | mergedRequests rq next =>
      obtain ⟨⟨different, same, queued, queuedNext⟩, ⟨⟩⟩ :=
        Option.ite_none_right_eq_some.mp taken
      exact holds.mergedRequests partitioned.homed different same queued queuedNext
  | dispatchRequests jiffies =>
      obtain rfl := Option.some.inj taken
      exact holds.dispatch partitioned.homed patient
  | store tunable data =>
      obtain rfl := Option.some.inj taken
      exact holds.store allowed

/-- **Reads do not starve a write.** On a queue that `sio_init_queue` created in
any memory, as long as every dispatch is made in a patient state, at most
`writes_starved + 2` reads are dispatched while a write is queued. -/
theorem waiting_le {memory sd : SioData Rq} (created : initQueue clock (some memory) = some sd)
    (rqFifoTime : Rq → Nat) (now : Nat) {actions : List (Action Rq)}
    (allowed : ∀ action ∈ actions, Allowed action)
    (patient : Guarded (step clock flags) (PatientAt flags) (init sd rqFifoTime now) actions)
    (reached : exec (step clock flags) (init sd rqFifoTime now) actions = some last) :
    last.waiting ≤ writesStarved.toNat + 2 := by
  have empty : sd.Empty := by
    obtain rfl := Option.some.inj created
    exact fun _ => rfl
  have guarded := (guarded_of_mem allowed _).and patient
  have kept : last.Partitioned flags ∧ last.Bounded := by
    refine invariant (fun run => run.Partitioned flags ∧ run.Bounded) ?_
      ⟨Partitioned.init empty rqFifoTime now, Bounded.init created rqFifoTime now⟩ guarded reached
    rintro before action after ⟨partitioned, bounded⟩ ⟨permitted, waits⟩ taken
    exact ⟨partitioned.step taken, bounded.step partitioned permitted waits taken⟩
  have bound := kept.2.bound
  change last.waiting ≤ 4
  omega

/-- A write is added, then five reads, and five requests are dispatched. -/
def fiveReads : List (Action Nat) :=
  [.addRequest 1 0, .addRequest 0 0, .addRequest 4 0, .addRequest 8 0, .addRequest 12 0,
    .addRequest 16 0] ++ List.replicate 5 (.dispatchRequests 1)

theorem fiveReads_waiting :
    ∃ last, exec (step centiseconds numbered)
        (init ((memory writesStarved).initialized centiseconds) (fun _ => 0) 0) fiveReads =
          some last ∧ last.queue.dispatched = [0, 4, 8, 1, 12] ∧
      last.waiting ≤ writesStarved.toNat + 2 := by
  refine ⟨_, (Option.some_get (by decide +kernel)).symm, by decide +kernel, ?_⟩
  have allowed : ∀ action ∈ fiveReads, Allowed action := by decide +kernel
  have patient : Guarded (step centiseconds numbered) (PatientAt numbered)
      (init ((memory writesStarved).initialized centiseconds) (fun _ => 0) 0) fiveReads := by
    decide +kernel
  exact waiting_le rfl (fun _ => 0) 0 allowed patient (Option.some_get _).symm

/-- The same queue in memory that holds a large number where `writes_starved` is. -/
theorem fiveReads_starve :
    ∃ sd last, initQueue centiseconds (some (memory (BitVec.intMax 32))) = some sd ∧
      (∀ action ∈ fiveReads, Allowed action) ∧
      exec (step centiseconds numbered) (init sd (fun _ => 0) 0) fiveReads = some last ∧
      last.queue.dispatched = [0, 4, 8, 12, 16] ∧ writesStarved.toNat + 2 < last.waiting := by
  refine ⟨_, _, rfl, ?_, (Option.some_get (by decide +kernel)).symm, ?_, ?_⟩ <;> decide +kernel

end Run

end Jordan.Iosched
