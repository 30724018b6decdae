import Jordan.Library.Execution
import Jordan.Sensors.InputEventReader

/-! # The reader is a bounded queue

The specification of `InputEventCircularReader` is a queue of at most as many
events as the reader was made for. Whatever `read` returns, the reader gives the
replies of the queue, and no call leaves the buffer
(`Jordan.Sensors.InputEventCircularReader.reader_isQueue`).
-/

namespace Jordan.Sensors

open Execution

/-- A queue that never holds more events than it has room for. -/
@[ext] structure BoundedQueue (α : Type) where
  capacity : Nat
  events : List α
  bounded : events.length ≤ capacity

/-- The calls of a reader's user, with what `read` returns in a `fill`. -/
inductive Call (α : Type) where
  | fill (result : ReadResult α)
  | readEvent
  | next

/-- What a call returns: `fill` a count or an error, `readEvent` whether an event
is available, and then the event it points at. -/
inductive Reply (α : Type) where
  | filled (returned : Int)
  | event (returned : Int) (oldest : Option α)
  | done
deriving DecidableEq, Repr

namespace ReadResult

variable {α : Type}

/-- The events that `read` has written, or a part of them. -/
def written : ReadResult α → List α
  | .error _ => []
  | .torn events => events
  | .whole events => events

/-- The events that have arrived as a whole. -/
def arrived : ReadResult α → List α
  | .error _ => []
  | .torn _ => []
  | .whole events => events

/-- What `fill` makes of it. -/
def returned : ReadResult α → Int
  | .error errno => errno.neg
  | .torn _ => EINVAL.neg
  | .whole events => events.length

theorem length_arrived_le (result : ReadResult α) :
    result.arrived.length ≤ result.written.length := by
  cases result with
  | error errno => exact Nat.le_refl _
  | torn events => exact Nat.zero_le _
  | whole events => exact Nat.le_refl _

end ReadResult

variable {α : Type}

namespace BoundedQueue

/-- The empty queue. -/
def empty (capacity : Nat) : BoundedQueue α := ⟨capacity, [], Nat.zero_le _⟩

/-- The room that is left. -/
def room (queue : BoundedQueue α) : Nat := queue.capacity - queue.events.length

/-- Events for which there is room are put behind the others. -/
def append (queue : BoundedQueue α) (events : List α) (fits : events.length ≤ queue.room) :
    BoundedQueue α where
  capacity := queue.capacity
  events := queue.events ++ events
  bounded := by
    have bounded := queue.bounded
    rw [List.length_append]
    unfold room at fits
    omega

/-- A call on the queue. A full queue is not read into; otherwise the events that
have arrived are appended. `next` takes the oldest event. -/
def call (queue : BoundedQueue α) : Call α → Option (Reply α × BoundedQueue α)
  | .fill result =>
      if fits : result.written.length ≤ queue.room then
        some (.filled (if queue.room = 0 then 0 else result.returned),
          queue.append result.arrived (result.length_arrived_le.trans fits))
      else none
  | .readEvent => some (.event (if queue.events = [] then 0 else 1) queue.events.head?, queue)
  | .next =>
      match queue with
      | ⟨_, [], _⟩ => none
      | ⟨capacity, _ :: rest, bounded⟩ => some (.done, ⟨capacity, rest, Nat.le_of_succ_le bounded⟩)

end BoundedQueue

namespace InputEventCircularReader

/-- A call on the reader. `read` writes no more than it was asked for, and `next`
is called when `readEvent` has returned 1. -/
def call (reader : InputEventCircularReader α) :
    Call α → Option (Reply α × InputEventCircularReader α)
  | .fill result =>
      if result.written.length ≤ reader.mFreeSpace then
        some (.filled (reader.fill result).1, (reader.fill result).2)
      else none
  | .readEvent =>
      some (.event reader.readEvent.1 (if reader.readEvent.1 = 1 then some reader.readEvent.2
        else none), reader)
  | .next => if reader.readEvent.1 = 1 then some (.done, reader.next) else none

/-- The slots of the buffer that a call reads or writes: those that `read` was
offered, both ends of the `memcpy`, and the event that is handed out. -/
def accessed (reader : InputEventCircularReader α) : Call α → List Nat
  | .fill result =>
      if reader.mFreeSpace = 0 then []
      else
        let copied := reader.mHead + result.arrived.length - reader.mBufferEnd
        List.range' reader.mHead reader.mFreeSpace ++
          (List.range' reader.mBufferEnd copied ++ List.range copied)
  | .readEvent => [reader.mCurr]
  | .next => []

/-- The queue that a reader stands for. -/
def toQueue (reader : InputEventCircularReader α) : BoundedQueue α where
  capacity := reader.mBufferEnd
  events := reader.queue
  bounded := by
    rw [length_queue]
    exact Nat.sub_le _ _

@[simp] theorem room_toQueue {reader : InputEventCircularReader α} (valid : reader.Valid) :
    reader.toQueue.room = reader.mFreeSpace := by
  have within := valid.free_le
  simp only [toQueue, BoundedQueue.room, length_queue, available]
  omega

/-- What a `fill` returns and appends; the buffer keeps its size. -/
theorem fill_spec {reader : InputEventCircularReader α} (valid : reader.Valid)
    {result : ReadResult α} (fits : result.written.length ≤ reader.mFreeSpace) :
    (reader.fill result).1 = (if reader.mFreeSpace = 0 then 0 else result.returned) ∧
      (reader.fill result).2.Valid ∧
      (reader.fill result).2.mBufferEnd = reader.mBufferEnd ∧
      (reader.fill result).2.queue = reader.queue ++ result.arrived := by
  by_cases full : reader.mFreeSpace = 0
  · have nothing : result.arrived = [] := by
      have few := result.length_arrived_le
      exact List.length_eq_zero_iff.mp (by omega)
    rw [fill_full reader full, if_pos full, nothing, List.append_nil]
    exact ⟨rfl, valid, rfl, rfl⟩
  · rw [if_neg full]
    cases result with
    | error errno =>
        rw [fill_error reader full]
        exact ⟨rfl, valid, rfl, (List.append_nil _).symm⟩
    | torn events =>
        obtain ⟨returned, still, same⟩ := fill_torn valid events full fits
        refine ⟨returned, still, ?_, same.trans (List.append_nil _).symm⟩
        simp only [fill, full, ↓reduceIte]
    | whole events =>
        obtain ⟨returned, still, appended⟩ := fill_whole valid events full fits
        refine ⟨returned, still, ?_, appended⟩
        simp only [fill, full, ↓reduceIte]
        split_ifs <;> rfl

/-- `readEvent` returns 1 exactly when the queue holds an event, and then points at
the oldest. -/
theorem readEvent_spec {reader : InputEventCircularReader α} (valid : reader.Valid) :
    reader.readEvent.1 = (if reader.queue = [] then 0 else 1) ∧
      (if reader.readEvent.1 = 1 then some reader.readEvent.2 else none) = reader.queue.head? := by
  by_cases none : reader.available = 0
  · have nothing := reader.queue_eq_nil_iff.mpr none
    simp [readEvent, none, nothing]
  · have oldest := (queue_next valid none).2
    have something : reader.queue ≠ [] := fun nothing => none (reader.queue_eq_nil_iff.mp nothing)
    rw [if_neg something, oldest]
    simp [readEvent, none]

theorem readEvent_eq_one_iff {reader : InputEventCircularReader α} :
    reader.readEvent.1 = 1 ↔ reader.available ≠ 0 := by
  unfold readEvent
  split_ifs with some <;> simp [some]

/-- **The reader gives the replies of the queue it stands for.** -/
theorem call_simulates {reader : InputEventCircularReader α} (valid : reader.Valid)
    (action : Call α) :
    (reader.call action).map (Prod.map id toQueue) = reader.toQueue.call action := by
  cases action with
  | fill result =>
      simp only [call, BoundedQueue.call, room_toQueue valid]
      by_cases fits : result.written.length ≤ reader.mFreeSpace
      · obtain ⟨returned, _, size, appended⟩ := fill_spec valid fits
        rw [if_pos fits, dif_pos fits, Option.map_some, Prod.map_apply, returned]
        have stands : (reader.fill result).2.toQueue = reader.toQueue.append result.arrived
            (result.length_arrived_le.trans (fits.trans_eq (room_toQueue valid).symm)) :=
          BoundedQueue.ext size appended
        rw [stands]
        rfl
      · rw [if_neg fits, dif_neg fits, Option.map_none]
  | readEvent =>
      obtain ⟨returned, oldest⟩ := readEvent_spec valid
      simp only [call, BoundedQueue.call, Option.map_some, Prod.map_apply, oldest, id]
      rw [returned]
      rfl
  | next =>
      simp only [call, readEvent_eq_one_iff]
      by_cases none : reader.available = 0
      · have nothing := reader.queue_eq_nil_iff.mpr none
        simp [none, BoundedQueue.call, toQueue, nothing]
      · have oldest := (queue_next valid none).2
        simp [none, BoundedQueue.call, toQueue, oldest]
        rfl

/-- A call keeps the reader valid and its buffer in size. -/
theorem call_valid {reader : InputEventCircularReader α} (valid : reader.Valid) {action : Call α}
    {after : Reply α × InputEventCircularReader α} (called : reader.call action = some after) :
    after.2.Valid ∧ after.2.mBufferEnd = reader.mBufferEnd := by
  cases action with
  | fill result =>
      obtain ⟨fits, ⟨⟩⟩ := Option.ite_none_right_eq_some.mp called
      obtain ⟨_, still, size, _⟩ := fill_spec valid fits
      exact ⟨still, size⟩
  | readEvent =>
      obtain rfl := Option.some.inj called
      exact ⟨valid, rfl⟩
  | next =>
      obtain ⟨available, ⟨⟩⟩ := Option.ite_none_right_eq_some.mp called
      exact ⟨(queue_next valid (readEvent_eq_one_iff.mp available)).1, rfl⟩

/-- A call stays inside the buffer of twice as many slots as there are events. -/
theorem accessed_lt {reader : InputEventCircularReader α} (valid : reader.Valid) {action : Call α}
    {after : Reply α × InputEventCircularReader α} (called : reader.call action = some after) :
    ∀ slot ∈ reader.accessed action, slot < 2 * reader.mBufferEnd := by
  have within := valid.free_le
  have head := valid.head_le
  intro slot member
  cases action with
  | fill result =>
      obtain ⟨fits, ⟨⟩⟩ := Option.ite_none_right_eq_some.mp called
      unfold accessed at member
      split_ifs at member
      · cases member
      · rcases List.mem_append.mp member with offered | copied
        · obtain ⟨place, inside, rfl⟩ := List.mem_range'.mp offered
          omega
        · have arrived := result.length_arrived_le
          rcases List.mem_append.mp copied with source | target
          · obtain ⟨place, inside, rfl⟩ := List.mem_range'.mp source
            omega
          · have inside := List.mem_range.mp target
            omega
  | readEvent =>
      have curr := valid.curr_lt
      rw [List.mem_singleton.mp member]
      omega
  | next => cases member

/-- **The reader is a bounded FIFO queue.** From its construction on, whatever
`read` returns and in whatever order the calls are made, the reader gives the
replies of a queue of at most `numEvents` events and holds its events, and no call
leaves the buffer. -/
theorem reader_isQueue {numEvents : Nat} (positive : 0 < numEvents) (memory : Nat → α)
    (calls : List (Call α)) :
    (exec (replying call) (create numEvents memory, []) calls).map (Prod.map toQueue id) =
        exec (replying BoundedQueue.call) (BoundedQueue.empty numEvents, []) calls ∧
      Along (replying call)
        (fun before action _ => ∀ slot ∈ before.1.accessed action, slot < 2 * numEvents)
        (create numEvents memory, []) calls := by
  have initially := create_valid numEvents positive memory
  have stands : (create numEvents memory).toQueue = BoundedQueue.empty numEvents :=
    BoundedQueue.ext rfl (queue_create numEvents memory)
  constructor
  · rw [← stands]
    exact exec_replying_simulates Valid toQueue
      (fun _ _ _ valid called => (call_valid valid called).1)
      (fun _ action valid => call_simulates valid action) initially calls
  · have kept (before : InputEventCircularReader α × List (Reply α)) (action : Call α)
        (after : InputEventCircularReader α × List (Reply α))
        (held : before.1.Valid ∧ before.1.mBufferEnd = numEvents) (_ : True)
        (taken : replying call before action = some after) :
        (after.1.Valid ∧ after.1.mBufferEnd = numEvents) ∧
          ∀ slot ∈ before.1.accessed action, slot < 2 * numEvents := by
      obtain ⟨valid, size⟩ := held
      obtain ⟨next, called, rfl⟩ := Option.map_eq_some_iff.mp taken
      obtain ⟨still, same⟩ := call_valid valid called
      refine ⟨⟨still, same.trans size⟩, ?_⟩
      rw [← size]
      exact accessed_lt valid called
    have unguarded :
        Guarded (replying call) (fun _ _ => True) (create numEvents memory, []) calls :=
      along_of_forall (fun _ _ _ _ => trivial) _ _
    exact along_of_invariant
      (fun before => before.1.Valid ∧ before.1.mBufferEnd = numEvents) kept ⟨initially, rfl⟩
      unguarded

/-- Two slots are filled, one event is consumed, a torn read follows, and then an
event that lands past the end and is copied to the front. -/
def pastTheEnd : List (Call Nat) :=
  [.fill (.whole [1, 2]), .readEvent, .next, .fill (.torn [9]), .fill (.whole [3]), .readEvent]

/-- A run past the end of the buffer, with the replies of the queue. -/
theorem pastTheEnd_isQueue :
    (exec (replying call) (create 2 fun _ => 0, []) pastTheEnd).map (Prod.map toQueue id) =
        some (⟨2, [2, 3], by decide⟩, [.filled 2, .event 1 (some 1), .done, .filled (-22),
          .filled 1, .event 1 (some 2)]) ∧
      Along (replying call)
        (fun before action _ => ∀ slot ∈ before.1.accessed action, slot < 2 * 2)
        (create 2 fun _ => 0, []) pastTheEnd := by
  obtain ⟨replies, inside⟩ := reader_isQueue Nat.zero_lt_two (fun _ => 0) pastTheEnd
  exact ⟨replies, inside⟩

end InputEventCircularReader

end Jordan.Sensors
