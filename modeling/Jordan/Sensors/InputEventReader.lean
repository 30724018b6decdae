import Jordan.Machine
import Mathlib.Data.List.Range
import Mathlib.Tactic.ByContra

/-! # The circular input event reader

`InputEventCircularReader` keeps up to `numEvents` events in a buffer of twice
that size. `fill` reads from the kernel straight behind the newest event, past
`mBufferEnd` if need be, and then copies what lies past `mBufferEnd` to the
front; `next` wraps its pointer as soon as it reaches `mBufferEnd`. The head
may therefore rest on `mBufferEnd` itself while the current pointer never does.

The reader is a bounded queue: `InputEventCircularReader.queue` lists the events
still to be consumed, a successful `fill` appends what was read
(`fill_whole`) and `next` drops the oldest event (`queue_next`).
-/

namespace Jordan.Sensors

/-- What `read` returned: an error, bytes that are not a whole number of events,
or whole events. The events are what it left in the buffer. -/
inductive ReadResult (α : Type) where
  | error (errno : Errno)
  | torn (events : List α)
  | whole (events : List α)

/-- The reader; pointers are offsets from `mBuffer`, so `mBufferEnd` is the
number of events it was made for. -/
structure InputEventCircularReader (α : Type) where
  mBuffer : Nat → α
  mBufferEnd : Nat
  mHead : Nat
  mCurr : Nat
  mFreeSpace : Nat

namespace InputEventCircularReader

variable {α : Type}

/-- The constructor; the buffer comes uninitialised from `new`. -/
def create (numEvents : Nat) (memory : Nat → α) : InputEventCircularReader α where
  mBuffer := memory
  mBufferEnd := numEvents
  mHead := 0
  mCurr := 0
  mFreeSpace := numEvents

/-- Memory after events are stored from an offset on. -/
def storeAt (memory : Nat → α) (offset : Nat) (events : List α) : Nat → α := fun slot =>
  if offset ≤ slot then (events[slot - offset]?).getD (memory slot) else memory slot

/-- `fill`, given what `read(fd, mHead, mFreeSpace * sizeof(input_event))` returns. -/
def fill (reader : InputEventCircularReader α) (result : ReadResult α) :
    Int × InputEventCircularReader α :=
  if reader.mFreeSpace = 0 then (0, reader)
  else
    match result with
    | .error errno => (errno.neg, reader)
    | .torn events =>
        (EINVAL.neg, { reader with mBuffer := storeAt reader.mBuffer reader.mHead events })
    | .whole events =>
        let numEventsRead := events.length
        if numEventsRead = 0 then (0, reader)
        else
          let memory := storeAt reader.mBuffer reader.mHead events
          let mHead := reader.mHead + numEventsRead
          let mFreeSpace := reader.mFreeSpace - numEventsRead
          if reader.mBufferEnd < mHead then
            let s := mHead - reader.mBufferEnd
            (numEventsRead, { reader with
              mBuffer := fun slot =>
                if slot < s then memory (reader.mBufferEnd + slot) else memory slot
              mHead := s
              mFreeSpace := mFreeSpace })
          else
            (numEventsRead, { reader with
              mBuffer := memory
              mHead := mHead
              mFreeSpace := mFreeSpace })

/-- The number of events held. -/
def available (reader : InputEventCircularReader α) : Nat :=
  reader.mBufferEnd - reader.mFreeSpace

/-- `readEvent`: whether an event is available, and the event `mCurr` points at. -/
def readEvent (reader : InputEventCircularReader α) : Int × α :=
  (if reader.available ≠ 0 then 1 else 0, reader.mBuffer reader.mCurr)

/-- `next`. -/
def next (reader : InputEventCircularReader α) : InputEventCircularReader α where
  mBuffer := reader.mBuffer
  mBufferEnd := reader.mBufferEnd
  mHead := reader.mHead
  mCurr := if reader.mBufferEnd ≤ reader.mCurr + 1 then 0 else reader.mCurr + 1
  mFreeSpace := reader.mFreeSpace + 1

/-! ## The reader as a queue -/

/-- The slot that holds the event `offset` places behind the oldest one. -/
def slot (reader : InputEventCircularReader α) (offset : Nat) : Nat :=
  if reader.mCurr + offset < reader.mBufferEnd then reader.mCurr + offset
  else reader.mCurr + offset - reader.mBufferEnd

/-- The events still to be consumed, oldest first. -/
def queue (reader : InputEventCircularReader α) : List α :=
  (List.range reader.available).map fun offset => reader.mBuffer (reader.slot offset)

/-- The pointers are in range and the head is where the newest event ends. -/
structure Valid (reader : InputEventCircularReader α) : Prop where
  curr_lt : reader.mCurr < reader.mBufferEnd
  free_le : reader.mFreeSpace ≤ reader.mBufferEnd
  head_at : reader.mHead = reader.mCurr + reader.available ∨
    reader.mHead + reader.mBufferEnd = reader.mCurr + reader.available ∨
    (reader.available = 0 ∧ reader.mCurr = 0 ∧ reader.mHead = reader.mBufferEnd)
  head_le : reader.mHead ≤ reader.mBufferEnd

/-- A reader is valid when it is created. -/
theorem create_valid (numEvents : Nat) (positive : 0 < numEvents) (memory : Nat → α) :
    (create numEvents memory).Valid where
  curr_lt := positive
  free_le := le_rfl
  head_at := .inl (by simp [create, available])
  head_le := Nat.zero_le _

@[simp] theorem queue_create (numEvents : Nat) (memory : Nat → α) :
    (create numEvents memory).queue = [] := by
  simp [queue, available, create]

@[simp] theorem length_queue (reader : InputEventCircularReader α) :
    reader.queue.length = reader.available := by
  simp [queue]

theorem queue_eq_nil_iff (reader : InputEventCircularReader α) :
    reader.queue = [] ↔ reader.available = 0 := by
  rw [← List.length_eq_zero_iff, length_queue]

theorem storeAt_before (memory : Nat → α) (offset : Nat) (events : List α) {slot : Nat}
    (before : slot < offset) : storeAt memory offset events slot = memory slot := by
  simp only [storeAt, Nat.not_le.mpr before, ↓reduceIte]

/-- A store leaves what is behind it. -/
theorem storeAt_behind (memory : Nat → α) (offset : Nat) (events : List α) {slot : Nat}
    (behind : offset + events.length ≤ slot) : storeAt memory offset events slot = memory slot := by
  have outside : events.length ≤ slot - offset := by omega
  simp only [storeAt, List.getElem?_eq_none outside, Option.getD_none, ite_self]

/-- A store puts the events in their order. -/
theorem storeAt_within (memory : Nat → α) (offset : Nat) (events : List α) (index : Nat)
    (within : index < events.length) :
    storeAt memory offset events (offset + index) = events[index] := by
  simp only [storeAt, Nat.le_add_right, ↓reduceIte, Nat.add_sub_cancel_left,
    List.getElem?_eq_getElem within, Option.getD_some]

theorem fill_full (reader : InputEventCircularReader α) (full : reader.mFreeSpace = 0)
    (result : ReadResult α) : reader.fill result = (0, reader) := by
  simp only [fill, full, ↓reduceIte]

/-- A failing `read` leaves the reader as it is. -/
theorem fill_error (reader : InputEventCircularReader α) (free : reader.mFreeSpace ≠ 0)
    (errno : Errno) : reader.fill (.error errno) = (errno.neg, reader) := by
  simp only [fill, free, ↓reduceIte]

/-- The buffer after events have landed at the head and the part past
`mBufferEnd` has been copied to the front. -/
def landed (reader : InputEventCircularReader α) (events : List α) : Nat → α := fun slot =>
  if slot < reader.mHead + events.length - reader.mBufferEnd then
    storeAt reader.mBuffer reader.mHead events (reader.mBufferEnd + slot)
  else storeAt reader.mBuffer reader.mHead events slot

/-- The head after that many events have landed. -/
def landedHead (reader : InputEventCircularReader α) (count : Nat) : Nat :=
  if reader.mBufferEnd < reader.mHead + count then reader.mHead + count - reader.mBufferEnd
  else reader.mHead + count

/-- A reader that is not full reads whole events behind those it has. -/
theorem fill_whole_eq (reader : InputEventCircularReader α) (events : List α)
    (free : reader.mFreeSpace ≠ 0) (nonempty : events.length ≠ 0) :
    reader.fill (.whole events) = ((events.length : Int), { reader with
      mBuffer := reader.landed events
      mHead := reader.landedHead events.length
      mFreeSpace := reader.mFreeSpace - events.length }) := by
  by_cases wraps : reader.mBufferEnd < reader.mHead + events.length
  · simp only [fill, free, ↓reduceIte, nonempty, wraps, landedHead]
    rfl
  · have direct : reader.landed events = storeAt reader.mBuffer reader.mHead events := by
      funext slot
      have uncopied : ¬ slot < reader.mHead + events.length - reader.mBufferEnd := by omega
      simp only [landed, uncopied, ↓reduceIte]
    simp only [fill, free, ↓reduceIte, nonempty, wraps, landedHead, direct]

section Landing

variable {reader : InputEventCircularReader α} {events : List α}

/-- What is read leaves the queued events alone. -/
theorem stored_queued (valid : reader.Valid) (room : events.length ≤ reader.mFreeSpace)
    {offset : Nat} (queued : offset < reader.available) :
    storeAt reader.mBuffer reader.mHead events (reader.slot offset) =
      reader.mBuffer (reader.slot offset) := by
  obtain ⟨curr_lt, free_le, head_at, head_le⟩ := valid
  unfold available at queued head_at
  by_cases ahead : reader.slot offset < reader.mHead
  · exact storeAt_before _ _ _ ahead
  · apply storeAt_behind
    unfold slot at ahead ⊢
    split at ahead <;> split <;> omega

/-- The events already queued stay where they are. -/
theorem landed_queued (valid : reader.Valid) (room : events.length ≤ reader.mFreeSpace)
    {offset : Nat} (queued : offset < reader.available) :
    reader.landed events (reader.slot offset) = reader.mBuffer (reader.slot offset) := by
  have stored := stored_queued valid room queued
  obtain ⟨curr_lt, free_le, head_at, head_le⟩ := valid
  unfold available at queued head_at
  have uncopied : ¬ reader.slot offset < reader.mHead + events.length - reader.mBufferEnd := by
    unfold slot
    split <;> omega
  simp only [landed, uncopied, ↓reduceIte, stored]

/-- The new events end up behind the queued ones. -/
theorem landed_new (valid : reader.Valid) (room : events.length ≤ reader.mFreeSpace)
    {index : Nat} (within : index < events.length) :
    reader.landed events (reader.slot (reader.available + index)) = events[index] := by
  obtain ⟨curr_lt, free_le, head_at, head_le⟩ := valid
  have place : reader.slot (reader.available + index) = reader.mHead + index ∨
      reader.mBufferEnd + reader.slot (reader.available + index) = reader.mHead + index := by
    unfold available at head_at
    unfold slot available
    split <;> omega
  have target := storeAt_within reader.mBuffer reader.mHead events index within
  by_cases copied : reader.slot (reader.available + index) <
      reader.mHead + events.length - reader.mBufferEnd
  · have source : reader.mBufferEnd + reader.slot (reader.available + index) =
        reader.mHead + index := by
      unfold available at head_at
      unfold slot available at copied place ⊢
      split at copied <;> split at place <;> split <;> omega
    simp only [landed, copied, ↓reduceIte, source, target]
  · have source : reader.slot (reader.available + index) = reader.mHead + index := by omega
    simp only [landed, copied, ↓reduceIte]
    rw [source, target]

end Landing

/-- A `read` of whole events within the free space returns their number, keeps
the reader valid and appends them to the queue. -/
theorem fill_whole {reader : InputEventCircularReader α} (valid : reader.Valid)
    (events : List α) (free : reader.mFreeSpace ≠ 0)
    (room : events.length ≤ reader.mFreeSpace) :
    (reader.fill (.whole events)).1 = events.length ∧
      (reader.fill (.whole events)).2.Valid ∧
      (reader.fill (.whole events)).2.queue = reader.queue ++ events := by
  by_cases empty : events.length = 0
  · have none : events = [] := List.length_eq_zero_iff.mp empty
    subst none
    simp only [fill, free, ↓reduceIte, List.length_nil, Nat.cast_zero, List.append_nil, true_and,
      and_true]
    exact valid
  · rw [fill_whole_eq reader events free empty]
    have held : reader.mBufferEnd - (reader.mFreeSpace - events.length) =
        reader.available + events.length := by
      have within := valid.free_le
      unfold available
      omega
    refine ⟨rfl, ?_, ?_⟩
    · obtain ⟨curr_lt, free_le, head_at, head_le⟩ := valid
      unfold available at head_at
      constructor
      · exact curr_lt
      · simp only
        omega
      · simp only [available, landedHead]
        split <;> omega
      · simp only [landedHead]
        split <;> omega
    · change (List.range (reader.mBufferEnd - (reader.mFreeSpace - events.length))).map
        (fun offset => reader.landed events (reader.slot offset)) = _
      rw [held, List.range_add, List.map_append, List.map_map]
      congr 1
      · apply List.map_congr_left
        intro offset member
        exact landed_queued valid room (List.mem_range.mp member)
      · apply List.ext_getElem
        · simp
        · intro index _ within
          simp only [List.getElem_map, List.getElem_range, Function.comp_apply]
          exact landed_new valid room within

/-- A torn `read` fails, and the queue stays as it is. -/
theorem fill_torn {reader : InputEventCircularReader α} (valid : reader.Valid)
    (events : List α) (free : reader.mFreeSpace ≠ 0)
    (room : events.length ≤ reader.mFreeSpace) :
    (reader.fill (.torn events)).1 = EINVAL.neg ∧
      (reader.fill (.torn events)).2.Valid ∧
      (reader.fill (.torn events)).2.queue = reader.queue := by
  simp only [fill, free, ↓reduceIte, true_and]
  refine ⟨⟨valid.curr_lt, valid.free_le, valid.head_at, valid.head_le⟩, ?_⟩
  apply List.map_congr_left
  intro offset member
  exact stored_queued valid room (List.mem_range.mp member)

/-- The oldest event is the one `readEvent` points at, and `next` drops it. -/
theorem queue_next {reader : InputEventCircularReader α} (valid : reader.Valid)
    (nonempty : reader.available ≠ 0) :
    reader.next.Valid ∧ reader.queue = reader.readEvent.2 :: reader.next.queue := by
  obtain ⟨curr_lt, free_le, head_at, head_le⟩ := valid
  unfold available at head_at nonempty
  have held : reader.available = reader.next.available + 1 := by
    simp only [available, next]
    omega
  refine ⟨?_, ?_⟩
  · constructor
    · simp only [next]
      split <;> omega
    · simp only [next]
      omega
    · simp only [next, available]
      split <;> omega
    · exact head_le
  · simp only [queue, readEvent]
    rw [held, List.range_succ_eq_map, List.map_cons, List.map_map]
    congr 1
    · simp only [slot, Nat.add_zero, curr_lt, ↓reduceIte]
    · apply List.map_congr_left
      intro offset member
      have below := List.mem_range.mp member
      simp only [next, available] at below
      have slots : reader.slot (offset + 1) = reader.next.slot offset := by
        simp only [slot, next]
        split <;> split <;> split <;> omega
      simp only [Function.comp_apply, Nat.succ_eq_add_one, slots]
      rfl

theorem available_next {reader : InputEventCircularReader α} :
    reader.next.available = reader.available - 1 := by
  simp only [available, next]
  omega

end InputEventCircularReader

end Jordan.Sensors
