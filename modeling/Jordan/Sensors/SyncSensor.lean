import Jordan.Library.Transducer
import Jordan.Sensors.InputEvent
import Jordan.Sensors.InputEventReader

/-! # The drivers with one pending event

`SensorKXTF9`, `SensorISL29030P` and `SensorISL29030L` have the same members and
the same `readEvents`, up to the event types their `switch` handles: input
events update one pending sensor event, and every `EV_SYN` stores a copy of it
with the time of that `EV_SYN`. That is the reference decoding
`syncDecoder`; `readEvents` emits it piecewise, however the kernel and the
caller cut the stream (`SyncSensor.readEvents_of_fill`).
-/

namespace Jordan.Sensors

open InputEventCircularReader FloatArith

/-- What a call of `readEvents` returns, stores and leaves behind. -/
structure ReadOutcome (Driver Event : Type) where
  result : Int
  stored : List Event
  driver : Driver

/-- At most `count` events are stored, and `result` counts them unless it is an
error. -/
structure ReadOutcome.Fits {Driver Event : Type} (outcome : ReadOutcome Driver Event)
    (count : Int) : Prop where
  within : outcome.result ≤ count
  stored : outcome.stored.length = outcome.result.toNat

theorem ReadOutcome.Fits.error {Driver Event : Type} {driver : Driver} {result count : Int}
    (positive : 1 ≤ count) (negative : result < 0) :
    (⟨result, [], driver⟩ : ReadOutcome Driver Event).Fits count where
  within := by
    simp only
    omega
  stored := (Int.toNat_of_nonpos (Int.le_of_lt negative)).symm

/-- The members of a driver with one pending event; `devFd` tells whether
`dev_fd` is open. -/
structure SyncSensor (F : Type) where
  devFd : Bool
  mEnabled : Nat
  mInputReader : InputEventCircularReader InputEvent
  mPendingEvent : SensorsEvent F

variable {F : Type}

/-- The reference decoding: one snapshot of the pending event per `EV_SYN`. -/
def syncDecoder (processEvent : InputEvent → SensorsEvent F → SensorsEvent F) :
    Transducer (SensorsEvent F) InputEvent (SensorsEvent F) where
  step pending event :=
    if event.type = EV_SYN then
      ({ pending with timestamp := event.timevalToNano },
        [{ pending with timestamp := event.timevalToNano }])
    else (processEvent event pending, [])

/-- The loop of `readEvents`. Every turn consumes an event, so the number of
events available bounds the turns. -/
def drain (processEvent : InputEvent → SensorsEvent F → SensorsEvent F) :
    Nat → Nat → InputEventCircularReader InputEvent → SensorsEvent F →
      List (SensorsEvent F) × InputEventCircularReader InputEvent × SensorsEvent F
  | 0, _, reader, pending => ([], reader, pending)
  | turns + 1, count, reader, pending =>
      let event := reader.readEvent.2
      if count = 0 ∨ reader.readEvent.1 = 0 then ([], reader, pending)
      else if event.type = EV_SYN then
        let pending := { pending with timestamp := event.timevalToNano }
        let rest := drain processEvent turns (count - 1) reader.next pending
        (pending :: rest.1, rest.2)
      else drain processEvent turns count reader.next (processEvent event pending)

/-- `readEvents`, given what `read` returns if `fill` calls it. -/
def SyncSensor.readEvents (processEvent : InputEvent → SensorsEvent F → SensorsEvent F)
    (sensor : SyncSensor F) (count : Int) (result : ReadResult InputEvent) :
    ReadOutcome (SyncSensor F) (SensorsEvent F) :=
  if count < 1 then ⟨EINVAL.neg, [], sensor⟩
  else
    let filled := sensor.mInputReader.fill result
    if filled.1 < 0 then ⟨filled.1, [], { sensor with mInputReader := filled.2 }⟩
    else
      let drained :=
        drain processEvent filled.2.available count.toNat filled.2 sensor.mPendingEvent
      ⟨drained.1.length, drained.1,
        { sensor with mInputReader := drained.2.1, mPendingEvent := drained.2.2 }⟩

/-! ## The three drivers -/

section Drivers

variable [FloatArith F]

/-- `SensorKXTF9::processEvent`. -/
def SensorKXTF9.processEvent (code : Nat) (value : Int) (pending : SensorsEvent F) :
    SensorsEvent F :=
  if code = ABS_X then
    { pending with data.x := mul (ofInt value) KXTF9_CONVERT_A_X }
  else if code = ABS_Y then
    { pending with data.y := mul (ofInt value) KXTF9_CONVERT_A_Y }
  else if code = ABS_Z then
    { pending with data.z := mul (ofInt value) KXTF9_CONVERT_A_Z }
  else pending

/-- The branches of the `switch` in `SensorKXTF9::readEvents` other than `EV_SYN`. -/
def SensorKXTF9.onEvent (event : InputEvent) (pending : SensorsEvent F) : SensorsEvent F :=
  if event.type = EV_ABS then SensorKXTF9.processEvent event.code event.value pending
  else pending

/-- `SensorKXTF9::readEvents`. -/
def SensorKXTF9.readEvents (sensor : SyncSensor F) (count : Int) (result : ReadResult InputEvent) :
    ReadOutcome (SyncSensor F) (SensorsEvent F) :=
  sensor.readEvents SensorKXTF9.onEvent count result

/-- `SensorISL29030P::processEvent`. -/
def SensorISL29030P.processEvent (code : Nat) (value : Int) (pending : SensorsEvent F) :
    SensorsEvent F :=
  if code = ABS_DISTANCE then
    { pending with data.x := ofInt (if value = PROXIMITY_NEAR then 0 else 100) }
  else pending

/-- The branches of the `switch` in `SensorISL29030P::readEvents` other than
`EV_SYN`; light events of the shared device (`EV_LED`) are ignored. -/
def SensorISL29030P.onEvent (event : InputEvent) (pending : SensorsEvent F) : SensorsEvent F :=
  if event.type = EV_ABS then SensorISL29030P.processEvent event.code event.value pending
  else if event.type = EV_LED then pending
  else pending

/-- `SensorISL29030P::readEvents`. -/
def SensorISL29030P.readEvents (sensor : SyncSensor F) (count : Int)
    (result : ReadResult InputEvent) : ReadOutcome (SyncSensor F) (SensorsEvent F) :=
  sensor.readEvents SensorISL29030P.onEvent count result

/-- `SensorISL29030L::processEvent`. -/
def SensorISL29030L.processEvent (code : Nat) (value : Int) (pending : SensorsEvent F) :
    SensorsEvent F :=
  if code = LED_MISC then { pending with data.x := ofInt value } else pending

/-- The branches of the `switch` in `SensorISL29030L::readEvents` other than `EV_SYN`. -/
def SensorISL29030L.onEvent (event : InputEvent) (pending : SensorsEvent F) : SensorsEvent F :=
  if event.type = EV_ABS then pending
  else if event.type = EV_LED then SensorISL29030L.processEvent event.code event.value pending
  else pending

/-- `SensorISL29030L::readEvents`. -/
def SensorISL29030L.readEvents (sensor : SyncSensor F) (count : Int)
    (result : ReadResult InputEvent) : ReadOutcome (SyncSensor F) (SensorsEvent F) :=
  sensor.readEvents SensorISL29030L.onEvent count result

end Drivers

/-! ## What a call of `readEvents` does -/

variable {processEvent : InputEvent → SensorsEvent F → SensorsEvent F}

theorem readEvent_eq_zero_iff (reader : InputEventCircularReader InputEvent) :
    reader.readEvent.1 = 0 ↔ reader.available = 0 := by
  simp only [readEvent]
  split
  next held => exact ⟨fun absurd => (one_ne_zero absurd).elim, fun none => (held none).elim⟩
  next none => exact ⟨fun _ => by omega, fun _ => rfl⟩

variable (processEvent) in
/-- A drain emits no more events than there is room for. -/
theorem length_drain_le (turns count : Nat) (reader : InputEventCircularReader InputEvent)
    (pending : SensorsEvent F) :
    (drain processEvent turns count reader pending).1.length ≤ count := by
  induction turns generalizing count reader pending with
  | zero => exact Nat.zero_le _
  | succ turns ih =>
      unfold drain
      by_cases stop : count = 0 ∨ reader.readEvent.1 = 0
      · simp only [stop, ↓reduceIte]
        exact Nat.zero_le _
      · simp only [stop, ↓reduceIte]
        have room : count ≠ 0 := fun full => stop (.inl full)
        split
        · have rest := ih (count - 1) reader.next
            { pending with timestamp := reader.readEvent.2.timevalToNano }
          rw [List.length_cons]
          omega
        · exact ih _ _ _

/-- What the loop of `readEvents` does to the reader and the pending event: it
emits a beginning of the decoding, and stops before `count` only when the reader
is empty. -/
structure DrainSpec (decoder : Transducer (SensorsEvent F) InputEvent (SensorsEvent F))
    (count : Nat) (reader : InputEventCircularReader InputEvent) (pending : SensorsEvent F)
    (drained : List (SensorsEvent F) × InputEventCircularReader InputEvent × SensorsEvent F) :
    Prop where
  valid : drained.2.1.Valid
  exhausted : drained.1.length < count → drained.2.1.queue = []
  decodes : decoder.Emits pending reader.queue drained.1 drained.2.2 drained.2.1.queue
  consumed : ∃ consumed, reader.queue = consumed ++ drained.2.1.queue

/-- The loop stops early only with the reader empty. -/
theorem queue_of_stop {count : Nat} {reader : InputEventCircularReader InputEvent}
    (stop : count = 0 ∨ reader.readEvent.1 = 0) (room : 0 < count) : reader.queue = [] := by
  rcases stop with full | empty
  · exact (Nat.ne_of_gt room full).elim
  · exact reader.queue_eq_nil_iff.mpr ((readEvent_eq_zero_iff reader).mp empty)

/-- A turn of the loop takes the oldest event. -/
theorem queue_of_turn {count turns : Nat} {reader : InputEventCircularReader InputEvent}
    (valid : reader.Valid) (going : ¬ (count = 0 ∨ reader.readEvent.1 = 0))
    (enough : reader.available ≤ turns + 1) :
    reader.next.Valid ∧ reader.queue = reader.readEvent.2 :: reader.next.queue ∧
      reader.next.available ≤ turns := by
  have held : reader.available ≠ 0 := fun empty =>
    going (.inr ((readEvent_eq_zero_iff reader).mpr empty))
  obtain ⟨nextValid, oldest⟩ := queue_next valid held
  refine ⟨nextValid, oldest, ?_⟩
  rw [available_next]
  omega

variable (processEvent) in
theorem syncDecoder_step_sync {event : InputEvent} (sync : event.type = EV_SYN)
    (pending : SensorsEvent F) :
    (syncDecoder processEvent).step pending event =
      ({ pending with timestamp := event.timevalToNano },
        [{ pending with timestamp := event.timevalToNano }]) :=
  if_pos sync

variable (processEvent) in
theorem syncDecoder_step_other {event : InputEvent} (sync : ¬ event.type = EV_SYN)
    (pending : SensorsEvent F) :
    (syncDecoder processEvent).step pending event = (processEvent event pending, []) :=
  if_neg sync

/-- Consuming one event and then draining the rest. -/
theorem DrainSpec.consume {decoder : Transducer (SensorsEvent F) InputEvent (SensorsEvent F)}
    {count : Nat} {reader next : InputEventCircularReader InputEvent}
    {pending after : SensorsEvent F} {event : InputEvent} {emitted : List (SensorsEvent F)}
    {drained : List (SensorsEvent F) × InputEventCircularReader InputEvent × SensorsEvent F}
    (oldest : reader.queue = event :: next.queue)
    (taken : decoder.step pending event = (after, emitted))
    (rest : DrainSpec decoder (count - emitted.length) next after drained) :
    DrainSpec decoder count reader pending (emitted ++ drained.1, drained.2) := by
  obtain ⟨valid, exhausted, decodes, consumed, split⟩ := rest
  refine ⟨valid, ?_, ?_, event :: consumed, ?_⟩
  · intro short
    rw [List.length_append] at short
    exact exhausted (by omega)
  · rw [oldest]
    exact (Transducer.Emits.step taken).trans decodes
  · rw [oldest, split, List.cons_append]

variable (processEvent) in
/-- The loop does what `DrainSpec` says, if it has a turn for each event. -/
theorem drain_spec (turns count : Nat) (reader : InputEventCircularReader InputEvent)
    (pending : SensorsEvent F) (valid : reader.Valid) (enough : reader.available ≤ turns) :
    DrainSpec (syncDecoder processEvent) count reader pending
      (drain processEvent turns count reader pending) := by
  induction turns generalizing count reader pending with
  | zero =>
      have empty : reader.queue = [] := reader.queue_eq_nil_iff.mpr (by omega)
      exact ⟨valid, fun _ => empty, .refl _ _ _, [], rfl⟩
  | succ turns ih =>
      unfold drain
      by_cases stop : count = 0 ∨ reader.readEvent.1 = 0
      · simp only [stop, ↓reduceIte]
        exact ⟨valid, queue_of_stop stop, .refl _ _ _, [], rfl⟩
      · simp only [stop, ↓reduceIte]
        obtain ⟨nextValid, oldest, fewer⟩ := queue_of_turn valid stop enough
        by_cases sync : reader.readEvent.2.type = EV_SYN
        · simp only [sync, ↓reduceIte]
          have taken := syncDecoder_step_sync processEvent sync pending
          exact DrainSpec.consume oldest taken (ih (count - 1) _ _ nextValid fewer)
        · simp only [sync, ↓reduceIte]
          have taken := syncDecoder_step_other processEvent sync pending
          exact DrainSpec.consume oldest taken (ih count _ _ nextValid fewer)

variable (processEvent) in
/-- Whatever `read` returns, `readEvents` stores what fits and counts it. -/
theorem SyncSensor.readEvents_fits (sensor : SyncSensor F) {count : Int} (positive : 1 ≤ count)
    (result : ReadResult InputEvent) :
    (sensor.readEvents processEvent count result).Fits count := by
  have enough : ¬ count < 1 := by omega
  unfold SyncSensor.readEvents
  simp only [enough, ↓reduceIte]
  by_cases failed : (sensor.mInputReader.fill result).1 < 0
  · simp only [failed, ↓reduceIte]
    exact .error positive failed
  · simp only [failed, ↓reduceIte]
    have within := length_drain_le processEvent (sensor.mInputReader.fill result).2.available
      count.toNat (sensor.mInputReader.fill result).2 sensor.mPendingEvent
    refine ⟨?_, (Int.toNat_natCast _).symm⟩
    simp only
    omega

/-- What a call of `readEvents` does when `fill` appends the taken events, none if
the reader is full. -/
structure SyncReadSpec (decoder : Transducer (SensorsEvent F) InputEvent (SensorsEvent F))
    (sensor : SyncSensor F) (count : Int) (taken : List InputEvent)
    (outcome : ReadOutcome (SyncSensor F) (SensorsEvent F)) : Prop where
  valid : outcome.driver.mInputReader.Valid
  result : outcome.result = outcome.stored.length
  exhausted : outcome.result < count → outcome.driver.mInputReader.queue = []
  decodes : decoder.Emits sensor.mPendingEvent (sensor.mInputReader.queue ++ taken)
    outcome.stored outcome.driver.mPendingEvent outcome.driver.mInputReader.queue
  consumed : ∃ consumed,
    sensor.mInputReader.queue ++ taken = consumed ++ outcome.driver.mInputReader.queue

/-- **Piecewise decoding.** After a `fill` that appended the taken events,
`readEvents` emits the next part of the decoding. -/
theorem SyncSensor.readEvents_of_fill {sensor : SyncSensor F} {count : Int} (positive : 1 ≤ count)
    {result : ReadResult InputEvent} {taken : List InputEvent}
    (success : 0 ≤ (sensor.mInputReader.fill result).1)
    (valid : (sensor.mInputReader.fill result).2.Valid)
    (queue : (sensor.mInputReader.fill result).2.queue = sensor.mInputReader.queue ++ taken) :
    SyncReadSpec (syncDecoder processEvent) sensor count taken
      (sensor.readEvents processEvent count result) := by
  have enough : ¬ count < 1 := by omega
  have filled : ¬ (sensor.mInputReader.fill result).1 < 0 := by omega
  obtain ⟨validAfter, exhausted, decodes, consumed, split⟩ :=
    drain_spec processEvent _ count.toNat _ sensor.mPendingEvent valid le_rfl
  unfold SyncSensor.readEvents
  simp only [enough, ↓reduceIte, filled]
  refine ⟨validAfter, rfl, ?_, ?_, consumed, ?_⟩
  · intro short
    exact exhausted (by simp only at short; omega)
  · rw [← queue]
    exact decodes
  · rw [← queue]
    exact split

end Jordan.Sensors
