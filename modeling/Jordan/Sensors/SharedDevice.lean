import Jordan.Library.Execution
import Jordan.Sensors.EventQueue
import Jordan.Sensors.SyncSensor

/-! # Proximity and light on one device

On the Defy+ `SensorISL29030P` and `SensorISL29030L` read the same input device.
Each of them skips the payload of the other's frames (`EV_LED` and `EV_ABS`), but
an `EV_SYN` does not tell whose frame it ends, and both store an event for every
`EV_SYN`. So each emits what it would emit without the other's frames exactly as
long as it has not read one of them to its end
(`Jordan.Sensors.noInterference_iff`).
-/

namespace Jordan.Sensors

open InputEventCircularReader Execution

/-- The frames of the shared device. -/
inductive FrameKind where
  | proximity
  | light
deriving DecidableEq, Repr

/-- The type of a frame's events but the last. -/
def FrameKind.payloadType : FrameKind → Nat
  | .proximity => EV_ABS
  | .light => EV_LED

/-- A whole frame: events of its type, and then `EV_SYN`. -/
structure Frame where
  kind : FrameKind
  payload : List InputEvent
  sync : InputEvent
  typed : ∀ event ∈ payload, event.type = kind.payloadType
  synced : sync.type = EV_SYN

/-- The events of a frame, with its kind. -/
def Frame.events (frame : Frame) : List (FrameKind × InputEvent) :=
  (frame.payload ++ [frame.sync]).map (frame.kind, ·)

/-- The events of a stream of frames. -/
def stream (frames : List Frame) : List (FrameKind × InputEvent) := frames.flatMap Frame.events

/-- The events without those of one kind of frames. -/
def without (kind : FrameKind) (events : List (FrameKind × InputEvent)) : List InputEvent :=
  (events.filter (·.1 ≠ kind)).map Prod.snd

/-- A frame of the kind is read to its end. -/
def Completed (kind : FrameKind) (events : List (FrameKind × InputEvent)) : Prop :=
  ∃ entry ∈ events, entry.1 = kind ∧ entry.2.type = EV_SYN

variable {F : Type} {processEvent : InputEvent → SensorsEvent F → SensorsEvent F}

/-- Calls of `readEvents`: the driver, what was read from the device and what has
been emitted. -/
structure ReadSession (F : Type) where
  driver : SyncSensor F
  delivered : List InputEvent
  emitted : List (SensorsEvent F)

/-- The caller's `count`, and what `read` returns if it is called. -/
structure ReadRequest where
  count : Int
  result : ReadResult InputEvent

variable (processEvent) in
/-- A call of `readEvents`. `read` writes no more than it was asked for. -/
def ReadSession.call (session : ReadSession F) (request : ReadRequest) : Option (ReadSession F) :=
  if request.result.written.length ≤ session.driver.mInputReader.mFreeSpace then
    let outcome := session.driver.readEvents processEvent request.count request.result
    some
      { driver := outcome.driver
        delivered :=
          session.delivered ++ if request.count < 1 then [] else request.result.arrived
        emitted := session.emitted ++ outcome.stored }
  else none

variable (processEvent) in
/-- From a driver with an empty reader, some calls of `readEvents` that decode the
events, however the device and the callers cut them, emit the sensor events. -/
def Reads (pending : SensorsEvent F) (events : List InputEvent)
    (emitted : List (SensorsEvent F)) : Prop :=
  ∃ (driver : SyncSensor F) (requests : List ReadRequest) (last : ReadSession F),
    driver.mInputReader.Valid ∧ driver.mInputReader.queue = [] ∧ driver.mPendingEvent = pending ∧
      exec (ReadSession.call processEvent) ⟨driver, [], []⟩ requests = some last ∧
      last.delivered = events ++ last.driver.mInputReader.queue ∧ last.emitted = emitted

variable (processEvent) in
/-- What has been emitted is the decoding of what was read so far. -/
structure ReadSession.Decoding (pending : SensorsEvent F) (session : ReadSession F) : Prop where
  valid : session.driver.mInputReader.Valid
  emits : (syncDecoder processEvent).Emits pending session.delivered session.emitted
    session.driver.mPendingEvent session.driver.mInputReader.queue

theorem ReadSession.Decoding.call {pending : SensorsEvent F} {session after : ReadSession F}
    (holds : session.Decoding processEvent pending) {request : ReadRequest}
    (taken : session.call processEvent request = some after) :
    after.Decoding processEvent pending := by
  obtain ⟨fits, ⟨⟩⟩ := Option.ite_none_right_eq_some.mp taken
  obtain ⟨valid, emits⟩ := holds
  obtain ⟨_, still, _, appended⟩ := fill_spec valid fits
  by_cases few : request.count < 1
  · simp only [SyncSensor.readEvents, few, ↓reduceIte, List.append_nil]
    exact ⟨valid, emits⟩
  · simp only [few, ↓reduceIte]
    by_cases failed : (session.driver.mInputReader.fill request.result).1 < 0
    · simp only [SyncSensor.readEvents, few, failed, ↓reduceIte, List.append_nil]
      refine ⟨still, ?_⟩
      rw [appended]
      exact emits.append _
    · have read : SyncReadSpec (syncDecoder processEvent) session.driver request.count
          request.result.arrived
          (session.driver.readEvents processEvent request.count request.result) :=
        SyncSensor.readEvents_of_fill (by omega) (by omega) still appended
      exact ⟨read.valid, (emits.append _).trans read.decodes⟩

/-- Any calls of `readEvents` emit the decoding of the events they have read. -/
theorem Reads.emitted_eq {pending : SensorsEvent F} {events : List InputEvent}
    {emitted : List (SensorsEvent F)} (reads : Reads processEvent pending events emitted) :
    emitted = (syncDecoder processEvent).outputs pending events := by
  obtain ⟨driver, requests, last, valid, empty, rfl, reached, delivered, rfl⟩ := reads
  have initially : ReadSession.Decoding processEvent driver.mPendingEvent ⟨driver, [], []⟩ := by
    refine ⟨valid, ?_⟩
    rw [empty]
    exact .refl _ _ _
  have holds : last.Decoding processEvent driver.mPendingEvent :=
    invariant_of_step _ (fun _ _ _ holds taken => holds.call taken) initially reached
  have emits := holds.emits
  rw [delivered] at emits
  apply emits.eq_outputs
  intro state other event
  unfold syncDecoder
  by_cases sync : event.type = EV_SYN <;> simp only [sync, ↓reduceIte, List.length_nil,
    List.length_singleton]

/-- One sensor event is emitted for every `EV_SYN`. -/
theorem length_outputs (pending : SensorsEvent F) (events : List InputEvent) :
    ((syncDecoder processEvent).outputs pending events).length =
      events.countP (·.type = EV_SYN) := by
  induction events generalizing pending with
  | nil => rfl
  | cons event rest ih =>
      rw [Transducer.outputs_cons, List.length_append, ih, List.countP_cons]
      unfold syncDecoder
      by_cases sync : event.type = EV_SYN
      · simp only [sync, decide_true, ↓reduceIte, List.length_singleton]
        omega
      · simp only [sync, decide_false, Bool.false_eq_true, ↓reduceIte, List.length_nil]
        omega

/-- The events of a stream have the type of their frame, or end it. -/
theorem type_of_mem_stream {frames : List Frame} {entry : FrameKind × InputEvent}
    (member : entry ∈ stream frames) :
    entry.2.type = entry.1.payloadType ∨ entry.2.type = EV_SYN := by
  obtain ⟨frame, _, inside⟩ := List.mem_flatMap.mp member
  obtain ⟨event, listed, rfl⟩ := List.mem_map.mp inside
  rcases List.mem_append.mp listed with payload | last
  · exact .inl (frame.typed event payload)
  · rw [List.mem_singleton.mp last]
    exact .inr frame.synced

/-- A driver that skips the payload of the other frames decodes as it would
without them if and only if it has read none of them to its end. -/
theorem outputs_without_iff {other : FrameKind}
    (skips : ∀ event pending, event.type = other.payloadType → processEvent event pending = pending)
    {frames : List Frame} {events : List (FrameKind × InputEvent)}
    (streamed : events <+: stream frames) (pending : SensorsEvent F) :
    (syncDecoder processEvent).outputs pending (events.map Prod.snd) =
        (syncDecoder processEvent).outputs pending (without other events) ↔
      ¬ Completed other events := by
  constructor
  · rintro same ⟨entry, member, kind, sync⟩
    have counts := congrArg List.length same
    rw [length_outputs, length_outputs, without, List.countP_map, List.countP_map,
      List.countP_eq_countP_filter_add events _ (fun entry => entry.1 ≠ other)] at counts
    -- The `EV_SYN` of the other frame is counted on one side only.
    have none : List.countP _ (events.filter fun entry => !decide (entry.1 ≠ other)) = 0 :=
      Nat.add_eq_left.mp counts
    have kept : entry ∈ events.filter fun entry => !decide (entry.1 ≠ other) := by
      simp [member, kind]
    exact List.countP_eq_zero.mp none entry kept (decide_eq_true sync)
  · intro incomplete
    apply Eq.symm
    apply Transducer.outputs_filter
    intro entry member removed state
    have kind : entry.1 = other := by simpa using removed
    have payload : entry.2.type = other.payloadType := by
      rcases type_of_mem_stream (streamed.subset member) with typed | sync
      · rw [typed, kind]
      · exact absurd ⟨entry, member, kind, sync⟩ incomplete
    have inside : ¬ entry.2.type = EV_SYN := fun sync =>
      incomplete ⟨entry, member, kind, sync⟩
    rw [syncDecoder_step_other _ inside, skips _ _ payload]

variable [FloatArith F]

/-- `SensorISL29030P` skips light events. -/
theorem SensorISL29030P.onEvent_light (event : InputEvent) (pending : SensorsEvent F)
    (light : event.type = FrameKind.light.payloadType) :
    SensorISL29030P.onEvent event pending = pending := by
  unfold SensorISL29030P.onEvent
  rw [light]
  rfl

/-- `SensorISL29030L` skips proximity events. -/
theorem SensorISL29030L.onEvent_proximity (event : InputEvent) (pending : SensorsEvent F)
    (proximity : event.type = FrameKind.proximity.payloadType) :
    SensorISL29030L.onEvent event pending = pending := by
  unfold SensorISL29030L.onEvent
  rw [proximity]
  rfl

/-- **Where proximity and light do not interfere.** Whatever whole frames the
device sends and however each of the two runs cuts them, `SensorISL29030P` emits
what it emits without the light frames if and only if it has read no light frame
to its end, and `SensorISL29030L` what it emits without the proximity frames if
and only if it has read no proximity frame to its end. -/
theorem noInterference_iff {frames : List Frame} {events : List (FrameKind × InputEvent)}
    (streamed : events <+: stream frames) (pending : SensorsEvent F)
    {emitted alone : List (SensorsEvent F)} :
    (Reads SensorISL29030P.onEvent pending (events.map Prod.snd) emitted →
        Reads SensorISL29030P.onEvent pending (without .light events) alone →
        (emitted = alone ↔ ¬ Completed .light events)) ∧
      (Reads SensorISL29030L.onEvent pending (events.map Prod.snd) emitted →
        Reads SensorISL29030L.onEvent pending (without .proximity events) alone →
        (emitted = alone ↔ ¬ Completed .proximity events)) := by
  constructor
  · intro reads readsAlone
    rw [reads.emitted_eq, readsAlone.emitted_eq]
    exact outputs_without_iff SensorISL29030P.onEvent_light streamed pending
  · intro reads readsAlone
    rw [reads.emitted_eq, readsAlone.emitted_eq]
    exact outputs_without_iff SensorISL29030L.onEvent_proximity streamed pending

/-! ## Frames of both kinds -/

/-- A driver as its constructor makes it, with the sensor's pending event. -/
def opened (pending : SensorsEvent F) : SyncSensor F where
  devFd := true
  mEnabled := 1
  mInputReader := create 32 fun _ => ⟨0, 0, 0, 0, 0⟩
  mPendingEvent := pending

omit [FloatArith F] in
theorem reads_of_opened {pending : SensorsEvent F} (requests : List ReadRequest)
    {last : ReadSession F} {events : List InputEvent} {emitted : List (SensorsEvent F)}
    (reached : exec (ReadSession.call processEvent) ⟨opened pending, [], []⟩ requests = some last)
    (delivered : last.delivered = events ++ last.driver.mInputReader.queue)
    (stored : last.emitted = emitted) : Reads processEvent pending events emitted :=
  ⟨opened pending, requests, last, create_valid 32 (by decide) _, queue_create 32 _, rfl, reached,
    delivered, stored⟩

/-- An object comes near. -/
def nearFrame : Frame where
  kind := .proximity
  payload := [⟨1, 0, EV_ABS, ABS_DISTANCE, PROXIMITY_NEAR⟩]
  sync := ⟨1, 0, EV_SYN, 0, 0⟩
  typed := by decide
  synced := rfl

/-- It gets dark. -/
def darkFrame : Frame where
  kind := .light
  payload := [⟨2, 0, EV_LED, LED_MISC, 5⟩]
  sync := ⟨2, 0, EV_SYN, 0, 0⟩
  typed := by decide
  synced := rfl

/-- A pending event of the sensor with that type. -/
def pendingOf (sensor : Int) (value : Rat) (timestamp : Int) : SensorsEvent Rat :=
  ⟨sizeofSensorsEvent, sensor, sensor, timestamp, ⟨value, 0, 0, 0⟩⟩

/-- A near frame, and a dark frame without its `EV_SYN`. -/
def nearThenDark : List (FrameKind × InputEvent) := (stream [nearFrame, darkFrame]).take 3

/-- The proximity driver is not disturbed yet; the light driver has stored an
event at the end of the near frame, and none without it. -/
theorem nearThenDark_iff :
    ([pendingOf SENSOR_TYPE_PROXIMITY 0 1000000000] =
        [pendingOf SENSOR_TYPE_PROXIMITY 0 1000000000] ↔ ¬ Completed .light nearThenDark) ∧
      ([pendingOf SENSOR_TYPE_LIGHT 100 1000000000] = [] ↔
        ¬ Completed .proximity nearThenDark) := by
  have streamed : nearThenDark <+: stream [nearFrame, darkFrame] := List.take_prefix _ _
  refine ⟨(noInterference_iff streamed (pendingOf SENSOR_TYPE_PROXIMITY 100 0)).1 ?_ ?_,
    (noInterference_iff streamed (pendingOf SENSOR_TYPE_LIGHT 100 0)).2 ?_ ?_⟩
  · exact reads_of_opened [⟨4, .whole (nearThenDark.map Prod.snd)⟩]
      (Option.some_get (by decide +kernel)).symm (by decide +kernel) (by decide +kernel)
  · exact reads_of_opened [⟨4, .whole (without .light nearThenDark)⟩]
      (Option.some_get (by decide +kernel)).symm (by decide +kernel) (by decide +kernel)
  · exact reads_of_opened [⟨4, .whole (nearThenDark.map Prod.snd)⟩]
      (Option.some_get (by decide +kernel)).symm (by decide +kernel) (by decide +kernel)
  · exact reads_of_opened [⟨4, .whole (without .proximity nearThenDark)⟩]
      (Option.some_get (by decide +kernel)).symm (by decide +kernel) (by decide +kernel)

/-- The proximity driver repeats its event when it gets dark. -/
theorem darkFrame_interferes :
    ∃ emitted alone,
      Reads SensorISL29030P.onEvent (pendingOf SENSOR_TYPE_PROXIMITY 100 0)
        ((stream [darkFrame]).map Prod.snd) emitted ∧
      Reads SensorISL29030P.onEvent (pendingOf SENSOR_TYPE_PROXIMITY 100 0)
        (without .light (stream [darkFrame])) alone ∧
      emitted = [pendingOf SENSOR_TYPE_PROXIMITY 100 2000000000] ∧ alone = [] := by
  refine ⟨_, _, ?_, ?_, rfl, rfl⟩
  · exact reads_of_opened [⟨4, .whole ((stream [darkFrame]).map Prod.snd)⟩]
      (Option.some_get (by decide +kernel)).symm (by decide +kernel) (by decide +kernel)
  · exact reads_of_opened [] rfl rfl rfl

end Jordan.Sensors
