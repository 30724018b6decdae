import Jordan.Sensors.SensorEnable

/-! # The drivers behind one interface

`sensors_poll_context_t` holds its four drivers as `SensorBase` pointers.
`SensorBase.ReadSpec` says once for all of them what a call of `readEvents`
does to the reader, the pending events and the reference decoding.
-/

namespace Jordan.Sensors

open InputEventCircularReader

variable {F : Type}

/-- A driver, with what the kernel's device behind it holds. -/
inductive SensorBase (F : Type) where
  | kxtf9 (sensor : SyncSensor F) (device : Device)
  | ak8973 (sensor : SensorAK8973 F) (device : AkDevice)
  | isl29030P (sensor : SyncSensor F) (device : Device)
  | isl29030L (sensor : SyncSensor F) (device : Device)

namespace SensorBase

/-- The driver's `mInputReader`. -/
def reader : SensorBase F → InputEventCircularReader InputEvent
  | kxtf9 sensor _ => sensor.mInputReader
  | ak8973 sensor _ => sensor.mInputReader
  | isl29030P sensor _ => sensor.mInputReader
  | isl29030L sensor _ => sensor.mInputReader

/-- `hasPendingEvents`, which only the compass overrides. -/
def hasPendingEvents : SensorBase F → Bool
  | ak8973 sensor _ => sensor.mHasPendingEvent
  | _ => false

/-- The compass's `mPendingMask`; the other drivers keep none. -/
def pendingMask : SensorBase F → BitVec numSensors
  | ak8973 sensor _ => sensor.mPendingMask
  | _ => 0#4

/-- Whether `readEvents` gets to the `read` call of `fill`. -/
def Reads (sensor : SensorBase F) : Prop :=
  sensor.hasPendingEvents = false ∧ sensor.reader.mFreeSpace ≠ 0

instance (sensor : SensorBase F) : Decidable sensor.Reads :=
  inferInstanceAs (Decidable (_ ∧ _))

/-- `enable`, with the light driver of the Defy+ build. -/
def enable (sensor : SensorBase F) (call : EnableCall) : Int × SensorBase F :=
  match sensor with
  | kxtf9 sensor device =>
      let outcome := SensorKXTF9.enable sensor device call
      (outcome.err, kxtf9 outcome.driver outcome.device)
  | ak8973 sensor device =>
      let outcome := sensor.enable device call
      (outcome.err, ak8973 outcome.driver outcome.device)
  | isl29030P sensor device =>
      let outcome := SensorISL29030P.enable sensor device call
      (outcome.err, isl29030P outcome.driver outcome.device)
  | isl29030L sensor device =>
      let outcome := SensorISL29030L.enable sensor device call
      (outcome.err, isl29030L outcome.driver outcome.device)

/-- Switching a sensor on or off leaves what its driver has read. -/
theorem enable_held (sensor : SensorBase F) (call : EnableCall) :
    (sensor.enable call).2.reader = sensor.reader ∧
      (sensor.enable call).2.pendingMask = sensor.pendingMask := by
  cases sensor with
  | kxtf9 sensor device => exact ⟨SensorKXTF9.enable_mInputReader sensor device call, rfl⟩
  | ak8973 sensor device => exact SensorAK8973.enable_held sensor device call
  | isl29030P sensor device => exact ⟨SensorISL29030P.enable_mInputReader sensor device call, rfl⟩
  | isl29030L sensor device => exact ⟨SensorISL29030L.enable_mInputReader sensor device call, rfl⟩

variable [FloatArith F]

/-- `readEvents`, given what `read` returns if it is called and the time
`getTimestamp` reads. -/
def readEvents (sensor : SensorBase F) (count : Int) (result : ReadResult InputEvent)
    (clock : Int) : ReadOutcome (SensorBase F) (SensorsEvent F) :=
  match sensor with
  | kxtf9 sensor device =>
      let outcome := SensorKXTF9.readEvents sensor count result
      ⟨outcome.result, outcome.stored, kxtf9 outcome.driver device⟩
  | ak8973 sensor device =>
      let outcome := sensor.readEvents count result clock
      ⟨outcome.result, outcome.stored, ak8973 outcome.driver device⟩
  | isl29030P sensor device =>
      let outcome := SensorISL29030P.readEvents sensor count result
      ⟨outcome.result, outcome.stored, isl29030P outcome.driver device⟩
  | isl29030L sensor device =>
      let outcome := SensorISL29030L.readEvents sensor count result
      ⟨outcome.result, outcome.stored, isl29030L outcome.driver device⟩

/-- The reference decoding of a list of events, from the driver's state. -/
def outputs : SensorBase F → List InputEvent → List (SensorsEvent F)
  | kxtf9 sensor _ => (syncDecoder SensorKXTF9.onEvent).outputs sensor.mPendingEvent
  | ak8973 sensor _ => (akDecoder sensor.mEnabled).outputs sensor.toAkPending
  | isl29030P sensor _ => (syncDecoder SensorISL29030P.onEvent).outputs sensor.mPendingEvent
  | isl29030L sensor _ => (syncDecoder SensorISL29030L.onEvent).outputs sensor.mPendingEvent

theorem readEvents_fits (sensor : SensorBase F) {count : Int} (positive : 1 ≤ count)
    (result : ReadResult InputEvent) (clock : Int) :
    (sensor.readEvents count result clock).Fits count := by
  cases sensor with
  | kxtf9 sensor device =>
      obtain ⟨within, stored⟩ :=
        SyncSensor.readEvents_fits SensorKXTF9.onEvent sensor positive result
      exact ⟨within, stored⟩
  | ak8973 sensor device =>
      obtain ⟨within, stored⟩ := sensor.readEvents_fits positive result clock
      exact ⟨within, stored⟩
  | isl29030P sensor device =>
      obtain ⟨within, stored⟩ :=
        SyncSensor.readEvents_fits SensorISL29030P.onEvent sensor positive result
      exact ⟨within, stored⟩
  | isl29030L sensor device =>
      obtain ⟨within, stored⟩ :=
        SyncSensor.readEvents_fits SensorISL29030L.onEvent sensor positive result
      exact ⟨within, stored⟩

/-- What a call of `readEvents` does when no temperature event is pending and
`fill` appends the taken events, none if the reader is full. -/
structure ReadSpec (sensor : SensorBase F) (count : Int) (taken : List InputEvent)
    (outcome : ReadOutcome (SensorBase F) (SensorsEvent F)) : Prop where
  valid : outcome.driver.reader.Valid
  quiet : outcome.driver.hasPendingEvents = false
  result : outcome.result = outcome.stored.length
  exhausted : outcome.result < count → outcome.driver.reader.queue = []
  decodes : ∀ later, sensor.outputs (sensor.reader.queue ++ taken ++ later) =
    outcome.stored ++ outcome.driver.outputs (outcome.driver.reader.queue ++ later)
  pendingSince : ∃ consumed,
    sensor.reader.queue ++ taken = consumed ++ outcome.driver.reader.queue ∧
      Within outcome.driver.pendingMask (sinceSyn sensor.pendingMask consumed)

theorem within_zero (bits : BitVec numSensors) : Within 0#4 bits := by
  intro what held
  rw [BitVec.getLsbD_zero] at held
  cases held

/-- A driver with one pending event meets the common specification. -/
theorem readSpec_of_sync {decoder : Transducer (SensorsEvent F) InputEvent (SensorsEvent F)}
    {sensor : SyncSensor F} {count : Int} {taken : List InputEvent}
    {outcome : ReadOutcome (SyncSensor F) (SensorsEvent F)}
    (spec : SyncReadSpec decoder sensor count taken outcome)
    (kind : SyncSensor F → SensorBase F)
    (reader : ∀ sensor, (kind sensor).reader = sensor.mInputReader)
    (quiet : ∀ sensor, (kind sensor).hasPendingEvents = false)
    (mask : ∀ sensor, (kind sensor).pendingMask = 0#4)
    (outputs : ∀ sensor, (kind sensor).outputs = decoder.outputs sensor.mPendingEvent) :
    ReadSpec (kind sensor) count taken ⟨outcome.result, outcome.stored, kind outcome.driver⟩ := by
  obtain ⟨valid, result, exhausted, decodes, consumed, split⟩ := spec
  refine ⟨?_, quiet _, result, ?_, ?_, consumed, ?_, ?_⟩
  · rw [reader]
    exact valid
  · rw [reader]
    exact exhausted
  · simp only [outputs, reader]
    exact decodes
  · simp only [reader]
    exact split
  · simp only [mask]
    exact within_zero _

variable {sensor : SensorBase F} {count : Int} (clock : Int)

/-- **Piecewise decoding**, for every driver. -/
theorem readEvents_of_fill (positive : 1 ≤ count) (quiet : sensor.hasPendingEvents = false)
    {result : ReadResult InputEvent} {taken : List InputEvent}
    (success : 0 ≤ (sensor.reader.fill result).1) (valid : (sensor.reader.fill result).2.Valid)
    (queue : (sensor.reader.fill result).2.queue = sensor.reader.queue ++ taken) :
    ReadSpec sensor count taken (sensor.readEvents count result clock) := by
  cases sensor with
  | kxtf9 sensor device =>
      exact readSpec_of_sync (SyncSensor.readEvents_of_fill positive success valid queue)
        (kxtf9 · device) (fun _ => rfl) (fun _ => rfl) (fun _ => rfl) (fun _ => rfl)
  | ak8973 sensor device =>
      obtain ⟨validAfter, enabled, quietAfter, result, exhausted, decodes, since⟩ :=
        SensorAK8973.readEvents_of_fill clock positive quiet success valid queue
      refine ⟨validAfter, quietAfter, result, exhausted, ?_, since⟩
      intro later
      refine (decodes later).trans ?_
      rw [← enabled]
      rfl
  | isl29030P sensor device =>
      exact readSpec_of_sync (SyncSensor.readEvents_of_fill positive success valid queue)
        (isl29030P · device) (fun _ => rfl) (fun _ => rfl) (fun _ => rfl) (fun _ => rfl)
  | isl29030L sensor device =>
      exact readSpec_of_sync (SyncSensor.readEvents_of_fill positive success valid queue)
        (isl29030L · device) (fun _ => rfl) (fun _ => rfl) (fun _ => rfl) (fun _ => rfl)

/-- Whole events that fit the free space are appended to the reader. -/
theorem readEvents_whole (positive : 1 ≤ count) (valid : sensor.reader.Valid)
    (reads : sensor.Reads) (taken : List InputEvent)
    (room : taken.length ≤ sensor.reader.mFreeSpace) :
    ReadSpec sensor count taken (sensor.readEvents count (.whole taken) clock) := by
  obtain ⟨quiet, free⟩ := reads
  obtain ⟨number, validAfter, queue⟩ := fill_whole valid taken free room
  exact readEvents_of_fill clock positive quiet (by omega) validAfter queue

/-- A full reader is not filled. -/
theorem readEvents_full (positive : 1 ≤ count) (valid : sensor.reader.Valid)
    (quiet : sensor.hasPendingEvents = false) (full : sensor.reader.mFreeSpace = 0)
    (result : ReadResult InputEvent) :
    ReadSpec sensor count [] (sensor.readEvents count result clock) := by
  have unchanged := fill_full sensor.reader full result
  apply readEvents_of_fill clock positive quiet <;> rw [unchanged]
  · exact valid
  · exact (List.append_nil _).symm

/-- A pending temperature event is stored alone, and the reader is left as it is. -/
theorem readEvents_pending (positive : 1 ≤ count) (waiting : sensor.hasPendingEvents = true)
    (result : ReadResult InputEvent) :
    (sensor.readEvents count result clock).result = 1 ∧
      (sensor.readEvents count result clock).stored.length = 1 ∧
      (sensor.readEvents count result clock).driver.hasPendingEvents = false ∧
      (sensor.readEvents count result clock).driver.reader = sensor.reader ∧
      (sensor.readEvents count result clock).driver.pendingMask = sensor.pendingMask := by
  cases sensor with
  | ak8973 sensor device =>
      simp only [readEvents, SensorAK8973.readEvents_temperature clock positive waiting]
      exact ⟨trivial, rfl, rfl, rfl, rfl⟩
  | kxtf9 sensor device => cases waiting
  | isl29030P sensor device => cases waiting
  | isl29030L sensor device => cases waiting

/-- A failing `read` is returned, and the driver is left as it is. -/
theorem readEvents_error (positive : 1 ≤ count) (reads : sensor.Reads) (errno : Errno) :
    sensor.readEvents count (.error errno) clock = ⟨errno.neg, [], sensor⟩ := by
  obtain ⟨quiet, free⟩ := reads
  have enough : ¬ count < 1 := by omega
  have negative := errno.neg_lt_zero
  cases sensor with
  | ak8973 sensor device =>
      have waiting : sensor.mHasPendingEvent = false := quiet
      simp only [readEvents, SensorAK8973.readEvents, enough, waiting, Bool.false_eq_true,
        ↓reduceIte, fill_error sensor.mInputReader free, negative]
      rw [← waiting]
  | kxtf9 sensor device =>
      simp only [readEvents, SensorKXTF9.readEvents, SyncSensor.readEvents, enough, ↓reduceIte,
        fill_error sensor.mInputReader free, negative]
  | isl29030P sensor device =>
      simp only [readEvents, SensorISL29030P.readEvents, SyncSensor.readEvents, enough,
        ↓reduceIte, fill_error sensor.mInputReader free, negative]
  | isl29030L sensor device =>
      simp only [readEvents, SensorISL29030L.readEvents, SyncSensor.readEvents, enough,
        ↓reduceIte, fill_error sensor.mInputReader free, negative]

end SensorBase

end Jordan.Sensors
