import Jordan.Sensors.PollLoop

/-! # The running HAL

The drivers read from queues in the kernel to which events are added at any
time. A client calls `pollEvents` with the counts it likes; `activate` runs
between two calls, or while one sleeps in `poll`. `read` returns any positive
number of whole events that fit, or fails, and does not return while the queue
is empty; `poll` reports the descriptors whose queue is not empty.
-/

namespace Jordan.Sensors

open Execution InputEventCircularReader

variable {F : Type}

/-- The drivers, the kernel's event queues and the messages in the wake pipe.
`read` keeps the events read so far. -/
structure HalWorld (F : Type) where
  mSensors : Fin numSensorDrivers → SensorBase F
  kernel : Fin numSensorDrivers → List InputEvent
  read : Fin numSensorDrivers → List InputEvent
  wakeMessages : Nat

/-- What `read` does: take a number of events, or fail. -/
inductive HalRead where
  | took (number : Nat)
  | failed (errno : Errno)

/-- The environment of a call of `readEvents`: its `read`, and the time. -/
structure HalIo where
  read : HalRead
  clock : Int

/-- Replace a driver after it has taken events from its queue. -/
def HalWorld.advance (world : HalWorld F) (i : Fin numSensorDrivers) (driver : SensorBase F)
    (taken rest : List InputEvent) : HalWorld F where
  mSensors := Function.update world.mSensors i driver
  kernel := Function.update world.kernel i rest
  read := Function.update world.read i (world.read i ++ taken)
  wakeMessages := world.wakeMessages

section Drivers

variable [FloatArith F]

/-- `readEvents` of a driver on its kernel queue. -/
def HalWorld.readEvents (world : HalWorld F) (i : Fin numSensorDrivers) (count : Int)
    (io : HalIo) : Option (ReadOutcome (HalWorld F) (SensorsEvent F)) :=
  let sensor := world.mSensors i
  let queue := world.kernel i
  let finish (result : ReadResult InputEvent) (number : Nat) :=
    let outcome := sensor.readEvents count result io.clock
    some ⟨outcome.result, outcome.stored,
      world.advance i outcome.driver (queue.take number) (queue.drop number)⟩
  if sensor.Reads then
    match io.read with
    | .took number =>
        if 1 ≤ number ∧ number ≤ sensor.reader.mFreeSpace ∧ number ≤ queue.length then
          finish (.whole (queue.take number)) number
        else none
    | .failed errno => finish (.error errno) 0
  else finish (.whole []) 0

/-- The drivers of the running HAL. -/
def halDrivers : SensorDrivers (HalWorld F) HalIo (SensorsEvent F) where
  hasPendingEvents world i := (world.mSensors i).hasPendingEvents
  readEvents := HalWorld.readEvents
  readWake world := { world with wakeMessages := world.wakeMessages - 1 }
  fits := by
    intro world i count io outcome positive called
    have finished (result : ReadResult InputEvent) (after : HalWorld F)
        (same : ⟨((world.mSensors i).readEvents count result io.clock).result,
          ((world.mSensors i).readEvents count result io.clock).stored, after⟩ = outcome) :
        outcome.Fits count := by
      obtain ⟨within, stored⟩ := (world.mSensors i).readEvents_fits positive result io.clock
      exact same ▸ ⟨within, stored⟩
    simp only [HalWorld.readEvents] at called
    split at called
    · split at called
      · split at called
        · exact finished _ _ (Option.some.inj called)
        · cases called
      · exact finished _ _ (Option.some.inj called)
    · exact finished _ _ (Option.some.inj called)

end Drivers

/-- A state of the HAL: the call of `pollEvents` in progress, or the last one,
and the events that finished calls have returned, by driver. -/
structure HalState (F : Type) where
  poll : PollState (HalWorld F) (SensorsEvent F)
  delivered : Fin numSensorDrivers → List (SensorsEvent F)

/-- What can happen. -/
inductive HalAction where
  | arrive (i : Fin numSensorDrivers) (events : List InputEvent)
  | activate (call : EnableCall)
  | call (count : Int)
  | turn (io : HalIo)
  | pollFails (errno : Errno) (revents : Fin numFds → Bool)
  | pollReturns

/-- No call of `pollEvents` is in progress. -/
def PollLoc.Idle : PollLoc → Prop
  | .scan _ => False
  | .polling => False
  | .failed _ => True
  | .returned _ => True

instance : DecidablePred PollLoc.Idle := fun loc =>
  match loc with
  | .scan _ => .isFalse id
  | .polling => .isFalse id
  | .failed _ => .isTrue trivial
  | .returned _ => .isTrue trivial

@[simp] theorem PollLoc.idle_scan (i : Nat) : (PollLoc.scan i).Idle ↔ False := Iff.rfl
@[simp] theorem PollLoc.idle_polling : PollLoc.polling.Idle ↔ False := Iff.rfl
@[simp] theorem PollLoc.idle_failed (errno : Errno) : (PollLoc.failed errno).Idle ↔ True := Iff.rfl
@[simp] theorem PollLoc.idle_returned (nb : Int) : (PollLoc.returned nb).Idle ↔ True := Iff.rfl

/-- The HAL is called from outside only between the reads of the devices. -/
theorem PollLoc.ne_scan_of_outside {loc : PollLoc} (outside : loc.Idle ∨ loc = .polling) (i : Nat) :
    loc ≠ .scan i := by
  rintro rfl
  rcases outside with idle | polling
  · exact idle
  · cases polling

/-- The events that calls of `readEvents` stored for a driver. -/
def storedOf {Event : Type} (i : Fin numSensorDrivers) (calls : List (ReadCall Event)) :
    List Event :=
  (calls.filter (·.driver = i)).flatMap (·.stored)

/-- Hand over the events of a call that returns. -/
def HalState.settle (state : HalState F) (poll : PollState (HalWorld F) (SensorsEvent F)) :
    HalState F where
  poll := poll
  delivered i :=
    match poll.loc with
    | .returned _ => state.delivered i ++ storedOf i poll.calls
    | _ => state.delivered i

/-- The descriptors `poll` reports. -/
def HalWorld.readable (world : HalWorld F) : Fin numFds → Bool :=
  Fin.lastCases (decide (world.wakeMessages ≠ 0)) fun i => !(world.kernel i).isEmpty

/-- `handleToDriver`, with `USE_KXTF9_ACCELEROMETER`. -/
def handleToDriver (handle : Int) : Option (Fin numSensorDrivers) :=
  if handle = SENSOR_TYPE_ACCELEROMETER then some KXTF9
  else if handle = SENSOR_TYPE_ORIENTATION ∨ handle = SENSOR_TYPE_MAGNETIC_FIELD ∨
      handle = SENSOR_TYPE_AMBIENT_TEMPERATURE then some AK8973
  else if handle = SENSOR_TYPE_PROXIMITY then some ISL29030P
  else if handle = SENSOR_TYPE_LIGHT then some ISL29030L
  else none

/-- `activate`. -/
def HalWorld.activate (world : HalWorld F) (call : EnableCall) : Int × HalWorld F :=
  match handleToDriver call.handle with
  | none => (EINVAL.neg, world)
  | some i =>
      let enabled := (world.mSensors i).enable call
      (enabled.1, { world with
        mSensors := Function.update world.mSensors i enabled.2
        wakeMessages := if call.en ≠ 0 ∧ enabled.1 = 0 then world.wakeMessages + 1
          else world.wakeMessages })

/-- Change the world and nothing else. -/
def HalState.setWorld (state : HalState F) (world : HalWorld F) : HalState F :=
  { state with poll.world := world }

/-- One step of the HAL. -/
def halStep [FloatArith F] (state : HalState F) : HalAction → Option (HalState F)
  | .arrive i events =>
      let world := state.poll.world
      some (state.setWorld { world with
        kernel := Function.update world.kernel i (world.kernel i ++ events) })
  | .activate call =>
      if state.poll.loc.Idle ∨ state.poll.loc = .polling then
        some (state.setWorld (state.poll.world.activate call).2)
      else none
  | .call count =>
      if state.poll.loc.Idle ∧ 1 ≤ count then
        some { state with poll := pollEvents state.poll.world state.poll.revents count }
      else none
  | .turn io => (pollStep halDrivers state.poll (.turn io)).map state.settle
  | .pollFails errno revents =>
      (pollStep halDrivers state.poll (.pollReturn (.error errno) revents)).map state.settle
  | .pollReturns =>
      let revents := state.poll.world.readable
      let n := (List.finRange numFds).countP revents
      if n = 0 ∧ state.poll.timeout = -1 then none
      else (pollStep halDrivers state.poll (.pollReturn (.ready n) revents)).map state.settle

/-- A turn of the loop whose `read`, if it is called, takes a number of events. -/
def HalAction.take (number : Nat) : HalAction := .turn ⟨.took number, 0⟩

/-- The turns of a scan in which no driver is ready, and the return of `poll`. -/
def HalAction.sleep : List HalAction := List.replicate 5 (.take 0) ++ [.pollReturns]

/-- A HAL with the given drivers before its first call, nothing queued. -/
def HalState.create (mSensors : Fin numSensorDrivers → SensorBase F) : HalState F where
  poll :=
    { world := { mSensors, kernel := fun _ => [], read := fun _ => [], wakeMessages := 0 }
      revents := fun _ => false
      loc := .returned 0
      frame := ⟨0, 0, 0⟩
      calls := [] }
  delivered := fun _ => []

/-! ## What a call of `readEvents` does to the world -/

section Reading

variable [FloatArith F] {world : HalWorld F} {i : Fin numSensorDrivers} {count : Int} {io : HalIo}

/-- The ways `readEvents` can go: it stores the pending temperature event, its
`read` fails, or it decodes what it took from the queue, if anything. -/
inductive ReadTaken (world : HalWorld F) (i : Fin numSensorDrivers) (count : Int) (io : HalIo) :
    ReadOutcome (HalWorld F) (SensorsEvent F) → Prop
  | pending (waiting : (world.mSensors i).hasPendingEvents = true)
      (event : SensorsEvent F) (driver : SensorBase F)
      (quiet : driver.hasPendingEvents = false)
      (reader : driver.reader = (world.mSensors i).reader)
      (mask : driver.pendingMask = (world.mSensors i).pendingMask) :
      ReadTaken world i count io
        ⟨1, [event], { world with mSensors := Function.update world.mSensors i driver }⟩
  | failed (errno : Errno) (failure : io.read = .failed errno) :
      ReadTaken world i count io ⟨errno.neg, [], world⟩
  | decoded (taken rest : List InputEvent) (split : world.kernel i = taken ++ rest)
      (quiet : (world.mSensors i).hasPendingEvents = false)
      (outcome : ReadOutcome (SensorBase F) (SensorsEvent F))
      (spec : (world.mSensors i).ReadSpec count taken outcome) :
      ReadTaken world i count io
        ⟨outcome.result, outcome.stored, world.advance i outcome.driver taken rest⟩

omit [FloatArith F] in
/-- Taking nothing changes no queue. -/
theorem HalWorld.advance_nil (world : HalWorld F) (i : Fin numSensorDrivers)
    (driver : SensorBase F) :
    world.advance i driver [] (world.kernel i) =
      { world with mSensors := Function.update world.mSensors i driver } := by
  simp only [HalWorld.advance, List.append_nil, Function.update_eq_self]

/-- Only the driver and its own queue change. -/
theorem readEvents_advance {outcome : ReadOutcome (HalWorld F) (SensorsEvent F)}
    (called : halDrivers.readEvents world i count io = some outcome) :
    ∃ driver taken rest, outcome.driver = world.advance i driver taken rest := by
  simp only [halDrivers, HalWorld.readEvents] at called
  split at called
  · split at called
    · split at called
      · exact ⟨_, _, _, (congrArg ReadOutcome.driver (Option.some.inj called)).symm⟩
      · cases called
    · exact ⟨_, _, _, (congrArg ReadOutcome.driver (Option.some.inj called)).symm⟩
  · exact ⟨_, _, _, (congrArg ReadOutcome.driver (Option.some.inj called)).symm⟩

/-- A read that a driver is called for does what `ReadTaken` says. -/
theorem readEvents_taken (positive : 1 ≤ count) (valid : (world.mSensors i).reader.Valid)
    {outcome : ReadOutcome (HalWorld F) (SensorsEvent F)}
    (called : halDrivers.readEvents world i count io = some outcome) :
    ReadTaken world i count io outcome := by
  simp only [halDrivers, HalWorld.readEvents] at called
  by_cases reads : (world.mSensors i).Reads
  · simp only [reads, ↓reduceIte] at called
    split at called
    next number taken =>
      split at called
      next bounds =>
        have room : ((world.kernel i).take number).length ≤
            (world.mSensors i).reader.mFreeSpace := by
          rw [List.length_take]
          omega
        rw [Option.some.injEq] at called
        subst called
        exact .decoded _ _ (List.take_append_drop number (world.kernel i)).symm reads.1 _
          (SensorBase.readEvents_whole io.clock positive valid reads _ room)
      next => cases called
    next errno failure =>
      rw [Option.some.injEq] at called
      subst called
      rw [SensorBase.readEvents_error io.clock positive reads, List.take_zero, List.drop_zero,
        HalWorld.advance_nil, Function.update_eq_self]
      exact .failed errno failure
  · simp only [reads, ↓reduceIte, List.take_zero, List.drop_zero, Option.some.injEq] at called
    subst called
    by_cases waiting : (world.mSensors i).hasPendingEvents = true
    · obtain ⟨result, stored, quiet, reader, mask⟩ :=
        SensorBase.readEvents_pending io.clock positive waiting (.whole [])
      obtain ⟨event, one⟩ := List.length_eq_one_iff.mp stored
      rw [result, one, HalWorld.advance_nil]
      exact .pending waiting event _ quiet reader mask
    · have quiet : (world.mSensors i).hasPendingEvents = false :=
        Bool.eq_false_of_not_eq_true waiting
      have full : (world.mSensors i).reader.mFreeSpace = 0 := by
        by_contra free
        exact reads ⟨quiet, free⟩
      exact .decoded [] (world.kernel i) (List.nil_append _).symm quiet _
        (SensorBase.readEvents_full io.clock positive valid quiet full (.whole []))

end Reading

/-- Reading the wake pipe leaves the drivers and their queues. -/
theorem readWake_mSensors [FloatArith F] (world : HalWorld F) (woken : Prop) [Decidable woken] :
    (if woken then halDrivers.readWake world else world).mSensors = world.mSensors := by
  split <;> rfl

/-- Reading the wake pipe leaves the events in the kernel. -/
theorem readWake_kernel [FloatArith F] (world : HalWorld F) (woken : Prop) [Decidable woken] :
    (if woken then halDrivers.readWake world else world).kernel = world.kernel := by
  split <;> rfl

/-- Reading the wake pipe leaves what has been read. -/
theorem readWake_read [FloatArith F] (world : HalWorld F) (woken : Prop) [Decidable woken] :
    (if woken then halDrivers.readWake world else world).read = world.read := by
  split <;> rfl

/-! ## What a step does -/

section Steps

variable [FloatArith F] {before after : HalState F}

/-- The steps of the HAL; a step of `pollEvents` is one of `PollTaken`. -/
inductive HalTaken (before : HalState F) : HalAction → HalState F → Prop
  | arrive (i : Fin numSensorDrivers) (events : List InputEvent) :
      HalTaken before (.arrive i events) (before.setWorld { before.poll.world with
        kernel := Function.update before.poll.world.kernel i
          (before.poll.world.kernel i ++ events) })
  | activate (call : EnableCall)
      (outside : before.poll.loc.Idle ∨ before.poll.loc = .polling) :
      HalTaken before (.activate call) (before.setWorld (before.poll.world.activate call).2)
  | call (count : Int) (idle : before.poll.loc.Idle) (positive : 1 ≤ count) :
      HalTaken before (.call count)
        { before with poll := pollEvents before.poll.world before.poll.revents count }
  | turn (io : HalIo) (poll : PollState (HalWorld F) (SensorsEvent F))
      (taken : PollTaken halDrivers before.poll (.turn io) poll) :
      HalTaken before (.turn io) (before.settle poll)
  | pollFails (errno : Errno) (revents : Fin numFds → Bool)
      (here : before.poll.loc = .polling) :
      HalTaken before (.pollFails errno revents)
        (before.settle { before.poll with revents := revents, loc := .failed errno })
  | pollReturns (poll : PollState (HalWorld F) (SensorsEvent F))
      (here : before.poll.loc = .polling)
      (taken : PollTaken halDrivers before.poll (.pollReturn
        (.ready ((List.finRange numFds).countP before.poll.world.readable))
        before.poll.world.readable) poll) :
      HalTaken before .pollReturns (before.settle poll)

/-- A step of the HAL is one of the cases of `HalTaken`. -/
theorem halStep_taken {action : HalAction} (taken : halStep before action = some after) :
    HalTaken before action after := by
  cases action with
  | arrive i events =>
      rw [halStep, Option.some.injEq] at taken
      exact taken ▸ .arrive i events
  | activate call =>
      simp only [halStep] at taken
      split at taken
      next outside =>
        rw [Option.some.injEq] at taken
        exact taken ▸ .activate call outside
      next => cases taken
  | call count =>
      simp only [halStep] at taken
      split at taken
      next entered =>
        rw [Option.some.injEq] at taken
        exact taken ▸ .call count entered.1 entered.2
      next => cases taken
  | turn io =>
      obtain ⟨poll, step, rfl⟩ := Option.map_eq_some_iff.mp taken
      exact .turn io poll (pollStep_taken step)
  | pollFails errno revents =>
      obtain ⟨poll, step, rfl⟩ := Option.map_eq_some_iff.mp taken
      cases pollStep_taken step with
      | pollError _ _ here => exact .pollFails errno revents here
  | pollReturns =>
      simp only [halStep] at taken
      split at taken
      next => cases taken
      next =>
        obtain ⟨poll, step, rfl⟩ := Option.map_eq_some_iff.mp taken
        have ready := pollStep_taken step
        cases ready with
        | pollReady _ _ here => exact .pollReturns _ here (pollStep_taken step)

end Steps

end Jordan.Sensors
