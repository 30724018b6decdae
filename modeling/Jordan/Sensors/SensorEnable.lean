import Jordan.Library.Execution
import Jordan.Sensors.SensorAK8973

/-! # Switching sensors on and off

Each driver keeps its own record `mEnabled` of what it last told the kernel by a
SET ioctl, and holds `dev_fd` open while a sensor is on. `enable` is written out
four times; the copies differ in what a failed ioctl does to the record. For the
compass the record and the kernel agree after every successful call, in every
history (`akEnable_agrees`); a call of the accelerometer keeps them together
exactly when it is not a switch-off that is refused (`SensorKXTF9.agrees_iff`).
-/

namespace Jordan.Sensors

open Execution BitMask

/-- What the system calls of one `enable` or `setDelay` do: whether `open`
succeeds, and what the ioctls answer on an open descriptor. -/
structure DeviceIo where
  opens : Bool
  set : Option Errno
  delay : Option Errno

/-- An ioctl as the drivers report it, `err < 0 ? -errno : 0`. -/
def ioctl (devFd : Bool) (answer : Option Errno) : Int :=
  if devFd then answer.elim 0 Errno.neg else EBADF.neg

/-- The call succeeds exactly if the device is open and the driver answers with no error. -/
theorem ioctl_eq_zero_iff {devFd : Bool} {answer : Option Errno} :
    ioctl devFd answer = 0 ↔ devFd = true ∧ answer = none := by
  unfold ioctl
  cases devFd with
  | false => simp [EBADF, Errno.neg]
  | true =>
      cases answer with
      | none => simp
      | some errno => simpa using Int.ne_of_lt errno.neg_lt_zero

/-- What a call returns and leaves behind, in the driver and in the kernel. -/
structure EnableOutcome (Driver Device : Type) where
  err : Int
  driver : Driver
  device : Device

/-- A call `enable(handle, en)` and what its system calls do. -/
structure EnableCall where
  handle : Int
  en : Int
  io : DeviceIo

/-- `en ? 1 : 0`. -/
def newState (en : Int) : Nat := if en ≠ 0 then 1 else 0

variable {F : Type}

/-! ## The drivers of one sensor -/

/-- What the kernel holds for one sensor. It changes only by successful ioctls. -/
structure Device where
  enabled : Bool
  delay : Int
deriving DecidableEq, Repr

/-- `SensorBase::openDevice`. -/
def SyncSensor.openDevice (sensor : SyncSensor F) (opens : Bool) : SyncSensor F :=
  if sensor.devFd then sensor else { sensor with devFd := opens }

@[simp] theorem SyncSensor.openDevice_mEnabled (sensor : SyncSensor F) (opens : Bool) :
    (sensor.openDevice opens).mEnabled = sensor.mEnabled := by
  unfold SyncSensor.openDevice
  split <;> rfl

@[simp] theorem SyncSensor.openDevice_mInputReader (sensor : SyncSensor F) (opens : Bool) :
    (sensor.openDevice opens).mInputReader = sensor.mInputReader := by
  unfold SyncSensor.openDevice
  split <;> rfl

/-- `SensorBase::closeDevice`. -/
def SyncSensor.closeDevice (sensor : SyncSensor F) : SyncSensor F := { sensor with devFd := false }

/-- `KXTF9_DEFAULT_DELAY`, in nanoseconds. -/
def KXTF9_DEFAULT_DELAY : Int := 200 * 1000000

/-- `SensorKXTF9::setDelay`. -/
def SensorKXTF9.setDelay (sensor : SyncSensor F) (device : Device) (ns : Int) (io : DeviceIo) :
    EnableOutcome (SyncSensor F) Device :=
  if sensor.mEnabled ≠ 0 then
    if ns < 0 then ⟨EINVAL.neg, sensor, device⟩
    else
      let err := ioctl sensor.devFd io.delay
      ⟨err, sensor,
        if err = 0 then { device with delay := (BitVec.ofInt 32 (ns.tdiv 1000000)).toInt }
        else device⟩
  else ⟨0, sensor, device⟩

@[simp] theorem SensorKXTF9.setDelay_driver (sensor : SyncSensor F) (device : Device) (ns : Int)
    (io : DeviceIo) : (SensorKXTF9.setDelay sensor device ns io).driver = sensor := by
  unfold SensorKXTF9.setDelay
  split_ifs <;> rfl

/-- Setting the delay leaves the enable flag alone. -/
@[simp] theorem SensorKXTF9.setDelay_enabled (sensor : SyncSensor F) (device : Device) (ns : Int)
    (io : DeviceIo) :
    (SensorKXTF9.setDelay sensor device ns io).device.enabled = device.enabled := by
  simp only [SensorKXTF9.setDelay]
  split_ifs <;> rfl

/-- `SensorKXTF9::enable`. After a failed switch-off, `setDelay` overwrites `err`. -/
def SensorKXTF9.enable (sensor : SyncSensor F) (device : Device) (call : EnableCall) :
    EnableOutcome (SyncSensor F) Device :=
  let newState := newState call.en
  if sensor.mEnabled = newState then ⟨0, sensor, device⟩
  else
    let sensor := if sensor.mEnabled = 0 then sensor.openDevice call.io.opens else sensor
    let err := ioctl sensor.devFd call.io.set
    let device := if err = 0 then { device with enabled := newState ≠ 0 } else device
    let switched : EnableOutcome (SyncSensor F) Device :=
      if err = 0 ∨ newState = 0 then
        SensorKXTF9.setDelay { sensor with mEnabled := newState } device KXTF9_DEFAULT_DELAY call.io
      else ⟨err, sensor, device⟩
    { switched with
      driver := if switched.driver.mEnabled = 0 then switched.driver.closeDevice
        else switched.driver }

/-- `SensorISL29030P::enable`. -/
def SensorISL29030P.enable (sensor : SyncSensor F) (device : Device) (call : EnableCall) :
    EnableOutcome (SyncSensor F) Device :=
  let newState := newState call.en
  if newState = sensor.mEnabled then ⟨0, sensor, device⟩
  else
    let sensor := if sensor.mEnabled = 0 then sensor.openDevice call.io.opens else sensor
    let err := ioctl sensor.devFd call.io.set
    let device := if err = 0 then { device with enabled := newState ≠ 0 } else device
    let sensor := if err = 0 ∨ newState = 0 then { sensor with mEnabled := newState } else sensor
    ⟨err, if sensor.mEnabled = 0 then sensor.closeDevice else sensor, device⟩

/-- `SensorISL29030L::enable` of the Defy+ build. The last assignment is made
whatever the ioctl answered. -/
def SensorISL29030L.enable (sensor : SyncSensor F) (device : Device) (call : EnableCall) :
    EnableOutcome (SyncSensor F) Device :=
  let newState := newState call.en
  if newState = sensor.mEnabled then ⟨0, sensor, device⟩
  else
    let sensor := if sensor.mEnabled = 0 then sensor.openDevice call.io.opens else sensor
    let err := ioctl sensor.devFd call.io.set
    let device := if err = 0 then { device with enabled := newState ≠ 0 } else device
    let sensor := if err = 0 ∨ newState = 0 then { sensor with mEnabled := newState } else sensor
    let sensor := if sensor.mEnabled = 0 then sensor.closeDevice else sensor
    ⟨err, { sensor with mEnabled := newState }, device⟩

/-! ## The compass -/

/-- What the kernel holds for the four sensors of the compass. -/
structure AkDevice where
  enabled : BitVec numSensors
  delay : Int
deriving DecidableEq, Repr

/-- `SensorBase::openDevice`. -/
def SensorAK8973.openDevice (sensor : SensorAK8973 F) (opens : Bool) : SensorAK8973 F :=
  if sensor.devFd then sensor else { sensor with devFd := opens }

/-- `SensorBase::closeDevice`. -/
def SensorAK8973.closeDevice (sensor : SensorAK8973 F) : SensorAK8973 F :=
  { sensor with devFd := false }

/-- The `switch (handle)` of `SensorAK8973::enable` and `setDelay`. -/
def SensorAK8973.ofHandle (handle : Int) : Option (Fin numSensors) :=
  if handle = SENSOR_TYPE_ACCELEROMETER then some Accelerometer
  else if handle = SENSOR_TYPE_MAGNETIC_FIELD then some MagneticField
  else if handle = SENSOR_TYPE_ORIENTATION then some Orientation
  else if handle = SENSOR_TYPE_AMBIENT_TEMPERATURE then some Temperature
  else none

/-- The smallest delay of the enabled sensors, as an unsigned number. -/
def SensorAK8973.wanted (sensor : SensorAK8973 F) : U64 :=
  (List.finRange numSensors).foldl
    (fun wanted (what : Fin numSensors) =>
      if sensor.mEnabled &&& bit what ≠ 0#4 then
        if wanted < sensor.mDelays what then wanted else sensor.mDelays what
      else wanted)
    (BitVec.allOnes 64)

/-- `SensorAK8973::updateDelay`; the delay goes to the kernel as a `short`. -/
def SensorAK8973.updateDelay (sensor : SensorAK8973 F) (device : AkDevice) (io : DeviceIo) :
    EnableOutcome (SensorAK8973 F) AkDevice :=
  if sensor.mEnabled ≠ 0#4 then
    let err := ioctl sensor.devFd io.delay
    ⟨err, sensor,
      if err = 0 then
        { device with delay := (BitVec.ofInt 16 (sensor.wanted.toInt.tdiv 1000000)).toInt }
      else device⟩
  else ⟨0, sensor, device⟩

@[simp] theorem SensorAK8973.updateDelay_driver (sensor : SensorAK8973 F) (device : AkDevice)
    (io : DeviceIo) : (sensor.updateDelay device io).driver = sensor := by
  unfold SensorAK8973.updateDelay
  split_ifs <;> rfl

@[simp] theorem SensorAK8973.updateDelay_enabled (sensor : SensorAK8973 F) (device : AkDevice)
    (io : DeviceIo) : (sensor.updateDelay device io).device.enabled = device.enabled := by
  simp only [SensorAK8973.updateDelay]
  split_ifs <;> rfl

@[simp] theorem SensorAK8973.openDevice_mEnabled (sensor : SensorAK8973 F) (opens : Bool) :
    (sensor.openDevice opens).mEnabled = sensor.mEnabled := by
  unfold SensorAK8973.openDevice
  split <;> rfl

/-- A mask with the bit of a sensor set to a state. -/
def withBit (mask : BitVec numSensors) (what : Fin numSensors) (state : Nat) :
    BitVec numSensors :=
  (mask &&& ~~~bit what) ||| (if state ≠ 0 then bit what else 0#4)

/-- `SensorAK8973::enable`. -/
def SensorAK8973.enable (sensor : SensorAK8973 F) (device : AkDevice) (call : EnableCall) :
    EnableOutcome (SensorAK8973 F) AkDevice :=
  let newState := newState call.en
  match SensorAK8973.ofHandle call.handle with
  | none => ⟨EINVAL.neg, sensor, device⟩
  | some what =>
      if (if newState ≠ 0 then bit what else 0#4) ≠ sensor.mEnabled &&& bit what then
        let sensor :=
          if sensor.mEnabled = 0#4 then sensor.openDevice call.io.opens else sensor
        let err := ioctl sensor.devFd call.io.set
        let switched : EnableOutcome (SensorAK8973 F) AkDevice :=
          if err = 0 then
            SensorAK8973.updateDelay
              { sensor with mEnabled := withBit sensor.mEnabled what newState }
              { device with enabled := withBit device.enabled what newState } call.io
          else ⟨err, sensor, device⟩
        let sensor := switched.driver
        let sensor := if sensor.mEnabled = 0#4 then sensor.closeDevice else sensor
        { switched with
          driver :=
            if what = Temperature ∧ newState ≠ 0 then { sensor with mHasPendingEvent := true }
            else sensor }
      else ⟨0, sensor, device⟩

/-! ## What `enable` leaves alone -/

/-- Enabling the accelerometer leaves its reader. -/
theorem SensorKXTF9.enable_mInputReader (sensor : SyncSensor F) (device : Device)
    (call : EnableCall) :
    (SensorKXTF9.enable sensor device call).driver.mInputReader = sensor.mInputReader := by
  simp only [SensorKXTF9.enable, SyncSensor.closeDevice, apply_ite EnableOutcome.driver,
    apply_ite SyncSensor.mInputReader, SensorKXTF9.setDelay_driver,
    SyncSensor.openDevice_mInputReader, ite_self]

/-- Enabling the proximity sensor leaves its reader. -/
theorem SensorISL29030P.enable_mInputReader (sensor : SyncSensor F) (device : Device)
    (call : EnableCall) :
    (SensorISL29030P.enable sensor device call).driver.mInputReader = sensor.mInputReader := by
  simp only [SensorISL29030P.enable, SyncSensor.closeDevice, apply_ite EnableOutcome.driver,
    apply_ite SyncSensor.mInputReader, SyncSensor.openDevice_mInputReader, ite_self]

theorem SensorISL29030L.enable_mInputReader (sensor : SyncSensor F) (device : Device)
    (call : EnableCall) :
    (SensorISL29030L.enable sensor device call).driver.mInputReader = sensor.mInputReader := by
  simp only [SensorISL29030L.enable, SyncSensor.closeDevice, apply_ite EnableOutcome.driver,
    apply_ite SyncSensor.mInputReader, SyncSensor.openDevice_mInputReader, ite_self]

/-- Enabling the compass leaves its reader and what it has marked. -/
theorem SensorAK8973.enable_held (sensor : SensorAK8973 F) (device : AkDevice)
    (call : EnableCall) :
    (sensor.enable device call).driver.mInputReader = sensor.mInputReader ∧
      (sensor.enable device call).driver.mPendingMask = sensor.mPendingMask := by
  simp only [SensorAK8973.enable, SensorAK8973.closeDevice, SensorAK8973.openDevice]
  split
  · exact ⟨rfl, rfl⟩
  · split_ifs <;> simp

/-! ## Agreement of the record and the kernel -/

/-- The driver's record is the kernel's flag, and `dev_fd` is open while it is on. -/
structure Recorded (driver : SyncSensor F) (device : Device) : Prop where
  record : driver.mEnabled = if device.enabled then 1 else 0
  opened : driver.mEnabled ≠ 0 → driver.devFd = true

/-- A history of `enable` calls of one driver. -/
def enableStep {Driver Device : Type} (enable : Driver → Device → EnableCall →
    EnableOutcome Driver Device) (before : EnableOutcome Driver Device) (call : EnableCall) :
    Option (EnableOutcome Driver Device) :=
  some (enable before.driver before.device call)

/-- A call that returns 0 leaves both flags equal to `en != 0`. -/
def Agrees (_ : EnableOutcome (SyncSensor F) Device) (call : EnableCall)
    (after : EnableOutcome (SyncSensor F) Device) : Prop :=
  after.err = 0 → after.device.enabled = decide (call.en ≠ 0) ∧
    after.driver.mEnabled = newState call.en ∧
    (after.driver.mEnabled ≠ 0 → after.driver.devFd = true)

/-- Every switch-off of an enabled sensor reaches the kernel. -/
def SwitchOffSucceeds (before : EnableOutcome (SyncSensor F) Device) (call : EnableCall) : Prop :=
  before.driver.mEnabled ≠ 0 → call.en = 0 → call.io.set = none

theorem newState_eq_zero_iff {en : Int} : newState en = 0 ↔ en = 0 := by
  unfold newState
  split <;> simp_all

/-- A call that returns at once agrees exactly when the record is right. -/
theorem agrees_repeated_iff {before after : EnableOutcome (SyncSensor F) Device}
    {call : EnableCall} (repeated : before.driver.mEnabled = newState call.en)
    (same : after = ⟨0, before.driver, before.device⟩) :
    Agrees before call after ↔ Recorded before.driver before.device := by
  subst same
  unfold Agrees
  simp only [forall_const, repeated, true_and]
  constructor
  · rintro ⟨flag, opened⟩
    refine ⟨?_, fun on => opened (repeated ▸ on)⟩
    rw [repeated, flag]
    unfold newState
    by_cases off : call.en = 0 <;> simp [off]
  · rintro ⟨record, opened⟩
    refine ⟨?_, fun on => opened (repeated ▸ on)⟩
    rw [repeated] at record
    unfold newState at record
    by_cases off : call.en = 0 <;> cases flag : before.device.enabled <;> simp_all

/-- A switch by a SET ioctl that succeeded. -/
theorem agrees_switched {before after : EnableOutcome (SyncSensor F) Device} {call : EnableCall}
    (flag : after.device.enabled = decide (newState call.en ≠ 0))
    (record : after.driver.mEnabled = newState call.en)
    (opened : after.driver.mEnabled ≠ 0 → after.driver.devFd = true) :
    Agrees before call after := by
  intro _
  refine ⟨?_, record, opened⟩
  rw [flag, decide_eq_decide, Ne, Ne, newState_eq_zero_iff]

/-! ## The accelerometer -/

/-- What `SensorKXTF9::enable` does. A switch-off that the kernel refuses is
recorded all the same and returns 0. -/
inductive KxSwitched (driver : SyncSensor F) (device : Device) (call : EnableCall) :
    EnableOutcome (SyncSensor F) Device → Prop
  | repeated (same : driver.mEnabled = newState call.en) :
      KxSwitched driver device call ⟨0, driver, device⟩
  | succeeded (after : EnableOutcome (SyncSensor F) Device)
      (different : driver.mEnabled ≠ newState call.en) (answer : call.io.set = none)
      (flag : after.device.enabled = decide (newState call.en ≠ 0))
      (record : after.driver.mEnabled = newState call.en)
      (opened : after.driver.mEnabled ≠ 0 → after.driver.devFd = true) :
      KxSwitched driver device call after
  | failedOn (after : EnableOutcome (SyncSensor F) Device)
      (different : driver.mEnabled ≠ newState call.en) (on : newState call.en ≠ 0)
      (error : after.err ≠ 0) (flag : after.device = device)
      (record : after.driver.mEnabled = driver.mEnabled)
      (opened : after.driver.mEnabled ≠ 0 → after.driver.devFd = driver.devFd) :
      KxSwitched driver device call after
  | failedOff (different : driver.mEnabled ≠ newState call.en) (off : newState call.en = 0)
      (refused : ¬ (driver.devFd = true ∧ call.io.set = none)) :
      KxSwitched driver device call ⟨0, { driver with mEnabled := 0, devFd := false }, device⟩

/-- The cases of `enable` of the accelerometer. -/
theorem SensorKXTF9.enable_switched (sensor : SyncSensor F) (device : Device)
    (call : EnableCall) :
    KxSwitched sensor device call (SensorKXTF9.enable sensor device call) := by
  by_cases same : sensor.mEnabled = newState call.en
  · simp only [SensorKXTF9.enable, same, ↓reduceIte]
    exact .repeated same
  · unfold SensorKXTF9.enable
    simp only [same, ↓reduceIte]
    by_cases off : newState call.en = 0
    · have on : sensor.mEnabled ≠ 0 := off ▸ same
      simp only [on, ↓reduceIte, off, or_true, SensorKXTF9.setDelay, ne_eq, not_true_eq_false,
        SyncSensor.closeDevice]
      by_cases success : ioctl sensor.devFd call.io.set = 0
      · exact .succeeded _ same (ioctl_eq_zero_iff.mp success).2 (by simp [success, off]) off.symm
          fun absurd => (absurd rfl).elim
      · simp only [success, ↓reduceIte]
        exact .failedOff same off fun both => success (ioctl_eq_zero_iff.mpr both)
    · generalize opens : (if sensor.mEnabled = 0 then sensor.openDevice call.io.opens
        else sensor) = opened
      by_cases success : ioctl opened.devFd call.io.set = 0
      · obtain ⟨device_open, answer⟩ := ioctl_eq_zero_iff.mp success
        simp only [success, ↓reduceIte, true_or, SensorKXTF9.setDelay_driver, off]
        exact .succeeded _ same answer (by simp [off]) rfl fun _ => device_open
      · simp only [success, ↓reduceIte, off, or_self]
        by_cases disabled : sensor.mEnabled = 0
        · have unchanged : opened.mEnabled = 0 := by
            rw [← opens]
            simp only [disabled, ↓reduceIte, SyncSensor.openDevice_mEnabled]
          simp only [unchanged, ↓reduceIte]
          exact .failedOn _ same off success rfl (unchanged.trans disabled.symm)
            fun absurd => (absurd unchanged).elim
        · simp only [disabled, ↓reduceIte] at opens
          subst opens
          simp only [disabled, ↓reduceIte]
          exact .failedOn _ same off success rfl rfl fun _ => rfl

/-- A history of the accelerometer whose switch-offs all reach the kernel keeps
the record right, and only such a history agrees throughout. -/
theorem SensorKXTF9.agrees_iff {before after : EnableOutcome (SyncSensor F) Device}
    {call : EnableCall} (recorded : Recorded before.driver before.device)
    (switched : KxSwitched before.driver before.device call after) :
    (SwitchOffSucceeds before call → Recorded after.driver after.device) ∧
      (Agrees before call after ↔ SwitchOffSucceeds before call) := by
  cases switched with
  | repeated same =>
      refine ⟨fun _ => recorded, fun _ on off => ?_, fun _ => ?_⟩
      · rw [same] at on
        exact (on (newState_eq_zero_iff.mpr off)).elim
      · exact (agrees_repeated_iff same rfl).mpr recorded
  | succeeded after different answer flag record opened =>
      refine ⟨fun _ => ⟨?_, opened⟩, fun _ _ _ => answer, fun _ => ?_⟩
      · rw [record, flag]
        unfold newState
        split <;> simp
      · exact agrees_switched flag record opened
  | failedOn after different on error flag record opened =>
      refine ⟨fun _ => ⟨?_, ?_⟩, fun _ _ off => ?_, fun _ none => (error none).elim⟩
      · rw [record, flag]
        exact recorded.record
      · intro enabled
        rw [opened enabled]
        exact recorded.opened (record ▸ enabled)
      · exact (on (newState_eq_zero_iff.mpr off)).elim
  | failedOff different off refused =>
      have on : before.driver.mEnabled ≠ 0 := off ▸ different
      have opened : before.driver.devFd = true := recorded.opened on
      have failed : ¬ call.io.set = none := fun answer => refused ⟨opened, answer⟩
      refine ⟨fun guarded => ?_, fun agrees => ?_, fun guarded => ?_⟩
      · exact (failed (guarded on (newState_eq_zero_iff.mp off))).elim
      · obtain ⟨flag, -, -⟩ := agrees rfl
        have disabled : before.device.enabled = false := by
          rw [newState_eq_zero_iff] at off
          simpa [off] using flag
        have record := recorded.record
        rw [disabled] at record
        exact (on record).elim
      · exact (failed (guarded on (newState_eq_zero_iff.mp off))).elim

/-! ## The four sensors of the compass -/

/-- `withBit` sets one bit and leaves the others. -/
theorem getLsbD_withBit (mask : BitVec numSensors) (what other : Fin numSensors) (state : Nat) :
    (withBit mask what state).getLsbD other =
      if other = what then decide (state ≠ 0) else mask.getLsbD other := by
  rw [withBit, BitVec.getLsbD_or, getLsbD_and_not_bit _ _ other.isLt,
    getLsbD_ite_bit _ _ other.isLt]
  by_cases same : other = what
  · simp [same]
  · have apart : ¬ (other : Nat) = what := fun equal => same (Fin.ext equal)
    simp [same, apart]

/-- The driver's record is the kernel's flags, and `dev_fd` is open while any
sensor is on. -/
structure AkRecorded (driver : SensorAK8973 F) (device : AkDevice) : Prop where
  record : driver.mEnabled = device.enabled
  opened : driver.mEnabled ≠ 0#4 → driver.devFd = true

/-- A call that returns 0 was for a sensor of the driver and leaves both of its
flags equal to `en != 0`. -/
def AkAgrees (_ : EnableOutcome (SensorAK8973 F) AkDevice) (call : EnableCall)
    (after : EnableOutcome (SensorAK8973 F) AkDevice) : Prop :=
  after.err = 0 → ∃ what, SensorAK8973.ofHandle call.handle = some what ∧
    after.device.enabled.getLsbD what = decide (call.en ≠ 0) ∧
    after.driver.mEnabled.getLsbD what = decide (call.en ≠ 0) ∧
    (after.driver.mEnabled ≠ 0#4 → after.driver.devFd = true)

/-- `closeDevice` and the temperature event leave the record, and keep `dev_fd`
open while a sensor is on. -/
theorem akRecorded_settle {sensor : SensorAK8973 F} {device : AkDevice}
    (recorded : AkRecorded sensor device) (temperature : Prop) [Decidable temperature] :
    let closed := if sensor.mEnabled = 0#4 then sensor.closeDevice else sensor
    let settled := if temperature then { closed with mHasPendingEvent := true } else closed
    AkRecorded settled device ∧ settled.mEnabled = sensor.mEnabled := by
  obtain ⟨record, opened⟩ := recorded
  by_cases off : sensor.mEnabled = 0#4
  · simp only [off, ↓reduceIte]
    split
    · exact ⟨⟨record, fun on => (on off).elim⟩, off⟩
    · exact ⟨⟨record, fun on => (on off).elim⟩, off⟩
  · simp only [off, ↓reduceIte]
    split
    · exact ⟨⟨record, opened⟩, rfl⟩
    · exact ⟨⟨record, opened⟩, rfl⟩

/-- Opening the device keeps what is on record of it. -/
theorem akRecorded_open {sensor : SensorAK8973 F} {device : AkDevice}
    (recorded : AkRecorded sensor device) (opens : Bool) :
    AkRecorded (if sensor.mEnabled = 0#4 then sensor.openDevice opens else sensor)
      device := by
  by_cases off : sensor.mEnabled = 0#4
  · simp only [off, ↓reduceIte]
    refine ⟨?_, fun on => ?_⟩
    · rw [SensorAK8973.openDevice_mEnabled, recorded.record]
    · rw [SensorAK8973.openDevice_mEnabled] at on
      exact (on off).elim
  · simp only [off, ↓reduceIte]
    exact recorded

/-- Every call keeps the record right, and sets it as asked when it returns 0. -/
theorem akEnable_step {sensor : SensorAK8973 F} {device : AkDevice}
    (recorded : AkRecorded sensor device) (call : EnableCall) :
    AkRecorded (sensor.enable device call).driver (sensor.enable device call).device ∧
      ((sensor.enable device call).err = 0 → ∃ what,
        SensorAK8973.ofHandle call.handle = some what ∧
        (sensor.enable device call).driver.mEnabled.getLsbD what = decide (call.en ≠ 0)) := by
  unfold SensorAK8973.enable
  cases handled : SensorAK8973.ofHandle call.handle with
  | none => exact ⟨recorded, fun absurd => ((EINVAL.neg_lt_zero).ne absurd).elim⟩
  | some what =>
      simp only [ne_eq, ite_bit_eq_and_bit_iff]
      by_cases same : sensor.mEnabled.getLsbD what = decide (newState call.en ≠ 0)
      · simp only [same, not_true_eq_false, ↓reduceIte]
        refine ⟨recorded, fun _ => ⟨what, rfl, ?_⟩⟩
        rw [same, decide_eq_decide, Ne, newState_eq_zero_iff]
      · simp only [same, not_false_eq_true, ↓reduceIte]
        have openedRecorded := akRecorded_open recorded call.io.opens
        generalize (if sensor.mEnabled = 0#4 then sensor.openDevice call.io.opens
          else sensor) = opened at openedRecorded ⊢
        by_cases success : ioctl opened.devFd call.io.set = 0
        · simp only [success, ↓reduceIte, SensorAK8973.updateDelay_driver]
          have switched : AkRecorded
              { opened with mEnabled := withBit opened.mEnabled what (newState call.en) }
              (SensorAK8973.updateDelay
                { opened with mEnabled := withBit opened.mEnabled what (newState call.en) }
                { device with enabled := withBit device.enabled what (newState call.en) }
                call.io).device := by
            refine ⟨?_, fun _ => (ioctl_eq_zero_iff.mp success).1⟩
            rw [SensorAK8973.updateDelay_enabled, openedRecorded.record]
          obtain ⟨settled, record⟩ := akRecorded_settle switched
            (what = SensorAK8973.Temperature ∧ ¬ newState call.en = 0)
          refine ⟨settled, fun _ => ⟨what, rfl, ?_⟩⟩
          rw [record, getLsbD_withBit, if_pos rfl, decide_eq_decide, Ne, newState_eq_zero_iff]
        · simp only [success, ↓reduceIte]
          obtain ⟨settled, -⟩ := akRecorded_settle openedRecorded
            (what = SensorAK8973.Temperature ∧ ¬ newState call.en = 0)
          exact ⟨settled, fun absurd => absurd.elim⟩

/-- The compass agrees with the kernel in every history. -/
theorem akEnable_agrees (start : EnableOutcome (SensorAK8973 F) AkDevice)
    (recorded : AkRecorded start.driver start.device) (calls : List EnableCall) :
    Along (enableStep SensorAK8973.enable) AkAgrees start calls := by
  have always : Guarded (enableStep SensorAK8973.enable) (fun _ _ => True) start calls :=
    along_of_forall (fun _ _ _ _ => trivial) _ _
  refine along_of_invariant (fun outcome => AkRecorded outcome.driver outcome.device) ?_
    recorded always
  intro before call after recorded _ taken
  cases taken
  obtain ⟨kept, agreed⟩ := akEnable_step recorded call
  refine ⟨kept, fun success => ?_⟩
  obtain ⟨what, handled, set⟩ := agreed success
  exact ⟨what, handled, kept.record ▸ set, set, kept.opened⟩

/-! ## Construction -/

section Construction

variable [FloatArith F]

/-- An event after `memset`. -/
def SensorsEvent.zero : SensorsEvent F where
  version := 0
  sensor := 0
  type := 0
  timestamp := 0
  data := ⟨FloatArith.ofInt 0, FloatArith.ofInt 0, FloatArith.ofInt 0, 0⟩

/-- The constructors of the drivers of one sensor: the device is opened, the
record is what the GET ioctl reads (0 if it fails), and the device is closed
again unless the sensor is on. -/
def SyncSensor.create (pending : SensorsEvent F) (memory : Nat → InputEvent) (device : Device)
    (io : DeviceIo) : SyncSensor F :=
  let mEnabled := if ioctl io.opens io.set = 0 ∧ device.enabled then 1 else 0
  { devFd := io.opens && mEnabled ≠ 0
    mEnabled := mEnabled
    mInputReader := InputEventCircularReader.create 32 memory
    mPendingEvent := pending }

/-- `SensorKXTF9::SensorKXTF9`; the rest of its pending event is what the
allocator returned. -/
def SensorKXTF9.create (allocated : SensorsEvent F) : (Nat → InputEvent) → Device → DeviceIo →
    SyncSensor F :=
  SyncSensor.create { allocated with
    version := sizeofSensorsEvent
    sensor := SENSOR_TYPE_ACCELEROMETER
    type := SENSOR_TYPE_ACCELEROMETER
    data.status := SENSOR_STATUS_ACCURACY_HIGH }

/-- `SensorISL29030P::SensorISL29030P`. -/
def SensorISL29030P.create : (Nat → InputEvent) → Device → DeviceIo → SyncSensor F :=
  SyncSensor.create { SensorsEvent.zero with
    version := sizeofSensorsEvent
    sensor := SENSOR_TYPE_PROXIMITY
    type := SENSOR_TYPE_PROXIMITY }

/-- `SensorISL29030L::SensorISL29030L`. -/
def SensorISL29030L.create : (Nat → InputEvent) → Device → DeviceIo → SyncSensor F :=
  SyncSensor.create { SensorsEvent.zero with
    version := sizeofSensorsEvent
    sensor := SENSOR_TYPE_LIGHT
    type := SENSOR_TYPE_LIGHT }

/-- `AK8973_DEFAULT_DELAY`, in nanoseconds. -/
def AK8973_DEFAULT_DELAY : U64 := 200 * 1000000

/-- The pending events of a new compass driver. -/
def SensorAK8973.createPendingEvents (what : Fin numSensors) : SensorsEvent F :=
  let created (type : Int) (status : Nat) : SensorsEvent F :=
    { SensorsEvent.zero with
      version := sizeofSensorsEvent
      sensor := type
      type := type
      data.status := status }
  if what = SensorAK8973.Accelerometer then
    created SENSOR_TYPE_ACCELEROMETER SENSOR_STATUS_ACCURACY_HIGH
  else if what = SensorAK8973.MagneticField then
    created SENSOR_TYPE_MAGNETIC_FIELD SENSOR_STATUS_ACCURACY_MEDIUM
  else if what = SensorAK8973.Orientation then
    created SENSOR_TYPE_ORIENTATION SENSOR_STATUS_ACCURACY_HIGH
  else created SENSOR_TYPE_AMBIENT_TEMPERATURE 0

/-- `SensorAK8973::SensorAK8973`. -/
def SensorAK8973.create (memory : Nat → InputEvent) : SensorAK8973 F where
  mPendingMask := 0#4
  mPendingEvents := SensorAK8973.createPendingEvents
  devFd := false
  mEnabled := 0#4
  mHasPendingEvent := false
  mInputReader := InputEventCircularReader.create 32 memory
  mDelays := fun _ => AK8973_DEFAULT_DELAY

omit [FloatArith F] in
/-- When the constructor can ask the kernel, it starts with the record right. -/
theorem SyncSensor.create_recorded (pending : SensorsEvent F) (memory : Nat → InputEvent)
    (device : Device) (io : DeviceIo) (opens : io.opens = true) (answer : io.set = none) :
    Recorded (SyncSensor.create pending memory device io) device := by
  have read : ioctl io.opens io.set = 0 := ioctl_eq_zero_iff.mpr ⟨opens, answer⟩
  refine ⟨?_, fun on => ?_⟩
  · simp only [SyncSensor.create, read, true_and]
  · simp only [SyncSensor.create, opens, Bool.true_and] at on ⊢
    exact decide_eq_true on

end Construction

/-- No input event. -/
def blank : InputEvent := ⟨0, 0, 0, 0, 0⟩

end Jordan.Sensors
