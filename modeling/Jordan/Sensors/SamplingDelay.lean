import Jordan.Library.Words
import Jordan.Sensors.SensorEnable
import Mathlib.Order.Bounds.Basic

/-! # The sampling delay in force

`setDelay` takes nanoseconds; the kernel is given whole milliseconds. The compass
remembers what was asked for each of its sensors and programs the smallest delay
of those that are on, as a `short`. The accelerometer programs what it is asked
for while it is on, as an `int`, remembers nothing, and is given the default
whenever it is switched on. The histories in which the delay in force is the
smallest one requested are characterised exactly (`Jordan.Sensors.inForce_iff`).
-/

namespace Jordan.Sensors

open Execution BitMask

/-- A history of a driver: the driver, the kernel's side of it, and for each
sensor the delay that `setDelay` accepted last. -/
structure DelayHistory (Driver Device Sensor : Type) where
  driver : Driver
  device : Device
  accepted : Sensor → Option Int

/-- The calls, and what their system calls do; `ns` is an `int64_t`. -/
inductive DelayCall where
  | enable (call : EnableCall)
  | setDelay (handle : Int) (ns : U64) (io : DeviceIo)

/-- The delay that is wanted for a sensor: 200 ms if none was asked for. -/
def requested {Sensor : Type} (accepted : Sensor → Option Int) (what : Sensor) : Int :=
  (accepted what).getD 200000000

/-- The delay is the smallest one that is wanted for a sensor that is on, in whole
milliseconds. -/
def InForce {Sensor : Type} (on : Sensor → Prop) (accepted : Sensor → Option Int)
    (delay : Int) : Prop :=
  ∃ least, IsLeast {ns | ∃ what, on what ∧ requested accepted what = ns} least ∧
    delay = least / 1000000

variable {F : Type}

/-! ## The accelerometer -/

/-- A call that returns 0. -/
def SensorKXTF9.delayStep (before : DelayHistory (SyncSensor F) Device Unit) :
    DelayCall → Option (DelayHistory (SyncSensor F) Device Unit)
  | .enable call =>
      let outcome := SensorKXTF9.enable before.driver before.device call
      if outcome.err = 0 then
        some { before with driver := outcome.driver, device := outcome.device }
      else none
  | .setDelay _ ns io =>
      let outcome := SensorKXTF9.setDelay before.driver before.device ns.toInt io
      if 0 ≤ ns.toInt ∧ outcome.err = 0 then
        some
          { driver := outcome.driver
            device := outcome.device
            accepted := fun _ => some ns.toInt }
      else none

/-- The sensor is on. -/
def SensorKXTF9.On (driver : SyncSensor F) : Unit → Prop := fun _ => driver.mEnabled ≠ 0

/-- If the accelerometer is on, the delay wanted for it is in force. -/
def SensorKXTF9.Obeyed (history : DelayHistory (SyncSensor F) Device Unit) : Prop :=
  history.driver.mEnabled ≠ 0 →
    InForce (SensorKXTF9.On history.driver) history.accepted history.device.delay

/-- The accelerometer is switched on only while the default is wanted for it, in
whole milliseconds, and while it is on it is asked for delays that an `int` holds. -/
def SensorKXTF9.Kept (before : DelayHistory (SyncSensor F) Device Unit) : DelayCall → Prop
  | .enable call =>
      before.driver.mEnabled ≠ newState call.en → call.en ≠ 0 →
        requested before.accepted () / 1000000 = 200
  | .setDelay _ ns _ => before.driver.mEnabled ≠ 0 → ns.toInt / 1000000 < 2 ^ 31

instance (before : DelayHistory (SyncSensor F) Device Unit) :
    DecidablePred (SensorKXTF9.Kept before)
  | .enable _ => inferInstanceAs (Decidable (_ → _ → _))
  | .setDelay _ _ _ => inferInstanceAs (Decidable (_ → _))

theorem SensorKXTF9.inForce_on_iff {driver : SyncSensor F} (on : driver.mEnabled ≠ 0)
    {accepted : Unit → Option Int} {delay : Int} :
    InForce (SensorKXTF9.On driver) accepted delay ↔ delay = requested accepted () / 1000000 := by
  have single : {ns | ∃ what, SensorKXTF9.On driver what ∧ requested accepted what = ns} =
      {requested accepted ()} := by
    ext ns
    constructor
    · rintro ⟨⟨⟩, _, rfl⟩
      rfl
    · rintro rfl
      exact ⟨(), on, rfl⟩
  unfold InForce
  rw [single]
  constructor
  · rintro ⟨least, isLeast, same⟩
    rw [same, isLeast.unique isLeast_singleton]
  · exact fun same => ⟨_, isLeast_singleton, same⟩

/-- Switching the accelerometer on programs the default. -/
theorem SensorKXTF9.enable_switchedOn {sensor : SyncSensor F} {device : Device}
    {call : EnableCall} (different : sensor.mEnabled ≠ newState call.en) (on : call.en ≠ 0)
    (success : (SensorKXTF9.enable sensor device call).err = 0) :
    (SensorKXTF9.enable sensor device call).driver.mEnabled ≠ 0 ∧
      (SensorKXTF9.enable sensor device call).device.delay = 200 := by
  have state : newState call.en = 1 := if_pos on
  rw [state] at different
  simp only [SensorKXTF9.enable, state, different, ↓reduceIte] at success ⊢
  generalize (if sensor.mEnabled = 0 then sensor.openDevice call.io.opens else sensor) = opened
    at success ⊢
  by_cases set : ioctl opened.devFd call.io.set = 0
  · simp only [set, true_or, ↓reduceIte, SensorKXTF9.setDelay_driver] at success ⊢
    simp only [SensorKXTF9.setDelay, ne_eq, one_ne_zero, not_false_eq_true, ↓reduceIte,
      show ¬ KXTF9_DEFAULT_DELAY < 0 by decide] at success ⊢
    simp only [success, ↓reduceIte, true_and]
    decide
  · simp [set] at success

/-- Switching it off leaves it off. -/
theorem SensorKXTF9.enable_switchedOff {sensor : SyncSensor F} {device : Device}
    {call : EnableCall} (off : call.en = 0) :
    (SensorKXTF9.enable sensor device call).driver.mEnabled = 0 := by
  have state : newState call.en = 0 := if_neg (not_not.mpr off)
  simp only [SensorKXTF9.enable, state]
  by_cases same : sensor.mEnabled = 0
  · simp [same]
  · simp [same, SensorKXTF9.setDelay, SyncSensor.closeDevice]

/-- A call keeps the delay in force exactly when the guard says so. -/
theorem SensorKXTF9.obeyed_iff {before after : DelayHistory (SyncSensor F) Device Unit}
    {call : DelayCall} (holds : SensorKXTF9.Obeyed before)
    (taken : SensorKXTF9.delayStep before call = some after) :
    SensorKXTF9.Obeyed after ↔ SensorKXTF9.Kept before call := by
  cases call with
  | enable call =>
      obtain ⟨success, ⟨⟩⟩ := Option.ite_none_right_eq_some.mp taken
      by_cases same : before.driver.mEnabled = newState call.en
      · simp only [SensorKXTF9.enable, same, ↓reduceIte]
        exact ⟨fun _ absurd => (absurd same).elim, fun _ => holds⟩
      · by_cases on : call.en = 0
        · have off : (SensorKXTF9.enable before.driver before.device call).driver.mEnabled = 0 :=
            SensorKXTF9.enable_switchedOff on
          exact ⟨fun _ _ absurd => (absurd on).elim, fun _ enabled => (enabled off).elim⟩
        · obtain ⟨enabled, delay⟩ := SensorKXTF9.enable_switchedOn same on success
          unfold SensorKXTF9.Obeyed SensorKXTF9.Kept
          simp only [enabled, same, on, ne_eq, not_false_eq_true, forall_const,
            SensorKXTF9.inForce_on_iff enabled, delay]
          exact eq_comm
  | setDelay handle ns io =>
      obtain ⟨⟨natural, success⟩, ⟨⟩⟩ := Option.ite_none_right_eq_some.mp taken
      unfold SensorKXTF9.Obeyed SensorKXTF9.Kept
      simp only [SensorKXTF9.setDelay_driver]
      refine forall_congr' fun on => ?_
      rw [SensorKXTF9.inForce_on_iff on]
      have delay : (SensorKXTF9.setDelay before.driver before.device ns.toInt io).device.delay =
          (BitVec.ofInt 32 (ns.toInt / 1000000)).toInt := by
        simp only [SensorKXTF9.setDelay, on, not_false_eq_true, ne_eq, ↓reduceIte,
          natural.not_gt] at success ⊢
        rw [if_pos success, Int.tdiv_eq_ediv_of_nonneg natural]
      rw [delay]
      exact Words.toInt_ofInt_eq_iff (by decide) (Int.ediv_nonneg natural (by decide))

/-! ## The compass -/

/-- `SensorAK8973::setDelay` -/
def SensorAK8973.setDelay (sensor : SensorAK8973 F) (device : AkDevice) (handle : Int) (ns : U64)
    (io : DeviceIo) : EnableOutcome (SensorAK8973 F) AkDevice :=
  match SensorAK8973.ofHandle handle with
  | none => ⟨EINVAL.neg, sensor, device⟩
  | some what =>
      if ns.toInt < 0 then ⟨EINVAL.neg, sensor, device⟩
      else
        SensorAK8973.updateDelay { sensor with mDelays := Function.update sensor.mDelays what ns }
          device io

/-- The sensors that are on after a call that returns 0. -/
def DelayCall.onAfter (mask : BitVec numSensors) : DelayCall → BitVec numSensors
  | .enable call =>
      match SensorAK8973.ofHandle call.handle with
      | some what => withBit mask what (newState call.en)
      | none => mask
  | .setDelay _ _ _ => mask

/-- The delays that are wanted after a call that returns 0. -/
def DelayCall.acceptedAfter (accepted : Fin numSensors → Option Int) :
    DelayCall → Fin numSensors → Option Int
  | .enable _ => accepted
  | .setDelay handle ns _ =>
      match SensorAK8973.ofHandle handle with
      | some what => Function.update accepted what (some ns.toInt)
      | none => accepted

/-- A call that returns 0. -/
def SensorAK8973.delayStep (before : DelayHistory (SensorAK8973 F) AkDevice (Fin numSensors))
    (call : DelayCall) : Option (DelayHistory (SensorAK8973 F) AkDevice (Fin numSensors)) :=
  let outcome := match call with
    | .enable call => SensorAK8973.enable before.driver before.device call
    | .setDelay handle ns io =>
        SensorAK8973.setDelay before.driver before.device handle ns io
  if outcome.err = 0 then
    some
      { driver := outcome.driver
        device := outcome.device
        accepted := call.acceptedAfter before.accepted }
  else none

/-- The sensors that are on. -/
def SensorAK8973.On (driver : SensorAK8973 F) : Fin numSensors → Prop :=
  fun what => driver.mEnabled.getLsbD what = true

/-- While a sensor is on, the smallest delay wanted is in force. -/
def SensorAK8973.Obeyed
    (history : DelayHistory (SensorAK8973 F) AkDevice (Fin numSensors)) : Prop :=
  history.driver.mEnabled ≠ 0#4 →
    InForce (SensorAK8973.On history.driver) history.accepted history.device.delay

/-- Some sensor that is on wants less than 32768 ms. -/
def Short (mask : BitVec numSensors) (accepted : Fin numSensors → Option Int) : Prop :=
  mask ≠ 0#4 → ∃ what : Fin numSensors, mask.getLsbD what = true ∧
    requested accepted what < 32768 * 1000000

instance (mask : BitVec numSensors) (accepted : Fin numSensors → Option Int) :
    Decidable (Short mask accepted) :=
  inferInstanceAs (Decidable (mask ≠ 0#4 → ∃ what : Fin numSensors,
    mask.getLsbD what = true ∧ requested accepted what < 32768 * 1000000))

/-- After the call, some sensor that is on wants less than 32768 ms. -/
def SensorAK8973.Kept (before : DelayHistory (SensorAK8973 F) AkDevice (Fin numSensors))
    (call : DelayCall) : Prop :=
  Short (call.onAfter before.driver.mEnabled) (call.acceptedAfter before.accepted)

instance (before : DelayHistory (SensorAK8973 F) AkDevice (Fin numSensors)) (call : DelayCall) :
    Decidable (SensorAK8973.Kept before call) :=
  inferInstanceAs (Decidable (Short _ _))

/-- The loop of `updateDelay` finds a lower bound that is attained, unless nothing
is below the value that it starts with. -/
theorem wanted_fold (mask : BitVec numSensors) (delays : Fin numSensors → U64)
    (sensors : List (Fin numSensors)) (start : U64) :
    let wanted := sensors.foldl (fun wanted (what : Fin numSensors) =>
      if mask &&& bit what ≠ 0#4 then if wanted < delays what then wanted else delays what
      else wanted) start
    wanted.toNat ≤ start.toNat ∧
      (∀ what ∈ sensors, mask.getLsbD what = true → wanted.toNat ≤ (delays what).toNat) ∧
      (wanted = start ∨ ∃ what ∈ sensors, mask.getLsbD what = true ∧ wanted = delays what) := by
  simp only [and_bit_ne_zero_iff]
  induction sensors generalizing start with
  | nil => exact ⟨Nat.le_refl _, fun _ absurd => (List.not_mem_nil absurd).elim, .inl rfl⟩
  | cons first rest ih =>
      rw [List.foldl_cons]
      by_cases on : mask.getLsbD first = true
      · simp only [on, ↓reduceIte]
        by_cases less : start < delays first
        · obtain ⟨below, each, attained⟩ := ih start
          rw [if_pos less]
          have lower := BitVec.lt_def.mp less
          refine ⟨below, ?_, ?_⟩
          · intro what member isOn
            rcases List.mem_cons.mp member with rfl | later
            · omega
            · exact each what later isOn
          · exact attained.imp_right fun ⟨what, later, found⟩ => ⟨what, .tail _ later, found⟩
        · obtain ⟨below, each, attained⟩ := ih (delays first)
          rw [if_neg less]
          have lower := Nat.le_of_not_lt (mt BitVec.lt_def.mpr less)
          refine ⟨below.trans lower, ?_, .inr ?_⟩
          · intro what member isOn
            rcases List.mem_cons.mp member with rfl | later
            · exact below
            · exact each what later isOn
          · rcases attained with same | ⟨what, later, found⟩
            · exact ⟨first, List.mem_cons_self, on, same⟩
            · exact ⟨what, .tail _ later, found⟩
      · obtain ⟨below, each, attained⟩ := ih start
        rw [if_neg on]
        refine ⟨below, ?_, ?_⟩
        · intro what member isOn
          rcases List.mem_cons.mp member with rfl | later
          · exact (on isOn).elim
          · exact each what later isOn
        · exact attained.imp_right fun ⟨what, later, found⟩ => ⟨what, .tail _ later, found⟩

/-- The driver remembers what is wanted, and the kernel has been given the
smallest delay of the sensors that are on, as a `short`. -/
structure SensorAK8973.Programmed
    (history : DelayHistory (SensorAK8973 F) AkDevice (Fin numSensors)) : Prop where
  remembered (what : Fin numSensors) :
    ((history.driver.mDelays what).toNat : Int) = requested history.accepted what
  signed (what : Fin numSensors) : (history.driver.mDelays what).toNat < 2 ^ 63
  delay : history.driver.mEnabled ≠ 0#4 → history.device.delay =
    (BitVec.ofInt 16 (history.driver.wanted.toInt.tdiv 1000000)).toInt

variable {history : DelayHistory (SensorAK8973 F) AkDevice (Fin numSensors)}

/-- The smallest delay, found by the loop, is the least delay wanted. -/
theorem SensorAK8973.Programmed.isLeast (holds : SensorAK8973.Programmed history)
    (on : history.driver.mEnabled ≠ 0#4) :
    IsLeast {ns | ∃ what, SensorAK8973.On history.driver what ∧
      requested history.accepted what = ns} (history.driver.wanted.toNat : Int) := by
  obtain ⟨_, each, attained⟩ := wanted_fold history.driver.mEnabled history.driver.mDelays
    (List.finRange numSensors) (BitVec.allOnes 64)
  have all (what : Fin numSensors) : what ∈ List.finRange numSensors := List.mem_finRange what
  constructor
  · rcases attained with none | ⟨what, _, isOn, found⟩
    · -- A sensor that is on has a delay below the value the loop starts with.
      obtain ⟨what, isOn⟩ : ∃ what : Fin numSensors,
          history.driver.mEnabled.getLsbD what = true := by
        by_contra nothing
        exact on ((eq_zero_iff _).mpr fun what => by
          simpa using fun isOn => nothing ⟨what, isOn⟩)
      have below := each what (all what) isOn
      have signed := holds.signed what
      rw [none] at below
      exact absurd below (by simp; omega)
    · refine ⟨what, isOn, ?_⟩
      rw [← holds.remembered what, ← found]
      rfl
  · rintro ns ⟨what, isOn, rfl⟩
    rw [← holds.remembered what]
    exact Int.ofNat_le.mpr (each what (all what) isOn)

/-- The delay in force is the one wanted exactly when a `short` holds it. -/
theorem SensorAK8973.Programmed.obeyed_iff (holds : SensorAK8973.Programmed history) :
    SensorAK8973.Obeyed history ↔ Short history.driver.mEnabled history.accepted := by
  refine forall_congr' fun on => ?_
  have least := holds.isLeast on
  obtain ⟨what, isOn, attained⟩ := least.1
  have signed : (history.driver.wanted.toNat : Int) < 2 ^ 63 := by
    have := holds.signed what
    rw [← holds.remembered what] at attained
    omega
  have natural : history.driver.wanted.toInt = history.driver.wanted.toNat := by
    rw [BitVec.toInt_eq_toNat_cond]
    split <;> omega
  have delay := holds.delay on
  rw [natural, Int.tdiv_eq_ediv_of_nonneg (by omega)] at delay
  have short : (BitVec.ofInt 16 ((history.driver.wanted.toNat : Int) / 1000000)).toInt =
      (history.driver.wanted.toNat : Int) / 1000000 ↔
        (history.driver.wanted.toNat : Int) / 1000000 < 2 ^ 15 :=
    Words.toInt_ofInt_eq_iff (by decide) (by omega)
  constructor
  · rintro ⟨other, otherLeast, same⟩
    rw [otherLeast.unique least, delay, short] at same
    exact ⟨what, isOn, by omega⟩
  · rintro ⟨other, otherOn, below⟩
    refine ⟨_, least, ?_⟩
    have bound := least.2 ⟨other, otherOn, rfl⟩
    rw [delay, short]
    omega

/-- A successful `updateDelay` programs the smallest delay. -/
theorem SensorAK8973.updateDelay_delay {sensor : SensorAK8973 F} {device : AkDevice}
    {io : DeviceIo} (success : (sensor.updateDelay device io).err = 0)
    (on : sensor.mEnabled ≠ 0#4) :
    (sensor.updateDelay device io).device.delay =
      (BitVec.ofInt 16 (sensor.wanted.toInt.tdiv 1000000)).toInt := by
  simp only [SensorAK8973.updateDelay, on, ne_eq, not_false_eq_true, ↓reduceIte] at success ⊢
  rw [if_pos success]

/-- The smallest delay depends on the sensors that are on and on their delays. -/
theorem SensorAK8973.wanted_congr {sensor other : SensorAK8973 F}
    (enabled : sensor.mEnabled = other.mEnabled) (delays : sensor.mDelays = other.mDelays) :
    sensor.wanted = other.wanted := by
  unfold SensorAK8973.wanted
  rw [enabled, delays]

/-- Setting a bit to the state it has changes nothing. -/
theorem withBit_self {mask : BitVec numSensors} {what : Fin numSensors} {state : Nat}
    (same : mask.getLsbD what = decide (state ≠ 0)) : withBit mask what state = mask := by
  apply BitVec.eq_of_getLsbD_eq
  intro index inside
  rw [getLsbD_withBit mask what ⟨index, inside⟩]
  split_ifs with here
  · rw [← same, ← here]
  · rfl

/-- `closeDevice` and the temperature event leave the sensors that are on and their
delays. -/
theorem SensorAK8973.settle_rates (sensor : SensorAK8973 F) (temperature : Prop)
    [Decidable temperature] :
    let closed := if sensor.mEnabled = 0#4 then sensor.closeDevice else sensor
    let settled := if temperature then { closed with mHasPendingEvent := true } else closed
    settled.mEnabled = sensor.mEnabled ∧ settled.mDelays = sensor.mDelays := by
  unfold SensorAK8973.closeDevice
  by_cases off : sensor.mEnabled = 0#4 <;> by_cases temperature <;> simp [*]

/-- What a call of `enable` that returns 0 leaves behind. -/
theorem SensorAK8973.enable_delay {sensor : SensorAK8973 F} {device : AkDevice}
    {call : EnableCall} (success : (sensor.enable device call).err = 0)
    (programmed : sensor.mEnabled ≠ 0#4 → device.delay =
      (BitVec.ofInt 16 (sensor.wanted.toInt.tdiv 1000000)).toInt) :
    (sensor.enable device call).driver.mEnabled =
        (DelayCall.enable call).onAfter sensor.mEnabled ∧
      (sensor.enable device call).driver.mDelays = sensor.mDelays ∧
      ((sensor.enable device call).driver.mEnabled ≠ 0#4 →
        (sensor.enable device call).device.delay =
          (BitVec.ofInt 16
            ((sensor.enable device call).driver.wanted.toInt.tdiv 1000000)).toInt) := by
  unfold SensorAK8973.enable DelayCall.onAfter at *
  cases handled : SensorAK8973.ofHandle call.handle with
  | none =>
      rw [handled] at success
      exact absurd success (EINVAL.neg_lt_zero).ne
  | some what =>
      simp only [handled, ne_eq, ite_bit_eq_and_bit_iff] at success ⊢
      by_cases same : sensor.mEnabled.getLsbD what = decide (newState call.en ≠ 0)
      · simp only [same, not_true_eq_false, ↓reduceIte]
        exact ⟨(withBit_self same).symm, trivial, programmed⟩
      · simp only [same, not_false_eq_true, ↓reduceIte] at success ⊢
        generalize opens : (if sensor.mEnabled = 0#4 then sensor.openDevice call.io.opens
          else sensor) = opened at success ⊢
        have mask : opened.mEnabled = sensor.mEnabled := by
          rw [← opens]
          split_ifs <;> simp
        have delays : opened.mDelays = sensor.mDelays := by
          rw [← opens]
          unfold SensorAK8973.openDevice
          split_ifs <;> rfl
        by_cases set : ioctl opened.devFd call.io.set = 0
        · simp only [set, ↓reduceIte, SensorAK8973.updateDelay_driver] at success ⊢
          obtain ⟨enabled, kept⟩ := SensorAK8973.settle_rates
            { opened with mEnabled := withBit opened.mEnabled what (newState call.en) }
            (what = SensorAK8973.Temperature ∧ ¬ newState call.en = 0)
          refine ⟨?_, kept.trans delays, fun on => ?_⟩
          · rw [enabled, mask]
          · rw [SensorAK8973.wanted_congr enabled kept]
            exact SensorAK8973.updateDelay_delay success fun off => on (enabled.trans off)
        · simp [set] at success

/-- A call that returns 0 switches and records as it was asked, and leaves the
smallest delay programmed. -/
theorem SensorAK8973.delayStep_spec
    {before after : DelayHistory (SensorAK8973 F) AkDevice (Fin numSensors)} {call : DelayCall}
    (holds : SensorAK8973.Programmed before)
    (taken : SensorAK8973.delayStep before call = some after) :
    SensorAK8973.Programmed after ∧
      after.driver.mEnabled = call.onAfter before.driver.mEnabled ∧
      after.accepted = call.acceptedAfter before.accepted := by
  obtain ⟨remembered, signed, delay⟩ := holds
  cases call with
  | enable call =>
      obtain ⟨success, ⟨⟩⟩ := Option.ite_none_right_eq_some.mp taken
      obtain ⟨enabled, delays, programmed⟩ := SensorAK8973.enable_delay success delay
      refine ⟨⟨fun what => ?_, fun what => ?_, programmed⟩, enabled, rfl⟩
      · simp only [delays]
        exact remembered what
      · simp only [delays]
        exact signed what
  | setDelay handle ns io =>
      obtain ⟨success, ⟨⟩⟩ := Option.ite_none_right_eq_some.mp taken
      simp only [SensorAK8973.setDelay] at success ⊢
      cases handled : SensorAK8973.ofHandle handle with
      | none =>
          rw [handled] at success
          exact absurd success (EINVAL.neg_lt_zero).ne
      | some what =>
          simp only [handled] at success ⊢
          by_cases negative : ns.toInt < 0
          · rw [if_pos negative] at success
            exact absurd success (EINVAL.neg_lt_zero).ne
          · simp only [negative, ↓reduceIte, SensorAK8973.updateDelay_driver] at success ⊢
            have positive : ns.toNat < 2 ^ 63 ∧ ns.toInt = ns.toNat := by
              rw [BitVec.toInt_eq_toNat_cond] at negative ⊢
              split at negative <;> split <;> omega
            refine ⟨⟨fun other => ?_, fun other => ?_, SensorAK8973.updateDelay_delay success⟩,
              rfl, trivial⟩
            · by_cases same : other = what
              · subst same
                simp [DelayCall.acceptedAfter, handled, requested, positive.2]
              · simpa [DelayCall.acceptedAfter, handled, requested, same] using remembered other
            · by_cases same : other = what
              · subst same
                simpa using positive.1
              · simpa [same] using signed other

/-- **When an accepted delay is in force.** In every history of calls that return 0,
from a compass as constructed and an accelerometer that is off or has the default
programmed, the smallest delay wanted is in force whenever a sensor is on if and
only if: every call leaves some sensor of the compass that is on with less than
32768 ms wanted; and the accelerometer is switched on only while the default is
wanted for it, and given delays that an `int` holds. -/
theorem inForce_iff [FloatArith F] (memory : Nat → InputEvent) (akDevice : AkDevice)
    (akCalls : List DelayCall) (driver : SyncSensor F) (device : Device)
    (initially : driver.mEnabled ≠ 0 → device.delay = 200) (kxCalls : List DelayCall) :
    (Along SensorAK8973.delayStep (fun _ _ after => SensorAK8973.Obeyed after)
        ⟨(SensorAK8973.create memory : SensorAK8973 F), akDevice, fun _ => none⟩ akCalls ↔
      Guarded SensorAK8973.delayStep SensorAK8973.Kept
        ⟨(SensorAK8973.create memory : SensorAK8973 F), akDevice, fun _ => none⟩ akCalls) ∧
    (Along SensorKXTF9.delayStep (fun _ _ after => SensorKXTF9.Obeyed after)
        ⟨driver, device, fun _ => none⟩ kxCalls ↔
      Guarded SensorKXTF9.delayStep SensorKXTF9.Kept ⟨driver, device, fun _ => none⟩ kxCalls) := by
  constructor
  · have created : SensorAK8973.Programmed
        ⟨(SensorAK8973.create memory : SensorAK8973 F), akDevice, fun _ => none⟩ :=
      ⟨fun _ => rfl, fun _ => show AK8973_DEFAULT_DELAY.toNat < 2 ^ 63 by decide,
        fun on => (on rfl).elim⟩
    have exact_guard (before after : DelayHistory (SensorAK8973 F) AkDevice (Fin numSensors))
        (call : DelayCall) (holds : SensorAK8973.Programmed before)
        (taken : SensorAK8973.delayStep before call = some after) :
        SensorAK8973.Programmed after ∧
          (SensorAK8973.Obeyed after ↔ SensorAK8973.Kept before call) := by
      obtain ⟨programmed, enabled, accepted⟩ := SensorAK8973.delayStep_spec holds taken
      refine ⟨programmed, ?_⟩
      rw [programmed.obeyed_iff, enabled, accepted]
      rfl
    refine along_iff SensorAK8973.Programmed ?_ ?_ created akCalls
    · intro before call after holds guarded taken
      obtain ⟨programmed, obeyed⟩ := exact_guard before after call holds taken
      exact ⟨programmed, obeyed.mpr guarded⟩
    · intro before call after holds taken obeyed
      exact (exact_guard before after call holds taken).2.mp obeyed
  · have start : SensorKXTF9.Obeyed ⟨driver, device, fun _ => none⟩ := by
      intro on
      exact (SensorKXTF9.inForce_on_iff on).mpr (initially on)
    refine along_iff SensorKXTF9.Obeyed ?_ ?_ start kxCalls
    · intro before call after holds guarded taken
      have obeyed := (SensorKXTF9.obeyed_iff holds taken).mpr guarded
      exact ⟨obeyed, obeyed⟩
    · intro before call after holds taken obeyed
      exact (SensorKXTF9.obeyed_iff holds taken).mp obeyed

/-- All system calls succeed. -/
def smooth : DeviceIo := ⟨true, none, none⟩

/-- An accelerometer that is off. -/
def accelerometerOff : SyncSensor Rat :=
  SensorKXTF9.create SensorsEvent.zero (fun _ => ⟨0, 0, 0, 0, 0⟩) ⟨false, 0⟩ smooth

/-- Two sensors of the compass are switched on, and one of them wants 20 ms. -/
def twoRates : List DelayCall :=
  [.enable ⟨SENSOR_TYPE_MAGNETIC_FIELD, 1, smooth⟩,
    .setDelay SENSOR_TYPE_ORIENTATION 20000000#64 smooth,
    .enable ⟨SENSOR_TYPE_ORIENTATION, 1, smooth⟩, .enable ⟨SENSOR_TYPE_ORIENTATION, 0, smooth⟩]

/-- The accelerometer is switched on and then asked for 20 ms. -/
def rateWhileOn : List DelayCall :=
  [.enable ⟨SENSOR_TYPE_ACCELEROMETER, 1, smooth⟩,
    .setDelay SENSOR_TYPE_ACCELEROMETER 20000000#64 smooth]

theorem rates_inForce :
    Along SensorAK8973.delayStep (fun _ _ after => SensorAK8973.Obeyed after)
        ⟨(SensorAK8973.create fun _ => ⟨0, 0, 0, 0, 0⟩ : SensorAK8973 Rat), ⟨0#4, 0⟩,
          fun _ => none⟩ twoRates ∧
      Along SensorKXTF9.delayStep (fun _ _ after => SensorKXTF9.Obeyed after)
        ⟨accelerometerOff, ⟨false, 0⟩, fun _ => none⟩ rateWhileOn := by
  have both := inForce_iff (fun _ => ⟨0, 0, 0, 0, 0⟩) ⟨0#4, 0⟩ twoRates accelerometerOff
    ⟨false, 0⟩ (by decide) rateWhileOn
  exact ⟨both.1.mpr (by decide +kernel), both.2.mpr (by decide +kernel)⟩

/-- The accelerometer forgets what it was asked for while it was off. -/
theorem rateWhileOff_forgotten :
    ∃ last, exec SensorKXTF9.delayStep ⟨accelerometerOff, ⟨false, 0⟩, fun _ => none⟩
        [.setDelay SENSOR_TYPE_ACCELEROMETER 20000000#64 smooth,
          .enable ⟨SENSOR_TYPE_ACCELEROMETER, 1, smooth⟩] = some last ∧
      last.accepted () = some 20000000 ∧ last.device.delay = 200 ∧
      ¬ SensorKXTF9.Obeyed last := by
  refine ⟨_, (Option.some_get (by decide +kernel)).symm, by decide +kernel, by decide +kernel, ?_⟩
  intro obeyed
  have on := (SensorKXTF9.inForce_on_iff (by decide +kernel)).mp (obeyed (by decide +kernel))
  exact absurd on (by decide +kernel)

end Jordan.Sensors
