import Jordan.Library.BitMask
import Jordan.Sensors.SyncSensor
import Mathlib.Data.List.FinRange
import Mathlib.Logic.Function.Basic

/-! # The compass driver

`SensorAK8973` serves four sensors from one input device. Input events update
the pending event of one sensor and set its bit in `mPendingMask`; an `EV_SYN`
stores the pending events of the enabled sensors in index order. The caller's
count may run out in the middle of an `EV_SYN`, which then stays in the reader
until a later call finishes it, so that the reference decoding `akDecoder` is
emitted piecewise here as well (`SensorAK8973.readEvents_of_fill`).
-/

namespace Jordan.Sensors

open InputEventCircularReader FloatArith BitMask

/-- The number of sensors of the driver. -/
abbrev numSensors : Nat := 4

namespace SensorAK8973

def Accelerometer : Fin numSensors := 0
def MagneticField : Fin numSensors := 1
def Orientation : Fin numSensors := 2
def Temperature : Fin numSensors := 3

end SensorAK8973

/-- What `processEvent` updates. Only bits below `numSensors` are ever set in the
masks of the driver. -/
structure AkPending (F : Type) where
  mPendingMask : BitVec numSensors
  mPendingEvents : Fin numSensors → SensorsEvent F

/-- The members of `SensorAK8973`; `devFd` tells whether `dev_fd` is open. -/
structure SensorAK8973 (F : Type) extends AkPending F where
  devFd : Bool
  mEnabled : BitVec numSensors
  mHasPendingEvent : Bool
  mInputReader : InputEventCircularReader InputEvent
  mDelays : Fin numSensors → U64

variable {F : Type}

/-- Mark a sensor as pending and update its data. -/
def AkPending.mark (pending : AkPending F) (what : Fin numSensors)
    (update : SensorsVec F → SensorsVec F) : AkPending F where
  mPendingMask := pending.mPendingMask ||| bit what
  mPendingEvents := Function.update pending.mPendingEvents what
    { pending.mPendingEvents what with data := update (pending.mPendingEvents what).data }

section ProcessEvent

variable [FloatArith F]

open SensorAK8973

/-- The azimuth, which wraps to 0 past 359.98 degrees. -/
def akAzimuth (value : Int) : F :=
  let converted : F := mul (ofInt value) AK8973_CONVERT_O_A
  if less (literal 35998 100) converted then ofInt 0 else converted

/-- The roll, limited to 90 degrees either way. -/
def akRoll (value : Int) : F :=
  let converted : F := mul (ofInt value) AK8973_CONVERT_O_R
  let converted := if less (literal 90 1) converted then literal 90 1 else converted
  if less converted (literal (-90) 1) then literal (-90) 1 else converted

/-- `SensorAK8973::processEvent`. -/
def SensorAK8973.processEvent (code : Nat) (value : Int) (pending : AkPending F) : AkPending F :=
  if code = ABS_X then
    pending.mark Accelerometer fun data =>
      { data with x := mul (ofInt value) AK8973_CONVERT_A_X }
  else if code = ABS_Y then
    pending.mark Accelerometer fun data =>
      { data with y := mul (ofInt value) AK8973_CONVERT_A_Y }
  else if code = ABS_Z then
    pending.mark Accelerometer fun data =>
      { data with z := mul (ofInt value) AK8973_CONVERT_A_Z }
  else if code = ABS_WHEEL then
    pending.mark Accelerometer fun data => { data with status := sensorState value }
  else if code = ABS_HAT0X then
    pending.mark MagneticField fun data =>
      { data with x := mul (ofInt value) AK8973_CONVERT_M_X }
  else if code = ABS_HAT0Y then
    pending.mark MagneticField fun data =>
      { data with y := mul (ofInt value) AK8973_CONVERT_M_Y }
  else if code = ABS_BRAKE then
    pending.mark MagneticField fun data =>
      { data with z := mul (ofInt value) AK8973_CONVERT_M_Z }
  else if code = ABS_RX then
    pending.mark Orientation fun data => { data with x := akAzimuth value }
  else if code = ABS_RY then
    pending.mark Orientation fun data =>
      { data with y := mul (ofInt value) AK8973_CONVERT_O_P }
  else if code = ABS_RZ then
    pending.mark Orientation fun data => { data with z := akRoll value }
  else if code = ABS_RUDDER then
    pending.mark Orientation fun data => { data with status := sensorState value }
  else if code = ABS_THROTTLE then
    pending.mark Temperature fun data => { data with x := ofInt value }
  else pending

/-- The sensor whose data an event of this code updates, if any. -/
def sensorOf (code : Nat) : Option (Fin numSensors) :=
  if code = ABS_X then some Accelerometer
  else if code = ABS_Y then some Accelerometer
  else if code = ABS_Z then some Accelerometer
  else if code = ABS_WHEEL then some Accelerometer
  else if code = ABS_HAT0X then some MagneticField
  else if code = ABS_HAT0Y then some MagneticField
  else if code = ABS_BRAKE then some MagneticField
  else if code = ABS_RX then some Orientation
  else if code = ABS_RY then some Orientation
  else if code = ABS_RZ then some Orientation
  else if code = ABS_RUDDER then some Orientation
  else if code = ABS_THROTTLE then some Temperature
  else none

/-- The mask with the bit of a sensor, if there is one. -/
def bitOf (what : Option (Fin numSensors)) : BitVec numSensors :=
  what.elim 0#4 (bit ·)

/-- The bits `processEvent` sets for a code. -/
def touched (code : Nat) : BitVec numSensors := bitOf (sensorOf code)

omit [FloatArith F] in
/-- One branch of `processEvent`. -/
theorem mask_branch {condition : Prop} [Decidable condition] {what : Fin numSensors}
    {update : SensorsVec F → SensorsVec F} {pending rest : AkPending F}
    {other : Option (Fin numSensors)}
    (otherwise : rest.mPendingMask = pending.mPendingMask ||| bitOf other) :
    (if condition then pending.mark what update else rest).mPendingMask =
      pending.mPendingMask ||| bitOf (if condition then some what else other) := by
  by_cases holds : condition
  · simp only [holds, ↓reduceIte]
    rfl
  · simp only [holds, ↓reduceIte]
    exact otherwise

/-- An event sets the bits of the sensors it has data for, and clears none. -/
theorem processEvent_mask (code : Nat) (value : Int) (pending : AkPending F) :
    (SensorAK8973.processEvent code value pending).mPendingMask =
      pending.mPendingMask ||| touched code := by
  unfold SensorAK8973.processEvent touched sensorOf
  iterate 12 apply mask_branch
  exact (BitVec.or_zero).symm

end ProcessEvent

/-! ## The code -/

/-- A pending event stamped with a time, its bit cleared. -/
def AkPending.stamp (pending : AkPending F) (what : Fin numSensors) (time : Int) :
    AkPending F where
  mPendingMask := pending.mPendingMask &&& ~~~bit what
  mPendingEvents := Function.update pending.mPendingEvents what
    { pending.mPendingEvents what with timestamp := time }

/-- The inner loop of `readEvents` over the sensors, at an `EV_SYN`. -/
def flush (mEnabled : BitVec numSensors) (time : Int) :
    List (Fin numSensors) → Nat → AkPending F → List (SensorsEvent F) × AkPending F
  | [], _, pending => ([], pending)
  | what :: rest, count, pending =>
      if count = 0 ∨ pending.mPendingMask = 0#4 then ([], pending)
      else if pending.mPendingMask &&& bit what ≠ 0#4 then
        let pending := pending.stamp what time
        if mEnabled &&& bit what ≠ 0#4 then
          let flushed := flush mEnabled time rest (count - 1) pending
          (pending.mPendingEvents what :: flushed.1, flushed.2)
        else flush mEnabled time rest count pending
      else flush mEnabled time rest count pending

/-- The loop of `readEvents`. A turn either consumes an event or fills the
caller's array, so the number of events available bounds the turns. -/
def akDrain [FloatArith F] (mEnabled : BitVec numSensors) :
    Nat → Nat → InputEventCircularReader InputEvent → AkPending F →
      List (SensorsEvent F) × InputEventCircularReader InputEvent × AkPending F
  | 0, _, reader, pending => ([], reader, pending)
  | turns + 1, count, reader, pending =>
      let event := reader.readEvent.2
      if count = 0 ∨ reader.readEvent.1 = 0 then ([], reader, pending)
      else if event.type = EV_ABS then
        akDrain mEnabled turns count reader.next
          (SensorAK8973.processEvent event.code event.value pending)
      else if event.type = EV_SYN then
        let flushed := flush mEnabled event.timevalToNano (List.finRange numSensors) count pending
        let reader := if flushed.2.mPendingMask = 0#4 then reader.next else reader
        let drained := akDrain mEnabled turns (count - flushed.1.length) reader flushed.2
        (flushed.1 ++ drained.1, drained.2)
      else akDrain mEnabled turns count reader.next pending

/-- `SensorAK8973::readEvents`, given what `read` returns if `fill` calls it and
the time `getTimestamp` reads. -/
def SensorAK8973.readEvents [FloatArith F] (sensor : SensorAK8973 F) (count : Int)
    (result : ReadResult InputEvent) (clock : Int) :
    ReadOutcome (SensorAK8973 F) (SensorsEvent F) :=
  if count < 1 then ⟨EINVAL.neg, [], sensor⟩
  else if sensor.mHasPendingEvent then
    let event := { sensor.mPendingEvents Temperature with timestamp := clock }
    ⟨1, [event], { sensor with
      mHasPendingEvent := false
      mPendingEvents := Function.update sensor.mPendingEvents Temperature event }⟩
  else
    let filled := sensor.mInputReader.fill result
    if filled.1 < 0 then ⟨filled.1, [], { sensor with mInputReader := filled.2 }⟩
    else
      let drained :=
        akDrain sensor.mEnabled filled.2.available count.toNat filled.2 sensor.toAkPending
      ⟨drained.1.length, drained.1,
        { sensor with mInputReader := drained.2.1, toAkPending := drained.2.2 }⟩

/-! ## The reference decoding -/

/-- The snapshots of the given sensors at an `EV_SYN`. -/
def snapshots (mEnabled : BitVec numSensors) (time : Int) (sensors : List (Fin numSensors))
    (pending : AkPending F) : List (SensorsEvent F) :=
  (sensors.filter fun what : Fin numSensors =>
    pending.mPendingMask.getLsbD what && mEnabled.getLsbD what).map
      fun what => { pending.mPendingEvents what with timestamp := time }

/-- The pending events after an `EV_SYN`. -/
def AkPending.synced (pending : AkPending F) (time : Int) : AkPending F where
  mPendingMask := 0#4
  mPendingEvents what :=
    if pending.mPendingMask.getLsbD what then
      { pending.mPendingEvents what with timestamp := time }
    else pending.mPendingEvents what

/-- The reference decoding: at every `EV_SYN` one snapshot of each sensor that is
pending and enabled, in index order. -/
def akDecoder [FloatArith F] (mEnabled : BitVec numSensors) :
    Transducer (AkPending F) InputEvent (SensorsEvent F) where
  step pending event :=
    if event.type = EV_ABS then
      (SensorAK8973.processEvent event.code event.value pending, [])
    else if event.type = EV_SYN then
      (pending.synced event.timevalToNano,
        snapshots mEnabled event.timevalToNano (List.finRange numSensors) pending)
    else (pending, [])

/-- The sensors with data since the last `EV_SYN` of a list of events. -/
def sinceSyn (mask : BitVec numSensors) (events : List InputEvent) : BitVec numSensors :=
  events.foldl
    (fun mask event =>
      if event.type = EV_ABS then mask ||| touched event.code
      else if event.type = EV_SYN then 0#4
      else mask)
    mask

/-- One mask has only bits of the other. -/
def Within (mask bits : BitVec numSensors) : Prop :=
  ∀ what : Fin numSensors, mask.getLsbD what = true → bits.getLsbD what = true

instance (mask bits : BitVec numSensors) : Decidable (Within mask bits) :=
  inferInstanceAs (Decidable (∀ _ : Fin numSensors, _ → _))

theorem Within.refl (mask : BitVec numSensors) : Within mask mask := fun _ held => held

theorem Within.trans {first second third : BitVec numSensors} (below : Within first second)
    (above : Within second third) : Within first third :=
  fun what held => above what (below what held)

/-- A mask stays within another when the same events change both. -/
theorem Within.sinceSyn {mask bits : BitVec numSensors} (within : Within mask bits)
    (events : List InputEvent) : Within (sinceSyn mask events) (sinceSyn bits events) := by
  induction events generalizing mask bits with
  | nil => exact within
  | cons event rest ih =>
      apply ih
      by_cases absolute : event.type = EV_ABS
      · simp only [absolute, ↓reduceIte]
        intro what held
        rw [BitVec.getLsbD_or, Bool.or_eq_true] at held ⊢
        exact held.imp_left (within what)
      · simp only [absolute, ↓reduceIte]
        split
        · exact Within.refl _
        · exact within

/-! ## What an `EV_SYN` does -/

section Flush

variable {pending : AkPending F} {what other : Fin numSensors} {time : Int}

@[simp] theorem stamp_mask (pending : AkPending F) (what other : Fin numSensors) (time : Int) :
    (pending.stamp what time).mPendingMask.getLsbD other =
      (pending.mPendingMask.getLsbD other && decide (other ≠ what)) := by
  simp only [AkPending.stamp, getLsbD_and_not_bit _ _ other.isLt, ne_eq, Fin.ext_iff]

theorem stamp_events_of_ne (different : other ≠ what) :
    (pending.stamp what time).mPendingEvents other = pending.mPendingEvents other :=
  Function.update_of_ne different _ _

theorem stamp_events_same :
    (pending.stamp what time).mPendingEvents what =
      { pending.mPendingEvents what with timestamp := time } :=
  Function.update_self _ _ _

/-- Stamping a pending sensor early does not change what the whole `EV_SYN` leaves. -/
theorem synced_stamp (set : pending.mPendingMask.getLsbD what = true) :
    (pending.stamp what time).synced time = pending.synced time := by
  simp only [AkPending.synced, AkPending.mk.injEq, true_and]
  funext other
  rw [stamp_mask]
  by_cases same : other = what
  · subst same
    simp only [ne_eq, not_true_eq_false, decide_false, Bool.and_false, Bool.false_eq_true,
      ↓reduceIte, set, stamp_events_same]
  · simp only [ne_eq, same, not_false_eq_true, decide_true, Bool.and_true,
      stamp_events_of_ne same]

/-- With no bit set, an `EV_SYN` changes nothing. -/
theorem synced_of_clear (clear : pending.mPendingMask = 0#4) :
    pending.synced time = pending := by
  obtain ⟨mask, events⟩ := pending
  subst clear
  simp only [AkPending.synced, BitVec.getLsbD_zero, Bool.false_eq_true, ↓reduceIte]

theorem snapshots_of_clear {mEnabled : BitVec numSensors} {sensors : List (Fin numSensors)}
    (clear : pending.mPendingMask = 0#4) :
    snapshots mEnabled time sensors pending = [] := by
  simp only [snapshots, clear, BitVec.getLsbD_zero, Bool.false_and, List.filter_false,
    List.map_nil]

/-- Only the bits and the data of the listed sensors matter. -/
theorem snapshots_stamp {mEnabled : BitVec numSensors} {sensors : List (Fin numSensors)}
    (outside : what ∉ sensors) :
    snapshots mEnabled time sensors (pending.stamp what time) =
      snapshots mEnabled time sensors pending := by
  have different (other : Fin numSensors) (member : other ∈ sensors) : other ≠ what :=
    fun same => outside (same ▸ member)
  unfold snapshots
  have bits : (sensors.filter fun other : Fin numSensors =>
      (pending.stamp what time).mPendingMask.getLsbD other && mEnabled.getLsbD other) =
      sensors.filter fun other : Fin numSensors =>
        pending.mPendingMask.getLsbD other && mEnabled.getLsbD other := by
    apply List.filter_congr
    intro other member
    simp only [stamp_mask, ne_eq, different other member, not_false_eq_true, decide_true,
      Bool.and_true]
  rw [bits]
  apply List.map_congr_left
  intro other member
  rw [stamp_events_of_ne (different other (List.mem_of_mem_filter member))]

theorem snapshots_cons_of_unset {mEnabled : BitVec numSensors} {sensors : List (Fin numSensors)}
    (unset : ¬ (pending.mPendingMask.getLsbD what = true ∧ mEnabled.getLsbD what = true)) :
    snapshots mEnabled time (what :: sensors) pending =
      snapshots mEnabled time sensors pending := by
  rw [← Bool.and_eq_true] at unset
  simp only [snapshots, List.filter_cons, unset, ↓reduceIte, Bool.false_eq_true]

theorem snapshots_cons_of_set {mEnabled : BitVec numSensors} {sensors : List (Fin numSensors)}
    (set : pending.mPendingMask.getLsbD what = true) (enabled : mEnabled.getLsbD what = true) :
    snapshots mEnabled time (what :: sensors) pending =
      { pending.mPendingEvents what with timestamp := time } ::
        snapshots mEnabled time sensors pending := by
  simp only [snapshots, List.filter_cons, set, enabled, Bool.and_self, ↓reduceIte, List.map_cons]

/-- A flush emits no more events than there is room for. -/
theorem length_flush_le (mEnabled : BitVec numSensors) (time : Int)
    (sensors : List (Fin numSensors)) (count : Nat) (pending : AkPending F) :
    (flush mEnabled time sensors count pending).1.length ≤ count := by
  induction sensors generalizing count pending with
  | nil => exact Nat.zero_le _
  | cons what rest ih =>
      unfold flush
      by_cases stop : count = 0 ∨ pending.mPendingMask = 0#4
      · simp only [stop, ↓reduceIte]
        exact Nat.zero_le _
      · simp only [stop, ↓reduceIte]
        have room : count ≠ 0 := fun full => stop (.inl full)
        split_ifs
        · have stored := ih (count - 1) (pending.stamp what time)
          rw [List.length_cons]
          omega
        · exact ih _ _
        · exact ih _ _

/-- What the inner loop does: it stores a beginning of the snapshots and clears
every bit unless `count` runs out. -/
structure FlushSpec (mEnabled : BitVec numSensors) (time : Int) (sensors : List (Fin numSensors))
    (count : Nat) (pending : AkPending F) (flushed : List (SensorsEvent F) × AkPending F) :
    Prop where
  exhausted : flushed.1.length < count → flushed.2.mPendingMask = 0#4
  mask : Within flushed.2.mPendingMask pending.mPendingMask
  snapshots_eq : snapshots mEnabled time sensors pending =
    flushed.1 ++ snapshots mEnabled time sensors flushed.2
  synced_eq : flushed.2.synced time = pending.synced time

/-- Stamping clears a bit and sets none. -/
theorem within_stamp : Within (pending.stamp what time).mPendingMask pending.mPendingMask := by
  intro index held
  rw [stamp_mask, Bool.and_eq_true] at held
  exact held.1

/-- A stamped sensor has no snapshot left. -/
theorem snapshots_cons_of_stamped {mEnabled : BitVec numSensors}
    {sensors : List (Fin numSensors)} {after : AkPending F}
    (within : Within after.mPendingMask (pending.stamp what time).mPendingMask) :
    snapshots mEnabled time (what :: sensors) after = snapshots mEnabled time sensors after := by
  apply snapshots_cons_of_unset
  rintro ⟨held, _⟩
  have stamped := within what held
  simp only [stamp_mask, ne_eq, not_true_eq_false, decide_false, Bool.and_false,
    Bool.false_eq_true] at stamped

/-- A pending sensor at the head of the list is stamped, and stored if it is enabled. -/
theorem FlushSpec.stamped {mEnabled : BitVec numSensors} {sensors : List (Fin numSensors)}
    {count : Nat} (fresh : what ∉ sensors) (set : pending.mPendingMask.getLsbD what = true)
    {flushed : List (SensorsEvent F) × AkPending F} (stored : List (SensorsEvent F))
    (here : snapshots mEnabled time (what :: sensors) pending =
      stored ++ snapshots mEnabled time sensors pending)
    (rest : FlushSpec mEnabled time sensors (count - stored.length) (pending.stamp what time)
      flushed) :
    FlushSpec mEnabled time (what :: sensors) count pending (stored ++ flushed.1, flushed.2) := by
  obtain ⟨exhausted, mask, snapshotsEq, syncedEq⟩ := rest
  refine ⟨?_, mask.trans within_stamp, ?_, syncedEq.trans (synced_stamp set)⟩
  · intro short
    rw [List.length_append] at short
    exact exhausted (by omega)
  · rw [here, snapshots_cons_of_stamped mask, List.append_assoc, ← snapshotsEq,
      snapshots_stamp fresh]

/-- The inner loop does what `FlushSpec` says, if its list has every sensor with data. -/
theorem flush_spec (mEnabled : BitVec numSensors) (time : Int) (sensors : List (Fin numSensors))
    (nodup : sensors.Nodup) (count : Nat) (pending : AkPending F)
    (listed : ∀ what : Fin numSensors, pending.mPendingMask.getLsbD what = true → what ∈ sensors) :
    FlushSpec mEnabled time sensors count pending (flush mEnabled time sensors count pending) := by
  induction sensors generalizing count pending with
  | nil =>
      have clear : pending.mPendingMask = 0#4 := (eq_zero_iff _).mpr fun what =>
        Bool.eq_false_of_not_eq_true fun held => List.not_mem_nil (listed what held)
      exact ⟨fun _ => clear, Within.refl _, rfl, rfl⟩
  | cons what rest ih =>
      obtain ⟨fresh, nodupRest⟩ := List.nodup_cons.mp nodup
      unfold flush
      by_cases stop : count = 0 ∨ pending.mPendingMask = 0#4
      · simp only [stop, ↓reduceIte]
        refine ⟨?_, Within.refl _, rfl, rfl⟩
        intro short
        exact stop.resolve_left (Nat.ne_of_gt (Nat.zero_lt_of_lt short))
      · simp only [stop, ↓reduceIte, and_bit_ne_zero_iff]
        by_cases set : pending.mPendingMask.getLsbD what = true
        · have listedRest (index : Fin numSensors)
              (held : (pending.stamp what time).mPendingMask.getLsbD index = true) :
              index ∈ rest := by
            rw [stamp_mask, Bool.and_eq_true, decide_eq_true_eq] at held
            exact (List.mem_cons.mp (listed index held.1)).resolve_left held.2
          simp only [set, ↓reduceIte]
          by_cases enabled : mEnabled.getLsbD what = true
          · simp only [enabled, ↓reduceIte, stamp_events_same]
            exact .stamped fresh set [_] (snapshots_cons_of_set set enabled)
              (ih nodupRest (count - 1) _ listedRest)
          · simp only [enabled, Bool.false_eq_true, ↓reduceIte]
            exact .stamped fresh set [] (snapshots_cons_of_unset fun both => enabled both.2)
              (ih nodupRest count _ listedRest)
        · simp only [set, Bool.false_eq_true, ↓reduceIte]
          have listedRest (index : Fin numSensors)
              (held : pending.mPendingMask.getLsbD index = true) : index ∈ rest := by
            refine (List.mem_cons.mp (listed index held)).resolve_left ?_
            rintro rfl
            exact set held
          obtain ⟨exhausted, mask, snapshotsEq, syncedEq⟩ :=
            ih nodupRest count pending listedRest
          refine ⟨exhausted, mask, ?_, syncedEq⟩
          rw [snapshots_cons_of_unset fun both => set both.1,
            snapshots_cons_of_unset fun both => set (mask what both.1), ← snapshotsEq]

end Flush

/-! ## What a call of `readEvents` does -/

section Drain

variable [FloatArith F] {mEnabled : BitVec numSensors}

open SensorAK8973

variable (mEnabled) in
/-- A drain emits no more events than there is room for. -/
theorem length_akDrain_le (turns count : Nat) (reader : InputEventCircularReader InputEvent)
    (pending : AkPending F) :
    (akDrain mEnabled turns count reader pending).1.length ≤ count := by
  induction turns generalizing count reader pending with
  | zero => exact Nat.zero_le _
  | succ turns ih =>
      unfold akDrain
      by_cases stop : count = 0 ∨ reader.readEvent.1 = 0
      · simp only [stop, ↓reduceIte]
        exact Nat.zero_le _
      · simp only [stop, ↓reduceIte]
        have flushed := length_flush_le mEnabled reader.readEvent.2.timevalToNano
          (List.finRange numSensors) count pending
        split_ifs
        · exact ih _ _ _
        · rw [List.length_append]
          exact (Nat.add_le_add_left (ih _ _ _) _).trans_eq (Nat.add_sub_cancel' flushed)
        · rw [List.length_append]
          exact (Nat.add_le_add_left (ih _ _ _) _).trans_eq (Nat.add_sub_cancel' flushed)
        · exact ih _ _ _

/-- What the loop of `readEvents` does to the reader and the pending events. -/
structure AkDrainSpec (mEnabled : BitVec numSensors) (count : Nat)
    (reader : InputEventCircularReader InputEvent) (pending : AkPending F)
    (drained : List (SensorsEvent F) × InputEventCircularReader InputEvent × AkPending F) :
    Prop where
  valid : drained.2.1.Valid
  exhausted : drained.1.length < count → drained.2.1.queue = []
  decodes : (akDecoder mEnabled).Emits pending reader.queue drained.1 drained.2.2
    drained.2.1.queue
  pendingSince : ∃ consumed, reader.queue = consumed ++ drained.2.1.queue ∧
    Within drained.2.2.mPendingMask (sinceSyn pending.mPendingMask consumed)

theorem listed_finRange (mask : BitVec numSensors) (what : Fin numSensors)
    (_ : mask.getLsbD what = true) : what ∈ List.finRange numSensors :=
  List.mem_finRange what

theorem akDecoder_step_absolute {event : InputEvent} (absolute : event.type = EV_ABS)
    (pending : AkPending F) :
    (akDecoder mEnabled).step pending event =
      (SensorAK8973.processEvent event.code event.value pending, []) :=
  if_pos absolute

/-- `EV_SYN` emits the events of the enabled sensors with data. -/
theorem akDecoder_step_sync {event : InputEvent} (sync : event.type = EV_SYN)
    (pending : AkPending F) :
    (akDecoder mEnabled).step pending event =
      (pending.synced event.timevalToNano,
        snapshots mEnabled event.timevalToNano (List.finRange numSensors) pending) := by
  have relative : ¬ event.type = EV_ABS := by
    rw [sync]
    decide
  exact (if_neg relative).trans (if_pos sync)

theorem akDecoder_step_other {event : InputEvent} (absolute : ¬ event.type = EV_ABS)
    (sync : ¬ event.type = EV_SYN) (pending : AkPending F) :
    (akDecoder mEnabled).step pending event = (pending, []) :=
  (if_neg absolute).trans (if_neg sync)

/-- An `EV_SYN` at the head of the reader, flushed as far as `count` allows. -/
theorem emits_flush {count : Nat} {pending : AkPending F} {event : InputEvent}
    (sync : event.type = EV_SYN) {flushed : List (SensorsEvent F) × AkPending F}
    (spec : FlushSpec mEnabled event.timevalToNano (List.finRange numSensors) count pending
      flushed) :
    (akDecoder mEnabled).Emits pending [event] flushed.1 flushed.2 [event] := by
  intro later
  rw [List.singleton_append, Transducer.outputs_cons, Transducer.outputs_cons,
    akDecoder_step_sync sync, akDecoder_step_sync sync, spec.snapshots_eq, spec.synced_eq,
    List.append_assoc]

/-- With no bit left, the `EV_SYN` has been decoded. -/
theorem emits_sync_of_clear {pending : AkPending F} {event : InputEvent}
    (sync : event.type = EV_SYN) (clear : pending.mPendingMask = 0#4) :
    (akDecoder mEnabled).Emits pending [event] [] pending [] := by
  apply Transducer.Emits.step
  rw [akDecoder_step_sync sync, snapshots_of_clear clear, synced_of_clear clear]

/-- Consuming one event and then draining the rest. -/
theorem AkDrainSpec.consume {count : Nat} {reader next : InputEventCircularReader InputEvent}
    {pending after : AkPending F} {event : InputEvent} {emitted : List (SensorsEvent F)}
    {drained : List (SensorsEvent F) × InputEventCircularReader InputEvent × AkPending F}
    (oldest : reader.queue = event :: next.queue)
    (emits : (akDecoder mEnabled).Emits pending [event] emitted after [])
    (mask : Within after.mPendingMask (sinceSyn pending.mPendingMask [event]))
    (rest : AkDrainSpec mEnabled (count - emitted.length) next after drained) :
    AkDrainSpec mEnabled count reader pending (emitted ++ drained.1, drained.2) := by
  obtain ⟨valid, exhausted, decodes, consumed, split, since⟩ := rest
  refine ⟨valid, ?_, ?_, event :: consumed, ?_, ?_⟩
  · intro short
    rw [List.length_append] at short
    exact exhausted (by omega)
  · rw [oldest]
    exact (emits.append next.queue).trans decodes
  · rw [oldest, split, List.cons_append]
  · exact since.trans (mask.sinceSyn consumed)

theorem akDrain_zero (turns : Nat) (reader : InputEventCircularReader InputEvent)
    (pending : AkPending F) : akDrain mEnabled turns 0 reader pending = ([], reader, pending) := by
  cases turns with
  | zero => rfl
  | succ turns => simp only [akDrain, true_or, ↓reduceIte]

/-- An event that is neither data nor `EV_SYN` leaves the mask alone. -/
theorem sinceSyn_other {event : InputEvent} (absolute : ¬ event.type = EV_ABS)
    (sync : ¬ event.type = EV_SYN) (mask : BitVec numSensors) : sinceSyn mask [event] = mask :=
  (if_neg absolute).trans (if_neg sync)

theorem sinceSyn_absolute {event : InputEvent} (absolute : event.type = EV_ABS)
    (mask : BitVec numSensors) : sinceSyn mask [event] = mask ||| touched event.code :=
  if_pos absolute

/-- An `EV_SYN` at the head of the reader: it is consumed when the flush has
cleared the mask, and otherwise `count` has run out. -/
theorem AkDrainSpec.sync {count : Nat} {reader : InputEventCircularReader InputEvent}
    {pending : AkPending F} {event : InputEvent} (valid : reader.Valid)
    (oldest : reader.queue = event :: reader.next.queue) (sync : event.type = EV_SYN)
    {flushed : List (SensorsEvent F) × AkPending F}
    (spec : FlushSpec mEnabled event.timevalToNano (List.finRange numSensors) count pending
      flushed) (turns : Nat)
    (ih : ∀ count (pending : AkPending F), AkDrainSpec mEnabled count reader.next pending
      (akDrain mEnabled turns count reader.next pending)) :
    let left := if flushed.2.mPendingMask = 0#4 then reader.next else reader
    let drained := akDrain mEnabled turns (count - flushed.1.length) left flushed.2
    AkDrainSpec mEnabled count reader pending (flushed.1 ++ drained.1, drained.2) := by
  by_cases clear : flushed.2.mPendingMask = 0#4
  · simp only [clear, ↓reduceIte]
    refine AkDrainSpec.consume oldest ?_ ?_ (ih _ _)
    · have emits := (emits_flush sync spec).trans (emits_sync_of_clear sync clear)
      rwa [List.append_nil] at emits
    · rw [clear]
      intro what held
      rw [BitVec.getLsbD_zero] at held
      cases held
  · have spent : count - flushed.1.length = 0 := by
      by_contra room
      exact clear (spec.exhausted (by omega))
    simp only [clear, ↓reduceIte, spent, akDrain_zero, List.append_nil]
    refine ⟨valid, ?_, ?_, [], rfl, spec.mask⟩
    · intro short
      change flushed.1.length < count at short
      omega
    · rw [oldest]
      exact (emits_flush sync spec).append reader.next.queue

variable (mEnabled) in
/-- The loop does what `AkDrainSpec` says, if it has a turn for each event. -/
theorem akDrain_spec (turns count : Nat) (reader : InputEventCircularReader InputEvent)
    (pending : AkPending F) (valid : reader.Valid) (enough : reader.available ≤ turns) :
    AkDrainSpec mEnabled count reader pending (akDrain mEnabled turns count reader pending) := by
  induction turns generalizing count reader pending with
  | zero =>
      have empty : reader.queue = [] := reader.queue_eq_nil_iff.mpr (by omega)
      exact ⟨valid, fun _ => empty, .refl _ _ _, [], rfl, Within.refl _⟩
  | succ turns ih =>
      unfold akDrain
      by_cases stop : count = 0 ∨ reader.readEvent.1 = 0
      · simp only [stop, ↓reduceIte]
        exact ⟨valid, queue_of_stop stop, .refl _ _ _, [], rfl, Within.refl _⟩
      · simp only [stop, ↓reduceIte]
        obtain ⟨nextValid, oldest, fewer⟩ := queue_of_turn valid stop enough
        by_cases absolute : reader.readEvent.2.type = EV_ABS
        · simp only [absolute, ↓reduceIte]
          have emits : (akDecoder mEnabled).Emits pending [reader.readEvent.2] [] _ [] :=
            .step (akDecoder_step_absolute absolute pending)
          refine AkDrainSpec.consume oldest emits ?_ (ih count _ _ nextValid fewer)
          rw [processEvent_mask, sinceSyn_absolute absolute]
          exact Within.refl _
        · simp only [absolute, ↓reduceIte]
          by_cases sync : reader.readEvent.2.type = EV_SYN
          · simp only [sync, ↓reduceIte]
            have spec := flush_spec mEnabled reader.readEvent.2.timevalToNano _
              (List.nodup_finRange numSensors) count pending (listed_finRange _)
            exact AkDrainSpec.sync valid oldest sync spec turns
              fun count pending => ih count _ pending nextValid fewer
          · simp only [sync, ↓reduceIte]
            have emits : (akDecoder mEnabled).Emits pending [reader.readEvent.2] [] pending [] :=
              .step (akDecoder_step_other absolute sync pending)
            refine AkDrainSpec.consume oldest emits ?_ (ih count _ _ nextValid fewer)
            rw [sinceSyn_other absolute sync]
            exact Within.refl _

/-- Whatever `read` returns, `readEvents` stores what fits and counts it. -/
theorem SensorAK8973.readEvents_fits (sensor : SensorAK8973 F) {count : Int}
    (positive : 1 ≤ count) (result : ReadResult InputEvent) (clock : Int) :
    (sensor.readEvents count result clock).Fits count := by
  have enough : ¬ count < 1 := by omega
  unfold SensorAK8973.readEvents
  simp only [enough, ↓reduceIte]
  by_cases waiting : sensor.mHasPendingEvent = true
  · simp only [waiting, ↓reduceIte]
    exact ⟨positive, rfl⟩
  · simp only [waiting, Bool.false_eq_true, ↓reduceIte]
    by_cases failed : (sensor.mInputReader.fill result).1 < 0
    · simp only [failed, ↓reduceIte]
      exact .error positive failed
    · simp only [failed, ↓reduceIte]
      have within := length_akDrain_le sensor.mEnabled
        (sensor.mInputReader.fill result).2.available count.toNat
        (sensor.mInputReader.fill result).2 sensor.toAkPending
      refine ⟨?_, (Int.toNat_natCast _).symm⟩
      simp only
      omega

/-- What a call of `SensorAK8973::readEvents` does when no temperature event is
pending and `fill` appends the taken events, none if the reader is full. -/
structure AkReadSpec (sensor : SensorAK8973 F) (count : Int) (taken : List InputEvent)
    (outcome : ReadOutcome (SensorAK8973 F) (SensorsEvent F)) : Prop where
  valid : outcome.driver.mInputReader.Valid
  enabled : outcome.driver.mEnabled = sensor.mEnabled
  quiet : outcome.driver.mHasPendingEvent = false
  result : outcome.result = outcome.stored.length
  exhausted : outcome.result < count → outcome.driver.mInputReader.queue = []
  decodes : (akDecoder sensor.mEnabled).Emits sensor.toAkPending
    (sensor.mInputReader.queue ++ taken) outcome.stored outcome.driver.toAkPending
    outcome.driver.mInputReader.queue
  pendingSince : ∃ consumed,
    sensor.mInputReader.queue ++ taken = consumed ++ outcome.driver.mInputReader.queue ∧
      Within outcome.driver.mPendingMask (sinceSyn sensor.mPendingMask consumed)

variable {sensor : SensorAK8973 F} {count : Int}

/-- **Piecewise decoding.** After a `fill` that appended the taken events,
`readEvents` emits the next part of the decoding. -/
theorem SensorAK8973.readEvents_of_fill (clock : Int) (positive : 1 ≤ count)
    (quiet : sensor.mHasPendingEvent = false) {result : ReadResult InputEvent}
    {taken : List InputEvent} (success : 0 ≤ (sensor.mInputReader.fill result).1)
    (valid : (sensor.mInputReader.fill result).2.Valid)
    (queue : (sensor.mInputReader.fill result).2.queue = sensor.mInputReader.queue ++ taken) :
    AkReadSpec sensor count taken (sensor.readEvents count result clock) := by
  have enough : ¬ count < 1 := by omega
  have filled : ¬ (sensor.mInputReader.fill result).1 < 0 := by omega
  obtain ⟨validAfter, exhausted, decodes, consumed, split, since⟩ :=
    akDrain_spec sensor.mEnabled _ count.toNat _ sensor.toAkPending valid le_rfl
  unfold SensorAK8973.readEvents
  simp only [enough, quiet, Bool.false_eq_true, ↓reduceIte, filled]
  refine ⟨validAfter, rfl, rfl, rfl, ?_, ?_, consumed, ?_, since⟩
  · intro short
    exact exhausted (by simp only at short; omega)
  · rw [← queue]
    exact decodes
  · rw [← queue]
    exact split

/-- A pending temperature event is stored alone, and the reader is left for a
later call. -/
theorem SensorAK8973.readEvents_temperature (clock : Int) (positive : 1 ≤ count)
    (waiting : sensor.mHasPendingEvent = true) (result : ReadResult InputEvent) :
    let event := { sensor.mPendingEvents Temperature with timestamp := clock }
    sensor.readEvents count result clock = ⟨1, [event], { sensor with
      mHasPendingEvent := false
      mPendingEvents := Function.update sensor.mPendingEvents Temperature event }⟩ := by
  have enough : ¬ count < 1 := by omega
  simp only [SensorAK8973.readEvents, enough, waiting, ↓reduceIte]

end Drain

end Jordan.Sensors
