import Jordan.Sensors.SensorEnable

/-! # Histories of switches

`SensorISL29030P::enable` and `SensorISL29030L::enable` record switches that the kernel has
refused, and return 0 at once when the state on record is asked for. What goes wrong can be
told from the calls: a request whose SET was refused is made again before a SET has brought
record and kernel together (`Standing.Repeats`). The histories of all four drivers that
agree with the kernel are characterised in `enable_agreement`.
-/

namespace Jordan.Sensors

open Execution

variable {F : Type}

/-! ## Refused requests -/

namespace EnableCall

/-- What a call asks for. -/
def request (call : EnableCall) : Bool := decide (call.en ≠ 0)

/-- A SET of the call succeeds: the descriptor is open, or the call is a switch-on that opens
it, and the kernel does not refuse. -/
def granted (call : EnableCall) (opened : Bool) : Bool :=
  (opened || call.request && call.io.opens) && call.io.set.isNone

end EnableCall

theorem newState_eq (call : EnableCall) :
    newState call.en = if call.request = true then 1 else 0 := by
  simp only [newState, EnableCall.request, decide_eq_true_eq]

/-- How the last SET of a history was answered. -/
inductive Standing where
  /-- The kernel has the sensor as it was asked, and the descriptor is open or not. -/
  | granted (on opened : Bool)
  /-- The kernel has refused what was asked, and has kept its flag. -/
  | refused (kernel asked : Bool)
deriving DecidableEq, Repr

namespace Standing

/-- After a refused switch-on. The proximity driver forgets it: an earlier switch-off still
stands, granted or refused. -/
def refusedOn (records kernel : Bool) : Standing :=
  if records then .refused kernel true
  else if kernel then .refused true false else .granted false false

/-- After a call; `records` tells whether a refused switch-on is recorded. Only a call that asks
for something else makes a SET. After a refusal the descriptor is closed, so that a switch-off
is refused, and just undoes a switch-on that was refused while the kernel had the sensor off. -/
def after (records : Bool) : Standing → EnableCall → Standing
  | .granted on opened, call =>
      if call.request = on then .granted on opened
      else if call.granted opened then .granted call.request call.request
      else if call.request then refusedOn records on else .refused on false
  | .refused kernel asked, call =>
      if call.request = asked then .refused kernel asked
      else if call.granted false then .granted call.request call.request
      else if call.request then refusedOn records kernel
      else if kernel then .refused true false else .granted false false

/-- The call asks for what was refused. -/
def Repeats : Standing → EnableCall → Prop
  | .granted _ _, _ => False
  | .refused _ asked, call => call.request = asked

instance (standing : Standing) (call : EnableCall) : Decidable (standing.Repeats call) :=
  match standing with
  | .granted _ _ => .isFalse id
  | .refused _ asked => inferInstanceAs (Decidable (call.request = asked))

end Standing

/-- No call makes a refused request again, before it is granted or another one is. -/
def NoRefusalRepeated (records on opened : Bool) (calls : List EnableCall) : Prop :=
  Guarded (fun standing call => some (Standing.after records standing call))
    (fun standing call => ¬ standing.Repeats call) (.granted on opened) calls

instance (records on opened : Bool) (calls : List EnableCall) :
    Decidable (NoRefusalRepeated records on opened calls) :=
  decidableAlong ..

/-! ## The proximity and the light driver -/

/-- What `enable` of the two drivers does. -/
inductive Switched (records : Bool) (driver : SyncSensor F) (device : Device)
    (call : EnableCall) : EnableOutcome (SyncSensor F) Device → Prop
  | repeated (same : driver.mEnabled = newState call.en) :
      Switched records driver device call ⟨0, driver, device⟩
  | succeeded (after : EnableOutcome (SyncSensor F) Device)
      (different : driver.mEnabled ≠ newState call.en)
      (granted : call.granted driver.devFd = true)
      (flag : after.device.enabled = call.request)
      (record : after.driver.mEnabled = newState call.en)
      (opened : after.driver.devFd = call.request) :
      Switched records driver device call after
  | failed (after : EnableOutcome (SyncSensor F) Device)
      (different : driver.mEnabled ≠ newState call.en)
      (refused : call.granted driver.devFd = false) (error : after.err ≠ 0)
      (flag : after.device.enabled = device.enabled)
      (record : after.driver.mEnabled = if records then newState call.en else 0)
      (closed : after.driver.devFd = false) :
      Switched records driver device call after

/-- The descriptor on which the SET is made. -/
theorem devFd_opened {sensor : SyncSensor F} {call : EnableCall} (binary : sensor.mEnabled ≤ 1)
    (different : sensor.mEnabled ≠ newState call.en) :
    (if sensor.mEnabled = 0 then sensor.openDevice call.io.opens else sensor).devFd =
      (sensor.devFd || call.request && call.io.opens) := by
  rw [newState_eq] at different
  by_cases off : sensor.mEnabled = 0
  · have on : call.request = true := by
      by_contra none
      rw [if_neg none] at different
      exact different off
    rw [if_pos off, on, Bool.true_and]
    unfold SyncSensor.openDevice
    cases opened : sensor.devFd with
    | false => simp
    | true => simp [opened]
  · have none : call.request = false := by
      by_contra on
      rw [if_pos (Bool.eq_true_of_not_eq_false on)] at different
      omega
    rw [if_neg off, none, Bool.false_and, Bool.or_false]

/-- The SET is answered as the call says. -/
theorem ioctl_opened_eq_zero_iff {sensor : SyncSensor F} {call : EnableCall}
    (binary : sensor.mEnabled ≤ 1) (different : sensor.mEnabled ≠ newState call.en) :
    ioctl (if sensor.mEnabled = 0 then sensor.openDevice call.io.opens else sensor).devFd
      call.io.set = 0 ↔ call.granted sensor.devFd = true := by
  rw [ioctl_eq_zero_iff, devFd_opened binary different, EnableCall.granted, Bool.and_eq_true,
    Option.isNone_iff_eq_none]

theorem newState_ne_zero (call : EnableCall) :
    decide (newState call.en ≠ 0) = call.request := by
  rw [newState_eq]
  cases call.request with
  | false => rfl
  | true => rfl

theorem SensorISL29030P.enable_switched (sensor : SyncSensor F) (device : Device)
    (call : EnableCall) (binary : sensor.mEnabled ≤ 1) :
    Switched false sensor device call (SensorISL29030P.enable sensor device call) := by
  by_cases same : newState call.en = sensor.mEnabled
  · simp only [SensorISL29030P.enable, same, ↓reduceIte]
    exact .repeated same.symm
  · have different : sensor.mEnabled ≠ newState call.en := fun equal => same equal.symm
    have answered := ioctl_opened_eq_zero_iff binary different
    have record : (if sensor.mEnabled = 0 then sensor.openDevice call.io.opens
        else sensor).mEnabled = sensor.mEnabled := by
      split
      · exact SyncSensor.openDevice_mEnabled ..
      · rfl
    have request := newState_ne_zero call
    unfold SensorISL29030P.enable
    simp only [same, ↓reduceIte]
    generalize (if sensor.mEnabled = 0 then sensor.openDevice call.io.opens else sensor) = opened
      at answered record
    by_cases success : ioctl opened.devFd call.io.set = 0
    · obtain ⟨open_, -⟩ := ioctl_eq_zero_iff.mp success
      simp only [success, ↓reduceIte, true_or]
      by_cases off : newState call.en = 0
      · rw [off, decide_eq_false (by simp)] at request
        rw [if_pos off]
        exact .succeeded _ different (answered.mp success) (by simp [off, ← request]) rfl
          request
      · rw [decide_eq_true off] at request
        rw [if_neg off]
        exact .succeeded _ different (answered.mp success) (by simp [off, ← request]) rfl
          (open_.trans request)
    · have refused : call.granted sensor.devFd = false :=
        Bool.eq_false_iff.mpr fun granted => success (answered.mpr granted)
      simp only [success, ↓reduceIte, false_or]
      by_cases off : newState call.en = 0
      · simp only [off, ↓reduceIte]
        exact .failed _ different refused success rfl rfl rfl
      · -- a switch-on, so that the sensor was off on record
        have disabled : opened.mEnabled = 0 := by
          rw [newState_eq] at off different
          split at off
          next on =>
            rw [if_pos on] at different
            omega
          next => exact absurd rfl off
        simp only [off, disabled, ↓reduceIte]
        exact .failed _ different refused success rfl disabled rfl

/-- The light driver does what the proximity driver does, and then records the
new state in any case. -/
theorem SensorISL29030L.enable_eq (sensor : SyncSensor F) (device : Device) (call : EnableCall)
    (different : ¬ newState call.en = sensor.mEnabled) :
    SensorISL29030L.enable sensor device call =
      { SensorISL29030P.enable sensor device call with
        driver := { (SensorISL29030P.enable sensor device call).driver with
          mEnabled := newState call.en } } := by
  simp only [SensorISL29030L.enable, SensorISL29030P.enable, different, ↓reduceIte]

theorem SensorISL29030L.enable_switched (sensor : SyncSensor F) (device : Device)
    (call : EnableCall) (binary : sensor.mEnabled ≤ 1) :
    Switched true sensor device call (SensorISL29030L.enable sensor device call) := by
  by_cases same : newState call.en = sensor.mEnabled
  · simp only [SensorISL29030L.enable, same, ↓reduceIte]
    exact .repeated same.symm
  · rw [SensorISL29030L.enable_eq sensor device call same]
    have proximity := SensorISL29030P.enable_switched sensor device call binary
    generalize SensorISL29030P.enable sensor device call = outcome at proximity ⊢
    cases proximity with
    | repeated equal => exact absurd equal.symm same
    | succeeded _ different granted flag record opened =>
        exact .succeeded _ different granted flag rfl opened
    | failed _ different refused error flag record closed =>
        exact .failed _ different refused error flag rfl closed

/-! ## Their histories -/

/-- The driver and the kernel are as a history has left them. -/
def Standing.Of (standing : Standing) (outcome : EnableOutcome (SyncSensor F) Device) : Prop :=
  match standing with
  | .granted on opened =>
      (outcome.driver.mEnabled = if on then 1 else 0) ∧ outcome.device.enabled = on ∧
        outcome.driver.devFd = opened ∧ (on = true → opened = true)
  | .refused kernel asked =>
      (outcome.driver.mEnabled = if asked then 1 else 0) ∧ outcome.device.enabled = kernel ∧
        outcome.driver.devFd = false ∧ (kernel = true ∨ asked = true)

theorem Standing.Of.binary {standing : Standing} {outcome : EnableOutcome (SyncSensor F) Device}
    (stands : standing.Of outcome) : outcome.driver.mEnabled ≤ 1 := by
  have flag (state : Bool) : (if state = true then 1 else 0) ≤ 1 := by
    cases state with
    | false => exact Nat.zero_le 1
    | true => exact Nat.le_refl 1
  cases standing with
  | granted on opened => exact stands.1 ▸ flag on
  | refused kernel asked => exact stands.1 ▸ flag asked

/-- The state on record is asked for. -/
theorem record_eq_newState_iff (call : EnableCall) {mEnabled : Nat} {state : Bool}
    (record : mEnabled = if state then 1 else 0) :
    mEnabled = newState call.en ↔ call.request = state := by
  rw [record, newState_eq]
  cases state with
  | false => cases call.request <;> simp
  | true => cases call.request <;> simp

/-- A call that returns 0 and leaves the kernel, the record and the descriptor as it asks. -/
theorem agrees_of_request {before after : EnableOutcome (SyncSensor F) Device}
    {call : EnableCall} (flag : after.device.enabled = call.request)
    (record : after.driver.mEnabled = newState call.en)
    (opened : call.request = true → after.driver.devFd = true) : Agrees before call after := by
  intro _
  refine ⟨flag, record, fun on => opened ?_⟩
  rw [record] at on
  rw [← newState_ne_zero]
  exact decide_eq_true on

/-- A SET that succeeds brings the record and the kernel together. -/
theorem Switched.succeeded_of {after : EnableOutcome (SyncSensor F) Device} {call : EnableCall}
    (flag : after.device.enabled = call.request)
    (record : after.driver.mEnabled = newState call.en)
    (opened : after.driver.devFd = call.request) :
    (Standing.granted call.request call.request).Of after :=
  ⟨record.trans (newState_eq call), flag, opened, id⟩

/-- After a SET that is refused, the descriptor is closed, the kernel has kept its flag, and
the driver has recorded what its kind records. -/
theorem Standing.refusedOn_of {records kernel : Bool}
    {after : EnableOutcome (SyncSensor F) Device} {call : EnableCall}
    (on : call.request = true) (flag : after.device.enabled = kernel)
    (record : after.driver.mEnabled = if records then newState call.en else 0)
    (closed : after.driver.devFd = false) : (Standing.refusedOn records kernel).Of after := by
  rw [newState_eq, if_pos on] at record
  unfold refusedOn
  cases records with
  | true => exact ⟨record, flag, closed, .inr rfl⟩
  | false =>
      cases kernel with
      | true => exact ⟨record, flag, closed, .inl rfl⟩
      | false => exact ⟨record, flag, closed, fun none => absurd none Bool.false_ne_true⟩

/-- After a call whose SET is refused, made in whatever state of the kernel. -/
theorem Standing.refused_of {records kernel : Bool}
    {after : EnableOutcome (SyncSensor F) Device} {call : EnableCall}
    (flag : after.device.enabled = kernel)
    (record : after.driver.mEnabled = if records then newState call.en else 0)
    (closed : after.driver.devFd = false) :
    (if call.request then refusedOn records kernel
      else if kernel then .refused true false else .granted false false : Standing).Of after := by
  by_cases switchOn : call.request = true
  · rw [if_pos switchOn]
    exact refusedOn_of switchOn flag record closed
  · rw [newState_eq, if_neg switchOn, ite_self] at record
    rw [if_neg switchOn]
    split
    next on => exact ⟨record, flag.trans on, closed, .inl rfl⟩
    next off =>
      exact ⟨record, flag.trans (Bool.eq_false_iff.mpr off), closed,
        fun none => absurd none Bool.false_ne_true⟩

/-- A call that comes when the last request was granted agrees with the kernel. -/
theorem Standing.Of.step_granted {records on opened : Bool}
    {before after : EnableOutcome (SyncSensor F) Device} {call : EnableCall}
    (stands : (Standing.granted on opened).Of before)
    (switched : Switched records before.driver before.device call after) :
    ((Standing.granted on opened).after records call).Of after ∧ Agrees before call after := by
  obtain ⟨record, flag, descriptor, usable⟩ := stands
  have requested := record_eq_newState_iff call record
  cases switched with
  | repeated same =>
      have asked := requested.mp same
      simp only [Standing.after, if_pos asked]
      refine ⟨⟨record, flag, descriptor, usable⟩, ?_⟩
      exact agrees_of_request (flag.trans asked.symm) same fun switchOn =>
        descriptor.trans (usable (asked.symm.trans switchOn))
  | succeeded _ different granted flagAfter recordAfter openedAfter =>
      rw [descriptor] at granted
      simp only [Standing.after, if_neg (mt requested.mpr different), if_pos granted]
      exact ⟨Switched.succeeded_of flagAfter recordAfter openedAfter,
        agrees_of_request flagAfter recordAfter openedAfter.trans⟩
  | failed _ different refused error flagAfter recordAfter closed =>
      have other := mt requested.mpr different
      rw [descriptor] at refused
      have stands := Standing.refused_of (flagAfter.trans flag) recordAfter closed
      refine ⟨?_, fun none => absurd none error⟩
      simp only [Standing.after, if_neg other, refused, Bool.false_eq_true, ↓reduceIte]
      -- a switch-off is refused only to a sensor that is on
      cases on with
      | true => exact stands
      | false => rwa [if_pos (Bool.eq_true_of_not_eq_false other)] at stands ⊢

/-- A call that comes when the last request was refused agrees with the kernel exactly if it
asks for something else. -/
theorem Standing.Of.step_refused {records kernel asked : Bool}
    {before after : EnableOutcome (SyncSensor F) Device} {call : EnableCall}
    (stands : (Standing.refused kernel asked).Of before)
    (switched : Switched records before.driver before.device call after) :
    ((Standing.refused kernel asked).after records call).Of after ∧
      (Agrees before call after ↔ ¬ call.request = asked) := by
  obtain ⟨record, flag, descriptor, wrong⟩ := stands
  have requested := record_eq_newState_iff call record
  cases switched with
  | repeated same =>
      have again := requested.mp same
      simp only [Standing.after, if_pos again]
      refine ⟨⟨record, flag, descriptor, wrong⟩, iff_of_false ?_ (not_not.mpr again)⟩
      intro agrees
      obtain ⟨flagNow, _, openNow⟩ := agrees rfl
      have kept : kernel = asked := flag.symm.trans (flagNow.trans again)
      have off : asked = false := by
        by_contra on
        rw [if_pos (Bool.eq_true_of_not_eq_false on)] at record
        have opened := openNow (record.trans_ne Nat.one_ne_zero)
        exact Bool.false_ne_true (descriptor.symm.trans opened)
      rcases wrong with on | on
      · exact Bool.false_ne_true ((off.symm.trans kept.symm).trans on)
      · exact Bool.false_ne_true (off.symm.trans on)
  | succeeded _ different granted flagAfter recordAfter openedAfter =>
      rw [descriptor] at granted
      simp only [Standing.after, if_neg (mt requested.mpr different), if_pos granted]
      exact ⟨Switched.succeeded_of flagAfter recordAfter openedAfter, iff_of_true
        (agrees_of_request flagAfter recordAfter openedAfter.trans) (mt requested.mpr different)⟩
  | failed _ different refused error flagAfter recordAfter closed =>
      have other := mt requested.mpr different
      rw [descriptor] at refused
      simp only [Standing.after, if_neg other, refused, Bool.false_eq_true, ↓reduceIte]
      exact ⟨Standing.refused_of (flagAfter.trans flag) recordAfter closed,
        iff_of_true (fun none => absurd none error) other⟩

/-- A call leaves driver and kernel as the history with it does, and agrees with the kernel
exactly if it does not repeat a refused request. -/
theorem Standing.Of.step {records : Bool} {standing : Standing}
    {before after : EnableOutcome (SyncSensor F) Device} {call : EnableCall}
    (stands : standing.Of before)
    (switched : Switched records before.driver before.device call after) :
    (standing.after records call).Of after ∧
      (Agrees before call after ↔ ¬ standing.Repeats call) := by
  cases standing with
  | granted on opened =>
      obtain ⟨still, agrees⟩ := stands.step_granted switched
      exact ⟨still, iff_of_true agrees id⟩
  | refused kernel asked => exact stands.step_refused switched

/-- The histories in which such a driver agrees with the kernel. -/
theorem along_agrees_iff {records : Bool} {enable : SyncSensor F → Device → EnableCall →
      EnableOutcome (SyncSensor F) Device}
    (switched : ∀ driver device call, driver.mEnabled ≤ 1 →
      Switched records driver device call (enable driver device call))
    {start : EnableOutcome (SyncSensor F) Device} (recorded : Recorded start.driver start.device)
    (calls : List EnableCall) :
    Along (enableStep enable) Agrees start calls ↔
      NoRefusalRepeated records start.device.enabled start.driver.devFd calls := by
  have stands : (Standing.granted start.device.enabled start.driver.devFd).Of start := by
    refine ⟨recorded.record, rfl, rfl, fun on => recorded.opened ?_⟩
    rw [recorded.record, if_pos on]
    exact Nat.one_ne_zero
  refine along_iff_of_related (fun outcome standing => standing.Of outcome) ?_ stands calls
  intro before standing call stands
  obtain ⟨still, agrees⟩ := stands.step (switched before.driver before.device call stands.binary)
  exact ⟨_, _, rfl, rfl, still, agrees⟩

/-! ## When the drivers agree with the kernel -/

/-- **Exact agreement.** The compass agrees with the kernel in every history, the
accelerometer exactly when no switch-off of an enabled sensor is refused, and
the proximity and light drivers exactly when no refused request is made again
before a SET is granted. -/
theorem enable_agreement :
    (∀ start : EnableOutcome (SensorAK8973 F) AkDevice, AkRecorded start.driver start.device →
      ∀ calls, Along (enableStep SensorAK8973.enable) AkAgrees start calls) ∧
    (∀ start : EnableOutcome (SyncSensor F) Device, Recorded start.driver start.device →
      ∀ calls, Along (enableStep SensorKXTF9.enable) Agrees start calls ↔
        Guarded (enableStep SensorKXTF9.enable) SwitchOffSucceeds start calls) ∧
    (∀ start : EnableOutcome (SyncSensor F) Device, Recorded start.driver start.device →
      ∀ calls, Along (enableStep SensorISL29030P.enable) Agrees start calls ↔
        NoRefusalRepeated false start.device.enabled start.driver.devFd calls) ∧
    (∀ start : EnableOutcome (SyncSensor F) Device, Recorded start.driver start.device →
      ∀ calls, Along (enableStep SensorISL29030L.enable) Agrees start calls ↔
        NoRefusalRepeated true start.device.enabled start.driver.devFd calls) := by
  refine ⟨akEnable_agrees, ?_, ?_, ?_⟩
  · intro start recorded calls
    refine along_iff (fun outcome => Recorded outcome.driver outcome.device) ?_ ?_ recorded calls
    · intro before call after recorded guarded taken
      cases taken
      obtain ⟨kept, agrees⟩ :=
        SensorKXTF9.agrees_iff recorded (SensorKXTF9.enable_switched _ _ call)
      exact ⟨kept guarded, agrees.mpr guarded⟩
    · intro before call after recorded taken agrees
      cases taken
      exact (SensorKXTF9.agrees_iff recorded
        (SensorKXTF9.enable_switched _ _ call)).2.mp agrees
  · intro start recorded calls
    exact along_agrees_iff SensorISL29030P.enable_switched recorded calls
  · intro start recorded calls
    exact along_agrees_iff SensorISL29030L.enable_switched recorded calls

instance (before : EnableOutcome (SyncSensor F) Device) (call : EnableCall)
    (after : EnableOutcome (SyncSensor F) Device) : Decidable (Agrees before call after) :=
  inferInstanceAs (Decidable (_ → _))

instance (before : EnableOutcome (SyncSensor F) Device) (call : EnableCall) :
    Decidable (SwitchOffSucceeds before call) :=
  inferInstanceAs (Decidable (_ → _))

/-- A driver constructed while the kernel has its sensor off or on. -/
def constructed (create : (Nat → InputEvent) → Device → DeviceIo → SyncSensor Rat)
    (enabled : Bool) : EnableOutcome (SyncSensor Rat) Device where
  err := 0
  driver := create (fun _ => blank) ⟨enabled, 200⟩ ⟨true, none, none⟩
  device := ⟨enabled, 200⟩

/-- The compass, constructed while the kernel has its sensors off. -/
def constructedAK8973 : EnableOutcome (SensorAK8973 Rat) AkDevice where
  err := 0
  driver := SensorAK8973.create fun _ => blank
  device := ⟨0#4, 200⟩

/-- A switch-on that fails, one that succeeds and a switch-off agree throughout. So do a
switch-off of the proximity sensor that is refused and made again after a switch-on, and a
switch-on of the light sensor that is refused and made again after a switch-off. -/
theorem constructed_drivers_agree :
    Along (enableStep SensorAK8973.enable) AkAgrees constructedAK8973
        [⟨3, 1, true, some EIO, none⟩, ⟨3, 1, true, none, none⟩, ⟨3, 0, true, none, none⟩] ∧
      Along (enableStep SensorKXTF9.enable) Agrees
        (constructed (SensorKXTF9.create SensorsEvent.zero) false)
        [⟨1, 1, true, some EIO, none⟩, ⟨1, 1, true, none, none⟩, ⟨1, 0, true, none, none⟩] ∧
      Along (enableStep SensorISL29030P.enable) Agrees (constructed SensorISL29030P.create true)
        [⟨8, 0, true, some EIO, none⟩, ⟨8, 1, true, none, none⟩, ⟨8, 0, true, none, none⟩] ∧
      Along (enableStep SensorISL29030L.enable) Agrees (constructed SensorISL29030L.create false)
        [⟨5, 1, true, some EIO, none⟩, ⟨5, 0, true, none, none⟩, ⟨5, 1, true, none, none⟩] :=
  ⟨enable_agreement.1 constructedAK8973 ⟨rfl, fun on => (on rfl).elim⟩ _,
    (enable_agreement.2.1 (constructed (SensorKXTF9.create SensorsEvent.zero) false)
      (SyncSensor.create_recorded _ _ _ _ rfl rfl) _).mpr (by decide),
    (enable_agreement.2.2.1 (constructed SensorISL29030P.create true)
      (SyncSensor.create_recorded _ _ _ _ rfl rfl) _).mpr (by decide),
    (enable_agreement.2.2.2 (constructed SensorISL29030L.create false)
      (SyncSensor.create_recorded _ _ _ _ rfl rfl) _).mpr (by decide)⟩

/-- A refused switch-off of the accelerometer returns 0 at once; the other two
return 0 when a refused switch is asked for again. -/
theorem refused_switches_disagree :
    ¬ Along (enableStep SensorKXTF9.enable) Agrees
        (constructed (SensorKXTF9.create SensorsEvent.zero) true)
        [⟨1, 0, true, some EIO, none⟩] ∧
      ¬ Along (enableStep SensorISL29030P.enable) Agrees
        (constructed SensorISL29030P.create true)
        [⟨8, 0, true, some EIO, none⟩, ⟨8, 0, true, none, none⟩] ∧
      ¬ Along (enableStep SensorISL29030L.enable) Agrees
        (constructed SensorISL29030L.create false)
        [⟨5, 1, true, some EIO, none⟩, ⟨5, 1, true, none, none⟩] := by
  decide

end Jordan.Sensors
