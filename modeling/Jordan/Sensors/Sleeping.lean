import Jordan.Sensors.Hal

/-! # Going to sleep

When `pollEvents` calls `poll` with the infinite timeout, nothing a driver has
already read may be left undelivered: only a new event or a wake message would
bring it out. A driver with leftovers is visited again because its `POLLIN` flag
stays set while it fills the array. The compass breaks this when it stores its
pending temperature event: that is one event, fewer than asked for, so its flag
is cleared whatever its reader holds. If its reader is empty then, or one slot
is left, the HAL never sleeps on undelivered events (`sleeps_delivered`).
-/

namespace Jordan.Sensors

open Execution

variable {F : Type}

/-- Nothing that was read is left undelivered: the readers are empty, the mask of
the compass has only sensors with data since the last `EV_SYN` it has read, and
no driver has a pending event. -/
structure Delivered (world : HalWorld F) (i : Fin numSensorDrivers) : Prop where
  reader : (world.mSensors i).reader.queue = []
  mask : Within (world.mSensors i).pendingMask (sinceSyn 0#4 (world.read i))
  quiet : (world.mSensors i).hasPendingEvents = false

instance (world : HalWorld F) (i : Fin numSensorDrivers) : Decidable (Delivered world i) :=
  decidable_of_iff ((world.mSensors i).reader.queue = [] ∧
      Within (world.mSensors i).pendingMask (sinceSyn 0#4 (world.read i)) ∧
      (world.mSensors i).hasPendingEvents = false)
    ⟨fun ⟨reader, mask, quiet⟩ => ⟨reader, mask, quiet⟩,
      fun ⟨reader, mask, quiet⟩ => ⟨reader, mask, quiet⟩⟩

/-- Whenever `poll` is called with the infinite timeout, all is delivered. -/
def SleepsDelivered (before : HalState F) (_ : HalAction) (after : HalState F) : Prop :=
  before.poll.loc ≠ .polling → after.poll.loc = .polling → after.poll.timeout = -1 →
    ∀ i, Delivered after.poll.world i

instance (before : HalState F) (action : HalAction) (after : HalState F) :
    Decidable (SleepsDelivered before action after) :=
  inferInstanceAs (Decidable (_ → _ → _ → ∀ _ : Fin numSensorDrivers, _))

/-- No `read` fails, and a pending temperature event is stored when its driver's
reader is empty or only one slot is left. -/
def TemperatureAlone (before : HalState F) : HalAction → Prop
  | .turn io => (∀ errno, io.read ≠ .failed errno) ∧ ∀ i : Fin numSensorDrivers,
      before.poll.loc = .scan i → (before.poll.world.mSensors i).hasPendingEvents = true →
        before.poll.frame.count ≤ 1 ∨ (before.poll.world.mSensors i).reader.queue = []
  | _ => True

/-- What a driver may hold: every event read is decoded or in the reader, and a
driver whose reader is not empty is flagged. -/
structure Covered (world : HalWorld F) (revents : Fin numFds → Bool)
    (i : Fin numSensorDrivers) : Prop where
  valid : (world.mSensors i).reader.Valid
  since : ∃ consumed, world.read i = consumed ++ (world.mSensors i).reader.queue ∧
    Within (world.mSensors i).pendingMask (sinceSyn 0#4 consumed)
  flagged : (world.mSensors i).reader.queue ≠ [] → revents i.castSucc = true

/-- A driver with nothing to deliver. -/
structure Empty (world : HalWorld F) (i : Fin numSensorDrivers) : Prop where
  reader : (world.mSensors i).reader.queue = []
  quiet : (world.mSensors i).hasPendingEvents = false

/-- The invariant: leftovers are flagged, and a scan that goes on leaves only
empty drivers behind. -/
structure Attended (state : HalState F) : Prop where
  covered : ∀ i, Covered state.poll.world state.poll.revents i
  visited : ∀ k, state.poll.loc = .scan k → state.poll.frame.count ≠ 0 →
    ∀ i : Fin numSensorDrivers, i < k → Empty state.poll.world i
  nonneg : 0 ≤ state.poll.frame.count
  polling : state.poll.loc = .polling →
    ∀ i, (state.poll.world.mSensors i).reader.queue = []

theorem Covered.delivered {world : HalWorld F} {revents : Fin numFds → Bool}
    {i : Fin numSensorDrivers} (covered : Covered world revents i) (empty : Empty world i) :
    Delivered world i := by
  obtain ⟨consumed, split, since⟩ := covered.since
  rw [empty.reader, List.append_nil] at split
  exact ⟨empty.reader, split ▸ since, empty.quiet⟩

theorem sinceSyn_append (mask : BitVec numSensors) (first second : List InputEvent) :
    sinceSyn mask (first ++ second) = sinceSyn (sinceSyn mask first) second := by
  rw [sinceSyn, List.foldl_append]
  rfl

/-- Nothing but the driver, its flag and the events it has read matter. -/
theorem Covered.congr {world other : HalWorld F} {revents flags : Fin numFds → Bool}
    {i : Fin numSensorDrivers} (covered : Covered world revents i)
    (reader : (other.mSensors i).reader = (world.mSensors i).reader)
    (mask : (other.mSensors i).pendingMask = (world.mSensors i).pendingMask)
    (read : other.read i = world.read i)
    (flag : (world.mSensors i).reader.queue ≠ [] → revents i.castSucc = true →
      flags i.castSucc = true) : Covered other flags i := by
  obtain ⟨valid, since, flagged⟩ := covered
  refine ⟨reader ▸ valid, ?_, ?_⟩
  · rw [reader, mask, read]
    exact since
  · rw [reader]
    exact fun held => flag held (flagged held)

/-- `activate` leaves what the drivers have read. -/
theorem activate_held (world : HalWorld F) (call : EnableCall) (i : Fin numSensorDrivers) :
    (((world.activate call).2.mSensors i).reader = (world.mSensors i).reader ∧
      ((world.activate call).2.mSensors i).pendingMask = (world.mSensors i).pendingMask) ∧
      (world.activate call).2.read = world.read := by
  unfold HalWorld.activate
  cases handleToDriver call.handle with
  | none => exact ⟨⟨rfl, rfl⟩, rfl⟩
  | some j =>
      refine ⟨?_, rfl⟩
      simp only
      rcases eq_or_ne i j with rfl | other
      · rw [Function.update_self]
        exact (world.mSensors i).enable_held call
      · rw [Function.update_of_ne other]
        exact ⟨rfl, rfl⟩

/-- The other drivers are left as they are. -/
theorem covered_other {world : HalWorld F} {revents : Fin numFds → Bool}
    {i j : Fin numSensorDrivers} (other : i ≠ j) {driver : SensorBase F}
    {taken rest : List InputEvent} (short : Prop) [Decidable short]
    (covered : Covered world revents i) :
    Covered (world.advance j driver taken rest)
      (if short then Function.update revents j.castSucc false else revents) i := by
  refine covered.congr ?_ ?_ ?_ ?_
  · simp only [HalWorld.advance, Function.update_of_ne other]
  · simp only [HalWorld.advance, Function.update_of_ne other]
  · simp only [HalWorld.advance, Function.update_of_ne other]
  · intro _ flag
    rw [unflag_of_ne other]
    exact flag

variable [FloatArith F]

/-- What a call of `readEvents` leaves of the visited driver, if it did not fill
the array. -/
theorem covered_read {world : HalWorld F} {revents : Fin numFds → Bool}
    {i : Fin numSensorDrivers} {count : Int} {io : HalIo} (covered : Covered world revents i)
    (flagged : (revents i.castSucc || (world.mSensors i).hasPendingEvents) = true)
    (succeeds : ∀ errno, io.read ≠ .failed errno)
    (alone : (world.mSensors i).hasPendingEvents = true →
      count ≤ 1 ∨ (world.mSensors i).reader.queue = [])
    {outcome : ReadOutcome (HalWorld F) (SensorsEvent F)}
    (taken : ReadTaken world i count io outcome) :
    Covered outcome.driver (if outcome.result < count then
      Function.update revents i.castSucc false else revents) i ∧
      (outcome.result < count → Empty outcome.driver i) := by
  cases taken with
  | failed errno failure => exact (succeeds errno failure).elim
  | pending waiting event driver quiet reader mask =>
      have empty (short : 1 < count) : (world.mSensors i).reader.queue = [] := by
        rcases alone waiting with one | empty
        · omega
        · exact empty
      refine ⟨covered.congr ?_ ?_ rfl ?_, fun short => ⟨?_, ?_⟩⟩
      · simp only [Function.update_self, reader]
      · simp only [Function.update_self, mask]
      · intro held flag
        rw [if_neg fun short => held (empty short)]
        exact flag
      · simp only [Function.update_self, reader]
        exact empty short
      · simp only [Function.update_self, quiet]
  | decoded fresh rest split quiet outcome spec =>
      obtain ⟨consumed, read, since⟩ := covered.since
      obtain ⟨next, moved, sinceNext⟩ := spec.pendingSince
      rw [quiet, Bool.or_false] at flagged
      refine ⟨⟨?_, ⟨consumed ++ next, ?_, ?_⟩, ?_⟩, fun short => ⟨?_, ?_⟩⟩
      · simp only [HalWorld.advance, Function.update_self]
        exact spec.valid
      · simp only [HalWorld.advance, Function.update_self]
        rw [read, List.append_assoc, moved, List.append_assoc]
      · simp only [HalWorld.advance, Function.update_self]
        rw [sinceSyn_append]
        exact sinceNext.trans (since.sinceSyn next)
      · simp only [HalWorld.advance, Function.update_self]
        intro held
        rw [if_neg fun short => held (spec.exhausted short)]
        exact flagged
      · simp only [HalWorld.advance, Function.update_self]
        exact spec.exhausted short
      · simp only [HalWorld.advance, Function.update_self]
        exact spec.quiet

/-- One turn that reads. -/
theorem attended_read {before : HalState F} {j : Fin numSensorDrivers} {io : HalIo}
    (attended : Attended before) (here : before.poll.loc = .scan j)
    (room : before.poll.frame.count ≠ 0)
    (flagged : (before.poll.revents j.castSucc ||
      (before.poll.world.mSensors j).hasPendingEvents) = true)
    (guarded : TemperatureAlone before (.turn io))
    {outcome : ReadOutcome (HalWorld F) (SensorsEvent F)}
    (called : halDrivers.readEvents before.poll.world j before.poll.frame.count io =
      some outcome) :
    (∀ i, Covered outcome.driver (if outcome.result < before.poll.frame.count then
      Function.update before.poll.revents j.castSucc false else before.poll.revents) i) ∧
      (outcome.result < before.poll.frame.count →
        ∀ i : Fin numSensorDrivers, i < (j : Nat) + 1 → Empty outcome.driver i) := by
  obtain ⟨covered, visited, nonneg, -⟩ := attended
  have positive : 1 ≤ before.poll.frame.count := by omega
  obtain ⟨driver, taken, rest, world⟩ := readEvents_advance called
  obtain ⟨coveredHere, emptyHere⟩ := covered_read (covered j) flagged guarded.1
    (guarded.2 j here) (readEvents_taken positive (covered j).valid called)
  constructor
  · intro i
    rcases eq_or_ne i j with rfl | other
    · exact coveredHere
    · rw [world]
      exact covered_other other _ (covered i)
  · intro short i behind
    rcases eq_or_ne i j with rfl | other
    · exact emptyHere short
    · have earlier : (i : Nat) < j := by
        have apart : (i : Nat) ≠ j := fun same => other (Fin.ext same)
        omega
      obtain ⟨reader, quiet⟩ := visited j here room i earlier
      rw [world]
      refine ⟨?_, ?_⟩
      · simp only [HalWorld.advance, Function.update_of_ne other]
        exact reader
      · simp only [HalWorld.advance, Function.update_of_ne other]
        exact quiet

omit [FloatArith F] in
/-- Outside a scan and of `poll`, only the drivers count. -/
theorem Attended.of_covered {state : HalState F}
    (covered : ∀ i, Covered state.poll.world state.poll.revents i)
    (nonneg : 0 ≤ state.poll.frame.count) (outside : ∀ k, state.poll.loc ≠ .scan k)
    (awake : state.poll.loc ≠ .polling) : Attended state where
  covered := covered
  visited := fun k here => (outside k here).elim
  nonneg := nonneg
  polling := fun here => (awake here).elim

theorem attended_turn {before : HalState F} {io : HalIo}
    {poll : PollState (HalWorld F) (SensorsEvent F)} (attended : Attended before)
    (guarded : TemperatureAlone before (.turn io))
    (taken : PollTaken halDrivers before.poll (.turn io) poll) :
    Attended (before.settle poll) ∧
      SleepsDelivered before (.turn io) (before.settle poll) := by
  have ⟨covered, visited, nonneg, polling⟩ := attended
  cases taken with
  | full io here spent =>
      refine ⟨.of_covered covered nonneg (fun k => PollLoc.noConfusion) PollLoc.noConfusion, ?_⟩
      intro _ asleep
      cases asleep
  | skip j io here room idle =>
      refine ⟨⟨covered, ?_, nonneg, PollLoc.noConfusion⟩, ?_⟩
      · intro k same _ i behind
        have next : (j : Nat) + 1 = k := PollLoc.scan.inj same
        rcases eq_or_ne i j with rfl | other
        · rw [Bool.or_eq_true, not_or] at idle
          exact ⟨by_contra fun held => idle.1 ((covered i).flagged held),
            Bool.eq_false_of_not_eq_true idle.2⟩
        · have apart : (i : Nat) ≠ j := fun same => other (Fin.ext same)
          exact visited j here room i (by omega)
      · intro _ asleep
        cases asleep
  | read j io here room flagged outcome called =>
      obtain ⟨coveredAfter, visitedAfter⟩ :=
        attended_read attended here room flagged guarded called
      have within := (halDrivers.fits (by omega) called).within
      refine ⟨⟨coveredAfter, ?_, Int.sub_nonneg_of_le within, PollLoc.noConfusion⟩, ?_⟩
      · intro k same left i behind
        have next : (j : Nat) + 1 = k := PollLoc.scan.inj same
        have short : outcome.result < before.poll.frame.count := by
          simp only [HalState.settle] at left
          omega
        exact visitedAfter short i (by omega)
      · intro _ asleep
        cases asleep
  | scanned io here room outside =>
      have empty (i : Fin numSensorDrivers) : Empty before.poll.world i :=
        visited _ here room i (by omega)
      refine ⟨⟨covered, fun k => PollLoc.noConfusion, nonneg, fun _ i => (empty i).reader⟩, ?_⟩
      intro _ _ _ i
      exact (covered i).delivered (empty i)

theorem attended_step {before after : HalState F} {action : HalAction}
    (attended : Attended before) (guarded : TemperatureAlone before action)
    (taken : HalTaken before action after) :
    Attended after ∧ SleepsDelivered before action after := by
  have ⟨covered, visited, nonneg, polling⟩ := attended
  cases taken with
  | turn io poll taken => exact attended_turn attended guarded taken
  | arrive j events =>
      refine ⟨⟨fun i => ?_, ?_, nonneg, polling⟩, fun awake asleep => (awake asleep).elim⟩
      · exact (covered i).congr rfl rfl rfl fun _ flag => flag
      · intro k here room i behind
        obtain ⟨reader, quiet⟩ := visited k here room i behind
        exact ⟨reader, quiet⟩
  | activate call outside =>
      refine ⟨⟨fun i => ?_, ?_, nonneg, ?_⟩, fun awake asleep => (awake asleep).elim⟩
      · obtain ⟨⟨reader, mask⟩, read⟩ := activate_held before.poll.world call i
        exact (covered i).congr reader mask (congrFun read i) fun _ flag => flag
      · exact fun k here => absurd here (PollLoc.ne_scan_of_outside outside k)
      · intro here i
        obtain ⟨⟨reader, -⟩, -⟩ := activate_held before.poll.world call i
        simp only [HalState.setWorld, reader]
        exact polling here i
  | call count idle positive =>
      refine ⟨⟨covered, ?_, ?_, PollLoc.noConfusion⟩, fun _ asleep => ?_⟩
      · intro k here _ i behind
        have first : 0 = k := PollLoc.scan.inj here
        omega
      · simp only [pollEvents]
        omega
      · cases asleep
  | pollFails errno revents here =>
      refine ⟨.of_covered (fun i => ?_) nonneg (fun k => PollLoc.noConfusion)
        PollLoc.noConfusion, fun awake => (awake here).elim⟩
      exact (covered i).congr rfl rfl rfl fun held => (held (polling here i)).elim
  | pollReturns poll here taken =>
      cases taken with
      | pollReady _ _ _ =>
          refine ⟨⟨fun i => ?_, ?_, nonneg, ?_⟩, fun awake => (awake here).elim⟩
          · refine (covered i).congr ?_ ?_ ?_ fun held => (held (polling here i)).elim
            · simp only [HalState.settle, readWake_mSensors]
            · simp only [HalState.settle, readWake_mSensors]
            · simp only [HalState.settle, readWake_read]
          · intro k same _ i behind
            simp only [HalState.settle] at same
            split at same
            · have first : 0 = k := PollLoc.scan.inj same
              omega
            · cases same
          · intro same
            simp only [HalState.settle] at same
            split at same <;> cases same

/-- A new HAL has nothing to attend to. -/
theorem attended_create (memory : Nat → InputEvent) (allocated : SensorsEvent F)
    (devices : KernelDevices) (io : DeviceIo) :
    Attended (HalState.create (createSensors memory allocated devices io)) := by
  have empty := InputEventCircularReader.queue_create 32 memory
  apply Attended.of_covered
  · intro i
    obtain ⟨reader, mask, -⟩ := createSensors_fresh memory allocated devices io i
    refine ⟨createSensors_valid memory allocated devices io i, ⟨[], ?_, ?_⟩, ?_⟩
    · simp only [HalState.create, reader, empty, List.append_nil]
    · simp only [HalState.create, mask]
      exact Within.refl _
    · simp only [HalState.create, reader, empty, ne_eq, not_true_eq_false, false_implies]
  · exact le_rfl
  · exact fun k => PollLoc.noConfusion
  · exact PollLoc.noConfusion

/-- **Sleeping with nothing left.** In every run of a new HAL in which no `read`
fails and a pending temperature event is only stored when the compass's reader is
empty or one slot is left, `poll` is called with the infinite timeout only when
everything read is delivered. -/
theorem sleeps_delivered (memory : Nat → InputEvent) (allocated : SensorsEvent F)
    (devices : KernelDevices) (io : DeviceIo) (actions : List HalAction)
    (guarded : Guarded halStep TemperatureAlone
      (HalState.create (createSensors memory allocated devices io)) actions) :
    Along halStep SleepsDelivered (HalState.create (createSensors memory allocated devices io))
      actions := by
  refine along_of_invariant Attended ?_ (attended_create memory allocated devices io) guarded
  intro before action after attended guarded taken
  exact attended_step attended guarded (halStep_taken taken)

omit [FloatArith F] in
instance (before : HalState F) (action : HalAction) :
    Decidable (TemperatureAlone before action) :=
  match action with
  | .turn ⟨.took _, _⟩ =>
      decidable_of_iff (∀ i : Fin numSensorDrivers, before.poll.loc = .scan i →
        (before.poll.world.mSensors i).hasPendingEvents = true →
          before.poll.frame.count ≤ 1 ∨ (before.poll.world.mSensors i).reader.queue = [])
        ⟨fun alone => ⟨fun _ => HalRead.noConfusion, alone⟩, And.right⟩
  | .turn ⟨.failed errno, _⟩ => .isFalse fun both => both.1 errno rfl
  | .arrive _ _ => .isTrue trivial
  | .activate _ => .isTrue trivial
  | .call _ => .isTrue trivial
  | .pollFails _ _ => .isTrue trivial
  | .pollReturns => .isTrue trivial

/-- Switching on the orientation or the temperature sensor of the compass. -/
def switchOn (handle : Int) : HalAction := .activate ⟨handle, 1, true, none, none⟩

/-- A frame and a pending temperature event, returned by one call. -/
def temperatureFirst : List HalAction :=
  [switchOn SENSOR_TYPE_ORIENTATION, .arrive AK8973 orientationFrame,
    switchOn SENSOR_TYPE_AMBIENT_TEMPERATURE, .call 4] ++ HalAction.sleep ++
    [.take 0, .take 2, .take 0, .take 0, .take 0, .pollReturns] ++ HalAction.sleep ++ [.call 1] ++
    HalAction.sleep.dropLast

theorem temperatureFirst_sleeps_delivered :
    Along halStep SleepsDelivered (HalState.create newSensors) temperatureFirst :=
  sleeps_delivered (fun _ => blank) SensorsEvent.zero _ _ temperatureFirst (by decide +kernel)

/-- Two frames of which the first is returned, and then a temperature event, which
leaves the second frame in the reader. -/
def temperatureLater : List HalAction :=
  [switchOn SENSOR_TYPE_ORIENTATION, .arrive AK8973 (orientationFrame ++ orientationFrame),
    .call 1] ++ HalAction.sleep ++ [.take 0, .take 4, .take 0] ++
    [switchOn SENSOR_TYPE_AMBIENT_TEMPERATURE, .call 2] ++ HalAction.sleep ++ HalAction.sleep ++
    [.call 1] ++ HalAction.sleep.dropLast

/-- The last call goes to sleep on the second frame. -/
theorem temperatureLater_sleeps_on_frame :
    ¬ Along halStep SleepsDelivered (HalState.create newSensors) temperatureLater := by
  decide +kernel

end Jordan.Sensors
