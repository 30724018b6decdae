import Jordan.Sensors.Hal

/-! # Delivery

What `pollEvents` has returned for a driver, what the call in progress has
stored, and what the driver will make of the events it still holds and of those
still queued, always add up to the reference decoding of the driver's whole
stream (`account_step`). A call that stores events and then fails in `poll`
throws them away; without such a call, what has been delivered is a beginning of
the reference decoding (`delivered_prefix`).
-/

namespace Jordan.Sensors

open Execution

variable {F : Type}

/-- The events an action queues for a driver. -/
def HalAction.arrived (i : Fin numSensorDrivers) : HalAction → List InputEvent
  | .arrive j events => if i = j then events else []
  | _ => []

/-- The events queued for a driver during a run. -/
def arrivals (i : Fin numSensorDrivers) (actions : List HalAction) : List InputEvent :=
  actions.flatMap (·.arrived i)

/-- No `read` fails, and no sensor is switched. -/
def HalAction.Calm : HalAction → Prop
  | .turn io => ∀ errno, io.read ≠ .failed errno
  | .activate _ => False
  | _ => True

/-- `poll` only fails when the call has stored nothing. -/
def FailsEmpty (before : HalState F) : HalAction → Prop
  | .pollFails _ _ => before.poll.frame.nbEvents = 0
  | _ => True

/-- The events stored by the call in progress. -/
def HalState.inCall (state : HalState F) (i : Fin numSensorDrivers) : List (SensorsEvent F) :=
  if state.poll.loc.Idle then [] else storedOf i state.poll.calls

/-- The input events a driver has not decoded yet. -/
def HalWorld.waiting (world : HalWorld F) (i : Fin numSensorDrivers) : List InputEvent :=
  (world.mSensors i).reader.queue ++ world.kernel i

variable [FloatArith F]

/-- All that a driver's stream amounts to, should further events follow. -/
def HalState.account (state : HalState F) (i : Fin numSensorDrivers) (later : List InputEvent) :
    List (SensorsEvent F) :=
  (state.delivered i ++ state.inCall i) ++
    (state.poll.world.mSensors i).outputs (state.poll.world.waiting i ++ later)

/-- The invariant: readers are valid, no temperature event is pending, and the
accounts of the call are right and without errors. -/
structure Orderly (state : HalState F) : Prop where
  valid : ∀ i, (state.poll.world.mSensors i).reader.Valid
  quiet : ∀ i, (state.poll.world.mSensors i).hasPendingEvents = false
  accounts : ¬ state.poll.loc.Idle → ∃ count, Accounts count state.poll
  succeeded : ¬ state.poll.loc.Idle → ∀ call ∈ state.poll.calls, 0 ≤ call.result

omit [FloatArith F] in
theorem storedOf_snoc {Event : Type} (i : Fin numSensorDrivers) (calls : List (ReadCall Event))
    (last : ReadCall Event) :
    storedOf i (calls ++ [last]) =
      storedOf i calls ++ if last.driver = i then last.stored else [] := by
  unfold storedOf
  rw [List.filter_append, List.flatMap_append]
  by_cases mine : last.driver = i
  · simp only [mine, decide_true, List.filter_cons_of_pos, List.filter_nil, List.flatMap_cons,
      List.flatMap_nil, List.append_nil, ↓reduceIte]
  · simp only [mine, decide_false, Bool.false_eq_true, not_false_eq_true,
      List.filter_cons_of_neg, List.filter_nil, List.flatMap_nil, ↓reduceIte]

/-- A call that has not counted any event has not stored any. -/
theorem storedOf_of_no_events {Event : Type} {calls : List (ReadCall Event)}
    (stored : ∀ call ∈ calls, call.stored.length = call.result.toNat)
    (succeeded : ∀ call ∈ calls, 0 ≤ call.result) (none : resultSum calls = 0)
    (i : Fin numSensorDrivers) : storedOf i calls = [] := by
  induction calls with
  | nil => rfl
  | cons call rest ih =>
      have storedRest : ∀ other ∈ rest, other.stored.length = other.result.toNat :=
        fun other member => stored other (List.mem_cons_of_mem _ member)
      have succeededRest : ∀ other ∈ rest, 0 ≤ other.result :=
        fun other member => succeeded other (List.mem_cons_of_mem _ member)
      have here := succeeded call List.mem_cons_self
      have length := stored call List.mem_cons_self
      have later : 0 ≤ resultSum rest := by
        apply List.sum_nonneg
        intro result member
        obtain ⟨other, inside, rfl⟩ := List.mem_map.mp member
        exact succeededRest other inside
      rw [resultSum_cons] at none
      have empty : call.stored = [] := List.length_eq_zero_iff.mp (by omega)
      have nothing := ih storedRest succeededRest (by omega)
      unfold storedOf at nothing ⊢
      rw [List.filter_cons]
      split
      · rw [List.flatMap_cons, empty, nothing, List.append_nil]
      · exact nothing

omit [FloatArith F] in
/-- A call that returns hands over what it has stored, and any other step of it
keeps it in the call. -/
theorem settle_account (before : HalState F) {poll : PollState (HalWorld F) (SensorsEvent F)}
    (inside : ¬ before.poll.loc.Idle) (calls : poll.calls = before.poll.calls)
    (alive : ∀ errno, poll.loc ≠ .failed errno) (i : Fin numSensorDrivers) :
    (before.settle poll).delivered i ++ (before.settle poll).inCall i =
      before.delivered i ++ before.inCall i := by
  unfold HalState.settle HalState.inCall
  simp only [inside, ↓reduceIte, calls]
  cases loc : poll.loc with
  | failed errno => exact (alive errno loc).elim
  | returned nb => simp only [PollLoc.idle_returned, ↓reduceIte, List.append_nil]
  | scan k => simp only [PollLoc.idle_scan, ↓reduceIte]
  | polling => simp only [PollLoc.idle_polling, ↓reduceIte]

omit [FloatArith F] in
theorem Orderly.stored {state : HalState F} (orderly : Orderly state)
    (inside : ¬ state.poll.loc.Idle) :
    ∀ call ∈ state.poll.calls, call.stored.length = call.result.toNat := by
  obtain ⟨count, accounts⟩ := orderly.accounts inside
  exact stored_of_recorded accounts.recorded

/-- A step of the call that reads nothing and does not fail. -/
theorem account_settle {before : HalState F} {action : PollAction HalIo}
    {poll : PollState (HalWorld F) (SensorsEvent F)} (orderly : Orderly before)
    (inside : ¬ before.poll.loc.Idle) (taken : PollTaken halDrivers before.poll action poll)
    (calls : poll.calls = before.poll.calls)
    (sensors : poll.world.mSensors = before.poll.world.mSensors)
    (kernel : poll.world.kernel = before.poll.world.kernel)
    (alive : ∀ errno, poll.loc ≠ .failed errno) :
    Orderly (before.settle poll) ∧ ∀ i later,
      before.account i later = (before.settle poll).account i later := by
  obtain ⟨valid, quiet, accounts, succeeded⟩ := orderly
  obtain ⟨count, accounts⟩ := accounts inside
  refine ⟨⟨?_, ?_, fun _ => ⟨count, accounts_step accounts taken⟩, ?_⟩, ?_⟩
  · intro i
    rw [HalState.settle, sensors]
    exact valid i
  · intro i
    rw [HalState.settle, sensors]
    exact quiet i
  · intro _
    rw [HalState.settle, calls]
    exact succeeded inside
  · intro i later
    rw [HalState.account, HalState.account, settle_account before inside calls alive i]
    simp only [HalState.settle, HalWorld.waiting, sensors, kernel]

/-- A turn that reads moves the beginning of the decoding into the call. -/
theorem account_read {before : HalState F} (orderly : Orderly before) {j : Fin numSensorDrivers}
    {io : HalIo} (here : before.poll.loc = .scan j) (positive : 1 ≤ before.poll.frame.count)
    (calm : (HalAction.turn io).Calm) {outcome : ReadOutcome (HalWorld F) (SensorsEvent F)}
    (called : halDrivers.readEvents before.poll.world j before.poll.frame.count io =
      some outcome) (revents : Fin numFds → Bool) (frame : PollFrame) :
    let call : ReadCall (SensorsEvent F) :=
      ⟨j, before.poll.frame.data, before.poll.frame.count, outcome.result, outcome.stored⟩
    let after : HalState F := before.settle
      ⟨outcome.driver, revents, .scan (j + 1), frame, before.poll.calls ++ [call]⟩
    0 ≤ outcome.result ∧
      (∀ i, (outcome.driver.mSensors i).reader.Valid) ∧
      (∀ i, (outcome.driver.mSensors i).hasPendingEvents = false) ∧
      ∀ i later, before.account i later = after.account i later := by
  have inside : ¬ before.poll.loc.Idle := by
    rw [here]
    exact id
  cases readEvents_taken positive (orderly.valid j) called with
  | failed errno failure => exact (calm errno failure).elim
  | pending waiting event driver quiet reader mask =>
      rw [orderly.quiet j] at waiting
      cases waiting
  | decoded taken rest split quiet outcome spec =>
      refine ⟨?_, ?_, ?_, ?_⟩
      · rw [spec.result]
        exact Int.natCast_nonneg _
      · intro i
        simp only [HalWorld.advance]
        rcases eq_or_ne i j with rfl | other
        · rw [Function.update_self]
          exact spec.valid
        · rw [Function.update_of_ne other]
          exact orderly.valid i
      · intro i
        simp only [HalWorld.advance]
        rcases eq_or_ne i j with rfl | other
        · rw [Function.update_self]
          exact spec.quiet
        · rw [Function.update_of_ne other]
          exact orderly.quiet i
      · intro i later
        simp only [HalState.account, HalState.settle, HalState.inCall, inside, ↓reduceIte,
          PollLoc.idle_scan, storedOf_snoc, HalWorld.waiting, HalWorld.advance]
        rcases eq_or_ne i j with rfl | other
        · simp only [↓reduceIte, Function.update_self, split]
          have decodes := spec.decodes (rest ++ later)
          simp only [List.append_assoc] at decodes ⊢
          rw [decodes]
        · simp only [other.symm, ↓reduceIte, Function.update_of_ne other, List.append_nil]

/-- Arriving events come after everything that is still waiting. -/
theorem account_arrive {before : HalState F} (orderly : Orderly before) (j : Fin numSensorDrivers)
    (events : List InputEvent) :
    let after := before.setWorld { before.poll.world with
      kernel := Function.update before.poll.world.kernel j (before.poll.world.kernel j ++ events) }
    Orderly after ∧ ∀ i later,
      before.account i ((HalAction.arrive j events).arrived i ++ later) =
        after.account i later := by
  obtain ⟨valid, quiet, accounts, succeeded⟩ := orderly
  refine ⟨⟨valid, quiet, ?_, succeeded⟩, ?_⟩
  · intro inside
    obtain ⟨count, recorded, data, left, events, nonneg, returned⟩ := accounts inside
    exact ⟨count, recorded, data, left, events, nonneg, returned⟩
  · intro i later
    simp only [HalState.account, HalState.setWorld, HalState.inCall, HalWorld.waiting,
      HalAction.arrived]
    rcases eq_or_ne i j with rfl | other
    · simp only [↓reduceIte, Function.update_self, List.append_assoc]
      rfl
    · simp only [other, ↓reduceIte, Function.update_of_ne other, List.nil_append]
      rfl

/-- A turn of the loop, whether or not it reads. -/
theorem account_turn {before : HalState F} {io : HalIo}
    {poll : PollState (HalWorld F) (SensorsEvent F)} (orderly : Orderly before)
    (calm : (HalAction.turn io).Calm) (taken : PollTaken halDrivers before.poll (.turn io) poll) :
    Orderly (before.settle poll) ∧ ∀ i later,
      before.account i later = (before.settle poll).account i later := by
  have inside : ¬ before.poll.loc.Idle := by
    obtain ⟨i, here⟩ := taken.scanning
    exact here ▸ id
  have step := account_settle orderly inside taken
  cases taken with
  | full io here spent => exact step rfl rfl rfl fun _ => PollLoc.noConfusion
  | skip j io here room idle => exact step rfl rfl rfl fun _ => PollLoc.noConfusion
  | scanned io here room outside => exact step rfl rfl rfl fun _ => PollLoc.noConfusion
  | read j io here room flagged outcome called =>
      obtain ⟨count, accounts⟩ := orderly.accounts inside
      have nonneg := accounts.nonneg
      obtain ⟨result, validAfter, quietAfter, same⟩ :=
        account_read orderly here (by omega) calm called _ _
      refine ⟨⟨validAfter, quietAfter, fun _ => ⟨count, ?_⟩, fun _ call member => ?_⟩, same⟩
      · exact accounts_step accounts (.read j io here room flagged outcome called)
      · rcases List.mem_append.mp member with earlier | last
        · exact orderly.succeeded inside call earlier
        · rw [List.mem_singleton] at last
          exact last ▸ result

/-- **Nothing is lost in a step.** -/
theorem account_step {before after : HalState F} {action : HalAction}
    (orderly : Orderly before) (calm : action.Calm) (guarded : FailsEmpty before action)
    (taken : HalTaken before action after) :
    Orderly after ∧ ∀ i later,
      before.account i (action.arrived i ++ later) = after.account i later := by
  have ⟨valid, quiet, accounts, succeeded⟩ := orderly
  cases taken with
  | arrive j events => exact account_arrive orderly j events
  | activate call outside => exact calm.elim
  | call count idle positive =>
      refine ⟨⟨valid, quiet, ?_, ?_⟩, ?_⟩
      · exact fun _ => ⟨count, accounts_pollEvents _ _ positive⟩
      · intro _ call member
        cases member
      · intro i later
        simp only [HalState.account, HalState.inCall, idle, ↓reduceIte, pollEvents,
          PollLoc.idle_scan, HalAction.arrived, List.nil_append]
        rfl
  | turn io poll taken => exact account_turn orderly calm taken
  | pollFails errno revents here =>
      have inside : ¬ before.poll.loc.Idle := here ▸ id
      obtain ⟨count, accounts⟩ := accounts inside
      have none : resultSum before.poll.calls = 0 := accounts.events.symm.trans guarded
      refine ⟨⟨valid, quiet, fun awake => (awake trivial).elim,
        fun awake => (awake trivial).elim⟩, ?_⟩
      intro i later
      simp only [HalState.account, HalState.inCall, inside, ↓reduceIte, HalState.settle,
        PollLoc.idle_failed, HalAction.arrived, List.nil_append,
        storedOf_of_no_events (orderly.stored inside) (succeeded inside) none i]
  | pollReturns poll here taken =>
      have inside : ¬ before.poll.loc.Idle := here ▸ id
      have step := account_settle orderly inside taken
      cases taken with
      | pollReady n revents _ =>
          refine step rfl (readWake_mSensors _ _) (readWake_kernel _ _) fun errno => ?_
          simp only
          split <;> exact PollLoc.noConfusion

/-- **Nothing is lost in a run.** -/
theorem account_exec {start last : HalState F} {actions : List HalAction}
    (orderly : Orderly start) (calm : ∀ action ∈ actions, action.Calm)
    (guarded : Guarded halStep FailsEmpty start actions)
    (reached : exec halStep start actions = some last) (i : Fin numSensorDrivers)
    (later : List InputEvent) :
    start.account i (arrivals i actions ++ later) = last.account i later := by
  induction actions generalizing start with
  | nil =>
      rw [exec_nil, Option.some.injEq] at reached
      rw [reached]
      rfl
  | cons action rest ih =>
      obtain ⟨next, taken, reached⟩ := exec_cons_eq_some.mp reached
      obtain ⟨allowed, guarded⟩ := guarded next taken
      obtain ⟨orderlyNext, same⟩ := account_step orderly (calm action List.mem_cons_self) allowed
        (halStep_taken taken)
      have calmRest : ∀ other ∈ rest, other.Calm := fun other member =>
        calm other (List.mem_cons_of_mem _ member)
      calc start.account i (arrivals i (action :: rest) ++ later)
          = start.account i (action.arrived i ++ (arrivals i rest ++ later)) := by
            rw [arrivals, List.flatMap_cons, List.append_assoc]
            rfl
        _ = next.account i (arrivals i rest ++ later) := same i _
        _ = last.account i later := ih orderlyNext calmRest guarded reached

/-- **Delivery in order.** In every run without failing reads and switched
sensors, from any state between two calls with no temperature event pending,
what has been delivered for a driver is a beginning of the reference decoding
of its stream, as long as `poll` fails only in calls that have stored nothing. -/
theorem delivered_prefix (start : HalState F) (idle : start.poll.loc.Idle)
    (valid : ∀ i, (start.poll.world.mSensors i).reader.Valid)
    (quiet : ∀ i, (start.poll.world.mSensors i).hasPendingEvents = false)
    (fresh : ∀ i, start.delivered i = []) (actions : List HalAction)
    (calm : ∀ action ∈ actions, action.Calm)
    (guarded : Guarded halStep FailsEmpty start actions) (last : HalState F)
    (reached : exec halStep start actions = some last) (i : Fin numSensorDrivers) :
    last.delivered i <+: (start.poll.world.mSensors i).outputs
      (start.poll.world.waiting i ++ arrivals i actions) := by
  have orderly : Orderly start :=
    ⟨valid, quiet, fun awake => (awake idle).elim, fun awake => (awake idle).elim⟩
  have same := account_exec orderly calm guarded reached i []
  simp only [HalState.account, fresh, HalState.inCall, idle, ↓reduceIte, List.append_nil,
    List.nil_append] at same
  rw [same, List.append_assoc]
  exact List.prefix_append _ _

omit [FloatArith F] in
instance (before : HalState F) (action : HalAction) : Decidable (FailsEmpty before action) :=
  match action with
  | .pollFails _ _ => inferInstanceAs (Decidable (_ = _))
  | .arrive _ _ => .isTrue trivial
  | .activate _ => .isTrue trivial
  | .call _ => .isTrue trivial
  | .turn _ => .isTrue trivial
  | .pollReturns => .isTrue trivial

instance : DecidablePred HalAction.Calm := fun action =>
  match action with
  | .turn ⟨.took _, _⟩ => .isTrue fun _ => HalRead.noConfusion
  | .turn ⟨.failed errno, _⟩ => .isFalse fun calm => calm errno rfl
  | .activate _ => .isFalse id
  | .arrive _ _ => .isTrue trivial
  | .call _ => .isTrue trivial
  | .pollFails _ _ => .isTrue trivial
  | .pollReturns => .isTrue trivial

/-- A second frame of the accelerometer. -/
def laterFrame : List InputEvent := [⟨2, 0, EV_ABS, ABS_X, 200⟩, ⟨2, 0, EV_SYN, 0, 0⟩]

/-- Two calls, the first interrupted while it sleeps. -/
def interruptedSleep : List HalAction :=
  [.call 2] ++ HalAction.sleep.dropLast ++ [.pollFails EINTR fun _ => false,
    .arrive KXTF9 (accelerometerFrame ++ laterFrame), .call 2] ++ HalAction.sleep ++
    [.take 3, .take 0, .take 0, .take 0, .take 0, .pollReturns, .take 1, .take 0]

theorem interruptedSleep_delivers :
    ∃ last, exec halStep (HalState.create newSensors) interruptedSleep = some last ∧
      last.delivered KXTF9 <+: (newSensors KXTF9).outputs
        ((HalState.create newSensors).poll.world.waiting KXTF9 ++
          arrivals KXTF9 interruptedSleep) :=
  ⟨_, (Option.some_get (by decide +kernel)).symm,
    delivered_prefix (HalState.create newSensors) trivial (createSensors_valid _ _ _ _)
      (fun i => (createSensors_fresh _ _ _ _ i).2.2) (fun _ => rfl) interruptedSleep
      (by decide +kernel) (by decide +kernel) _ (Option.some_get (by decide +kernel)).symm KXTF9⟩

/-- Two calls, the first interrupted after it has stored an event. -/
def interruptedRead : List HalAction :=
  [.arrive KXTF9 accelerometerFrame, .call 2] ++ HalAction.sleep ++
    [.take 2, .take 0, .take 0, .take 0, .take 0, .pollFails EINTR fun _ => false,
    .arrive KXTF9 laterFrame, .call 1] ++ HalAction.sleep ++ [.take 2, .take 0]

/-- The event of the first call is lost, and that of the second one delivered. -/
theorem interruptedRead_loses_event :
    (∀ action ∈ interruptedRead, action.Calm) ∧
    ∃ last, exec halStep (HalState.create newSensors) interruptedRead = some last ∧
      ¬ last.delivered KXTF9 <+: (newSensors KXTF9).outputs
        ((HalState.create newSensors).poll.world.waiting KXTF9 ++
          arrivals KXTF9 interruptedRead) :=
  ⟨by decide +kernel, _, (Option.some_get (by decide +kernel)).symm, by decide +kernel⟩

end Jordan.Sensors
