import Jordan.Sensors.Hal

/-! # When `read` may block

The descriptors are opened without `O_NONBLOCK`, so `fill` must only read from
one whose queue is not empty. A `POLLIN` flag vouches for that while it is fresh
from `poll`. But `pollEvents` keeps the flag of a driver that filled the
caller's array, and the next call trusts it again. Reads never block if the
flags left over at every call are still right (`reads_readable`).
-/

namespace Jordan.Sensors

open Execution

variable {F : Type}

/-- If the loop is about to call `read` on a driver's descriptor, its queue is
not empty. -/
def ReadsReadable (state : HalState F) : Prop :=
  ∀ i : Fin numSensorDrivers, state.poll.loc = .scan i → state.poll.frame.count ≠ 0 →
    (state.poll.revents i.castSucc || (state.poll.world.mSensors i).hasPendingEvents) = true →
    (state.poll.world.mSensors i).Reads → state.poll.world.kernel i ≠ []

/-- Every `POLLIN` flag a call of `pollEvents` finds set is of a driver with
queued events, or of one that will not read: its reader is full or its
temperature event is pending. -/
def LeftoversReadable (before : HalState F) : HalAction → Prop
  | .call _ => ∀ i : Fin numSensorDrivers, before.poll.revents i.castSucc = true →
      (before.poll.world.mSensors i).Reads → before.poll.world.kernel i ≠ []
  | _ => True

/-- The flags of the drivers still to be visited are right. -/
def FlagsRight (state : HalState F) : Prop :=
  ∀ k, state.poll.loc = .scan k → ∀ i : Fin numSensorDrivers, k ≤ i →
    state.poll.revents i.castSucc = true →
    (state.poll.world.mSensors i).Reads → state.poll.world.kernel i ≠ []

/-- A flag is set, or the driver will not read. -/
theorem FlagsRight.queued {state : HalState F} (right : FlagsRight state) :
    ReadsReadable state := by
  intro i here _ flagged reads
  rw [reads.1, Bool.or_false] at flagged
  exact right i here i le_rfl flagged reads

theorem FlagsRight.of_not_scan {state : HalState F} (outside : ∀ k, state.poll.loc ≠ .scan k) :
    FlagsRight state :=
  fun k here => (outside k here).elim

/-- `poll` reports a driver exactly when its queue is not empty. -/
theorem readable_castSucc (world : HalWorld F) (i : Fin numSensorDrivers) :
    world.readable i.castSucc = true ↔ world.kernel i ≠ [] := by
  simp only [HalWorld.readable, Fin.lastCases_castSucc, Bool.not_eq_true',
    List.isEmpty_eq_false_iff, ne_eq]

variable [FloatArith F]

/-- Every step keeps the flags right, if the leftovers can be read. -/
theorem flagsRight_step {before after : HalState F} {action : HalAction}
    (right : FlagsRight before) (guarded : LeftoversReadable before action)
    (taken : HalTaken before action after) : FlagsRight after := by
  cases taken with
  | arrive j events =>
      intro k here i behind flagged reads
      have queued := right k here i behind flagged reads
      simp only [HalState.setWorld]
      rcases eq_or_ne i j with rfl | other
      · rw [Function.update_self]
        exact List.append_ne_nil_of_left_ne_nil queued events
      · rw [Function.update_of_ne other]
        exact queued
  | activate call outside =>
      apply FlagsRight.of_not_scan
      exact PollLoc.ne_scan_of_outside outside
  | call count idle positive =>
      intro k here i _ flagged reads
      exact guarded i flagged reads
  | pollFails errno revents here =>
      exact FlagsRight.of_not_scan fun k => PollLoc.noConfusion
  | pollReturns poll here taken =>
      cases taken with
      | pollReady _ _ _ =>
          intro k _ i _ flagged _
          simp only [HalState.settle, unflag_wake] at flagged
          simp only [HalState.settle, readWake_kernel]
          exact (readable_castSucc _ i).mp flagged
  | turn io poll taken =>
      cases taken with
      | full io here spent => exact FlagsRight.of_not_scan fun k => PollLoc.noConfusion
      | scanned io here room outside => exact FlagsRight.of_not_scan fun k => PollLoc.noConfusion
      | skip j io here room idle =>
          intro k same i behind flagged reads
          have next : (j : Nat) + 1 = k := PollLoc.scan.inj same
          exact right j here i (by omega) flagged reads
      | read j io here room flagged outcome called =>
          intro k same i behind flagged reads
          have next : (j : Nat) + 1 = k := PollLoc.scan.inj same
          have other : i ≠ j := by
            rintro rfl
            omega
          obtain ⟨driver, taken, rest, world⟩ := readEvents_advance called
          simp only [HalState.settle, unflag_of_ne other] at flagged
          simp only [HalState.settle, world, HalWorld.advance, Function.update_of_ne other]
            at reads ⊢
          exact right j here i (by omega) flagged reads

/-- **No blocking read.** In every run in which the flags left over at each call
are right, `read` is only called on a descriptor with queued events. -/
theorem reads_readable (start : HalState F) (idle : start.poll.loc.Idle)
    (actions : List HalAction) (guarded : Guarded halStep LeftoversReadable start actions)
    (last : HalState F) (reached : exec halStep start actions = some last) :
    ReadsReadable last := by
  have initially : FlagsRight start := by
    apply FlagsRight.of_not_scan
    intro k here
    rw [here] at idle
    exact idle
  exact (invariant FlagsRight
    (fun _ _ _ right guarded taken => flagsRight_step right guarded (halStep_taken taken))
    initially guarded reached).queued

omit [FloatArith F] in
instance (before : HalState F) (action : HalAction) :
    Decidable (LeftoversReadable before action) :=
  match action with
  | .call _ => inferInstanceAs (Decidable (∀ _ : Fin numSensorDrivers, _ → _ → _ ≠ []))
  | .arrive _ _ => .isTrue trivial
  | .activate _ => .isTrue trivial
  | .turn _ => .isTrue trivial
  | .pollFails _ _ => .isTrue trivial
  | .pollReturns => .isTrue trivial

/-- The first call returns one accelerometer event and has room for another. -/
def roomyCall : List HalAction :=
  [.arrive KXTF9 accelerometerFrame, .call 2] ++ HalAction.sleep ++ [.take 2] ++
    HalAction.sleep.tail ++ [.call 1]

theorem roomyCall_reads_readable :
    ∃ last, exec halStep (HalState.create newSensors) roomyCall = some last ∧
      ReadsReadable last :=
  ⟨_, (Option.some_get (by decide +kernel)).symm,
    reads_readable (HalState.create newSensors) trivial roomyCall (by decide +kernel) _
      (Option.some_get (by decide +kernel)).symm⟩

/-- The first call returns one accelerometer event, which fills its array. -/
def exactCall : List HalAction :=
  [.arrive KXTF9 accelerometerFrame, .call 1] ++ HalAction.sleep ++ [.take 2, .take 0, .call 1]

/-- The second call reads from the accelerometer, whose queue is empty. -/
theorem exactCall_blocks :
    ∃ last, exec halStep (HalState.create newSensors) exactCall = some last ∧
      ¬ ReadsReadable last := by
  refine ⟨_, (Option.some_get (by decide +kernel)).symm, fun readable => ?_⟩
  have queued := readable KXTF9
  revert queued
  decide +kernel

end Jordan.Sensors
