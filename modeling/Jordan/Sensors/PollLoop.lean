import Jordan.Library.Execution
import Jordan.Sensors.SensorBase
import Mathlib.Algebra.Order.BigOperators.Group.List

/-! # The poll loop

`pollEvents` visits the drivers in order while the caller's array has room, then
calls `poll`, and starts over if a descriptor became readable. It adds each
result of `readEvents` to the number of events and to the data pointer, and
subtracts it from the remaining count, without looking at its sign. Hence a
failing `readEvents` gives room back that does not exist: the call keeps to the
caller's array exactly when no other `readEvents` follows a failing one
(`pollEvents_conforms_iff`).
-/

namespace Jordan.Sensors

open Execution

/-- `numSensorDrivers`. -/
abbrev numSensorDrivers : Nat := 4

/-- `numFds`: the drivers' descriptors and the wake pipe. -/
abbrev numFds : Nat := 5

instance : NeZero numSensorDrivers := ⟨Nat.succ_ne_zero 3⟩

def KXTF9 : Fin numSensorDrivers := 0
def AK8973 : Fin numSensorDrivers := 1
def ISL29030P : Fin numSensorDrivers := 2
def ISL29030L : Fin numSensorDrivers := 3
def wake : Fin numFds := 4

/-- The drivers as `pollEvents` uses them, in a world that holds their state.
`readEvents` has no outcome while it blocks, and its outcome fits what it was
asked for. -/
structure SensorDrivers (World Io Event : Type) where
  hasPendingEvents : World → Fin numSensorDrivers → Bool
  readEvents : World → Fin numSensorDrivers → Int → Io → Option (ReadOutcome World Event)
  readWake : World → World
  fits : ∀ {world driver count io outcome}, 1 ≤ count →
    readEvents world driver count io = some outcome → outcome.Fits count

/-- The local variables; `data` is an offset into the caller's array. -/
structure PollFrame where
  data : Int
  count : Int
  nbEvents : Int
deriving DecidableEq, Repr

/-- A call of `readEvents`: the offset it stores at, the number of events asked
for, what it returned and what it stored. -/
structure ReadCall (Event : Type) where
  driver : Fin numSensorDrivers
  data : Int
  asked : Int
  result : Int
  stored : List Event

/-- Where a call of `pollEvents` is. -/
inductive PollLoc where
  | scan (i : Nat)
  | polling
  | failed (errno : Errno)
  | returned (nbEvents : Int)
deriving DecidableEq

/-- A call of `pollEvents` in progress or finished, with the `readEvents` calls
it has made. `revents` tells whether `POLLIN` is set. -/
structure PollState (World Event : Type) where
  world : World
  revents : Fin numFds → Bool
  loc : PollLoc
  frame : PollFrame
  calls : List (ReadCall Event)

/-- What `poll` returns. -/
inductive PollResult where
  | error (errno : Errno)
  | ready (n : Nat)
deriving DecidableEq

/-- A turn of the `for` loop, or the return of `poll`. -/
inductive PollAction (Io : Type) where
  | turn (io : Io)
  | pollReturn (result : PollResult) (revents : Fin numFds → Bool)

variable {World Io Event : Type} (drivers : SensorDrivers World Io Event)

/-- The timeout `poll` is called with. -/
def PollState.timeout (state : PollState World Event) : Int :=
  if state.frame.nbEvents ≠ 0 then 0 else -1

/-- The body of the `for` loop. -/
def visit (state : PollState World Event) (i : Fin numSensorDrivers) (io : Io) :
    Option (PollState World Event) :=
  if state.revents i.castSucc || drivers.hasPendingEvents state.world i then
    (drivers.readEvents state.world i state.frame.count io).map fun outcome =>
      let nb := outcome.result
      { world := outcome.driver
        revents :=
          if nb < state.frame.count then Function.update state.revents i.castSucc false
          else state.revents
        loc := .scan (i + 1)
        frame :=
          { data := state.frame.data + nb
            count := state.frame.count - nb
            nbEvents := state.frame.nbEvents + nb }
        calls := state.calls ++ [⟨i, state.frame.data, state.frame.count, nb, outcome.stored⟩] }
  else some { state with loc := .scan (i + 1) }

/-- One step of `pollEvents`. -/
def pollStep (state : PollState World Event) (action : PollAction Io) :
    Option (PollState World Event) :=
  match state.loc, action with
  | .scan i, .turn io =>
      if state.frame.count = 0 then some { state with loc := .returned state.frame.nbEvents }
      else if inside : i < numSensorDrivers then visit drivers state ⟨i, inside⟩ io
      else some { state with loc := .polling }
  | .polling, .pollReturn (.error errno) revents =>
      some { state with revents := revents, loc := .failed errno }
  | .polling, .pollReturn (.ready n) revents =>
      some { state with
        world := if revents wake then drivers.readWake state.world else state.world
        revents := if revents wake then Function.update revents wake false else revents
        loc := if n ≠ 0 then .scan 0 else .returned state.frame.nbEvents }
  | _, _ => none

/-- `pollEvents(data, count)` as it is entered. -/
def pollEvents (world : World) (revents : Fin numFds → Bool) (count : Int) :
    PollState World Event where
  world := world
  revents := revents
  loc := .scan 0
  frame := ⟨0, count, 0⟩
  calls := []

/-! ## What a step does -/

variable {drivers}

/-- The steps of `pollEvents`. -/
inductive PollTaken (drivers : SensorDrivers World Io Event) (state : PollState World Event) :
    PollAction Io → PollState World Event → Prop
  | full {i : Nat} (io : Io) (here : state.loc = .scan i) (spent : state.frame.count = 0) :
      PollTaken drivers state (.turn io) { state with loc := .returned state.frame.nbEvents }
  | skip (i : Fin numSensorDrivers) (io : Io) (here : state.loc = .scan i)
      (room : state.frame.count ≠ 0)
      (idle : ¬ (state.revents i.castSucc || drivers.hasPendingEvents state.world i) = true) :
      PollTaken drivers state (.turn io) { state with loc := .scan (i + 1) }
  | read (i : Fin numSensorDrivers) (io : Io) (here : state.loc = .scan i)
      (room : state.frame.count ≠ 0)
      (flagged : (state.revents i.castSucc || drivers.hasPendingEvents state.world i) = true)
      (outcome : ReadOutcome World Event)
      (called : drivers.readEvents state.world i state.frame.count io = some outcome) :
      PollTaken drivers state (.turn io)
        { world := outcome.driver
          revents :=
            if outcome.result < state.frame.count then
              Function.update state.revents i.castSucc false
            else state.revents
          loc := .scan (i + 1)
          frame :=
            { data := state.frame.data + outcome.result
              count := state.frame.count - outcome.result
              nbEvents := state.frame.nbEvents + outcome.result }
          calls := state.calls ++
            [⟨i, state.frame.data, state.frame.count, outcome.result, outcome.stored⟩] }
  | scanned {i : Nat} (io : Io) (here : state.loc = .scan i) (room : state.frame.count ≠ 0)
      (outside : ¬ i < numSensorDrivers) :
      PollTaken drivers state (.turn io) { state with loc := .polling }
  | pollError (errno : Errno) (revents : Fin numFds → Bool) (here : state.loc = .polling) :
      PollTaken drivers state (.pollReturn (.error errno) revents)
        { state with revents := revents, loc := .failed errno }
  | pollReady (n : Nat) (revents : Fin numFds → Bool) (here : state.loc = .polling) :
      PollTaken drivers state (.pollReturn (.ready n) revents)
        { state with
          world := if revents wake then drivers.readWake state.world else state.world
          revents := if revents wake then Function.update revents wake false else revents
          loc := if n ≠ 0 then .scan 0 else .returned state.frame.nbEvents }

/-- A step of `pollEvents` is one of the cases of `PollTaken`. -/
theorem pollStep_taken {before after : PollState World Event} {action : PollAction Io}
    (taken : pollStep drivers before action = some after) :
    PollTaken drivers before action after := by
  unfold pollStep at taken
  split at taken
  next i io here =>
    by_cases spent : before.frame.count = 0
    · simp only [spent, ↓reduceIte, Option.some.injEq] at taken
      exact taken ▸ .full io here spent
    · simp only [spent, ↓reduceIte] at taken
      by_cases inside : i < numSensorDrivers
      · simp only [inside, ↓reduceDIte, visit] at taken
        split at taken
        next flagged =>
          obtain ⟨outcome, called, rfl⟩ := Option.map_eq_some_iff.mp taken
          exact .read ⟨i, inside⟩ io here spent flagged outcome called
        next idle =>
          rw [Option.some.injEq] at taken
          exact taken ▸ .skip ⟨i, inside⟩ io here spent idle
      · simp only [inside, ↓reduceDIte, Option.some.injEq] at taken
        exact taken ▸ .scanned io here spent inside
  next errno revents here =>
    rw [Option.some.injEq] at taken
    exact taken ▸ .pollError errno revents here
  next n revents here =>
    rw [Option.some.injEq] at taken
    exact taken ▸ .pollReady n revents here
  next => cases taken

/-- Clearing the flag of one driver leaves the other drivers' flags. -/
theorem unflag_of_ne {revents : Fin numFds → Bool} {i j : Fin numSensorDrivers} (other : i ≠ j)
    (short : Prop) [Decidable short] :
    (if short then Function.update revents j.castSucc false else revents) i.castSucc =
      revents i.castSucc := by
  split
  · exact Function.update_of_ne (fun same => other (Fin.castSucc_injective _ same)) _ _
  · rfl

/-- Clearing the flag of the wake pipe leaves the drivers' flags. -/
theorem unflag_wake (revents : Fin numFds → Bool) (woken : Prop) [Decidable woken]
    (i : Fin numSensorDrivers) :
    (if woken then Function.update revents wake false else revents) i.castSucc =
      revents i.castSucc := by
  split
  · exact Function.update_of_ne (Fin.castSucc_lt_last i).ne _ _
  · rfl

/-- The loop turns while it scans the drivers. -/
theorem PollTaken.scanning {io : Io} {before after : PollState World Event}
    (taken : PollTaken drivers before (.turn io) after) : ∃ i, before.loc = .scan i := by
  cases taken with
  | full _ here _ => exact ⟨_, here⟩
  | skip _ _ here _ _ => exact ⟨_, here⟩
  | read _ _ here _ _ _ _ => exact ⟨_, here⟩
  | scanned _ here _ _ => exact ⟨_, here⟩

/-- The loop turns at most once per driver, and once more to leave it, before
`pollEvents` returns or calls `poll`. -/
theorem length_turns_le {i : Nat} (inside : i ≤ numSensorDrivers) {ios : List Io}
    {state last : PollState World Event} (here : state.loc = .scan i)
    (reached : exec (pollStep drivers) state (ios.map .turn) = some last) :
    ios.length ≤ numSensorDrivers + 1 - i := by
  induction ios generalizing i state with
  | nil => exact Nat.zero_le _
  | cons io rest ih =>
      obtain ⟨next, taken, reached⟩ := exec_cons_eq_some.mp reached
      have finished (out : ∀ i, next.loc ≠ .scan i) : rest = [] := by
        cases rest with
        | nil => rfl
        | cons other more =>
            obtain ⟨_, again, _⟩ := exec_cons_eq_some.mp reached
            obtain ⟨i, here⟩ := (pollStep_taken again).scanning
            exact (out i here).elim
      rw [List.length_cons]
      cases pollStep_taken taken with
      | full _ _ _ =>
          rw [finished (fun _ same => PollLoc.noConfusion same), List.length_nil]
          omega
      | scanned _ _ _ _ =>
          rw [finished (fun _ same => PollLoc.noConfusion same), List.length_nil]
          omega
      | skip driver _ same _ _ =>
          rw [here, PollLoc.scan.injEq] at same
          have later := ih driver.isLt rfl reached
          omega
      | read driver _ same _ _ _ _ =>
          rw [here, PollLoc.scan.injEq] at same
          have later := ih driver.isLt rfl reached
          omega

/-! ## The accounts of a call -/

/-- The results of calls of `readEvents`, summed. -/
def resultSum (calls : List (ReadCall Event)) : Int := (calls.map (·.result)).sum

/-- The number of events that calls of `readEvents` stored. -/
def storedBy (calls : List (ReadCall Event)) : Int :=
  (calls.map fun call => (call.stored.length : Int)).sum

@[simp] theorem resultSum_nil : resultSum ([] : List (ReadCall Event)) = 0 := rfl

@[simp] theorem storedBy_nil : storedBy ([] : List (ReadCall Event)) = 0 := rfl

theorem resultSum_append (first second : List (ReadCall Event)) :
    resultSum (first ++ second) = resultSum first + resultSum second := by
  simp only [resultSum, List.map_append, List.sum_append]

theorem resultSum_cons (call : ReadCall Event) (rest : List (ReadCall Event)) :
    resultSum (call :: rest) = call.result + resultSum rest := by
  simp only [resultSum, List.map_cons, List.sum_cons]

theorem storedBy_cons (call : ReadCall Event) (rest : List (ReadCall Event)) :
    storedBy (call :: rest) = call.stored.length + storedBy rest := by
  simp only [storedBy, List.map_cons, List.sum_cons]

/-- A property of every call, given the calls before it. -/
def EachCall (property : List (ReadCall Event) → ReadCall Event → Prop)
    (calls : List (ReadCall Event)) : Prop :=
  ∀ before call after, calls = before ++ call :: after → property before call

theorem EachCall.nil (property : List (ReadCall Event) → ReadCall Event → Prop) :
    EachCall property [] := by
  intro before call after same
  exact (List.append_ne_nil_of_right_ne_nil before (List.cons_ne_nil _ _) same.symm).elim

/-- One more call. -/
theorem EachCall.snoc {property : List (ReadCall Event) → ReadCall Event → Prop}
    {calls : List (ReadCall Event)} (each : EachCall property calls) {last : ReadCall Event}
    (holds : property calls last) : EachCall property (calls ++ [last]) := by
  intro before call after same
  rcases List.eq_nil_or_concat after with rfl | ⟨middle, final, rfl⟩
  · obtain ⟨rfl, one⟩ := List.append_inj' same rfl
    rw [List.cons.injEq] at one
    exact one.1 ▸ holds
  · rw [List.concat_eq_append, ← List.cons_append, ← List.append_assoc] at same
    exact each before call middle (List.append_inj' same rfl).1

/-- What the loop writes down about a call of `readEvents`: with the sum of the
earlier results it went ahead in the array and counted down. -/
structure CallRecorded (count : Int) (before : List (ReadCall Event)) (call : ReadCall Event) :
    Prop where
  data : call.data = resultSum before
  asked : call.asked = count - resultSum before
  within : call.result ≤ call.asked
  stored : call.stored.length = call.result.toNat

/-- The accounts of a call `pollEvents(data, count)`. -/
structure Accounts (count : Int) (state : PollState World Event) : Prop where
  recorded : EachCall (CallRecorded count) state.calls
  data : state.frame.data = resultSum state.calls
  left : state.frame.count = count - resultSum state.calls
  events : state.frame.nbEvents = resultSum state.calls
  nonneg : 0 ≤ state.frame.count
  returned : ∀ nb, state.loc = .returned nb → nb = resultSum state.calls

theorem accounts_pollEvents (world : World) (revents : Fin numFds → Bool) {count : Int}
    (positive : 1 ≤ count) :
    Accounts count (pollEvents world revents count : PollState World Event) where
  recorded := EachCall.nil _
  data := rfl
  left := (Int.sub_zero count).symm
  events := rfl
  nonneg := by
    simp only [pollEvents]
    omega
  returned := by
    intro nb here
    cases here

/-- Every step keeps the accounts in order. -/
theorem accounts_step {count : Int} {before after : PollState World Event}
    {action : PollAction Io} (accounts : Accounts count before)
    (taken : PollTaken drivers before action after) : Accounts count after := by
  obtain ⟨recorded, data, left, events, nonneg, returned⟩ := accounts
  cases taken with
  | full io here spent =>
      refine ⟨recorded, data, left, events, nonneg, ?_⟩
      intro nb same
      rw [← events]
      exact (PollLoc.returned.inj same).symm
  | skip i io here room idle => exact ⟨recorded, data, left, events, nonneg, by simp⟩
  | scanned io here room outside => exact ⟨recorded, data, left, events, nonneg, by simp⟩
  | pollError errno revents here => exact ⟨recorded, data, left, events, nonneg, by simp⟩
  | pollReady n revents here =>
      refine ⟨recorded, data, left, events, nonneg, ?_⟩
      intro nb same
      by_cases ready : n = 0
      · simp only [ready, ne_eq, not_true_eq_false, ↓reduceIte, PollLoc.returned.injEq] at same
        rw [← events, same]
      · simp [ready] at same
  | read i io here room flagged outcome called =>
      obtain ⟨within, stored⟩ := drivers.fits (by omega) called
      refine ⟨recorded.snoc ⟨data, left, within, stored⟩, ?_, ?_, ?_, ?_, by simp⟩
      · simp only [resultSum_append, resultSum_cons, resultSum_nil, data, Int.add_zero]
      · simp only [resultSum_append, resultSum_cons, resultSum_nil, left, Int.add_zero,
          Int.sub_sub]
      · simp only [resultSum_append, resultSum_cons, resultSum_nil, events, Int.add_zero]
      · exact Int.sub_nonneg_of_le within

/-- The accounts hold in every state of every call. -/
theorem accounts_exec {world : World} {revents : Fin numFds → Bool} {count : Int}
    (positive : 1 ≤ count) {actions : List (PollAction Io)} {last : PollState World Event}
    (reached : exec (pollStep drivers) (pollEvents world revents count) actions = some last) :
    Accounts count last :=
  invariant_of_step (Accounts count)
    (fun _ _ _ accounts taken => accounts_step accounts (pollStep_taken taken))
    (accounts_pollEvents world revents positive) reached

/-! ## When a call keeps to the caller's array -/

section Conforms

variable {count : Int} {calls : List (ReadCall Event)} {state last : PollState World Event}

/-- A call of `readEvents` is asked for no more than the slots left, and stores
inside the array. -/
structure CallConforms (count : Int) (before : List (ReadCall Event)) (call : ReadCall Event) :
    Prop where
  asked : call.asked ≤ count - storedBy before
  inside : call.stored ≠ [] → 0 ≤ call.data ∧ call.data + call.stored.length ≤ count

/-- All calls of `readEvents` conform, and `pollEvents` returns a negative error
or the number of events stored. -/
structure Conforms (count : Int) (state : PollState World Event) : Prop where
  each : EachCall (CallConforms count) state.calls
  returned : ∀ nb, state.loc = .returned nb →
    nb < 0 ∨ (0 ≤ nb ∧ nb ≤ count ∧ nb = storedBy state.calls)

/-- No `readEvents` follows a failing one, and when `pollEvents` returns after a
failing one the error outweighs the events stored before it. -/
structure FailsLast (state : PollState World Event) : Prop where
  last : ∀ before call after, state.calls = before ++ call :: after → call.result < 0 → after = []
  outweighed : ∀ nb, state.loc = .returned nb → (∃ call ∈ state.calls, call.result < 0) →
    resultSum state.calls < 0

/-- Nothing fails. -/
theorem FailsLast.of_nonneg (succeeded : ∀ call ∈ state.calls, 0 ≤ call.result) :
    FailsLast state where
  last := by
    intro before call after split failed
    have nonneg := succeeded call (split ▸ List.mem_append_right _ List.mem_cons_self)
    omega
  outweighed := by
    rintro nb here ⟨call, member, failed⟩
    have nonneg := succeeded call member
    omega

/-- Errors make the sum of the results smaller than the number of events. -/
theorem resultSum_le_storedBy
    (stored : ∀ call ∈ calls, call.stored.length = call.result.toNat) :
    resultSum calls ≤ storedBy calls ∧
      (resultSum calls = storedBy calls ↔ ∀ call ∈ calls, 0 ≤ call.result) := by
  induction calls with
  | nil => simp
  | cons call rest ih =>
      obtain ⟨below, equal⟩ := ih fun other member => stored other (List.mem_cons_of_mem _ member)
      have here := stored call List.mem_cons_self
      rw [resultSum_cons, storedBy_cons, List.forall_mem_cons, ← equal]
      omega

theorem stored_of_recorded (recorded : EachCall (CallRecorded count) calls) :
    ∀ call ∈ calls, call.stored.length = call.result.toNat := by
  intro call member
  obtain ⟨before, after, split⟩ := List.append_of_mem member
  exact (recorded before call after split).stored

/-- If the calls conform, only the last of them may have failed. -/
theorem fails_last_of_conforms (recorded : EachCall (CallRecorded count) calls)
    (each : EachCall (CallConforms count) calls) {before after : List (ReadCall Event)}
    {call : ReadCall Event} (split : calls = before ++ call :: after)
    (failed : call.result < 0) : after = [] := by
  by_contra more
  obtain ⟨next, rest, rfl⟩ := List.exists_cons_of_ne_nil more
  have following : calls = (before ++ [call]) ++ next :: rest := by
    rw [split, List.append_assoc, List.singleton_append]
  have stored := stored_of_recorded recorded
  have known : ∀ other ∈ before ++ [call], other.stored.length = other.result.toNat := by
    intro other member
    exact stored other (following ▸ List.mem_append_left _ member)
  obtain ⟨below, equal⟩ := resultSum_le_storedBy known
  have asked := (recorded _ _ _ following).asked
  have allowed := (each _ _ _ following).asked
  have exactly : resultSum (before ++ [call]) = storedBy (before ++ [call]) := by omega
  have nonneg := equal.mp exactly call (List.mem_append_right _ List.mem_cons_self)
  omega

/-- A call of `readEvents` with no failing one before it conforms. -/
theorem conforms_of_fails_last (recorded : EachCall (CallRecorded count) calls)
    (last : ∀ before call after, calls = before ++ call :: after → call.result < 0 → after = []) :
    EachCall (CallConforms count) calls := by
  intro before call after split
  have stored := stored_of_recorded recorded
  have succeeded : ∀ other ∈ before, 0 ≤ other.result := by
    intro other member
    obtain ⟨first, second, rfl⟩ := List.append_of_mem member
    by_contra failed
    have none := last first other (second ++ call :: after)
      (by rw [split, List.append_assoc, List.cons_append]) (by omega)
    exact List.append_ne_nil_of_right_ne_nil second (List.cons_ne_nil _ _) none
  have known : ∀ other ∈ before, other.stored.length = other.result.toNat := fun other member =>
    stored other (split ▸ List.mem_append_left _ member)
  have exactly := (resultSum_le_storedBy known).2.mpr succeeded
  obtain ⟨data, asked, within, length⟩ := recorded before call after split
  refine ⟨by omega, fun some => ?_⟩
  have positive : call.stored.length ≠ 0 := fun empty => some (List.length_eq_zero_iff.mp empty)
  have started : 0 ≤ storedBy before := by
    apply List.sum_nonneg
    intro length member
    obtain ⟨other, -, rfl⟩ := List.mem_map.mp member
    exact Int.natCast_nonneg _
  omega

/-- **Staying in the array.** A call of `pollEvents` conforms exactly when no
`readEvents` follows a failing one and, should it return then, the error
outweighs the events stored. -/
theorem pollEvents_conforms_iff (drivers : SensorDrivers World Io Event) (world : World)
    (revents : Fin numFds → Bool) (count : Int) (positive : 1 ≤ count)
    (actions : List (PollAction Io)) (last : PollState World Event)
    (reached : exec (pollStep drivers) (pollEvents world revents count) actions = some last) :
    Conforms count last ↔ FailsLast last := by
  obtain ⟨recorded, data, left, events, nonneg, returned⟩ := accounts_exec positive reached
  obtain ⟨below, equal⟩ := resultSum_le_storedBy (stored_of_recorded recorded)
  constructor
  · rintro ⟨each, result⟩
    refine ⟨fun before call after => fails_last_of_conforms recorded each, ?_⟩
    rintro nb here ⟨call, member, failed⟩
    rw [← returned nb here]
    rcases result nb here with negative | ⟨_, _, exactly⟩
    · exact negative
    · rw [returned nb here] at exactly
      have succeeded := equal.mp exactly call member
      omega
  · rintro ⟨failsLast, outweighed⟩
    refine ⟨conforms_of_fails_last recorded failsLast, ?_⟩
    intro nb here
    have total := returned nb here
    by_cases failed : ∃ call ∈ last.calls, call.result < 0
    · exact .inl (total ▸ outweighed nb here failed)
    · have succeeded : ∀ call ∈ last.calls, 0 ≤ call.result := by
        intro call member
        by_contra negative
        exact failed ⟨call, member, by omega⟩
      have exactly := equal.mpr succeeded
      by_cases negative : nb < 0
      · exact .inl negative
      · exact .inr ⟨by omega, by omega, total.trans exactly⟩

end Conforms

/-! ## The four drivers -/

section Sensors

variable {F : Type} [FloatArith F]

/-- `read` returns no more events than it was asked for. -/
def ReadResult.atMost (space : Nat) : ReadResult InputEvent → Bool
  | .error _ => true
  | .torn events => events.length ≤ space
  | .whole events => events.length ≤ space

/-- `mSensors`, where `read` may fail, or return any bytes it was asked for. -/
def sensorDrivers : SensorDrivers (Fin numSensorDrivers → SensorBase F)
    (ReadResult InputEvent × Int) (SensorsEvent F) where
  hasPendingEvents sensors i := (sensors i).hasPendingEvents
  readEvents sensors i count io :=
    if (sensors i).Reads ∧ ¬ io.1.atMost (sensors i).reader.mFreeSpace then none
    else
      let outcome := (sensors i).readEvents count io.1 io.2
      some ⟨outcome.result, outcome.stored, Function.update sensors i outcome.driver⟩
  readWake sensors := sensors
  fits := by
    intro sensors i count io outcome positive called
    split at called
    · cases called
    · rw [Option.some.injEq] at called
      obtain ⟨within, stored⟩ := (sensors i).readEvents_fits positive io.1 io.2
      exact called ▸ ⟨within, stored⟩

/-- What the kernel holds for the drivers. -/
structure KernelDevices where
  kxtf9 : Device
  ak8973 : AkDevice
  isl29030P : Device
  isl29030L : Device

/-- The drivers as the constructor of `sensors_poll_context_t` leaves them, given
what the allocator returned and what the system calls did. -/
def createSensors (memory : Nat → InputEvent) (allocated : SensorsEvent F)
    (devices : KernelDevices) (io : DeviceIo) : Fin numSensorDrivers → SensorBase F
  | 0 => .kxtf9 (SensorKXTF9.create allocated memory devices.kxtf9 io) devices.kxtf9
  | 1 => .ak8973 (SensorAK8973.create memory) devices.ak8973
  | 2 => .isl29030P (SensorISL29030P.create memory devices.isl29030P io) devices.isl29030P
  | 3 => .isl29030L (SensorISL29030L.create memory devices.isl29030L io) devices.isl29030L

/-- New drivers have empty readers and nothing pending. -/
theorem createSensors_fresh (memory : Nat → InputEvent) (allocated : SensorsEvent F)
    (devices : KernelDevices) (io : DeviceIo) (i : Fin numSensorDrivers) :
    (createSensors memory allocated devices io i).reader =
        InputEventCircularReader.create 32 memory ∧
      (createSensors memory allocated devices io i).pendingMask = 0#4 ∧
      (createSensors memory allocated devices io i).hasPendingEvents = false := by
  match i with
  | 0 => exact ⟨rfl, rfl, rfl⟩
  | 1 => exact ⟨rfl, rfl, rfl⟩
  | 2 => exact ⟨rfl, rfl, rfl⟩
  | 3 => exact ⟨rfl, rfl, rfl⟩

theorem createSensors_valid (memory : Nat → InputEvent) (allocated : SensorsEvent F)
    (devices : KernelDevices) (io : DeviceIo) (i : Fin numSensorDrivers) :
    (createSensors memory allocated devices io i).reader.Valid := by
  rw [(createSensors_fresh memory allocated devices io i).1]
  exact InputEventCircularReader.create_valid 32 (by omega) memory

/-- The drivers of a new `sensors_poll_context_t`, all sensors off. -/
def newSensors : Fin numSensorDrivers → SensorBase Rat :=
  createSensors (fun _ => blank) SensorsEvent.zero
    ⟨⟨false, 200⟩, ⟨0#4, 200⟩, ⟨false, 200⟩, ⟨false, 200⟩⟩ ⟨true, none, none⟩

/-- The same drivers, the orientation sensor switched on. -/
def orientationOn : Fin numSensorDrivers → SensorBase Rat :=
  Function.update newSensors AK8973
    ((newSensors AK8973).enable ⟨SENSOR_TYPE_ORIENTATION, 1, true, none, none⟩).2

/-- `POLLIN` on the accelerometer and the compass. -/
def twoReadable (fd : Fin numFds) : Bool := fd = KXTF9.castSucc || fd = AK8973.castSucc

/-- A frame of the accelerometer, and one of the compass with data of its
orientation sensor. -/
def accelerometerFrame : List InputEvent := [⟨1, 0, EV_ABS, ABS_X, 100⟩, ⟨1, 0, EV_SYN, 0, 0⟩]
def orientationFrame : List InputEvent := [⟨1, 0, EV_ABS, ABS_RX, 640⟩, ⟨1, 0, EV_SYN, 0, 0⟩]

/-- Two frames in one call, the array having room for four events. -/
theorem two_frames_conform :
    ∃ last, exec (pollStep sensorDrivers) (pollEvents orientationOn twoReadable 4)
      [.turn (.whole accelerometerFrame, 0), .turn (.whole orientationFrame, 0)] = some last ∧
      Conforms 4 last :=
  ⟨_, (Option.some_get (by decide)).symm,
    (pollEvents_conforms_iff sensorDrivers orientationOn twoReadable 4 (by decide) _ _
      (Option.some_get (by decide)).symm).mpr (.of_nonneg (by decide))⟩

/-- A failing `read` of the accelerometer makes the compass write before the
caller's array, which has room for four events. -/
theorem failed_read_leaves_array :
    ∃ last, exec (pollStep sensorDrivers) (pollEvents orientationOn twoReadable 4)
      [.turn (.error ENODEV, 0), .turn (.whole orientationFrame, 0)] = some last ∧
      ¬ Conforms 4 last := by
  refine ⟨_, rfl, fun conforms => ?_⟩
  have inside := (conforms.each [_] _ [] rfl).inside
  revert inside
  decide

end Sensors

end Jordan.Sensors
