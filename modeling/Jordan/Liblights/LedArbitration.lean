import Jordan.Library.Execution
import Jordan.Liblights.Lights

/-! # The arbitration of the LEDs

The battery and the notifications share the RGB LED, and the battery has the charge
LED beside it. Every call for one of them draws both LEDs from the globals, which
keep no more than the last request of each kind: the files hold a function of these
two (`Jordan.Liblights.led_arbitration`).
-/

namespace Jordan.Liblights

open Execution

/-! ## The colour word -/

namespace LightState

variable (state : LightState)

/-- The 24 bits of the colour are not all 0. -/
def Lit : Prop := state.color.toNat % 2 ^ 24 ≠ 0

instance : Decidable state.Lit := inferInstanceAs (Decidable (_ ≠ _))

/-- A byte of the colour word, counted from the lowest one. -/
def byte (index : Nat) : Nat := state.color.toNat / 2 ^ (8 * index) % 2 ^ 8

variable {state}

/-- The mask of `is_lit` keeps the colour. -/
theorem isLit_iff : state.isLit = true ↔ state.Lit := by
  have masked : (state.color &&& 0x00ffffff).toNat = state.color.toNat % 2 ^ 24 :=
    Nat.and_two_pow_sub_one_eq_mod state.color.toNat 24
  rw [isLit, decide_eq_true_iff, Lit, ← masked]
  exact not_congr BitVec.toNat_inj.symm

/-- Shifting and masking takes a byte, which is not negative as an `int`. -/
theorem toInt_masked (index : Nat) :
    ((state.color >>> (8 * index)) &&& 0xff).toInt = state.byte index := by
  have masked : ((state.color >>> (8 * index)) &&& 0xff).toNat = state.byte index := by
    rw [byte, ← Nat.shiftRight_eq_div_pow]
    exact Nat.and_two_pow_sub_one_eq_mod (state.color.toNat >>> (8 * index)) 8
  have small : state.byte index < 2 ^ 8 := Nat.mod_lt _ (Nat.two_pow_pos 8)
  rw [BitVec.toInt_eq_toNat_of_lt (by omega), masked]

theorem red_toInt : state.red.toInt = state.byte 2 := toInt_masked 2

theorem green_toInt : state.green.toInt = state.byte 1 := toInt_masked 1

theorem blue_toInt : state.blue.toInt = state.byte 0 := toInt_masked 0

end LightState

/-! ## The latest requests -/

/-- A request of the battery, with what `persist.sys.charge_led` was set to. -/
structure BatteryRequest where
  state : LightState
  property : Option String
deriving DecidableEq, Repr

namespace BatteryRequest

variable (request : BatteryRequest)

/-- Green is set: the device is charging. -/
def HasGreen : Prop := request.state.color &&& 0xff00 ≠ 0

/-- The value of the property, with its default. -/
def mode : String := request.property.getD "rgb"

/-- Charging, but not finished, with the charge LED selected. -/
def ChargesWhite : Prop :=
  request.HasGreen ∧ request.state.color &&& 0xff0000 ≠ 0 ∧ request.mode = "white"

/-- The RGB LED is not used for the battery. -/
def Blanked : Prop := request.ChargesWhite ∨ request.HasGreen ∧ request.mode = "off"

instance : Decidable request.HasGreen := inferInstanceAs (Decidable (_ ≠ _))
instance : Decidable request.ChargesWhite := inferInstanceAs (Decidable (_ ∧ _ ∧ _))
instance : Decidable request.Blanked := inferInstanceAs (Decidable (_ ∨ _ ∧ _))

/-- What is left of the request for the RGB LED. -/
def shown : LightState := if request.Blanked then .zero else request.state

end BatteryRequest

/-- The last request of each kind, if there was one. -/
structure LedRequests where
  battery : Option BatteryRequest
  notification : Option LightState

namespace LedRequests

variable (requests : LedRequests)

/-- The last notification, where one that was never made is dark. -/
def notificationState : LightState := requests.notification.getD .zero

/-- The battery as it is shown. -/
def batteryState : LightState := (requests.battery.map BatteryRequest.shown).getD .zero

/-- The battery is charging on the charge LED. -/
def Charging : Prop := ∃ request ∈ requests.battery, request.ChargesWhite

instance : Decidable requests.Charging :=
  inferInstanceAs (Decidable (∃ request ∈ requests.battery, _))

/-- The state on the RGB LED: a lit notification, else the battery. -/
def rgb : LightState :=
  if requests.notificationState.Lit then requests.notificationState else requests.batteryState

/-- The charge LED is on. -/
def charge : Bool := decide (¬ requests.notificationState.Lit ∧ requests.Charging)

end LedRequests

/-- What the files of the LEDs hold when a state is on the RGB LED. -/
def ledContent (state : LightState) (charge : Bool) : LightFile → Option Int
  | .red => some (state.byte 2)
  | .green => some (state.byte 1)
  | .blue => some (state.byte 0)
  | .redBlink => some (if state.flashMode ≠ lightFlashNone then 255 else 0)
  | .charge => some (if charge then 1 else 0)
  | .lcd | .als | .buttonOn | .buttonBright => none

namespace LightCall

def batteryRequest : LightCall → Option BatteryRequest
  | .battery state property => some ⟨state, property⟩
  | _ => none

def notificationRequest : LightCall → Option LightState
  | .notification state => some state
  | _ => none

/-- A call for one of the LEDs. -/
def isLed : LightCall → Bool
  | .battery .. | .notification _ => true
  | .backlight _ | .buttons .. | .attention _ => false

theorem requests_of_not_led {call : LightCall} (notLed : call.isLed = false) :
    call.batteryRequest = none ∧ call.notificationRequest = none := by
  cases call with
  | battery | notification => cases notLed
  | backlight | buttons | attention => exact ⟨rfl, rfl⟩

end LightCall

/-- The last requests among some calls. -/
def lastRequests (calls : List LightCall) : LedRequests where
  battery := (calls.filterMap LightCall.batteryRequest).getLast?
  notification := (calls.filterMap LightCall.notificationRequest).getLast?

/-- The writes to the LEDs succeed. -/
structure Outcome.LedsSucceed (outcome : Outcome) : Prop where
  blinkOff : outcome .blinkOff = none
  red : outcome .red = none
  green : outcome .green = none
  blue : outcome .blue = none
  blinkOn : outcome .blinkOn = none
  charge : outcome .charge = none

/-! ## One call -/

namespace Lights

variable {s : Lights} {outcome : Outcome}

/-- The four files of the RGB LED hold the state. -/
theorem setLightLocked_leds (succeeds : outcome.LedsSucceed) (files : LightFiles)
    (state : LightState) (charge : Bool) {file : LightFile} (led : file.isLed = true)
    (rgb : file ≠ .charge) :
    (setLightLocked outcome files state).2 file = ledContent state charge file := by
  simp only [setLightLocked, succeeds.blinkOff, succeeds.red, succeeds.green, succeeds.blue,
    succeeds.blinkOn, writeInt, ↓reduceIte]
  by_cases flashes : state.flashMode ≠ lightFlashNone
  · rw [if_pos flashes]
    cases file with
    | red => exact congrArg some LightState.red_toInt
    | green => exact congrArg some LightState.green_toInt
    | blue => exact congrArg some LightState.blue_toInt
    | redBlink => exact congrArg some (if_pos flashes).symm
    | charge => exact absurd rfl rgb
    | lcd | als | buttonOn | buttonBright => cases led
  · rw [if_neg flashes]
    cases file with
    | red => exact congrArg some LightState.red_toInt
    | green => exact congrArg some LightState.green_toInt
    | blue => exact congrArg some LightState.blue_toInt
    | redBlink => exact congrArg some (if_neg flashes).symm
    | charge => exact absurd rfl rgb
    | lcd | als | buttonOn | buttonBright => cases led

/-- The state that `handle_light_locked` draws, and whether it lights the charge LED. -/
def drawn (s : Lights) : LightState × Bool :=
  if s.gNotification.isLit then (s.gNotification, false) else (s.gBattery, s.gChargeLedActive)

theorem handleLightLocked_leds (succeeds : outcome.LedsSucceed) {file : LightFile}
    (led : file.isLed = true) :
    (s.handleLightLocked outcome).2.files file = ledContent s.drawn.1 s.drawn.2 file := by
  show writeInt (setLightLocked outcome s.files s.drawn.1).2 .charge (if s.drawn.2 then 1 else 0)
    (outcome .charge) file = _
  rw [succeeds.charge]
  by_cases charge : file = .charge
  · subst charge
    exact writeInt_none
  · rw [writeInt_of_ne charge, setLightLocked_leds succeeds s.files s.drawn.1 s.drawn.2 led charge]

end Lights

/-! ## Runs -/

/-- The globals hold the last requests. -/
structure Lights.Holds (s : Lights) (requests : LedRequests) : Prop where
  notification : s.gNotification = requests.notificationState
  battery : s.gBattery = requests.batteryState
  charge : s.gChargeLedActive = decide requests.Charging

theorem Lights.Holds.drawn {s : Lights} {requests : LedRequests} (holds : s.Holds requests) :
    s.drawn = (requests.rgb, requests.charge) := by
  unfold Lights.drawn LedRequests.rgb LedRequests.charge
  rw [holds.notification, holds.battery, holds.charge]
  by_cases lit : requests.notificationState.Lit
  · rw [if_pos (LightState.isLit_iff.mpr lit), if_pos lit]
    exact congrArg (Prod.mk _) (decide_eq_false fun on => on.1 lit).symm
  · rw [if_neg (mt LightState.isLit_iff.mp lit), if_neg lit]
    exact congrArg (Prod.mk _) (decide_eq_decide.mpr ⟨fun on => ⟨lit, on⟩, And.right⟩)

/-- What a battery request leaves in the globals. -/
theorem takeBattery_eq (s : Lights) (request : BatteryRequest) :
    s.takeBattery request.state request.property =
      { s with
        gBattery := request.shown
        gChargeLedActive := decide request.ChargesWhite } := by
  unfold Lights.takeBattery BatteryRequest.shown
  by_cases green : request.HasGreen
  · have blanked : request.Blanked ↔
        decide (request.state.color &&& 0xff0000 ≠ 0 ∧ request.mode = "white") = true ∨
          request.mode = "off" := by
      rw [decide_eq_true_iff]
      simp only [BatteryRequest.Blanked, BatteryRequest.ChargesWhite, green, true_and]
    have charges : request.ChargesWhite ↔
        request.state.color &&& 0xff0000 ≠ 0 ∧ request.mode = "white" := by
      simp only [BatteryRequest.ChargesWhite, green, true_and]
    simp only [blanked, charges]
    exact if_pos green
  · have notCharging : ¬ request.ChargesWhite := fun charges => green charges.1
    have notBlanked : ¬ request.Blanked := fun blanked =>
      blanked.elim notCharging fun off => green off.1
    simp only [notCharging, notBlanked, ↓reduceIte, decide_false]
    exact if_neg green

theorem lastRequests_concat (calls : List LightCall) (call : LightCall) :
    lastRequests (calls ++ [call]) =
      { battery := call.batteryRequest.or (lastRequests calls).battery
        notification := call.notificationRequest.or (lastRequests calls).notification } := by
  cases call <;> simp [lastRequests, LightCall.batteryRequest, LightCall.notificationRequest]

namespace Lights

variable {s : Lights} {requests : LedRequests}

/-- A call keeps the last requests. -/
theorem setLight_holds (holds : s.Holds requests) (invocation : Invocation) :
    (s.setLight invocation).2.Holds
      { battery := invocation.call.batteryRequest.or requests.battery
        notification := invocation.call.notificationRequest.or requests.notification } := by
  obtain ⟨call, outcome⟩ := invocation
  cases call with
  | battery state property =>
      have taken : s.takeBattery state property = _ := takeBattery_eq s ⟨state, property⟩
      simp only [setLight, setLightBattery, taken]
      refine ⟨holds.notification, rfl, ?_⟩
      refine decide_eq_decide.mpr ⟨fun charges => ⟨_, rfl, charges⟩, ?_⟩
      rintro ⟨_, ⟨⟩, charges⟩
      exact charges
  | notification state => exact ⟨rfl, holds.battery, holds.charge⟩
  | backlight state =>
      simp only [setLight, setLightBacklight]
      cases outcome .als with
      | none => exact ⟨holds.notification, holds.battery, holds.charge⟩
      | some errno => exact ⟨holds.notification, holds.battery, holds.charge⟩
  | buttons state property => exact ⟨holds.notification, holds.battery, holds.charge⟩
  | attention state => exact holds

/-- A call for an LED draws both. -/
theorem setLight_leds {invocation : Invocation} (isLed : invocation.call.isLed = true)
    (succeeds : invocation.outcome.LedsSucceed) {file : LightFile} (led : file.isLed = true) :
    (s.setLight invocation).2.files file =
      ledContent (s.setLight invocation).2.drawn.1 (s.setLight invocation).2.drawn.2 file := by
  obtain ⟨call, outcome⟩ := invocation
  cases call with
  | battery state property => exact handleLightLocked_leds succeeds led
  | notification state => exact handleLightLocked_leds succeeds led
  | backlight state => cases isLed
  | buttons state property => cases isLed
  | attention state => cases isLed

/-- The other calls leave the LEDs alone. -/
theorem setLight_of_not_led {invocation : Invocation} (notLed : invocation.call.isLed = false)
    {file : LightFile} (led : file.isLed = true) :
    (s.setLight invocation).2.files file = s.files file := by
  have apart (other : LightFile) (isLed : other.isLed = false) : file.isLed ≠ other.isLed := by
    rw [led, isLed]
    exact Bool.noConfusion
  obtain ⟨call, outcome⟩ := invocation
  cases call with
  | battery state property => cases notLed
  | notification state => cases notLed
  | backlight state =>
      simp only [setLight, setLightBacklight]
      cases outcome .als with
      | none =>
          exact (writeInt_of_isLed_ne (apart .lcd rfl)).trans
            (writeInt_of_isLed_ne (apart .als rfl))
      | some errno => simp only [writeInt_some]
  | buttons state property =>
      have switched (brightness : Int) :
          (s.switchButtons outcome brightness).2 file = s.files file := by
        unfold switchButtons
        split
        · exact writeInt_of_isLed_ne (apart .buttonOn rfl)
        · rfl
      simp only [setLight, setLightButtons]
      split
      · exact (writeInt_of_isLed_ne (apart .buttonBright rfl)).trans (switched _)
      · exact switched _
  | attention state => rfl

end Lights

/-- Every call returns. -/
theorem exec_step_total (start : Lights) (invocations : List Invocation) :
    ∃ s, exec Lights.step start invocations = some s := by
  induction invocations generalizing start with
  | nil => exact ⟨start, rfl⟩
  | cons invocation rest ih => exact ih (start.setLight invocation).2

/-- The globals of a run hold its last requests, and the LED files what is drawn from
them once there has been a call for an LED. -/
theorem run_leds (files : LightFiles) {invocations : List Invocation}
    (succeed : ∀ invocation ∈ invocations, invocation.call.isLed = true →
      invocation.outcome.LedsSucceed) {s : Lights}
    (ran : exec Lights.step (initGlobals files) invocations = some s) :
    s.Holds (lastRequests (invocations.map Invocation.call)) ∧
      ((∃ invocation ∈ invocations, invocation.call.isLed = true) →
        ∀ file : LightFile, file.isLed = true →
          s.files file = ledContent s.drawn.1 s.drawn.2 file) := by
  induction invocations using List.reverseRecOn generalizing s with
  | nil =>
      obtain rfl := Option.some.inj ran
      exact ⟨⟨rfl, rfl, rfl⟩, nofun⟩
  | append_singleton earlier invocation ih =>
      obtain ⟨before, ranEarlier, ran⟩ := exec_append_eq_some.mp ran
      obtain ⟨after, taken, ended⟩ := exec_cons_eq_some.mp ran
      obtain rfl := Option.some.inj ended
      obtain rfl := Option.some.inj taken
      obtain ⟨holds, leds⟩ := ih (fun other member =>
        succeed other (List.mem_append_left _ member)) ranEarlier
      have kept := Lights.setLight_holds holds invocation
      rw [List.map_append, List.map_singleton, lastRequests_concat]
      refine ⟨kept, fun drawnOnce file led => ?_⟩
      cases isLed : invocation.call.isLed with
      | true =>
          have member : invocation ∈ earlier ++ [invocation] :=
            List.mem_append_right _ (List.mem_singleton_self _)
          exact Lights.setLight_leds isLed (succeed invocation member isLed) led
      | false =>
          -- a call for another light changes neither the files nor what is drawn
          have earlierLed : ∃ other ∈ earlier, other.call.isLed = true := by
            obtain ⟨other, member, otherLed⟩ := drawnOnce
            rcases List.mem_append.mp member with member | member
            · exact ⟨other, member, otherLed⟩
            · rw [List.mem_singleton.mp member, isLed] at otherLed
              cases otherLed
          obtain ⟨noBattery, noNotification⟩ := LightCall.requests_of_not_led isLed
          rw [noBattery, noNotification, Option.none_or, Option.none_or] at kept
          rw [Lights.setLight_of_not_led isLed led, leds earlierLed file led, kept.drawn,
            holds.drawn]

/-- Before the first call for an LED its files are as they were. -/
theorem run_of_not_led {start s : Lights} {invocations : List Invocation}
    (notLed : ∀ invocation ∈ invocations, invocation.call.isLed = false)
    (ran : exec Lights.step start invocations = some s) {file : LightFile}
    (led : file.isLed = true) : s.files file = start.files file := by
  induction invocations generalizing start with
  | nil => rw [Option.some.inj ran]
  | cons invocation rest ih =>
      have later := ih (fun other member => notLed other (.tail _ member)) ran
      rw [later, Lights.setLight_of_not_led (notLed invocation List.mem_cons_self) led]

/-- A lit notification has the RGB LED, and the charge LED is off. -/
theorem LedRequests.lit_notification {requests : LedRequests}
    (lit : requests.notificationState.Lit) :
    requests.rgb = requests.notificationState ∧ requests.charge = false :=
  ⟨if_pos lit, decide_eq_false fun on => on.1 lit⟩

/-- The charge LED is on for a charging battery without a lit notification. -/
theorem LedRequests.charge_iff {requests : LedRequests} :
    requests.charge = true ↔ ¬ requests.notificationState.Lit ∧ requests.Charging :=
  decide_eq_true_iff

/-- **The LEDs depend on the last requests only**: whatever the calls and their order,
and whatever the other lights are asked for meanwhile, the files hold the content for
the last battery request and the last notification. A lit notification owns the RGB
LED with the charge LED off, and the charge LED is on only without one, for a battery
that charges with the mode `white`. -/
theorem led_arbitration (files : LightFiles) {invocations : List Invocation}
    (succeed : ∀ invocation ∈ invocations, invocation.call.isLed = true →
      invocation.outcome.LedsSucceed) :
    ∃ s, exec Lights.step (initGlobals files) invocations = some s ∧
      ((∃ invocation ∈ invocations, invocation.call.isLed = true) →
        let requests := lastRequests (invocations.map Invocation.call)
        (∀ file : LightFile, file.isLed = true →
          s.files file = ledContent requests.rgb requests.charge file) ∧
        (requests.notificationState.Lit →
          requests.rgb = requests.notificationState ∧ s.files .charge = some 0) ∧
        (s.files .charge = some 1 → ¬ requests.notificationState.Lit ∧
          ∃ request ∈ requests.battery, request.ChargesWhite)) ∧
      ((∀ invocation ∈ invocations, invocation.call.isLed = false) →
        ∀ file : LightFile, file.isLed = true → s.files file = files file) := by
  obtain ⟨s, ran⟩ := exec_step_total (initGlobals files) invocations
  obtain ⟨holds, leds⟩ := run_leds files succeed ran
  rw [holds.drawn] at leds
  refine ⟨s, ran, fun called => ⟨leds called, fun lit => ?_, fun on => ?_⟩,
    fun notLed file led => run_of_not_led notLed ran led⟩
  · obtain ⟨rgb, off⟩ := LedRequests.lit_notification lit
    refine ⟨rgb, (leds called .charge rfl).trans ?_⟩
    rw [off]
    rfl
  · refine LedRequests.charge_iff.mp ?_
    rw [leds called .charge rfl] at on
    by_contra off
    rw [Bool.not_eq_true] at off
    rw [off] at on
    have zero : (0 : Int) = 1 := Option.some.inj on
    exact absurd zero (by decide)

/-- A notification that was lit and taken back, and a battery that charges with the
mode `white`. -/
def chargingWhite : List Invocation :=
  [.battery ⟨0xffff00, 0, 0⟩ none, .notification ⟨0x0000ff, 1, 0⟩,
    .battery ⟨0xffff00, 0, 0⟩ (some "white"), .notification .zero].map (⟨·, .success⟩)

/-- A blinking blue notification after it. -/
def thenNotified : List Invocation :=
  chargingWhite ++ [⟨.notification ⟨0xff0000ff, 1, 0⟩, .success⟩]

/-- The charge LED is on in the end, and the RGB LED dark; with the notification it is
the other way round. -/
theorem chargingWhite_leds :
    (∃ s, exec Lights.step (initGlobals fun _ => none) chargingWhite = some s ∧
      s.files .charge = some 1 ∧ s.files .red = some 0 ∧ s.files .redBlink = some 0) ∧
    ∃ s, exec Lights.step (initGlobals fun _ => none) thenNotified = some s ∧
      s.files .charge = some 0 ∧ s.files .blue = some 255 ∧ s.files .redBlink = some 255 := by
  have charging : ∀ invocation ∈ chargingWhite, invocation.call.isLed = true →
      invocation.outcome.LedsSucceed := by
    intro invocation member _
    obtain ⟨_, _, rfl⟩ := List.mem_map.mp member
    exact ⟨rfl, rfl, rfl, rfl, rfl, rfl⟩
  have notified : ∀ invocation ∈ thenNotified, invocation.call.isLed = true →
      invocation.outcome.LedsSucceed := by
    intro invocation member isLed
    rcases List.mem_append.mp member with earlier | last
    · exact charging invocation earlier isLed
    · rw [List.mem_singleton.mp last]
      exact ⟨rfl, rfl, rfl, rfl, rfl, rfl⟩
  constructor
  · obtain ⟨s, ran, drawn, _⟩ := led_arbitration (fun _ => none) charging
    obtain ⟨leds, _⟩ := drawn ⟨_, List.mem_cons_self, rfl⟩
    exact ⟨s, ran, (leds .charge rfl).trans (by decide), (leds .red rfl).trans (by decide),
      (leds .redBlink rfl).trans (by decide)⟩
  · obtain ⟨s, ran, drawn, _⟩ := led_arbitration (fun _ => none) notified
    obtain ⟨leds, lit, _⟩ := drawn ⟨_, List.mem_cons_self, rfl⟩
    exact ⟨s, ran, (lit (by decide)).2, (leds .blue rfl).trans (by decide),
      (leds .redBlink rfl).trans (by decide)⟩

end Jordan.Liblights
