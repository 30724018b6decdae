import Jordan.Machine
import Mathlib.Logic.Function.Basic

/-! # The lights HAL

The functions of `lights.c` and the files they write. A call is given what the
properties it reads are set to, and the outcome of every `write_int` it may make.
The files are known by what was last written to them successfully.
-/

namespace Jordan.Liblights

/-- The files that the HAL writes. -/
inductive LightFile where
  | lcd
  | als
  | buttonOn
  | buttonBright
  | red
  | redBlink
  | green
  | blue
  | charge
deriving DecidableEq, Repr

/-- The files of the LEDs. -/
def LightFile.isLed : LightFile → Bool
  | .red | .redBlink | .green | .blue | .charge => true
  | .lcd | .als | .buttonOn | .buttonBright => false

/-- What was last written to each file successfully. -/
abbrev LightFiles := LightFile → Option Int

/-- The calls of `write_int` in the source; no function makes one of them twice. -/
inductive WriteSite where
  | als
  | lcd
  | buttonOn
  | buttonBright
  | blinkOff
  | red
  | green
  | blue
  | blinkOn
  | charge
deriving DecidableEq, Repr

/-- What the calls of `write_int` return, where `none` is 0. -/
abbrev Outcome := WriteSite → Option Errno

/-- Every write succeeds. -/
def Outcome.success : Outcome := fun _ => none

/-- The fields of `struct light_state_t` that the HAL reads. -/
structure LightState where
  color : U32
  flashMode : U32
  brightnessMode : U32
deriving DecidableEq, Repr

/-- `LIGHT_FLASH_NONE` -/
def lightFlashNone : U32 := 0

/-- `BRIGHTNESS_MODE_SENSOR` -/
def brightnessModeSensor : U32 := 1

/-- The modes `AUTOMATIC` and `MANUAL_SENSOR` of the ambient light sensor. -/
def automatic : Int := 1
def manualSensor : Int := 2

namespace LightState

/-- A state after `memset` -/
def zero : LightState := ⟨0, 0, 0⟩

/-- `is_lit` -/
def isLit (state : LightState) : Bool := state.color &&& 0x00ffffff ≠ 0

def red (state : LightState) : U32 := (state.color >>> 16) &&& 0xff
def green (state : LightState) : U32 := (state.color >>> 8) &&& 0xff
def blue (state : LightState) : U32 := state.color &&& 0xff

/-- `rgb_to_brightness` -/
def rgbToBrightness (state : LightState) : U32 :=
  (77 * state.red + 150 * state.green + 29 * state.blue) >>> 8

/-- The brightness of the buttons, scaled by what `atoi` makes of
`persist.sys.button_brightness` when that is set. The arithmetic is that of `int`. -/
def buttonBrightness (state : LightState) (property : Option U32) : Int :=
  let brightness := state.rgbToBrightness
  let scaled : U32 :=
    if 0 < brightness.toInt then
      match property with
      | some scale =>
          if scale = 0 then 0
          else if scale ≠ 100 then (brightness * scale + 50).sdiv 100
          else brightness
      | none => brightness
    else brightness
  scaled.toInt

end LightState

/-- The globals of `lights.c`, and the files. -/
structure Lights where
  gBattery : LightState
  gNotification : LightState
  gChargeLedActive : Bool
  gLastButtonBrightness : Int
  files : LightFiles

/-- `init_globals` -/
def initGlobals (files : LightFiles) : Lights where
  gBattery := .zero
  gNotification := .zero
  gChargeLedActive := false
  gLastButtonBrightness := -1
  files := files

/-- `write_int`: a write that fails leaves the file as it was. -/
def writeInt (files : LightFiles) (file : LightFile) (value : Int) (error : Option Errno) :
    LightFiles :=
  if error = none then Function.update files file (some value) else files

section WriteInt

variable {files : LightFiles} {file other : LightFile} {value : Int} {error : Option Errno}

@[simp] theorem writeInt_none : writeInt files file value none file = some value := by
  simp only [writeInt, ↓reduceIte, Function.update_self]

@[simp] theorem writeInt_some (errno : Errno) :
    writeInt files file value (some errno) = files := by
  simp only [writeInt, reduceCtorEq, ↓reduceIte]

/-- A write leaves the other files. -/
theorem writeInt_of_ne (different : other ≠ file) :
    writeInt files file value error other = files other := by
  unfold writeInt
  split_ifs
  · exact Function.update_of_ne different ..
  · rfl

end WriteInt

/-! ## The functions -/

namespace Lights

variable (s : Lights) (outcome : Outcome)

/-- `set_light_backlight` -/
def setLightBacklight (state : LightState) : Option Errno × Lights :=
  let alsMode := if state.brightnessMode = brightnessModeSensor then automatic else manualSensor
  let files := writeInt s.files .als alsMode (outcome .als)
  match outcome .als with
  | some errno => (some errno, { s with files := files })
  | none =>
      (outcome .lcd, { s with
        files := writeInt files .lcd state.rgbToBrightness.toInt (outcome .lcd) })

/-- The on/off file of the buttons is written. -/
def switches (brightness : Int) : Prop :=
  s.gLastButtonBrightness < 0 ∨ s.gLastButtonBrightness = 0 ∧ brightness > 0 ∨
    s.gLastButtonBrightness > 0 ∧ brightness = 0

instance (brightness : Int) : Decidable (s.switches brightness) :=
  inferInstanceAs (Decidable (_ ∨ _ ∨ _))

/-- The brightness file is written, unless the other write has failed. -/
def brightens (brightness : Int) : Prop :=
  brightness > 0 ∧ brightness ≠ s.gLastButtonBrightness

instance (brightness : Int) : Decidable (s.brightens brightness) :=
  inferInstanceAs (Decidable (_ ∧ _))

/-- The write of `set_light_buttons` to the on/off file. -/
def switchButtons (brightness : Int) : Option Errno × LightFiles :=
  if s.switches brightness then
    (outcome .buttonOn,
      writeInt s.files .buttonOn (if brightness ≠ 0 then 1 else 0) (outcome .buttonOn))
  else (none, s.files)

/-- `set_light_buttons`, with the scaled brightness. -/
def setLightButtons (brightness : Int) : Option Errno × Lights :=
  let (err, files) := s.switchButtons outcome brightness
  let (err, files) : Option Errno × LightFiles :=
    if err = none ∧ s.brightens brightness then
      (outcome .buttonBright, writeInt files .buttonBright brightness (outcome .buttonBright))
    else (err, files)
  (err, { s with gLastButtonBrightness := brightness, files := files })

/-- `set_light_locked` -/
def setLightLocked (files : LightFiles) (state : LightState) : Option Errno × LightFiles :=
  -- ensure blinking is off
  let files := writeInt files .redBlink 0 (outcome .blinkOff)
  let files := writeInt files .red state.red.toInt (outcome .red)
  let files := writeInt files .green state.green.toInt (outcome .green)
  let files := writeInt files .blue state.blue.toInt (outcome .blue)
  if state.flashMode ≠ lightFlashNone then
    (outcome .blinkOn, writeInt files .redBlink 255 (outcome .blinkOn))
  else (outcome .blue, files)

/-- `handle_light_locked` -/
def handleLightLocked : Option Errno × Lights :=
  let (state, showCharge) :=
    if s.gNotification.isLit then (s.gNotification, false) else (s.gBattery, s.gChargeLedActive)
  let (retval, files) := setLightLocked outcome s.files state
  (retval, { s with
    files := writeInt files .charge (if showCharge then 1 else 0) (outcome .charge) })

/-- The globals after the first half of `set_light_battery`, with what
`persist.sys.charge_led` is set to. -/
def takeBattery (state : LightState) (property : Option String) : Lights :=
  let taken := { s with gBattery := state, gChargeLedActive := false }
  if state.color &&& 0xff00 ≠ 0 then
    let prop := property.getD "rgb"
    -- not pure green: charging, use the charge LED
    let active := decide (state.color &&& 0xff0000 ≠ 0 ∧ prop = "white")
    { taken with
      gChargeLedActive := active
      gBattery := if active ∨ prop = "off" then .zero else state }
  else taken

/-- `set_light_battery` -/
def setLightBattery (state : LightState) (property : Option String) : Option Errno × Lights :=
  (none, ((s.takeBattery state property).handleLightLocked outcome).2)

/-- `set_light_notification` -/
def setLightNotification (state : LightState) : Option Errno × Lights :=
  (none, ({ s with gNotification := state }.handleLightLocked outcome).2)

/-- `set_light_attention` -/
def setLightAttention (_ : LightState) : Option Errno × Lights := (none, s)

end Lights

/-- A call of the `set_light` function of a device, with the properties it reads. -/
inductive LightCall where
  | backlight (state : LightState)
  | buttons (state : LightState) (property : Option U32)
  | battery (state : LightState) (property : Option String)
  | notification (state : LightState)
  | attention (state : LightState)
deriving DecidableEq, Repr

/-- A call and the outcome of its writes. -/
structure Invocation where
  call : LightCall
  outcome : Outcome

/-- The `set_light` functions. -/
def Lights.setLight (s : Lights) (invocation : Invocation) : Option Errno × Lights :=
  match invocation.call with
  | .backlight state => s.setLightBacklight invocation.outcome state
  | .buttons state property =>
      s.setLightButtons invocation.outcome (state.buttonBrightness property)
  | .battery state property => s.setLightBattery invocation.outcome state property
  | .notification state => s.setLightNotification invocation.outcome state
  | .attention state => s.setLightAttention state

/-- The HAL as a system whose steps are calls. -/
def Lights.step (s : Lights) (invocation : Invocation) : Option Lights :=
  some (s.setLight invocation).2

/-! ## What the functions leave alone -/

namespace Lights

variable {s : Lights} {outcome : Outcome} {file : LightFile}

/-- A write to a file of the other kind leaves a file. -/
theorem writeInt_of_isLed_ne {files : LightFiles} {other : LightFile} {value : Int}
    {error : Option Errno} (apart : file.isLed ≠ other.isLed) :
    writeInt files other value error file = files file :=
  writeInt_of_ne fun same => apart (congrArg LightFile.isLed same)

/-- Setting the lights writes to the LED files only. -/
theorem setLightLocked_of_not_led (notLed : file.isLed = false) (files : LightFiles)
    (state : LightState) : (setLightLocked outcome files state).2 file = files file := by
  have apart {led : LightFile} (isLed : led.isLed = true) : file.isLed ≠ led.isLed := by
    rw [notLed, isLed]
    exact Bool.false_ne_true
  have colors (files : LightFiles) {red green blue : Int} :
      writeInt (writeInt (writeInt (writeInt files .redBlink 0 (outcome .blinkOff)) .red red
        (outcome .red)) .green green (outcome .green)) .blue blue (outcome .blue) file =
        files file := by
    rw [writeInt_of_isLed_ne (apart rfl), writeInt_of_isLed_ne (apart rfl),
      writeInt_of_isLed_ne (apart rfl), writeInt_of_isLed_ne (apart rfl)]
  unfold setLightLocked
  split
  · exact (writeInt_of_isLed_ne (apart rfl)).trans (colors files)
  · exact colors files

/-- The LEDs are drawn without the other files and without the globals. -/
theorem handleLightLocked_of_not_led (notLed : file.isLed = false) :
    (s.handleLightLocked outcome).2.files file = s.files file := by
  have apart : file.isLed ≠ LightFile.charge.isLed := by
    rw [notLed]
    exact Bool.false_ne_true
  exact (writeInt_of_isLed_ne apart).trans (setLightLocked_of_not_led notLed ..)

end Lights

end Jordan.Liblights
