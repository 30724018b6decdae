import Jordan.Machine

/-! # Input events and sensor events

The events the kernel queues on a driver's descriptor, and the events the HAL
hands to its caller. Sensor values are C floating-point numbers; the drivers
only convert them, so their type and arithmetic are a parameter.
-/

namespace Jordan.Sensors

/-- The floating-point operations of the conversions. -/
class FloatArith (F : Type) where
  /-- The conversion of an integer. -/
  ofInt : Int → F
  /-- A decimal literal, as a quotient. -/
  literal : Int → Nat → F
  neg : F → F
  mul : F → F → F
  div : F → F → F
  /-- Whether the first is less than the second. -/
  less : F → F → Bool

/-- Exact arithmetic, to evaluate the model with. -/
instance : FloatArith Rat where
  ofInt value := value
  literal numerator denominator := numerator / denominator
  neg value := -value
  mul first second := first * second
  div first second := first / second
  less first second := first < second

/-- `struct input_event`. -/
structure InputEvent where
  tvSec : Int
  tvUsec : Int
  type : Nat
  code : Nat
  value : Int
deriving DecidableEq, Repr

/-- The nanoseconds of an event's `time`, by `SensorBase::timevalToNano`. -/
def InputEvent.timevalToNano (event : InputEvent) : Int :=
  event.tvSec * 1000000000 + event.tvUsec * 1000

def EV_SYN : Nat := 0x00
def EV_ABS : Nat := 0x03
def EV_LED : Nat := 0x11

def ABS_X : Nat := 0x00
def ABS_Y : Nat := 0x01
def ABS_Z : Nat := 0x02
def ABS_RX : Nat := 0x03
def ABS_RY : Nat := 0x04
def ABS_RZ : Nat := 0x05
def ABS_THROTTLE : Nat := 0x06
def ABS_RUDDER : Nat := 0x07
def ABS_WHEEL : Nat := 0x08
def ABS_BRAKE : Nat := 0x0a
def ABS_HAT0X : Nat := 0x10
def ABS_HAT0Y : Nat := 0x11
def ABS_DISTANCE : Nat := 0x19
def LED_MISC : Nat := 0x08

/-- The sensor types, which are also the sensor handles. -/
def SENSOR_TYPE_ACCELEROMETER : Int := 1
def SENSOR_TYPE_MAGNETIC_FIELD : Int := 2
def SENSOR_TYPE_ORIENTATION : Int := 3
def SENSOR_TYPE_LIGHT : Int := 5
def SENSOR_TYPE_PROXIMITY : Int := 8
def SENSOR_TYPE_AMBIENT_TEMPERATURE : Int := 13

def SENSOR_STATUS_ACCURACY_MEDIUM : Nat := 2
def SENSOR_STATUS_ACCURACY_HIGH : Nat := 3

/-- The data of a sensor event. The members of the C union overlap: `x`, `y`, `z`
are also `azimuth`, `pitch`, `roll`, and `x` is also `temperature`, `distance`
and `light`. -/
structure SensorsVec (F : Type) where
  x : F
  y : F
  z : F
  status : Nat
deriving DecidableEq, Repr

/-- `sensors_event_t`. -/
structure SensorsEvent (F : Type) where
  version : Nat
  sensor : Int
  type : Int
  timestamp : Int
  data : SensorsVec F
deriving DecidableEq, Repr

/-- `sizeof(sensors_event_t)`, the version of every event. -/
def sizeofSensorsEvent : Nat := 104

variable {F : Type} [FloatArith F]

open FloatArith

/-- `GRAVITY_EARTH`, 9.80665. -/
def GRAVITY_EARTH : F := literal 980665 100000

def KXTF9_CONVERT_A : F := div GRAVITY_EARTH (literal 1000 1)
def KXTF9_CONVERT_A_X : F := neg KXTF9_CONVERT_A
def KXTF9_CONVERT_A_Y : F := KXTF9_CONVERT_A
def KXTF9_CONVERT_A_Z : F := neg KXTF9_CONVERT_A

def AK8973_CONVERT_A : F := div GRAVITY_EARTH (literal 1000 1)
def AK8973_CONVERT_A_X : F := neg AK8973_CONVERT_A
def AK8973_CONVERT_A_Y : F := AK8973_CONVERT_A
def AK8973_CONVERT_A_Z : F := neg AK8973_CONVERT_A

def AK8973_CONVERT_M : F := div (literal 1 1) (literal 16 1)
def AK8973_CONVERT_M_X : F := AK8973_CONVERT_M
def AK8973_CONVERT_M_Y : F := neg AK8973_CONVERT_M
def AK8973_CONVERT_M_Z : F := neg AK8973_CONVERT_M

def AK8973_CONVERT_O : F := div (literal 1 1) (literal 64 1)
def AK8973_CONVERT_O_A : F := AK8973_CONVERT_O
def AK8973_CONVERT_O_P : F := AK8973_CONVERT_O
def AK8973_CONVERT_O_R : F := neg AK8973_CONVERT_O

/-- `value & AK8973_SENSOR_STATE_MASK`. -/
def sensorState (value : Int) : Nat := (BitVec.ofInt 32 value &&& 0x3#32).toNat

/-- `PROXIMITY_NEAR`, in millimetres. -/
def PROXIMITY_NEAR : Int := 30

end Jordan.Sensors
