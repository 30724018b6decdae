import Jordan.Library.FixedPoint
import Mathlib.Logic.Function.Basic

/-! # The parameters of the framework

`CameraParameters` is a class of the camera framework, whose code is not in the
repository. The wrapper is modelled for any functions in its place, and its theorems rest
on what the framework documents of them: a value that is set is got, and a number that is
set is read back (`Jordan.Libcamera.LawfulCameraParameters`).
-/

namespace Jordan.Libcamera

open FixedPoint

/-- The text of a parameter. -/
abbrev Text := List Char

/-- The keys that the wrapper uses, and the others. -/
inductive Key where
  | camMode | previewSize | previewFrameRate | sceneMode | focusMode | flashMode
  | exposureCompensation | motExposureOffset | maxExposureCompensation
  | minExposureCompensation | exposureCompensationStep | maxZoom | zoomRatios
  | other (name : Text)
deriving DecidableEq, Repr

/-- `%d` -/
def printInt (n : ℤ) : Text := print 0 n

/-- The functions of `CameraParameters` that the wrapper calls. `setInt` is `set` of an
integer. -/
class CameraParameters (Parameters : Type) where
  get : Parameters → Key → Option Text
  set : Parameters → Key → Text → Parameters
  setInt : Parameters → Key → ℤ → Parameters
  remove : Parameters → Key → Parameters
  getInt : Parameters → Key → ℤ
  getFloat : Parameters → Key → ℚ
  getPreviewSize : Parameters → ℤ × ℤ
  setPreviewFrameRate : Parameters → ℤ → Parameters

namespace CameraParameters

variable {Parameters : Type} [CameraParameters Parameters]

/-- The parameters have the same values. -/
def Same (pars other : Parameters) : Prop := ∀ key, get other key = get pars key

end CameraParameters

open CameraParameters in
/-- What the framework documents: each key has one value, a number is set as its decimal
text and read from one, and the preview size is the value of its key. -/
class LawfulCameraParameters (Parameters : Type) [CameraParameters Parameters] : Prop where
  get_set : ∀ (pars : Parameters) (key other : Key) (value : Text),
    get (set pars key value) other = if other = key then some value else get pars other
  get_setInt : ∀ (pars : Parameters) (key other : Key) (value : ℤ),
    get (setInt pars key value) other =
      if other = key then some (printInt value) else get pars other
  get_remove : ∀ (pars : Parameters) (key other : Key),
    get (remove pars key) other = if other = key then none else get pars other
  get_setPreviewFrameRate : ∀ (pars : Parameters) (fps : ℤ) (other : Key),
    get (setPreviewFrameRate pars fps) other =
      if other = .previewFrameRate then some (printInt fps) else get pars other
  getInt_printInt : ∀ (pars : Parameters) (key : Key) (value : ℤ),
    -2 ^ 31 ≤ value → value < 2 ^ 31 → get pars key = some (printInt value) →
      getInt pars key = value
  getFloat_print : ∀ (pars : Parameters) (key : Key) (places : ℕ) (value : ℚ),
    get pars key = some (print places value) →
      getFloat pars key = (roundAway (value * 10 ^ places) : ℚ) / 10 ^ places
  getPreviewSize_congr : ∀ pars other : Parameters,
    get other .previewSize = get pars .previewSize → getPreviewSize other = getPreviewSize pars

/-! ## Numbers -/

theorem parse_printInt (n : ℤ) : parse (printInt n) = n := by
  rw [printInt, parse_print, pow_zero, mul_one, div_one, roundAway_intCast]

/-- Integers have different texts. -/
theorem printInt_injective : Function.Injective printInt := by
  intro first second same
  have value := congrArg parse same
  rw [parse_printInt, parse_printInt] at value
  exact Int.cast_injective value

open CameraParameters in
/-- The text of an integer is read as the integer. -/
theorem getFloat_printInt {Parameters : Type} [CameraParameters Parameters]
    [LawfulCameraParameters Parameters] {pars : Parameters} {key : Key} {n : ℤ}
    (value : get pars key = some (printInt n)) : getFloat pars key = n := by
  rw [LawfulCameraParameters.getFloat_print pars key 0 n value, pow_zero, mul_one, div_one,
    roundAway_intCast]

/-! ## A framework -/

/-- Parameters that are their values. -/
def KeyValues := Key → Option Text

namespace KeyValues

/-- `strtol`, of decimal text -/
def strtol : Text → ℤ
  | '-' :: rest => -(Nat.ofDigitChars 10 (rest.takeWhile Char.isDigit) 0 : ℕ)
  | text => (Nat.ofDigitChars 10 (text.takeWhile Char.isDigit) 0 : ℕ)

/-- -1 if the value is not present, 0 on parse failure -/
def getInt : Option Text → ℤ
  | some text => strtol text
  | none => -1

/-- -1 for a parameter that is missing -/
def getFloat : Option Text → ℚ
  | some text => parse text
  | none => -1

/-- A width and a height with an `x` between them. -/
def getPreviewSize : Option Text → ℤ × ℤ
  | some text =>
      match text.dropWhile Char.isDigit with
      | 'x' :: height => (strtol text, strtol height)
      | _ => (-1, -1)
  | none => (-1, -1)

instance : CameraParameters KeyValues where
  get pars key := pars key
  set pars key value := Function.update pars key (some value)
  setInt pars key value := Function.update pars key (some (printInt value))
  remove pars key := Function.update pars key none
  getInt pars key := getInt (pars key)
  getFloat pars key := getFloat (pars key)
  getPreviewSize pars := getPreviewSize (pars .previewSize)
  setPreviewFrameRate pars fps := Function.update pars .previewFrameRate (some (printInt fps))

/-- Digits are read as their number. -/
theorem strtol_toDigits (n : ℕ) : strtol (Nat.toDigits 10 n) = n := by
  have digits := isDigit_of_mem_toDigits (n := n)
  have value : Nat.ofDigitChars 10 ((Nat.toDigits 10 n).takeWhile Char.isDigit) 0 = n := by
    rw [List.takeWhile_eq_self_iff.mpr digits, Nat.ofDigitChars_ten_toDigits]
  unfold strtol
  split
  next rest minus =>
    have isDigit := digits '-' (minus ▸ List.mem_cons_self)
    exact absurd isDigit (by decide)
  next => exact congrArg Nat.cast value

/-- The text of an integer is its digits, with a sign. -/
theorem printInt_eq (n : ℤ) :
    printInt n = (if n < 0 then ['-'] else []) ++ Nat.toDigits 10 n.natAbs := by
  have sign : (n : ℚ) < 0 ↔ n < 0 := Int.cast_lt_zero
  simp only [printInt, print, sign, pow_zero, mul_one, roundAway_intCast, Nat.div_one, ↓reduceIte,
    List.append_nil]

theorem strtol_printInt (n : ℤ) : strtol (printInt n) = n := by
  rw [printInt_eq]
  by_cases negative : n < 0
  · rw [if_pos negative]
    have digits := isDigit_of_mem_toDigits (n := n.natAbs)
    have value : Nat.ofDigitChars 10 ((Nat.toDigits 10 n.natAbs).takeWhile Char.isDigit) 0 =
        n.natAbs := by
      rw [List.takeWhile_eq_self_iff.mpr digits, Nat.ofDigitChars_ten_toDigits]
    show -((Nat.ofDigitChars 10 ((Nat.toDigits 10 n.natAbs).takeWhile Char.isDigit) 0 : ℕ) : ℤ) = n
    rw [value]
    omega
  · rw [if_neg negative, List.nil_append, strtol_toDigits]
    omega

instance : LawfulCameraParameters KeyValues where
  get_set pars key other value := Function.update_apply pars key (some value) other
  get_setInt pars key other value := Function.update_apply pars key (some (printInt value)) other
  get_remove pars key other := Function.update_apply pars key none other
  get_setPreviewFrameRate pars fps other :=
    Function.update_apply pars .previewFrameRate (some (printInt fps)) other
  getInt_printInt pars key value _ _ present := by
    show getInt (pars key) = value
    rw [show pars key = some (printInt value) from present]
    exact strtol_printInt value
  getFloat_print pars key places value present := by
    show getFloat (pars key) = _
    rw [show pars key = some (print places value) from present]
    exact parse_print places value
  getPreviewSize_congr _ _ same := congrArg getPreviewSize same

end KeyValues

end Jordan.Libcamera
