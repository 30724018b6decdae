import Jordan.Libcamera.CameraParameters
import Mathlib.Tactic.FieldSimp

/-! # The exposure compensation

Applications set the exposure compensation in thirds of a stop, and the library takes
the stops as text. `setParameters` prints no decimals if the number of stops is less
than 0.05 above an integer, which it also is if it is a third below: such a value comes
back as the next one (`Jordan.Libcamera.exposure_roundTrip_iff`). The arithmetic is that
of exact numbers.
-/

namespace Jordan.Libcamera

open CameraParameters FixedPoint

/-- `snprintf` into a buffer of a size -/
def snprintf (size : ℕ) (text : Text) : Text := text.take (size - 1)

/-- The number of stops as `setParameters` prints it. -/
def formatExposure (exposure : ℚ) : Text :=
  let even := exposure - roundAway exposure < 5 / 100
  print (if even then 0 else 2) exposure

section

variable {Parameters : Type} [CameraParameters Parameters]

/-- `setParameters`, what it does to the exposure -/
def setExposure (pars : Parameters) : Parameters :=
  -- from the range -9...9 to -3...3
  let exposure := getFloat pars .exposureCompensation / 3
  let pars := set pars .motExposureOffset (snprintf 10 (formatExposure exposure))
  -- kill off the original setting
  set pars .exposureCompensation ['0']

/-- `getParameters`, what it does to the exposure -/
def getExposure (ret : Parameters) : Parameters :=
  let exposure := getFloat ret .motExposureOffset
  let exposureParam := roundAway (exposure * 3)
  setInt ret .exposureCompensation exposureParam

end

/-! ## The three residues -/

/-- A third below an integer counts as even, too. -/
theorem formatExposure_of_even {exposure : ℚ} (n : ℤ) (above : (n : ℚ) - 1 / 2 < exposure)
    (below : exposure < n + 5 / 100) : parse (formatExposure exposure) = n := by
  have rounded : roundAway exposure = n := roundAway_eq above (by linarith)
  have even : exposure - n < 5 / 100 := by linarith
  simp only [formatExposure, rounded, even, ↓reduceIte]
  rw [parse_print, pow_zero, mul_one, div_one, rounded]

/-- A third above an integer is printed with two decimals. -/
theorem formatExposure_third (n : ℤ) :
    parse (formatExposure (n + 1 / 3)) = n + 33 / 100 := by
  have rounded : roundAway ((n : ℚ) + 1 / 3) = n := roundAway_eq (by linarith) (by linarith)
  have odd : ¬ (n : ℚ) + 1 / 3 - n < 5 / 100 := by linarith
  have hundredths : roundAway (((n : ℚ) + 1 / 3) * 10 ^ 2) = 100 * n + 33 := by
    refine roundAway_eq ?_ ?_ <;> push_cast <;> linarith
  simp only [formatExposure, rounded, odd, ↓reduceIte]
  rw [parse_print, hundredths]
  push_cast
  ring

/-- What is reported of a value. -/
theorem reported_eq (e : ℤ) :
    roundAway (parse (formatExposure ((e : ℚ) / 3)) * 3) = if e % 3 = 2 then e + 1 else e := by
  have parts : e = 3 * (e / 3) + e % 3 := (Int.mul_ediv_add_emod e 3).symm
  have residues : e % 3 = 0 ∨ e % 3 = 1 ∨ e % 3 = 2 := by omega
  generalize e / 3 = n at parts
  rcases residues with zero | one | two
  · have stops : (e : ℚ) / 3 = n := by
      rw [parts, zero]
      push_cast
      ring
    have value : parse (formatExposure ((e : ℚ) / 3)) = n :=
      formatExposure_of_even n (by linarith) (by linarith)
    rw [value, if_neg (by omega)]
    exact roundAway_eq (by linarith) (by linarith)
  · have stops : (e : ℚ) / 3 = n + 1 / 3 := by
      rw [parts, one]
      push_cast
      ring
    rw [stops, formatExposure_third, if_neg (by omega)]
    exact roundAway_eq (by linarith) (by linarith)
  · have stops : (e : ℚ) / 3 = n + 2 / 3 := by
      rw [parts, two]
      push_cast
      ring
    have below : (((n + 1 : ℤ) : ℚ)) = n + 1 := by push_cast; rfl
    have value : parse (formatExposure ((e : ℚ) / 3)) = ((n + 1 : ℤ) : ℚ) :=
      formatExposure_of_even (n + 1) (by linarith) (by linarith)
    rw [value, if_pos two, below]
    refine roundAway_eq ?_ ?_
    · push_cast
      linarith
    · push_cast
      linarith

/-! ## Setting and getting -/

section

variable {Parameters : Type} [CameraParameters Parameters] [LawfulCameraParameters Parameters]
  {pars : Parameters} {e : ℤ}

/-- The values after the exposure is set. -/
theorem get_setExposure (pars : Parameters) (key : Key) :
    get (setExposure pars) key = if key = .exposureCompensation then some ['0']
      else if key = .motExposureOffset then
        some (snprintf 10 (formatExposure (getFloat pars .exposureCompensation / 3)))
      else get pars key := by
  simp only [setExposure, LawfulCameraParameters.get_set]

/-- The values after the exposure is got. -/
theorem get_getExposure (pars : Parameters) (key : Key) :
    get (getExposure pars) key = if key = .exposureCompensation then
      some (printInt (roundAway (getFloat pars .motExposureOffset * 3))) else get pars key :=
  LawfulCameraParameters.get_setInt ..

/-- A text of stops that fits the buffer is read as the number it shows. -/
theorem getFloat_offset (exposure : ℚ) (fits : (formatExposure exposure).length < 10)
    (offset : get pars .motExposureOffset = some (snprintf 10 (formatExposure exposure))) :
    getFloat pars .motExposureOffset = parse (formatExposure exposure) := by
  have whole : snprintf 10 (formatExposure exposure) = formatExposure exposure :=
    List.take_of_length_le (Nat.le_of_lt_succ fits)
  rw [whole] at offset
  unfold formatExposure at offset ⊢
  rw [LawfulCameraParameters.getFloat_print pars _ _ _ offset, parse_print]

/-- What is reported for the offset of a compensation. -/
theorem get_reported (fits : (formatExposure ((e : ℚ) / 3)).length < 10)
    (offset : get pars .motExposureOffset = some (snprintf 10 (formatExposure ((e : ℚ) / 3)))) :
    get (getExposure pars) .exposureCompensation =
      some (printInt (if e % 3 = 2 then e + 1 else e)) := by
  rw [get_getExposure, if_pos rfl, getFloat_offset _ fits offset, reported_eq]

/-- **The compensation is reported as it was set exactly when it is not a third below a
full stop**, if its text fits the buffer and the library keeps the text. -/
theorem exposure_roundTrip_iff {moto : Parameters → Parameters}
    (keeps : ∀ pars, get (moto pars) .motExposureOffset = get pars .motExposureOffset)
    (requested : get pars .exposureCompensation = some (printInt e))
    (fits : (formatExposure ((e : ℚ) / 3)).length < 10) :
    get (getExposure (moto (setExposure pars))) .exposureCompensation = some (printInt e) ↔
      e % 3 ≠ 2 := by
  have offset : get (moto (setExposure pars)) .motExposureOffset =
      some (snprintf 10 (formatExposure ((e : ℚ) / 3))) := by
    rw [keeps, get_setExposure, if_neg (by decide), if_pos rfl, getFloat_printInt requested]
  rw [get_reported fits offset, Option.some_inj, printInt_injective.eq_iff]
  split_ifs with two
  · exact iff_of_false (by omega) (not_not.mpr two)
  · exact iff_of_true rfl two

end

/-- The library keeps the parameters. -/
def keepAll (pars : KeyValues) : KeyValues := pars

/-- An exposure compensation, and nothing else. -/
def compensated (e : ℤ) : KeyValues := fun key =>
  if key = .exposureCompensation then some (printInt e) else none

/-- A compensation of -2 is printed as "-0.67". -/
theorem exposure_minusTwo :
    get (getExposure (keepAll (setExposure (compensated (-2))))) .exposureCompensation =
      some (printInt (-2)) :=
  (exposure_roundTrip_iff (fun _ => rfl) rfl (by decide +kernel)).mpr (by decide)

/-- A compensation of 2 is printed as "1" and reported as 3. -/
theorem exposure_two :
    (formatExposure (2 / 3)).length < 10 ∧
      get (getExposure (keepAll (setExposure (compensated 2)))) .exposureCompensation =
        some (printInt 3) ∧
      get (getExposure (keepAll (setExposure (compensated 2)))) .exposureCompensation ≠
        some (printInt 2) :=
  ⟨by decide +kernel, by decide +kernel, by decide +kernel⟩

end Jordan.Libcamera
