import Jordan.Libcamera.ExposureCompensation

/-! # The parameters of the camera

`setParameters` rewrites the parameters of an application for the vendor's library, and
`getParameters` rewrites those of the library for the application. An application that
changes nothing and sets what it got keeps everything it is told, unless the
compensation is a third below zero, whose text "-0" becomes "0"
(`Jordan.Libcamera.JordanCameraWrapper.settled_iff`).
-/

namespace Jordan.Libcamera

open CameraParameters FixedPoint

/-! ## Texts -/

def textAuto : Text := ['a', 'u', 't', 'o']
def textOff : Text := ['o', 'f', 'f']
def textTorch : Text := ['t', 'o', 'r', 'c', 'h']
def textPortrait : Text := ['p', 'o', 'r', 't', 'r', 'a', 'i', 't']
def textNightPortrait : Text := ['n', 'i', 'g', 'h', 't', '-'] ++ textPortrait

/-- The zoom ratios that work with the SOC camera. -/
def socZoomRatios : Text :=
  printInt 100 ++ ',' :: printInt 200 ++ ',' :: printInt 300 ++ ',' :: printInt 400

/-- `0.3333333333333` -/
def compensationStep : Text := ['0', '.'] ++ List.replicate 13 '3'

/-- The text of a flag. -/
def flagText (flag : Bool) : Text := if flag then ['1'] else ['0']

inductive CameraType where
  | camSoc | camBayer
deriving DecidableEq, Repr

/-- What the wrapper keeps of the parameters. -/
structure JordanCameraWrapper where
  mCameraType : CameraType
  mVideoMode : Bool
  mFlashMode : Text
deriving DecidableEq, Repr

namespace JordanCameraWrapper

variable {Parameters : Type} [CameraParameters Parameters]

/-- The frame rate, for a preview that is wide, and for videos of the other camera. -/
def fixFrameRate (mCameraType : CameraType) (mVideoMode : Bool) (pars : Parameters) :
    Parameters :=
  let isWide := getPreviewSize pars = (848, 480)
  let pars := if isWide ∧ ¬ mVideoMode then setPreviewFrameRate pars 24 else pars
  if mCameraType = .camBayer ∧ mVideoMode then setPreviewFrameRate pars 24 else pars

/-- The flash mode of a scene. -/
def sceneFlashMode (sceneMode : Text) : Text :=
  if sceneMode = textPortrait ∨ sceneMode = textNightPortrait then textAuto else textOff

/-- The focus and the flash mode, if a scene mode is set. -/
def fixSceneMode (sceneMode : Text) (pars : Parameters) : Parameters :=
  if sceneMode ≠ textAuto then
    let pars := set pars .focusMode textAuto
    set pars .flashMode (sceneFlashMode sceneMode)
  else pars

/-- `setParameters`: the wrapper after it, and the parameters the library gets. There is no
result if a mode is missing, of which a `String8` is made. -/
def setParameters (wrapper : JordanCameraWrapper) (params : Parameters) :
    Option (JordanCameraWrapper × Parameters) := do
  let mVideoMode := decide (0 < getInt params .camMode)
  let pars := fixFrameRate wrapper.mCameraType mVideoMode (remove params .camMode)
  let sceneMode ← get pars .sceneMode
  let pars := fixSceneMode sceneMode pars
  let mFlashMode ← get pars .flashMode
  some ({ wrapper with mVideoMode, mFlashMode }, setExposure pars)

/-- The zoom, which is limited for the SOC camera. -/
def limitZoom (mCameraType : CameraType) (ret : Parameters) : Parameters :=
  if mCameraType = .camSoc then
    let ret := set ret .maxZoom ['3']
    set ret .zoomRatios socZoomRatios
  else ret

/-- `getParameters`, of those that the library reports -/
def getParameters (wrapper : JordanCameraWrapper) (ret : Parameters) : Parameters :=
  let ret := getExposure (limitZoom wrapper.mCameraType ret)
  let ret := set ret .maxExposureCompensation ['9']
  let ret := set ret .minExposureCompensation ['-', '9']
  let ret := set ret .exposureCompensationStep compensationStep
  set ret .camMode (flagText wrapper.mVideoMode)

/-- The frame rate is fixed. -/
def Paced (mCameraType : CameraType) (mVideoMode : Bool) (pars : Parameters) : Prop :=
  getPreviewSize pars = (848, 480) ∧ ¬ mVideoMode ∨ mCameraType = .camBayer ∧ mVideoMode

instance (mCameraType : CameraType) (mVideoMode : Bool) (pars : Parameters) :
    Decidable (Paced mCameraType mVideoMode pars) :=
  inferInstanceAs (Decidable (_ ∨ _))

theorem fixFrameRate_eq (mCameraType : CameraType) (mVideoMode : Bool) (pars : Parameters) :
    fixFrameRate mCameraType mVideoMode pars =
      if Paced mCameraType mVideoMode pars then setPreviewFrameRate pars 24 else pars := by
  unfold fixFrameRate Paced
  cases mVideoMode with
  | false => simp
  | true => simp

variable {wrapper next : JordanCameraWrapper} {params handed : Parameters}

/-- What `setParameters` does, when it does not fail. -/
theorem setParameters_eq_some (accepted : wrapper.setParameters params = some (next, handed)) :
    let pars := fixFrameRate wrapper.mCameraType (decide (0 < getInt params .camMode))
      (remove params .camMode)
    ∃ sceneMode, get pars .sceneMode = some sceneMode ∧
      get (fixSceneMode sceneMode pars) .flashMode = some next.mFlashMode ∧
      next.mCameraType = wrapper.mCameraType ∧
      next.mVideoMode = decide (0 < getInt params .camMode) ∧
      handed = setExposure (fixSceneMode sceneMode pars) := by
  simp only [setParameters, Option.bind_eq_bind, Option.bind_eq_some_iff] at accepted
  obtain ⟨sceneMode, scene, flashMode, flash, result⟩ := accepted
  rw [Option.some_inj, Prod.mk.injEq] at result
  obtain ⟨rfl, rfl⟩ := result
  exact ⟨sceneMode, scene, flash, rfl, rfl, rfl⟩

variable [LawfulCameraParameters Parameters]

/-! ## What the library gets -/

/-- The values after the frame rate is fixed. -/
theorem get_fixFrameRate (mCameraType : CameraType) (mVideoMode : Bool) (pars : Parameters)
    (key : Key) :
    get (fixFrameRate mCameraType mVideoMode pars) key =
      if Paced mCameraType mVideoMode pars ∧ key = .previewFrameRate then some (printInt 24)
      else get pars key := by
  rw [fixFrameRate_eq]
  by_cases paced : Paced mCameraType mVideoMode pars
  · rw [if_pos paced, LawfulCameraParameters.get_setPreviewFrameRate]
    simp only [paced, true_and]
  · rw [if_neg paced]
    simp only [paced, false_and, ↓reduceIte]

/-- The values after the modes of a scene are set. -/
theorem get_fixSceneMode (sceneMode : Text) (pars : Parameters) (key : Key) :
    get (fixSceneMode sceneMode pars) key =
      if sceneMode ≠ textAuto ∧ key = .flashMode then some (sceneFlashMode sceneMode)
      else if sceneMode ≠ textAuto ∧ key = .focusMode then some textAuto
      else get pars key := by
  unfold fixSceneMode
  by_cases chosen : sceneMode ≠ textAuto
  · rw [if_pos chosen, LawfulCameraParameters.get_set, LawfulCameraParameters.get_set]
    simp only [chosen, ne_eq, not_false_eq_true, true_and]
  · rw [if_neg chosen]
    simp only [chosen, false_and, ↓reduceIte]

/-- Parameters in which there is nothing for the wrapper to fix. -/
structure Stable (wrapper : JordanCameraWrapper) (pars : Parameters) : Prop where
  rate : Paced wrapper.mCameraType wrapper.mVideoMode pars →
    get pars .previewFrameRate = some (printInt 24)
  scene : ∃ sceneMode, get pars .sceneMode = some sceneMode ∧ (sceneMode ≠ textAuto →
    get pars .focusMode = some textAuto ∧ get pars .flashMode = some (sceneFlashMode sceneMode))
  flash : get pars .flashMode = some wrapper.mFlashMode

/-- Only five keys matter for it. -/
theorem Stable.congr {pars other : Parameters} (stable : Stable wrapper pars)
    (same : ∀ key, key = .previewSize ∨ key = .previewFrameRate ∨ key = .sceneMode ∨
      key = .focusMode ∨ key = .flashMode → get other key = get pars key) :
    Stable wrapper other := by
  have size := LawfulCameraParameters.getPreviewSize_congr pars other (same _ (by decide))
  have rate := same .previewFrameRate (by decide)
  have scene := same .sceneMode (by decide)
  have focus := same .focusMode (by decide)
  have flash := same .flashMode (by decide)
  refine ⟨fun paced => ?_, ?_, flash.trans stable.flash⟩
  · unfold Paced at paced
    rw [size] at paced
    exact rate.trans (stable.rate paced)
  · rw [scene, focus, flash]
    exact stable.scene

/-- There is nothing to fix in what was fixed. -/
theorem stable_of_fixed {pars : Parameters} {sceneMode : Text}
    (scene : get pars .sceneMode = some sceneMode)
    (flash : get (fixSceneMode sceneMode (fixFrameRate wrapper.mCameraType wrapper.mVideoMode pars))
      .flashMode = some wrapper.mFlashMode) :
    Stable wrapper
      (fixSceneMode sceneMode (fixFrameRate wrapper.mCameraType wrapper.mVideoMode pars)) := by
  refine ⟨fun paced => ?_, ⟨sceneMode, ?_, fun chosen => ?_⟩, flash⟩
  · have size : getPreviewSize (fixSceneMode sceneMode
        (fixFrameRate wrapper.mCameraType wrapper.mVideoMode pars)) = getPreviewSize pars := by
      refine LawfulCameraParameters.getPreviewSize_congr pars _ ?_
      rw [get_fixSceneMode, get_fixFrameRate]
      simp only [reduceCtorEq, and_false, ↓reduceIte]
    have paced : Paced wrapper.mCameraType wrapper.mVideoMode pars := by
      unfold Paced at paced ⊢
      rwa [size] at paced
    rw [get_fixSceneMode, get_fixFrameRate]
    simp only [paced, reduceCtorEq, and_false, and_self, ↓reduceIte]
  · rw [get_fixSceneMode, get_fixFrameRate]
    simpa only [reduceCtorEq, and_false, ↓reduceIte] using scene
  · rw [get_fixSceneMode, get_fixSceneMode]
    simp only [chosen, ne_eq, not_false_eq_true, reduceCtorEq, and_false, and_self, ↓reduceIte]

/-- There is nothing to fix in what the library got. -/
theorem stable_of_setParameters (accepted : wrapper.setParameters params = some (next, handed)) :
    Stable next handed := by
  obtain ⟨sceneMode, scene, flash, type, video, rfl⟩ := setParameters_eq_some accepted
  rw [get_fixFrameRate] at scene
  simp only [reduceCtorEq, and_false, ↓reduceIte] at scene
  rw [← video, ← type] at flash ⊢
  refine (stable_of_fixed scene flash).congr fun key used => ?_
  rw [get_setExposure]
  rcases used with rfl | rfl | rfl | rfl | rfl
  all_goals simp only [reduceCtorEq, ↓reduceIte]

/-- The offset that the library gets for a compensation. -/
theorem offset_of_setParameters {e : ℤ}
    (requested : get params .exposureCompensation = some (printInt e))
    (accepted : wrapper.setParameters params = some (next, handed)) :
    get handed .motExposureOffset = some (snprintf 10 (formatExposure ((e : ℚ) / 3))) := by
  obtain ⟨sceneMode, _, _, _, _, rfl⟩ := setParameters_eq_some accepted
  have kept : get (fixSceneMode sceneMode (fixFrameRate wrapper.mCameraType
      (decide (0 < getInt params .camMode)) (remove params .camMode))) .exposureCompensation =
        some (printInt e) := by
    rw [get_fixSceneMode, get_fixFrameRate, LawfulCameraParameters.get_remove]
    simpa only [reduceCtorEq, and_false, ↓reduceIte] using requested
  rw [get_setExposure, getFloat_printInt kept]
  simp only [reduceCtorEq, ↓reduceIte]

/-- The video mode is read off its own flag. -/
theorem videoMode_of_flagText {mVideoMode : Bool}
    (mode : get params .camMode = some (flagText mVideoMode)) :
    decide (0 < getInt params .camMode) = mVideoMode := by
  have flag : get params .camMode = some (printInt (if mVideoMode then 1 else 0)) := by
    rw [mode]
    cases mVideoMode with
    | false => exact congrArg some (by decide +kernel)
    | true => exact congrArg some (by decide +kernel)
  rw [LawfulCameraParameters.getInt_printInt params _ _ (by split <;> decide)
    (by split <;> decide) flag]
  cases mVideoMode with
  | false => decide
  | true => decide

/-- With nothing to fix, the frame rate stays, too. -/
theorem Stable.get_fixFrameRate (stable : Stable wrapper params) {key : Key}
    (noMode : key ≠ .camMode) :
    get (fixFrameRate wrapper.mCameraType wrapper.mVideoMode (remove params .camMode)) key =
      get params key := by
  have size : getPreviewSize (remove params .camMode) = getPreviewSize params := by
    refine LawfulCameraParameters.getPreviewSize_congr params _ ?_
    rw [LawfulCameraParameters.get_remove, if_neg (by decide)]
  rw [JordanCameraWrapper.get_fixFrameRate, LawfulCameraParameters.get_remove, if_neg noMode]
  split
  next paced =>
    obtain ⟨paced, rfl⟩ := paced
    unfold Paced at paced
    rw [size] at paced
    exact (stable.rate paced).symm
  next => rfl

/-- With nothing to fix, the modes of the scene stay, too. -/
theorem Stable.get_fixed (stable : Stable wrapper params) {sceneMode : Text}
    (scene : get params .sceneMode = some sceneMode) {key : Key} (noMode : key ≠ .camMode) :
    get (fixSceneMode sceneMode (fixFrameRate wrapper.mCameraType wrapper.mVideoMode
      (remove params .camMode))) key = get params key := by
  obtain ⟨_, same, set⟩ := stable.scene
  obtain rfl := Option.some.inj (scene.symm.trans same)
  rw [get_fixSceneMode, stable.get_fixFrameRate noMode]
  split
  next chosen =>
    obtain ⟨chosen, rfl⟩ := chosen
    exact (set chosen).2.symm
  next =>
    split
    next chosen =>
      obtain ⟨chosen, rfl⟩ := chosen
      exact (set chosen).1.symm
    next => rfl

/-- Only the exposure is different when nothing is to be fixed. -/
theorem setParameters_of_stable {e : ℤ} (stable : Stable wrapper params)
    (mode : get params .camMode = some (flagText wrapper.mVideoMode))
    (requested : get params .exposureCompensation = some (printInt e)) :
    ∃ again, wrapper.setParameters params = some (wrapper, again) ∧
      get again .motExposureOffset = some (snprintf 10 (formatExposure ((e : ℚ) / 3))) ∧
      ∀ key, key ≠ .motExposureOffset → key ≠ .exposureCompensation → key ≠ .camMode →
        get again key = get params key := by
  obtain ⟨sceneMode, scene, _⟩ := stable.scene
  refine ⟨setExposure (fixSceneMode sceneMode (fixFrameRate wrapper.mCameraType
    wrapper.mVideoMode (remove params .camMode))), ?_, ?_,
    fun key noOffset noCompensation noMode => ?_⟩
  · simp only [setParameters, Option.bind_eq_bind, videoMode_of_flagText mode]
    rw [stable.get_fixFrameRate (by decide), scene, Option.bind_some,
      stable.get_fixed scene (by decide), stable.flash, Option.bind_some]
  · have kept := (stable.get_fixed scene (by decide)).trans requested
    rw [get_setExposure, getFloat_printInt kept]
    simp only [reduceCtorEq, ↓reduceIte]
  · rw [get_setExposure, if_neg noCompensation, if_neg noOffset, stable.get_fixed scene noMode]

/-! ## What the application gets -/

/-- What `getParameters` reports of a value of the library, for all keys but the
compensation. -/
def reportedValue (wrapper : JordanCameraWrapper) (key : Key) (value : Option Text) :
    Option Text :=
  match key with
  | .camMode => some (flagText wrapper.mVideoMode)
  | .exposureCompensationStep => some compensationStep
  | .minExposureCompensation => some ['-', '9']
  | .maxExposureCompensation => some ['9']
  | .maxZoom => if wrapper.mCameraType = .camSoc then some ['3'] else value
  | .zoomRatios => if wrapper.mCameraType = .camSoc then some socZoomRatios else value
  | _ => value

/-- Reporting what was reported changes nothing. -/
theorem reportedValue_idem (key : Key) (value : Option Text) :
    wrapper.reportedValue key (wrapper.reportedValue key value) =
      wrapper.reportedValue key value := by
  cases key with
  | maxZoom | zoomRatios =>
      simp only [reportedValue]
      split <;> rfl
  | camMode | previewSize | previewFrameRate | sceneMode | focusMode | flashMode
  | exposureCompensation | motExposureOffset | maxExposureCompensation
  | minExposureCompensation | exposureCompensationStep | other => rfl

/-- The values after the zoom is limited. -/
theorem get_limitZoom (mCameraType : CameraType) (ret : Parameters) (key : Key) :
    get (limitZoom mCameraType ret) key =
      if mCameraType = .camSoc ∧ key = .zoomRatios then some socZoomRatios
      else if mCameraType = .camSoc ∧ key = .maxZoom then some ['3']
      else get ret key := by
  unfold limitZoom
  by_cases soc : mCameraType = .camSoc
  · rw [if_pos soc, LawfulCameraParameters.get_set, LawfulCameraParameters.get_set]
    simp only [soc, true_and]
  · rw [if_neg soc]
    simp only [soc, false_and, ↓reduceIte]

theorem get_getParameters {key : Key} (noCompensation : key ≠ .exposureCompensation) :
    get (wrapper.getParameters params) key = wrapper.reportedValue key (get params key) := by
  simp only [getParameters, LawfulCameraParameters.get_set, get_getExposure,
    if_neg noCompensation, get_limitZoom]
  cases key with
  | exposureCompensation => exact absurd rfl noCompensation
  | maxZoom | zoomRatios => simp only [reportedValue, reduceCtorEq, and_true, and_false, ↓reduceIte]
  | camMode | previewSize | previewFrameRate | sceneMode | focusMode | flashMode
  | motExposureOffset | maxExposureCompensation | minExposureCompensation
  | exposureCompensationStep | other =>
      simp only [reportedValue, reduceCtorEq, and_false, ↓reduceIte]

/-- The compensation that is reported for an offset. -/
theorem getParameters_compensation {e : ℤ} (fits : (formatExposure ((e : ℚ) / 3)).length < 10)
    (offset : get params .motExposureOffset =
      some (snprintf 10 (formatExposure ((e : ℚ) / 3)))) :
    get (wrapper.getParameters params) .exposureCompensation =
      some (printInt (if e % 3 = 2 then e + 1 else e)) := by
  have kept : get (limitZoom wrapper.mCameraType params) .motExposureOffset =
      some (snprintf 10 (formatExposure ((e : ℚ) / 3))) := by
    rw [get_limitZoom]
    simpa only [reduceCtorEq, and_false, ↓reduceIte] using offset
  simp only [getParameters, LawfulCameraParameters.get_set, reduceCtorEq, ↓reduceIte]
  exact get_reported fits kept

/-- What the application gets leaves nothing to fix, either. -/
theorem Stable.getParameters (stable : Stable wrapper params) :
    Stable wrapper (wrapper.getParameters params) := by
  refine stable.congr fun key used => ?_
  rcases used with rfl | rfl | rfl | rfl | rfl
  all_goals exact get_getParameters (by decide)

/-! ## Setting what was got -/

/-- The limits of the compensation that `getParameters` reports. -/
def InRange (e : ℤ) : Prop := -9 ≤ e ∧ e ≤ 9

theorem InRange.all (property : ℤ → Prop) (holds : ∀ n < 19, property ((n : ℕ) - 9)) {e : ℤ}
    (range : InRange e) : property e := by
  obtain ⟨low, high⟩ := range
  have shifted : (((e + 9).toNat : ℕ) : ℤ) - 9 = e := by omega
  have value := holds (e + 9).toNat (by omega)
  rwa [shifted] at value

/-- The offset for a compensation that was reported. -/
theorem formatExposure_reported {e : ℤ} (range : InRange e) :
    snprintf 10 (formatExposure (((if e % 3 = 2 then e + 1 else e : ℤ) : ℚ) / 3)) =
      snprintf 10 (formatExposure ((e : ℚ) / 3)) ↔ e ≠ -1 :=
  InRange.all (fun e => snprintf 10 (formatExposure
    (((if e % 3 = 2 then e + 1 else e : ℤ) : ℚ) / 3)) = snprintf 10 (formatExposure
      ((e : ℚ) / 3)) ↔ e ≠ -1) (by decide +kernel) range

/-- The texts of the range fit the buffer. -/
theorem length_formatExposure_lt {e : ℤ} (range : InRange e) :
    (formatExposure ((e : ℚ) / 3)).length < 10 :=
  InRange.all (fun e => (formatExposure ((e : ℚ) / 3)).length < 10) (by decide +kernel) range

/-- What is reported is in the range as well. -/
theorem InRange.reported {e : ℤ} (range : InRange e) :
    InRange (if e % 3 = 2 then e + 1 else e) := by
  obtain ⟨low, high⟩ := range
  split
  · exact ⟨by omega, by omega⟩
  · exact ⟨low, high⟩

/-- **Setting what was got.** With a library that keeps what it gets, and a compensation in
the range that is reported, an application that sets the parameters it got is not refused,
the wrapper stays as it was, and what is reported stays the same but for the offset of the
library; this one does exactly if the compensation was not -1. -/
theorem settled_iff {e : ℤ} (range : InRange e)
    (requested : get params .exposureCompensation = some (printInt e))
    (accepted : wrapper.setParameters params = some (next, handed)) :
    ∃ again, next.setParameters (next.getParameters handed) = some (next, again) ∧
      (∀ key, key ≠ .motExposureOffset →
        get (next.getParameters again) key = get (next.getParameters handed) key) ∧
      (Same (next.getParameters handed) (next.getParameters again) ↔ e ≠ -1) := by
  have stable := stable_of_setParameters accepted
  have offset := offset_of_setParameters requested accepted
  have reported : get (next.getParameters handed) .exposureCompensation =
      some (printInt (if e % 3 = 2 then e + 1 else e)) :=
    getParameters_compensation (length_formatExposure_lt range) offset
  have mode : get (next.getParameters handed) .camMode = some (flagText next.mVideoMode) :=
    get_getParameters (by decide)
  obtain ⟨again, result, offsetAgain, agree⟩ :=
    setParameters_of_stable stable.getParameters mode reported
  have alike (key : Key) (noOffset : key ≠ .motExposureOffset) :
      get (next.getParameters again) key = get (next.getParameters handed) key := by
    by_cases compensation : key = .exposureCompensation
    · have settled : ¬ (if e % 3 = 2 then e + 1 else e) % 3 = 2 := by split <;> omega
      rw [compensation, reported,
        getParameters_compensation (length_formatExposure_lt range.reported) offsetAgain,
        if_neg settled]
    · rw [get_getParameters compensation, get_getParameters compensation]
      by_cases camera : key = .camMode
      · rw [camera]
        rfl
      · rw [agree key noOffset compensation camera, get_getParameters compensation,
          reportedValue_idem]
  have offsets (pars : Parameters) :
      get (next.getParameters pars) .motExposureOffset = get pars .motExposureOffset :=
    get_getParameters (by decide)
  refine ⟨again, result, alike, ?_⟩
  rw [← formatExposure_reported range]
  constructor
  · intro same
    have texts := same .motExposureOffset
    rw [offsets, offsets, offset, offsetAgain] at texts
    exact Option.some.inj texts
  · intro texts key
    by_cases same : key = .motExposureOffset
    · rw [same, offsets, offsets, offset, offsetAgain, texts]
    · exact alike key same

/-- A picture of a scene, a third of a stop under. -/
def sportsScene : KeyValues
  | .previewSize => some (printInt 848 ++ 'x' :: printInt 480)
  | .sceneMode => some ['s', 'p', 'o', 'r', 't', 's']
  | .flashMode => some textTorch
  | .exposureCompensation => some (printInt (-1))
  | _ => none

/-- The wrapper of a camera that was opened. -/
def opened (mCameraType : CameraType) : JordanCameraWrapper := ⟨mCameraType, false, []⟩

/-- The flash is switched off, and the compensation that is set a second time has another
text. -/
theorem sportsScene_changes :
    ∃ handed, (opened .camSoc).setParameters sportsScene =
        some (⟨.camSoc, false, textOff⟩, handed) ∧
      ∃ again, JordanCameraWrapper.setParameters ⟨.camSoc, false, textOff⟩
          (JordanCameraWrapper.getParameters ⟨.camSoc, false, textOff⟩ handed) =
            some (⟨.camSoc, false, textOff⟩, again) ∧
        JordanCameraWrapper.getParameters ⟨.camSoc, false, textOff⟩ again ≠
          JordanCameraWrapper.getParameters ⟨.camSoc, false, textOff⟩ handed := by
  have wrapper : ((opened .camSoc).setParameters sportsScene).map Prod.fst =
      some ⟨.camSoc, false, textOff⟩ := by decide +kernel
  obtain ⟨⟨next, handed⟩, accepted, rfl⟩ := Option.map_eq_some_iff.mp wrapper
  obtain ⟨again, result, _, changes⟩ := settled_iff (e := -1) ⟨by decide, by decide⟩ rfl accepted
  exact ⟨handed, accepted, again, result, fun same =>
    changes.mp (fun key => congrFun same key) rfl⟩

end JordanCameraWrapper

end Jordan.Libcamera
