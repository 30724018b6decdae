import Jordan.Libcamera.JordanCameraWrapper
import Jordan.Library.Execution

/-! # The torch of the SOC camera

The library of the SOC camera switches the light off when it has used it as a flash, and
the wrapper switches it on again: when the flash mode changes, when a recording starts or
stops, when the camera has focused, and from a thread, one second after a picture. The
destructor switches the light off first and then cancels the thread, which may switch it on
in between; it does not exactly if the thread is not running or the flash mode is not
the torch (`Jordan.Libcamera.Camera.stays_off_iff`).
-/

namespace Jordan.Libcamera

open Execution

/-- Where `mTorchThread` is: it does not run, it waits, or it is behind its check of
`exitPending`. -/
inductive ThreadLoc where
  | stopped | waiting | toggling
deriving DecidableEq, Repr

/-- How far the destructor is: not called, the light is off, `requestExitAndWait` is called,
all is done. -/
inductive Life where
  | used | switchedOff | exiting | destroyed
deriving DecidableEq, Repr

/-- The wrapper with its thread, and the light. -/
structure Camera where
  wrapper : JordanCameraWrapper
  light : Bool
  thread : ThreadLoc
  exitPending : Bool
  /-- A callback of the library waits in `scheduleTorch` for the thread to end. -/
  scheduling : Bool
  life : Life

namespace Camera

variable {Parameters : Type} [CameraParameters Parameters]

/-- The wrapper of a SOC camera -/
def created : Camera :=
  ⟨JordanCameraWrapper.opened .camSoc, false, .stopped, false, false, .used⟩

/-- `setSocTorchMode`, when the file of the light can be written -/
def setSocTorchMode (camera : Camera) (enable : Bool) : Camera := { camera with light := enable }

/-- The torch is the flash mode. -/
def Torch (camera : Camera) : Prop := camera.wrapper.mFlashMode = textTorch

instance (camera : Camera) : Decidable camera.Torch :=
  inferInstanceAs (Decidable (_ = _))

/-- `toggleTorchIfNeeded` -/
def toggleTorchIfNeeded (camera : Camera) : Camera :=
  if camera.wrapper.mCameraType = .camSoc then camera.setSocTorchMode (decide camera.Torch)
  else camera

/-- `setParameters`, with the light -/
def setParameters (camera : Camera) (params : Parameters) : Option Camera := do
  let (wrapper, _) ← camera.wrapper.setParameters params
  let oldFlashMode := camera.wrapper.mFlashMode
  let camera := { camera with wrapper }
  some (if oldFlashMode ≠ wrapper.mFlashMode then camera.toggleTorchIfNeeded else camera)

/-- `threadLoop`, up to its check. The wait may end early: `cancelAndWait` signals before it
requests the exit. -/
def wake (camera : Camera) : Camera :=
  { camera with thread := if camera.exitPending then .stopped else .toggling }

/-- What happens. The library calls back, and changes the light, while the camera is used. -/
inductive Action (Parameters : Type) where
  | setParameters (params : Parameters)
  /-- `startRecording`, `stopRecording`, or a notification that the camera has focused -/
  | toggle
  /-- The library changes the light. -/
  | flash (lit : Bool)
  /-- The data of a picture: `scheduleTorch`, up to its wait -/
  | picture
  /-- The wait of `scheduleTorch` ends, and the thread runs again. -/
  | run
  | wake
  | toggled
  | switchOff
  | requestExit
  | exited

/-- One step. -/
def step (camera : Camera) : Action Parameters → Option Camera
  | .setParameters params => if camera.life = .used then camera.setParameters params else none
  | .toggle => if camera.life = .used then some camera.toggleTorchIfNeeded else none
  | .flash lit => if camera.life = .used then some { camera with light := lit } else none
  | .picture =>
      if camera.life = .used ∧ camera.scheduling = false then
        some { camera with exitPending := true, scheduling := true }
      else none
  | .run =>
      if camera.scheduling = true ∧ camera.thread = .stopped then
        some { camera with thread := .waiting, exitPending := false, scheduling := false }
      else none
  | .wake => if camera.thread = .waiting then some camera.wake else none
  | .toggled =>
      if camera.thread = .toggling then
        some { camera.toggleTorchIfNeeded with thread := .stopped }
      else none
  | .switchOff =>
      if camera.life = .used ∧ camera.scheduling = false then
        some { camera.setSocTorchMode false with life := .switchedOff }
      else none
  | .requestExit =>
      if camera.life = .switchedOff then some { camera with exitPending := true, life := .exiting }
      else none
  | .exited =>
      if camera.life = .exiting ∧ camera.thread = .stopped then
        some { camera with exitPending := false, life := .destroyed }
      else none

variable {camera next last : Camera} {action : Action Parameters}
  {actions : List (Action Parameters)}

/-! ## What a step does -/

theorem toggleTorchIfNeeded_eq (soc : camera.wrapper.mCameraType = .camSoc) :
    camera.toggleTorchIfNeeded = { camera with light := decide camera.Torch } :=
  if_pos soc

theorem mCameraType_of_setParameters {params handed : Parameters}
    {wrapper changed : JordanCameraWrapper}
    (accepted : wrapper.setParameters params = some (changed, handed)) :
    changed.mCameraType = wrapper.mCameraType := by
  obtain ⟨_, _, _, type, _⟩ := JordanCameraWrapper.setParameters_eq_some accepted
  exact type

/-- The parameters change the wrapper, and with the flash mode the light. -/
theorem setParameters_cases (soc : camera.wrapper.mCameraType = .camSoc)
    {params : Parameters} (taken : camera.setParameters params = some next) :
    ∃ wrapper light, next = { camera with wrapper, light } ∧
      wrapper.mCameraType = .camSoc ∧
      (light = decide (wrapper.mFlashMode = textTorch) ∨
        camera.wrapper.mFlashMode = wrapper.mFlashMode ∧ light = camera.light) := by
  simp only [setParameters, Option.bind_eq_bind, Option.bind_eq_some_iff] at taken
  obtain ⟨⟨wrapper, handed⟩, accepted, result⟩ := taken
  have type := (mCameraType_of_setParameters accepted).trans soc
  by_cases same : camera.wrapper.mFlashMode = wrapper.mFlashMode
  · refine ⟨wrapper, camera.light, ?_, type, .inr ⟨same, rfl⟩⟩
    simpa [same] using result.symm
  · rw [if_pos same, toggleTorchIfNeeded_eq type, Option.some_inj] at result
    exact ⟨wrapper, _, result.symm, type, .inl rfl⟩

/-- Facts that every step keeps. -/
structure Sound (camera : Camera) : Prop where
  soc : camera.wrapper.mCameraType = .camSoc
  pending : camera.exitPending = true ↔ camera.scheduling = true ∨ camera.life = .exiting
  scheduling : camera.scheduling = true → camera.life = .used

theorem Sound.created : Sound created := ⟨rfl, by decide, by decide⟩

/-- Every step keeps the camera sound. -/
theorem Sound.step (sound : Sound camera) (taken : camera.step action = some next) :
    Sound next := by
  obtain ⟨soc, pending, scheduling⟩ := sound
  cases action with
  | setParameters params =>
      simp only [Camera.step, Option.ite_none_right_eq_some] at taken
      obtain ⟨wrapper, light, rfl, type, _⟩ := setParameters_cases soc taken.2
      exact ⟨type, pending, scheduling⟩
  | toggle =>
      simp only [Camera.step, Option.ite_none_right_eq_some, Option.some.injEq,
        toggleTorchIfNeeded_eq soc] at taken
      obtain ⟨_, rfl⟩ := taken
      exact ⟨soc, pending, scheduling⟩
  | flash lit =>
      simp only [Camera.step, Option.ite_none_right_eq_some, Option.some.injEq] at taken
      obtain ⟨_, rfl⟩ := taken
      exact ⟨soc, pending, scheduling⟩
  | picture =>
      simp only [Camera.step, Option.ite_none_right_eq_some, Option.some.injEq] at taken
      obtain ⟨⟨used, _⟩, rfl⟩ := taken
      exact ⟨soc, iff_of_true rfl (.inl rfl), fun _ => used⟩
  | run =>
      simp only [Camera.step, Option.ite_none_right_eq_some, Option.some.injEq] at taken
      obtain ⟨⟨scheduled, _⟩, rfl⟩ := taken
      have used := scheduling scheduled
      exact ⟨soc, by simp [used], by simp⟩
  | wake =>
      simp only [Camera.step, Option.ite_none_right_eq_some, Option.some.injEq] at taken
      obtain ⟨_, rfl⟩ := taken
      exact ⟨soc, pending, scheduling⟩
  | toggled =>
      simp only [Camera.step, Option.ite_none_right_eq_some, Option.some.injEq,
        toggleTorchIfNeeded_eq soc] at taken
      obtain ⟨_, rfl⟩ := taken
      exact ⟨soc, pending, scheduling⟩
  | switchOff =>
      simp only [Camera.step, Option.ite_none_right_eq_some, Option.some.injEq] at taken
      obtain ⟨⟨used, idle⟩, rfl⟩ := taken
      refine ⟨soc, ?_, ?_⟩
      · simpa [setSocTorchMode, used, idle] using pending
      · simp [setSocTorchMode, idle]
  | requestExit =>
      simp only [Camera.step, Option.ite_none_right_eq_some, Option.some.injEq] at taken
      obtain ⟨off, rfl⟩ := taken
      refine ⟨soc, iff_of_true rfl (.inr rfl), fun scheduled => ?_⟩
      exact absurd (off.symm.trans (scheduling scheduled)) (by decide)
  | exited =>
      simp only [Camera.step, Option.ite_none_right_eq_some, Option.some.injEq] at taken
      obtain ⟨⟨exiting, _⟩, rfl⟩ := taken
      have idle : camera.scheduling ≠ true := fun scheduled =>
        absurd (exiting.symm.trans (scheduling scheduled)) (by decide)
      exact ⟨soc, by simp [idle], fun scheduled => absurd scheduled idle⟩

theorem sound_of_run (sound : Sound camera)
    (reached : exec step camera actions = some last) : Sound last :=
  invariant_of_step Sound (fun _ _ _ kept taken => kept.step taken) sound reached

/-! ## The light while the camera is used -/

/-- The light is that of the flash mode. -/
def Shown (camera : Camera) : Prop :=
  camera.life = .used → camera.light = decide camera.Torch

/-- The library does not change the light. -/
def Action.Undisturbed : Action Parameters → Prop
  | .flash _ => False
  | _ => True

/-- The light is set. -/
def Action.Toggles : Action Parameters → Prop
  | .toggle | .toggled => True
  | _ => False

/-- A step that sets the light shows the flash mode. -/
theorem shown_of_toggles (sound : Sound camera) (toggles : action.Toggles)
    (taken : camera.step action = some next) : Shown next := by
  cases action with
  | toggle =>
      simp only [Camera.step, Option.ite_none_right_eq_some, Option.some.injEq,
        toggleTorchIfNeeded_eq sound.soc] at taken
      obtain ⟨_, rfl⟩ := taken
      exact fun _ => rfl
  | toggled =>
      simp only [Camera.step, Option.ite_none_right_eq_some, Option.some.injEq,
        toggleTorchIfNeeded_eq sound.soc] at taken
      obtain ⟨_, rfl⟩ := taken
      exact fun _ => rfl
  | setParameters | flash | picture | run | wake | switchOff | requestExit | exited =>
      exact toggles.elim

/-- A step without the library keeps it shown. -/
theorem Shown.step (sound : Sound camera) (shown : Shown camera)
    (undisturbed : action.Undisturbed) (taken : camera.step action = some next) : Shown next := by
  cases action with
  | setParameters params =>
      simp only [Camera.step, Option.ite_none_right_eq_some] at taken
      obtain ⟨wrapper, light, rfl, _, set | ⟨same, kept⟩⟩ := setParameters_cases sound.soc taken.2
      · exact fun _ => set
      · intro used
        refine kept.trans ((shown used).trans (decide_eq_decide.mpr ?_))
        unfold Torch
        rw [same]
  | toggle =>
      have toggles : (Action.toggle : Action Parameters).Toggles := trivial
      exact shown_of_toggles sound toggles taken
  | toggled =>
      have toggles : (Action.toggled : Action Parameters).Toggles := trivial
      exact shown_of_toggles sound toggles taken
  | flash lit => exact undisturbed.elim
  | picture =>
      simp only [Camera.step, Option.ite_none_right_eq_some, Option.some.injEq] at taken
      obtain ⟨_, rfl⟩ := taken
      exact shown
  | run =>
      simp only [Camera.step, Option.ite_none_right_eq_some, Option.some.injEq] at taken
      obtain ⟨_, rfl⟩ := taken
      exact shown
  | wake =>
      simp only [Camera.step, Option.ite_none_right_eq_some, Option.some.injEq] at taken
      obtain ⟨_, rfl⟩ := taken
      exact shown
  | switchOff =>
      simp only [Camera.step, Option.ite_none_right_eq_some, Option.some.injEq] at taken
      obtain ⟨_, rfl⟩ := taken
      exact fun used => absurd used (by simp)
  | requestExit =>
      simp only [Camera.step, Option.ite_none_right_eq_some, Option.some.injEq] at taken
      obtain ⟨_, rfl⟩ := taken
      exact fun used => absurd used (by simp)
  | exited =>
      simp only [Camera.step, Option.ite_none_right_eq_some, Option.some.injEq] at taken
      obtain ⟨_, rfl⟩ := taken
      exact fun used => absurd used (by simp)

/-- The parameters of a torch. -/
def torchParameters : KeyValues
  | .sceneMode => some textAuto
  | .flashMode => some textTorch
  | _ => none

/-- A picture, for which the library switches the light off. -/
def pictureRun : List (Action KeyValues) := [.setParameters torchParameters, .picture, .flash false]

def afterPicture : Camera := (exec step created pictureRun).get (by decide +kernel)

theorem exec_pictureRun : exec step created pictureRun = some afterPicture :=
  (Option.some_get _).symm

/-- The light is off, and nothing will switch it on. -/
structure Dark (camera : Camera) : Prop where
  soc : camera.wrapper.mCameraType = .camSoc
  light : camera.light = false
  ended : camera.life ≠ .used
  idle : camera.scheduling = false
  still : camera.thread = .stopped ∨ ¬ camera.Torch

/-- Every step keeps the camera dark. -/
theorem Dark.step (dark : Dark camera) (taken : camera.step action = some next) : Dark next := by
  obtain ⟨soc, light, ended, idle, still⟩ := dark
  cases action with
  | setParameters | toggle | flash | picture | switchOff =>
      simp only [Camera.step, ended, false_and, ↓reduceIte, reduceCtorEq] at taken
  | run =>
      simp only [Camera.step, idle, Bool.false_eq_true, false_and, ↓reduceIte,
        reduceCtorEq] at taken
  | wake =>
      simp only [Camera.step, Option.ite_none_right_eq_some, Option.some.injEq] at taken
      obtain ⟨waiting, rfl⟩ := taken
      have other : ¬ camera.Torch :=
        still.resolve_left fun stopped => absurd (waiting.symm.trans stopped) (by decide)
      exact ⟨soc, light, ended, idle, .inr other⟩
  | toggled =>
      simp only [Camera.step, Option.ite_none_right_eq_some, Option.some.injEq,
        toggleTorchIfNeeded_eq soc] at taken
      obtain ⟨toggling, rfl⟩ := taken
      have other : ¬ camera.Torch :=
        still.resolve_left fun stopped => absurd (toggling.symm.trans stopped) (by decide)
      exact ⟨soc, decide_eq_false other, ended, idle, .inl rfl⟩
  | requestExit =>
      simp only [Camera.step, Option.ite_none_right_eq_some, Option.some.injEq] at taken
      obtain ⟨_, rfl⟩ := taken
      exact ⟨soc, light, by simp, idle, still⟩
  | exited =>
      simp only [Camera.step, Option.ite_none_right_eq_some, Option.some.injEq] at taken
      obtain ⟨_, rfl⟩ := taken
      exact ⟨soc, light, by simp, idle, still⟩

/-- What is left to do when the light was switched off: the thread first, and then the
destructor. -/
def threadFirst (thread : ThreadLoc) : List (Action Parameters) :=
  (if thread = .waiting then [.wake] else []) ++ [.toggled, .requestExit, .exited]

variable (Parameters) in
/-- The thread switches the light on again. -/
theorem exec_threadFirst (sound : Sound camera) (off : camera.life = .switchedOff)
    (idle : camera.scheduling = false) (active : camera.thread ≠ .stopped)
    (torch : camera.Torch) :
    ∃ last, exec step camera (threadFirst camera.thread : List (Action Parameters)) = some last ∧
      last.life = .destroyed ∧ last.light = true := by
  have unrequested : camera.exitPending = false := by
    rw [← Bool.not_eq_true, sound.pending, off, idle]
    decide
  refine ⟨{ camera with light := true, thread := .stopped, life := .destroyed }, ?_, rfl, rfl⟩
  have soc := sound.soc
  have torch : camera.wrapper.mFlashMode = textTorch := torch
  cases loc : camera.thread with
  | stopped => exact absurd loc active
  | waiting =>
      simp [threadFirst, exec_cons, Camera.step, wake, toggleTorchIfNeeded, setSocTorchMode, Torch,
        loc, unrequested, soc, off, torch]
  | toggling =>
      simp [threadFirst, exec_cons, Camera.step, toggleTorchIfNeeded, setSocTorchMode, Torch, loc,
        unrequested, soc, off, torch]

/-- **The light after the destructor.** In every run in which the destructor is called, the
light stays off, in whatever order the thread and the destructor go on, exactly if the
thread was not running or the flash mode was not the torch. -/
theorem stays_off_iff (reached : exec step created actions = some camera)
    (used : camera.life = .used) (idle : camera.scheduling = false) :
    (∀ (rest : List (Action Parameters)) (last : Camera),
      exec step camera (.switchOff :: rest) = some last → last.life = .destroyed →
        last.light = false) ↔ camera.thread = .stopped ∨ ¬ camera.Torch := by
  have sound := sound_of_run .created reached
  have taken : camera.step (.switchOff : Action Parameters) =
      some { camera.setSocTorchMode false with life := .switchedOff } := if_pos ⟨used, idle⟩
  have closing := sound.step taken
  constructor
  · intro always
    by_contra lit
    obtain ⟨active, torch⟩ := not_or.mp lit
    obtain ⟨last, rest, destroyed, light⟩ :=
      exec_threadFirst Parameters closing rfl idle active (not_not.mp torch)
    have off := always _ last (exec_cons_eq_some.mpr ⟨_, taken, rest⟩) destroyed
    exact absurd (light.symm.trans off) (by decide)
  · intro still rest last run _
    obtain ⟨closed, first, rest⟩ := exec_cons_eq_some.mp run
    have same := Option.some.inj (taken.symm.trans first)
    have dark : Dark closed := by
      rw [← same]
      exact ⟨sound.soc, rfl, by simp, idle, still⟩
    exact (invariant_of_step Dark (fun _ _ _ kept taken => kept.step taken) dark rest).light

/-- The thread runs after the picture, and may switch the light on when it is closed. -/
theorem afterRun_not_off :
    ∃ running, exec step afterPicture ([.run] : List (Action KeyValues)) = some running ∧
      ¬ ∀ (rest : List (Action KeyValues)) (last : Camera),
        exec step running (.switchOff :: rest) = some last →
          last.life = .destroyed → last.light = false := by
  obtain ⟨running, run⟩ := Option.isSome_iff_exists.mp
    (show (exec step afterPicture ([.run] : List (Action KeyValues))).isSome = true by
      decide +kernel)
  have reached := exec_append_eq_some.mpr ⟨afterPicture, exec_pictureRun, run⟩
  have facts : ((exec step afterPicture ([.run] : List (Action KeyValues))).map fun camera =>
      (camera.life, camera.scheduling, camera.thread, decide camera.Torch)) =
        some (.used, false, .waiting, true) := by decide +kernel
  rw [run, Option.map_some, Option.some_inj, Prod.mk.injEq, Prod.mk.injEq, Prod.mk.injEq] at facts
  obtain ⟨used, idle, waiting, torch⟩ := facts
  refine ⟨running, run, fun off => ?_⟩
  rcases (stays_off_iff reached used idle).mp off with stopped | other
  · exact absurd (waiting.symm.trans stopped) (by decide)
  · exact other (of_decide_eq_true torch)

end Camera

end Jordan.Libcamera
