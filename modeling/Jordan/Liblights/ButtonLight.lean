import Jordan.Library.Execution
import Jordan.Liblights.Lights

/-! # The button light

`set_light_buttons` leaves out the writes that the previous brightness makes
superfluous. The previous brightness is remembered on every exit, also after a
write that failed: the next call may then leave out the write that is still to be
made, and report success. A negative brightness, which a negative scale leads to,
switches the light on or leaves it as it is. The light is as the calls that return 0
say exactly when every call that leaves out a write finds the file as it was
remembered (`Jordan.Liblights.buttons_follow_iff`).
-/

namespace Jordan.Liblights

open Execution

/-- The on/off file was last written with 1 exactly if the brightness is positive, and
with 0 if it is 0, and the other file with a positive brightness. -/
def Lights.Shows (s : Lights) (brightness : Int) : Prop :=
  (s.files .buttonOn = some 1 ↔ 0 < brightness) ∧
    (brightness = 0 → s.files .buttonOn = some 0) ∧
    (0 < brightness → s.files .buttonBright = some brightness)

/-- A call for the buttons that returns 0 shows its brightness. -/
def ButtonsFollow (before : Lights) (invocation : Invocation) (after : Lights) : Prop :=
  match invocation.call with
  | .buttons state property =>
      (before.setLight invocation).1 = none → after.Shows (state.buttonBrightness property)
  | _ => True

/-- A file that a call for the buttons leaves out is as it was remembered. -/
def Lights.Remembers (s : Lights) (brightness : Int) (outcome : Outcome) : Prop :=
  if 0 < brightness then
    0 < s.gLastButtonBrightness →
      if brightness = s.gLastButtonBrightness then
        s.files .buttonOn = some 1 ∧ s.files .buttonBright = some brightness
      else outcome .buttonBright = none → s.files .buttonOn = some 1
  else if brightness = 0 then s.gLastButtonBrightness = 0 → s.files .buttonOn = some 0
  else if s.gLastButtonBrightness < 0 then outcome .buttonOn ≠ none
  else s.files .buttonOn ≠ some 1

/-- The same of an invocation. -/
def ButtonsRemembered (s : Lights) (invocation : Invocation) : Prop :=
  match invocation.call with
  | .buttons state property =>
      s.Remembers (state.buttonBrightness property) invocation.outcome
  | _ => True

namespace Lights

variable {s : Lights} {brightness : Int} {outcome : Outcome}

theorem switchButtons_err :
    (s.switchButtons outcome brightness).1 = none ↔
      (s.switches brightness → outcome .buttonOn = none) := by
  unfold switchButtons
  split
  next switches => simp only [switches, true_imp_iff]
  next leaves => simp only [leaves, false_imp_iff]

theorem setLightButtons_returns :
    (s.setLightButtons outcome brightness).1 = none ↔
      (s.switches brightness → outcome .buttonOn = none) ∧
        (s.brightens brightness → outcome .buttonBright = none) := by
  rw [← switchButtons_err]
  simp only [setLightButtons]
  split
  next writes => simp only [writes, true_and, true_imp_iff]
  next leaves =>
    refine ⟨fun err => ⟨err, fun brightens => ?_⟩, And.left⟩
    exact absurd ⟨err, brightens⟩ leaves

/-- What the switch file holds after a request, also after one that fails. -/
theorem setLightButtons_on :
    (s.setLightButtons outcome brightness).2.files .buttonOn =
      if s.switches brightness ∧ outcome .buttonOn = none then
        some (if brightness ≠ 0 then 1 else 0)
      else s.files .buttonOn := by
  have same : (s.setLightButtons outcome brightness).2.files .buttonOn =
      (s.switchButtons outcome brightness).2 .buttonOn := by
    simp only [setLightButtons]
    split
    · exact writeInt_of_ne nofun
    · rfl
  rw [same, switchButtons]
  by_cases switches : s.switches brightness
  · rw [if_pos switches]
    cases outcome .buttonOn with
    | none =>
        have writes : s.switches brightness ∧ (none : Option Errno) = none := ⟨switches, rfl⟩
        rw [if_pos writes]
        dsimp only
        rw [writeInt_none]
    | some errno =>
        rw [writeInt_some, if_neg fun writes => Option.some_ne_none _ writes.2]
  · rw [if_neg switches, if_neg fun writes => switches writes.1]

theorem setLightButtons_bright (returned : (s.setLightButtons outcome brightness).1 = none) :
    (s.setLightButtons outcome brightness).2.files .buttonBright =
      if s.brightens brightness then some brightness else s.files .buttonBright := by
  obtain ⟨switched, brightened⟩ := setLightButtons_returns.mp returned
  have err := switchButtons_err.mpr switched
  have same : (s.switchButtons outcome brightness).2 .buttonBright = s.files .buttonBright := by
    unfold switchButtons
    split
    · exact writeInt_of_ne nofun
    · rfl
  by_cases brightens : s.brightens brightness
  · simp only [setLightButtons, err, true_and, if_pos brightens, brightened brightens]
    exact writeInt_none
  · simp only [setLightButtons, err, true_and, if_neg brightens]
    exact same

theorem shows_of_pos (positive : 0 < brightness) :
    s.Shows brightness ↔
      s.files .buttonOn = some 1 ∧ s.files .buttonBright = some brightness := by
  have nonzero : brightness ≠ 0 := by omega
  simp only [Shows, positive, nonzero, iff_true, false_imp_iff, true_imp_iff, true_and]

theorem shows_zero : s.Shows 0 ↔ s.files .buttonOn = some 0 := by
  simp only [Shows, Int.lt_irrefl, iff_false, true_imp_iff, false_imp_iff, and_true]
  refine and_iff_right_of_imp fun off => ?_
  rw [off]
  decide

theorem shows_of_neg (negative : brightness < 0) :
    s.Shows brightness ↔ s.files .buttonOn ≠ some 1 := by
  have notPositive : ¬ 0 < brightness := by omega
  have nonzero : brightness ≠ 0 := by omega
  simp only [Shows, notPositive, nonzero, iff_false, false_imp_iff, and_true, ne_eq]

/-- What one call shows when it returns 0, for a negative brightness. -/
theorem setLightButtons_shows_neg (negative : brightness < 0) :
    ((s.setLightButtons outcome brightness).1 = none →
        (s.setLightButtons outcome brightness).2.Shows brightness) ↔
      s.Remembers brightness outcome := by
  have leaves : ¬ s.brightens brightness := fun brightens => by
    have := brightens.1
    omega
  have notPositive : ¬ 0 < brightness := by omega
  have nonzero : brightness ≠ 0 := by omega
  rw [shows_of_neg negative, setLightButtons_returns, setLightButtons_on, Remembers,
    if_neg notPositive, if_neg nonzero]
  by_cases first : s.gLastButtonBrightness < 0
  · have switches : s.switches brightness := .inl first
    simp only [switches, leaves, first, nonzero, true_imp_iff, false_imp_iff, and_true, true_and,
      ne_eq, not_false_eq_true, ↓reduceIte]
    split_ifs with succeeds
    · simp only [succeeds, not_true_eq_false, imp_false]
    · simp only [succeeds, not_false_eq_true, false_imp_iff]
  · have stays : ¬ s.switches brightness := by
      unfold switches
      omega
    simp only [stays, leaves, first, false_imp_iff, true_imp_iff, and_self, false_and,
      ↓reduceIte]

/-- For brightness 0, which switches the light off. -/
theorem setLightButtons_shows_zero :
    ((s.setLightButtons outcome 0).1 = none → (s.setLightButtons outcome 0).2.Shows 0) ↔
      s.Remembers 0 outcome := by
  have leaves : ¬ s.brightens 0 := fun brightens => Int.lt_irrefl 0 brightens.1
  rw [shows_zero, setLightButtons_returns, setLightButtons_on, Remembers,
    if_neg (Int.lt_irrefl 0), if_pos rfl]
  by_cases off : s.gLastButtonBrightness = 0
  · have stays : ¬ s.switches 0 := by
      unfold switches
      omega
    simp only [stays, leaves, off, false_imp_iff, true_imp_iff, and_self, false_and, ↓reduceIte]
  · have switches : s.switches 0 := by
      unfold switches
      omega
    simp only [switches, leaves, off, true_imp_iff, false_imp_iff, and_true, true_and, ne_eq,
      not_true_eq_false, ↓reduceIte, iff_true]
    intro succeeds
    rw [if_pos succeeds]

/-- For a light that is remembered to be on, at another brightness or the same. -/
theorem setLightButtons_shows_on (positive : 0 < brightness) (on : 0 < s.gLastButtonBrightness) :
    ((s.setLightButtons outcome brightness).1 = none →
        (s.setLightButtons outcome brightness).2.Shows brightness) ↔
      s.Remembers brightness outcome := by
  have stays : ¬ s.switches brightness := by
    unfold switches
    omega
  rw [shows_of_pos positive, Remembers, if_pos positive]
  by_cases same : brightness = s.gLastButtonBrightness
  · have leaves : ¬ s.brightens brightness := fun brightens => brightens.2 same
    have returns : (s.setLightButtons outcome brightness).1 = none :=
      setLightButtons_returns.mpr ⟨fun switches => absurd switches stays,
        fun brightens => absurd brightens leaves⟩
    rw [setLightButtons_on, setLightButtons_bright returns]
    simp only [returns, stays, leaves, on, if_pos same, true_imp_iff, false_and, ↓reduceIte]
  · have brightens : s.brightens brightness := ⟨positive, same⟩
    simp only [on, if_neg same, true_imp_iff]
    constructor
    · intro follows succeeds
      have returns : (s.setLightButtons outcome brightness).1 = none :=
        setLightButtons_returns.mpr ⟨fun switches => absurd switches stays, fun _ => succeeds⟩
      have shown := (follows returns).1
      rwa [setLightButtons_on, if_neg fun writes => stays writes.1] at shown
    · intro remembered returns
      have succeeds := (setLightButtons_returns.mp returns).2 brightens
      rw [setLightButtons_on, setLightButtons_bright returns, if_pos brightens,
        if_neg fun writes => stays writes.1]
      exact ⟨remembered succeeds, rfl⟩

/-- A light that is not remembered to be on is switched on. -/
theorem setLightButtons_shows_off (positive : 0 < brightness)
    (off : ¬ 0 < s.gLastButtonBrightness)
    (returns : (s.setLightButtons outcome brightness).1 = none) :
    (s.setLightButtons outcome brightness).2.Shows brightness := by
  have nonzero : brightness ≠ 0 := by omega
  have switches : s.switches brightness := by
    unfold switches
    omega
  have brightens : s.brightens brightness := ⟨positive, by omega⟩
  have succeeds := (setLightButtons_returns.mp returns).1 switches
  rw [shows_of_pos positive, setLightButtons_on, setLightButtons_bright returns,
    if_pos brightens, if_pos ⟨switches, succeeds⟩, if_pos nonzero]
  exact ⟨rfl, rfl⟩

/-- **One call**: if it returns 0, it shows its brightness exactly when what it leaves
out is as it was remembered. -/
theorem setLightButtons_shows_iff :
    ((s.setLightButtons outcome brightness).1 = none →
        (s.setLightButtons outcome brightness).2.Shows brightness) ↔
      s.Remembers brightness outcome := by
  rcases lt_trichotomy brightness 0 with negative | rfl | positive
  · exact setLightButtons_shows_neg negative
  · exact setLightButtons_shows_zero
  · by_cases on : 0 < s.gLastButtonBrightness
    · exact setLightButtons_shows_on positive on
    · refine iff_of_true (setLightButtons_shows_off positive on) ?_
      rw [Remembers, if_pos positive]
      exact fun lit => absurd lit on

/-- What is remembered of the buttons is the case. -/
structure Faithful (s : Lights) : Prop where
  unlit : s.gLastButtonBrightness = 0 → s.files .buttonOn = some 0
  lit : 0 < s.gLastButtonBrightness →
    s.files .buttonOn = some 1 ∧ s.files .buttonBright = some s.gLastButtonBrightness

/-- A memory that is the case is enough for a brightness that is not negative. -/
theorem Faithful.remembers (faithful : s.Faithful) (nonnegative : 0 ≤ brightness)
    (outcome : Outcome) : s.Remembers brightness outcome := by
  unfold Remembers
  split_ifs with positive same zero
  · intro lit
    rw [same]
    exact faithful.lit lit
  · exact fun lit _ => (faithful.lit lit).1
  · exact faithful.unlit
  · omega
  · omega

/-- A call that returns 0 leaves a memory that is the case, and only one that fails or
has a negative brightness can spoil it. -/
theorem setLightButtons_faithful (remembers : s.Remembers brightness outcome)
    (returns : (s.setLightButtons outcome brightness).1 = none) :
    (s.setLightButtons outcome brightness).2.Faithful := by
  have shown := setLightButtons_shows_iff.mpr remembers returns
  exact ⟨shown.2.1, fun positive => ⟨shown.1.mpr positive, shown.2.2 positive⟩⟩

/-- The memory and the files of the buttons. -/
def buttons (s : Lights) : Int × Option Int × Option Int :=
  (s.gLastButtonBrightness, s.files .buttonOn, s.files .buttonBright)

theorem buttons_congr {other : Lights} (same : other.buttons = s.buttons) :
    other.Faithful ↔ s.Faithful := by
  obtain ⟨last, files⟩ := Prod.mk.inj same
  obtain ⟨on, bright⟩ := Prod.mk.inj files
  constructor <;> rintro ⟨unlit, lit⟩
  · exact ⟨by rwa [last, on] at unlit, by rwa [last, on, bright] at lit⟩
  · exact ⟨by rwa [last, on], by rwa [last, on, bright]⟩

theorem handleLightLocked_buttons : (s.handleLightLocked outcome).2.buttons = s.buttons := by
  unfold buttons
  rw [handleLightLocked_of_not_led rfl, handleLightLocked_of_not_led rfl]
  rfl

/-- The other functions leave the buttons alone. -/
theorem setLight_buttons {invocation : Invocation}
    (other : ∀ state property, invocation.call ≠ .buttons state property) :
    (s.setLight invocation).2.buttons = s.buttons := by
  obtain ⟨call, outcome⟩ := invocation
  cases call with
  | backlight state =>
      have als : LightFile.buttonOn ≠ .als ∧ LightFile.buttonBright ≠ .als := by decide
      have lcd : LightFile.buttonOn ≠ .lcd ∧ LightFile.buttonBright ≠ .lcd := by decide
      simp only [setLight, setLightBacklight]
      cases outcome .als with
      | none => simp only [buttons, writeInt_of_ne als.1, writeInt_of_ne als.2,
          writeInt_of_ne lcd.1, writeInt_of_ne lcd.2]
      | some errno => simp only [buttons, writeInt_some]
  | buttons state property => exact absurd rfl (other state property)
  | battery state property =>
      refine handleLightLocked_buttons.trans ?_
      unfold takeBattery
      split <;> rfl
  | notification state => exact handleLightLocked_buttons
  | attention state => rfl

end Lights

/-- The brightness of a call for the buttons is not negative, and the writes that the call
makes succeed. -/
def ButtonsSucceed (s : Lights) (invocation : Invocation) : Prop :=
  match invocation.call with
  | .buttons state property =>
      0 ≤ state.buttonBrightness property ∧
        (s.switches (state.buttonBrightness property) → invocation.outcome .buttonOn = none) ∧
        (s.brightens (state.buttonBrightness property) → invocation.outcome .buttonBright = none)
  | _ => True

/-- A call follows exactly if what it leaves out is as it was remembered. -/
theorem ButtonsFollow.iff_remembered {s after : Lights} {invocation : Invocation}
    (taken : s.step invocation = some after) :
    ButtonsFollow s invocation after ↔ ButtonsRemembered s invocation := by
  obtain rfl := Option.some.inj taken
  obtain ⟨call, outcome⟩ := invocation
  cases call with
  | buttons state property => exact Lights.setLightButtons_shows_iff
  | backlight | battery | notification | attention => exact Iff.rfl

/-- A call whose writes succeed follows, and leaves a memory that is the case. -/
theorem Lights.Faithful.step {s after : Lights} {invocation : Invocation}
    (faithful : s.Faithful) (succeed : ButtonsSucceed s invocation)
    (taken : s.step invocation = some after) :
    after.Faithful ∧ ButtonsFollow s invocation after := by
  obtain rfl := Option.some.inj taken
  obtain ⟨call, outcome⟩ := invocation
  cases call with
  | buttons state property =>
      obtain ⟨nonnegative, writes⟩ := succeed
      have remembers := faithful.remembers nonnegative outcome
      have returns := Lights.setLightButtons_returns.mpr writes
      exact ⟨Lights.setLightButtons_faithful remembers returns,
        Lights.setLightButtons_shows_iff.mpr remembers⟩
  | backlight | battery | notification | attention =>
      refine ⟨(Lights.buttons_congr (Lights.setLight_buttons ?_)).mpr faithful, trivial⟩
      exact fun _ _ same => by cases same

/-- Nothing is remembered of the buttons before the first call for them. -/
theorem initGlobals_faithful (files : LightFiles) : (initGlobals files).Faithful where
  unlit := fun off => absurd off (Int.negSucc_ne_zero 0)
  lit := fun lit => absurd lit (Int.not_lt.mpr (Int.negSucc_le_zero 0))

/-- **The button light follows the calls exactly when what they leave out is as it was
remembered**, along every sequence of calls of the HAL and failures of its writes. So it
does as long as no call for the buttons fails in a write or has a negative brightness,
and what is remembered is then the case. -/
theorem buttons_follow_iff (files : LightFiles) (invocations : List Invocation) :
    (Along Lights.step ButtonsFollow (initGlobals files) invocations ↔
      Guarded Lights.step ButtonsRemembered (initGlobals files) invocations) ∧
    (Guarded Lights.step ButtonsSucceed (initGlobals files) invocations →
      Along Lights.step
        (fun before invocation after => after.Faithful ∧ ButtonsFollow before invocation after)
        (initGlobals files) invocations) := by
  refine ⟨along_iff (fun _ => True) ?_ ?_ trivial invocations, fun succeed => ?_⟩
  · exact fun before invocation after _ remembered taken =>
      ⟨trivial, (ButtonsFollow.iff_remembered taken).mpr remembered⟩
  · exact fun before invocation after _ taken follows =>
      (ButtonsFollow.iff_remembered taken).mp follows
  · refine along_of_invariant Lights.Faithful ?_ (initGlobals_faithful files) succeed
    intro before invocation after faithful fine taken
    have stays := faithful.step fine taken
    exact ⟨stays.1, stays⟩

/-- White buttons are asked for twice, and the first write fails. -/
def failsOnce : List Invocation :=
  let buttons : LightCall := .buttons ⟨0xffffff, 0, 0⟩ none
  [⟨buttons, fun site => if site = .buttonOn then some EIO else none⟩, ⟨buttons, .success⟩]

/-- The second call writes nothing and returns 0: the buttons stay off. -/
theorem failsOnce_stays_off :
    ¬ Along Lights.step ButtonsFollow (initGlobals fun _ => none) failsOnce := by
  intro along
  obtain ⟨_, second, _⟩ := (along _ rfl).imp_right fun later => later _ rfl
  have shown := (second (by decide)).1
  exact absurd (shown.mpr (by decide)) (by decide)

end Jordan.Liblights
