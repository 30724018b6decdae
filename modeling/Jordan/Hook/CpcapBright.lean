import Jordan.Library.BitMask
import Jordan.Library.Execution
import Jordan.Machine

/-! # The brightness of the button backlight

While `cpcap_regacc_write` is hooked, `cpcap-bright.c` replaces the value of every
write to the register of the button backlight by the one for the brightness it
has cached. It caches the brightness of the LED class device when that is above
1, and what is written to `/proc/backlight/brightness`.

A request of the LED class to switch the light off does not reach the cache, and
a 0 written to the file replaces the level that a later plain on would restore.
The register follows the requests exactly when the cache is already dark at every
request to switch off, and not dark, or with nothing to restore, at every plain
on (`Jordan.Hook.CpcapBright.register_follows_iff`).
-/

namespace Jordan.Hook

open Execution

/-- A write to a register of the cpcap. -/
structure RegWrite where
  reg : U16
  value : U16
  mask : U16
deriving DecidableEq, Repr

/-- The variables of the module: `buttonDev` is the brightness of the LED class
device, if `find_led_brightness` has found it. -/
structure CpcapBright where
  brightness : U16
  defyPlus : U16
  gMaskWr : U16
  gLastValue : U16
  buttonDev : Option U32
deriving DecidableEq, Repr

namespace CpcapBright

/-- `CPCAP_BUTTON_WR_MASK` -/
def cpcapButtonWrMask : U16 := 0x7FF

/-- `newval` of `brightness_to_cpcap`. -/
def newval (defyPlus level : U16) : U16 :=
  let level := level &&& 0xFF
  let newval :=
    if defyPlus ≠ 0 then
      let newval := level * 8 ||| (level &&& 0xC0) / 0x20
      let newval := if level < 8 then level * 8 else newval
      if level ≠ 0 then newval ||| 0x1 else newval
    else
      let newval := level * 4 ||| 0xF
      if level ≤ 5 then 0x1F else newval
  if level = 0 then 0 else newval

/-- `brightness_to_cpcap` -/
def brightnessToCpcap (s : CpcapBright) (level : U16) : U16 := newval s.defyPlus level &&& s.gMaskWr

variable (adlc : U16)

/-- The hooked `cpcap_regacc_write`: the write that is passed on, and the module
after it. `adlc` is `CPCAP_REG_ADLC`. -/
def cpcapRegaccWrite (s : CpcapBright) (write : RegWrite) : RegWrite × CpcapBright :=
  if write.reg ≠ adlc then (write, s)
  else
    let brightness :=
      match s.buttonDev with
      | some level => if 1 < level then level.setWidth 16 else s.brightness
      | none => s.brightness
    let value := s.brightnessToCpcap brightness
    let mask :=
      if s.defyPlus ≠ 0 ∧ write.mask = 0xf then cpcapButtonWrMask else write.mask
    (⟨write.reg, value, mask⟩,
      { s with
        brightness := brightness
        gMaskWr := s.gMaskWr ||| write.mask
        gLastValue := value })

/-- `proc_brightness_write`, when a number is scanned: the write it makes, and the
module after it. -/
def procBrightnessWrite (s : CpcapBright) (newval : U32) : RegWrite × CpcapBright :=
  let brightness := (newval &&& 0xff).setWidth 16
  (⟨adlc, s.brightnessToCpcap (newval.setWidth 16), s.gMaskWr⟩,
    { s with
      brightness := brightness
      buttonDev := s.buttonDev.map fun _ => newval &&& 0xff })

/-- `backlight_init`, with the parameters, and the brightness of the device if it
is found. -/
def backlightInit (brightness defyPlus : U16) (led : Option U32) : CpcapBright :=
  let brightness :=
    match led with
    | some level => if brightness = -1 then level.setWidth 16 else brightness
    | none => brightness
  let brightness :=
    if brightness = -1 ∨ brightness = 1 ∨ brightness = 255 then 4 else brightness
  { brightness := brightness &&& 0xFF
    defyPlus := defyPlus
    gMaskWr := if defyPlus ≠ 0 then 0x7ff else cpcapButtonWrMask
    gLastValue := 0
    buttonDev := led }

/-- A request: the LED core sets the brightness of the device, and calls
`cpcap_regacc_write` for the register of the light; or a number is written to
`/proc/backlight/brightness`. -/
inductive Request where
  | led (brightness : U32) (value mask : U16)
  | proc (newval : U32)
deriving DecidableEq, Repr

/-- The level that the requests have put in force, and the last one that was not 0. -/
structure Requested where
  level : U32
  restored : U32
deriving DecidableEq, Repr

/-- A request puts a level in force: 1 from the LED core is plain on, which
restores a level. -/
def Requested.next (requested : Requested) : Request → Requested
  | .led brightness _ _ =>
      if brightness = 0 then { requested with level := 0 }
      else if brightness = 1 then { requested with level := requested.restored }
      else ⟨brightness, brightness⟩
  | .proc newval =>
      if newval &&& 0xff = 0 then { requested with level := 0 }
      else ⟨newval &&& 0xff, newval &&& 0xff⟩

/-- The module while it is hooked, the value that was last passed on to the
register, and what has been requested. -/
structure Hooked where
  driver : CpcapBright
  forwarded : U16
  requested : Requested
deriving DecidableEq, Repr

/-- The write that a request passes on, and the module after it. -/
def serve (s : CpcapBright) : Request → RegWrite × CpcapBright
  | .led brightness value mask =>
      cpcapRegaccWrite adlc { s with buttonDev := s.buttonDev.map fun _ => brightness }
        ⟨adlc, value, mask⟩
  | .proc newval => s.procBrightnessWrite adlc newval

/-- A request is served. -/
def step (s : Hooked) (request : Request) : Option Hooked :=
  let (write, driver) := s.driver.serve adlc request
  some ⟨driver, write.value, s.requested.next request⟩

/-- The register has the value for the level in force. -/
def Follows (s : Hooked) : Prop :=
  s.forwarded = s.driver.brightnessToCpcap (s.requested.level.setWidth 16)

instance (s : Hooked) : Decidable (Follows s) := inferInstanceAs (Decidable (_ = _))

/-- A level without light: its low 8 bits are 0. -/
abbrev Dark (level : U16) : Prop := level &&& 0xFF = 0

/-- The request finds the cache dark if it switches off, and not dark, or nothing
to restore, if it is plain on. -/
def Served (s : Hooked) : Request → Prop
  | .led brightness _ _ =>
      (brightness = 0 → Dark s.driver.brightness) ∧
        (brightness = 1 → Dark s.driver.brightness → Dark (s.requested.restored.setWidth 16))
  | .proc _ => True

instance (s : Hooked) : (request : Request) → Decidable (Served s request)
  | .led _ _ _ => inferInstanceAs (Decidable ((_ → _) ∧ (_ → _ → _)))
  | .proc _ => inferInstanceAs (Decidable True)

/-- The device is found, and the mask has the bits that the light uses. -/
structure Loaded (s : CpcapBright) : Prop where
  found : s.buttonDev.isSome
  covers : cpcapButtonWrMask &&& s.gMaskWr = cpcapButtonWrMask

/-! ## The values of the register -/

/-- Only the low 8 bits of a level count. -/
theorem newval_low {defyPlus level other : U16} (same : level &&& 0xFF = other &&& 0xFF) :
    newval defyPlus level = newval defyPlus other := by
  simp only [newval, same]

/-- The low 8 bits of a number that is written are what is cached. -/
theorem low_written (newval : U32) :
    newval.setWidth 16 &&& 0xFF = (newval &&& 0xff).setWidth 16 &&& (0xFF : U16) := by
  rw [BitVec.setWidth_and]
  exact ((BitVec.and_assoc _ _ _).trans (congrArg _ BitVec.and_self)).symm

/-- The register is 0 for a dark level only. -/
theorem newval_eq_zero_iff {defyPlus level : U16} :
    newval defyPlus level = 0 ↔ Dark level := by
  simp only [newval]
  constructor
  · intro dark
    by_contra lit
    rw [if_neg lit] at dark
    split at dark
    · exact absurd (BitVec.or_eq_zero_iff.mp dark).2 (by decide)
    · split at dark
      · exact absurd dark (by decide)
      · exact absurd (BitVec.or_eq_zero_iff.mp dark).2 (by decide)
  · intro dark
    rw [if_pos dark]

/-- The values have 11 bits. -/
theorem newval_lt (defyPlus level : U16) : (newval defyPlus level).toNat < 2 ^ 11 := by
  have low : (level &&& 0xFF).toNat < 2 ^ 8 := by
    rw [BitVec.toNat_and]
    exact Nat.and_lt_two_pow _ (by decide)
  simp only [newval]
  generalize level &&& 0xFF = level at low
  have eightfold : (level * 8).toNat < 2 ^ 11 := by bv_omega
  have fourfold : (level * 4).toNat < 2 ^ 11 := by bv_omega
  have upper : ((level &&& 0xC0) / 0x20).toNat < 2 ^ 11 := by
    have field : (level &&& 0xC0).toNat < 2 ^ 8 := by
      rw [BitVec.toNat_and]
      exact Nat.and_lt_two_pow _ (by decide)
    rw [BitVec.toNat_udiv]
    exact lt_of_le_of_lt (Nat.div_le_self _ _) (by omega)
  have or_lt {first second : U16} (left : first.toNat < 2 ^ 11) (right : second.toNat < 2 ^ 11) :
      (first ||| second).toNat < 2 ^ 11 := by
    rw [BitVec.toNat_or]
    exact Nat.or_lt_two_pow left right
  have plus : (if level < 8 then level * 8
      else level * 8 ||| (level &&& 0xC0) / 0x20).toNat < 2 ^ 11 := by
    split
    · exact eightfold
    · exact or_lt eightfold upper
  have plain : (if level ≤ 5 then 0x1F else level * 4 ||| 0xF).toNat < 2 ^ 11 := by
    split
    · decide
    · exact or_lt fourfold (by decide)
  by_cases dark : level = 0
  · rw [if_pos dark]
    decide
  · rw [if_neg dark]
    by_cases defy : defyPlus ≠ 0
    · rw [if_pos defy, if_pos dark]
      exact or_lt plus (by decide)
    · rw [if_neg defy]
      exact plain

/-- With a mask that has these bits, the value is not masked. -/
theorem Loaded.brightnessToCpcap {s : CpcapBright} (loaded : Loaded s) (level : U16) :
    s.brightnessToCpcap level = newval s.defyPlus level := by
  have within : newval s.defyPlus level &&& cpcapButtonWrMask = newval s.defyPlus level := by
    apply BitVec.eq_of_toNat_eq
    rw [BitVec.toNat_and]
    exact (Nat.and_two_pow_sub_one_eq_mod _ 11).trans
      (Nat.mod_eq_of_lt (newval_lt s.defyPlus level))
  unfold CpcapBright.brightnessToCpcap
  calc newval s.defyPlus level &&& s.gMaskWr
      = newval s.defyPlus level &&& (cpcapButtonWrMask &&& s.gMaskWr) := by
        rw [← BitVec.and_assoc, within]
    _ = newval s.defyPlus level := by rw [loaded.covers, within]

/-- The module is loaded with the mask. -/
theorem loaded_backlightInit (brightness defyPlus : U16) (led : U32) :
    Loaded (backlightInit brightness defyPlus (some led)) where
  found := rfl
  covers := by
    simp only [backlightInit]
    split <;> decide

/-! ## One request -/

/-- The level in the cache after a request. -/
def cachedBy (cached : U16) : Request → U16
  | .led brightness _ _ => if 1 < brightness then brightness.setWidth 16 else cached
  | .proc newval => (newval &&& 0xff).setWidth 16

/-- A request is served from the cache. -/
structure FromCache (s : CpcapBright) (level : U16) (served : RegWrite × CpcapBright) : Prop where
  value : served.1.value = newval s.defyPlus level
  cached : served.2.brightness = level
  defyPlus : served.2.defyPlus = s.defyPlus
  loaded : Loaded served.2

variable {adlc : U16}

theorem Loaded.serve {s : CpcapBright} (loaded : Loaded s) (request : Request) :
    FromCache s (cachedBy s.brightness request) (s.serve adlc request) := by
  obtain ⟨level, device⟩ := Option.isSome_iff_exists.mp loaded.found
  cases request with
  | led brightness value mask =>
      have covers := BitMask.and_or_of_covers loaded.covers mask
      simp only [CpcapBright.serve, cpcapRegaccWrite, device, Option.map_some, ne_eq,
        not_true_eq_false, ↓reduceIte]
      exact ⟨loaded.brightnessToCpcap _, rfl, rfl, rfl, covers⟩
  | proc newval =>
      simp only [CpcapBright.serve, procBrightnessWrite]
      refine ⟨?_, rfl, rfl, ?_, loaded.covers⟩
      · rw [loaded.brightnessToCpcap, newval_low (low_written newval)]
        rfl
      · rw [device]
        rfl

/-- A write of `proc_brightness_write` that itself goes through the hooked function
is passed on with the same value, and leaves the cache. -/
theorem procBrightnessWrite_again (s : CpcapBright) (newval : U32) :
    let (write, after) := s.procBrightnessWrite adlc newval
    (after.cpcapRegaccWrite adlc write).1.value = write.value ∧
      (after.cpcapRegaccWrite adlc write).2.brightness = after.brightness := by
  have cached : (match s.buttonDev.map fun _ => newval &&& 0xff with
      | some level => if 1 < level then level.setWidth 16 else (newval &&& 0xff).setWidth 16
      | none => (newval &&& 0xff).setWidth 16) = ((newval &&& 0xff).setWidth 16 : U16) := by
    cases s.buttonDev with
    | none => rfl
    | some _ => exact ite_self _
  simp only [procBrightnessWrite, cpcapRegaccWrite, ne_eq, not_true_eq_false, ↓reduceIte, cached,
    and_true]
  unfold CpcapBright.brightnessToCpcap
  rw [newval_low (low_written newval)]

/-- The cache is dark, or holds the level to restore. -/
structure Cached (s : Hooked) : Prop where
  loaded : Loaded s.driver
  level : Dark s.driver.brightness ∨
    s.driver.brightness &&& 0xFF = s.requested.restored.setWidth 16 &&& 0xFF

/-- What a request leaves behind. -/
theorem Cached.step {s after : Hooked} {request : Request} (cached : Cached s)
    (taken : step adlc s request = some after) :
    after.driver.brightness = cachedBy s.driver.brightness request ∧
      after.requested = s.requested.next request ∧ Loaded after.driver ∧
        (Follows after ↔
          newval s.driver.defyPlus (cachedBy s.driver.brightness request) =
            newval s.driver.defyPlus ((s.requested.next request).level.setWidth 16)) := by
  have served : FromCache s.driver _ (s.driver.serve adlc request) := cached.loaded.serve request
  unfold CpcapBright.step at taken
  generalize s.driver.serve adlc request = result at served taken
  obtain ⟨write, driver⟩ := result
  obtain rfl := Option.some.inj taken
  refine ⟨served.cached, rfl, served.loaded, ?_⟩
  have value : write.value = _ := served.value
  have defyPlus : driver.defyPlus = _ := served.defyPlus
  have loaded : Loaded driver := served.loaded
  unfold Follows
  rw [value, loaded.brightnessToCpcap, defyPlus]

/-- From the LED core, 0 and 1 leave the cache and the level to restore. -/
theorem led_cases (brightness : U32) (value mask : U16) (cached : U16) (requested : Requested) :
    (brightness = 0 ∧ cachedBy cached (.led brightness value mask) = cached ∧
        requested.next (.led brightness value mask) = { requested with level := 0 }) ∨
      (brightness = 1 ∧ cachedBy cached (.led brightness value mask) = cached ∧
        requested.next (.led brightness value mask) =
          { requested with level := requested.restored }) ∨
      (brightness ≠ 0 ∧ brightness ≠ 1 ∧
        cachedBy cached (.led brightness value mask) = brightness.setWidth 16 ∧
          requested.next (.led brightness value mask) = ⟨brightness, brightness⟩) := by
  by_cases zero : brightness = 0
  · subst zero
    exact .inl ⟨rfl, rfl, rfl⟩
  · by_cases one : brightness = 1
    · subst one
      exact .inr (.inl ⟨rfl, rfl, rfl⟩)
    · have above : 1 < brightness := by bv_omega
      refine .inr (.inr ⟨zero, one, if_pos above, ?_⟩)
      simp only [Requested.next, zero, one, ↓reduceIte]

/-- A written level is cached; the level to restore is then it, or the cache is dark. -/
theorem proc_cases (newval : U32) (cached : U16) (requested : Requested) :
    (cachedBy cached (.proc newval) = 0 ∧
        requested.next (.proc newval) = { requested with level := 0 }) ∨
      ∃ level : U32, cachedBy cached (.proc newval) = level.setWidth 16 ∧
        requested.next (.proc newval) = ⟨level, level⟩ := by
  by_cases zero : newval &&& 0xff = 0
  · refine .inl ⟨?_, if_pos zero⟩
    rw [cachedBy, zero]
    rfl
  · exact .inr ⟨newval &&& 0xff, rfl, if_neg zero⟩

/-- The cache stays dark, or at the level to restore. -/
theorem Cached.next {s after : Hooked} {request : Request} (cached : Cached s)
    (taken : CpcapBright.step adlc s request = some after) : Cached after := by
  obtain ⟨brightness, requested, loaded, _⟩ := cached.step taken
  refine ⟨loaded, ?_⟩
  rw [brightness, requested]
  cases request with
  | led level value mask =>
      rcases led_cases level value mask s.driver.brightness s.requested with
        ⟨_, kept, next⟩ | ⟨_, kept, next⟩ | ⟨_, _, moved, next⟩
      · rw [kept, next]
        exact cached.level
      · rw [kept, next]
        exact cached.level
      · rw [moved, next]
        exact .inr rfl
  | proc newval =>
      rcases proc_cases newval s.driver.brightness s.requested with ⟨dark, _⟩ | ⟨level, moved, next⟩
      · exact .inl (by rw [dark]; rfl)
      · rw [moved, next]
        exact .inr rfl

/-- The register follows a request exactly when the cache serves it. -/
theorem Cached.follows_iff_served {s after : Hooked} {request : Request} (cached : Cached s)
    (taken : CpcapBright.step adlc s request = some after) :
    Follows after ↔ Served s request := by
  obtain ⟨_, _, _, follows⟩ := cached.step taken
  rw [follows]
  cases request with
  | led level value mask =>
      unfold Served
      rcases led_cases level value mask s.driver.brightness s.requested with
        ⟨rfl, kept, next⟩ | ⟨rfl, kept, next⟩ | ⟨zero, one, moved, next⟩
      · have off : newval s.driver.defyPlus ((0 : U32).setWidth 16) = 0 :=
          newval_eq_zero_iff.mpr rfl
        rw [kept, next, off, newval_eq_zero_iff]
        constructor
        · intro dark
          exact ⟨fun _ => dark, fun same => absurd same (by decide)⟩
        · intro served
          exact served.1 rfl
      · rw [kept, next]
        constructor
        · intro same
          refine ⟨fun off => absurd off (by decide), fun _ dark => ?_⟩
          rw [newval_eq_zero_iff.mpr dark] at same
          exact newval_eq_zero_iff.mp same.symm
        · intro ⟨_, served⟩
          rcases cached.level with dark | held
          · rw [newval_eq_zero_iff.mpr dark, newval_eq_zero_iff.mpr (served rfl dark)]
          · exact newval_low held
      · rw [moved, next]
        exact iff_of_true rfl ⟨fun same => absurd same zero, fun same => absurd same one⟩
  | proc newval =>
      refine iff_of_true ?_ trivial
      rcases proc_cases newval s.driver.brightness s.requested with
        ⟨dark, next⟩ | ⟨level, moved, next⟩
      · rw [dark, next]
        rfl
      · rw [moved, next]

/-- The module when requests start to be observed. -/
def watch (s : CpcapBright) : Hooked where
  driver := s
  forwarded := 0
  requested := ⟨s.brightness.setWidth 32, s.brightness.setWidth 32⟩

/-- **The register follows the requests** exactly when the cache serves each of them. -/
theorem register_follows_iff {s : CpcapBright} (loaded : Loaded s) (requests : List Request) :
    Along (step adlc) (fun _ _ after => Follows after) (watch s) requests ↔
      Guarded (step adlc) Served (watch s) requests := by
  apply along_iff Cached
  · intro before request after cached served taken
    exact ⟨cached.next taken, (cached.follows_iff_served taken).mpr served⟩
  · intro before request after cached taken follows
    exact (cached.follows_iff_served taken).mp follows
  · refine ⟨loaded, .inr ?_⟩
    have same : (s.brightness.setWidth 32).setWidth 16 = s.brightness :=
      BitVec.setWidth_setWidth_of_le _ (by decide)
    exact (congrArg (· &&& 0xFF) same).symm

/-- A module loaded with the light at 20. -/
def loadedAtTwenty : CpcapBright := backlightInit (-1) 0 (some 20)

/-- The light is set, restored by plain on, switched off through the file, and set
from the LED core. -/
theorem loadedAtTwenty_follows :
    Along (step 0x25) (fun _ _ after => Follows after) (watch loadedAtTwenty)
      [.led 100 0x190 0x3ff, .led 1 0x1 0x3ff, .proc 256, .led 60 0xf0 0x3ff] :=
  (register_follows_iff (loaded_backlightInit (-1) 0 20) _).mpr (by decide)

/-- When the LED core switches it off, the light stays on. -/
theorem loadedAtTwenty_stays_on :
    ¬ Along (step 0x25) (fun _ _ after => Follows after) (watch loadedAtTwenty)
      [.led 100 0x190 0x3ff, .led 0 0 0x3ff] := by
  decide

end CpcapBright

end Jordan.Hook
