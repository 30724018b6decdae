import Jordan.Machine
import Jordan.Library.Execution
import Mathlib.Logic.Function.Basic

/-! # The number of touch contacts

`defy-multitouch.c` lets `/proc/multitouch/num` change how many contacts the
touchscreen driver reports. The module hooks `qtouch_set_addr`, where it learns
the address of the driver's data, and `qtouch_hw_init`. To make the driver
initialise the hardware again, `set_numtouch` saves the checksum of the EEPROM
and replaces it by 0; the hook of `qtouch_hw_init` puts it back.

The steps of a write and of the module's start may be interleaved with each
other and with the hooks. A second `set_numtouch` before `qtouch_hw_init` saves
the 0 (`Jordan.Multitouch.Module.checksum_kept_iff`), and the hook of
`qtouch_set_addr` may use `wanted_touch` before it is clamped
(`Jordan.Multitouch.Module.stores_inBounds_iff`).
-/

namespace Jordan.Multitouch

open Execution

/-- The type of the field `num_touch`, which is the kernel's: the number that is
read back after a number has been stored. -/
structure NumTouchType where
  convert : Int → Int
  small : ∀ n, 2 ≤ n → n ≤ 10 → convert n = n

/-- What the module uses of `struct qtouch_ts_data`. -/
structure QtouchTsData where
  numTouch : Int
  eepromChecksumFlag : Bool
  eepromChecksum : U16
  checksumCnt : U8
deriving DecidableEq, Repr

/-- Where `multitouch_init` is, once the file in `/proc` exists. -/
inductive InitPhase where
  | created
  | functionsHooked
  | hookedSet
  | done
deriving DecidableEq, Repr

/-- Where a call of `proc_numtouch_write` is, once `wanted_touch` is stored. -/
inductive WritePhase where
  | idle
  | scanned
  | hooked
  | clamped
  | setting
deriving DecidableEq, Repr

/-- The variables of the module, the data of the driver, and what the processes
are doing. -/
structure Module (Writer : Type*) where
  device : QtouchTsData
  /-- Whether `ts_` is set. -/
  ts : Bool
  hooked : Bool
  checksumNeedsCorrection : Bool
  eepromChecksum : U16
  wantedTouch : Int
  touchNum : Int
  /-- Whether the kernel functions are hooked. -/
  installed : Bool
  init : InitPhase
  writes : Writer → WritePhase
  /-- History variable: the number `wanted_touch` was given, until it is clamped. -/
  unclamped : Option Int
  /-- History variable: the numbers stored in `num_touch`. -/
  stores : List Int

/-- The steps that may be interleaved. -/
inductive Action (Writer : Type*) where
  /-- `hook_init()` in `multitouch_init` -/
  | initHook
  /-- `hooked = true` -/
  | initHooked
  /-- `wanted_touch = touch_num` -/
  | initWanted
  /-- The start of `proc_numtouch_write`, given what `sscanf` finds. -/
  | scan (writer : Writer) (text : Option Int)
  /-- `if (!hooked) hook_init()` -/
  | hook (writer : Writer)
  /-- The two comparisons of `wanted_touch`. -/
  | clamp (writer : Writer)
  /-- The test of `touch_num` and `checksumNeedsCorrection`. -/
  | check (writer : Writer)
  /-- `set_numtouch()`, or a reset of the touchscreen. -/
  | set (writer : Writer)
  /-- A call of the hooked `qtouch_set_addr`; `known` when neither `ts` nor
  `ts->pdata` is NULL. -/
  | qtouchSetAddr (known : Bool)
  /-- A call of the hooked `qtouch_hw_init`. -/
  | qtouchHwInit
deriving DecidableEq, Repr

namespace Module

variable (type : NumTouchType) {Writer : Type*}

/-- `set_numtouch` -/
def setNumtouch (m : Module Writer) : Module Writer :=
  if m.ts then
    let stored := type.convert m.wantedTouch
    { m with
      device := ⟨stored, true, 0, 0⟩
      eepromChecksum := m.device.eepromChecksum
      checksumNeedsCorrection := true
      stores := m.stores ++ [stored] }
  else m

/-- `qtouch_set_addr` -/
def qtouchSetAddr (m : Module Writer) (known : Bool) : Module Writer :=
  if known then
    let m := { m with touchNum := m.device.numTouch }
    if m.touchNum ≠ m.wantedTouch then { m with ts := true }.setNumtouch type else m
  else m

/-- `qtouch_hw_init` -/
def qtouchHwInit (m : Module Writer) : Module Writer :=
  if m.checksumNeedsCorrection then
    { m with
      checksumNeedsCorrection := false
      device := { m.device with eepromChecksum := m.eepromChecksum } }
  else m

/-- The comparisons of `wanted_touch` in `proc_numtouch_write`. -/
def clamp (m : Module Writer) : Module Writer :=
  { m with
    wantedTouch :=
      if m.wantedTouch > 10 then 10 else if m.wantedTouch < 2 then 2 else m.wantedTouch
    unclamped := none }

section Step

variable [DecidableEq Writer]

/-- The write goes on in another phase. -/
def enter (m : Module Writer) (writer : Writer) (phase : WritePhase) : Module Writer :=
  { m with writes := Function.update m.writes writer phase }

/-- One step. -/
def step (m : Module Writer) : Action Writer → Option (Module Writer)
  | .initHook =>
      if m.init = .created then some { m with installed := true, init := .functionsHooked }
      else none
  | .initHooked =>
      if m.init = .functionsHooked then some { m with hooked := true, init := .hookedSet }
      else none
  | .initWanted =>
      if m.init = .hookedSet then
        some { m with wantedTouch := m.touchNum, unclamped := some m.touchNum, init := .done }
      else none
  | .scan writer text =>
      if m.writes writer = .idle then
        match text with
        -- the text is too long, or no number
        | none => some m
        | some wanted =>
            some ({ m with wantedTouch := wanted, unclamped := some wanted }.enter writer .scanned)
      else none
  | .hook writer =>
      if m.writes writer = .scanned then
        some ({ m with installed := m.installed || !m.hooked }.enter writer .hooked)
      else none
  | .clamp writer =>
      if m.writes writer = .hooked then some (m.clamp.enter writer .clamped) else none
  | .check writer =>
      if m.writes writer = .clamped then
        if m.touchNum ≠ m.wantedTouch ∧ m.checksumNeedsCorrection = false then
          some (m.enter writer .setting)
        else some (m.enter writer .idle)
      else none
  | .set writer =>
      if m.writes writer = .setting then some ((m.setNumtouch type).enter writer .idle) else none
  | .qtouchSetAddr known => if m.installed then some (m.qtouchSetAddr type known) else none
  | .qtouchHwInit => if m.installed then some m.qtouchHwInit else none

end Step

/-- The module once its file in `/proc` exists, with the parameter `touch_num`. -/
def create (device : QtouchTsData) (touchNum : Int) : Module Writer where
  device := device
  ts := false
  hooked := false
  checksumNeedsCorrection := false
  eepromChecksum := 0
  wantedTouch := 0
  touchNum := touchNum
  installed := false
  init := .created
  writes := fun _ => .idle
  unclamped := some 0
  stores := []

/-! ## What a step does -/

/-- The step runs `set_numtouch` with `ts_` set. -/
def Sets (m : Module Writer) : Action Writer → Prop
  | .set writer => m.writes writer = .setting ∧ m.ts = true
  | .qtouchSetAddr known => known = true ∧ m.device.numTouch ≠ m.wantedTouch
  | _ => False

instance (m : Module Writer) (action : Action Writer) : Decidable (m.Sets action) :=
  match action with
  | .set writer => inferInstanceAs (Decidable (m.writes writer = .setting ∧ m.ts = true))
  | .qtouchSetAddr known =>
      inferInstanceAs (Decidable (known = true ∧ m.device.numTouch ≠ m.wantedTouch))
  | .initHook | .initHooked | .initWanted | .scan _ _ | .hook _ | .clamp _ | .check _
  | .qtouchHwInit => inferInstanceAs (Decidable False)

/-- The checksums, and which of them is to be corrected. -/
def checksums (m : Module Writer) : Bool × U16 × U16 :=
  (m.checksumNeedsCorrection, m.eepromChecksum, m.device.eepromChecksum)

/-- The number that is wanted, and the history of it. -/
def wanted (m : Module Writer) : Int × Option Int := (m.wantedTouch, m.unclamped)

/-- What a step does to the checksums and to the numbers of contacts. -/
inductive Effect (type : NumTouchType) (m : Module Writer) (action : Action Writer)
    (after : Module Writer) : Prop
  | sets (sets : m.Sets action)
      (saved : after.checksums = (true, m.device.eepromChecksum, 0))
      (same : after.wanted = m.wanted)
      (stored : after.stores = m.stores ++ [type.convert m.wantedTouch])
  | restores (silent : ¬ m.Sets action) (needed : m.checksumNeedsCorrection = true)
      (restored : after.checksums = (false, m.eepromChecksum, m.eepromChecksum))
      (same : after.wanted = m.wanted) (stores : after.stores = m.stores)
  | gives (silent : ¬ m.Sets action) (same : after.checksums = m.checksums) (number : Int)
      (given : after.wanted = (number, some number)) (stores : after.stores = m.stores)
  | clamps (silent : ¬ m.Sets action) (same : after.checksums = m.checksums)
      (clamped : after.wanted = m.clamp.wanted) (stores : after.stores = m.stores)
  | keeps (silent : ¬ m.Sets action) (checksums : after.checksums = m.checksums)
      (wanted : after.wanted = m.wanted) (stores : after.stores = m.stores)

variable {type} {m after : Module Writer}

variable (type) in
/-- `set_numtouch` saves the checksum and stores the wanted number, once `ts_` is set. -/
theorem setNumtouch_of_ts (known : m.ts = true) :
    (m.setNumtouch type).checksums = (true, m.device.eepromChecksum, 0) ∧
      (m.setNumtouch type).wanted = m.wanted ∧
      (m.setNumtouch type).stores = m.stores ++ [type.convert m.wantedTouch] := by
  unfold setNumtouch
  rw [if_pos known]
  exact ⟨rfl, rfl, rfl⟩

theorem setNumtouch_of_not_ts (unknown : ¬ m.ts = true) : m.setNumtouch type = m :=
  if_neg unknown

/-- The effect of `qtouch_set_addr`. -/
theorem qtouchSetAddr_effect (m : Module Writer) (known : Bool) :
    Effect type m (.qtouchSetAddr known) (m.qtouchSetAddr type known) := by
  unfold qtouchSetAddr
  cases known with
  | false => exact .keeps (fun sets => nomatch sets.1) rfl rfl rfl
  | true =>
      simp only [↓reduceIte]
      split
      next differs =>
        obtain ⟨saved, same, stored⟩ := setNumtouch_of_ts type
          (m := { m with touchNum := m.device.numTouch, ts := true }) rfl
        exact .sets ⟨rfl, differs⟩ saved same stored
      next equal => exact .keeps (fun sets => equal sets.2) rfl rfl rfl

theorem qtouchHwInit_effect (m : Module Writer) :
    Effect type m .qtouchHwInit m.qtouchHwInit := by
  unfold qtouchHwInit
  split
  next needed => exact .restores id needed rfl rfl rfl
  next => exact .keeps id rfl rfl rfl

theorem set_effect [DecidableEq Writer] (writer : Writer) (setting : m.writes writer = .setting) :
    Effect type m (.set writer) ((m.setNumtouch type).enter writer .idle) := by
  by_cases known : m.ts = true
  · obtain ⟨saved, same, stored⟩ := setNumtouch_of_ts type known
    exact .sets ⟨setting, known⟩ saved same stored
  · rw [setNumtouch_of_not_ts known]
    exact .keeps (fun sets => known sets.2) rfl rfl rfl

/-- Every step has one of these effects. -/
theorem step_effect [DecidableEq Writer] {action : Action Writer}
    (taken : step type m action = some after) :
    Effect type m action after := by
  cases action with
  | initHook =>
      obtain ⟨_, ⟨⟩⟩ := Option.ite_none_right_eq_some.mp taken
      exact .keeps id rfl rfl rfl
  | initHooked =>
      obtain ⟨_, ⟨⟩⟩ := Option.ite_none_right_eq_some.mp taken
      exact .keeps id rfl rfl rfl
  | initWanted =>
      obtain ⟨_, ⟨⟩⟩ := Option.ite_none_right_eq_some.mp taken
      exact .gives id rfl m.touchNum rfl rfl
  | scan writer text =>
      obtain ⟨_, scanned⟩ := Option.ite_none_right_eq_some.mp taken
      cases text with
      | none => exact Option.some.inj scanned ▸ .keeps id rfl rfl rfl
      | some number => exact Option.some.inj scanned ▸ .gives id rfl number rfl rfl
  | hook writer =>
      obtain ⟨_, ⟨⟩⟩ := Option.ite_none_right_eq_some.mp taken
      exact .keeps id rfl rfl rfl
  | clamp writer =>
      obtain ⟨_, ⟨⟩⟩ := Option.ite_none_right_eq_some.mp taken
      exact .clamps id rfl rfl rfl
  | check writer =>
      obtain ⟨_, checked⟩ := Option.ite_none_right_eq_some.mp taken
      split at checked
      next => exact Option.some.inj checked ▸ .keeps id rfl rfl rfl
      next => exact Option.some.inj checked ▸ .keeps id rfl rfl rfl
  | set writer =>
      obtain ⟨setting, ⟨⟩⟩ := Option.ite_none_right_eq_some.mp taken
      exact set_effect writer setting
  | qtouchSetAddr known =>
      obtain ⟨_, ⟨⟩⟩ := Option.ite_none_right_eq_some.mp taken
      exact qtouchSetAddr_effect m known
  | qtouchHwInit =>
      obtain ⟨_, ⟨⟩⟩ := Option.ite_none_right_eq_some.mp taken
      exact qtouchHwInit_effect m

/-! ## The checksum -/

/-- The checksum is where the module will look for it: in the copy while a
correction is needed, and otherwise in its place. -/
def Kept (original : U16) : Bool × U16 × U16 → Prop
  | (true, copy, _) => copy = original
  | (false, _, placed) => placed = original

instance (original : U16) : DecidablePred (Kept original)
  | (true, copy, _) => inferInstanceAs (Decidable (copy = original))
  | (false, _, placed) => inferInstanceAs (Decidable (placed = original))

/-- The checksum of the device is not lost. -/
def ChecksumKept (original : U16) (_ : Module Writer) (_ : Action Writer) (after : Module Writer) :
    Prop :=
  Kept original after.checksums

instance (original : U16) (before : Module Writer) (action : Action Writer)
    (after : Module Writer) : Decidable (ChecksumKept original before action after) :=
  inferInstanceAs (Decidable (Kept original after.checksums))

/-- `set_numtouch` does not run while a correction is needed; the checksum 0 has
nothing to lose. -/
def SetsOnce (original : U16) (before : Module Writer) (action : Action Writer) : Prop :=
  before.Sets action → before.checksumNeedsCorrection = false ∨ original = 0

/-- The invariant: while a correction is needed, 0 is in the checksum's place. -/
def Consistent (original : U16) : Bool × U16 × U16 → Prop
  | (true, copy, placed) => copy = original ∧ placed = 0
  | (false, _, placed) => placed = original

theorem Consistent.kept {original : U16} {checksums : Bool × U16 × U16}
    (consistent : Consistent original checksums) : Kept original checksums :=
  match checksums with
  | (true, _, _) => consistent.1
  | (false, _, _) => consistent

/-- A step keeps the invariant, unless it sets while a correction is needed. -/
theorem Effect.consistent {original : U16} {action : Action Writer}
    (effect : Effect type m action after) (consistent : Consistent original m.checksums)
    (once : m.SetsOnce original action) : Consistent original after.checksums := by
  cases effect with
  | sets sets saved _ _ =>
      rw [saved]
      refine ⟨?_, rfl⟩
      unfold checksums at consistent
      rcases once sets with clear | zero
      · rw [clear] at consistent
        exact consistent
      · cases needed : m.checksumNeedsCorrection with
        | true =>
            rw [needed] at consistent
            exact consistent.2.trans zero.symm
        | false =>
            rw [needed] at consistent
            exact consistent
  | restores _ needed restored _ _ =>
      rw [restored]
      unfold checksums at consistent
      rw [needed] at consistent
      exact consistent.1
  | gives _ same _ _ _ => exact same ▸ consistent
  | clamps _ same _ _ => exact same ▸ consistent
  | keeps _ same _ _ => exact same ▸ consistent

/-- A checksum that is not lost was not replaced twice. -/
theorem Effect.setsOnce {original : U16} {action : Action Writer}
    (effect : Effect type m action after) (consistent : Consistent original m.checksums)
    (kept : Kept original after.checksums) : m.SetsOnce original action := by
  intro sets
  cases effect with
  | sets _ saved _ _ =>
      rw [saved] at kept
      cases needed : m.checksumNeedsCorrection with
      | false => exact .inl rfl
      | true =>
          right
          unfold checksums at consistent
          rw [needed] at consistent
          exact kept.symm.trans consistent.2
  | restores silent _ _ _ _ => exact (silent sets).elim
  | gives silent _ _ _ _ => exact (silent sets).elim
  | clamps silent _ _ _ => exact (silent sets).elim
  | keeps silent _ _ _ => exact (silent sets).elim

/-- **The checksum is kept** along a run exactly when `set_numtouch` never runs
while a correction is needed, unless the checksum is 0. -/
theorem checksum_kept_iff [DecidableEq Writer] (type : NumTouchType) (device : QtouchTsData)
    (touchNum : Int) (actions : List (Action Writer)) :
    Along (step type) (ChecksumKept device.eepromChecksum) (create device touchNum) actions ↔
      Guarded (step type) (SetsOnce device.eepromChecksum) (create device touchNum) actions := by
  apply along_iff (fun m => Consistent device.eepromChecksum m.checksums)
  · intro before action after consistent once taken
    have still := (step_effect taken).consistent consistent once
    exact ⟨still, still.kept⟩
  · intro before action after consistent taken kept
    exact (step_effect taken).setsOnce consistent kept
  · rfl

/-- A `num_touch` of one byte. -/
def byte : NumTouchType where
  convert := fun n => n % 256
  small := by
    intro n above below
    omega

/-- The driver as the kernel starts it. -/
def bootDevice : QtouchTsData := ⟨2, false, 0x1234, 0⟩

/-- The start of the module, and the first call of the hook. -/
def startup : List (Action Unit) := [.initHook, .initHooked, .initWanted, .qtouchSetAddr true]

/-- A write without interruption. -/
def write (n : Int) : List (Action Unit) :=
  [.scan () (some n), .hook (), .clamp (), .check (), .set ()]

/-- 5 contacts are written, which the next call of `qtouch_set_addr` sets; then
7 are written, and `qtouch_set_addr` is called again before `qtouch_hw_init`. -/
def secondRequest : List (Action Unit) :=
  startup ++ write 5 ++ [.qtouchSetAddr true, .scan () (some 7), .hook (), .clamp (), .check (),
    .qtouchSetAddr true]

/-- The copy of the checksum is overwritten. -/
theorem secondRequest_loses_checksum :
    ¬ Along (step byte) (ChecksumKept bootDevice.eepromChecksum) (create bootDevice 2)
      secondRequest := by
  decide

/-! ## The numbers of contacts -/

/-- A number that the array `finger_data` of the driver has room for. -/
def InBounds (n : Int) : Prop := 2 ≤ n ∧ n ≤ 10

instance (n : Int) : Decidable (InBounds n) := inferInstanceAs (Decidable (_ ∧ _))

/-- All numbers stored in `num_touch` are in bounds. -/
def StoresInBounds (_ : Module Writer) (_ : Action Writer) (after : Module Writer) : Prop :=
  ∀ n ∈ after.stores, InBounds n

instance (before : Module Writer) (action : Action Writer) (after : Module Writer) :
    Decidable (StoresInBounds before action after) :=
  inferInstanceAs (Decidable (∀ n ∈ after.stores, InBounds n))

/-- `set_numtouch` runs only when `wanted_touch` has been clamped since it was
given, or needs no clamping. -/
def SetsClamped (type : NumTouchType) (before : Module Writer) (action : Action Writer) : Prop :=
  before.Sets action → ∀ n ∈ before.unclamped, InBounds (type.convert n)

/-- What is known of `wanted_touch`: the number it was given, until it is clamped. -/
def Tracked : Int × Option Int → Prop
  | (wanted, some number) => wanted = number
  | (wanted, none) => InBounds wanted

theorem clamp_inBounds (m : Module Writer) : Tracked m.clamp.wanted := by
  show InBounds (if m.wantedTouch > 10 then 10 else if m.wantedTouch < 2 then 2 else m.wantedTouch)
  unfold InBounds
  split_ifs <;> omega

theorem Effect.tracked {action : Action Writer} (effect : Effect type m action after)
    (tracked : Tracked m.wanted) : Tracked after.wanted := by
  cases effect with
  | sets _ _ same _ => exact same ▸ tracked
  | restores _ _ _ same _ => exact same ▸ tracked
  | gives _ _ number given _ =>
      rw [given]
      rfl
  | clamps _ _ clamped _ => exact clamped ▸ m.clamp_inBounds
  | keeps _ _ same _ => exact same ▸ tracked

/-- The number that is stored is in bounds exactly when it has been clamped or
needs no clamping. -/
theorem Tracked.inBounds_iff (tracked : Tracked m.wanted) :
    InBounds (type.convert m.wantedTouch) ↔ ∀ n ∈ m.unclamped, InBounds (type.convert n) := by
  unfold wanted at tracked
  cases given : m.unclamped with
  | none =>
      rw [given] at tracked
      obtain ⟨above, below⟩ : InBounds m.wantedTouch := tracked
      rw [type.small _ above below]
      exact ⟨fun _ _ => nofun, fun _ => ⟨above, below⟩⟩
  | some number =>
      rw [given] at tracked
      have same : m.wantedTouch = number := tracked
      simp only [same, Option.mem_def, Option.some.injEq, forall_eq']

/-- A step stores numbers in bounds exactly when it is guarded. -/
theorem Effect.storesInBounds_iff {action : Action Writer} (effect : Effect type m action after)
    (tracked : Tracked m.wanted) (before : ∀ n ∈ m.stores, InBounds n) :
    (∀ n ∈ after.stores, InBounds n) ↔ m.SetsClamped type action := by
  have silent_iff (silent : ¬ m.Sets action) (stores : after.stores = m.stores) :
      (∀ n ∈ after.stores, InBounds n) ↔ m.SetsClamped type action :=
    ⟨fun _ sets => (silent sets).elim, fun _ => stores ▸ before⟩
  cases effect with
  | sets sets _ _ stored =>
      unfold SetsClamped
      rw [stored, ← tracked.inBounds_iff]
      simp only [List.forall_mem_append, List.forall_mem_singleton, sets, true_implies]
      exact and_iff_right before
  | restores silent _ _ _ stores => exact silent_iff silent stores
  | gives silent _ _ _ stores => exact silent_iff silent stores
  | clamps silent _ _ stores => exact silent_iff silent stores
  | keeps silent _ _ stores => exact silent_iff silent stores

/-- **The number of contacts stays in bounds** along a run exactly when
`set_numtouch` never runs on a number that still has to be clamped. -/
theorem stores_inBounds_iff [DecidableEq Writer] (type : NumTouchType) (device : QtouchTsData)
    (touchNum : Int) (actions : List (Action Writer)) :
    Along (step type) StoresInBounds (create device touchNum) actions ↔
      Guarded (step type) (SetsClamped type) (create device touchNum) actions := by
  apply along_iff (fun m => Tracked m.wanted ∧ ∀ n ∈ m.stores, InBounds n)
  · intro before action after ⟨tracked, bounded⟩ clamped taken
    have effect := step_effect taken
    have still := (effect.storesInBounds_iff tracked bounded).mpr clamped
    exact ⟨⟨effect.tracked tracked, still⟩, still⟩
  · intro before action after ⟨tracked, bounded⟩ taken still
    exact ((step_effect taken).storesInBounds_iff tracked bounded).mp still
  · exact ⟨rfl, nofun⟩

/-- With the parameter 11, the first call of the hook stores 11. -/
theorem largeParameter_outOfBounds :
    ¬ Along (step byte) StoresInBounds (create bootDevice 11) startup := by
  decide

end Module

end Jordan.Multitouch
