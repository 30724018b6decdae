import Jordan.Machine
import Jordan.Library.BitMask
import Jordan.Library.Execution

/-! # The proximity tunables

`isl-proximity.c` lets `/proc/proximity` change the `CONFIGURE` register of the
sensor: `enabled` is bit 7, `speed` bits 6 to 4 and `highpower` bit 3. Every
write reads the register, changes its field and writes the register back.

When the read fails, only `isl_enable` stops; the other functions go on with a
register of 0 and lose the bits of the other fields. Reading `distance` enables
the sensor for a moment and restores what it has read
(`Jordan.Proximity.keepsOthers_iff_readsServe`).
-/

namespace Jordan.Proximity

open Execution BitMask

/-- How the loop of `defy_isl_read_reg` ends: the register is transferred, or the
last transfer had another result. -/
inductive RegRead where
  | transferred
  | failed (error : Int)
deriving DecidableEq, Repr

/-- `isl_read_reg`: what it returns, and `*val`. A transfer that fails with 0
returns 0 as well, and then `*val` is the 0 that `value` starts with. -/
def islReadReg (register : U8) (read : RegRead) (val : U32) : Int × U32 :=
  match read with
  | .transferred => (0, register.setWidth 32)
  | .failed error => (error, if error = 0 then 0 else val)

/-- The `CONFIGURE` register, and the variables of the module. -/
structure Module where
  configure : U8
  enabled : U32
  highpower : U32
  speed : U32
  distance : U32
deriving DecidableEq, Repr

namespace Module

/-- `isl_write_reg(ISL29030_CONFIGURE, regv)`, which succeeds. -/
def writeConfigure (m : Module) (regv : U32) : Module :=
  { m with configure := (regv &&& 0xFF#32).setWidth 8 }

/-- `isl_enable` -/
def islEnable (m : Module) (onoff : U32) (read : RegRead) : Module :=
  let (ret, regv) := islReadReg m.configure read 0
  if ret = 0 then
    m.writeConfigure (if onoff ≠ 0 then regv ||| 0x80#32 else regv &&& 0x7F#32)
  else m

/-- `proc_enabled_write`, given what `sscanf` finds. -/
def enabledWrite (m : Module) (text : Option U32) (read : RegRead) : Module :=
  match text with
  | some value => { m with enabled := value }.islEnable value read
  | none => m

/-- `proc_highpower_write` -/
def highpowerWrite (m : Module) (text : Option U32) (read : RegRead) : Module :=
  match text with
  | some value =>
      let (_, regv) := islReadReg m.configure read 0
      let regv := if value ≠ 0 then regv ||| 0x8#32 else regv &&& 0xF7#32
      { m.writeConfigure regv with highpower := (regv &&& 0x08#32) >>> 3 }
  | none => m

/-- `proc_speed_write` -/
def speedWrite (m : Module) (text : Option U32) (read : RegRead) : Module :=
  match text with
  | some value =>
      let speed := if 6 < value then 6 else value
      let (_, regv) := islReadReg m.configure read 0
      let sleep := (speed <<< 4) &&& 0x70#32
      { m.writeConfigure (regv &&& 0x8F#32 ||| sleep) with speed := speed }
  | none => m

/-- `isl_read_reg(ISL29030_PROX_DATA, &distance)` -/
def readDistance (m : Module) (proxData : U8) (read : RegRead) : Module :=
  { m with distance := (islReadReg proxData read m.distance).2 }

/-- `proc_distance_read`, at a file offset. -/
def distanceRead (m : Module) (offset : Nat) (configure enable data : RegRead) (proxData : U8) :
    Module :=
  if 0 < offset then m
  else
    let (_, regv) := islReadReg m.configure configure 0
    let enabled : U32 := if regv &&& 0x80#32 ≠ 0 then 1 else 0
    let m := { m with enabled := enabled }
    if enabled = 0 then
      -- temporary enable, then restore original state
      ((m.islEnable 1 enable).readDistance proxData data).writeConfigure regv
    else m.readDistance proxData data

end Module

/-- The operations, with the outcomes of their register reads. -/
inductive Operation where
  | enabledWrite (text : Option U32) (read : RegRead)
  | highpowerWrite (text : Option U32) (read : RegRead)
  | speedWrite (text : Option U32) (read : RegRead)
  | distanceRead (offset : Nat) (configure enable data : RegRead) (proxData : U8)
deriving DecidableEq, Repr

/-- One operation. -/
def step (m : Module) : Operation → Option Module
  | .enabledWrite text read => some (m.enabledWrite text read)
  | .highpowerWrite text read => some (m.highpowerWrite text read)
  | .speedWrite text read => some (m.speedWrite text read)
  | .distanceRead offset configure enable data proxData =>
      some (m.distanceRead offset configure enable data proxData)

/-- The bits of `CONFIGURE` that an operation is for. -/
def Operation.field : Operation → U8
  | .enabledWrite _ _ => 0x80
  | .highpowerWrite _ _ => 0x08
  | .speedWrite _ _ => 0x70
  | .distanceRead _ _ _ _ _ => 0x00

/-- The bits outside the field of the operation are what they were. -/
def KeepsOthers (before : Module) (operation : Operation) (after : Module) : Prop :=
  after.configure &&& ~~~operation.field = before.configure &&& ~~~operation.field

instance (before : Module) (operation : Operation) (after : Module) :
    Decidable (KeepsOthers before operation after) :=
  inferInstanceAs (Decidable (_ = _))

/-- The read of `CONFIGURE` whose value is written back. -/
def Operation.servingRead : Operation → Option RegRead
  | .enabledWrite text read => text.map fun _ => read
  | .highpowerWrite text read => text.map fun _ => read
  | .speedWrite text read => text.map fun _ => read
  | .distanceRead offset configure _ _ _ => if 0 < offset then none else some configure

/-- After such a failure the function goes on, with a register of 0. -/
def Operation.ignores (operation : Operation) (error : Int) : Prop :=
  match operation with
  | .enabledWrite _ _ => error = 0
  | _ => True

/-- No failed read is ignored, unless the bits it would lose are clear. -/
def ReadServes (before : Module) (operation : Operation) : Prop :=
  ∀ error, operation.servingRead = some (.failed error) → operation.ignores error →
    before.configure &&& ~~~operation.field = 0

/-! ## What an operation writes -/

/-- The register the functions go on with, when `regv` starts as 0. -/
def RegRead.served (read : RegRead) (register : U8) : U8 :=
  match read with
  | .transferred => register
  | .failed _ => 0

theorem islReadReg_regv (register : U8) (read : RegRead) :
    (islReadReg register read 0).2 = (read.served register).setWidth 32 := by
  cases read with
  | transferred => rfl
  | failed error => exact ite_self 0

@[simp] theorem Module.writeConfigure_configure (m : Module) (regv : U32) :
    (m.writeConfigure regv).configure = regv.setWidth 8 := by
  have mask : (0xFF#32).setWidth 8 = BitVec.allOnes 8 := rfl
  simp only [Module.writeConfigure, BitVec.setWidth_and, mask, BitVec.and_allOnes]

/-- Setting or clearing bits of a field, as `isl_enable` and `proc_highpower_write` do. -/
theorem configure_setOrClear (m : Module) (register : U8) (set : Prop) [Decidable set]
    {bits keep : U32} {field : U8} (bitsAre : bits.setWidth 8 = field)
    (keepIs : keep.setWidth 8 = ~~~field) :
    let regv := register.setWidth 32
    (m.writeConfigure (if set then regv ||| bits else regv &&& keep)).configure &&& ~~~field =
      register &&& ~~~field := by
  simp only [Module.writeConfigure_configure]
  split
  · rw [BitVec.setWidth_or, bitsAre, BitVec.setWidth_setWidth_of_le _ (by decide),
      BitVec.setWidth_eq]
    exact or_and_not register (BitVec.and_not_self field)
  · rw [BitVec.setWidth_and, keepIs, BitVec.setWidth_setWidth_of_le _ (by decide),
      BitVec.setWidth_eq]
    exact and_not_and_not register field

/-- What an operation does to the register: nothing, when nothing is read or a
failed read stops it; otherwise the bits outside its field are those it was served. -/
inductive Rewrites (m : Module) (operation : Operation) (after : Module) : Prop
  | stopped (same : after.configure = m.configure)
      (heeded : ∀ error, operation.servingRead = some (.failed error) →
        ¬ operation.ignores error)
  | served (read : RegRead) (serving : operation.servingRead = some read)
      (ignored : ∀ error, read = .failed error → operation.ignores error)
      (others : after.configure &&& ~~~operation.field =
        read.served m.configure &&& ~~~operation.field)

/-- A write to `enabled` rewrites its own field, if anything. -/
theorem enabledWrite_rewrites (m : Module) (text : Option U32) (read : RegRead) :
    Rewrites m (.enabledWrite text read) (m.enabledWrite text read) := by
  cases text with
  | none => exact .stopped rfl fun _ => nofun
  | some value =>
      have regv := islReadReg_regv m.configure read
      have keep : (0x7F#32).setWidth 8 = ~~~(0x80 : U8) := by decide
      simp only [Module.enabledWrite, Module.islEnable, regv]
      split
      next succeeds =>
        refine .served read rfl ?_ (configure_setOrClear _ _ _ rfl keep)
        rintro error rfl
        exact succeeds
      next fails =>
        refine .stopped rfl fun error same ignored => fails ?_
        obtain rfl : read = .failed error := Option.some.inj same
        exact ignored

theorem highpowerWrite_rewrites (m : Module) (text : Option U32) (read : RegRead) :
    Rewrites m (.highpowerWrite text read) (m.highpowerWrite text read) := by
  cases text with
  | none => exact .stopped rfl fun _ => nofun
  | some value =>
      refine .served read rfl (fun _ _ => trivial) ?_
      have keep : (0xF7#32).setWidth 8 = ~~~(0x08 : U8) := by decide
      simp only [Module.highpowerWrite, islReadReg_regv]
      exact configure_setOrClear m _ _ rfl keep

/-- A write to `speed` rewrites its own field, if anything. -/
theorem speedWrite_rewrites (m : Module) (text : Option U32) (read : RegRead) :
    Rewrites m (.speedWrite text read) (m.speedWrite text read) := by
  cases text with
  | none => exact .stopped rfl fun _ => nofun
  | some value =>
      refine .served read rfl (fun _ _ => trivial) ?_
      have keep : (0x8F#32).setWidth 8 = ~~~(0x70 : U8) := rfl
      have field : (0x70#32).setWidth 8 = (0x70 : U8) := rfl
      simp only [Module.speedWrite, islReadReg_regv, Module.writeConfigure_configure,
        BitVec.setWidth_or, BitVec.setWidth_and, keep, field, Operation.field,
        BitVec.setWidth_setWidth_of_le _ (by decide : 8 ≤ 32), BitVec.setWidth_eq]
      rw [or_and_not _ (by rw [BitVec.and_assoc, BitVec.and_not_self]; exact BitVec.and_zero)]
      exact and_not_and_not _ _

/-- A read of the distance rewrites its own field, if anything. -/
theorem distanceRead_rewrites (m : Module) (offset : Nat) (configure enable data : RegRead)
    (proxData : U8) :
    Rewrites m (.distanceRead offset configure enable data proxData)
      (m.distanceRead offset configure enable data proxData) := by
  unfold Module.distanceRead
  by_cases later : 0 < offset
  · simp only [later, ↓reduceIte]
    refine .stopped rfl fun error serving => ?_
    simp only [Operation.servingRead, later, ↓reduceIte, reduceCtorEq] at serving
  · have serving : Operation.servingRead (.distanceRead offset configure enable data proxData) =
        some configure := if_neg later
    refine .served configure serving (fun _ _ => trivial) ?_
    have one : ¬ (1 : U32) = 0 := by decide
    simp only [later, ↓reduceIte, islReadReg_regv]
    by_cases enabled : (configure.served m.configure).setWidth 32 &&& 0x80#32 ≠ 0
    · rw [if_pos enabled, if_neg one]
      -- the bit that is set has been read
      cases configure with
      | transferred => rfl
      | failed error =>
          have clear : (0 : U8).setWidth 32 &&& 0x80#32 = 0 := by decide
          exact (enabled clear).elim
    · rw [if_neg enabled, if_pos rfl, Module.writeConfigure_configure,
        BitVec.setWidth_setWidth_of_le _ (by decide), BitVec.setWidth_eq]

theorem step_rewrites {before after : Module} {operation : Operation}
    (taken : step before operation = some after) : Rewrites before operation after := by
  cases operation with
  | enabledWrite text read => exact Option.some.inj taken ▸ enabledWrite_rewrites _ _ _
  | highpowerWrite text read => exact Option.some.inj taken ▸ highpowerWrite_rewrites _ _ _
  | speedWrite text read => exact Option.some.inj taken ▸ speedWrite_rewrites _ _ _
  | distanceRead offset configure enable data proxData =>
      exact Option.some.inj taken ▸ distanceRead_rewrites _ _ _ _ _ _

/-- An operation keeps the bits of the others exactly when its read serves. -/
theorem Rewrites.keepsOthers_iff {before after : Module} {operation : Operation}
    (rewrites : Rewrites before operation after) :
    KeepsOthers before operation after ↔ ReadServes before operation := by
  cases rewrites with
  | stopped same heeded =>
      refine ⟨fun _ error serving ignored => (heeded error serving ignored).elim, fun _ => ?_⟩
      rw [KeepsOthers, same]
  | served read serving ignored others =>
      unfold KeepsOthers ReadServes
      rw [others, serving]
      cases read with
      | transferred => exact ⟨fun _ _ => nofun, fun _ => rfl⟩
      | failed error =>
          simp only [RegRead.served, Option.some.injEq, RegRead.failed.injEq, forall_eq',
            ignored error rfl, true_implies]
          rw [BitVec.ofNat_eq_ofNat, BitVec.zero_and]
          exact eq_comm

/-- **The fields are independent** along a run exactly when no failed read is
ignored on a register with bits outside the field. -/
theorem keepsOthers_iff_readsServe (start : Module) (operations : List Operation) :
    Along step KeepsOthers start operations ↔ Guarded step ReadServes start operations :=
  along_iff (fun _ => True)
    (fun _ _ _ _ serves taken => ⟨trivial, (step_rewrites taken).keepsOthers_iff.mpr serves⟩)
    (fun _ _ _ _ taken keeps => (step_rewrites taken).keepsOthers_iff.mp keeps) trivial operations

/-- Switching to high power while the sensor is enabled, with a failing read. -/
def failedRead : Operation := .highpowerWrite (some 1) (.failed (-5))

/-- The sensor is switched off. -/
theorem failedRead_loses_enabled :
    ¬ Along step KeepsOthers ⟨0xB0, 1, 0, 3, 0⟩ [failedRead] := by
  decide

end Jordan.Proximity
