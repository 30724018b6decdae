import Jordan.Library.Retry
import Jordan.Proximity.IslProximity

/-! # Reading and writing a register of the sensor

`defy_isl_read_reg` and `defy_isl_write_reg` of `isl-proximity.c` try a transfer up
to five times. One variable of the reader holds what the two calls of an attempt
return, and then what the function returns. A transfer of no bytes is an attempt
that failed, but if it is the last one, its 0 is returned, which stands for
success.

The reader tells the truth exactly when an attempt transfers the register or the
fifth one does not return 0 (`Jordan.Proximity.Transfers.truthful_iff`). The writer
returns an error number of its own, and always does
(`Jordan.Proximity.Transfers.defyIslWriteReg_eq_zero_iff`).
-/

namespace Jordan.Proximity.Transfers

/-- `LD_ISL29030_ALLOWED_R_BYTES` of `isl29030.h`, as the next two. -/
abbrev allowedRBytes : Int := 1

/-- `LD_ISL29030_ALLOWED_W_BYTES` -/
abbrev allowedWBytes : Int := 2

/-- `LD_ISL29030_MAX_RW_RETRIES` -/
abbrev maxRwRetries : Nat := 5

/-- What `i2c_master_send` and `i2c_master_recv` return in an attempt, and what is
then in `dest_buffer`. -/
structure Transfer where
  send : Int
  recv : Int
  byte : U8
deriving DecidableEq, Repr

namespace Transfer

/-- `error` behind an attempt. -/
def error (t : Transfer) : Int := if t.send = 1 then t.recv else t.send

/-- The address of the register is sent and the byte is received. -/
def Transferred (t : Transfer) : Prop := t.send = 1 ∧ t.recv = 1

/-- One of the calls transfers no byte, and says so with 0. -/
def Empty (t : Transfer) : Prop := t.send = 0 ∨ (t.send = 1 ∧ t.recv = 0)

instance (t : Transfer) : Decidable t.Transferred := inferInstanceAs (Decidable (_ ∧ _))

instance (t : Transfer) : Decidable t.Empty := inferInstanceAs (Decidable (_ ∨ _))

theorem error_eq_one_iff (t : Transfer) : t.error = allowedRBytes ↔ t.Transferred := by
  unfold error Transferred
  by_cases sent : t.send = 1
  · rw [if_pos sent]
    exact (and_iff_right sent).symm
  · rw [if_neg sent]
    exact iff_of_false sent fun both => sent both.1

theorem error_eq_zero_iff (t : Transfer) : t.error = 0 ↔ t.Empty := by
  unfold error Empty
  by_cases sent : t.send = 1
  · rw [if_pos sent, sent]
    simp
  · rw [if_neg sent]
    simp [sent]

end Transfer

/-! ## The functions -/

/-- The attempts to read a register, by their number. -/
abbrev Client := U8 → Nat → Transfer

/-- What `defy_isl_read_reg` returns, `*value` then, and how many attempts it made. -/
structure ReadCall where
  ret : Int
  value : Option U8
  attempts : Nat
deriving DecidableEq, Repr

/-- The last attempt of `defy_isl_read_reg`. -/
def lastRead (client : Client) (reg : U8) : Nat :=
  Retry.last (client reg) (fun t => t.error = allowedRBytes) 0 (maxRwRetries - 1)

/-- `defy_isl_read_reg`; `value` is what the pointer points to, if it is not `NULL`. -/
def defyIslReadReg (client : Client) (reg : U8) (value : Option U8) : ReadCall :=
  let error := (client reg (lastRead client reg)).error
  let destBuffer := (client reg (lastRead client reg)).byte
  let attempts := lastRead client reg + 1
  if error = allowedRBytes then ⟨0, value.map fun _ => destBuffer, attempts⟩
  else ⟨error, value, attempts⟩

/-- `isl_read_reg`: what it returns, and `*val`; `present` says whether
`isl29030_misc_data` is set. -/
def islReadReg (present : Bool) (client : Client) (reg : U8) (val : U32) : Int × U32 :=
  if present = false then (-1, val)
  else
    let call := defyIslReadReg client reg (some 0)
    if call.ret = 0 then (call.ret, (call.value.getD 0).setWidth 32) else (call.ret, val)

/-- `defy_isl_write_reg`, given what `i2c_master_send` returns in the attempts. -/
def defyIslWriteReg (sends : Nat → Int) : Int :=
  let bytes := sends (Retry.last sends (fun bytes => bytes = allowedWBytes) 0 (maxRwRetries - 1))
  if bytes ≠ allowedWBytes then EIO.neg else 0

/-! ## What a caller may rely on -/

/-- Success is reported exactly when an attempt succeeded, and `*value` is the byte
of that attempt; otherwise it is what it was. -/
structure ReadCall.Truthful (client : Client) (reg : U8) (value : Option U8) (call : ReadCall) :
    Prop where
  attempts_le : call.attempts ≤ maxRwRetries
  ret_iff : call.ret = 0 ↔ ∃ i < call.attempts, (client reg i).Transferred
  received : ∀ i < call.attempts, (client reg i).Transferred →
    call.value = value.map fun _ => (client reg i).byte
  untouched : (¬ ∃ i < call.attempts, (client reg i).Transferred) → call.value = value

/-- The calls for a register are truthful, and `*val` becomes nothing else than a
byte that was received. -/
structure Truthful (client : Client) (reg : U8) : Prop where
  reads : ∀ value, (defyIslReadReg client reg value).Truthful client reg value
  stores : ∀ present val, (islReadReg present client reg val).2 = val ∨
    ∃ i < (defyIslReadReg client reg (some 0)).attempts, (client reg i).Transferred ∧
      (islReadReg present client reg val).2 = (client reg i).byte.setWidth 32

variable (client : Client) (reg : U8)

theorem lastRead_lt : lastRead client reg < maxRwRetries := by
  have below := (Retry.last_bounds (client reg) (fun t => t.error = allowedRBytes) 0
    (maxRwRetries - 1)).2
  exact Nat.lt_of_le_of_lt below (by decide)

/-- The reader succeeds when one of the attempts it may make does. -/
theorem transferred_lastRead_iff :
    (client reg (lastRead client reg)).Transferred ↔
      ∃ i < maxRwRetries, (client reg i).Transferred := by
  rw [← Transfer.error_eq_one_iff]
  unfold lastRead
  rw [Retry.done_last_zero_iff (client reg) (fun t => t.error = allowedRBytes) (by decide)]
  simp only [Transfer.error_eq_one_iff]

/-- Of the attempts made, only the last one may have succeeded. -/
theorem eq_lastRead {i : Nat} (made : i < lastRead client reg + 1)
    (transferred : (client reg i).Transferred) : i = lastRead client reg :=
  Retry.eq_last_of_done (client reg) (fun t => t.error = allowedRBytes) (Nat.zero_le i)
    (Nat.le_of_lt_succ made) ((Transfer.error_eq_one_iff _).mpr transferred)

/-- When every attempt fails, the last one is the fifth. -/
theorem lastRead_of_none (none : ¬ ∃ i < maxRwRetries, (client reg i).Transferred) :
    lastRead client reg = maxRwRetries - 1 := by
  have ended := Retry.done_last_or (client reg) (fun t => t.error = allowedRBytes) 0
    (maxRwRetries - 1)
  rw [← lastRead, Transfer.error_eq_one_iff, transferred_lastRead_iff, Nat.zero_add] at ended
  exact ended.resolve_left none

theorem made_iff : (∃ i < lastRead client reg + 1, (client reg i).Transferred) ↔
    ∃ i < maxRwRetries, (client reg i).Transferred := by
  rw [← transferred_lastRead_iff]
  constructor
  · rintro ⟨i, made, transferred⟩
    exact eq_lastRead client reg made transferred ▸ transferred
  · exact fun transferred => ⟨_, Nat.lt_succ_self _, transferred⟩

/-- A call with an attempt that succeeds. -/
theorem defyIslReadReg_of_transferred (value : Option U8)
    (transferred : (client reg (lastRead client reg)).Transferred) :
    defyIslReadReg client reg value =
      ⟨0, value.map fun _ => (client reg (lastRead client reg)).byte, lastRead client reg + 1⟩ :=
  if_pos ((Transfer.error_eq_one_iff _).mpr transferred)

/-- A call whose attempts all fail. -/
theorem defyIslReadReg_of_none (value : Option U8)
    (none : ¬ ∃ i < maxRwRetries, (client reg i).Transferred) :
    defyIslReadReg client reg value =
      ⟨(client reg (maxRwRetries - 1)).error, value, maxRwRetries⟩ := by
  have failed : ¬ (client reg (lastRead client reg)).error = allowedRBytes := by
    rwa [Transfer.error_eq_one_iff, transferred_lastRead_iff]
  simp only [defyIslReadReg]
  rw [if_neg failed, lastRead_of_none client reg none]
  rfl

/-- With an attempt that succeeds, the calls are truthful. -/
theorem truthful_of_transferred (some : ∃ i < maxRwRetries, (client reg i).Transferred) :
    Truthful client reg := by
  have transferred := (transferred_lastRead_iff client reg).mpr some
  have call := fun value => defyIslReadReg_of_transferred client reg value transferred
  constructor
  · intro value
    rw [call]
    exact
      { attempts_le := lastRead_lt client reg
        ret_iff := iff_of_true rfl ((made_iff client reg).mpr some)
        received := fun i made here => by rw [eq_lastRead client reg made here]
        untouched := fun none => absurd ((made_iff client reg).mpr some) none }
  · intro present val
    cases present with
    | false => exact .inl rfl
    | true =>
        refine .inr ⟨lastRead client reg, ?_, transferred, ?_⟩
        · rw [call]
          exact Nat.lt_succ_self _
        · simp only [islReadReg, call]
          rfl

/-- Without one, they are truthful when the last attempt does not end with 0. -/
theorem truthful_iff_of_none (none : ¬ ∃ i < maxRwRetries, (client reg i).Transferred) :
    Truthful client reg ↔ ¬ (client reg (maxRwRetries - 1)).Empty := by
  have call := fun value => defyIslReadReg_of_none client reg value none
  rw [← Transfer.error_eq_zero_iff]
  constructor
  · intro truthful reported
    have claimed := (truthful.reads Option.none).ret_iff
    rw [call] at claimed
    exact none (claimed.mp reported)
  · intro reported
    constructor
    · intro value
      rw [call]
      exact
        { attempts_le := Nat.le_refl _
          ret_iff := iff_of_false reported none
          received := fun i made here => absurd ⟨i, made, here⟩ none
          untouched := fun _ => rfl }
    · intro present val
      left
      cases present with
      | false => rfl
      | true =>
          simp only [islReadReg, call]
          rw [if_neg (by decide), if_neg reported]

/-- **Failures are reported** exactly when there is no read whose attempts all fail
and whose last one transfers no byte without an error. -/
theorem truthful_iff (client : Client) (reg : U8) :
    Truthful client reg ↔
      (∃ i < maxRwRetries, (client reg i).Transferred) ∨
        ¬ (client reg (maxRwRetries - 1)).Empty := by
  by_cases some : ∃ i < maxRwRetries, (client reg i).Transferred
  · exact iff_of_true (truthful_of_transferred client reg some) (.inl some)
  · rw [truthful_iff_of_none client reg some, or_iff_right some]

/-- The bus answers every attempt with 0: the call reports success and leaves
`*value`, and `*val` becomes 0. -/
theorem not_truthful_of_silence : ¬ Truthful (fun _ _ => ⟨0, 0, 0⟩) 0x01 := by
  intro truthful
  have claimed : (defyIslReadReg (fun _ _ => ⟨0, 0, 0⟩) 0x01 none).ret = 0 := by decide
  obtain ⟨i, -, sent, -⟩ := (truthful.reads none).ret_iff.mp claimed
  cases sent

/-! ## The writer, and the register functions -/

/-- The writer reports success exactly when an attempt wrote both bytes. -/
theorem defyIslWriteReg_eq_zero_iff (sends : Nat → Int) :
    defyIslWriteReg sends = 0 ↔ ∃ i < maxRwRetries, sends i = allowedWBytes := by
  rw [← Retry.done_last_zero_iff sends (fun bytes => bytes = allowedWBytes) (by decide)]
  simp only [defyIslWriteReg]
  by_cases written : sends (Retry.last sends (fun bytes => bytes = allowedWBytes) 0
      (maxRwRetries - 1)) = allowedWBytes
  · rw [if_neg (not_not_intro written)]
    exact iff_of_true rfl written
  · rw [if_pos written]
    exact iff_of_false (ne_of_lt EIO.neg_lt_zero) written

/-- How the attempts to read a register end. -/
def regRead (present : Bool) (client : Client) (reg : U8) : RegRead :=
  let error := (client reg (lastRead client reg)).error
  if present = false then .failed (-1)
  else if error = allowedRBytes then .transferred
  else .failed error

/-- The register functions see of the attempts only how they end. -/
theorem islReadReg_eq (present : Bool) (client : Client) (reg : U8) (val : U32) :
    islReadReg present client reg val =
      Proximity.islReadReg (client reg (lastRead client reg)).byte (regRead present client reg)
        val := by
  cases present with
  | false => rfl
  | true =>
      by_cases transferred : (client reg (lastRead client reg)).error = allowedRBytes
      · have read : regRead true client reg = .transferred := if_pos transferred
        simp only [islReadReg, defyIslReadReg, if_pos transferred, read]
        rfl
      · have read : regRead true client reg =
            .failed (client reg (lastRead client reg)).error := if_neg transferred
        simp only [islReadReg, defyIslReadReg, if_neg transferred, read, Proximity.islReadReg]
        by_cases reported : (client reg (lastRead client reg)).error = 0
        · rw [if_neg (by decide), if_pos reported, if_pos reported]
          rfl
        · rw [if_neg (by decide), if_neg reported, if_neg reported]

/-- `isl_enable` goes on after a failure only where the reader is not truthful. -/
theorem regRead_eq_failed_zero_iff :
    regRead true client reg = .failed 0 ↔ ¬ Truthful client reg := by
  by_cases some : ∃ i < maxRwRetries, (client reg i).Transferred
  · have read : regRead true client reg = .transferred :=
      if_pos ((Transfer.error_eq_one_iff _).mpr ((transferred_lastRead_iff client reg).mpr some))
    rw [read]
    exact iff_of_false RegRead.noConfusion
      (not_not_intro (truthful_of_transferred client reg some))
  · have failed : ¬ (client reg (lastRead client reg)).error = allowedRBytes := by
      rwa [Transfer.error_eq_one_iff, transferred_lastRead_iff]
    have read : regRead true client reg = .failed (client reg (lastRead client reg)).error :=
      if_neg failed
    rw [read, truthful_iff_of_none client reg some, not_not, ← Transfer.error_eq_zero_iff,
      lastRead_of_none client reg some, RegRead.failed.injEq]

end Jordan.Proximity.Transfers
