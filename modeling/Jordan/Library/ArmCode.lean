import Mathlib.Data.BitVec

/-! # Relocated ARM instructions

What a word of ARM code does to the program counter: it is a branch, a load of
the program counter from a literal, or another instruction, whose effect is a
parameter. A word that does not read the program counter can be run from
another place: followed by a load of the program counter from a literal that
holds the address of its successor, it has the effect it has in its own place
(`Trampoline.runsAs`).

A word that loads a register from a literal behind the program counter is
decoded to its condition, register and offset, from words (`decodeLdrLiteral_iff`)
and from the bytes in memory (`decodeLdrLiteral_wordAt`).
-/

namespace ArmCode

/-- An address, or a word of code. -/
abbrev Word := BitVec 32

/-- Where an instruction continues. The program counter reads as the address of
the instruction plus 8, and offsets are added to that. -/
inductive Instruction where
  | branch (offset : Word)
  | loadPc (offset : Word)
  | other
deriving DecidableEq, Repr

/-- `b`, and `ldr pc, [pc, #±imm]`, both without a condition. -/
def decode (word : Word) : Instruction :=
  if word.extractLsb' 24 8 = 0xEA#8 then .branch ((word.extractLsb' 0 24).signExtend 32 <<< 2)
  else if word.extractLsb' 12 20 = 0xE51FF#20 then .loadPc (-(word.extractLsb' 0 12).setWidth 32)
  else if word.extractLsb' 12 20 = 0xE59FF#20 then .loadPc ((word.extractLsb' 0 12).setWidth 32)
  else .other

/-- The program counter, and everything else an instruction may change. -/
structure Cpu (Data : Type*) where
  pc : Word
  data : Data

/-- The effect of the other instructions, by word and address: the new data, and
the address to continue at if the instruction sets the program counter. -/
abbrev Semantics (Data : Type*) := Word → Word → Data → Data × Option Word

variable {Data : Type*} (semantics : Semantics Data)

/-- Execute the instruction at the program counter. -/
def step (code : Word → Word) (cpu : Cpu Data) : Cpu Data :=
  match decode (code cpu.pc) with
  | .branch offset => { cpu with pc := cpu.pc + 8 + offset }
  | .loadPc offset => { cpu with pc := code (cpu.pc + 8 + offset) }
  | .other =>
      let (data, away) := semantics (code cpu.pc) cpu.pc cpu.data
      ⟨away.getD (cpu.pc + 4), data⟩

/-- A word that does not read the program counter. -/
structure PcFree (word : Word) : Prop where
  other : decode word = .other
  anywhere : ∀ here there data, semantics word here data = semantics word there data

/-- Executing from `base` runs exactly the word as it runs at `target`, and then
continues at `target + 4` if the word does not go elsewhere. -/
def RunsAs (code : Word → Word) (base word target : Word) : Prop :=
  ∀ data, match semantics word target data with
    | (after, none) =>
        step semantics code ⟨base, data⟩ = ⟨base + 4, after⟩ ∧
          step semantics code ⟨base + 4, after⟩ = ⟨target + 4, after⟩
    | (after, some away) => step semantics code ⟨base, data⟩ = ⟨away, after⟩

/-- A word, `ldr pc, [pc, #-4]`, and the address to continue at. -/
structure Trampoline (code : Word → Word) (base word continuation : Word) : Prop where
  first : code base = word
  jump : code (base + 4) = 0xE51FF004
  literal : code (base + 8) = continuation

variable {semantics} {code : Word → Word} {base word target address dest : Word}

/-- The jump of a trampoline. -/
theorem Trampoline.step_jump (placed : Trampoline code base word target) (data : Data) :
    step semantics code ⟨base + 4, data⟩ = ⟨target, data⟩ := by
  have offset : decode 0xE51FF004 = .loadPc (-4) := by decide
  have literal : base + 4 + 8 + -4 = base + 8 := by bv_omega
  simp only [step, placed.jump, offset, literal, placed.literal]

/-- A trampoline runs its word as in its own place. -/
theorem Trampoline.runsAs (placed : Trampoline code base word (target + 4))
    (free : PcFree semantics word) : RunsAs semantics code base word target := by
  intro data
  have moved := free.anywhere target base data
  rcases effect : semantics word target data with ⟨after, none | away⟩
  · refine ⟨?_, placed.step_jump after⟩
    simp only [step, placed.first, free.other, ← moved, effect, Option.getD_none]
  · simp only [step, placed.first, free.other, ← moved, effect, Option.getD_some]

/-- A field of a word, as a number. -/
theorem toNat_field {width : Nat} (word : BitVec width) (start len : Nat) :
    (word.extractLsb' start len).toNat = word.toNat / 2 ^ start % 2 ^ len := by
  rw [BitVec.extractLsb'_toNat, Nat.shiftRight_eq_div_pow]

/-- The 24 bits of a branch, as a number. -/
theorem toNat_branch (offset : Word) :
    (0xEA000000#32 + (0xFFFFFF#32 &&& offset / 4#32)).toNat =
      0xEA000000 + offset.toNat / 4 % 2 ^ 24 := by
  have quarter : (0xFFFFFF#32 &&& offset / 4#32).toNat = offset.toNat / 4 % 2 ^ 24 := by
    rw [BitVec.toNat_and, Nat.and_comm]
    exact Nat.and_two_pow_sub_one_eq_mod _ 24
  have small := Nat.mod_lt (offset.toNat / 4) (Nat.two_pow_pos 24)
  rw [BitVec.toNat_add, quarter]
  exact Nat.mod_eq_of_lt (by rw [BitVec.toNat_ofNat]; omega)

/-- A quarter of a multiple of 4 in the reach of a branch is extended to it again. -/
theorem signExtend_quarter {offset : Word} {imm : BitVec 24} (aligned : offset.toNat % 4 = 0)
    (near : -2 ^ 25 ≤ offset.toInt ∧ offset.toInt < 2 ^ 25)
    (quarter : imm.toNat = offset.toNat / 4 % 2 ^ 24) :
    imm.signExtend 32 <<< 2 = offset := by
  have range := offset.isLt
  rw [BitVec.toInt_eq_toNat_cond] at near
  apply BitVec.eq_of_toNat_eq
  rw [BitVec.toNat_shiftLeft, BitVec.toNat_signExtend, BitVec.msb_eq_decide, BitVec.toNat_setWidth,
    quarter, Nat.shiftLeft_eq]
  simp only [decide_eq_true_eq]
  split at near <;> split <;> omega

/-- A branch decodes to its distance from `address + 8`, when that is a multiple
of 4 and within 32 MiB. -/
theorem decode_branch {offset : Word} (aligned : offset.toNat % 4 = 0)
    (near : -2 ^ 25 ≤ offset.toInt ∧ offset.toInt < 2 ^ 25) :
    decode (0xEA000000#32 + (0xFFFFFF#32 &&& offset / 4#32)) = .branch offset := by
  have number := toNat_branch offset
  have small := Nat.mod_lt (offset.toNat / 4) (Nat.two_pow_pos 24)
  generalize 0xEA000000#32 + (0xFFFFFF#32 &&& offset / 4#32) = word at number ⊢
  have opcode : word.extractLsb' 24 8 = 0xEA#8 := by
    apply BitVec.eq_of_toNat_eq
    rw [toNat_field, number, BitVec.toNat_ofNat]
    omega
  have quarter : (word.extractLsb' 0 24).toNat = offset.toNat / 4 % 2 ^ 24 := by
    rw [toNat_field, number]
    omega
  rw [decode, if_pos opcode, signExtend_quarter aligned near quarter]

/-! ## Loads of literals -/

/-- `ldr<cond> rd, [pc, #imm12]` -/
structure LdrLiteral where
  cond : BitVec 4
  rd : BitVec 4
  imm12 : BitVec 12
deriving DecidableEq, Repr

/-- The word of a load. -/
def LdrLiteral.encode (load : LdrLiteral) : Word :=
  load.cond ++ 0x59F#12 ++ load.rd ++ load.imm12

/-- The address of the literal, for a load at an address. -/
def LdrLiteral.literal (load : LdrLiteral) (address : Word) : Word :=
  address + 8 + load.imm12.setWidth 32

/-- The load that a word is, if it is one. -/
def decodeLdrLiteral (word : Word) : Option LdrLiteral :=
  if word.extractLsb' 16 12 = 0x59F#12 then
    some ⟨word.extractLsb' 28 4, word.extractLsb' 12 4, word.extractLsb' 0 12⟩
  else none

/-- The word at an address, the least significant byte first. -/
def wordAt (memory : Word → BitVec 8) (address : Word) : Word :=
  memory (address + 3) ++ memory (address + 2) ++ memory (address + 1) ++ memory address

theorem toNat_append {m n : Nat} (high : BitVec m) (low : BitVec n) :
    (high ++ low).toNat = high.toNat * 2 ^ n + low.toNat := by
  rw [BitVec.toNat_append, ← Nat.shiftLeft_add_eq_or_of_lt low.isLt, Nat.shiftLeft_eq]

theorem toNat_wordAt (memory : Word → BitVec 8) (address : Word) :
    (wordAt memory address).toNat =
      (((memory (address + 3)).toNat * 2 ^ 8 + (memory (address + 2)).toNat) * 2 ^ 8 +
        (memory (address + 1)).toNat) * 2 ^ 8 + (memory address).toNat := by
  simp only [wordAt, toNat_append]

theorem LdrLiteral.toNat_encode (load : LdrLiteral) :
    load.encode.toNat =
      ((load.cond.toNat * 2 ^ 12 + 0x59F) * 2 ^ 4 + load.rd.toNat) * 2 ^ 12 +
        load.imm12.toNat := by
  simp only [encode, toNat_append, BitVec.toNat_ofNat, Nat.reducePow, Nat.reduceMod]

/-- A word decodes to a load exactly when it is the word of the load. -/
theorem decodeLdrLiteral_iff {word : Word} {load : LdrLiteral} :
    decodeLdrLiteral word = some load ↔ word = load.encode := by
  have fields := load.toNat_encode
  unfold decodeLdrLiteral
  constructor
  · intro decoded
    split at decoded
    next opcode =>
      obtain rfl := Option.some.inj decoded
      have size := word.isLt
      have middle := congrArg BitVec.toNat opcode
      apply BitVec.eq_of_toNat_eq
      rw [fields]
      simp only [toNat_field, BitVec.toNat_ofNat] at middle ⊢
      omega
    next => cases decoded
  · rintro rfl
    have cond := load.cond.isLt
    have rd := load.rd.isLt
    have imm12 := load.imm12.isLt
    have opcode : load.encode.extractLsb' 16 12 = 0x59F#12 := by
      apply BitVec.eq_of_toNat_eq
      rw [toNat_field, fields, BitVec.toNat_ofNat]
      omega
    have condition : load.encode.extractLsb' 28 4 = load.cond := by
      apply BitVec.eq_of_toNat_eq
      rw [toNat_field, fields]
      omega
    have register : load.encode.extractLsb' 12 4 = load.rd := by
      apply BitVec.eq_of_toNat_eq
      rw [toNat_field, fields]
      omega
    have offset : load.encode.extractLsb' 0 12 = load.imm12 := by
      apply BitVec.eq_of_toNat_eq
      rw [toNat_field, fields]
      omega
    rw [if_pos opcode, condition, register, offset]

/-- The bytes of a load: the opcode is in the two last ones, and the offset is in
the first one and the half of the second. -/
theorem decodeLdrLiteral_wordAt {memory : Word → BitVec 8} {address : Word} {load : LdrLiteral} :
    decodeLdrLiteral (wordAt memory address) = some load ↔
      memory (address + 3) = load.cond ++ 0x5#4 ∧ memory (address + 2) = 0x9F#8 ∧
        memory (address + 1) = load.rd ++ load.imm12.extractLsb' 8 4 ∧
          memory address = load.imm12.setWidth 8 := by
  have word := toNat_wordAt memory address
  have fields := load.toNat_encode
  have fourth := (memory (address + 3)).isLt
  have third := (memory (address + 2)).isLt
  have second := (memory (address + 1)).isLt
  have first := (memory address).isLt
  have rd := load.rd.isLt
  have imm12 := load.imm12.isLt
  rw [decodeLdrLiteral_iff, ← BitVec.toNat_inj, word, fields]
  simp only [← BitVec.toNat_inj, toNat_append, toNat_field, BitVec.toNat_setWidth,
    BitVec.toNat_ofNat]
  omega

end ArmCode
