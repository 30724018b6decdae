import Jordan.Library.ArmCode
import Jordan.Machine

/-! # The addresses of the overclock module

`overclock.c` finds two tables of the kernel through the code that uses them: the
first two instructions of `omap2_clk_init_cpufreq_table` that are `ldr` or
`ldrne` relative to the program counter load the address of a table from a
literal. The module looks for the bytes of such an instruction, and adds the
first byte to the program counter.

The offset of an instruction has 12 bits. The address is that of the literal
when the offset is below 256; otherwise, the module reads another word
(`Jordan.Cpufreq.FindAddrs.omap2FindAddrs_iff`).
-/

namespace Jordan.Cpufreq.FindAddrs

open ArmCode

/-- `mpu_opps_addr` and `freq_table_addr` -/
structure TableAddrs where
  mpuOppsAddr : U32
  freqTableAddr : U32
deriving DecidableEq, Repr

/-- The offsets `i` of the loop of `omap2_find_addrs`. -/
def window : List Nat := (List.range 25).map (4 * ·)

variable (memory : U32 → U8) (func : U32)

/-- The loop of `omap2_find_addrs`, from the next offset on. -/
def scanWindow : List Nat → Int → TableAddrs → TableAddrs
  | [], _, s => s
  | i :: rest, first, s =>
      let code := func + BitVec.ofNat 32 i
      if (memory (code + 3) = 0xe5 ∨ memory (code + 3) = 0x15) ∧ memory (code + 2) = 0x9f then
        let addr := code + 8 + (memory code).setWidth 32
        if first ≠ 0 then
          scanWindow rest (first - 1) { s with mpuOppsAddr := wordAt memory addr }
        else { s with freqTableAddr := wordAt memory addr }
      else scanWindow rest first s

/-- `omap2_find_addrs`, with `omap2_clk_init_cpufreq_table` at `func`. -/
def omap2FindAddrs : TableAddrs := scanWindow memory func window 1 ⟨0, 0⟩

/-- The `ldr` or `ldrne` at an address, if there is one. -/
def loadAt (code : U32) : Option LdrLiteral :=
  (decodeLdrLiteral (wordAt memory code)).filter fun load => load.cond = 0xE ∨ load.cond = 0x1

/-- The loads at offsets from `func`, with their addresses. -/
def loads (offsets : List Nat) : List (U32 × LdrLiteral) :=
  offsets.filterMap fun i =>
    let code := func + BitVec.ofNat 32 i
    (loadAt memory code).map fun load => (code, load)

/-- The word that a load loads. -/
def loaded (load : U32 × LdrLiteral) : U32 := wordAt memory (load.2.literal load.1)

/-- The word at the address with the low 8 bits of the offset only. -/
def loadedNear (load : U32 × LdrLiteral) : U32 :=
  wordAt memory (load.1 + 8 + (load.2.imm12.setWidth 8).setWidth 32)

/-- The addresses from the first two loads; those that are missing are kept. -/
def fromLoads (literal : U32 × LdrLiteral → U32) (s : TableAddrs) :
    List (U32 × LdrLiteral) → TableAddrs
  | [] => s
  | [load] => { s with mpuOppsAddr := literal load }
  | load :: other :: _ => ⟨literal load, literal other⟩

/-! ## The scan -/

variable {memory} {func} {code : U32} {load : LdrLiteral}

/-- The offset of a load starts with the byte that the module adds. -/
theorem byte_of_loadAt (found : loadAt memory code = some load) :
    memory code = load.imm12.setWidth 8 := by
  obtain ⟨decoded, _⟩ := Option.filter_eq_some_iff.mp found
  exact (decodeLdrLiteral_wordAt.mp decoded).2.2.2

/-- The bytes that the module looks for are those of a load. -/
theorem bytes_iff_loadAt :
    ((memory (code + 3) = 0xe5 ∨ memory (code + 3) = 0x15) ∧ memory (code + 2) = 0x9f) ↔
      ∃ load, loadAt memory code = some load := by
  have decoded (cond : BitVec 4) (fourth : memory (code + 3) = cond ++ 0x5#4)
      (third : memory (code + 2) = 0x9f) : decodeLdrLiteral (wordAt memory code) =
        some ⟨cond, (memory (code + 1)).extractLsb' 4 4,
          (memory (code + 1)).extractLsb' 0 4 ++ memory code⟩ := by
    have second := (memory (code + 1)).isLt
    have first := (memory code).isLt
    refine decodeLdrLiteral_wordAt.mpr ⟨fourth, third, ?_, ?_⟩
    · apply BitVec.eq_of_toNat_eq
      simp only [toNat_append, toNat_field]
      omega
    · apply BitVec.eq_of_toNat_eq
      simp only [toNat_append, toNat_field, BitVec.toNat_setWidth]
      omega
  constructor
  · intro ⟨fourth, third⟩
    rcases fourth with always | unequal
    · exact ⟨_, Option.filter_eq_some_iff.mpr ⟨decoded 0xE always third, rfl⟩⟩
    · exact ⟨_, Option.filter_eq_some_iff.mpr ⟨decoded 0x1 unequal third, rfl⟩⟩
  · intro ⟨load, found⟩
    obtain ⟨decoded, sought⟩ := Option.filter_eq_some_iff.mp found
    obtain ⟨fourth, third, _⟩ := decodeLdrLiteral_wordAt.mp decoded
    rw [fourth]
    rcases of_decide_eq_true sought with always | unequal
    · rw [always]
      exact ⟨.inl rfl, third⟩
    · rw [unequal]
      exact ⟨.inr rfl, third⟩

theorem loads_cons_none {i : Nat} (missing : loadAt memory (func + BitVec.ofNat 32 i) = none)
    (rest : List Nat) : loads memory func (i :: rest) = loads memory func rest :=
  List.filterMap_cons_none (by simp only [missing, Option.map_none])

theorem loads_cons_some {i : Nat}
    (found : loadAt memory (func + BitVec.ofNat 32 i) = some load) (rest : List Nat) :
    loads memory func (i :: rest) =
      (func + BitVec.ofNat 32 i, load) :: loads memory func rest :=
  List.filterMap_cons_some (by simp only [found, Option.map_some])

/-- At an offset without a load, the scan goes on. -/
theorem scanWindow_none {i : Nat} (missing : loadAt memory (func + BitVec.ofNat 32 i) = none)
    (rest : List Nat) (first : Int) (s : TableAddrs) :
    scanWindow memory func (i :: rest) first s = scanWindow memory func rest first s := by
  have other := mt bytes_iff_loadAt.mp fun ⟨_, found⟩ => Option.some_ne_none _
    (found.symm.trans missing)
  rw [scanWindow, if_neg other]

/-- At a load, it takes the word near the load, first for `mpu_opps_addr` and
then, as the last one, for `freq_table_addr`. -/
theorem scanWindow_some {i : Nat}
    (found : loadAt memory (func + BitVec.ofNat 32 i) = some load)
    (rest : List Nat) (first : Int) (s : TableAddrs) :
    scanWindow memory func (i :: rest) first s =
      if first ≠ 0 then
        scanWindow memory func rest (first - 1)
          { s with mpuOppsAddr := loadedNear memory (func + BitVec.ofNat 32 i, load) }
      else { s with freqTableAddr := loadedNear memory (func + BitVec.ofNat 32 i, load) } := by
  rw [scanWindow, if_pos (bytes_iff_loadAt.mpr ⟨load, found⟩)]
  simp only [loadedNear, byte_of_loadAt found]

/-- The second load ends the scan. -/
theorem scanWindow_zero (offsets : List Nat) (s : TableAddrs) :
    scanWindow memory func offsets 0 s =
      match loads memory func offsets with
      | [] => s
      | load :: _ => { s with freqTableAddr := loadedNear memory load } := by
  induction offsets with
  | nil => rfl
  | cons i rest ih =>
      cases held : loadAt memory (func + BitVec.ofNat 32 i) with
      | none => rw [scanWindow_none held, loads_cons_none held, ih]
      | some load =>
          rw [scanWindow_some held, loads_cons_some held]
          rfl

/-- The scan takes the words near the first two loads. -/
theorem scanWindow_one (offsets : List Nat) (s : TableAddrs) :
    scanWindow memory func offsets 1 s =
      fromLoads (loadedNear memory) s (loads memory func offsets) := by
  induction offsets with
  | nil => rfl
  | cons i rest ih =>
      cases held : loadAt memory (func + BitVec.ofNat 32 i) with
      | none => rw [scanWindow_none held, loads_cons_none held, ih]
      | some load =>
          rw [scanWindow_some held, loads_cons_some held, if_pos one_ne_zero, sub_self,
            scanWindow_zero]
          cases loads memory func rest with
          | nil => rfl
          | cons other _ => rfl

/-- The addresses agree when the words of the first two loads do. -/
theorem fromLoads_eq_iff {literal other : U32 × LdrLiteral → U32} {s : TableAddrs}
    {found : List (U32 × LdrLiteral)} :
    fromLoads literal s found = fromLoads other s found ↔
      ∀ load ∈ found.take 2, literal load = other load := by
  rcases found with _ | ⟨load, _ | ⟨next, rest⟩⟩
  · simp only [fromLoads, List.take_nil, List.not_mem_nil, false_imp_iff, implies_true]
  · simp only [fromLoads, TableAddrs.mk.injEq, and_true, List.take_succ_cons, List.take_nil,
      List.forall_mem_singleton]
  · simp only [fromLoads, TableAddrs.mk.injEq, List.take_succ_cons, List.take_zero,
      List.forall_mem_cons, List.not_mem_nil, false_imp_iff, implies_true, and_true]

/-- A load with an offset below 256 loads the word near it. -/
theorem loadedNear_eq_loaded {load : U32 × LdrLiteral} (near : load.2.imm12 < 256) :
    loadedNear memory load = loaded memory load := by
  have small : (load.2.imm12.setWidth 8).setWidth 32 = load.2.imm12.setWidth 32 := by
    apply BitVec.eq_of_toNat_eq
    simp only [BitVec.toNat_setWidth]
    bv_omega
  rw [loadedNear, small]
  rfl

/-- **The scan finds the tables** exactly when each of the first two loads has an
offset below 256, or reads the same word without the upper bits of its offset. -/
theorem omap2FindAddrs_iff (memory : U32 → U8) (func : U32) :
    omap2FindAddrs memory func =
        fromLoads (loaded memory) ⟨0, 0⟩ (loads memory func window) ↔
      ∀ load ∈ (loads memory func window).take 2,
        load.2.imm12 < 256 ∨ loadedNear memory load = loaded memory load := by
  rw [omap2FindAddrs, scanWindow_one, fromLoads_eq_iff]
  refine forall₂_congr fun load _ => ?_
  exact ⟨.inr, fun reads => reads.elim loadedNear_eq_loaded id⟩

/-- A function that starts with `ldr r0, [pc, #0x104]`, and whose literal is 1. -/
def farLiteral (address : U32) : U8 :=
  if address = 0x1000 then 0x04
  else if address = 0x1001 then 0x01
  else if address = 0x1002 then 0x9f
  else if address = 0x1003 then 0xe5
  else if address = 0x110c then 1
  else 0

/-- The word at 0x100c is taken for the address of the table. -/
theorem farLiteral_missed :
    ¬ omap2FindAddrs farLiteral 0x1000 =
      fromLoads (loaded farLiteral) ⟨0, 0⟩ (loads farLiteral 0x1000 window) := by
  decide

end Jordan.Cpufreq.FindAddrs
