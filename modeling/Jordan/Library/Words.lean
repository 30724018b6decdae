import Mathlib.Data.BitVec
import Mathlib.Data.Nat.ModEq

/-! # Words as numbers

When the operations on words of some width agree with those on numbers: a word that
is below half the range is the same number signed and unsigned, a sum or a
difference may leave that half, the order of two times is the sign of their
difference as long as they are near, and a division of low words gives the quotient
if the low word of the remainder is a remainder and nothing is carried.
-/

namespace Words

variable {width : Nat}

/-! ## The lower half of the range -/

theorem two_mul_half (wide : 0 < width) : 2 * 2 ^ (width - 1) = 2 ^ width := by
  rw [Nat.two_mul, Nat.two_pow_pred_add_two_pow_pred wide]

/-- A word of some width holds the naturals below half its range. -/
theorem toInt_ofInt_eq_iff (wide : 0 < width) {value : Int} (natural : 0 ≤ value) :
    (BitVec.ofInt width value).toInt = value ↔ value < 2 ^ (width - 1) := by
  constructor
  · intro same
    rw [← same]
    exact BitVec.toInt_lt
  · intro below
    have nonpos : (-2 ^ (width - 1) : Int) ≤ 0 :=
      Int.neg_nonpos_of_nonneg (Int.pow_nonneg (by decide))
    exact BitVec.toInt_ofInt_eq_self wide (nonpos.trans natural) below

theorem toInt_eq_toNat (wide : 0 < width) {word : BitVec width}
    (small : word.toNat < 2 ^ (width - 1)) : word.toInt = word.toNat := by
  apply BitVec.toInt_eq_toNat_of_lt
  rw [← two_mul_half wide]
  exact Nat.mul_lt_mul_of_pos_left small Nat.two_pos

/-- In the lower half the signed order is the unsigned one. -/
theorem slt_iff_lt (wide : 0 < width) {a b : BitVec width} (smallA : a.toNat < 2 ^ (width - 1))
    (smallB : b.toNat < 2 ^ (width - 1)) : a.slt b = true ↔ a < b := by
  rw [BitVec.slt_iff_toInt_lt, BitVec.lt_def, toInt_eq_toNat wide smallA,
    toInt_eq_toNat wide smallB]
  exact Int.ofNat_lt

/-- A remainder of a number that is less than twice the divisor. -/
theorem mod_of_lt_two_mul {value divisor : Nat} (bound : value < 2 * divisor) :
    value % divisor = if value < divisor then value else value - divisor := by
  split
  next below => exact Nat.mod_eq_of_lt below
  next reached =>
    rw [Nat.mod_eq_sub_mod (Nat.not_lt.mp reached)]
    exact Nat.mod_eq_of_lt (by omega)

/-- A sum is not below its first term unless it leaves the lower half. -/
theorem le_toInt_add_iff (wide : 0 < width) (a b : BitVec width) :
    (a.toNat : Int) ≤ (a + b).toInt ↔ a.toNat + b.toNat < 2 ^ (width - 1) := by
  have boundA := a.isLt
  have boundB := b.isLt
  rw [BitVec.toInt_eq_toNat_cond, BitVec.toNat_add, mod_of_lt_two_mul (by omega)]
  rw [← two_mul_half wide] at boundA boundB ⊢
  generalize 2 ^ (width - 1) = half at boundA boundB ⊢
  split <;> split <;> omega

/-- A difference is not above its first term unless it comes back to the lower half. -/
theorem toInt_sub_le_iff (wide : 0 < width) {a : BitVec width}
    (small : a.toNat < 2 ^ (width - 1)) (b : BitVec width) :
    (a - b).toInt ≤ a.toNat ↔ b.toNat ≤ a.toNat + 2 ^ (width - 1) := by
  have boundA := a.isLt
  have boundB := b.isLt
  rw [BitVec.toInt_eq_toNat_cond, BitVec.toNat_sub, mod_of_lt_two_mul (by omega)]
  rw [← two_mul_half wide] at boundA boundB ⊢
  generalize 2 ^ (width - 1) = half at small boundA boundB ⊢
  split <;> split <;> omega

/-! ## Times -/

/-- The difference of two times that are less than half the range apart is negative
exactly when the first one is earlier. -/
theorem sub_slt_zero_iff (wide : 0 < width) {a b : Nat} (near : a < b + 2 ^ (width - 1))
    (near' : b < a + 2 ^ (width - 1)) :
    (BitVec.ofNat width a - BitVec.ofNat width b).slt (BitVec.ofNat width 0) = true ↔ a < b := by
  rw [BitVec.slt_iff_toInt_lt, BitVec.toInt_sub, BitVec.toInt_ofNat', BitVec.toInt_ofNat',
    BitVec.toInt_zero, Int.bmod_sub_bmod, Int.sub_bmod_bmod]
  have difference : ((a : Int) - b).bmod (2 ^ width) = (a : Int) - b := by
    rw [← two_mul_half wide]
    apply Int.bmod_eq_of_le <;> omega
  rw [difference]
  omega

/-! ## Low words -/

section LowWords

variable (dividend divisor base : Nat)

theorem mod_eq_narrowed : dividend % base =
    (dividend / divisor * (divisor % base) + dividend % divisor % base) % base := by
  have narrowed : dividend / divisor * divisor + dividend % divisor ≡
      dividend / divisor * (divisor % base) + dividend % divisor % base [MOD base] :=
    ((Nat.ModEq.refl _).mul (Nat.mod_modEq divisor base).symm).add (Nat.mod_modEq _ base).symm
  rwa [Nat.div_add_mod'] at narrowed

/-- The division of the low words gives the quotient exactly when the low word of
the remainder is a remainder, and nothing is carried. -/
theorem narrowed_div_iff (positive : 0 < base) :
    divisor % base ≠ 0 ∧ dividend % base / (divisor % base) = dividend / divisor ↔
      dividend % divisor % base < divisor % base ∧
        dividend / divisor * (divisor % base) + dividend % divisor % base < base := by
  have low := mod_eq_narrowed dividend divisor base
  have bound := Nat.mod_lt dividend positive
  constructor
  · rintro ⟨nonzero, quotient⟩
    have parts := Nat.div_add_mod' (dividend % base) (divisor % base)
    have rest := Nat.mod_lt (dividend % base) (Nat.pos_of_ne_zero nonzero)
    rw [quotient] at parts
    have remainder : dividend % divisor % base = dividend % base % (divisor % base) := by
      have same : dividend / divisor * (divisor % base) + dividend % divisor % base ≡
          dividend / divisor * (divisor % base) + dividend % base % (divisor % base)
          [MOD base] := by
        rw [parts]
        exact (low.symm.trans (Nat.mod_mod dividend base).symm : _ % base = _ % base)
      have cancelled := Nat.ModEq.add_left_cancel' _ same
      rwa [Nat.ModEq, Nat.mod_mod,
        Nat.mod_eq_of_lt (rest.trans (Nat.mod_lt divisor positive))] at cancelled
    rw [remainder]
    exact ⟨rest, parts.trans_lt bound⟩
  · rintro ⟨rest, carried⟩
    rw [Nat.mod_eq_of_lt carried] at low
    refine ⟨Nat.ne_of_gt (Nat.zero_lt_of_lt rest), ?_⟩
    rw [low, Nat.mul_comm, Nat.mul_add_div (Nat.zero_lt_of_lt rest), Nat.div_eq_of_lt rest,
      Nat.add_zero]

end LowWords

end Words
