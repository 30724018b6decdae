import Mathlib.Data.BitVec

/-! # Words as sets of bit positions

Setting, clearing and testing the bit `1 << position` of a word, stated through
the bits of the word (`BitVec.getLsbD`).
-/

namespace BitMask

variable {width : Nat}

/-- The word `1 << position`. -/
def bit (position : Nat) : BitVec width := BitVec.ofNat width 1 <<< position

theorem getLsbD_bit (position index : Nat) :
    (bit position : BitVec width).getLsbD index =
      (decide (index < width) && decide (index = position)) := by
  simp only [bit, BitVec.getLsbD_shiftLeft, BitVec.getLsbD_one]
  by_cases inside : index < width
  · rcases Nat.lt_trichotomy index position with below | same | above
    · simp [below, Nat.ne_of_lt below]
    · subst same
      simp [inside]
      omega
    · have nonzero : index - position ≠ 0 := by omega
      simp [nonzero, Nat.ne_of_gt above]
  · simp [inside]

/-- `mask &= ~(1 << position)` removes the position. -/
theorem getLsbD_and_not_bit (mask : BitVec width) (position : Nat) {index : Nat}
    (inside : index < width) :
    (mask &&& ~~~bit position).getLsbD index =
      (mask.getLsbD index && decide (index ≠ position)) := by
  rw [BitVec.getLsbD_and, BitVec.getLsbD_not, getLsbD_bit]
  simp only [inside, decide_true, Bool.true_and, decide_not]

/-- Adding bits of a field leaves the bits outside it. -/
theorem or_and_not (word : BitVec width) {bits field : BitVec width}
    (within : bits &&& ~~~field = 0) : (word ||| bits) &&& ~~~field = word &&& ~~~field := by
  rw [BitVec.and_or_distrib_right, within]
  exact BitVec.or_zero

/-- Clearing a field leaves the bits outside it. -/
theorem and_not_and_not (word field : BitVec width) :
    word &&& ~~~field &&& ~~~field = word &&& ~~~field := by
  rw [BitVec.and_assoc, BitVec.and_self]

/-- A mask that covers a field covers it with more bits. -/
theorem and_or_of_covers {field mask : BitVec width} (covers : field &&& mask = field)
    (more : BitVec width) : field &&& (mask ||| more) = field := by
  rw [BitVec.and_or_distrib_left, covers]
  ext index inside
  rw [BitVec.getElem_or, BitVec.getElem_and]
  cases field[index] <;> rfl

/-- A word is zero when it has no position. -/
theorem eq_zero_iff (mask : BitVec width) :
    mask = BitVec.ofNat width 0 ↔ ∀ index : Fin width, mask.getLsbD index = false := by
  constructor
  · rintro rfl index
    exact BitVec.getLsbD_zero
  · intro clear
    apply BitVec.eq_of_getLsbD_eq
    intro index inside
    rw [clear ⟨index, inside⟩, BitVec.getLsbD_zero]

/-- `mask & (1 << position)` tests the position. -/
theorem and_bit_ne_zero_iff (mask : BitVec width) (position : Fin width) :
    mask &&& bit position ≠ BitVec.ofNat width 0 ↔ mask.getLsbD position = true := by
  have tested (index : Fin width) : (mask &&& bit position).getLsbD index =
      (mask.getLsbD index && decide ((index : Nat) = position)) := by
    rw [BitVec.getLsbD_and, getLsbD_bit]
    simp only [index.isLt, decide_true, Bool.true_and]
  rw [Ne, eq_zero_iff, ← Bool.not_eq_false, not_iff_not]
  constructor
  · intro clear
    have here := clear position
    simpa only [tested, decide_true, Bool.and_true] using here
  · intro unset index
    rw [tested]
    by_cases same : (index : Nat) = position
    · rw [same, unset, Bool.false_and]
    · simp only [same, decide_false, Bool.and_false]

/-- The word with the position, or without any. -/
theorem getLsbD_ite_bit (chosen : Prop) [Decidable chosen] (position : Nat) {index : Nat}
    (inside : index < width) :
    (if chosen then (bit position : BitVec width) else BitVec.ofNat width 0).getLsbD index =
      (decide chosen && decide (index = position)) := by
  by_cases holds : chosen
  · simp only [holds, ↓reduceIte, getLsbD_bit, inside, decide_true, Bool.true_and]
  · simp only [holds, ↓reduceIte, BitVec.getLsbD_zero, decide_false, Bool.false_and]

/-- `mask & (1 << position)` compared with a shifted flag. -/
theorem ite_bit_eq_and_bit_iff (chosen : Prop) [Decidable chosen] (mask : BitVec width)
    (position : Fin width) :
    (if chosen then bit position else BitVec.ofNat width 0) = mask &&& bit position ↔
      mask.getLsbD position = decide chosen := by
  constructor
  · intro same
    have here := congrArg (fun word => word.getLsbD position) same
    simp only [getLsbD_ite_bit chosen position position.isLt, BitVec.getLsbD_and, getLsbD_bit,
      position.isLt, decide_true, Bool.and_true] at here
    exact here.symm
  · intro same
    apply BitVec.eq_of_getLsbD_eq
    intro index inside
    rw [getLsbD_ite_bit chosen _ inside, BitVec.getLsbD_and, getLsbD_bit]
    by_cases here : index = position
    · simp only [here, decide_true, Bool.and_true, same, position.isLt]
    · simp only [here, decide_false, Bool.and_false]

end BitMask
