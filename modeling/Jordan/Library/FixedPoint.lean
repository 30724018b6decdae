import Mathlib.Data.List.TakeWhile
import Mathlib.Data.Rat.Floor
import Mathlib.Algebra.Order.Field.Rat
import Mathlib.Tactic.Linarith

/-! # Decimal fixed-point text

Rounding half away from zero, the text of a rational number with a number of decimal
places (`%.nf`), and the number that a text stands for. What is read back from a text
is the number rounded to the places printed (`FixedPoint.parse_print`).
-/

namespace FixedPoint

/-! ## Rounding -/

/-- The nearest integer, half away from zero. -/
def roundAway (x : ℚ) : ℤ := if 0 ≤ x then ⌊x + 1 / 2⌋ else -⌊1 / 2 - x⌋

/-- What lies less than one half from a number is rounded to it. -/
theorem roundAway_eq {x : ℚ} {n : ℤ} (above : (n : ℚ) - 1 / 2 < x) (below : x < n + 1 / 2) :
    roundAway x = n := by
  unfold roundAway
  split
  · rw [Int.floor_eq_iff]
    constructor <;> linarith
  · rw [neg_eq_iff_eq_neg, Int.floor_eq_iff]
    push_cast
    constructor <;> linarith

theorem roundAway_intCast (n : ℤ) : roundAway n = n :=
  roundAway_eq (by linarith) (by linarith)

theorem roundAway_nonneg {x : ℚ} (nonnegative : 0 ≤ x) : 0 ≤ roundAway x := by
  rw [roundAway, if_pos nonnegative]
  exact Int.floor_nonneg.mpr (by linarith)

theorem roundAway_nonpos {x : ℚ} (negative : x < 0) : roundAway x ≤ 0 := by
  rw [roundAway, if_neg (not_le.mpr negative)]
  have floor : 0 ≤ ⌊1 / 2 - x⌋ := Int.floor_nonneg.mpr (by linarith)
  omega

/-! ## Text -/

/-- The digits of a number, with leading zeros up to a width. -/
def padded (width n : ℕ) : List Char := List.leftpad width '0' (Nat.toDigits 10 n)

/-- `%.nf`, where the rounding is half away from zero. -/
def print (places : ℕ) (x : ℚ) : List Char :=
  let scaled := (roundAway (x * 10 ^ places)).natAbs
  (if x < 0 then ['-'] else []) ++ Nat.toDigits 10 (scaled / 10 ^ places) ++
    if places = 0 then [] else '.' :: padded places (scaled % 10 ^ places)

/-- The digits after a decimal point. -/
def fraction : List Char → List Char
  | '.' :: rest => rest.takeWhile Char.isDigit
  | _ => []

/-- The number that digits with a decimal point stand for. -/
def parseUnsigned (text : List Char) : ℚ :=
  let decimals := fraction (text.dropWhile Char.isDigit)
  (Nat.ofDigitChars 10 (text.takeWhile Char.isDigit ++ decimals) 0 : ℕ) / 10 ^ decimals.length

/-- The number at the beginning of a text, with its sign. -/
def parse : List Char → ℚ
  | '-' :: rest => -parseUnsigned rest
  | text => parseUnsigned text

theorem isDigit_of_mem_toDigits {n : ℕ} : ∀ c ∈ Nat.toDigits 10 n, c.isDigit = true :=
  fun _ => Nat.isDigit_of_mem_toDigits (by decide) (by decide)

/-- A padded number consists of digits. -/
theorem isDigit_of_mem_padded {width n : ℕ} : ∀ c ∈ padded width n, c.isDigit = true := by
  intro c member
  rcases List.mem_append.mp member with zero | digit
  · rw [List.eq_of_mem_replicate zero]
    decide
  · exact isDigit_of_mem_toDigits c digit

/-- A number that fits is padded to exactly the width. -/
theorem length_padded {width n : ℕ} (positive : 0 < width) (small : n < 10 ^ width) :
    (padded width n).length = width := by
  have short : (Nat.toDigits 10 n).length ≤ width :=
    (Nat.length_toDigits_le_iff (by decide) positive).mpr small
  rw [padded, List.length_leftpad, Nat.max_eq_left short]

/-- The value of digits with leading zeros. -/
theorem ofDigitChars_padded (width n init : ℕ) (positive : 0 < width) (small : n < 10 ^ width) :
    Nat.ofDigitChars 10 (padded width n) init = 10 ^ width * init + n := by
  rw [Nat.ofDigitChars_eq_ofDigitChars_zero, length_padded positive small]
  congr 1
  show Nat.ofDigitChars 10 (List.replicate _ '0' ++ Nat.toDigits 10 n) 0 = n
  rw [Nat.ofDigitChars_append, Nat.ofDigitChars_replicate_zero, Nat.mul_zero,
    Nat.ofDigitChars_ten_toDigits]

/-- Digits are read up to the decimal point. -/
theorem parseUnsigned_append (n : ℕ) {rest : List Char}
    (stops : rest.takeWhile Char.isDigit = []) :
    parseUnsigned (Nat.toDigits 10 n ++ rest) =
      (Nat.ofDigitChars 10 (fraction rest) n : ℕ) / 10 ^ (fraction rest).length := by
  have digits := isDigit_of_mem_toDigits (n := n)
  have kept : rest.dropWhile Char.isDigit = rest := by
    have whole := List.takeWhile_append_dropWhile (p := Char.isDigit) (l := rest)
    rwa [stops, List.nil_append] at whole
  simp only [parseUnsigned]
  rw [List.takeWhile_append_of_pos digits, List.dropWhile_append_of_pos digits, stops, kept,
    List.append_nil, Nat.ofDigitChars_append, Nat.ofDigitChars_ten_toDigits]

/-- Parsing gives the number whose digits stand in front of and behind the point. -/
theorem parseUnsigned_digits (places n : ℕ) :
    parseUnsigned (Nat.toDigits 10 (n / 10 ^ places) ++
      if places = 0 then [] else '.' :: padded places (n % 10 ^ places)) =
        (n : ℚ) / 10 ^ places := by
  by_cases whole : places = 0
  · subst whole
    rw [if_pos rfl, parseUnsigned_append _ rfl]
    simp [fraction]
  · have small : n % 10 ^ places < 10 ^ places := Nat.mod_lt n (Nat.pow_pos (by decide))
    have positive := Nat.pos_of_ne_zero whole
    have decimals : fraction ('.' :: padded places (n % 10 ^ places)) =
        padded places (n % 10 ^ places) :=
      List.takeWhile_eq_self_iff.mpr isDigit_of_mem_padded
    rw [if_neg whole, parseUnsigned_append _ rfl, decimals, length_padded positive small,
      ofDigitChars_padded _ _ _ positive small, Nat.div_add_mod]

/-- No text of digits starts with a sign. -/
theorem parse_digits (n : ℕ) (rest : List Char) :
    parse (Nat.toDigits 10 n ++ rest) = parseUnsigned (Nat.toDigits 10 n ++ rest) := by
  have digits := isDigit_of_mem_toDigits (n := n)
  cases text : Nat.toDigits 10 n with
  | nil => exact absurd text Nat.toDigits_ne_nil
  | cons first others =>
      rw [text] at digits
      have isDigit := digits first List.mem_cons_self
      unfold parse
      split
      next equal =>
        rw [List.cons_append] at equal
        obtain ⟨rfl, _⟩ := List.cons.inj equal
        exact absurd isDigit (by decide)
      next => rfl

/-- **A text is read back as the number rounded to its places.** -/
theorem parse_print (places : ℕ) (x : ℚ) :
    parse (print places x) = (roundAway (x * 10 ^ places) : ℚ) / 10 ^ places := by
  have scale : (0 : ℚ) < 10 ^ places := by positivity
  unfold print
  by_cases negative : x < 0
  · have scaled : roundAway (x * 10 ^ places) ≤ 0 :=
      roundAway_nonpos (mul_neg_of_neg_of_pos negative scale)
    have abs : -(((roundAway (x * 10 ^ places)).natAbs : ℕ) : ℚ) = roundAway (x * 10 ^ places) := by
      rw [← Int.cast_natCast, Int.ofNat_natAbs_of_nonpos scaled, Int.cast_neg, neg_neg]
    simp only [negative, ↓reduceIte, List.cons_append, List.nil_append, parse]
    rw [parseUnsigned_digits, ← neg_div, abs]
  · have scaled : 0 ≤ roundAway (x * 10 ^ places) :=
      roundAway_nonneg (mul_nonneg (not_lt.mp negative) scale.le)
    have abs : (((roundAway (x * 10 ^ places)).natAbs : ℕ) : ℚ) = roundAway (x * 10 ^ places) := by
      rw [← Int.cast_natCast, Int.natAbs_of_nonneg scaled]
    simp only [negative, ↓reduceIte, List.nil_append]
    rw [parse_digits, parseUnsigned_digits, abs]

end FixedPoint
