import Mathlib.Data.BitVec
import Mathlib.Data.List.Basic

/-! # Hexadecimal text

Printing a number in base 16, filled up with zeros (`HexText.lower`,
`HexText.upper`), and the function `strtoul` of the C library in base 16, which
reads the longest number at the beginning of a text and says where it ends. Where
nothing behind the digits continues the number, it reads exactly the digits
(`HexText.strtoul_append`).
-/

namespace HexText

/-! ## Digits -/

/-- The value of a digit, in either case. -/
def digitValue (c : Char) : Option Nat :=
  if 48 ≤ c.toNat ∧ c.toNat ≤ 57 then some (c.toNat - 48)
  else if 97 ≤ c.toNat ∧ c.toNat ≤ 102 then some (c.toNat - 87)
  else if 65 ≤ c.toNat ∧ c.toNat ≤ 70 then some (c.toNat - 55)
  else none

/-- The characters that are digits. -/
def IsDigit (c : Char) : Prop := (digitValue c).isSome

instance : DecidablePred IsDigit := fun c => inferInstanceAs (Decidable ((digitValue c).isSome = _))

/-- The number that digits write, the most significant first. -/
def value (digits : List Char) : Nat :=
  digits.foldl (fun number c => 16 * number + (digitValue c).getD 0) 0

/-- A number in base 16, with zeros in front up to the width: `%0*x`. -/
def lower (width number : Nat) : List Char := (Nat.toDigits 16 number).leftpad width '0'

/-- A number in base 16, with zeros in front up to the width: `%0*X`. -/
def upper (width number : Nat) : List Char := (lower width number).map Char.toUpper

theorem digitValue_digitChar {digit : Nat} (small : digit < 16) :
    digitValue (Nat.digitChar digit) = some digit := by
  have all : ∀ digit < 16, digitValue (Nat.digitChar digit) = some digit := by decide
  exact all digit small

/-- Upper case letters have the values of the lower case ones. -/
theorem digitValue_toUpper (c : Char) : digitValue c.toUpper = digitValue c := by
  by_cases ascii : c.toNat < 128
  · have all : ∀ number < 128,
        digitValue (Char.ofNat number).toUpper = digitValue (Char.ofNat number) := by
      decide
    have here := all c.toNat ascii
    rwa [Char.ofNat_toNat] at here
  · have beyond : ¬ (c.val ≥ 'a'.val ∧ c.val ≤ 'z'.val) := by
      rintro ⟨-, below⟩
      exact ascii (Nat.lt_of_le_of_lt (UInt32.le_iff_toNat_le.mp below) (by decide))
    have same : c.toUpper = c := dif_neg beyond
    rw [same]

/-- A digit is the one that prints its value, up to the case. -/
theorem digitValue_eq_some {c : Char} {digit : Nat} (valued : digitValue c = some digit) :
    digit < 16 ∧ c.toUpper = (Nat.digitChar digit).toUpper := by
  have inside : c.toNat < 103 := by
    unfold digitValue at valued
    by_contra outside
    rw [if_neg (by omega), if_neg (by omega), if_neg (by omega)] at valued
    cases valued
  have all : ∀ number < 103, ∀ digit, digitValue (Char.ofNat number) = some digit →
      digit < 16 ∧ (Char.ofNat number).toUpper = (Nat.digitChar digit).toUpper := by
    decide
  have here := all c.toNat inside digit
  rw [Char.ofNat_toNat] at here
  exact here valued

/-! ## Numbers -/

@[simp] theorem value_nil : value [] = 0 := rfl

theorem value_append_singleton (digits : List Char) (c : Char) :
    value (digits ++ [c]) = 16 * value digits + (digitValue c).getD 0 := by
  unfold value
  rw [List.foldl_append, List.foldl_cons, List.foldl_nil]

/-- Upper case digits stand for the same number. -/
theorem value_map_toUpper (digits : List Char) :
    value (digits.map Char.toUpper) = value digits := by
  induction digits using List.reverseRecOn with
  | nil => rfl
  | append_singleton digits c ih =>
      rw [List.map_append, List.map_singleton, value_append_singleton, value_append_singleton, ih,
        digitValue_toUpper]

/-- A text of digits stands for a number below that power of 16. -/
theorem value_lt {digits : List Char} (valued : ∀ c ∈ digits, IsDigit c) :
    value digits < 16 ^ digits.length := by
  induction digits using List.reverseRecOn with
  | nil => decide
  | append_singleton digits c ih =>
      have before := ih fun c member => valued c (List.mem_append_left _ member)
      obtain ⟨digit, here⟩ := Option.isSome_iff_exists.mp (valued c List.mem_concat_self)
      have small := (digitValue_eq_some here).1
      rw [value_append_singleton, here, Option.getD_some, List.length_append,
        List.length_singleton, Nat.pow_succ]
      omega

/-- One digit more is the number times 16 and the digit. -/
theorem lower_succ {width : Nat} (positive : 0 < width) (number : Nat) :
    lower (width + 1) number = lower width (number / 16) ++ [Nat.digitChar (number % 16)] := by
  unfold lower List.leftpad
  by_cases short : number < 16
  · rw [Nat.toDigits_of_lt_base short, Nat.div_eq_of_lt short, Nat.mod_eq_of_lt short,
      Nat.toDigits_zero, List.length_singleton, List.length_singleton, ← List.replicate_succ',
      Nat.add_sub_cancel, Nat.sub_add_cancel positive]
  · rw [Nat.toDigits_of_base_le (by decide) (Nat.le_of_not_lt short), List.length_append,
      List.length_singleton, Nat.add_sub_add_right, List.append_assoc]

theorem lower_zero {width : Nat} (positive : 0 < width) :
    lower width 0 = List.replicate width '0' := by
  unfold lower List.leftpad
  rw [Nat.toDigits_zero, ← List.replicate_succ', List.length_singleton, Nat.sub_add_cancel positive]

/-- Reading what was printed. -/
theorem value_toDigits (number : Nat) : value (Nat.toDigits 16 number) = number := by
  induction number using Nat.strongRecOn with
  | ind number ih =>
      by_cases short : number < 16
      · rw [Nat.toDigits_of_lt_base short, ← List.nil_append [_], value_append_singleton,
          digitValue_digitChar short, value_nil, Option.getD_some, Nat.mul_zero, Nat.zero_add]
      · rw [Nat.toDigits_of_base_le (by decide) (Nat.le_of_not_lt short), value_append_singleton,
          ih (number / 16) (by omega), digitValue_digitChar (Nat.mod_lt _ (by decide))]
        exact Nat.div_add_mod number 16

/-- The printed digits stand for the number. -/
theorem value_lower (width number : Nat) : value (lower width number) = number := by
  have zeros (count : Nat) (digits : List Char) :
      value (List.replicate count '0' ++ digits) = value digits := by
    induction count with
    | zero => rfl
    | succ count ih => exact ih
  exact (zeros _ _).trans (value_toDigits number)

theorem value_upper (width number : Nat) : value (upper width number) = number := by
  rw [upper, value_map_toUpper, value_lower]

/-- Different numbers are printed differently. -/
theorem lower_injective (width : Nat) : Function.Injective (lower width) :=
  Function.LeftInverse.injective (value_lower width)

/-- What is printed consists of digits. -/
theorem isDigit_of_mem_upper {width number : Nat} {c : Char} (member : c ∈ upper width number) :
    IsDigit c := by
  have printed (number : Nat) : ∀ c ∈ Nat.toDigits 16 number, IsDigit c := by
    induction number using Nat.strongRecOn with
    | ind number ih =>
        have last (digit : Nat) (small : digit < 16) : IsDigit (Nat.digitChar digit) := by
          rw [IsDigit, digitValue_digitChar small]
          rfl
        intro c member
        by_cases short : number < 16
        · rw [Nat.toDigits_of_lt_base short, List.mem_singleton] at member
          exact member ▸ last number short
        · rw [Nat.toDigits_of_base_le (by decide) (Nat.le_of_not_lt short), List.mem_append,
            List.mem_singleton] at member
          rcases member with before | rfl
          · exact ih (number / 16) (by omega) c before
          · exact last _ (Nat.mod_lt _ (by decide))
  obtain ⟨original, inside, rfl⟩ := List.mem_map.mp member
  rw [IsDigit, digitValue_toUpper]
  rcases List.mem_append.mp inside with zero | digit
  · rw [List.eq_of_mem_replicate zero]
    rfl
  · exact printed number original digit

theorem length_upper {width number : Nat} (positive : 0 < width) (fits : number < 16 ^ width) :
    (upper width number).length = width := by
  have short := (Nat.length_toDigits_le_iff (b := 16) (by decide) positive).mpr fits
  rw [upper, List.length_map, lower, List.length_leftpad]
  exact Nat.max_eq_left short

/-- Printing what was read: the digits with zeros in front, in upper case. -/
theorem upper_value {width : Nat} {digits : List Char} (valued : ∀ c ∈ digits, IsDigit c)
    (positive : 0 < width) (fits : digits.length ≤ width) :
    upper width (value digits) = (digits.leftpad width '0').map Char.toUpper := by
  induction digits using List.reverseRecOn generalizing width with
  | nil =>
      rw [value_nil, upper, lower_zero positive, List.leftpad, List.append_nil]
      rfl
  | append_singleton digits c ih =>
      obtain ⟨digit, here⟩ := Option.isSome_iff_exists.mp (valued c List.mem_concat_self)
      obtain ⟨small, same⟩ := digitValue_eq_some here
      have before := fun c member => valued c (List.mem_append_left _ member)
      rw [List.length_append, List.length_singleton] at fits
      have quotient : (16 * value digits + digit) / 16 = value digits := by omega
      have remainder : (16 * value digits + digit) % 16 = digit := by omega
      rw [value_append_singleton, here, Option.getD_some]
      cases width with
      | zero => exact absurd positive (Nat.lt_irrefl 0)
      | succ width =>
          rcases Nat.eq_zero_or_pos width with rfl | room
          · have none : digits = [] := List.eq_nil_of_length_eq_zero (by omega)
            subst none
            rw [value_nil, Nat.mul_zero, Nat.zero_add digit, upper, lower,
              Nat.toDigits_of_lt_base small]
            exact congrArg (· :: []) same.symm
          · have pad :
                (digits ++ [c]).leftpad (width + 1) '0' = digits.leftpad width '0' ++ [c] := by
              unfold List.leftpad
              rw [List.length_append, List.length_singleton, Nat.add_sub_add_right,
                List.append_assoc]
            rw [upper, lower_succ room, quotient, remainder, List.map_append, ← upper,
              ih before room (by omega), pad, List.map_append, List.map_singleton,
              List.map_singleton, same]

/-! ## `strtoul` -/

/-- The white space of the C locale. -/
def isSpace (c : Char) : Bool := c = ' ' ∨ (9 ≤ c.toNat ∧ c.toNat ≤ 13)

/-- Whether a text begins with `0x` and a digit. -/
def Prefixed (text : List Char) : Prop :=
  text[0]? = some '0' ∧ (text[1]? = some 'x' ∨ text[1]? = some 'X') ∧
    (text[2]?.bind digitValue).isSome

instance : DecidablePred Prefixed := fun _ => inferInstanceAs (Decidable (_ ∧ _ ∧ _))

/-- The number of type `unsigned long` at the beginning of a text, and the text
behind it. A number that does not fit is the largest one; without digits, nothing
is read. -/
def strtoul (width : Nat) (text : List Char) : BitVec width × List Char :=
  let body := text.dropWhile isSpace
  let negative : Prop := body.head? = some '-'
  let unsigned := if negative ∨ body.head? = some '+' then body.tail else body
  let number := if Prefixed unsigned then unsigned.drop 2 else unsigned
  let digits := number.takeWhile IsDigit
  let rest := number.dropWhile IsDigit
  if digits = [] then (0, text)
  else if 2 ^ width ≤ value digits then (BitVec.allOnes width, rest)
  else if negative then (-BitVec.ofNat width (value digits), rest)
  else (BitVec.ofNat width (value digits), rest)

/-- Nothing at the beginning of the text continues a number. -/
def Ends (rest : List Char) : Prop :=
  ∀ c ∈ rest.head?, ¬ IsDigit c ∧ c ≠ 'x' ∧ c ≠ 'X'

theorem ends_nil : Ends [] := by
  rintro c ⟨⟩

/-- A scan that the first character ends. -/
theorem scan_of_head (p : Char → Bool) {text : List Char} (ends : ∀ c ∈ text.head?, p c = false) :
    text.takeWhile p = [] ∧ text.dropWhile p = text := by
  cases text with
  | nil => exact ⟨rfl, rfl⟩
  | cons c rest =>
      have stopped : ¬ p c = true := Bool.eq_false_iff.mp (ends c rfl)
      exact ⟨List.takeWhile_cons_of_neg stopped, List.dropWhile_cons_of_neg stopped⟩

/-- A digit is no space. -/
theorem IsDigit.not_isSpace {c : Char} (digit : IsDigit c) : isSpace c = false := by
  obtain ⟨number, valued⟩ := Option.isSome_iff_exists.mp digit
  refine decide_eq_false fun space => ?_
  have low : c.toNat < 48 := by
    rcases space with rfl | control
    · decide
    · omega
  unfold digitValue at valued
  rw [if_neg (by omega), if_neg (by omega), if_neg (by omega)] at valued
  cases valued

/-- Digits with nothing behind them that continues a number do not begin with `0x`. -/
theorem not_prefixed {digits rest : List Char} (valued : ∀ c ∈ digits, IsDigit c)
    (nonempty : digits ≠ []) (ends : Ends rest) : ¬ Prefixed (digits ++ rest) := by
  have second : ∀ c ∈ (digits ++ rest)[1]?, c ≠ 'x' ∧ c ≠ 'X' := by
    intro c here
    by_cases long : 1 < digits.length
    · rw [List.getElem?_append_left long] at here
      have digit := valued c (List.mem_of_getElem? here)
      constructor
      · rintro rfl
        exact absurd digit (by decide)
      · rintro rfl
        exact absurd digit (by decide)
    · have single : 1 - digits.length = 0 := by
        have := List.length_pos_iff.mpr nonempty
        omega
      rw [List.getElem?_append_right (Nat.le_of_not_lt long), single, ← List.head?_eq_getElem?]
        at here
      exact (ends c here).2
  rintro ⟨-, lowerCase | upperCase, -⟩
  · exact (second 'x' lowerCase).1 rfl
  · exact (second 'X' upperCase).2 rfl

/-- **Reading digits.** Where the digits end, the number ends. -/
theorem strtoul_append {width : Nat} {digits rest : List Char} (valued : ∀ c ∈ digits, IsDigit c)
    (nonempty : digits ≠ []) (fits : value digits < 2 ^ width) (ends : Ends rest) :
    strtoul width (digits ++ rest) = (BitVec.ofNat width (value digits), rest) := by
  have first : ∀ c ∈ (digits ++ rest).head?, IsDigit c := by
    intro c here
    rw [List.head?_append_of_ne_nil _ nonempty] at here
    exact valued c (List.mem_of_mem_head? here)
  have plain (sign : Char) (other : ¬ IsDigit sign) : (digits ++ rest).head? ≠ some sign :=
    fun signed => other (first sign signed)
  have unsigned : ¬ ((digits ++ rest).head? = some '-' ∨ (digits ++ rest).head? = some '+') :=
    not_or.mpr ⟨plain '-' (by decide), plain '+' (by decide)⟩
  have body : (digits ++ rest).dropWhile isSpace = digits ++ rest :=
    (scan_of_head isSpace fun c here => (first c here).not_isSpace).2
  have pos : ∀ c ∈ digits, decide (IsDigit c) = true := fun c member =>
    decide_eq_true (valued c member)
  obtain ⟨none, all⟩ := scan_of_head (fun c => decide (IsDigit c))
    fun c here => decide_eq_false (ends c here).1
  have taken : (digits ++ rest).takeWhile IsDigit = digits := by
    rw [List.takeWhile_append_of_pos pos, none, List.append_nil]
  have left : (digits ++ rest).dropWhile IsDigit = rest := by
    rw [List.dropWhile_append_of_pos pos, all]
  simp only [strtoul]
  rw [body, if_neg unsigned, if_neg (not_prefixed valued nonempty ends), taken, left,
    if_neg nonempty, if_neg (Nat.not_le_of_lt fits), if_neg (plain '-' (by decide))]

end HexText
