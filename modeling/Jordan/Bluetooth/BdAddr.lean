import Jordan.Library.Execution
import Jordan.Library.HexText
import Jordan.Machine
import Mathlib.Data.List.FinRange

/-! # Bluetooth addresses as text

`ba2str` and `str2ba` of `bluedroid.c`. The text begins with the last byte of the
address. The reader leaves it to `strtoul` where a group ends and skips one
character behind it, whatever it is; behind the last group this is the terminator.

While the loop runs, `str` points to the group of the byte that is stored next
(`Jordan.Bluetooth.str2baTurn_position`). An address comes back from its text, and
six groups of one or two digits come back with two digits in upper case
(`Jordan.Bluetooth.address_roundTrip`).
-/

namespace Jordan.Bluetooth

open Execution HexText

/-! ## The functions -/

/-- `bdaddr_t` -/
structure Bdaddr where
  b : Fin 6 → U8
deriving DecidableEq

/-- The bytes from `b[5]` to `b[0]`. -/
def downward : List (Fin 6) := (List.finRange 6).reverse

/-- Groups separated by colons, that of `b[5]` first. -/
def addressText (groups : Fin 6 → List Char) : List Char :=
  List.intercalate [':'] (downward.map groups)

/-- `ba2str`: what it returns, and the text at `str`. -/
def ba2str (ba : Bdaddr) : Int × List Char :=
  let str := addressText fun i => upper 2 (ba.b i).toNat
  (str.length, str)

/-- A turn of the loop of `str2ba`. A pointer is the text before the terminator;
`none` points behind the terminator, where nothing may be read. -/
def str2baTurn (state : Bdaddr × Option (List Char)) (i : Fin 6) :
    Option (Bdaddr × Option (List Char)) :=
  state.2.map fun str =>
    let (number, str) := strtoul 32 str
    (⟨Function.update state.1.b i (number.setWidth 8)⟩, str.tail?)

/-- `str2ba`: what it returns, and the address at `ba`. -/
def str2ba (str : List Char) (ba : Bdaddr) : Option (Int × Bdaddr) :=
  (exec str2baTurn (ba, some str) downward).map fun last => (0, last.1)

/-! ## The groups of a text -/

/-- One or two hexadecimal digits. -/
structure HexGroup where
  digits : List Char
  valued : ∀ c ∈ digits, IsDigit c
  sized : digits.length = 1 ∨ digits.length = 2

namespace HexGroup

/-- The byte that the digits write. -/
def byte (group : HexGroup) : U8 := BitVec.ofNat 8 (value group.digits)

/-- Two digits, in upper case. -/
def canonical (group : HexGroup) : List Char := (group.digits.leftpad 2 '0').map Char.toUpper

/-- The group that `ba2str` prints. -/
def ofByte (byte : U8) : HexGroup where
  digits := upper 2 byte.toNat
  valued := fun _ => isDigit_of_mem_upper
  sized := .inr (length_upper (by decide) byte.isLt)

theorem value_lt (group : HexGroup) : value group.digits < 256 := by
  have small := HexText.value_lt group.valued
  rcases group.sized with one | two
  · rw [one] at small
    omega
  · rwa [two] at small

theorem byte_ofByte (byte : U8) : (ofByte byte).byte = byte := by
  show BitVec.ofNat 8 (value (upper 2 byte.toNat)) = byte
  rw [value_upper, BitVec.ofNat_toNat, BitVec.setWidth_eq]

/-- The byte of a group is printed as the group with two digits. -/
theorem upper_byte (group : HexGroup) : upper 2 group.byte.toNat = group.canonical := by
  have short : group.digits.length ≤ 2 := by
    have := group.sized
    omega
  have number : group.byte.toNat = value group.digits :=
    (BitVec.toNat_ofNat _ _).trans (Nat.mod_eq_of_lt group.value_lt)
  rw [number]
  exact upper_value group.valued (by decide) short

/-- `strtoul` reads the digits of a group and stops where they end. -/
theorem strtoul_digits (group : HexGroup) {rest : List Char} (ends : Ends rest) :
    strtoul 32 (group.digits ++ rest) = (BitVec.ofNat 32 (value group.digits), rest) := by
  have nonempty : group.digits ≠ [] := by
    intro none
    have := group.sized
    rw [none, List.length_nil] at this
    omega
  exact strtoul_append group.valued nonempty (Nat.lt_trans group.value_lt (by decide)) ends

theorem setWidth_value (group : HexGroup) :
    (BitVec.ofNat 32 (value group.digits)).setWidth 8 = group.byte := by
  apply BitVec.eq_of_toNat_eq
  have small := group.value_lt
  rw [BitVec.toNat_setWidth, BitVec.toNat_ofNat, byte, BitVec.toNat_ofNat]
  omega

end HexGroup

/-! ## The loop -/

variable (groups : Fin 6 → HexGroup)

/-- Where the groups of the bytes begin, and behind the terminator when there are
none. -/
def position : List (Fin 6) → Option (List Char)
  | [] => none
  | i :: rest => some (List.intercalate [':'] ((i :: rest).map fun j => (groups j).digits))

/-- Store the byte of a group. -/
def store (ba : Bdaddr) (i : Fin 6) : Bdaddr := ⟨Function.update ba.b i (groups i).byte⟩

/-- **One turn** reads one group and moves to the next one. -/
theorem str2baTurn_position (ba : Bdaddr) (i : Fin 6) (rest : List (Fin 6)) :
    str2baTurn (ba, position groups (i :: rest)) i =
      some (store groups ba i, position groups rest) := by
  cases rest with
  | nil =>
      have text : List.intercalate [':'] ([i].map fun j => (groups j).digits) =
          (groups i).digits ++ [] := by
        simp
      simp only [str2baTurn, position, text, (groups i).strtoul_digits ends_nil,
        (groups i).setWidth_value, Option.map_some]
      rfl
  | cons next rest =>
      have text : List.intercalate [':'] ((i :: next :: rest).map fun j => (groups j).digits) =
          (groups i).digits ++
            ':' :: List.intercalate [':'] ((next :: rest).map fun j => (groups j).digits) := by
        simp
      have ends (behind : List Char) : Ends (':' :: behind) := by
        rintro c ⟨⟩
        decide
      simp only [str2baTurn, position, text, (groups i).strtoul_digits (ends _),
        (groups i).setWidth_value, Option.map_some]
      rfl

/-- The loop reads the groups of all bytes. -/
theorem exec_position (ba : Bdaddr) (turns : List (Fin 6)) :
    exec str2baTurn (ba, position groups turns) turns =
      some (turns.foldl (store groups) ba, none) := by
  induction turns generalizing ba with
  | nil => rfl
  | cons i rest ih =>
      rw [exec_cons, str2baTurn_position, Option.bind_some]
      exact ih (store groups ba i)

/-- A store of a group is not undone by the later turns, which make the same one. -/
theorem b_foldl_store (turns : List (Fin 6)) (ba : Bdaddr) (i : Fin 6)
    (covered : i ∈ turns ∨ ba.b i = (groups i).byte) :
    (turns.foldl (store groups) ba).b i = (groups i).byte := by
  induction turns generalizing ba with
  | nil => exact covered.resolve_left List.not_mem_nil
  | cons first rest ih =>
      apply ih
      by_cases here : i = first
      · subst here
        exact .inr (Function.update_self _ _ _)
      · rcases covered with member | already
        · exact .inl ((List.mem_cons.mp member).resolve_left here)
        · exact .inr ((Function.update_of_ne here _ _).trans already)

/-- What `str2ba` stores from six groups. -/
theorem str2ba_addressText (ba : Bdaddr) :
    str2ba (addressText fun i => (groups i).digits) ba = some (0, ⟨fun i => (groups i).byte⟩) := by
  have start : some (addressText fun i => (groups i).digits) = position groups downward := rfl
  have all (i : Fin 6) : i ∈ downward := List.mem_reverse.mpr (List.mem_finRange i)
  have stored : downward.foldl (store groups) ba = ⟨fun i => (groups i).byte⟩ := by
    apply congrArg Bdaddr.mk
    funext i
    exact b_foldl_store groups downward ba i (.inl (all i))
  rw [str2ba, start, exec_position, Option.map_some, stored]

/-- **Round trips.** An address is read back from its text, and six groups of one
or two digits are printed with two digits in upper case, whatever `ba` held. -/
theorem address_roundTrip :
    (∀ a old : Bdaddr, str2ba (ba2str a).2 old = some (0, a)) ∧
      ∀ (groups : Fin 6 → HexGroup) (old : Bdaddr),
        (str2ba (addressText fun i => (groups i).digits) old).map (fun read => (ba2str read.2).2) =
          some (addressText fun i => (groups i).canonical) := by
  constructor
  · intro a old
    have read := str2ba_addressText (fun i => HexGroup.ofByte (a.b i)) old
    simp only [HexGroup.byte_ofByte] at read
    exact read
  · intro groups old
    rw [str2ba_addressText, Option.map_some]
    simp only [ba2str, HexGroup.upper_byte]

example : (str2ba "0:a1:B:2c:fF:7".toList ⟨fun _ => 0⟩).map (fun read => (ba2str read.2).2) =
    some "00:A1:0B:2C:FF:07".toList := by decide

end Jordan.Bluetooth
