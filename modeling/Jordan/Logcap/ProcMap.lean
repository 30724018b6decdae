import Jordan.Library.Pieces
import Jordan.Machine
import Mathlib.Data.List.FinRange

/-! # The dump of the cpcap registers

`/proc/logcap/map` has a line for every register that `log-cpcap.c` has seen.
Every call of `proc_map_read` prints the lines again, and returns the slice at the
offset.

The lines are printed into `count` bytes, whatever the offset is, and the last
byte is for the terminator. A reader receives the first `count - 1` bytes of the
dump, and gets the end mark with them: it receives the whole dump exactly when
the dump is shorter than `count` (`Jordan.Logcap.LogcapRegs.delivers_iff`).
-/

namespace Jordan.Logcap

open Pieces

/-- `MAX_REGS` -/
abbrev maxRegs : Nat := 0x100

/-- What a line shows of `st_logcap_reg`. -/
structure LogcapReg where
  reg : U32
  maskWr : U16
  lastValue : U16
deriving DecidableEq, Repr

/-- `struct regname` -/
structure RegName where
  reg : Int
  name : List Char
deriving DecidableEq, Repr

/-- The loop of `capcap_regname`; `lmace` is `CPCAP_REG_LMACE`. -/
def capcapRegname (lmace : Int) : List RegName → Int → List Char
  | [], _ => []
  | r :: rest, reg =>
      if r.reg < lmace then
        if r.reg = reg then r.name else capcapRegname lmace rest reg
      else []

/-- A number in hexadecimal, filled up with zeros: `%02x` for 2, `%x` for 0. -/
def hex (width number : Nat) : List Char := (Nat.toDigits 16 number).leftpad width '0'

/-- What `scnprintf` puts before the terminator, which is also what it counts. -/
def scnprintf (size : Nat) (text : List Char) : List Char := text.take (size - 1)

/-- `store`, and the names of the registers. -/
structure LogcapRegs where
  r : Fin maxRegs → LogcapReg
  regnames : List RegName
  lmace : Int

namespace LogcapRegs

/-- The line of a register. -/
def line (s : LogcapRegs) (r : Fin maxRegs) : List Char :=
  hex 2 r ++ [':'] ++ capcapRegname s.lmace s.regnames r ++ [':'] ++
    hex 4 (s.r r).maskWr.toNat ++ [':'] ++ hex 0 (0xff &&& (s.r r).lastValue).toNat ++ ['\n']

/-- The lines of all registers with `reg != 0`. -/
def dump (s : LogcapRegs) : List Char :=
  ((List.finRange maxRegs).filter fun r => (s.r r).reg ≠ 0).flatMap s.line

/-- The loop of `proc_map_read`, over registers: the text in `page`. -/
def printRegs (s : LogcapRegs) (count : Nat) (regs : List (Fin maxRegs)) (page : List Char) :
    List Char :=
  regs.foldl
    (fun page r =>
      if (s.r r).reg ≠ 0 then page ++ scnprintf (count - page.length) (s.line r) else page)
    page

/-- `proc_map_read`: what it returns, the end mark, and the bytes at `*start`. -/
def procMapRead (s : LogcapRegs) (count offset : Nat) : Reply Char :=
  let page := s.printRegs count (List.finRange maxRegs) []
  let wr : Int := page.length
  let eof := decide (wr ≤ offset + count)
  let wr := wr - offset
  let wr := if wr > count then (count : Int) else wr
  let wr := if wr < 0 then 0 else wr
  ⟨wr, eof, (page.drop offset).take wr.toNat⟩

/-- The lines are cut off where the buffer ends. -/
theorem printRegs_take (s : LogcapRegs) (count : Nat) (regs : List (Fin maxRegs))
    (text : List Char) :
    s.printRegs count regs (text.take (count - 1)) =
      (text ++ (regs.filter fun r => (s.r r).reg ≠ 0).flatMap s.line).take (count - 1) := by
  induction regs generalizing text with
  | nil =>
      rw [List.filter_nil, List.flatMap_nil, List.append_nil]
      rfl
  | cons r rest ih =>
      unfold printRegs
      rw [List.foldl_cons]
      by_cases seen : (s.r r).reg ≠ 0
      · have printed : text.take (count - 1) ++
            scnprintf (count - (text.take (count - 1)).length) (s.line r) =
              (text ++ s.line r).take (count - 1) := by
          rw [List.take_append, scnprintf, List.length_take]
          congr 2
          omega
        rw [if_pos seen, printed, List.filter_cons, if_pos (decide_eq_true seen),
          List.flatMap_cons, ← List.append_assoc]
        exact ih (text ++ s.line r)
      · rw [if_neg seen, List.filter_cons, if_neg (by rwa [decide_eq_true_iff])]
        exact ih text

/-- Every call prints the same beginning of the dump. -/
theorem printRegs_eq (s : LogcapRegs) (count : Nat) :
    s.printRegs count (List.finRange maxRegs) [] = s.dump.take (count - 1) := by
  have printed := s.printRegs_take count (List.finRange maxRegs) []
  rwa [List.take_nil, List.nil_append] at printed

/-- The calls return slices of the beginning of the dump. -/
theorem slices (s : LogcapRegs) (count : Nat) :
    Slices (s.procMapRead count) (s.dump.take (count - 1)) count := by
  have clamped (offset : Nat) : (s.procMapRead count offset).ret.toNat =
      min count ((s.dump.take (count - 1)).drop offset).length := by
    simp only [procMapRead, printRegs_eq, List.length_drop]
    split <;> split <;> omega
  have nonneg (offset : Nat) : 0 ≤ (s.procMapRead count offset).ret := by
    simp only [procMapRead]
    split <;> omega
  have bytes (offset : Nat) : (s.procMapRead count offset).bytes =
      ((s.dump.take (count - 1)).drop offset).take count := by
    have cut : (s.procMapRead count offset).bytes = ((s.dump.take (count - 1)).drop offset).take
        (s.procMapRead count offset).ret.toNat := by
      simp only [procMapRead, printRegs_eq]
    rw [cut, clamped, List.take_eq_take_iff]
    omega
  refine ⟨bytes, fun offset => ?_⟩
  rw [bytes, List.length_take, ← clamped, Int.toNat_of_nonneg (nonneg offset)]

/-- **The reader receives the whole dump** exactly when the dump is shorter than
what it asks for. -/
theorem delivers_iff (s : LogcapRegs) (count : Nat) (positive : 1 ≤ count) :
    Delivers (s.procMapRead count) s.dump ↔ s.dump.length < count := by
  constructor
  · intro delivers
    have cut := congrArg List.length ((s.slices count).eq_of_delivers positive delivers)
    rw [List.length_take] at cut
    omega
  · intro short
    have whole : s.dump.take (count - 1) = s.dump := List.take_of_length_le (by omega)
    have slices := s.slices count
    rw [whole] at slices
    apply slices.delivers positive
    intro offset _
    rw [slices.bytes, List.length_take, List.length_drop]
    omega

/-- A device whose second register has been seen. -/
def oneSeen : LogcapRegs where
  r := fun index => if index.val = 1 then ⟨1, 0x7ff, 0x1234⟩ else ⟨0, 0, 0⟩
  regnames := [⟨0, ['I', 'N', 'T', '1']⟩, ⟨1, ['I', 'N', 'T', '2']⟩]
  lmace := 2

/-- A reader of 64 bytes receives its line. -/
theorem oneSeen_delivers : Delivers (oneSeen.procMapRead 64) oneSeen.dump :=
  (delivers_iff oneSeen 64 (by decide)).mpr (by decide)

/-- A reader of 10 bytes does not. -/
theorem oneSeen_cut : ¬ Delivers (oneSeen.procMapRead 10) oneSeen.dump := by
  intro delivers
  have cut := (oneSeen.slices 10).eq_of_delivers (by decide) delivers
  exact absurd (congrArg List.length cut) (by decide)

end LogcapRegs

end Jordan.Logcap
