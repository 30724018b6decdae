import Mathlib.Data.BitVec
import Mathlib.Data.Fintype.BigOperators

/-! # Machine words and error numbers

The device is a 32-bit ARM: `int`, `unsigned int` and `unsigned long` are 32-bit
words, and which order a comparison uses is decided by the operand types of the
C expression (`BitVec.slt` for `int`, `<` for the unsigned types).
-/

namespace Jordan

/-- A 32-bit word: `int`, `unsigned int` or `unsigned long`. -/
abbrev U32 := BitVec 32

/-- A byte: a register of a small device. -/
abbrev U8 := BitVec 8

/-- A 16-bit word. -/
abbrev U16 := BitVec 16

/-- A 64-bit word. -/
abbrev U64 := BitVec 64

/-- An error number: `errno` is positive after a failed call. -/
structure Errno where
  code : Nat
  positive : 0 < code
deriving DecidableEq, Repr

/-- The value `-errno` that a function returns. -/
def Errno.neg (errno : Errno) : Int := -(errno.code : Int)

/-- A negated error number is negative. -/
theorem Errno.neg_lt_zero (errno : Errno) : errno.neg < 0 := by
  have positive := errno.positive
  unfold Errno.neg
  omega

def EINTR : Errno := ⟨4, by decide⟩
def EIO : Errno := ⟨5, by decide⟩
def EBADF : Errno := ⟨9, by decide⟩
def ENOMEM : Errno := ⟨12, by decide⟩
def EFAULT : Errno := ⟨14, by decide⟩
def EBUSY : Errno := ⟨16, by decide⟩
def ENODEV : Errno := ⟨19, by decide⟩
def EINVAL : Errno := ⟨22, by decide⟩

end Jordan
