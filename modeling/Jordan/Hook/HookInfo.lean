import Jordan.Machine
import Mathlib.Logic.Function.Basic

/-! # Hooking kernel functions

`hook.c` replaces the first instruction of a kernel function by a branch to a
function of the module, and keeps the instruction in a `hook_info`, followed by
a jump to the second instruction of the function.
-/

namespace Jordan.Hook

/-- `struct hook_info`. Null pointers are 0, or `none` for the name. -/
structure HookInfo where
  asm0 : U32
  jmp : U32
  targetCont : U32
  target : U32
  targetName : Option String
  newfunc : U32
deriving DecidableEq, Repr

/-- `HOOK_INIT` -/
def HookInfo.init (name : String) (newfunc : U32) : HookInfo := ⟨0, 0, 0, 0, some name, newfunc⟩

/-- `HOOK_INIT_END` -/
def HookInfo.initEnd : HookInfo := ⟨0, 0, 0, 0, none, 0⟩

/-- The words of memory outside the `hook_info`s. -/
abbrev Memory := U32 → U32

/-- The branch that `hook` writes to the target. -/
def branchWord (target newfunc : U32) : U32 :=
  0xea000000#32 + (0xffffff#32 &&& (newfunc - (target + 8)) / 4#32)

variable (lookup : String → U32)

/-- `hook`, where `lookup` is `kallsyms_lookup_name`. -/
def hook (hi : HookInfo) (memory : Memory) : Int × HookInfo × Memory :=
  let hi :=
    if hi.target = 0 then { hi with target := (hi.targetName.map lookup).getD 0 } else hi
  if hi.target = 0 then (-1, hi, memory)
  else
    (0, { hi with
      asm0 := memory hi.target
      jmp := 0xe51ff004
      targetCont := hi.target + 4 },
      Function.update memory hi.target (branchWord hi.target hi.newfunc))

/-- `unhook` -/
def unhook (hi : HookInfo) (memory : Memory) : Memory :=
  if hi.target = 0 then memory else Function.update memory hi.target hi.asm0

/-- `hook_init`: the entries up to the first without `newfunc`. -/
def hookInit : List HookInfo → Memory → List HookInfo × Memory
  | [], memory => ([], memory)
  | hi :: rest, memory =>
      if hi.newfunc = 0 then (hi :: rest, memory)
      else
        let (_, hi, memory) := hook lookup hi memory
        let (rest, memory) := hookInit rest memory
        (hi :: rest, memory)

/-- `hook_exit` -/
def hookExit : List HookInfo → Memory → Memory
  | [], memory => memory
  | hi :: rest, memory =>
      if hi.newfunc = 0 then memory else hookExit rest (unhook hi memory)

variable {lookup} {hi : HookInfo} {memory : Memory} {target : U32}

/-- The entry of a target whose first word has been saved. -/
def HookInfo.saved (hi : HookInfo) (target word : U32) : HookInfo :=
  { hi with asm0 := word, jmp := 0xe51ff004, targetCont := target + 4, target := target }

variable (memory) in
/-- Hooking a target that is found, for the first time or again. -/
theorem hook_found (found : (hi.targetName.map lookup).getD 0 = target) (exists_ : target ≠ 0)
    (known : hi.target = 0 ∨ hi.target = target) :
    hook lookup hi memory = (0, hi.saved target (memory target),
      Function.update memory target (branchWord target hi.newfunc)) := by
  rcases known with fresh | again
  · simp only [hook, fresh, ↓reduceIte, found, exists_, HookInfo.saved]
  · simp only [hook, again, exists_, ↓reduceIte, HookInfo.saved]

/-- The saved word goes back to its place. -/
theorem unhook_saved (word other : U32) (exists_ : target ≠ 0)
    (original : memory target = word) :
    unhook (hi.saved target word) (Function.update memory target other) = memory := by
  simp only [unhook, HookInfo.saved, exists_, ↓reduceIte, Function.update_idem, ← original,
    Function.update_eq_self]

end Jordan.Hook
