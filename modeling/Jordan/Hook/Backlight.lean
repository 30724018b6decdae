import Jordan.Library.ArmCode
import Jordan.Hook.HookInfo

/-! # The hook of the backlight module

`cpcap-bright.c` hooks `cpcap_regacc_write` when it is loaded, if a parameter
says so, and when a number is written to `/proc/backlight/hook_enable`; it
unhooks it when 0 is written, and when it is unloaded.

The function is hooked exactly while the last of these said so. While it is
hooked, its first word is a branch to the module's function, and calling the
saved word runs what the word is in its own place; otherwise the memory is
untouched (`Jordan.Hook.Backlight.hooking_transparent`).
-/

namespace Jordan.Hook

open ArmCode

/-- Where things are: the symbols of the kernel, the module's function and its
`g_hi`. The function is found, is not part of `g_hi`, and is within the reach of
a branch to the module's function. -/
structure Site where
  lookup : String → U32
  newfunc : U32
  gHi : U32
  found : lookup "cpcap_regacc_write" ≠ 0
  compiled : newfunc ≠ 0
  aligned : (lookup "cpcap_regacc_write").toNat % 4 = 0 ∧ newfunc.toNat % 4 = 0
  near : -2 ^ 25 ≤ (newfunc - (lookup "cpcap_regacc_write" + 8)).toInt ∧
    (newfunc - (lookup "cpcap_regacc_write" + 8)).toInt < 2 ^ 25
  apart : lookup "cpcap_regacc_write" ≠ gHi ∧ lookup "cpcap_regacc_write" ≠ gHi + 4 ∧
    lookup "cpcap_regacc_write" ≠ gHi + 8

/-- The address of `cpcap_regacc_write` in the kernel. -/
def Site.target (site : Site) : U32 := site.lookup "cpcap_regacc_write"

/-- The module's `g_hi` and `hooked`, and the memory. -/
structure Backlight where
  gHi : List HookInfo
  hooked : Bool
  memory : Memory

namespace Backlight

variable (site : Site)

/-- The module before `backlight_init`. -/
def create (memory : Memory) : Backlight where
  gHi := [.init "cpcap_regacc_write" site.newfunc, .initEnd]
  hooked := false
  memory := memory

/-- `hook_init(); hooked = 1;` -/
def enable (s : Backlight) : Backlight :=
  let (gHi, memory) := hookInit site.lookup s.gHi s.memory
  ⟨gHi, true, memory⟩

/-- `hook_exit(); hooked = 0;` -/
def disable (s : Backlight) : Backlight := ⟨s.gHi, false, hookExit s.gHi s.memory⟩

/-- `backlight_init`, with the parameter `hook_enable`. -/
def backlightInit (s : Backlight) (hookEnable : BitVec 16) : Backlight :=
  if hookEnable ≠ 0 then s.enable site else s

/-- `proc_hook_write`, given what `sscanf` finds. -/
def procHookWrite (s : Backlight) (text : Option U32) : Backlight :=
  match text with
  | none => s
  | some newval =>
      if newval = 0 ∧ s.hooked then s.disable
      else if newval ≠ 0 ∧ ¬ s.hooked then s.enable site
      else s

/-- `backlight_exit` -/
def backlightExit (s : Backlight) : Backlight := if s.hooked then s.disable else s

/-- The module after `backlight_init` and writes to `hook_enable`. -/
def run (memory : Memory) (hookEnable : BitVec 16) (writes : List (Option U32)) : Backlight :=
  writes.foldl (procHookWrite site) ((create site memory).backlightInit site hookEnable)

/-- The module is asked to hook: the last number that was written is not 0, or
the parameter is not when there is none. -/
def Asked (hookEnable : BitVec 16) (writes : List (Option U32)) : Prop :=
  match (writes.filterMap id).getLast? with
  | none => hookEnable ≠ 0
  | some newval => newval ≠ 0

/-- The words the CPU fetches: `g_hi` starts with the first entry. -/
def code (s : Backlight) (address : U32) : U32 :=
  let hi := s.gHi.headD .initEnd
  if address = site.gHi then hi.asm0
  else if address = site.gHi + 4 then hi.jmp
  else if address = site.gHi + 8 then hi.targetCont
  else s.memory address

/-- While hooked, the word at the target is a branch to `newfunc`, and executing
from `&asm0` runs what the original word is at the target; while not hooked, the
word at the target is the original. -/
def Transparent {Data : Type} (semantics : Semantics Data) (word : U32) (s : Backlight) : Prop :=
  if s.hooked then
    (∃ offset, decode (s.code site site.target) = .branch offset ∧
      site.target + 8 + offset = site.newfunc) ∧
      RunsAs semantics (s.code site) site.gHi word site.target
  else s.code site site.target = word

/-- The entry of the hooked function is the one `HOOK_INIT` makes, but for what
`hook` has stored. -/
structure Entry (site : Site) (hi : HookInfo) : Prop where
  targetName : hi.targetName = some "cpcap_regacc_write"
  newfunc : hi.newfunc = site.newfunc
  target : hi.target = 0 ∨ hi.target = site.target

/-- The invariant: the memory is the original one, but for the target while it
is hooked; its original word is then saved. -/
inductive Consistent (site : Site) (memory : Memory) : Backlight → Prop
  | unhooked {hi : HookInfo} (entry : Entry site hi) :
      Consistent site memory ⟨[hi, .initEnd], false, memory⟩
  | hooked {hi : HookInfo} (entry : Entry site hi) :
      Consistent site memory
        ⟨[hi.saved site.target (memory site.target), .initEnd], true,
          Function.update memory site.target (branchWord site.target site.newfunc)⟩

variable {site} {memory : Memory}

theorem Entry.saved {hi : HookInfo} (entry : Entry site hi) (word : U32) :
    Entry site (hi.saved site.target word) :=
  ⟨entry.targetName, entry.newfunc, .inr rfl⟩

theorem consistent_create : Consistent site memory (create site memory) :=
  .unhooked ⟨rfl, rfl, .inl rfl⟩

/-- Hooking saves the original word. -/
theorem Consistent.enable {s : Backlight} (consistent : Consistent site memory s)
    (unhooked : s.hooked = false) : Consistent site memory (s.enable site) := by
  cases consistent with
  | hooked => cases unhooked
  | @unhooked hi entry =>
      have found : (hi.targetName.map site.lookup).getD 0 = site.target := by
        rw [entry.targetName]
        rfl
      have fresh := hook_found memory found site.found entry.target
      rw [entry.newfunc] at fresh
      simp only [Backlight.enable, hookInit, entry.newfunc, site.compiled, ↓reduceIte, fresh,
        HookInfo.initEnd]
      exact .hooked entry

/-- Unhooking restores it. -/
theorem Consistent.disable {s : Backlight} (consistent : Consistent site memory s)
    (hooked : s.hooked = true) : Consistent site memory s.disable ∧ s.disable.memory = memory := by
  cases consistent with
  | unhooked => cases hooked
  | @hooked hi entry =>
      have kept : (hi.saved site.target (memory site.target)).newfunc = site.newfunc :=
        entry.newfunc
      have found : site.target ≠ 0 := site.found
      have restored : unhook (hi.saved site.target (memory site.target))
          (Function.update memory site.target (branchWord site.target site.newfunc)) = memory :=
        unhook_saved _ _ found rfl
      simp only [Backlight.disable, hookExit, kept, site.compiled, ↓reduceIte, restored,
        HookInfo.initEnd, and_true]
      exact .unhooked (entry.saved _)

theorem Consistent.procHookWrite {s : Backlight} (consistent : Consistent site memory s)
    (text : Option U32) : Consistent site memory (s.procHookWrite site text) := by
  cases text with
  | none => exact consistent
  | some newval =>
      simp only [Backlight.procHookWrite]
      split_ifs with off on
      · exact (consistent.disable off.2).1
      · exact consistent.enable (Bool.eq_false_of_not_eq_true on.2)
      · exact consistent

variable (site memory) in
theorem consistent_run (hookEnable : BitVec 16) (writes : List (Option U32)) :
    Consistent site memory (run site memory hookEnable writes) := by
  have loaded : Consistent site memory ((create site memory).backlightInit site hookEnable) := by
    unfold backlightInit
    split
    · exact consistent_create.enable rfl
    · exact consistent_create
  unfold run
  generalize (create site memory).backlightInit site hookEnable = s at loaded
  induction writes generalizing s with
  | nil => exact loaded
  | cons text rest ih => exact ih _ (loaded.procHookWrite text)

/-- A number that is written is obeyed, whether the module is hooked or not. -/
theorem procHookWrite_hooked (s : Backlight) (newval : U32) :
    (s.procHookWrite site (some newval)).hooked = true ↔ newval ≠ 0 := by
  simp only [Backlight.procHookWrite]
  split_ifs with off on
  · exact iff_of_false Bool.false_ne_true (not_not.mpr off.1)
  · exact iff_of_true rfl on.1
  · by_cases zero : newval = 0
    · exact iff_of_false (fun hooked => off ⟨zero, hooked⟩) (not_not.mpr zero)
    · exact iff_of_true (by_contra fun unhooked => on ⟨zero, unhooked⟩) zero

variable (site memory) in
/-- The module is hooked exactly while it is asked to. -/
theorem run_hooked (hookEnable : BitVec 16) (writes : List (Option U32)) :
    (run site memory hookEnable writes).hooked = true ↔ Asked hookEnable writes := by
  induction writes using List.reverseRecOn with
  | nil =>
      show ((create site memory).backlightInit site hookEnable).hooked = true ↔ hookEnable ≠ 0
      unfold backlightInit
      split
      next given => exact iff_of_true rfl given
      next zero => exact iff_of_false Bool.false_ne_true zero
  | append_singleton writes text ih =>
      have last : run site memory hookEnable (writes ++ [text]) =
          (run site memory hookEnable writes).procHookWrite site text := by
        simp only [run, List.foldl_append, List.foldl_cons, List.foldl_nil]
      rw [last]
      cases text with
      | none =>
          have same : (writes ++ [none]).filterMap id = writes.filterMap id := by
            simp only [List.filterMap_append, List.filterMap_cons, List.filterMap_nil, id_eq,
              List.append_nil]
          simpa only [Asked, same, Backlight.procHookWrite] using ih
      | some newval =>
          have latest : ((writes ++ [some newval]).filterMap id).getLast? = some newval := by
            simp only [List.filterMap_append, List.filterMap_cons, List.filterMap_nil, id_eq,
              List.getLast?_append, List.getLast?_singleton, Option.some_or]
          simpa only [Asked, latest] using procHookWrite_hooked _ newval

/-- A consistent module is transparent for a word that does not read the program
counter. -/
theorem Consistent.transparent {Data : Type} {semantics : Semantics Data} {s : Backlight}
    (consistent : Consistent site memory s) (free : PcFree semantics (memory site.target)) :
    Transparent site semantics (memory site.target) s := by
  have apart : site.target ≠ site.gHi ∧ site.target ≠ site.gHi + 4 ∧
      site.target ≠ site.gHi + 8 := site.apart
  cases consistent with
  | unhooked entry =>
      simp only [Transparent, Bool.false_eq_true, ↓reduceIte, code, apart]
  | @hooked hi entry =>
      simp only [Transparent, ↓reduceIte]
      refine ⟨⟨site.newfunc - (site.target + 8), ?_, ?_⟩, ?_⟩
      · have aligned : (site.newfunc - (site.target + 8)).toNat % 4 = 0 := by
          have target : site.target.toNat % 4 = 0 := site.aligned.1
          have newfunc := site.aligned.2
          bv_omega
        simp only [code, apart, ↓reduceIte, Function.update_self]
        exact decode_branch aligned site.near
      · bv_omega
      · have jump : site.gHi + 4 ≠ site.gHi := by bv_omega
        have literal : site.gHi + 8 ≠ site.gHi := by bv_omega
        have behind : site.gHi + 8 ≠ site.gHi + 4 := by bv_omega
        refine Trampoline.runsAs ⟨?_, ?_, ?_⟩ free
        · simp only [code, ↓reduceIte, List.headD_cons, HookInfo.saved]
        · simp only [code, jump, ↓reduceIte, List.headD_cons, HookInfo.saved]
        · simp only [code, literal, behind, ↓reduceIte, List.headD_cons, HookInfo.saved]

/-- **Hooking is transparent and reversible**: after `backlight_init` and any
writes to `hook_enable`, and after `backlight_exit`. The function is hooked
exactly while the module is asked to hook it. -/
theorem hooking_transparent (site : Site) (memory : Memory) {Data : Type}
    (semantics : Semantics Data) (free : PcFree semantics (memory site.target))
    (hookEnable : BitVec 16) (writes : List (Option U32)) :
    ((run site memory hookEnable writes).hooked = true ↔ Asked hookEnable writes) ∧
      Transparent site semantics (memory site.target) (run site memory hookEnable writes) ∧
      (run site memory hookEnable writes).backlightExit.memory = memory := by
  have consistent := consistent_run site memory hookEnable writes
  refine ⟨run_hooked site memory hookEnable writes, consistent.transparent free, ?_⟩
  generalize run site memory hookEnable writes = s at consistent
  unfold backlightExit
  split
  next hooked => exact (consistent.disable hooked).2
  next unhooked =>
    cases consistent with
    | unhooked entry => rfl
    | hooked => exact absurd rfl unhooked

/-- A module loaded below the kernel. -/
def moduleBelowKernel : Site where
  lookup := fun name => if name = "cpcap_regacc_write" then 0xc0234560 else 0
  newfunc := 0xbf003a10
  gHi := 0xbf004c00
  found := by decide
  compiled := by decide
  aligned := by decide
  near := by decide
  apart := by decide

/-- A CPU that records the words it executes. -/
def recorder : Semantics (List U32) := fun word _ executed => (executed ++ [word], none)

/-- The module is loaded, hooked, unhooked and hooked again; the function starts
with `push {r4, lr}`. -/
theorem rehooked_transparent :
    (run moduleBelowKernel (fun _ => 0xe92d4010) 0 [some 1, some 0, none, some 1]).hooked =
        true ∧
      Transparent moduleBelowKernel recorder 0xe92d4010
        (run moduleBelowKernel (fun _ => 0xe92d4010) 0 [some 1, some 0, none, some 1]) ∧
      (run moduleBelowKernel (fun _ => 0xe92d4010) 0
        [some 1, some 0, none, some 1]).backlightExit.memory = fun _ => 0xe92d4010 := by
  have transparent := hooking_transparent moduleBelowKernel (fun _ => 0xe92d4010) recorder
    ⟨by decide, fun _ _ _ => rfl⟩ 0 [some 1, some 0, none, some 1]
  have asked : Asked 0 [some 1, some 0, none, some 1] := (by decide : (1 : U32) ≠ 0)
  exact ⟨transparent.1.mpr asked, transparent.2⟩

end Backlight

end Jordan.Hook
