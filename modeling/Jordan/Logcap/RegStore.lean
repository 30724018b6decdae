import Jordan.Library.Execution
import Jordan.Library.HexText
import Jordan.Logcap.ProcMap

/-! # The register store

The two hooks of `log-cpcap.c` keep what they see of a register in its entry of
`store`, and make a directory for it when it is to be logged for the first time.
The `reg` field of an entry says which register it is for, and that its directory
exists; `logcap_exit` removes the directories by this field.

Both hooks give up when `reg > MAX_REGS`, and the entries end before `MAX_REGS`.
The register with this number is stored behind the array. The store is consistent
through its life exactly when no call has this register
(`Jordan.Logcap.RegStore.consistent_along_iff`).
-/

namespace Jordan.Logcap

open Execution
open scoped List

/-! ## The hooks -/

/-- `L_PROC` -/
abbrev lProc : U32 := 2

/-- `store` and the parameters. `r` goes on behind the last entry, where `store->r[reg]`
reads and writes whatever is there; `dirs` are the directories made so far, and
`accessed` the entries used. -/
structure RegStore where
  r : Nat → LogcapReg
  logEnable : U32
  logRegMin : U32
  logRegMax : U32
  rdCount : U32
  wrCount : U32
  dirs : List (List Char)
  accessed : List Nat

namespace RegStore

/-- `store->r[i]` is used. -/
def access (s : RegStore) (i : Nat) : RegStore := { s with accessed := s.accessed ++ [i] }

def setEntry (s : RegStore) (i : Nat) (entry : LogcapReg) : RegStore :=
  { s with r := Function.update s.r i entry }

@[simp] theorem setEntry_r_self (s : RegStore) (i : Nat) (entry : LogcapReg) :
    (s.setEntry i entry).r i = entry := Function.update_self _ _ _

theorem setEntry_r_of_ne (s : RegStore) {i j : Nat} (other : j ≠ i) (entry : LogcapReg) :
    (s.setEntry i entry).r j = s.r j := Function.update_of_ne other _ _

/-- `map_rep`, for the entry of the register. -/
def mapRep (s : RegStore) (reg : U32) : RegStore :=
  { s.setEntry reg.toNat { s.r reg.toNat with reg := reg } with
    dirs := s.dirs ++ [hex 2 reg.toNat] }

/-- The part of both hooks that is for logging. `enum cpcap_reg` is unsigned, and so
are the comparisons. -/
def mapLogged (s : RegStore) (reg : U32) : RegStore :=
  if s.logEnable ≠ 0 ∧ reg < s.logRegMax ∧ s.logRegMin < reg then
    if s.logEnable &&& lProc ≠ 0 then
      if (s.r reg.toNat).reg = 0 then (s.access reg.toNat).mapRep reg else s.access reg.toNat
    else s
  else s

/-- `cpcap_regacc_read`, given what the hooked function returns and reads. -/
def cpcapRegaccRead (s : RegStore) (ret : Int) (reg : U32) (val : U16) : Int × RegStore :=
  let s := { s with rdCount := s.rdCount + 1 }
  if maxRegs < reg.toNat then (ret, s)
  else
    let s := (s.mapLogged reg).access reg.toNat
    (ret, s.setEntry reg.toNat { s.r reg.toNat with lastValue := val })

/-- `cpcap_regacc_write`, given what the hooked function returns. -/
def cpcapRegaccWrite (s : RegStore) (ret : Int) (reg : U32) (mask : U16) : Int × RegStore :=
  let s := { s with wrCount := s.wrCount + 1 }
  if maxRegs < reg.toNat then (ret, s)
  else
    let s := (s.mapLogged reg).access reg.toNat
    (ret, s.setEntry reg.toNat { s.r reg.toNat with maskWr := (s.r reg.toNat).maskWr ||| mask })

/-- `proc_log_enable_write`, given what `sscanf` finds. -/
def procLogEnableWrite (s : RegStore) (text : Option U32) : RegStore :=
  match text with
  | some enable => { s with logEnable := enable }
  | none => s

/-- `logcap_init`, with the parameters of the module; `memset` ends with the entries. -/
def logcapInit (logEnable logRegMin logRegMax : U32) (behind : Nat → LogcapReg) : RegStore where
  r := fun i => if i < maxRegs then ⟨0, 0, 0⟩ else behind i
  logEnable := logEnable
  logRegMin := logRegMin
  logRegMax := logRegMax
  rdCount := 0
  wrCount := 0
  dirs := []
  accessed := []

/-- A turn of the loop of `logcap_exit`, with the directories it has removed. -/
def exitTurn (state : RegStore × List (List Char)) (r : Nat) : RegStore × List (List Char) :=
  let s := state.1.access r
  if (s.r r).reg ≠ 0 then (s.setEntry r { s.r r with reg := 0 }, state.2 ++ [hex 2 r])
  else (s, state.2)

/-- `logcap_exit`: the store, and the directories that are removed. -/
def logcapExit (s : RegStore) : RegStore × List (List Char) :=
  (List.range maxRegs).foldl exitTurn (s, [])

end RegStore

/-- What happens to the store. -/
inductive StoreCall where
  | cpcapRegaccRead (ret : Int) (reg : U32) (val : U16)
  | cpcapRegaccWrite (ret : Int) (reg : U32) (value mask : U16)
  | logEnableWrite (text : Option U32)
deriving DecidableEq, Repr

namespace RegStore

/-- One call. -/
def step (s : RegStore) : StoreCall → Option RegStore
  | .cpcapRegaccRead ret reg val => some (s.cpcapRegaccRead ret reg val).2
  | .cpcapRegaccWrite ret reg _ mask => some (s.cpcapRegaccWrite ret reg mask).2
  | .logEnableWrite text => some (s.procLogEnableWrite text)

/-- The entries are used within the array and hold 0 or their own number, no
directory is made twice, and leaving now would remove the directories made. -/
structure Consistent (s : RegStore) : Prop where
  accessed : ∀ i ∈ s.accessed, i < maxRegs
  own : ∀ i < maxRegs, (s.r i).reg = 0 ∨ (s.r i).reg.toNat = i
  dirs : s.dirs.Nodup
  exitAccessed : ∀ i ∈ s.logcapExit.1.accessed, i < maxRegs
  exitRemoves : s.logcapExit.2.Perm s.dirs

end RegStore

/-- The call is not for the register behind the array. -/
def StoreCall.InStore : StoreCall → Prop
  | .cpcapRegaccRead _ reg _ => reg.toNat ≠ maxRegs
  | .cpcapRegaccWrite _ reg _ _ => reg.toNat ≠ maxRegs
  | .logEnableWrite _ => True

namespace RegStore

/-! ## Leaving -/

theorem foldl_exitTurn_accessed (turns : List Nat) (state : RegStore × List (List Char)) :
    (turns.foldl exitTurn state).1.accessed = state.1.accessed ++ turns := by
  induction turns generalizing state with
  | nil => exact (List.append_nil _).symm
  | cons r rest ih =>
      have turn : (exitTurn state r).1.accessed = state.1.accessed ++ [r] := by
        simp only [exitTurn]
        split <;> rfl
      rw [List.foldl_cons, ih, turn, List.append_assoc, List.singleton_append]

/-- The directories of the entries in use are removed. -/
theorem foldl_exitTurn_removed {turns : List Nat} (distinct : turns.Nodup) (s : RegStore)
    (removed : List (List Char)) :
    (turns.foldl exitTurn (s, removed)).2 =
      removed ++ (turns.filter fun i => (s.r i).reg ≠ 0).map (hex 2) := by
  induction turns generalizing s removed with
  | nil => exact (List.append_nil _).symm
  | cons r rest ih =>
      obtain ⟨fresh, distinct⟩ := List.nodup_cons.mp distinct
      rw [List.foldl_cons, List.filter_cons]
      by_cases used : (s.r r).reg ≠ 0
      · have turn : exitTurn (s, removed) r =
            ((s.access r).setEntry r { s.r r with reg := 0 }, removed ++ [hex 2 r]) := if_pos used
        have others : ∀ i ∈ rest,
            decide ((((s.access r).setEntry r { s.r r with reg := 0 }).r i).reg ≠ 0) =
              decide ((s.r i).reg ≠ 0) := by
          intro i member
          have other : i ≠ r := fun same => fresh (same ▸ member)
          rw [setEntry_r_of_ne _ other]
          rfl
        rw [turn, if_pos (decide_eq_true used), ih distinct, List.filter_congr others,
          List.map_cons, List.append_assoc, List.singleton_append]
      · have turn : exitTurn (s, removed) r = (s.access r, removed) := if_neg used
        rw [turn, if_neg (by rwa [decide_eq_true_iff]), ih distinct]
        rfl

/-- The entries in use. -/
def used (s : RegStore) : List Nat := (List.range maxRegs).filter fun i => (s.r i).reg ≠ 0

theorem mem_used (s : RegStore) (i : Nat) : i ∈ s.used ↔ i < maxRegs ∧ (s.r i).reg ≠ 0 := by
  unfold used
  rw [List.mem_filter, List.mem_range, decide_eq_true_iff]

theorem used_nodup (s : RegStore) : s.used.Nodup := List.nodup_range.filter _

theorem logcapExit_removed (s : RegStore) : s.logcapExit.2 = s.used.map (hex 2) :=
  foldl_exitTurn_removed List.nodup_range s []

/-! ## One call -/

/-- The names of directories say which registers they are for. -/
theorem hex_injective : Function.Injective (hex 2) := HexText.lower_injective 2

/-- The directories are those of the entries in use. -/
structure Mapped (s : RegStore) : Prop where
  accessed : ∀ i ∈ s.accessed, i < maxRegs
  own : ∀ i < maxRegs, (s.r i).reg = 0 ∨ (s.r i).reg.toNat = i
  dirs : s.dirs.Perm (s.used.map (hex 2))

theorem Mapped.consistent {s : RegStore} (mapped : s.Mapped) : s.Consistent where
  accessed := mapped.accessed
  own := mapped.own
  dirs := mapped.dirs.nodup_iff.mpr (s.used_nodup.map hex_injective)
  exitAccessed := by
    intro i member
    rw [logcapExit, foldl_exitTurn_accessed, List.mem_append, List.mem_range] at member
    exact member.elim (mapped.accessed i) id
  exitRemoves := by
    rw [logcapExit_removed]
    exact mapped.dirs.symm

theorem Mapped.access {s : RegStore} (mapped : s.Mapped) {i : Nat} (inside : i < maxRegs) :
    (s.access i).Mapped where
  accessed := by
    intro j member
    rcases List.mem_append.mp member with before | now
    · exact mapped.accessed j before
    · rwa [List.mem_singleton.mp now]
  own := mapped.own
  dirs := mapped.dirs

/-- The other fields of an entry do not matter. -/
theorem Mapped.setEntry {s : RegStore} (mapped : s.Mapped) (i : Nat) {entry : LogcapReg}
    (same : entry.reg = (s.r i).reg) : (s.setEntry i entry).Mapped := by
  have reg (j : Nat) : ((s.setEntry i entry).r j).reg = (s.r j).reg := by
    by_cases here : j = i
    · subst here
      rw [setEntry_r_self, same]
    · rw [setEntry_r_of_ne s here]
  constructor
  · exact mapped.accessed
  · intro j inside
    rw [reg]
    exact mapped.own j inside
  · simp only [used, reg]
    exact mapped.dirs

/-- A directory is made for an entry that is not in use. -/
theorem Mapped.mapRep {s : RegStore} (mapped : s.Mapped) {reg : U32} (inside : reg.toNat < maxRegs)
    (nonzero : reg ≠ 0) (unused : (s.r reg.toNat).reg = 0) : (s.mapRep reg).Mapped := by
  have other {j : Nat} (different : j ≠ reg.toNat) : (s.mapRep reg).r j = s.r j :=
    setEntry_r_of_ne s different _
  have here : ((s.mapRep reg).r reg.toNat).reg = reg :=
    congrArg LogcapReg.reg (setEntry_r_self s reg.toNat _)
  have fresh : reg.toNat ∉ s.used := fun member => ((s.mem_used _).mp member).2 unused
  have one : (s.mapRep reg).used.Perm (reg.toNat :: s.used) := by
    refine (List.perm_ext_iff_of_nodup (used_nodup _)
      (List.nodup_cons.mpr ⟨fresh, s.used_nodup⟩)).mpr fun j => ?_
    rw [mem_used, List.mem_cons, mem_used]
    by_cases same : j = reg.toNat
    · subst same
      rw [here]
      exact iff_of_true ⟨inside, nonzero⟩ (.inl rfl)
    · rw [other same, or_iff_right same]
  constructor
  · exact mapped.accessed
  · intro j within
    by_cases same : j = reg.toNat
    · subst same
      rw [here]
      exact .inr rfl
    · rw [other same]
      exact mapped.own j within
  · calc s.dirs ++ [hex 2 reg.toNat]
      _ ~ hex 2 reg.toNat :: s.dirs := List.perm_append_singleton _ _
      _ ~ hex 2 reg.toNat :: s.used.map (hex 2) := mapped.dirs.cons _
      _ ~ (s.mapRep reg).used.map (hex 2) := (one.map (hex 2)).symm

/-- The part for logging makes the directory of each entry that it takes into use. -/
theorem Mapped.mapLogged {s : RegStore} (mapped : s.Mapped) {reg : U32}
    (inside : reg.toNat < maxRegs) : (s.mapLogged reg).Mapped := by
  unfold RegStore.mapLogged
  by_cases logged : s.logEnable ≠ 0 ∧ reg < s.logRegMax ∧ s.logRegMin < reg
  · rw [if_pos logged]
    by_cases proc : s.logEnable &&& lProc ≠ 0
    · rw [if_pos proc]
      by_cases unused : (s.r reg.toNat).reg = 0
      · rw [if_pos unused]
        -- the comparison is unsigned, so that register 0 is never above the minimum
        have nonzero : reg ≠ 0 := by
          rintro rfl
          exact absurd logged.2.2 (Nat.not_lt_zero _)
        exact (mapped.access inside).mapRep inside nonzero unused
      · rw [if_neg unused]
        exact mapped.access inside
    · rwa [if_neg proc]
  · rwa [if_neg logged]

/-- A hook that goes on stores into the entry of its register. -/
theorem Mapped.stored {s : RegStore} (mapped : s.Mapped) {reg : U32} (inside : reg.toNat < maxRegs)
    {entry : LogcapReg} (same : entry.reg = ((s.mapLogged reg).r reg.toNat).reg) :
    (((s.mapLogged reg).access reg.toNat).setEntry reg.toNat entry).Mapped :=
  ((mapped.mapLogged inside).access inside).setEntry reg.toNat same

/-- **One call** keeps the directories with the entries, if its register is not the
one behind the array. -/
theorem Mapped.step {s next : RegStore} (mapped : s.Mapped) {call : StoreCall}
    (inStore : call.InStore) (taken : s.step call = some next) : next.Mapped := by
  have counted (rd wr : U32) : { s with rdCount := rd, wrCount := wr }.Mapped :=
    ⟨mapped.accessed, mapped.own, mapped.dirs⟩
  cases call with
  | cpcapRegaccRead ret reg val =>
      cases taken
      simp only [cpcapRegaccRead]
      by_cases beyond : maxRegs < reg.toNat
      · rw [if_pos beyond]
        exact counted _ _
      · rw [if_neg beyond]
        exact (counted _ _).stored (Nat.lt_of_le_of_ne (Nat.le_of_not_lt beyond) inStore) rfl
  | cpcapRegaccWrite ret reg value mask =>
      cases taken
      simp only [cpcapRegaccWrite]
      by_cases beyond : maxRegs < reg.toNat
      · rw [if_pos beyond]
        exact counted _ _
      · rw [if_neg beyond]
        exact (counted _ _).stored (Nat.lt_of_le_of_ne (Nat.le_of_not_lt beyond) inStore) rfl
  | logEnableWrite text =>
      cases taken
      cases text with
      | none => exact mapped
      | some enable => exact ⟨mapped.accessed, mapped.own, mapped.dirs⟩

/-- The store is empty at first. -/
theorem logcapInit_mapped (logEnable logRegMin logRegMax : U32) (behind : Nat → LogcapReg) :
    (logcapInit logEnable logRegMin logRegMax behind).Mapped := by
  have blank {i : Nat} (inside : i < maxRegs) :
      ((logcapInit logEnable logRegMin logRegMax behind).r i).reg = 0 :=
    congrArg LogcapReg.reg (if_pos inside)
  have none : (logcapInit logEnable logRegMin logRegMax behind).used = [] := by
    refine List.filter_eq_nil_iff.mpr fun i member => ?_
    rw [decide_eq_true_iff, not_not]
    exact blank (List.mem_range.mp member)
  constructor
  · intro i member
    cases member
  · exact fun i inside => .inl (blank inside)
  · rw [none]
    exact .nil

/-- A hook that goes on uses the entry of its register. -/
theorem lt_of_stored {s : RegStore} {reg : U32} {entry : LogcapReg}
    (consistent :
      (((s.mapLogged reg).access reg.toNat).setEntry reg.toNat entry).Consistent) :
    reg.toNat < maxRegs :=
  consistent.accessed _ (List.mem_append_right _ (List.mem_singleton_self _))

/-- A call for the register behind the array leaves the store inconsistent. -/
theorem inStore_of_consistent {s next : RegStore} {call : StoreCall}
    (taken : s.step call = some next) (consistent : next.Consistent) : call.InStore := by
  cases call with
  | cpcapRegaccRead ret reg val =>
      intro behind
      cases taken
      simp only [cpcapRegaccRead, if_neg (Nat.not_lt_of_le (Nat.le_of_eq behind))] at consistent
      exact Nat.ne_of_lt (lt_of_stored consistent) behind
  | cpcapRegaccWrite ret reg value mask =>
      intro behind
      cases taken
      simp only [cpcapRegaccWrite, if_neg (Nat.not_lt_of_le (Nat.le_of_eq behind))] at consistent
      exact Nat.ne_of_lt (lt_of_stored consistent) behind
  | logEnableWrite text => trivial

/-- **The store is consistent** from the start and after every call exactly when no
call is for the register behind the array. -/
theorem consistent_along_iff (logEnable logRegMin logRegMax : U32) (behind : Nat → LogcapReg)
    (calls : List StoreCall) :
    ((logcapInit logEnable logRegMin logRegMax behind).Consistent ∧
        Along step (fun _ _ after => after.Consistent)
          (logcapInit logEnable logRegMin logRegMax behind) calls) ↔
      Guarded step (fun _ call => call.InStore)
        (logcapInit logEnable logRegMin logRegMax behind) calls := by
  have initially := logcapInit_mapped logEnable logRegMin logRegMax behind
  rw [and_iff_right initially.consistent]
  refine along_iff Mapped ?_ ?_ initially calls
  · intro before call after mapped inStore taken
    have still := mapped.step inStore taken
    exact ⟨still, still.consistent⟩
  · intro before call after _ taken consistent
    exact inStore_of_consistent taken consistent

/-- With the default parameters, one read of register `0x100` uses `store->r[0x100]`. -/
theorem read_behind_array :
    ¬ ((logcapInit 3 0 0x100 fun _ => ⟨0, 0, 0⟩).Consistent ∧
      Along step (fun _ _ after => after.Consistent) (logcapInit 3 0 0x100 fun _ => ⟨0, 0, 0⟩)
        [.cpcapRegaccRead 0 0x100 0x1234]) := by
  rintro ⟨-, along⟩
  have used := (along _ rfl).1.accessed 0x100 (by decide)
  exact Nat.lt_irrefl _ used

/-! ## The dump -/

/-- The store as `proc_map_read` sees it. -/
def regs (s : RegStore) (regnames : List RegName) (lmace : Int) : LogcapRegs :=
  ⟨fun i => s.r i, regnames, lmace⟩

/-- The registers of the dump are those with a directory. -/
theorem Mapped.dump_eq {s : RegStore} (mapped : s.Mapped) (regnames : List RegName) (lmace : Int) :
    (s.regs regnames lmace).dump =
      ((List.finRange maxRegs).filter fun i : Fin maxRegs => hex 2 i ∈ s.dirs).flatMap
        (s.regs regnames lmace).line := by
  have named (i : Fin maxRegs) : hex 2 i ∈ s.dirs ↔ (s.r i).reg ≠ 0 := by
    rw [mapped.dirs.mem_iff, List.mem_map_of_injective hex_injective, mem_used,
      and_iff_right i.isLt]
  unfold LogcapRegs.dump
  congr 1
  refine List.filter_congr fun i _ => ?_
  exact decide_eq_decide.mpr (named i).symm

/-- Through the life of the store, `/proc/logcap/map` has a line for every directory. -/
theorem dump_eq_of_exec (logEnable logRegMin logRegMax : U32) (behind : Nat → LogcapReg)
    {calls : List StoreCall} {s : RegStore}
    (inStore : Guarded step (fun _ call => call.InStore)
      (logcapInit logEnable logRegMin logRegMax behind) calls)
    (reached : exec step (logcapInit logEnable logRegMin logRegMax behind) calls = some s)
    (regnames : List RegName) (lmace : Int) :
    (s.regs regnames lmace).dump =
      ((List.finRange maxRegs).filter fun i : Fin maxRegs => hex 2 i ∈ s.dirs).flatMap
        (s.regs regnames lmace).line := by
  have mapped := invariant Mapped
    (fun _ _ _ mapped inStore taken => mapped.step inStore taken)
    (logcapInit_mapped logEnable logRegMin logRegMax behind) inStore reached
  exact mapped.dump_eq regnames lmace

end RegStore

end Jordan.Logcap
