import Jordan.Cpufreq.Overclock
import Mathlib.Order.Bounds.Defs

/-! # Overclocking and the limits of the policy

`overclock.c` keeps the limits of the policy, of `cpuinfo` and of `user_policy`:
a write to the highest OPP sets the three upper limits, and a write to the first
one the three lower limits. The governors take the limits to be in order, and to
be the extreme frequencies of the table.

A write is not compared with the other OPPs. The limits stay consistent along a
run exactly when every write fits between the entries that are left
(`Jordan.Cpufreq.OverclockPolicy.consistent_iff`).
-/

namespace Jordan.Cpufreq

open Execution

/-- A lower and an upper limit. -/
structure FreqLimits where
  min : U32
  max : U32
deriving DecidableEq, Repr

/-- The tables, whose limits are here those of the policy alone, and the other
two copies of the limits. -/
structure OverclockPolicy where
  overclock : Overclock
  cpuinfo : FreqLimits
  userPolicy : FreqLimits

namespace OverclockPolicy

variable (maxVdd1Opp : Nat)

/-- The limits that a write sets, when it has changed the tables. -/
def setLimits (s : OverclockPolicy) (write : OppWrite) (overclock : Overclock) : OverclockPolicy :=
  let freq := write.rate / 1000
  if write.index.toNat = maxVdd1Opp then
    ⟨overclock, { s.cpuinfo with max := freq }, { s.userPolicy with max := freq }⟩
  else if write.index = 1 then
    ⟨overclock, { s.cpuinfo with min := freq }, { s.userPolicy with min := freq }⟩
  else ⟨overclock, s.cpuinfo, s.userPolicy⟩

/-- `proc_mpu_opps_write`, with all the limits. -/
def procMpuOppsWrite (s : OverclockPolicy) (write : OppWrite) : Except Errno OverclockPolicy :=
  (s.overclock.procMpuOppsWrite maxVdd1Opp write).map (s.setLimits maxVdd1Opp write)

/-- An accepted write. -/
def step (s : OverclockPolicy) (write : OppWrite) : Option OverclockPolicy :=
  (s.procMpuOppsWrite maxVdd1Opp write).toOption

/-- The limits of the policy. -/
def policy (s : OverclockPolicy) : FreqLimits := ⟨s.overclock.policyMin, s.overclock.policyMax⟩

/-- The frequencies of the table. -/
def frequencies (s : OverclockPolicy) : List U32 := s.overclock.freqTable.filter (· ≠ entryInvalid)

/-- The frequencies at the other positions. -/
def others (s : OverclockPolicy) (position : Nat) : List U32 :=
  (s.overclock.freqTable.eraseIdx position).filter (· ≠ entryInvalid)

/-- The table has been filled up, and the limits of the policy are its first and
its last entry. -/
structure Anchored (s : OverclockPolicy) : Prop where
  size : s.overclock.freqTable.length = maxVdd1Opp
  top : s.overclock.freqTable[0]? = some s.policy.max
  bottom : s.overclock.freqTable[maxVdd1Opp - 1]? = some s.policy.min

/-- A state to start from. -/
structure Start (s : OverclockPolicy) : Prop extends Anchored maxVdd1Opp s where
  policy : s.policy.min ≤ s.policy.max
  userPolicy : s.userPolicy.min ≤ s.userPolicy.max

/-- The limits are in order, and those of the policy are the smallest and the
largest frequency of the table. -/
structure Consistent (s : OverclockPolicy) : Prop where
  policy : s.policy.min ≤ s.policy.max
  userPolicy : s.userPolicy.min ≤ s.userPolicy.max
  cpuinfo : s.cpuinfo.min ≤ s.cpuinfo.max
  smallest : IsLeast {freq | freq ∈ s.frequencies} s.policy.min
  largest : IsGreatest {freq | freq ∈ s.frequencies} s.policy.max

/-- The write fits the rest of the table: the highest OPP is not below another
frequency or a lower limit, the first one is not above another frequency or an
upper limit, and the others are between the limits. A single OPP keeps its
frequency. -/
def Fits (s : OverclockPolicy) (write : OppWrite) : Prop :=
  let freq := write.rate / 1000
  if write.index.toNat = maxVdd1Opp then
    (∀ other ∈ s.others 0, other ≤ freq) ∧ s.cpuinfo.min ≤ freq ∧ s.userPolicy.min ≤ freq ∧
      (maxVdd1Opp = 1 → freq = s.policy.min)
  else if write.index = 1 then
    (∀ other ∈ s.others (maxVdd1Opp - 1), freq ≤ other) ∧ freq ≤ s.cpuinfo.max ∧
      freq ≤ s.userPolicy.max
  else s.policy.min ≤ freq ∧ freq ≤ s.policy.max

instance (s : OverclockPolicy) (write : OppWrite) : Decidable (Fits maxVdd1Opp s write) :=
  -- the frequencies of the table are tried, not all words
  have : Decidable (∀ other ∈ s.others 0, other ≤ write.rate / 1000) := List.decidableBAll _ _
  have : Decidable (∀ other ∈ s.others (maxVdd1Opp - 1), write.rate / 1000 ≤ other) :=
    List.decidableBAll _ _
  inferInstanceAs (Decidable (ite _ (_ ∧ _) (ite _ (_ ∧ _) (_ ∧ _))))

/-! ## One write -/

variable {maxVdd1Opp} {s after : OverclockPolicy} {write : OppWrite}

/-- Which limits an accepted write sets. -/
inductive Sets (maxVdd1Opp : Nat) (s : OverclockPolicy) (write : OppWrite)
    (after : OverclockPolicy) : Prop
  | highest (index : write.index.toNat = maxVdd1Opp)
      (policy : after.policy = { s.policy with max := write.rate / 1000 })
      (cpuinfo : after.cpuinfo = { s.cpuinfo with max := write.rate / 1000 })
      (userPolicy : after.userPolicy = { s.userPolicy with max := write.rate / 1000 })
  | first (below : write.index.toNat ≠ maxVdd1Opp) (index : write.index = 1)
      (policy : after.policy = { s.policy with min := write.rate / 1000 })
      (cpuinfo : after.cpuinfo = { s.cpuinfo with min := write.rate / 1000 })
      (userPolicy : after.userPolicy = { s.userPolicy with min := write.rate / 1000 })
  | between (below : write.index.toNat ≠ maxVdd1Opp) (index : write.index ≠ 1)
      (policy : after.policy = s.policy) (cpuinfo : after.cpuinfo = s.cpuinfo)
      (userPolicy : after.userPolicy = s.userPolicy)

/-- The index of an accepted write to the tables, and the limits of the policy
after it. -/
theorem policy_of_step {tables changed : Overclock}
    (taken : tables.step maxVdd1Opp write = some changed) :
    (0 < write.index.toNat ∧ write.index.toNat ≤ maxVdd1Opp) ∧
      changed.policyMax =
        (if write.index.toNat = maxVdd1Opp then write.rate / 1000 else tables.policyMax) ∧
      changed.policyMin =
        if write.index.toNat ≠ maxVdd1Opp ∧ write.index = 1 then write.rate / 1000
        else tables.policyMin := by
  unfold Overclock.step Overclock.procMpuOppsWrite at taken
  split at taken
  next => cases taken
  next accepted =>
    obtain rfl := Option.some.inj taken
    obtain ⟨positive, inside⟩ := not_or.mp accepted
    exact ⟨⟨by bv_omega, by omega⟩, rfl, rfl⟩

/-- An accepted write is one to the tables, and sets the limits of its index. -/
theorem step_sets (taken : s.step maxVdd1Opp write = some after) :
    s.overclock.step maxVdd1Opp write = some after.overclock ∧ Sets maxVdd1Opp s write after := by
  have tables : (s.overclock.step maxVdd1Opp write).map (s.setLimits maxVdd1Opp write) =
      some after := by
    unfold step procMpuOppsWrite at taken
    unfold Overclock.step
    cases written : s.overclock.procMpuOppsWrite maxVdd1Opp write with
    | error => rw [written] at taken; cases taken
    | ok changed => rw [written] at taken; exact taken
  obtain ⟨changed, accepted, rfl⟩ := Option.map_eq_some_iff.mp tables
  obtain ⟨_, max, min⟩ := policy_of_step accepted
  simp only [setLimits]
  by_cases highest : write.index.toNat = maxVdd1Opp
  · rw [if_pos highest] at max ⊢
    rw [if_neg fun first => first.1 highest] at min
    exact ⟨accepted, .highest highest (by rw [policy, max, min]; rfl) rfl rfl⟩
  · rw [if_neg highest] at max ⊢
    by_cases first : write.index = 1
    · rw [if_pos ⟨highest, first⟩] at min
      rw [if_pos first]
      exact ⟨accepted, .first highest first (by rw [policy, max, min]; rfl) rfl rfl⟩
    · rw [if_neg fun both => first both.2] at min
      rw [if_neg first]
      exact ⟨accepted, .between highest first (by rw [policy, max, min]; rfl) rfl rfl⟩

/-- The frequencies at the other positions are frequencies of the table. -/
theorem mem_frequencies_of_others {position : Nat} {freq : U32}
    (member : freq ∈ s.others position) : freq ∈ s.frequencies := by
  obtain ⟨kept, valid⟩ := List.mem_filter.mp member
  exact List.mem_filter.mpr ⟨List.mem_of_mem_eraseIdx kept, valid⟩

theorem mem_others {position place : Nat} {freq : U32} (apart : place ≠ position)
    (held : s.overclock.freqTable[place]? = some freq) (valid : freq ∈ s.frequencies) :
    freq ∈ s.others position :=
  List.mem_filter.mpr ⟨List.mem_eraseIdx_iff_getElem?.mpr ⟨place, apart, held⟩,
    (List.mem_filter.mp valid).2⟩

/-- An accepted write replaces one entry of the table. -/
theorem mem_frequencies_step (size : s.overclock.freqTable.length = maxVdd1Opp)
    (taken : s.step maxVdd1Opp write = some after) {freq : U32} :
    freq ∈ after.frequencies ↔
      freq = write.rate / 1000 ∨ freq ∈ s.others (Overclock.position maxVdd1Opp write) := by
  obtain ⟨rewrites, inside⟩ := Overclock.step_rewrites (step_sets taken).1
  have valid : write.rate / 1000 ≠ entryInvalid := by
    intro same
    have small : (write.rate / 1000).toNat = write.rate.toNat / 1000 := BitVec.toNat_udiv
    have range := write.rate.isLt
    rw [same, entryInvalid, BitVec.toNat_allOnes] at small
    omega
  have replaced : freq ∈ after.overclock.freqTable ↔ freq = write.rate / 1000 ∨
      freq ∈ s.overclock.freqTable.eraseIdx (Overclock.position maxVdd1Opp write) := by
    rw [rewrites.freqTable, List.set_eq_take_append_cons_drop, if_pos (size ▸ inside),
      List.eraseIdx_eq_take_drop_succ, List.mem_append, List.mem_append, List.mem_cons]
    tauto
  unfold frequencies others
  rw [List.mem_filter, List.mem_filter, replaced, decide_eq_true_iff]
  constructor
  · intro ⟨either, kept⟩
    exact either.imp_right fun other => ⟨other, kept⟩
  · intro either
    rcases either with rfl | ⟨other, kept⟩
    · exact ⟨.inl rfl, valid⟩
    · exact ⟨.inr other, kept⟩

/-- The position of the highest OPP is the first one. -/
theorem position_highest (index : write.index.toNat = maxVdd1Opp) :
    Overclock.position maxVdd1Opp write = 0 := by
  unfold Overclock.position
  omega

/-- The position of the first OPP is the last one. -/
theorem position_first (index : write.index = 1) :
    Overclock.position maxVdd1Opp write = maxVdd1Opp - 1 := by
  rw [Overclock.position, index]
  rfl

/-- The position of another OPP is neither. -/
theorem position_between (taken : s.step maxVdd1Opp write = some after)
    (below : write.index.toNat ≠ maxVdd1Opp) (index : write.index ≠ 1) :
    Overclock.position maxVdd1Opp write ≠ 0 ∧
      Overclock.position maxVdd1Opp write ≠ maxVdd1Opp - 1 := by
  obtain ⟨⟨positive, inside⟩, _⟩ := policy_of_step (step_sets taken).1
  have other : write.index.toNat ≠ 1 := fun same => index (BitVec.eq_of_toNat_eq same)
  unfold Overclock.position
  omega

/-! ## Consistency -/

/-- The limits are extreme after a write when they bound the new frequency and
the others, and each of them is one of these. -/
structure Extreme (limits : FreqLimits) (freq : U32) (others : List U32) : Prop where
  above : limits.min ≤ freq
  below : freq ≤ limits.max
  bounds : ∀ other ∈ others, limits.min ≤ other ∧ other ≤ limits.max
  smallest : limits.min = freq ∨ limits.min ∈ others
  largest : limits.max = freq ∨ limits.max ∈ others

theorem consistent_iff_extreme (size : s.overclock.freqTable.length = maxVdd1Opp)
    (taken : s.step maxVdd1Opp write = some after) :
    Consistent after ↔
      after.userPolicy.min ≤ after.userPolicy.max ∧ after.cpuinfo.min ≤ after.cpuinfo.max ∧
        Extreme after.policy (write.rate / 1000)
          (s.others (Overclock.position maxVdd1Opp write)) := by
  have members (freq : U32) : freq ∈ after.frequencies ↔ freq = write.rate / 1000 ∨
      freq ∈ s.others (Overclock.position maxVdd1Opp write) := mem_frequencies_step size taken
  have written := (members _).mpr (.inl rfl)
  constructor
  · intro ⟨_, user, info, ⟨least, lower⟩, ⟨greatest, upper⟩⟩
    refine ⟨user, info, lower written, upper written, fun other member => ?_,
      (members _).mp least, (members _).mp greatest⟩
    exact ⟨lower ((members _).mpr (.inr member)), upper ((members _).mpr (.inr member))⟩
  · intro ⟨user, info, extreme⟩
    refine ⟨BitVec.le_trans extreme.above extreme.below, user, info,
      ⟨(members _).mpr extreme.smallest, fun freq member => ?_⟩,
      ⟨(members _).mpr extreme.largest, fun freq member => ?_⟩⟩
    · rcases (members _).mp member with rfl | other
      · exact extreme.above
      · exact (extreme.bounds _ other).1
    · rcases (members _).mp member with rfl | other
      · exact extreme.below
      · exact (extreme.bounds _ other).2

/-- A table with a first entry has one. -/
theorem Anchored.positive (anchored : Anchored maxVdd1Opp s) : 0 < maxVdd1Opp := by
  obtain ⟨inside, _⟩ := List.getElem?_eq_some_iff.mp anchored.top
  exact anchored.size ▸ inside

/-- The first OPP is not the highest one when there are several. -/
theorem several_of_first (below : write.index.toNat ≠ maxVdd1Opp) (index : write.index = 1) :
    maxVdd1Opp ≠ 1 := by
  rw [index] at below
  exact Ne.symm below

section

variable (anchored : Anchored maxVdd1Opp s) (consistent : Consistent s)
include anchored consistent

/-- The lower limit is among the frequencies at the positions other than the last. -/
theorem min_mem_others {position : Nat} (apart : maxVdd1Opp - 1 ≠ position) :
    s.policy.min ∈ s.others position :=
  mem_others apart anchored.bottom consistent.smallest.1

/-- The upper limit is among the frequencies at the positions other than the first. -/
theorem max_mem_others {position : Nat} (apart : 0 ≠ position) :
    s.policy.max ∈ s.others position :=
  mem_others apart anchored.top consistent.largest.1

omit consistent in
/-- A single OPP has no others. -/
theorem others_single (single : maxVdd1Opp = 1) : s.others 0 = [] := by
  have size := anchored.size
  rw [single] at size
  obtain ⟨freq, table⟩ := List.length_eq_one_iff.mp size
  rw [others, table]
  rfl

/-- Above the others, the new frequency and the lower limit are the extremes. -/
theorem extreme_highest {freq : U32} :
    Extreme { s.policy with max := freq } freq (s.others 0) ↔
      (∀ other ∈ s.others 0, other ≤ freq) ∧ (maxVdd1Opp = 1 → freq = s.policy.min) := by
  constructor
  · intro extreme
    refine ⟨fun other member => (extreme.bounds other member).2, fun single => ?_⟩
    have alone := extreme.smallest
    rw [others_single anchored single] at alone
    exact (alone.resolve_right List.not_mem_nil).symm
  · intro ⟨highest, alone⟩
    have kept : s.policy.min = freq ∨ s.policy.min ∈ s.others 0 := by
      by_cases single : maxVdd1Opp = 1
      · exact .inl (alone single).symm
      · have positive := anchored.positive
        exact .inr (min_mem_others anchored consistent (by omega))
    refine ⟨?_, BitVec.le_refl freq, fun other member => ⟨?_, highest other member⟩, kept,
      .inl rfl⟩
    · rcases kept with same | member
      · exact same ▸ BitVec.le_refl _
      · exact highest _ member
    · exact consistent.smallest.2 (mem_frequencies_of_others member)

/-- Below the others, the new frequency and the upper limit are the extremes. -/
theorem extreme_first {freq : U32} (several : maxVdd1Opp ≠ 1) :
    Extreme { s.policy with min := freq } freq (s.others (maxVdd1Opp - 1)) ↔
      ∀ other ∈ s.others (maxVdd1Opp - 1), freq ≤ other := by
  constructor
  · intro extreme other member
    exact (extreme.bounds other member).1
  · intro lowest
    have positive := anchored.positive
    have kept := max_mem_others anchored consistent (show 0 ≠ maxVdd1Opp - 1 by omega)
    refine ⟨BitVec.le_refl freq, lowest _ kept, fun other member => ⟨lowest other member, ?_⟩,
      .inl rfl, .inr kept⟩
    exact consistent.largest.2 (mem_frequencies_of_others member)

/-- At another position, the limits stay the extremes. -/
theorem extreme_between {freq : U32} {position : Nat} (first : 0 ≠ position)
    (last : maxVdd1Opp - 1 ≠ position) :
    Extreme s.policy freq (s.others position) ↔ s.policy.min ≤ freq ∧ freq ≤ s.policy.max := by
  constructor
  · intro extreme
    exact ⟨extreme.above, extreme.below⟩
  · intro ⟨above, below⟩
    refine ⟨above, below, fun other member => ?_,
      .inr (min_mem_others anchored consistent last),
      .inr (max_mem_others anchored consistent first)⟩
    have old := mem_frequencies_of_others member
    exact ⟨consistent.smallest.2 old, consistent.largest.2 old⟩

/-- An accepted write leaves the limits consistent exactly when it fits. -/
theorem consistent_step_iff (taken : s.step maxVdd1Opp write = some after) :
    Consistent after ↔ Fits maxVdd1Opp s write := by
  rw [consistent_iff_extreme anchored.size taken]
  unfold Fits
  cases (step_sets taken).2 with
  | highest index policy cpuinfo userPolicy =>
      rw [policy, cpuinfo, userPolicy, position_highest index,
        extreme_highest anchored consistent, if_pos index]
      tauto
  | first below index policy cpuinfo userPolicy =>
      have several := several_of_first below index
      rw [policy, cpuinfo, userPolicy, position_first index,
        extreme_first anchored consistent several, if_neg below, if_pos index]
      tauto
  | between below index policy cpuinfo userPolicy =>
      obtain ⟨first, last⟩ := position_between taken below index
      rw [policy, cpuinfo, userPolicy,
        extreme_between anchored consistent (Ne.symm first) (Ne.symm last), if_neg below,
        if_neg index]
      exact ⟨fun both => both.2.2, fun between =>
        ⟨consistent.userPolicy, consistent.cpuinfo, between⟩⟩

end

/-- A write that fits keeps the limits at the ends of the table. -/
theorem anchored_step (anchored : Anchored maxVdd1Opp s) (fits : Fits maxVdd1Opp s write)
    (taken : s.step maxVdd1Opp write = some after) : Anchored maxVdd1Opp after := by
  obtain ⟨tables, sets⟩ := step_sets taken
  obtain ⟨rewrites, inside⟩ := Overclock.step_rewrites tables
  have table := rewrites.freqTable
  have size : after.overclock.freqTable.length = maxVdd1Opp := by
    rw [table, List.length_set]
    exact anchored.size
  have written : after.overclock.freqTable[Overclock.position maxVdd1Opp write]? =
      some (write.rate / 1000) := by
    rw [table, List.getElem?_set_self (anchored.size ▸ inside)]
  have kept {place : Nat} (apart : Overclock.position maxVdd1Opp write ≠ place) :
      after.overclock.freqTable[place]? = s.overclock.freqTable[place]? := by
    rw [table, List.getElem?_set_ne apart]
  cases sets with
  | highest index policy =>
      rw [position_highest index] at written kept inside
      refine ⟨size, policy ▸ written, ?_⟩
      rw [policy]
      by_cases single : maxVdd1Opp = 1
      · have alone := fits
        simp only [Fits, index, ↓reduceIte] at alone
        rw [single, ← alone.2.2.2 single]
        exact written
      · rw [kept (by omega)]
        exact anchored.bottom
  | first below index policy =>
      have several := several_of_first below index
      rw [position_first index] at written kept inside
      refine ⟨size, ?_, policy ▸ written⟩
      rw [policy, kept (by omega)]
      exact anchored.top
  | between below index policy =>
      obtain ⟨first, last⟩ := position_between taken below index
      refine ⟨size, ?_, ?_⟩
      · rw [policy, kept first]
        exact anchored.top
      · rw [policy, kept last]
        exact anchored.bottom

/-- **The limits stay consistent** along a run, from the first state on, exactly
when they are consistent before it and every write fits. -/
theorem consistent_iff (start : Start maxVdd1Opp s) (writes : List OppWrite) :
    Consistent s ∧ Along (step maxVdd1Opp) (fun _ _ after => Consistent after) s writes ↔
      Consistent s ∧ Guarded (step maxVdd1Opp) (Fits maxVdd1Opp) s writes := by
  refine and_congr_right fun consistent => ?_
  apply along_iff fun now => Anchored maxVdd1Opp now ∧ Consistent now
  · intro before write after holds fits taken
    have still := (consistent_step_iff holds.1 holds.2 taken).mpr fits
    exact ⟨⟨anchored_step holds.1 fits taken, still⟩, still⟩
  · intro before write after holds taken still
    exact (consistent_step_iff holds.1 holds.2 taken).mp still
  · exact ⟨start.toAnchored, consistent⟩

/-- Copies that agree at first agree after every run. -/
theorem copies_agree {last : OverclockPolicy} {writes : List OppWrite}
    (agree : s.cpuinfo = s.policy ∧ s.userPolicy = s.policy)
    (reached : exec (step maxVdd1Opp) s writes = some last) :
    last.cpuinfo = last.policy ∧ last.userPolicy = last.policy := by
  apply invariant_of_step (fun now => now.cpuinfo = now.policy ∧ now.userPolicy = now.policy)
    ?_ agree reached
  intro before write after same taken
  cases (step_sets taken).2 with
  | highest index policy cpuinfo userPolicy =>
      rw [policy, cpuinfo, userPolicy, same.1, same.2]
      exact ⟨rfl, rfl⟩
  | first below index policy cpuinfo userPolicy =>
      rw [policy, cpuinfo, userPolicy, same.1, same.2]
      exact ⟨rfl, rfl⟩
  | between below index policy cpuinfo userPolicy =>
      rw [policy, cpuinfo, userPolicy]
      exact same

/-- Four OPPs, and limits at the extremes. -/
def fourOpps : OverclockPolicy where
  overclock :=
    { freqTable := [1000000, 800000, 600000, 300000]
      mpuOpps := []
      policyMin := 300000
      policyMax := 1000000
      stats := .create Overclock.fourOfFive 600000 0
      origin := [1000000, 800000, 600000, 300000]
      created := .create Overclock.fourOfFive 600000 0
      rewritten := [] }
  cpuinfo := ⟨300000, 1000000⟩
  userPolicy := ⟨300000, 800000⟩

theorem start_fourOpps : Start 4 fourOpps where
  size := rfl
  top := rfl
  bottom := rfl
  policy := by decide
  userPolicy := by decide

theorem consistent_fourOpps : Consistent fourOpps := by
  have bounds : ∀ freq ∈ fourOpps.frequencies,
      fourOpps.policy.min ≤ freq ∧ freq ≤ fourOpps.policy.max :=
    List.forall_iff_forall_mem.mp (by decide)
  have smallest : fourOpps.policy.min ∈ fourOpps.frequencies := by decide
  have largest : fourOpps.policy.max ∈ fourOpps.frequencies := by decide
  exact
    { policy := (bounds _ largest).1
      userPolicy := by decide
      cpuinfo := by decide
      smallest := ⟨smallest, fun freq member => (bounds freq member).1⟩
      largest := ⟨largest, fun freq member => (bounds freq member).2⟩ }

/-- The highest OPP is raised, then the second and the first one are lowered. -/
theorem fourOpps_consistent : Consistent fourOpps ∧
    Along (step 4) (fun _ _ after => Consistent after) fourOpps
      [⟨4, 1200000000, 64⟩, ⟨2, 500000000, 36⟩, ⟨1, 125000000, 20⟩] :=
  (consistent_iff start_fourOpps _).mpr ⟨consistent_fourOpps, by decide⟩

/-- The highest OPP is lowered below the others: the lower limit of the policy is
then above the upper one. -/
theorem fourOpps_reversed : Start 4 fourOpps ∧ Consistent fourOpps ∧
    ∃ after, step 4 fourOpps ⟨4, 200000000, 28⟩ = some after ∧
      ¬ after.policy.min ≤ after.policy.max :=
  ⟨start_fourOpps, consistent_fourOpps, _, rfl, by decide⟩

end OverclockPolicy

end Jordan.Cpufreq
