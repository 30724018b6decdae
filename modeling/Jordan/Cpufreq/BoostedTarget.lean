import Jordan.Cpufreq.BoostedFreq
import Jordan.Library.Words

/-! # The direction of `target_freq`

`target_freq` is asked for a frequency and settles on an entry of the table. When
the frequency that it is asked for, within the limits, is above the old one, it
settles on an entry above the old one whenever there is one, and likewise below,
whichever relation is preferred: if the preferred relation leads back to the old
frequency, the other one is tried, and if that is of no use either, there is
nothing on that side (`Jordan.Cpufreq.targetFreq_progress`).

The two directions are the two relations: `L` looks upwards and `H` downwards.
-/

namespace Jordan.Cpufreq

namespace Relation

/-- The order of the frequencies in the direction that the relation looks in. -/
def le : Relation → U32 → U32 → Prop
  | .L, a, b => a ≤ b
  | .H, a, b => b ≤ a

instance : ∀ (relation : Relation) (a b : U32), Decidable (relation.le a b)
  | .L, _, _ => inferInstanceAs (Decidable (_ ≤ _))
  | .H, _, _ => inferInstanceAs (Decidable (_ ≤ _))

variable {relation : Relation} {a b c : U32}

/-- `reaches` decides the order of the relation. -/
theorem reaches_iff : relation.reaches a b = true ↔ relation.le a b := by
  cases relation <;> exact decide_eq_true_iff

theorem closer_iff : relation.closer a b = true ↔ relation.le b a := by
  cases relation <;> exact decide_eq_true_iff

theorem other_le : relation.other.le a b ↔ relation.le b a := by
  cases relation <;> exact Iff.rfl

theorem le_refl : relation.le a a := by
  cases relation <;> exact BitVec.le_refl a

theorem le_trans (first : relation.le a b) (second : relation.le b c) : relation.le a c := by
  cases relation with
  | L => exact BitVec.le_trans first second
  | H => exact BitVec.le_trans second first

theorem le_total : relation.le a b ∨ relation.le b a := by
  cases relation with
  | L => exact BitVec.le_total a b
  | H => exact BitVec.le_total b a

theorem le_antisymm (first : relation.le a b) (second : relation.le b a) : a = b := by
  cases relation with
  | L => exact BitVec.le_antisymm first second
  | H => exact BitVec.le_antisymm second first

end Relation

namespace FreqTable

/-- All frequencies are positive numbers of an `int`. -/
def Plain (table : FreqTable) : Prop := ∀ entry ∈ table, 0 < entry.toNat ∧ entry.toNat < 2 ^ 31

instance (table : FreqTable) : Decidable table.Plain := List.decidableBAll _ _

/-- An entry of the table within the policy. -/
def InRange (table : FreqTable) (policy : CpufreqPolicy) (entry : U32) : Prop :=
  entry ∈ table ∧ policy.Contains entry

instance (table : FreqTable) (policy : CpufreqPolicy) (entry : U32) :
    Decidable (table.InRange policy entry) :=
  inferInstanceAs (Decidable (_ ∧ _))

/-- The entry is the first one at or beyond the target in the direction of the
relation, or, if there is none, the last one before it. -/
def Nearest (table : FreqTable) (policy : CpufreqPolicy) (freq : U32) (relation : Relation)
    (found : U32) : Prop :=
  (relation.le freq found ∧
      ∀ entry, table.InRange policy entry → relation.le freq entry → relation.le found entry) ∨
    ((∀ entry, table.InRange policy entry → ¬ relation.le freq entry) ∧
      ∀ entry, table.InRange policy entry → relation.le entry found)

end FreqTable

/-- The maximum is positive as an `int`. -/
def CpufreqPolicy.Signed (policy : CpufreqPolicy) : Prop := policy.max.toNat < 2 ^ 31

instance (policy : CpufreqPolicy) : Decidable policy.Signed :=
  inferInstanceAs (Decidable (_ < _))

/-- An entry within signed limits is signed. -/
theorem CpufreqPolicy.Contains.signed {policy : CpufreqPolicy} {entry : U32}
    (contained : policy.Contains entry) (signed : policy.Signed) : entry.toNat < 2 ^ 31 :=
  Nat.lt_of_le_of_lt (BitVec.le_def.mp contained.2) signed

/-- Limits that contain an entry are ordered. -/
theorem CpufreqPolicy.Contains.ordered {policy : CpufreqPolicy} {entry : U32}
    (contained : policy.Contains entry) : policy.Ordered :=
  BitVec.le_trans contained.1 contained.2

/-- An entry within signed limits does not mark an invalid one. -/
theorem CpufreqPolicy.Contains.valid {policy : CpufreqPolicy} {entry : U32}
    (contained : policy.Contains entry) (signed : policy.Signed) : entry ≠ entryInvalid := by
  rintro rfl
  exact absurd (contained.signed signed) (by decide)

/-- What is assumed of `cpufreq_frequency_table_target`: it finds an entry within
the policy whenever there is one, and the nearest one for the relation. -/
structure TableTarget.Selects (kernel : TableTarget) : Prop where
  nearest {policy : CpufreqPolicy} {table : FreqTable} {freq found : U32} {relation : Relation}
    (signed : policy.Signed) (lookup : kernel.frequency policy table freq relation = some found) :
    table.Nearest policy freq relation found
  succeeds {policy : CpufreqPolicy} {table : FreqTable} {entry : U32} (freq : U32)
    (relation : Relation) (signed : policy.Signed) (inRange : table.InRange policy entry) :
    (kernel.frequency policy table freq relation).isSome

/-! ## The kernel's table search selects -/

namespace FreqTable

variable {table : FreqTable} {policy : CpufreqPolicy} {freq : U32} {relation : Relation}

/-- Among the eligible indices below a bound, the index held is the best for the
relation; nothing is held when there is none. -/
def Best (table : FreqTable) (relation : Relation) (eligible : Nat → Prop) (bound : Nat)
    (held : Option Nat) : Prop :=
  match held with
  | none => ∀ index < bound, ¬ eligible index
  | some best => (best < bound ∧ eligible best) ∧ ∀ index < bound, eligible index →
      relation.le (table.getD best 0) (table.getD index 0)

/-- The best of the indices so far is the better of the best and the next one. -/
theorem Best.better {eligible : Nat → Prop} {bound : Nat} {held : Option Nat}
    (holds : table.Best relation eligible bound held) (next : eligible bound) :
    table.Best relation eligible (bound + 1) (table.better relation held bound) := by
  cases held with
  | none =>
      refine ⟨⟨Nat.lt_succ_self _, next⟩, fun index below isEligible => ?_⟩
      rcases Nat.lt_succ_iff_lt_or_eq.mp below with earlier | rfl
      · exact absurd isEligible (holds index earlier)
      · exact Relation.le_refl
  | some best =>
      obtain ⟨⟨below, chosen⟩, least⟩ := holds
      unfold FreqTable.better
      by_cases closer : relation.closer (table.getD best 0) (table.getD bound 0) = true
      · simp only [closer, ↓reduceIte]
        refine ⟨⟨Nat.lt_succ_self _, next⟩, fun index inside isEligible => ?_⟩
        rcases Nat.lt_succ_iff_lt_or_eq.mp inside with earlier | rfl
        · exact Relation.le_trans (Relation.closer_iff.mp closer) (least index earlier isEligible)
        · exact Relation.le_refl
      · simp only [closer, Bool.false_eq_true, ↓reduceIte]
        refine ⟨⟨Nat.lt_succ_of_lt below, chosen⟩, fun index inside isEligible => ?_⟩
        rcases Nat.lt_succ_iff_lt_or_eq.mp inside with earlier | rfl
        · exact least index earlier isEligible
        · exact Relation.le_total.resolve_right fun reversed =>
            closer (Relation.closer_iff.mpr reversed)

/-- An index that is not eligible leaves the best one. -/
theorem Best.skip {eligible : Nat → Prop} {bound : Nat} {held : Option Nat}
    (holds : table.Best relation eligible bound held) (ineligible : ¬ eligible bound) :
    table.Best relation eligible (bound + 1) held := by
  cases held with
  | none =>
      intro index below
      rcases Nat.lt_succ_iff_lt_or_eq.mp below with earlier | rfl
      · exact holds index earlier
      · exact ineligible
  | some best =>
      obtain ⟨⟨below, chosen⟩, least⟩ := holds
      refine ⟨⟨Nat.lt_succ_of_lt below, chosen⟩, fun index inside isEligible => ?_⟩
      rcases Nat.lt_succ_iff_lt_or_eq.mp inside with earlier | rfl
      · exact least index earlier isEligible
      · exact absurd isEligible ineligible

/-- The index of an entry within the policy on the side of the target that the
relation looks at. -/
def Reaching (table : FreqTable) (policy : CpufreqPolicy) (freq : U32) (relation : Relation)
    (index : Nat) : Prop :=
  policy.Contains (table.getD index 0) ∧ relation.le freq (table.getD index 0)

/-- The index of an entry within the policy on the other side. -/
def Missing (table : FreqTable) (policy : CpufreqPolicy) (freq : U32) (relation : Relation)
    (index : Nat) : Prop :=
  policy.Contains (table.getD index 0) ∧ ¬ relation.le freq (table.getD index 0)

theorem getD_mem {index : Nat} (inside : index < table.length) : table.getD index 0 ∈ table := by
  rw [List.getD_eq_getElem?_getD, List.getElem?_eq_getElem inside, Option.getD_some]
  exact List.getElem_mem inside

theorem exists_getD_of_mem {entry : U32} (listed : entry ∈ table) :
    ∃ index, index < table.length ∧ table.getD index 0 = entry := by
  obtain ⟨index, inside, rfl⟩ := List.mem_iff_getElem.mp listed
  refine ⟨index, inside, ?_⟩
  rw [List.getD_eq_getElem?_getD, List.getElem?_eq_getElem inside, Option.getD_some]

/-- The optimal and the suboptimal index are the best ones of their sides. -/
theorem search_best (table : FreqTable) (signed : policy.Signed) (freq : U32)
    (relation : Relation) :
    table.Best relation (table.Reaching policy freq relation) table.length
        (table.search policy freq relation).1 ∧
      table.Best relation.other (table.Missing policy freq relation) table.length
        (table.search policy freq relation).2 := by
  have upTo (bound : Nat) (inside : bound ≤ table.length) :
      table.Best relation (table.Reaching policy freq relation) bound
          ((List.range bound).foldl (table.consider policy freq relation) (none, none)).1 ∧
        table.Best relation.other (table.Missing policy freq relation) bound
          ((List.range bound).foldl (table.consider policy freq relation) (none, none)).2 := by
    induction bound with
    | zero => exact ⟨fun _ absurd => (Nat.not_lt_zero _ absurd).elim,
        fun _ absurd => (Nat.not_lt_zero _ absurd).elim⟩
    | succ bound ih =>
        obtain ⟨optimal, suboptimal⟩ := ih (Nat.le_of_succ_le inside)
        rw [List.range_succ, List.foldl_append, List.foldl_cons, List.foldl_nil]
        generalize (List.range bound).foldl (table.consider policy freq relation) (none, none) =
          found at optimal suboptimal ⊢
        simp only [FreqTable.consider]
        by_cases within : policy.Contains (table.getD bound 0)
        · simp only [within, within.valid signed, not_true_eq_false, or_self, ↓reduceIte]
          by_cases reached : relation.reaches freq (table.getD bound 0) = true
          · have side := Relation.reaches_iff.mp reached
            simp only [reached, ↓reduceIte]
            exact ⟨optimal.better ⟨within, side⟩, suboptimal.skip fun missing => missing.2 side⟩
          · have side := mt Relation.reaches_iff.mpr reached
            simp only [reached, Bool.false_eq_true, ↓reduceIte]
            exact ⟨optimal.skip fun reaching => side reaching.2, suboptimal.better ⟨within, side⟩⟩
        · simp only [within, not_false_eq_true, or_true, ↓reduceIte]
          exact ⟨optimal.skip fun reaching => within reaching.1,
            suboptimal.skip fun missing => within missing.1⟩
  exact upTo table.length (Nat.le_refl _)

end FreqTable

/-- **The kernel's search meets the assumption.** -/
theorem cpufreqFrequencyTableTarget_selects : cpufreqFrequencyTableTarget.Selects where
  nearest {policy table freq found relation} signed lookup := by
    obtain ⟨optimal, suboptimal⟩ := FreqTable.search_best table signed freq relation
    obtain ⟨index, chosen, rfl⟩ := Option.map_eq_some_iff.mp lookup
    rcases Option.or_eq_some_iff.mp chosen with best | ⟨none, best⟩
    · rw [best] at optimal
      obtain ⟨⟨_, reaching⟩, least⟩ := optimal
      refine .inl ⟨reaching.2, fun entry inRange side => ?_⟩
      obtain ⟨other, inside, rfl⟩ := FreqTable.exists_getD_of_mem inRange.1
      exact least other inside ⟨inRange.2, side⟩
    · rw [none] at optimal
      rw [best] at suboptimal
      have beyond (entry : U32) (inRange : table.InRange policy entry) :
          ¬ relation.le freq entry := by
        obtain ⟨other, inside, rfl⟩ := FreqTable.exists_getD_of_mem inRange.1
        exact fun side => optimal other inside ⟨inRange.2, side⟩
      refine .inr ⟨beyond, fun entry inRange => ?_⟩
      obtain ⟨other, inside, rfl⟩ := FreqTable.exists_getD_of_mem inRange.1
      exact Relation.other_le.mp (suboptimal.2 other inside ⟨inRange.2, beyond _ inRange⟩)
  succeeds {policy table entry} freq relation signed inRange := by
    obtain ⟨optimal, suboptimal⟩ := FreqTable.search_best table signed freq relation
    obtain ⟨index, inside, rfl⟩ := FreqTable.exists_getD_of_mem inRange.1
    rw [TableTarget.frequency, Option.isSome_map, Option.isSome_iff_ne_none]
    intro fails
    obtain ⟨noOptimal, noSuboptimal⟩ := Option.or_eq_none_iff.mp fails
    rw [noOptimal] at optimal
    rw [noSuboptimal] at suboptimal
    by_cases side : relation.le freq (table.getD index 0)
    · exact optimal index inside ⟨inRange.2, side⟩
    · exact suboptimal index inside ⟨inRange.2, side⟩

/-! ## The direction of a request -/

section Direction

variable {kernel : TableTarget} (selects : kernel.Selects) {policy : CpufreqPolicy}
  (signed : policy.Signed) {table : FreqTable}

/-- A lookup that succeeds finds an entry within the range. -/
theorem TableTarget.frequency_inRange {freq found : U32} {relation : Relation}
    (lookup : kernel.frequency policy table freq relation = some found) :
    table.InRange policy found := by
  obtain ⟨index, indexed, rfl⟩ := Option.map_eq_some_iff.mp lookup
  obtain ⟨inside, contained⟩ := kernel.contains indexed
  exact ⟨FreqTable.getD_mem inside, contained⟩

/-- A frequency strictly beyond another one in the direction of a relation. -/
def Relation.lt (direction : Relation) (a b : U32) : Prop := ¬ direction.le b a

theorem Relation.L_lt_iff {a b : U32} : Relation.L.lt a b ↔ a < b := BitVec.not_le

theorem Relation.L_lt (a : U32) : Relation.L.lt a = fun b => a < b :=
  funext fun _ => propext Relation.L_lt_iff

theorem Relation.H_lt_iff {a b : U32} : Relation.H.lt a b ↔ b < a := BitVec.not_le

theorem Relation.H_lt (a : U32) : Relation.H.lt a = fun b => b < a :=
  funext fun _ => propext Relation.H_lt_iff

include selects signed

/-- From a frequency beyond the old one, the search in the direction of the change
leads beyond the old one or there is nothing beyond it. -/
theorem nearest_onward {direction : Relation} {freq old found : U32}
    (onward : direction.lt old freq) (oldInRange : table.InRange policy old)
    (lookup : kernel.frequency policy table freq direction = some found) :
    direction.lt old found ∨
      found = old ∧ ∀ entry, table.InRange policy entry → ¬ direction.lt old entry := by
  rcases selects.nearest signed lookup with ⟨reached, _⟩ | ⟨_, last⟩
  · exact .inl fun back => onward (Relation.le_trans reached back)
  · by_cases same : found = old
    · subst same
      exact .inr ⟨rfl, fun entry inRange beyond => beyond (last entry inRange)⟩
    · exact .inl fun back => same (Relation.le_antisymm back (last old oldInRange))

/-- The search against the direction of the change leads to the old frequency or
beyond it. -/
theorem nearest_backward {direction : Relation} {freq old found : U32}
    (onward : direction.lt old freq) (oldInRange : table.InRange policy old)
    (lookup : kernel.frequency policy table freq direction.other = some found) :
    direction.le old found := by
  rcases selects.nearest signed lookup with ⟨_, first⟩ | ⟨nothing, _⟩
  · have before : direction.other.le freq old :=
      Relation.other_le.mpr (Relation.le_total.resolve_right onward)
    exact Relation.other_le.mp (first old oldInRange before)
  · exact absurd (Relation.other_le.mpr (Relation.le_total.resolve_right onward))
      (nothing old oldInRange)

end Direction

/-- Each relation is one direction or the other. -/
theorem Relation.eq_or_eq_other (relation direction : Relation) :
    relation = direction ∨ relation = direction.other := by
  cases relation <;> cases direction <;> decide

/-- The second search is made in the direction of the change, and only if the first
one was against it and led back to the old frequency. -/
theorem tableFreq_eq {kernel : TableTarget} {policy : CpufreqPolicy} {table : FreqTable}
    {freq old first : U32} {direction : Relation} (relation : Relation)
    (onward : direction.lt old freq) (small : freq.toNat < 2 ^ 31) (smallOld : old.toNat < 2 ^ 31) :
    tableFreq kernel policy table freq old relation first =
      if first = old ∧ relation = direction.other then
        (kernel.frequency policy table freq direction).getD first
      else first := by
  simp only [tableFreq, Words.slt_iff_lt (by decide) smallOld small,
    Words.slt_iff_lt (by decide) small smallOld]
  by_cases back : first = old
  · rw [if_pos back]
    cases direction with
    | L =>
        have above : old < freq := BitVec.not_le.mp onward
        have notBelow : ¬ freq < old := fun below => BitVec.lt_asymm above below
        cases relation <;> simp [back, above, notBelow, Relation.other]
    | H =>
        have below : freq < old := BitVec.not_le.mp onward
        have notAbove : ¬ old < freq := fun above => BitVec.lt_asymm above below
        cases relation <;> simp [back, below, notAbove, Relation.other]
  · rw [if_neg back, if_neg fun both => back both.1]

/-- A frequency that is asked for, clamped to the limits. -/
def clampedFreq (policy : CpufreqPolicy) (freq : U32) : Int :=
  max (policy.min.toNat : Int) (min freq.toInt policy.max.toNat)

/-- Within signed limits `validate_freq` is the clamping to the limits. -/
theorem toNat_validateFreq {policy : CpufreqPolicy} (ordered : policy.Ordered)
    (signed : policy.Signed) (freq : U32) :
    ((validateFreq policy freq).toNat : Int) = clampedFreq policy freq := by
  have below := BitVec.le_def.mp ordered
  have limit : policy.max.toNat < 2 ^ 31 := signed
  have top : policy.max.toInt = policy.max.toNat := BitVec.toInt_eq_toNat_of_lt (by omega)
  have bottom : policy.min.toInt = policy.min.toNat := BitVec.toInt_eq_toNat_of_lt (by omega)
  unfold clampedFreq validateFreq
  split_ifs with above under
  · rw [BitVec.slt_iff_toInt_lt, top] at above
    omega
  · rw [BitVec.slt_iff_toInt_lt, top] at above
    rw [BitVec.slt_iff_toInt_lt, bottom] at under
    omega
  · rw [BitVec.slt_iff_toInt_lt, top] at above
    rw [BitVec.slt_iff_toInt_lt, bottom] at under
    have value : freq.toInt = freq.toNat := by
      rw [BitVec.toInt_eq_toNat_cond] at under ⊢
      split at under <;> split <;> omega
    omega

/-- A frequency within signed limits is valid as it is. -/
theorem validateFreq_of_contains {policy : CpufreqPolicy} (signed : policy.Signed)
    {freq : U32} (contained : policy.Contains freq) : validateFreq policy freq = freq := by
  obtain ⟨least, most⟩ := contained
  have least := BitVec.le_def.mp least
  have most := BitVec.le_def.mp most
  have limit : policy.max.toNat < 2 ^ 31 := signed
  apply BitVec.eq_of_toNat_eq
  have value := toNat_validateFreq (BitVec.le_def.mpr (Nat.le_trans least most)) signed freq
  rw [clampedFreq, BitVec.toInt_eq_toNat_of_lt (by omega)] at value
  omega

section Progress

variable {kernel : TableTarget} (selects : kernel.Selects) {policy : CpufreqPolicy}
  (signed : policy.Signed) {table : FreqTable} {old : U32}
  (oldInRange : table.InRange policy old)
include selects signed oldInRange

/-- The entry settled on is beyond the old frequency, or nothing is. -/
theorem tableFreq_onward {direction : Relation} (relation : Relation) {freq first : U32}
    (onward : direction.lt old freq) (small : freq.toNat < 2 ^ 31)
    (lookup : kernel.frequency policy table freq relation = some first) :
    table.InRange policy (tableFreq kernel policy table freq old relation first) ∧
        direction.lt old (tableFreq kernel policy table freq old relation first) ∨
      tableFreq kernel policy table freq old relation first = old ∧
        ∀ entry, table.InRange policy entry → ¬ direction.lt old entry := by
  have smallOld := oldInRange.2.signed signed
  have inRange := TableTarget.frequency_inRange lookup
  rw [tableFreq_eq relation onward small smallOld]
  rcases relation.eq_or_eq_other direction with rfl | rfl
  · rw [if_neg fun both => by cases relation <;> cases both.2]
    exact (nearest_onward selects signed onward oldInRange lookup).imp_left fun beyond =>
      ⟨inRange, beyond⟩
  · by_cases back : first = old
    · rw [if_pos ⟨back, rfl⟩]
      obtain ⟨second, lookupSecond⟩ := Option.isSome_iff_exists.mp
        (selects.succeeds freq direction signed oldInRange)
      rw [lookupSecond, Option.getD_some]
      exact (nearest_onward selects signed onward oldInRange lookupSecond).imp_left fun beyond =>
        ⟨TableTarget.frequency_inRange lookupSecond, beyond⟩
    · rw [if_neg fun both => back both.1]
      have ahead := nearest_backward selects signed onward oldInRange lookup
      exact .inl ⟨inRange, fun behind => back (Relation.le_antisymm behind ahead)⟩

/-- A request beyond the old frequency is for an entry beyond it, and none is made
exactly when there is no such entry. -/
theorem targetRequest_onward {direction : Relation} (relation : Relation) {newFreq : U32}
    (onward : direction.lt old (validateFreq policy newFreq)) :
    (∃ target, targetRequest kernel policy (some table) newFreq old relation = some target ∧
        table.InRange policy target ∧ direction.lt old target) ∨
      targetRequest kernel policy (some table) newFreq old relation = none ∧
        ∀ entry, table.InRange policy entry → ¬ direction.lt old entry := by
  have changed : validateFreq policy newFreq ≠ old := by
    intro same
    rw [same] at onward
    exact onward Relation.le_refl
  have different : newFreq ≠ old := by
    rintro rfl
    exact changed (validateFreq_of_contains signed oldInRange.2)
  have small : (validateFreq policy newFreq).toNat < 2 ^ 31 :=
    (contains_validateFreq oldInRange.2.ordered newFreq).signed signed
  obtain ⟨first, lookup⟩ := Option.isSome_iff_exists.mp
    (selects.succeeds (validateFreq policy newFreq) relation signed oldInRange)
  simp only [targetRequest, different, changed, ↓reduceIte, lookup]
  rcases tableFreq_onward selects signed oldInRange relation onward small lookup with
    ⟨inRange, beyond⟩ | ⟨back, nothing⟩
  · have moved : tableFreq kernel policy table (validateFreq policy newFreq) old relation first ≠
        old := by
      intro same
      rw [same] at beyond
      exact beyond Relation.le_refl
    rw [if_neg moved]
    exact .inl ⟨_, rfl, inRange, beyond⟩
  · rw [if_pos back]
    exact .inr ⟨rfl, nothing⟩

end Progress

/-- The result in one direction: an entry on that side, or 0 exactly when there is
no such entry. -/
def Advances (policy : CpufreqPolicy) (table : FreqTable) (beyond : U32 → Prop)
    (result : U32) : Prop :=
  (result = 0 ↔ ∀ entry ∈ table, ¬ (policy.Contains entry ∧ beyond entry)) ∧
    (result ≠ 0 → table.InRange policy result ∧ beyond result)

/-- The result follows the direction of the frequency asked for. -/
def Progresses (policy : CpufreqPolicy) (table : FreqTable) (newFreq old result : U32) : Prop :=
  ((old.toNat : Int) < clampedFreq policy newFreq →
      Advances policy table (fun entry => old < entry) result) ∧
    (clampedFreq policy newFreq < old.toNat →
      Advances policy table (fun entry => entry < old) result) ∧
    (clampedFreq policy newFreq = old.toNat → result = 0)

section Result

variable {kernel : TableTarget} (selects : kernel.Selects) {policy : CpufreqPolicy}
  (signed : policy.Signed) {table : FreqTable} (plain : table.Plain) {old : U32}
  (oldInRange : table.InRange policy old)
include selects signed plain oldInRange

/-- A new frequency onward of the old one takes the target onward, if the table has an entry
there. -/
theorem targetFreq_advances {direction : Relation} (relation : Relation) {newFreq : U32}
    (onward : direction.lt old (validateFreq policy newFreq)) :
    Advances policy table (direction.lt old)
      (targetFreq kernel policy (some table) newFreq old relation) := by
  rcases targetRequest_onward selects signed oldInRange relation onward with
    ⟨target, requested, inRange, beyond⟩ | ⟨requested, nothing⟩
  · rw [targetFreq, requested, Option.getD_some]
    have positive : target ≠ 0 := by
      rintro rfl
      exact absurd (plain 0 inRange.1).1 (by decide)
    refine ⟨⟨fun zero => absurd zero positive, fun none => ?_⟩, fun _ => ⟨inRange, beyond⟩⟩
    exact absurd ⟨inRange.2, beyond⟩ (none target inRange.1)
  · rw [targetFreq, requested, Option.getD_none]
    exact ⟨⟨fun _ entry listed both => nothing entry ⟨listed, both.1⟩ both.2, fun _ => rfl⟩,
      fun nonzero => absurd rfl nonzero⟩

/-- **`target_freq` makes progress in the direction asked for**: above the old
frequency when the clamped frequency is above it, below when it is below, and not
at all when it is the same; no change is made exactly when the table has nothing
on that side. -/
theorem targetFreq_progress (newFreq : U32) (relation : Relation) :
    Progresses policy table newFreq old
      (targetFreq kernel policy (some table) newFreq old relation) := by
  have clamped : ((validateFreq policy newFreq).toNat : Int) = clampedFreq policy newFreq :=
    toNat_validateFreq oldInRange.2.ordered signed newFreq
  refine ⟨fun above => ?_, fun below => ?_, fun same => ?_⟩
  · have onward : Relation.L.lt old (validateFreq policy newFreq) := by
      rw [Relation.L_lt_iff, BitVec.lt_def]
      omega
    have advances := targetFreq_advances selects signed plain oldInRange relation onward
    rwa [Relation.L_lt] at advances
  · have onward : Relation.H.lt old (validateFreq policy newFreq) := by
      rw [Relation.H_lt_iff, BitVec.lt_def]
      omega
    have advances := targetFreq_advances selects signed plain oldInRange relation onward
    rwa [Relation.H_lt] at advances
  · have equal : validateFreq policy newFreq = old := by
      apply BitVec.eq_of_toNat_eq
      omega
    simp only [targetFreq, targetRequest, equal, ↓reduceIte, ite_self, Option.getD_none]

end Result

/-- Asked for at most 250 MHz from 200 MHz, it goes on to 300 MHz. -/
theorem targetFreq_progress_retries :
    targetFreq cpufreqFrequencyTableTarget ⟨100000, 300000, 200000⟩
        (some [200000, 300000, 100000]) 250000 200000 .H = 300000 ∧
      Progresses ⟨100000, 300000, 200000⟩ [200000, 300000, 100000] 250000 200000
        (targetFreq cpufreqFrequencyTableTarget ⟨100000, 300000, 200000⟩
          (some [200000, 300000, 100000]) 250000 200000 .H) :=
  ⟨by decide +kernel,
    targetFreq_progress cpufreqFrequencyTableTarget_selects (by decide) (by decide)
      (by decide) 250000 .H⟩

/-- With a maximum that is negative as an `int`, no lower frequency is found. -/
theorem targetFreq_ignores_lower :
    ¬ ∀ (policy : CpufreqPolicy) (table : FreqTable) (old newFreq : U32) (relation : Relation),
      policy.Ordered → table.Plain → table.InRange policy old →
        Progresses policy table newFreq old
          (targetFreq cpufreqFrequencyTableTarget policy (some table) newFreq old relation) := by
  intro progresses
  have lower := (progresses ⟨1, 0x80000000, 200000⟩ [100000, 200000] 200000 100000 .L
    (by decide) (by decide) (by decide)).2.1 (by decide)
  have unchanged : targetFreq cpufreqFrequencyTableTarget ⟨1, 0x80000000, 200000⟩
      (some [100000, 200000]) 100000 200000 .L = 0 := by decide +kernel
  exact lower.1.mp unchanged 100000 (by decide) (by decide)

end Jordan.Cpufreq
