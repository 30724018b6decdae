import Jordan.Machine

/-! # Frequencies of the boosted governor

How `cpufreq_boosted` chooses a frequency: the ideal speed within the policy,
the next frequency of a ramp, and the frequency that is finally handed to the
driver. Frequencies are in kHz. The source keeps them in `int` and in
`unsigned int` variables; the order of a comparison follows the C types of its
operands.
-/

namespace Jordan.Cpufreq

/-- The fields of `struct cpufreq_policy` that the governor reads. -/
structure CpufreqPolicy where
  min : U32
  max : U32
  cur : U32
deriving DecidableEq, Repr

namespace CpufreqPolicy

/-- The frequencies within the limits of the policy. -/
def Contains (policy : CpufreqPolicy) (freq : U32) : Prop :=
  policy.min ≤ freq ∧ freq ≤ policy.max

instance (policy : CpufreqPolicy) (freq : U32) : Decidable (policy.Contains freq) :=
  inferInstanceAs (Decidable (_ ∧ _))

/-- The lowest and the highest frequency. -/
def limits (policy : CpufreqPolicy) : U32 × U32 := (policy.min, policy.max)

/-- The limits are in order. -/
def Ordered (policy : CpufreqPolicy) : Prop := policy.min ≤ policy.max

instance (policy : CpufreqPolicy) : Decidable policy.Ordered :=
  inferInstanceAs (Decidable (_ ≤ _))

variable {policy : CpufreqPolicy}

theorem Ordered.contains_min (ordered : policy.Ordered) : policy.Contains policy.min :=
  ⟨BitVec.le_refl _, ordered⟩

theorem Ordered.contains_max (ordered : policy.Ordered) : policy.Contains policy.max :=
  ⟨ordered, BitVec.le_refl _⟩

/-- Whether the limits are in order depends on the limits only. -/
theorem ordered_of_limits {other : CpufreqPolicy} (same : policy.limits = other.limits)
    (ordered : other.Ordered) : policy.Ordered := by
  obtain ⟨lowest, highest⟩ := Prod.mk.inj same
  rw [Ordered, lowest, highest]
  exact ordered

end CpufreqPolicy

/-- `CPUFREQ_RELATION_L`: the lowest frequency at or above the target;
`CPUFREQ_RELATION_H`: the highest frequency at or below it. -/
inductive Relation where
  | L
  | H
deriving DecidableEq, Repr

/-- The frequencies of `struct cpufreq_frequency_table`, without the end mark. -/
abbrev FreqTable := List U32

/-- `cpufreq_frequency_table_target` of the kernel: an index into the table, or
a failure. An index it returns is that of an entry within the policy. -/
structure TableTarget where
  find : CpufreqPolicy → FreqTable → U32 → Relation → Option Nat
  contains {policy : CpufreqPolicy} {table : FreqTable} {freq : U32} {relation : Relation}
    {index : Nat} (found : find policy table freq relation = some index) :
    index < table.length ∧ policy.Contains (table.getD index 0)

/-- The frequency at the index that is found. -/
def TableTarget.frequency (kernel : TableTarget) (policy : CpufreqPolicy) (table : FreqTable)
    (freq : U32) (relation : Relation) : Option U32 :=
  (kernel.find policy table freq relation).map fun index => table.getD index 0

theorem TableTarget.contains_frequency {kernel : TableTarget} {policy : CpufreqPolicy}
    {table : FreqTable} {freq found : U32} {relation : Relation}
    (lookup : kernel.frequency policy table freq relation = some found) :
    policy.Contains found := by
  obtain ⟨index, indexed, rfl⟩ := Option.map_eq_some_iff.mp lookup
  exact (kernel.contains indexed).2

/-! ## The kernel's table search

The search of `drivers/cpufreq/freq_table.c`, which the results below do not
depend on: they hold of every `TableTarget`.
-/

/-- `CPUFREQ_ENTRY_INVALID` -/
def entryInvalid : U32 := BitVec.allOnes 32

/-- The entry is on the side of the target that the relation asks for. -/
def Relation.reaches : Relation → U32 → U32 → Bool
  | .L, freq, entry => freq ≤ entry
  | .H, freq, entry => entry ≤ freq

/-- An entry on that side is at least as close to the target as the one held. -/
def Relation.closer : Relation → U32 → U32 → Bool
  | .L, held, entry => entry ≤ held
  | .H, held, entry => held ≤ entry

def Relation.other : Relation → Relation
  | .L => .H
  | .H => .L

/-- Keep the better of the index held so far and the next one. -/
def FreqTable.better (table : FreqTable) (relation : Relation) (held : Option Nat)
    (index : Nat) : Option Nat :=
  match held with
  | none => some index
  | some best =>
      if relation.closer (table.getD best 0) (table.getD index 0) then some index else some best

/-- One entry of the table: the optimal and the suboptimal index so far. -/
def FreqTable.consider (table : FreqTable) (policy : CpufreqPolicy) (freq : U32)
    (relation : Relation) (found : Option Nat × Option Nat) (index : Nat) :
    Option Nat × Option Nat :=
  let entry := table.getD index 0
  if entry = entryInvalid ∨ ¬ policy.Contains entry then found
  else if relation.reaches freq entry then (table.better relation found.1 index, found.2)
  else (found.1, table.better relation.other found.2 index)

/-- The optimal and the suboptimal index of the whole table. -/
def FreqTable.search (table : FreqTable) (policy : CpufreqPolicy) (freq : U32)
    (relation : Relation) : Option Nat × Option Nat :=
  (List.range table.length).foldl (table.consider policy freq relation) (none, none)

/-- The index of an entry within the policy. -/
def FreqTable.Candidate (table : FreqTable) (policy : CpufreqPolicy) (index : Nat) : Prop :=
  index < table.length ∧ policy.Contains (table.getD index 0)

theorem FreqTable.better_mem {table : FreqTable} {relation : Relation} {held : Option Nat}
    {index found : Nat} (chosen : found ∈ table.better relation held index) :
    found = index ∨ found ∈ held := by
  unfold FreqTable.better at chosen
  cases held with
  | none => exact .inl (Option.some.inj chosen).symm
  | some best =>
      simp only at chosen
      split_ifs at chosen
      · exact .inl (Option.some.inj chosen).symm
      · exact .inr chosen

/-- A search that considers one more index still holds candidates only. -/
theorem FreqTable.consider_mem {table : FreqTable} {policy : CpufreqPolicy} {freq : U32}
    {relation : Relation} {found : Option Nat × Option Nat} {index chosen : Nat}
    (inTable : index < table.length)
    (candidates : ∀ held, held ∈ found.1 ∨ held ∈ found.2 → table.Candidate policy held)
    (kept : chosen ∈ (table.consider policy freq relation found index).1 ∨
      chosen ∈ (table.consider policy freq relation found index).2) :
    table.Candidate policy chosen := by
  have step (member : chosen = index ∨ chosen ∈ found.1 ∨ chosen ∈ found.2)
      (within : policy.Contains (table.getD index 0)) : table.Candidate policy chosen := by
    rcases member with rfl | member
    · exact ⟨inTable, within⟩
    · exact candidates chosen member
  simp only [FreqTable.consider] at kept
  split_ifs at kept with skipped reached
  · exact candidates chosen kept
  · refine step ?_ (by tauto)
    rcases kept with kept | kept
    · exact (FreqTable.better_mem kept).imp_right .inl
    · exact .inr (.inr kept)
  · refine step ?_ (by tauto)
    rcases kept with kept | kept
    · exact .inr (.inl kept)
    · exact (FreqTable.better_mem kept).imp_right .inr

/-- What a search finds is a candidate. -/
theorem FreqTable.search_mem {table : FreqTable} {policy : CpufreqPolicy} {freq : U32}
    {relation : Relation} {chosen : Nat}
    (found : chosen ∈ (table.search policy freq relation).1 ∨
      chosen ∈ (table.search policy freq relation).2) : table.Candidate policy chosen := by
  have all : ∀ held, held ∈ (table.search policy freq relation).1 ∨
      held ∈ (table.search policy freq relation).2 → table.Candidate policy held := by
    unfold FreqTable.search
    refine List.foldlRecOn (List.range table.length) (table.consider policy freq relation)
      (motive := fun found => ∀ held, held ∈ found.1 ∨ held ∈ found.2 →
        table.Candidate policy held) ?_ ?_
    · intro held member
      rcases member with member | member <;> cases member
    · intro found candidates index inRange held kept
      exact FreqTable.consider_mem (List.mem_range.mp inRange) candidates kept
  exact all chosen found

/-- `cpufreq_frequency_table_target`: the optimal entry, else the suboptimal one. -/
def cpufreqFrequencyTableTarget : TableTarget where
  find policy table freq relation :=
    (table.search policy freq relation).1.or (table.search policy freq relation).2
  contains found := by
    rcases Option.or_eq_some_iff.mp found with optimal | ⟨_, suboptimal⟩
    · exact FreqTable.search_mem (.inl optimal)
    · exact FreqTable.search_mem (.inr suboptimal)

/-- `ramp_dir`: 1, 0 or -1. -/
inductive RampDir where
  | up
  | stay
  | down
deriving DecidableEq, Repr

/-- The tunable parameters. -/
structure Tunables where
  upRateUs : U32
  downRateUs : U32
  sleepIdealFreq : U32
  sleepWakeupFreq : U32
  awakeIdealFreq : U32
  sampleRateJiffies : U32
  rampUpStep : U32
  rampDownStep : U32
  maxCpuLoad : U32
  minCpuLoad : U32

/-- The values that `cpufreq_boosted_init` sets. -/
def Tunables.default : Tunables where
  upRateUs := 52000
  downRateUs := 97000
  sleepIdealFreq := 200000
  sleepWakeupFreq := 300000
  awakeIdealFreq := 500000
  sampleRateJiffies := 2
  rampUpStep := 160000
  rampDownStep := 160000
  maxCpuLoad := 70
  minCpuLoad := 40

/-- The ideal speed that `boosted_update_min_max` computes. -/
def Tunables.idealSpeed (tunables : Tunables) (policy : CpufreqPolicy) (suspend : Bool) : U32 :=
  if suspend then
    if tunables.sleepIdealFreq < policy.max then
      if policy.min < tunables.sleepIdealFreq then tunables.sleepIdealFreq else policy.min
    else policy.max
  else
    if policy.min < tunables.awakeIdealFreq then
      if tunables.awakeIdealFreq < policy.max then tunables.awakeIdealFreq else policy.max
    else policy.min

/-- `validate_freq`: the comparisons are signed. -/
def validateFreq (policy : CpufreqPolicy) (freq : U32) : U32 :=
  if policy.max.slt freq then policy.max
  else if freq.slt policy.min then policy.min
  else freq

/-- The table entry `target_freq` settles on. When it is the old frequency, the
table is searched a second time with the other relation. -/
def tableFreq (kernel : TableTarget) (policy : CpufreqPolicy) (table : FreqTable)
    (newFreq oldFreq : U32) (relation : Relation) (first : U32) : U32 :=
  if first = oldFreq then
    if oldFreq.slt newFreq ∧ relation = .H then
      (kernel.frequency policy table newFreq .L).getD first
    else if newFreq.slt oldFreq ∧ relation = .L then
      (kernel.frequency policy table newFreq .H).getD first
    else first
  else first

/-- The target that `target_freq` hands to `__cpufreq_driver_target`, if it
calls it. -/
def targetRequest (kernel : TableTarget) (policy : CpufreqPolicy) (freqTable : Option FreqTable)
    (newFreq oldFreq : U32) (relation : Relation) : Option U32 :=
  if newFreq = oldFreq then none
  else
    let newFreq := validateFreq policy newFreq
    if newFreq = oldFreq then none
    else
      match freqTable with
      | none => some newFreq
      | some table =>
          match kernel.frequency policy table newFreq relation with
          | none => some newFreq
          | some first =>
              let target := tableFreq kernel policy table newFreq oldFreq relation first
              if target = oldFreq then none else some target

/-- `target_freq`: the target, or 0 when the frequency is not changed. -/
def targetFreq (kernel : TableTarget) (policy : CpufreqPolicy) (freqTable : Option FreqTable)
    (newFreq oldFreq : U32) (relation : Relation) : U32 :=
  (targetRequest kernel policy freqTable newFreq oldFreq relation).getD 0

/-! ## The limits are kept -/

/-- **`validate_freq` keeps the limits**, whatever the sign of its operands. -/
theorem contains_validateFreq {policy : CpufreqPolicy} (ordered : policy.Ordered) (freq : U32) :
    policy.Contains (validateFreq policy freq) := by
  unfold validateFreq
  split_ifs with above below
  · exact ordered.contains_max
  · exact ordered.contains_min
  · -- no sign case is left where the two orders disagree
    simp only [CpufreqPolicy.Ordered, CpufreqPolicy.Contains, BitVec.le_def,
      BitVec.slt_iff_toInt_lt, BitVec.toInt_eq_toNat_cond] at *
    omega

/-- The table entry settled on is within the policy when the first one is. -/
theorem contains_tableFreq {kernel : TableTarget} {policy : CpufreqPolicy} {first : U32}
    (within : policy.Contains first) (table : FreqTable) (newFreq oldFreq : U32)
    (relation : Relation) :
    policy.Contains (tableFreq kernel policy table newFreq oldFreq relation first) := by
  have second (other : Relation) :
      policy.Contains ((kernel.frequency policy table newFreq other).getD first) := by
    cases lookup : kernel.frequency policy table newFreq other with
    | none => exact within
    | some found => exact TableTarget.contains_frequency lookup
  unfold tableFreq
  split_ifs
  · exact second .L
  · exact second .H
  · exact within
  · exact within

/-- **Every target is within the policy**, with a table and without. -/
theorem contains_targetRequest {kernel : TableTarget} {policy : CpufreqPolicy}
    (ordered : policy.Ordered) {freqTable : Option FreqTable} {newFreq oldFreq target : U32}
    {relation : Relation}
    (requested : targetRequest kernel policy freqTable newFreq oldFreq relation = some target) :
    policy.Contains target := by
  have validated := contains_validateFreq ordered newFreq
  simp only [targetRequest] at requested
  split_ifs at requested with same kept
  cases freqTable with
  | none => exact Option.some.inj requested ▸ validated
  | some table =>
      simp only at requested
      cases lookup : kernel.frequency policy table (validateFreq policy newFreq) relation with
      | none =>
          rw [lookup] at requested
          exact Option.some.inj requested ▸ validated
      | some first =>
          rw [lookup] at requested
          simp only at requested
          split_ifs at requested with unchanged
          exact Option.some.inj requested ▸
            contains_tableFreq (TableTarget.contains_frequency lookup) _ _ _ _

/-- A nonzero result of `target_freq` is within the policy. -/
theorem contains_targetFreq {kernel : TableTarget} {policy : CpufreqPolicy}
    (ordered : policy.Ordered) {freqTable : Option FreqTable} {newFreq oldFreq : U32}
    {relation : Relation}
    (nonzero : targetFreq kernel policy freqTable newFreq oldFreq relation ≠ 0) :
    policy.Contains (targetFreq kernel policy freqTable newFreq oldFreq relation) := by
  unfold targetFreq at nonzero ⊢
  cases requested : targetRequest kernel policy freqTable newFreq oldFreq relation with
  | none => exact absurd (by rw [requested, Option.getD_none]) nonzero
  | some target =>
      rw [Option.getD_some]
      exact contains_targetRequest ordered requested

end Jordan.Cpufreq
