import Jordan.Cpufreq.CpufreqStats

/-! # Overclocking and the statistics

`overclock.c` rewrites OPPs. The OPP of an index has the position
`MAX_VDD1_OPP - index` in the cpufreq table, and the module relabels the state at
the same position of the statistics. When it is loaded, it fills the cpufreq
table up with copies of its last entry.

The statistics leave out invalid and duplicate entries, and were created before
the table was filled up. Where the positions differ, the label of another OPP is
overwritten, or an element outside of the array
(`Jordan.Cpufreq.Overclock.follows_iff`).
-/

namespace Jordan.Cpufreq

open Execution

/-- What the module sets of `struct omap_opp`. -/
structure OmapOpp where
  rate : U32
  vsel : U32
  srAdjustVsel : U32
deriving DecidableEq, Repr

/-- The tables that the module changes. `policyMin` and `policyMax` stand for the
limits of the policy, of `cpuinfo` and of `user_policy`, which are set together. -/
structure Overclock where
  freqTable : List U32
  mpuOpps : List OmapOpp
  policyMin : U32
  policyMax : U32
  stats : CpufreqStats
  /-- History variable: the frequencies of the OPPs, by position, before the first write. -/
  origin : List U32
  /-- History variable: the statistics before the first write. -/
  created : CpufreqStats
  /-- History variable: the positions of the OPPs that have been rewritten. -/
  rewritten : List Nat

/-- The numbers of a write to `/proc/overclock/mpu_opps`. -/
structure OppWrite where
  index : U32
  rate : U32
  vsel : U32
deriving DecidableEq, Repr

namespace Overclock

variable (maxVdd1Opp : Nat)

/-- The loops of `overclock_init`: the table gets an end mark at `MAX_VDD1_OPP`,
and copies of its last entry up to there. Without an entry in front there is
nothing to copy. -/
def fillUp (frequencies : List U32) : Option (List U32) :=
  let kept := frequencies.take maxVdd1Opp
  if kept.length < maxVdd1Opp then
    kept.getLast?.map fun last => kept ++ List.replicate (maxVdd1Opp - kept.length) last
  else some kept

/-- `overclock_init` -/
def overclockInit (table : CpufreqTable) (mpuOpps : List OmapOpp) (policyMin policyMax : U32)
    (stats : CpufreqStats) : Option Overclock :=
  (fillUp maxVdd1Opp table.frequencies).map fun freqTable =>
    { freqTable := freqTable
      mpuOpps := mpuOpps
      policyMin := policyMin
      policyMax := policyMax
      stats := stats
      origin := freqTable ++ table.frequencies.drop maxVdd1Opp
      created := stats
      rewritten := [] }

/-- The index of the write is accepted. -/
def Accepted (write : OppWrite) : Prop := ¬ (write.index < 1 ∨ maxVdd1Opp < write.index.toNat)

instance (write : OppWrite) : Decidable (Accepted maxVdd1Opp write) :=
  inferInstanceAs (Decidable (¬ (_ ∨ _)))

/-- The position of an OPP in the cpufreq table, and in the statistics. -/
def position (write : OppWrite) : Nat := maxVdd1Opp - write.index.toNat

/-- `proc_mpu_opps_write`, when three numbers are scanned. -/
def procMpuOppsWrite (s : Overclock) (write : OppWrite) : Except Errno Overclock :=
  if write.index < 1 ∨ maxVdd1Opp < write.index.toNat then .error EFAULT
  else
    let position := position maxVdd1Opp write
    let freq := write.rate / 1000
    .ok { s with
      mpuOpps := s.mpuOpps.set write.index.toNat ⟨write.rate, write.vsel, write.vsel⟩
      freqTable := s.freqTable.set position freq
      policyMax := if write.index.toNat = maxVdd1Opp then freq else s.policyMax
      policyMin :=
        if write.index.toNat ≠ maxVdd1Opp ∧ write.index = 1 then freq else s.policyMin
      stats := s.stats.cpufreqStatsFreqUpdate position freq
      rewritten := position :: s.rewritten }

/-- An accepted write. -/
def step (s : Overclock) (write : OppWrite) : Option Overclock :=
  (s.procMpuOppsWrite maxVdd1Opp write).toOption

/-- The OPPs that have not been rewritten, with their positions, unless they were
invalid. -/
def untouched (s : Overclock) : List (U32 × Nat) :=
  s.origin.zipIdx.filter fun (freq, position) => freq ≠ entryInvalid ∧ position ∉ s.rewritten

/-- The state of the statistics that was created for a frequency. -/
def stateOf (s : Overclock) (freq : U32) : Option Nat := s.created.freqTableGetIndex freq

/-- The valid frequencies are found in the statistics, the state that is written
is one of them, and the OPPs that have not been rewritten have their label. -/
def Follows (_ : Overclock) (write : OppWrite) (after : Overclock) : Prop :=
  (∀ freq ∈ after.freqTable, freq ≠ entryInvalid → after.stats.freqTableGetIndex freq ≠ none) ∧
    position maxVdd1Opp write < after.stats.maxState ∧
      ∀ opp ∈ after.untouched, ∀ state ∈ after.stateOf opp.1,
        after.stats.freqTable[state]? = some opp.1

instance (before : Overclock) (write : OppWrite) (after : Overclock) :
    Decidable (Follows maxVdd1Opp before write after) :=
  -- the words of the table are tried, not all words
  have : Decidable (∀ freq ∈ after.freqTable, freq ≠ entryInvalid →
      after.stats.freqTableGetIndex freq ≠ none) := List.decidableBAll _ _
  inferInstanceAs (Decidable (_ ∧ _ ∧ ∀ opp ∈ after.untouched, ∀ state ∈ after.stateOf opp.1, _))

/-- The position is that of a state, and this state is not that of another OPP
that has not been rewritten and has another frequency. -/
def SparesLabels (before : Overclock) (write : OppWrite) : Prop :=
  position maxVdd1Opp write < before.stats.maxState ∧
    ∀ opp ∈ before.untouched, opp.2 ≠ position maxVdd1Opp write →
      before.stateOf opp.1 = some (position maxVdd1Opp write) → opp.1 = write.rate / 1000

instance (before : Overclock) (write : OppWrite) :
    Decidable (SparesLabels maxVdd1Opp before write) :=
  inferInstanceAs (Decidable (_ ∧ ∀ opp ∈ before.untouched, _ → _ → _))

/-! ## The invariant -/

variable {maxVdd1Opp} {s after : Overclock}

theorem mem_untouched {freq : U32} {position : Nat} :
    (freq, position) ∈ s.untouched ↔
      s.origin[position]? = some freq ∧ freq ≠ entryInvalid ∧ position ∉ s.rewritten := by
  unfold untouched
  rw [List.mem_filter, List.mem_zipIdx_iff_getElem?, decide_eq_true_iff]

variable (maxVdd1Opp) in
/-- The two tables agree: on the frequencies of the OPPs that have been
rewritten, by position, and on those of the others, by the state created for them. -/
structure Aligned (s : Overclock) : Prop where
  size : s.freqTable.length = maxVdd1Opp
  states : s.stats.freqTable.length = s.stats.maxState
  stated : ∀ opp ∈ s.untouched, s.stateOf opp.1 ≠ none
  labels : ∀ opp ∈ s.untouched, ∀ state ∈ s.stateOf opp.1,
    s.stats.freqTable[state]? = some opp.1
  kept : ∀ position < maxVdd1Opp, position ∉ s.rewritten →
    s.freqTable[position]? = s.origin[position]?
  moved : ∀ position ∈ s.rewritten, s.stats.freqTable[position]? = s.freqTable[position]?

/-- The valid frequencies of aligned tables are found. -/
theorem Aligned.found (aligned : Aligned maxVdd1Opp s) {freq : U32} (member : freq ∈ s.freqTable)
    (valid : freq ≠ entryInvalid) : s.stats.freqTableGetIndex freq ≠ none := by
  obtain ⟨position, held⟩ := List.getElem?_of_mem member
  intro missing
  have absent : freq ∉ s.stats.freqTable := Slots.find_eq_none_iff.mp missing
  by_cases rewritten : position ∈ s.rewritten
  · have labelled := (aligned.moved position rewritten).trans held
    exact absent (List.mem_of_getElem? labelled)
  · obtain ⟨inside, _⟩ := List.getElem?_eq_some_iff.mp held
    have original := (aligned.kept position (aligned.size ▸ inside) rewritten).symm.trans held
    have opp : (freq, position) ∈ s.untouched := mem_untouched.mpr ⟨original, valid, rewritten⟩
    obtain ⟨state, created⟩ := Option.ne_none_iff_exists'.mp (aligned.stated _ opp)
    exact absent (List.mem_of_getElem? (aligned.labels _ opp state created))

/-- What an accepted write does to the tables. -/
structure Rewrites (s : Overclock) (position : Nat) (freq : U32) (after : Overclock) : Prop where
  freqTable : after.freqTable = s.freqTable.set position freq
  stats : after.stats = s.stats.cpufreqStatsFreqUpdate position freq
  rewritten : after.rewritten = position :: s.rewritten
  origin : after.origin = s.origin
  created : after.created = s.created

theorem step_rewrites {write : OppWrite} (taken : s.step maxVdd1Opp write = some after) :
    s.Rewrites (position maxVdd1Opp write) (write.rate / 1000) after ∧
      position maxVdd1Opp write < maxVdd1Opp := by
  unfold step procMpuOppsWrite at taken
  split at taken
  next => cases taken
  next accepted =>
    obtain rfl := Option.some.inj taken
    refine ⟨⟨rfl, rfl, rfl, rfl, rfl⟩, ?_⟩
    obtain ⟨nonzero, small⟩ := not_or.mp accepted
    unfold position
    bv_omega

namespace Rewrites

variable {position : Nat} {freq : U32}

theorem mem_untouched (rewrites : s.Rewrites position freq after) {opp : U32 × Nat} :
    opp ∈ after.untouched ↔ opp ∈ s.untouched ∧ opp.2 ≠ position := by
  rw [Overclock.mem_untouched, Overclock.mem_untouched, rewrites.origin, rewrites.rewritten,
    List.mem_cons]
  tauto

theorem stateOf (rewrites : s.Rewrites position freq after) (label : U32) :
    after.stateOf label = s.stateOf label :=
  congrArg (CpufreqStats.freqTableGetIndex · label) rewrites.created

theorem labels (rewrites : s.Rewrites position freq after) :
    after.stats.freqTable = s.stats.freqTable.set position freq :=
  congrArg CpufreqStats.freqTable rewrites.stats

theorem maxState (rewrites : s.Rewrites position freq after) :
    after.stats.maxState = s.stats.maxState :=
  (congrArg CpufreqStats.maxState rewrites.stats).trans rfl

/-- A write keeps aligned tables aligned if it spares the labels of other OPPs. -/
theorem aligned (rewrites : s.Rewrites position freq after) (aligned : Aligned maxVdd1Opp s)
    (state : position < s.stats.maxState)
    (spares : ∀ opp ∈ s.untouched, opp.2 ≠ position → s.stateOf opp.1 = some position →
      opp.1 = freq)
    (inside : position < maxVdd1Opp) : Aligned maxVdd1Opp after where
  size := by
    rw [rewrites.freqTable, List.length_set]
    exact aligned.size
  states := by
    rw [rewrites.labels, List.length_set, rewrites.maxState]
    exact aligned.states
  stated := by
    intro opp member
    rw [rewrites.stateOf]
    exact aligned.stated opp (rewrites.mem_untouched.mp member).1
  labels := by
    intro opp member found held
    rw [rewrites.stateOf] at held
    obtain ⟨before, other⟩ := rewrites.mem_untouched.mp member
    rw [rewrites.labels]
    rcases eq_or_ne position found with rfl | apart
    · rw [List.getElem?_set_self (aligned.states ▸ state)]
      exact congrArg some (spares opp before other held).symm
    · rw [List.getElem?_set_ne apart]
      exact aligned.labels opp before found held
  kept := by
    intro place below untouched
    rw [rewrites.rewritten, List.mem_cons, not_or] at untouched
    rw [rewrites.freqTable, rewrites.origin, List.getElem?_set_ne (Ne.symm untouched.1)]
    exact aligned.kept place below untouched.2
  moved := by
    intro place member
    rw [rewrites.labels, rewrites.freqTable]
    rcases eq_or_ne position place with rfl | apart
    · rw [List.getElem?_set_self (aligned.states ▸ state),
        List.getElem?_set_self (aligned.size ▸ inside)]
    · rw [List.getElem?_set_ne apart, List.getElem?_set_ne apart]
      rw [rewrites.rewritten, List.mem_cons] at member
      exact aligned.moved place (member.resolve_left (Ne.symm apart))

end Rewrites

/-- A write to aligned tables follows exactly when it spares the labels. -/
theorem follows_iff_sparesLabels {write : OppWrite} (aligned : Aligned maxVdd1Opp s)
    (taken : s.step maxVdd1Opp write = some after) :
    Follows maxVdd1Opp s write after ↔ SparesLabels maxVdd1Opp s write := by
  obtain ⟨rewrites, inside⟩ := step_rewrites taken
  constructor
  · rintro ⟨_, state, labels⟩
    rw [rewrites.maxState] at state
    refine ⟨state, fun opp before other held => ?_⟩
    have label := labels opp (rewrites.mem_untouched.mpr ⟨before, other⟩) _
      ((rewrites.stateOf _).trans held)
    rw [rewrites.labels, List.getElem?_set_self (aligned.states ▸ state)] at label
    exact (Option.some.inj label).symm
  · rintro ⟨state, spares⟩
    have still := rewrites.aligned aligned state spares inside
    exact ⟨fun freq member valid => still.found member valid, rewrites.maxState ▸ state,
      still.labels⟩

/-! ## Loading the module -/

/-- The table has an entry for every OPP. -/
theorem length_of_fillUp {frequencies filled : List U32}
    (loaded : fillUp maxVdd1Opp frequencies = some filled) : filled.length = maxVdd1Opp := by
  have kept := List.length_take_le maxVdd1Opp frequencies
  simp only [fillUp] at loaded
  split at loaded
  next short =>
    obtain ⟨last, _, rfl⟩ := Option.map_eq_some_iff.mp loaded
    rw [List.length_append, List.length_replicate]
    omega
  next =>
    obtain rfl := Option.some.inj loaded
    omega

/-- The entries are those of the table, and then its last one. -/
theorem getElem?_of_fillUp {frequencies filled : List U32} {position : Nat}
    (loaded : fillUp maxVdd1Opp frequencies = some filled) (below : position < maxVdd1Opp) :
    filled[position]? =
      frequencies[min position (min maxVdd1Opp frequencies.length - 1)]? := by
  have size : (frequencies.take maxVdd1Opp).length = min maxVdd1Opp frequencies.length :=
    List.length_take
  simp only [fillUp] at loaded
  split at loaded
  next short =>
    obtain ⟨last, present, rfl⟩ := Option.map_eq_some_iff.mp loaded
    rcases Nat.lt_or_ge position (min maxVdd1Opp frequencies.length) with front | behind
    · rw [List.getElem?_append_left (size ▸ front), List.getElem?_take_of_lt below,
        Nat.min_eq_left (Nat.le_sub_one_of_lt front)]
    · rw [List.getLast?_eq_getElem?, size, List.getElem?_take_of_lt (by omega)] at present
      rw [List.getElem?_append_right (size ▸ behind), List.getElem?_replicate_of_lt (by omega),
        Nat.min_eq_right (by omega), present]
  next =>
    obtain rfl := Option.some.inj loaded
    rw [List.getElem?_take_of_lt below, Nat.min_eq_left (by omega)]

/-- The entries all come from the table. -/
theorem mem_of_fillUp {frequencies filled : List U32} {freq : U32}
    (loaded : fillUp maxVdd1Opp frequencies = some filled) (member : freq ∈ filled) :
    freq ∈ frequencies := by
  obtain ⟨position, held⟩ := List.getElem?_of_mem member
  have below : position < maxVdd1Opp :=
    length_of_fillUp loaded ▸ (List.getElem?_eq_some_iff.mp held).1
  exact List.mem_of_getElem? ((getElem?_of_fillUp loaded below).symm.trans held)

section Load

variable {table : CpufreqTable} {cur : U32} {jiffies : Nat} {mpuOpps : List OmapOpp}
  {policyMin policyMax : U32}

/-- The tables are aligned when the module is loaded after the statistics have
been created. -/
theorem aligned_overclockInit
    (loaded : overclockInit maxVdd1Opp table mpuOpps policyMin policyMax
      (.create table cur jiffies) = some s) : Aligned maxVdd1Opp s := by
  obtain ⟨freqTable, filled, rfl⟩ := Option.map_eq_some_iff.mp loaded
  have size := length_of_fillUp filled
  refine
    { size := size
      states := CpufreqStats.create_freqTable_length table cur jiffies
      stated := ?_
      labels := fun opp _ state held => Slots.getElem?_of_find held
      kept := fun position below _ => (List.getElem?_append_left (size ▸ below)).symm
      moved := nofun }
  rintro ⟨freq, position⟩ member missing
  obtain ⟨original, valid, _⟩ := mem_untouched.mp member
  have known : freq ∈ table.frequencies := by
    rcases List.mem_append.mp (List.mem_of_getElem? original) with inside | behind
    · exact mem_of_fillUp filled inside
    · exact List.mem_of_mem_drop behind
  have tracked : freq ∈ table.valid := List.mem_filter.mpr ⟨known, decide_eq_true valid⟩
  exact Slots.find_eq_none_iff.mp missing
    ((CpufreqStats.mem_create_freqTable table cur jiffies).mpr (.inl tracked))

/-- **The statistics follow the overclock module** along a run exactly when every
write spares the labels of the OPPs that have not been rewritten. Before the
first write they do. -/
theorem follows_iff {existing : Option CpufreqStats} {env : CreateEnv} {stats : CpufreqStats}
    (created : CpufreqStats.cpufreqStatsCreateTable existing env table cur jiffies = .ok stats)
    (loaded : overclockInit maxVdd1Opp table mpuOpps policyMin policyMax stats = some s)
    (writes : List OppWrite) :
    (∀ freq ∈ s.freqTable, freq ≠ entryInvalid → s.stats.freqTableGetIndex freq ≠ none) ∧
      (Along (step maxVdd1Opp) (Follows maxVdd1Opp) s writes ↔
        Guarded (step maxVdd1Opp) (SparesLabels maxVdd1Opp) s writes) := by
  obtain rfl := CpufreqStats.eq_create_of_ok created
  have aligned := aligned_overclockInit loaded
  refine ⟨fun freq member valid => aligned.found member valid, ?_⟩
  apply along_iff (Aligned maxVdd1Opp)
  · intro before write after aligned spares taken
    obtain ⟨rewrites, inside⟩ := step_rewrites taken
    exact ⟨rewrites.aligned aligned spares.1 spares.2 inside,
      (follows_iff_sparesLabels aligned taken).mpr spares⟩
  · intro before write after aligned taken follows
    exact (follows_iff_sparesLabels aligned taken).mp follows
  · exact aligned

end Load

/-- The table of a device with five OPPs, the last of which cpufreq does not know. -/
def fourOfFive : CpufreqTable where
  frequencies := [1000000, 800000, 600000, 300000]
  terminated := by decide
  fits := by decide

/-- The highest, the fifth and the fourth OPP are rewritten. -/
theorem fourOfFive_follows : ∃ s, overclockInit 5 fourOfFive [] 300000 1000000
      (.create fourOfFive 600000 0) = some s ∧
    Along (step 5) (Follows 5) s
      [⟨5, 1200000000, 64⟩, ⟨1, 125000000, 20⟩, ⟨2, 350000000, 32⟩] := by
  have created :
      CpufreqStats.cpufreqStatsCreateTable none CpufreqStats.fineEnv fourOfFive 600000 0 =
        .ok (.create fourOfFive 600000 0) := rfl
  refine ⟨_, rfl, ?_⟩
  exact (follows_iff created rfl _).2.mpr (by decide)

/-- A table with four OPPs, the second of which is invalid. -/
def invalidSecond : CpufreqTable where
  frequencies := [1000000, entryInvalid, 600000, 300000]
  terminated := by decide
  fits := by decide

/-- Rewriting the third OPP relabels the state of the fourth. -/
theorem invalidSecond_drifts : ∃ s, overclockInit 4 invalidSecond [] 300000 1000000
      (.create invalidSecond 600000 0) = some s ∧
    ¬ Along (step 4) (Follows 4) s [⟨2, 650000000, 40⟩] := by
  refine ⟨_, rfl, ?_⟩
  decide

end Overclock

end Jordan.Cpufreq
