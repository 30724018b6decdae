import Jordan.Cpufreq.Overclock
import Jordan.Library.Walk
import Jordan.Logcap.ProcMap

/-! # The tables that overclocking walks through

`overclock.c` reaches the cpufreq table and the OPP table of the kernel through
pointers. The loops of `proc_freq_table_read` and `proc_mpu_opps_read` have no
bound: the first goes up to `CPUFREQ_TABLE_END`, the second down to a rate of 0.

`overclock_init` puts the end mark at `MAX_VDD1_OPP` and fills the entries in front
of it. A write cannot make another end mark, as it stores a rate divided by 1000,
nor can it reach index 0 of the OPPs. The loops stay between the sentinels in every
reachable state (`Jordan.Cpufreq.OverclockTables.walks_inBounds`).
-/

namespace Jordan.Cpufreq

open Execution

/-- `struct cpufreq_frequency_table` -/
structure FreqEntry where
  index : U32
  frequency : U32
deriving DecidableEq, Repr

/-- What the module reads and sets of `struct omap_opp`. -/
structure OppEntry extends OmapOpp where
  oppId : U32
deriving DecidableEq, Repr

/-- What `freq_table` and `my_mpu_opps` point to, at any offset. -/
structure OverclockTables where
  freqTable : Int → FreqEntry
  mpuOpps : Int → OppEntry

/-- What a read has put into the buffer, and the indices its loop has come to. -/
structure TableRead where
  page : List Char
  visited : List Int
deriving DecidableEq

/-- What is returned. -/
def TableRead.ret (read : TableRead) : Nat := read.page.length

namespace OverclockTables

variable (maxVdd1Opp : Nat)

/-! ## Loading the module -/

/-- The first loop of `overclock_init`, which looks for the end mark. -/
def findEnd (fuel : Nat) (table : Int → FreqEntry) : Option Int :=
  (Walk.run (fun i => (table i).frequency = tableEnd) (· + 1) (fun (_ : Unit) _ => some ()) fuel
    0 ()).map Walk.Ended.index

/-- The second loop of `overclock_init`, for the entries that are left. -/
def fillFrom (table : Int → FreqEntry) (i : Int) : Nat → Int → FreqEntry
  | 0 => table
  | left + 1 =>
      fillFrom (Function.update table i ⟨BitVec.ofInt 32 i, (table (i - 1)).frequency⟩) (i + 1) left

/-- `overclock_init`; `none` is a loop that has not ended after the number of turns. -/
def overclockInit (fuel : Nat) (t : OverclockTables) : Option OverclockTables :=
  let table := Function.update t.freqTable maxVdd1Opp ⟨BitVec.ofNat 32 maxVdd1Opp, tableEnd⟩
  (findEnd fuel table).map fun i =>
    { t with freqTable := fillFrom table i (maxVdd1Opp - i).toNat }

/-! ## The files -/

/-- `proc_mpu_opps_write`, when three numbers are scanned: what it does to the tables. -/
def procMpuOppsWrite (t : OverclockTables) (write : OppWrite) : Except Errno OverclockTables :=
  if write.index < 1 ∨ maxVdd1Opp < write.index.toNat then .error EFAULT
  else
    let index : Int := write.index.toNat
    .ok
      { mpuOpps := Function.update t.mpuOpps index
          ⟨⟨write.rate, write.vsel, write.vsel⟩, (t.mpuOpps index).oppId⟩
        freqTable := Function.update t.freqTable (maxVdd1Opp - index)
          { t.freqTable (maxVdd1Opp - index) with frequency := write.rate / 1000 } }

/-- An accepted write. -/
def step (t : OverclockTables) (write : OppWrite) : Option OverclockTables :=
  (t.procMpuOppsWrite maxVdd1Opp write).toOption

/-- The loop of a read: lines are put into the buffer from an index on, until the
sentinel is found or the buffer is full. -/
def printRows (stop : Int → Prop) [DecidablePred stop] (next : Int → Int) (line : Int → List Char)
    (count fuel : Nat) (start : Int) : Option TableRead :=
  let body := fun (page : List Char) i =>
    if count ≤ page.length then none
    else some (page ++ Logcap.scnprintf (count - page.length) (line i))
  (Walk.run stop next body fuel start []).map fun ended => ⟨ended.state, ended.visited⟩

/-- A line of `proc_freq_table_read`. -/
def freqLine (t : OverclockTables) (i : Int) : List Char :=
  let index := (t.freqTable i).index.toNat
  let frequency := (t.freqTable i).frequency.toNat
  s!"freq_table[{i}] index={index} frequency={frequency}\n".toList

/-- `proc_freq_table_read` -/
def procFreqTableRead (t : OverclockTables) (fuel offset count : Nat) : Option TableRead :=
  if 0 < offset then some ⟨[], []⟩
  else printRows (fun i => (t.freqTable i).frequency = tableEnd) (· + 1) t.freqLine count fuel 0

/-- A line of `proc_mpu_opps_read`. -/
def oppLine (t : OverclockTables) (i : Int) : List Char :=
  let rate := (t.mpuOpps i).rate.toNat
  let id := (t.mpuOpps i).oppId.toNat
  let vsel := (t.mpuOpps i).vsel.toNat
  let adjust := (t.mpuOpps i).srAdjustVsel.toNat
  s!"mpu_opps[{i}] rate={rate} opp_id={id} vsel={vsel} sr_adjust_vsel={adjust}\n".toList

/-- `proc_mpu_opps_read` -/
def procMpuOppsRead (t : OverclockTables) (fuel offset count : Nat) : Option TableRead :=
  if 0 < offset then some ⟨[], []⟩
  else printRows (fun i => (t.mpuOpps i).rate = 0) (· - 1) t.oppLine count fuel maxVdd1Opp

/-! ## What holds in every reachable state -/

/-- The end mark is where the module has put it and nowhere before, and the OPPs
begin with a rate of 0. -/
structure Sentinels (t : OverclockTables) : Prop where
  entries : ∀ i : Int, 0 ≤ i → i < maxVdd1Opp → (t.freqTable i).frequency ≠ tableEnd
  last : (t.freqTable maxVdd1Opp).frequency = tableEnd
  first : (t.mpuOpps 0).rate = 0

/-- A read ends after enough turns, has not left the table, and has not returned more
than it was asked for. -/
def InBounds (read : Nat → Nat → Nat → Option TableRead) : Prop :=
  ∀ fuel offset count, maxVdd1Opp < fuel → ∃ result, read fuel offset count = some result ∧
    result.ret ≤ count ∧ ∀ i ∈ result.visited, 0 ≤ i ∧ i ≤ maxVdd1Opp

variable {maxVdd1Opp} {t : OverclockTables}

theorem iterate_add_one (start : Int) (count : Nat) :
    (· + 1 : Int → Int)^[count] start = start + count := by
  induction count with
  | zero => exact (Int.add_zero start).symm
  | succ count ih =>
      rw [Function.iterate_succ_apply', ih]
      omega

theorem iterate_sub_one (start : Int) (count : Nat) :
    (· - 1 : Int → Int)^[count] start = start - count := by
  induction count with
  | zero => exact (Int.sub_zero start).symm
  | succ count ih =>
      rw [Function.iterate_succ_apply', ih]
      omega

/-! ## Filling the table -/

/-- Entries outside of what is filled stay. -/
theorem fillFrom_outside (table : Int → FreqEntry) (i : Int) (left : Nat) {j : Int}
    (outside : j < i ∨ i + left ≤ j) : fillFrom table i left j = table j := by
  induction left generalizing table i with
  | zero => rfl
  | succ left ih =>
      rw [fillFrom, ih _ _ (by omega)]
      exact Function.update_of_ne (by omega) _ _

/-- The entry in front is copied. -/
theorem fillFrom_inside (table : Int → FreqEntry) (i : Int) (left : Nat) {j : Int} (above : i ≤ j)
    (below : j < i + left) :
    (fillFrom table i left j).frequency = (table (i - 1)).frequency := by
  induction left generalizing table i with
  | zero => omega
  | succ left ih =>
      rw [fillFrom]
      rcases eq_or_lt_of_le above with rfl | later
      · rw [fillFrom_outside _ _ _ (.inl (by omega)), Function.update_self]
      · rw [ih _ _ (by omega) (by omega), Int.add_sub_cancel, Function.update_self]

/-- The search ends at the first end mark. -/
theorem findEnd_spec {table : Int → FreqEntry} {mark fuel : Nat}
    (marked : (table mark).frequency = tableEnd) (enough : mark < fuel) :
    ∃ found : Nat, findEnd fuel table = some (found : Int) ∧ found ≤ mark ∧
      (table found).frequency = tableEnd ∧
        ∀ before < found, (table before).frequency ≠ tableEnd := by
  have sentinel : (table ((· + 1 : Int → Int)^[mark] 0)).frequency = tableEnd := by
    rwa [iterate_add_one, Int.zero_add]
  obtain ⟨ended, ran, found, near, ends⟩ := Walk.run_sentinel
    (fun i => (table i).frequency = tableEnd) (· + 1) (fun (_ : Unit) _ => some ()) sentinel
    enough ()
  have index : ended.index = found := by
    rw [ends.index, iterate_add_one, Int.zero_add]
  have marks := ends.reason.resolve_right fun broken => nomatch broken
  refine ⟨found, ?_, near, index ▸ marks, fun before below => ?_⟩
  · rw [findEnd, ran, ← index]
    rfl
  · have going := ends.going before below
    rwa [iterate_add_one, Int.zero_add] at going

variable (maxVdd1Opp) in
/-- What loading makes of the table: the entries in front of the first end mark are
kept, and the last of them is copied up to the new end mark. -/
structure Filled (t loaded : OverclockTables) (found : Nat) : Prop where
  near : found ≤ maxVdd1Opp
  marked : found < maxVdd1Opp → (t.freqTable found).frequency = tableEnd
  unmarked : ∀ i < found, (t.freqTable i).frequency ≠ tableEnd
  kept : ∀ i < found, (loaded.freqTable i).frequency = (t.freqTable i).frequency
  copied : ∀ i < maxVdd1Opp, found ≤ i →
    (loaded.freqTable i).frequency = (t.freqTable (found - 1)).frequency
  last : (loaded.freqTable maxVdd1Opp).frequency = tableEnd
  mpuOpps : loaded.mpuOpps = t.mpuOpps

/-- The loops of `overclock_init` end. -/
theorem overclockInit_filled (t : OverclockTables) {fuel : Nat} (enough : maxVdd1Opp < fuel) :
    ∃ loaded, overclockInit maxVdd1Opp fuel t = some loaded ∧
      ∃ found, Filled maxVdd1Opp t loaded found := by
  let table := Function.update t.freqTable maxVdd1Opp ⟨BitVec.ofNat 32 maxVdd1Opp, tableEnd⟩
  have marked : (table maxVdd1Opp).frequency = tableEnd := by
    show (Function.update t.freqTable _ _ (maxVdd1Opp : Int)).frequency = tableEnd
    rw [Function.update_self]
  have other {j : Int} (different : j ≠ maxVdd1Opp) : table j = t.freqTable j :=
    Function.update_of_ne different _ _
  obtain ⟨found, search, near, mark, before⟩ := findEnd_spec marked enough
  have left : ((maxVdd1Opp : Int) - found).toNat = maxVdd1Opp - found := by omega
  have loaded : overclockInit maxVdd1Opp fuel t =
      some { t with freqTable := fillFrom table found (maxVdd1Opp - found) } := by
    simp only [overclockInit]
    rw [search, Option.map_some, left]
  refine ⟨_, loaded, found, ?_⟩
  exact
    { near := near
      marked := fun inside => by rwa [other (by omega)] at mark
      unmarked := fun i below => by
        have front := before i below
        rwa [other (by omega)] at front
      kept := fun i below => by
        show (fillFrom table found (maxVdd1Opp - found) i).frequency = _
        rw [fillFrom_outside _ _ _ (.inl (by omega)), other (by omega)]
      copied := fun i below above => by
        show (fillFrom table found (maxVdd1Opp - found) i).frequency = _
        rw [fillFrom_inside _ _ _ (by omega) (by omega), other (by omega)]
      last := by
        show (fillFrom table found (maxVdd1Opp - found) maxVdd1Opp).frequency = tableEnd
        rw [fillFrom_outside _ _ _ (.inr (by omega))]
        exact marked
      mpuOpps := rfl }

/-- With an entry in front of the end mark there is one to copy. -/
theorem Filled.pos {loaded : OverclockTables} {found : Nat}
    (filled : Filled maxVdd1Opp t loaded found) (entry : (t.freqTable 0).frequency ≠ tableEnd)
    (room : 0 < maxVdd1Opp) : 0 < found := by
  refine Nat.pos_of_ne_zero ?_
  rintro rfl
  exact entry (filled.marked room)

/-- **Loading** puts the sentinels in place. -/
theorem Filled.sentinels {loaded : OverclockTables} {found : Nat}
    (filled : Filled maxVdd1Opp t loaded found) (entry : (t.freqTable 0).frequency ≠ tableEnd)
    (grounded : (t.mpuOpps 0).rate = 0) : Sentinels maxVdd1Opp loaded where
  entries := by
    intro i nonneg below
    obtain ⟨n, rfl⟩ := Int.eq_ofNat_of_zero_le nonneg
    rcases Nat.lt_or_ge n found with front | behind
    · rw [filled.kept n front]
      exact filled.unmarked n front
    · have some := filled.pos entry (by omega)
      have copied := filled.unmarked (found - 1) (by omega)
      rw [Nat.cast_sub some, Nat.cast_one] at copied
      rwa [filled.copied n (by omega) behind]
  last := filled.last
  first := by rwa [filled.mpuOpps]

/-! ## Writing -/

/-- A rate divided by 1000 is not an end mark. -/
theorem div_ne_tableEnd (rate : U32) : rate / 1000 ≠ tableEnd := by
  intro same
  have number : rate.toNat / 1000 = tableEnd.toNat := (congrArg BitVec.toNat same)
  have small := rate.isLt
  rw [show tableEnd.toNat = 4294967294 from rfl] at number
  omega

/-- **One write** keeps the sentinels. -/
theorem Sentinels.step {after : OverclockTables} {write : OppWrite}
    (sentinels : Sentinels maxVdd1Opp t) (taken : t.step maxVdd1Opp write = some after) :
    Sentinels maxVdd1Opp after := by
  unfold OverclockTables.step procMpuOppsWrite at taken
  split at taken
  next => cases taken
  next accepted =>
    obtain rfl := Option.some.inj taken
    obtain ⟨nonzero, small⟩ := not_or.mp accepted
    have positive : 0 < write.index.toNat := by bv_omega
    refine ⟨?_, ?_, ?_⟩
    · intro i nonneg below
      show (Function.update t.freqTable _ _ i).frequency ≠ tableEnd
      by_cases here : i = maxVdd1Opp - write.index.toNat
      · subst here
        rw [Function.update_self]
        exact div_ne_tableEnd write.rate
      · rw [Function.update_of_ne here]
        exact sentinels.entries i nonneg below
    · show (Function.update t.freqTable _ _ (maxVdd1Opp : Int)).frequency = tableEnd
      rw [Function.update_of_ne (by omega)]
      exact sentinels.last
    · show (Function.update t.mpuOpps _ _ 0).rate = 0
      rw [Function.update_of_ne (by omega)]
      exact sentinels.first

/-! ## Reading -/

/-- What the buffer takes of a line fits. -/
theorem length_append_scnprintf {page : List Char} {count : Nat} (room : page.length < count)
    (line : List Char) :
    (page ++ Logcap.scnprintf (count - page.length) line).length ≤ count := by
  rw [List.length_append, Logcap.scnprintf, List.length_take]
  omega

/-- **A read that a sentinel ends** does not pass it, and keeps to its buffer. -/
theorem printRows_sentinel (stop : Int → Prop) [DecidablePred stop] (next : Int → Int)
    (line : Int → List Char) {start : Int} {sentinel fuel : Nat}
    (stopped : stop (next^[sentinel] start)) (enough : sentinel < fuel) (count : Nat) :
    ∃ result, printRows stop next line count fuel start = some result ∧ result.ret ≤ count ∧
      ∀ i ∈ result.visited, ∃ upto ≤ sentinel, i = next^[upto] start := by
  let body := fun (page : List Char) i =>
    if count ≤ page.length then none
    else some (page ++ Logcap.scnprintf (count - page.length) (line i))
  obtain ⟨ended, ran, distance, near, ends⟩ := Walk.run_sentinel stop next body stopped enough []
  have fits : ended.state.length ≤ count := by
    have empty : ([] : List Char).length ≤ count := Nat.zero_le count
    refine Walk.run_invariant (fun page : List Char => page.length ≤ count) ?_ empty ran
    intro page i later _ taken
    by_cases full : count ≤ page.length
    · rw [show body page i = none from if_pos full] at taken
      cases taken
    · rw [show body page i = _ from if_neg full, Option.some.injEq] at taken
      exact taken ▸ length_append_scnprintf (Nat.lt_of_not_le full) (line i)
  refine ⟨⟨ended.state, ended.visited⟩, ?_, fits, fun i member => ?_⟩
  · unfold printRows
    exact congrArg (Option.map _) ran
  · obtain ⟨upto, within, here⟩ := ends.visited i member
    exact ⟨upto, Nat.le_trans within near, here⟩

/-- A read whose indices are inside the table up to its sentinel. -/
theorem inBounds_printRows (stop : Int → Prop) [DecidablePred stop] (next : Int → Int)
    (line : Int → List Char) {start : Int} (stopped : stop (next^[maxVdd1Opp] start))
    (inside : ∀ upto ≤ maxVdd1Opp, 0 ≤ next^[upto] start ∧ next^[upto] start ≤ maxVdd1Opp) :
    InBounds maxVdd1Opp fun fuel offset count =>
      if 0 < offset then some ⟨[], []⟩ else printRows stop next line count fuel start := by
  intro fuel offset count enough
  by_cases later : 0 < offset
  · exact ⟨_, if_pos later, Nat.zero_le count, fun i member => nomatch member⟩
  · obtain ⟨result, read, fits, visited⟩ :=
      printRows_sentinel stop next line stopped enough count
    refine ⟨result, (if_neg later).trans read, fits, fun i member => ?_⟩
    obtain ⟨upto, within, rfl⟩ := visited i member
    exact inside upto within

theorem Sentinels.procFreqTableRead (sentinels : Sentinels maxVdd1Opp t) :
    InBounds maxVdd1Opp t.procFreqTableRead := by
  apply inBounds_printRows
  · rw [iterate_add_one, Int.zero_add]
    exact sentinels.last
  · intro upto within
    rw [iterate_add_one]
    omega

theorem Sentinels.procMpuOppsRead (sentinels : Sentinels maxVdd1Opp t) :
    InBounds maxVdd1Opp (t.procMpuOppsRead maxVdd1Opp) := by
  apply inBounds_printRows
  · rw [iterate_sub_one, Int.sub_self]
    exact sentinels.first
  · intro upto within
    rw [iterate_sub_one]
    omega

/-- **The walks stay inside the tables.** When the kernel's table has an entry in front
of its end mark and the OPPs begin with a rate of 0, the sentinels stand after every run
of writes, and both reads keep between them and to their buffers. -/
theorem walks_inBounds (t : OverclockTables) (entry : (t.freqTable 0).frequency ≠ tableEnd)
    (grounded : (t.mpuOpps 0).rate = 0) {fuel : Nat} (enough : maxVdd1Opp < fuel) :
    ∃ loaded, overclockInit maxVdd1Opp fuel t = some loaded ∧
      ∀ writes last, exec (step maxVdd1Opp) loaded writes = some last →
        Sentinels maxVdd1Opp last ∧ InBounds maxVdd1Opp last.procFreqTableRead ∧
          InBounds maxVdd1Opp (last.procMpuOppsRead maxVdd1Opp) := by
  obtain ⟨loaded, initially, found, filled⟩ := overclockInit_filled t enough
  refine ⟨loaded, initially, fun writes last reached => ?_⟩
  have sentinels := invariant_of_step (Sentinels maxVdd1Opp)
    (fun _ _ _ sentinels taken => sentinels.step taken) (filled.sentinels entry grounded) reached
  exact ⟨sentinels, sentinels.procFreqTableRead, sentinels.procMpuOppsRead⟩

/-- A table with three frequencies, and OPPs that all have the same rate. -/
def threeFrequencies : OverclockTables where
  freqTable := fun i => ⟨0, if 0 ≤ i ∧ i < 3 then 600000 else tableEnd⟩
  mpuOpps := fun i => ⟨⟨if i = 0 then 0 else 600000000, 40, 40⟩, 1⟩

/-- The highest OPP is rewritten, and the rate of the second is set to 0. -/
theorem threeFrequencies_inBounds : ∃ loaded last,
    overclockInit 5 6 threeFrequencies = some loaded ∧
      exec (step 5) loaded [⟨5, 1200000000, 60⟩, ⟨2, 0, 20⟩] = some last ∧
        Sentinels 5 last ∧ InBounds 5 last.procFreqTableRead ∧
          InBounds 5 (last.procMpuOppsRead 5) := by
  obtain ⟨loaded, initially, always⟩ :=
    walks_inBounds threeFrequencies (by decide) rfl (by decide : 5 < 6)
  have reached : exec (step 5) loaded [⟨5, 1200000000, 60⟩, ⟨2, 0, 20⟩] = some _ := rfl
  exact ⟨loaded, _, initially, reached, always _ _ reached⟩

/-! ## The tables as lists -/

variable (maxVdd1Opp) in
/-- The lists are what the pointers reach of the tables. -/
structure Represents (t : OverclockTables) (s : Overclock) : Prop where
  freqTable : s.freqTable = (List.range maxVdd1Opp).map fun i : Nat => (t.freqTable i).frequency
  mpuOpps : s.mpuOpps = (List.range (maxVdd1Opp + 1)).map fun i : Nat => (t.mpuOpps i).toOmapOpp

/-- Setting an element of a list is updating the function that it lists. -/
theorem set_map_range {α β : Type} (view : α → β) (f : Int → α) (size position : Nat) (value : α) :
    ((List.range size).map fun i : Nat => view (f i)).set position (view value) =
      (List.range size).map fun i : Nat => view (Function.update f position value i) := by
  apply List.ext_getElem
  · rw [List.length_set, List.length_map, List.length_map]
  · intro i inside _
    rw [List.getElem_set, List.getElem_map, List.getElem_map, List.getElem_range]
    rcases eq_or_ne position i with rfl | other
    · rw [if_pos rfl, Function.update_self]
    · rw [if_neg other, Function.update_of_ne (by omega)]

/-- The same writes are accepted, and do the same to the lists. -/
theorem Represents.step {s : Overclock} (represents : Represents maxVdd1Opp t s)
    {after : OverclockTables} {write : OppWrite} (taken : t.step maxVdd1Opp write = some after) :
    ∃ next, s.step maxVdd1Opp write = some next ∧ Represents maxVdd1Opp after next := by
  unfold OverclockTables.step procMpuOppsWrite at taken
  by_cases rejected : write.index < 1 ∨ maxVdd1Opp < write.index.toNat
  · rw [if_pos rejected] at taken
    cases taken
  · rw [if_neg rejected] at taken
    obtain rfl := Option.some.inj taken
    have position : (maxVdd1Opp : Int) - write.index.toNat =
        (Overclock.position maxVdd1Opp write : Nat) := by
      have := (not_or.mp rejected).2
      unfold Overclock.position
      omega
    refine ⟨_, congrArg Except.toOption (if_neg rejected), ?_, ?_⟩
    · show s.freqTable.set _ _ = _
      rw [represents.freqTable, position]
      exact set_map_range FreqEntry.frequency t.freqTable _ _
        { t.freqTable _ with frequency := write.rate / 1000 }
    · show s.mpuOpps.set _ _ = _
      rw [represents.mpuOpps]
      exact set_map_range OppEntry.toOmapOpp t.mpuOpps _ _
        ⟨⟨write.rate, write.vsel, write.vsel⟩, (t.mpuOpps _).oppId⟩

/-- Every run of writes is one of the lists. -/
theorem Represents.exec {s : Overclock} (represents : Represents maxVdd1Opp t s)
    {writes : List OppWrite} {last : OverclockTables}
    (reached : Execution.exec (OverclockTables.step maxVdd1Opp) t writes = some last) :
    ∃ next, Execution.exec (Overclock.step maxVdd1Opp) s writes = some next ∧
      Represents maxVdd1Opp last next := by
  induction writes generalizing t s with
  | nil =>
      rw [exec_nil, Option.some.injEq] at reached
      exact ⟨s, rfl, reached ▸ represents⟩
  | cons write rest ih =>
      obtain ⟨after, taken, reached⟩ := exec_cons_eq_some.mp reached
      obtain ⟨next, listed, still⟩ := represents.step taken
      obtain ⟨final, listedRest, represented⟩ := ih still reached
      exact ⟨final, exec_cons_eq_some.mpr ⟨next, listed, listedRest⟩, represented⟩

/-- The kernel's table lists these frequencies up to its end mark. -/
structure Lists (t : OverclockTables) (frequencies : List U32) : Prop where
  entries : ∀ i : Nat, ∀ freq ∈ frequencies[i]?, (t.freqTable i).frequency = freq
  last : (t.freqTable frequencies.length).frequency = tableEnd

/-- The search ends behind the frequencies, or at the new end mark. -/
theorem Filled.found_eq {loaded : OverclockTables} {found : Nat} {frequencies : List U32}
    (filled : Filled maxVdd1Opp t loaded found) (lists : t.Lists frequencies)
    (terminated : tableEnd ∉ frequencies) :
    found = min maxVdd1Opp frequencies.length := by
  have near := filled.near
  have before : found ≤ frequencies.length :=
    Nat.le_of_not_lt fun beyond => filled.unmarked _ beyond lists.last
  have reached : ¬ (found < maxVdd1Opp ∧ found < frequencies.length) := by
    rintro ⟨room, inside⟩
    have held := lists.entries found _ (List.getElem?_eq_getElem inside)
    rw [filled.marked room] at held
    exact terminated (held ▸ List.getElem_mem inside)
  omega

/-- Every entry is one of those in front of the end mark. -/
theorem Filled.source {loaded : OverclockTables} {found i : Nat}
    (filled : Filled maxVdd1Opp t loaded found) (some : 0 < found) (below : i < maxVdd1Opp) :
    (loaded.freqTable i).frequency = (t.freqTable (min i (found - 1) : Nat)).frequency := by
  rcases Nat.lt_or_ge i found with front | behind
  · rw [filled.kept i front, Nat.min_eq_left (Nat.le_sub_one_of_lt front)]
  · rw [filled.copied i below behind, Nat.min_eq_right (by omega), Nat.cast_sub some, Nat.cast_one]

/-- Loading fills the lists up as it does the tables. -/
theorem Filled.fillUp {loaded : OverclockTables} {found : Nat} {frequencies filledUp : List U32}
    (filled : Filled maxVdd1Opp t loaded found) (lists : t.Lists frequencies)
    (terminated : tableEnd ∉ frequencies)
    (listed : Overclock.fillUp maxVdd1Opp frequencies = some filledUp) :
    filledUp = (List.range maxVdd1Opp).map fun i : Nat => (loaded.freqTable i).frequency := by
  have size := Overclock.length_of_fillUp listed
  have here := filled.found_eq lists terminated
  apply List.ext_getElem
  · rw [size, List.length_map, List.length_range]
  · intro i inside _
    have below : i < maxVdd1Opp := size ▸ inside
    have copy := Overclock.getElem?_of_fillUp listed below
    rw [List.getElem?_eq_getElem inside, ← here] at copy
    have some : 0 < found := by
      have := (List.getElem?_eq_some_iff.mp copy.symm).1
      omega
    rw [List.getElem_map, List.getElem_range, filled.source some below]
    exact (lists.entries _ _ copy.symm).symm

/-- **Loading** the module leaves the lists that represent the tables. -/
theorem overclockInit_represents (table : CpufreqTable) (lists : t.Lists table.frequencies)
    {policyMin policyMax : U32} {stats : CpufreqStats} {s : Overclock} {fuel : Nat}
    (enough : maxVdd1Opp < fuel)
    (listed : Overclock.overclockInit maxVdd1Opp table
      ((List.range (maxVdd1Opp + 1)).map fun i : Nat => (t.mpuOpps i).toOmapOpp) policyMin policyMax
      stats = some s) :
    ∃ loaded, overclockInit maxVdd1Opp fuel t = some loaded ∧ Represents maxVdd1Opp loaded s := by
  obtain ⟨loaded, initially, found, filled⟩ := overclockInit_filled t enough
  obtain ⟨filledUp, filling, rfl⟩ := Option.map_eq_some_iff.mp listed
  refine ⟨loaded, initially, filled.fillUp lists table.terminated filling, ?_⟩
  rw [filled.mpuOpps]

end OverclockTables

end Jordan.Cpufreq
