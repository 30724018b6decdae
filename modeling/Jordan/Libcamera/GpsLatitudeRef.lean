import Jordan.Machine
import Mathlib.Logic.Function.Basic

/-! # The GPS latitude reference

`fixUpBrokenGpsLatitudeRef` scans the first 512 bytes of a compressed image for a
marker and repairs the reference behind it. The bound of the scan is `size - 10`, in
`size_t`: below 10 it wraps, and the scan runs on behind the image; from 10 on it
stays inside, but one position short of the last that fits
(`Jordan.Libcamera.gpsFix_iff`).
-/

namespace Jordan.Libcamera

/-- The bytes of a heap, by their distance from its base. -/
abbrev Heap := Int → U8

/-- The heap after some code, and the addresses the code reads or writes. -/
structure Run where
  heap : Heap
  accesses : List Int

/-- `sLatitudeRefMarker` -/
def latitudeRefMarker : List U8 := [0x01, 0x00, 0x02, 0x00, 0x02, 0x00, 0x00, 0x00]

/-- The characters of the references. -/
def charW : U8 := 0x57
def charE : U8 := 0x45
def charN : U8 := 0x4E
def charS : U8 := 0x53

/-- The addresses of some bytes. -/
def addresses (start : Int) (count : Nat) : List Int :=
  (List.range count).map fun k : Nat => start + k

/-- The marker is at an address. -/
def MarkerAt (heap : Heap) (address : Int) : Prop :=
  (addresses address latitudeRefMarker.length).map heap = latitudeRefMarker

instance (heap : Heap) (address : Int) : Decidable (MarkerAt heap address) :=
  inferInstanceAs (Decidable (_ = _))

/-- The repair of the reference at `ref`. The second byte is read only if the first
is one of the two characters. -/
def fixRef (heap : Heap) (ref : Int) : Run :=
  if heap ref = charW ∨ heap ref = charE then
    if heap (ref + 1) = 0 then
      ⟨Function.update heap ref (if heap ref = charW then charN else charS),
        [ref, ref + 1, ref]⟩
    else ⟨heap, [ref, ref + 1]⟩
  else ⟨heap, [ref]⟩

/-- The loop from `i` on, with the iterations that are left up to 512. `memcmp` reads
all bytes of the marker. -/
def scanFrom (heap : Heap) (data : Int) (size : U32) (i : Nat) : Nat → Run
  | 0 => ⟨heap, []⟩
  | left + 1 =>
      if i < (size - 10).toNat then
        let compared := addresses (data + i) latitudeRefMarker.length
        if MarkerAt heap (data + i) then
          let fixed := fixRef heap (data + i + latitudeRefMarker.length)
          ⟨fixed.heap, compared ++ fixed.accesses⟩
        else
          let rest := scanFrom heap data size (i + 1) left
          ⟨rest.heap, compared ++ rest.accesses⟩
      else ⟨heap, []⟩

/-- `fixUpBrokenGpsLatitudeRef`, on a heap with a base. -/
def fixUpBrokenGpsLatitudeRef (heap : Heap) (offset : Int) (size : U32) : Run :=
  scanFrom heap offset size 0 512

/-! ## The law -/

/-- The first marker at a position below 512 that fits with the two bytes after it. -/
structure FirstMarker (heap : Heap) (offset : Int) (size : U32) (i : Nat) : Prop where
  near : i < 512
  fits : i + 10 ≤ size.toNat
  here : MarkerAt heap (offset + i)
  first : ∀ j < i, ¬ MarkerAt heap (offset + (j : Int))

/-- The reference is `"W"` or `"E"`. -/
def BrokenAt (heap : Heap) (ref : Int) : Prop :=
  (heap ref = charW ∨ heap ref = charE) ∧ heap (ref + 1) = 0

/-- The heap with the reference repaired. -/
def repaired (heap : Heap) (ref : Int) : Heap :=
  Function.update heap ref (if heap ref = charW then charN else charS)

/-- Only bytes of the image are accessed, no byte is changed but a broken reference
after the first marker, and a second run changes nothing. -/
structure TouchesOnlyRef (heap : Heap) (offset : Int) (size : U32) : Prop where
  inside : ∀ address ∈ (fixUpBrokenGpsLatitudeRef heap offset size).accesses,
    offset ≤ address ∧ address < offset + size.toNat
  changes : (fixUpBrokenGpsLatitudeRef heap offset size).heap = heap ∨
    ∃ i, FirstMarker heap offset size i ∧ BrokenAt heap (offset + i + 8) ∧
      (fixUpBrokenGpsLatitudeRef heap offset size).heap = repaired heap (offset + i + 8)
  idempotent : (fixUpBrokenGpsLatitudeRef
      (fixUpBrokenGpsLatitudeRef heap offset size).heap offset size).heap =
    (fixUpBrokenGpsLatitudeRef heap offset size).heap

/-- A broken reference after the first marker is repaired. -/
def RepairsRef (heap : Heap) (offset : Int) (size : U32) : Prop :=
  ∀ i, FirstMarker heap offset size i → BrokenAt heap (offset + i + 8) →
    (fixUpBrokenGpsLatitudeRef heap offset size).heap = repaired heap (offset + i + 8)

/-- The scan stays inside an image: it has 10 bytes, or it has 9 and starts with the
marker and a reference that is not looked at further. -/
def ScanInside (heap : Heap) (offset : Int) (size : U32) : Prop :=
  10 ≤ size.toNat ∨
    size.toNat = 9 ∧ MarkerAt heap offset ∧
      ¬ (heap (offset + 8) = charW ∨ heap (offset + 8) = charE)

/-- The first marker is at the last position that fits, and its reference broken. -/
def LastPosition (heap : Heap) (offset : Int) (size : U32) : Prop :=
  ∃ i, FirstMarker heap offset size i ∧ BrokenAt heap (offset + i + 8) ∧ i + 10 = size.toNat

/-! ## The scan -/

variable {heap : Heap} {data : Int} {size : U32}

/-- The addresses are those from the start, as many as counted. -/
theorem mem_addresses {start address : Int} {count : Nat} :
    address ∈ addresses start count ↔ start ≤ address ∧ address < start + count := by
  simp only [addresses, List.mem_map, List.mem_range]
  constructor
  · rintro ⟨k, inside, rfl⟩
    omega
  · intro inside
    exact ⟨(address - start).toNat, by omega, by omega⟩

/-- An address is compared with the marker at a position between two. -/
def Compared (data : Int) (start stop : Nat) (address : Int) : Prop :=
  ∃ k : Nat, start ≤ k ∧ k < stop ∧ data + k ≤ address ∧ address < data + k + 8

/-- A scan compares the bytes of its first position and those that the rest compares. -/
theorem compared_cons {start stop : Nat} (begins : start < stop) {address : Int} :
    Compared data start stop address ↔
      address ∈ addresses (data + start) latitudeRefMarker.length ∨
        Compared data (start + 1) stop address := by
  rw [mem_addresses]
  constructor
  · rintro ⟨k, from_start, before, inside⟩
    rcases Nat.eq_or_lt_of_le from_start with rfl | later
    · exact .inl inside
    · exact .inr ⟨k, later, before, inside⟩
  · rintro (inside | ⟨k, later, before, inside⟩)
    · exact ⟨start, Nat.le_refl _, begins, inside⟩
    · exact ⟨k, Nat.le_of_succ_le later, before, inside⟩

/-- The scan of the positions from `start` up to `stop` ends at a marker. -/
structure Found (heap : Heap) (data : Int) (start stop : Nat) (run : Run) (i : Nat) : Prop where
  from_start : start ≤ i
  before : i < stop
  here : MarkerAt heap (data + i)
  first : ∀ j, start ≤ j → j < i → ¬ MarkerAt heap (data + (j : Int))
  heap_eq : run.heap = (fixRef heap (data + i + 8)).heap
  accesses : ∀ address, address ∈ run.accesses ↔
    Compared data start (i + 1) address ∨ address ∈ (fixRef heap (data + i + 8)).accesses

/-- The scan finds no marker. -/
structure Absent (heap : Heap) (data : Int) (start stop : Nat) (run : Run) : Prop where
  none : ∀ j, start ≤ j → j < stop → ¬ MarkerAt heap (data + (j : Int))
  heap_eq : run.heap = heap
  accesses : ∀ address, address ∈ run.accesses ↔ Compared data start stop address

variable {run : Run} {start stop : Nat}

/-- Without positions there is no marker. -/
theorem Absent.empty (ended : stop ≤ start) : Absent heap data start stop ⟨heap, []⟩ where
  none := fun j _ _ => by omega
  heap_eq := rfl
  accesses := by
    intro address
    constructor
    · intro member
      exact absurd member List.not_mem_nil
    · rintro ⟨k, from_start, before, _⟩
      omega

/-- A marker at the first position ends the scan. -/
theorem Found.first_position (begins : start < stop) (here : MarkerAt heap (data + start)) :
    Found heap data start stop
      ⟨(fixRef heap (data + start + 8)).heap,
        addresses (data + start) latitudeRefMarker.length ++
          (fixRef heap (data + start + 8)).accesses⟩ start where
  from_start := Nat.le_refl start
  before := begins
  here := here
  first := fun j _ _ => by omega
  heap_eq := rfl
  accesses := by
    intro address
    rw [List.mem_append, compared_cons (Nat.lt_succ_self start)]
    refine or_congr_left (or_iff_left ?_).symm
    rintro ⟨k, later, before, _⟩
    omega

/-- Without a marker at the first position, there is none at a position if there is
none behind the first. -/
theorem not_markerAt_cons (missing : ¬ MarkerAt heap (data + start)) {j : Nat}
    (from_start : start ≤ j) (later : start + 1 ≤ j → ¬ MarkerAt heap (data + (j : Int))) :
    ¬ MarkerAt heap (data + (j : Int)) := by
  rcases Nat.eq_or_lt_of_le from_start with rfl | behind
  · exact missing
  · exact later behind

/-- Without a marker at the first position, the scan goes on. -/
theorem Found.cons (missing : ¬ MarkerAt heap (data + start)) {j : Nat}
    (found : Found heap data (start + 1) stop run j) :
    Found heap data start stop
      ⟨run.heap, addresses (data + start) latitudeRefMarker.length ++ run.accesses⟩ j where
  from_start := Nat.le_of_succ_le found.from_start
  before := found.before
  here := found.here
  first := fun k from_start before =>
    not_markerAt_cons missing from_start fun later => found.first k later before
  heap_eq := found.heap_eq
  accesses := by
    intro address
    have after : start + 1 ≤ j := found.from_start
    rw [List.mem_append, found.accesses, compared_cons (show start < j + 1 by omega), or_assoc]

/-- A scan finds no marker if its first position has none and the rest finds none. -/
theorem Absent.cons (missing : ¬ MarkerAt heap (data + start)) (begins : start < stop)
    (absent : Absent heap data (start + 1) stop run) :
    Absent heap data start stop
      ⟨run.heap, addresses (data + start) latitudeRefMarker.length ++ run.accesses⟩ where
  none := fun k from_start before =>
    not_markerAt_cons missing from_start fun later => absent.none k later before
  heap_eq := absent.heap_eq
  accesses := by
    intro address
    rw [List.mem_append, absent.accesses, compared_cons begins]

/-- The loop scans the positions below both bounds. -/
theorem scanFrom_cases (left i : Nat) :
    (∃ j, Found heap data i (min (i + left) (size - 10).toNat)
        (scanFrom heap data size i left) j) ∨
      Absent heap data i (min (i + left) (size - 10).toNat) (scanFrom heap data size i left) := by
  induction left generalizing i with
  | zero => exact .inr (.empty (by omega))
  | succ left ih =>
      by_cases bound : i < (size - 10).toNat
      · have begins : i < min (i + (left + 1)) (size - 10).toNat := by omega
        by_cases here : MarkerAt heap (data + i)
        · have ran : scanFrom heap data size i (left + 1) =
              ⟨(fixRef heap (data + i + 8)).heap,
                addresses (data + i) latitudeRefMarker.length ++
                  (fixRef heap (data + i + 8)).accesses⟩ := by
            simp only [scanFrom, bound, here, ↓reduceIte]
            rfl
          rw [ran]
          exact .inl ⟨i, .first_position begins here⟩
        · have ran : scanFrom heap data size i (left + 1) =
              ⟨(scanFrom heap data size (i + 1) left).heap,
                addresses (data + i) latitudeRefMarker.length ++
                  (scanFrom heap data size (i + 1) left).accesses⟩ := by
            simp only [scanFrom, bound, here, ↓reduceIte]
          have same : i + 1 + left = i + (left + 1) := by omega
          have rest := ih (i + 1)
          rw [same] at rest
          rw [ran]
          rcases rest with ⟨j, found⟩ | absent
          · exact .inl ⟨j, found.cons here⟩
          · exact .inr (absent.cons here begins)
      · have ran : scanFrom heap data size i (left + 1) = ⟨heap, []⟩ := by
          simp only [scanFrom, bound, ↓reduceIte]
        rw [ran]
        exact .inr (.empty (by omega))

/-! ## The repair -/

section Repair

variable {ref : Int}

/-- A broken reference is repaired. -/
theorem fixRef_of_broken (broken : BrokenAt heap ref) :
    (fixRef heap ref).heap = repaired heap ref := by
  simp only [fixRef, broken.1, broken.2, ↓reduceIte]
  rfl

/-- A reference that is not broken is left. -/
theorem fixRef_of_not_broken (sound : ¬ BrokenAt heap ref) : (fixRef heap ref).heap = heap := by
  by_cases letter : heap ref = charW ∨ heap ref = charE
  · have goesOn : heap (ref + 1) ≠ 0 := fun ended => sound ⟨letter, ended⟩
    simp only [fixRef, letter, goesOn, ↓reduceIte]
  · simp only [fixRef, letter, ↓reduceIte]

/-- The repair reads the first byte of the reference. -/
theorem ref_mem_accesses : ref ∈ (fixRef heap ref).accesses := by
  unfold fixRef
  split_ifs <;> exact List.mem_cons_self

/-- The repair reads the second byte only behind `W` or `E`. -/
theorem mem_fixRef_accesses {address : Int} (member : address ∈ (fixRef heap ref).accesses) :
    address = ref ∨ (heap ref = charW ∨ heap ref = charE) ∧ address = ref + 1 := by
  by_cases letter : heap ref = charW ∨ heap ref = charE
  · simp only [fixRef, letter, ↓reduceIte] at member
    refine or_iff_not_imp_left.mpr fun other => ⟨letter, ?_⟩
    split at member
    · simpa [other] using member
    · simpa [other] using member
  · simp only [fixRef, letter, ↓reduceIte, List.mem_singleton] at member
    exact .inl member

/-- Behind `W` or `E` the repair reads the second byte. -/
theorem next_mem_accesses (letter : heap ref = charW ∨ heap ref = charE) :
    ref + 1 ∈ (fixRef heap ref).accesses := by
  unfold fixRef
  rw [if_pos letter]
  split_ifs <;> simp

/-- A repaired reference begins with `N` or `S`. -/
theorem repaired_ref : repaired heap ref ref = charN ∨ repaired heap ref ref = charS := by
  unfold repaired
  rw [Function.update_self]
  split_ifs
  · exact .inl rfl
  · exact .inr rfl

/-- A repaired reference is not broken any more. -/
theorem not_broken_repaired : ¬ BrokenAt (repaired heap ref) ref := by
  rintro ⟨letter, _⟩
  have letters : repaired heap ref ref = charN ∨ repaired heap ref ref = charS := repaired_ref
  rcases letters with same | same
  · rw [same] at letter
    exact absurd letter (by decide)
  · rw [same] at letter
    exact absurd letter (by decide)

/-- No byte of a marker is one of the four characters. -/
theorem not_mem_of_markerAt {address : Int} (here : MarkerAt heap address)
    (character : heap ref = charW ∨ heap ref = charE ∨ heap ref = charN ∨ heap ref = charS) :
    ref ∉ addresses address latitudeRefMarker.length := by
  intro inside
  have byte : heap ref ∈ latitudeRefMarker := by
    rw [← here]
    exact List.mem_map_of_mem inside
  rcases character with same | same | same | same
  all_goals
    rw [same] at byte
    exact absurd byte (by decide)

/-- A repair makes no marker and breaks none. -/
theorem markerAt_repaired_iff (broken : BrokenAt heap ref) {address : Int} :
    MarkerAt (repaired heap ref) address ↔ MarkerAt heap address := by
  have same (outside : ref ∉ addresses address latitudeRefMarker.length) :
      (addresses address latitudeRefMarker.length).map (repaired heap ref) =
        (addresses address latitudeRefMarker.length).map heap :=
    List.map_congr_left fun other inside => by
      have apart : other ≠ ref := fun equal => outside (equal ▸ inside)
      exact Function.update_of_ne apart ..
  constructor
  · intro here
    have outside := not_mem_of_markerAt here (.inr (.inr repaired_ref))
    exact (same outside).symm.trans here
  · intro here
    have outside := not_mem_of_markerAt here (broken.1.imp_right .inl)
    exact (same outside).trans here

end Repair

/-! ## The whole function -/

variable {offset : Int}

/-- The bound of the scan. -/
theorem toNat_bound (size : U32) : (size - 10).toNat =
    if 10 ≤ size.toNat then size.toNat - 10 else 2 ^ 32 + size.toNat - 10 := by
  split <;> bv_omega

/-- The scan of the function. -/
theorem fixUp_cases (heap : Heap) (offset : Int) (size : U32) :
    (∃ i, Found heap offset 0 (min 512 (size - 10).toNat)
        (fixUpBrokenGpsLatitudeRef heap offset size) i) ∨
      Absent heap offset 0 (min 512 (size - 10).toNat)
        (fixUpBrokenGpsLatitudeRef heap offset size) :=
  scanFrom_cases 512 0

/-- Two first markers are at one position. -/
theorem first_unique {i j : Nat} (here : MarkerAt heap (offset + i))
    (first : ∀ k < i, ¬ MarkerAt heap (offset + (k : Int))) (hereToo : MarkerAt heap (offset + j))
    (firstToo : ∀ k < j, ¬ MarkerAt heap (offset + (k : Int))) : i = j := by
  rcases Nat.lt_trichotomy i j with before | same | after
  · exact absurd here (firstToo i before)
  · exact same
  · exact absurd hereToo (first j after)

/-- A scan that finds a marker in an image of 10 bytes or more stays inside. -/
theorem Found.inside {i : Nat} (large : 10 ≤ size.toNat)
    (found : Found heap offset 0 (min 512 (size - 10).toNat) run i) {address : Int}
    (member : address ∈ run.accesses) : offset ≤ address ∧ address < offset + size.toNat := by
  have bound := toNat_bound size
  have before := found.before
  rw [if_pos large] at bound
  rcases (found.accesses address).mp member with ⟨k, _, upTo, low, high⟩ | fixed
  · omega
  · rcases mem_fixRef_accesses fixed with rfl | ⟨_, rfl⟩ <;> omega

/-- In a smaller image, it does so only for the marker in front of one last byte. -/
theorem Found.inside_iff {i : Nat} (small : ¬ 10 ≤ size.toNat)
    (found : Found heap offset 0 (min 512 (size - 10).toNat) run i) :
    (∀ address ∈ run.accesses, offset ≤ address ∧ address < offset + size.toNat) ↔
      ScanInside heap offset size := by
  constructor
  · intro inside
    have refInside := inside _ ((found.accesses _).mpr (.inr ref_mem_accesses))
    have start : i = 0 := by omega
    subst start
    have here := found.here
    rw [Nat.cast_zero, Int.add_zero] at here
    refine .inr ⟨by omega, here, fun letter => ?_⟩
    rw [← Int.add_zero offset] at letter
    have nextInside := inside _ ((found.accesses _).mpr (.inr (next_mem_accesses letter)))
    omega
  · rintro (wide | ⟨nine, here, noLetter⟩) address member
    · exact absurd wide small
    have start : i = 0 := by
      by_contra later
      refine found.first 0 (Nat.le_refl 0) (Nat.pos_of_ne_zero later) ?_
      rwa [Nat.cast_zero, Int.add_zero]
    subst start
    rcases (found.accesses address).mp member with ⟨k, _, upTo, low, high⟩ | fixed
    · omega
    · rcases mem_fixRef_accesses fixed with rfl | ⟨letter, _⟩
      · omega
      · rw [Nat.cast_zero, Int.add_zero] at letter
        exact absurd letter noLetter

/-- Without a marker, the scan stays inside an image of 10 bytes or more, and runs to
the end of its 512 bytes otherwise. -/
theorem Absent.inside_iff (absent : Absent heap offset 0 (min 512 (size - 10).toNat) run) :
    (∀ address ∈ run.accesses, offset ≤ address ∧ address < offset + size.toNat) ↔
      ScanInside heap offset size := by
  have bound := toNat_bound size
  by_cases large : 10 ≤ size.toNat
  · refine iff_of_true (fun address member => ?_) (.inl large)
    rw [if_pos large] at bound
    obtain ⟨k, _, upTo, low, high⟩ := (absent.accesses address).mp member
    omega
  · rw [if_neg large] at bound
    refine iff_of_false (fun inside => ?_) ?_
    · have behind := inside (offset + 511)
        ((absent.accesses _).mpr ⟨511, by omega, by omega, by omega, by omega⟩)
      omega
    · rintro (wide | ⟨_, here, _⟩)
      · exact large wide
      · refine absent.none 0 (Nat.le_refl 0) (by omega) ?_
        rwa [Nat.cast_zero, Int.add_zero]

/-- The accesses are inside the image exactly when the scan is. -/
theorem inside_iff :
    (∀ address ∈ (fixUpBrokenGpsLatitudeRef heap offset size).accesses,
        offset ≤ address ∧ address < offset + size.toNat) ↔ ScanInside heap offset size := by
  rcases fixUp_cases heap offset size with ⟨i, found⟩ | absent
  · by_cases large : 10 ≤ size.toNat
    · exact iff_of_true (fun _ member => found.inside large member) (.inl large)
    · exact found.inside_iff large
  · exact absent.inside_iff

/-- Inside the image, only a broken reference after the first marker is changed. -/
theorem changes_of_inside (scans : ScanInside heap offset size) :
    (fixUpBrokenGpsLatitudeRef heap offset size).heap = heap ∨
      ∃ i, FirstMarker heap offset size i ∧ BrokenAt heap (offset + i + 8) ∧
        (fixUpBrokenGpsLatitudeRef heap offset size).heap = repaired heap (offset + i + 8) := by
  have bound := toNat_bound size
  rcases fixUp_cases heap offset size with ⟨i, found⟩ | absent
  · have before := found.before
    by_cases broken : BrokenAt heap (offset + i + 8)
    · have first (j : Nat) (lower : j < i) : ¬ MarkerAt heap (offset + (j : Int)) :=
        found.first j (Nat.zero_le j) lower
      have fits : i + 10 ≤ size.toNat := by
        rcases scans with large | ⟨nine, here, noLetter⟩
        · rw [if_pos large] at bound
          omega
        · rw [← Int.add_zero offset, ← Nat.cast_zero] at here
          obtain rfl := first_unique found.here first here nofun
          rw [Nat.cast_zero, Int.add_zero] at broken
          exact absurd broken.1 noLetter
      exact .inr ⟨i, ⟨by omega, fits, found.here, first⟩, broken,
        found.heap_eq.trans (fixRef_of_broken broken)⟩
    · exact .inl (found.heap_eq.trans (fixRef_of_not_broken broken))
  · exact .inl absent.heap_eq

/-- A second run changes nothing, whatever the size. -/
theorem fixUp_idempotent (heap : Heap) (offset : Int) (size : U32) :
    (fixUpBrokenGpsLatitudeRef (fixUpBrokenGpsLatitudeRef heap offset size).heap offset
      size).heap = (fixUpBrokenGpsLatitudeRef heap offset size).heap := by
  rcases fixUp_cases heap offset size with ⟨i, found⟩ | absent
  · by_cases broken : BrokenAt heap (offset + i + 8)
    · rw [found.heap_eq, fixRef_of_broken broken]
      rcases fixUp_cases (repaired heap (offset + i + 8)) offset size with ⟨j, again⟩ | absent
      · have same : i = j := by
          refine first_unique found.here (fun k lower => found.first k (Nat.zero_le k) lower)
            ((markerAt_repaired_iff broken).mp again.here) fun k lower here => ?_
          exact again.first k (Nat.zero_le k) lower ((markerAt_repaired_iff broken).mpr here)
        subst same
        rw [again.heap_eq, fixRef_of_not_broken not_broken_repaired]
      · exact absent.heap_eq
    · rw [found.heap_eq, fixRef_of_not_broken broken, found.heap_eq, fixRef_of_not_broken broken]
  · rw [absent.heap_eq, absent.heap_eq]

/-- The scan misses a broken reference at the last position only. -/
theorem repairs_iff : RepairsRef heap offset size ↔ ¬ LastPosition heap offset size := by
  have bound := toNat_bound size
  constructor
  · rintro repairs ⟨i, first, broken, last⟩
    have result := repairs i first broken
    rw [if_pos (by omega)] at bound
    rcases fixUp_cases heap offset size with ⟨j, found⟩ | absent
    · have before := found.before
      exact first.first j (by omega) found.here
    · rw [absent.heap_eq] at result
      exact not_broken_repaired (result ▸ broken)
  · intro notLast i first broken
    have fits := first.fits
    have near := first.near
    have inner : i + 10 ≠ size.toNat := fun last => notLast ⟨i, first, broken, last⟩
    rw [if_pos (by omega)] at bound
    rcases fixUp_cases heap offset size with ⟨j, found⟩ | absent
    · obtain rfl := first_unique first.here first.first found.here
        fun k lower => found.first k (Nat.zero_le k) lower
      rw [found.heap_eq, fixRef_of_broken broken]
    · exact absurd first.here (absent.none i (Nat.zero_le i) (by omega))

/-- **The fix-up touches only what it should exactly when its scan stays inside the
image**, and then repairs every broken reference but one at the last position. -/
theorem gpsFix_iff (heap : Heap) (offset : Int) (size : U32) :
    (TouchesOnlyRef heap offset size ↔ ScanInside heap offset size) ∧
      (TouchesOnlyRef heap offset size ∧ RepairsRef heap offset size ↔
        ScanInside heap offset size ∧ ¬ LastPosition heap offset size) := by
  have touches : TouchesOnlyRef heap offset size ↔ ScanInside heap offset size := by
    constructor
    · exact fun law => inside_iff.mp law.inside
    · exact fun scans => ⟨inside_iff.mpr scans, changes_of_inside scans,
        fixUp_idempotent heap offset size⟩
  refine ⟨touches, ?_⟩
  rw [touches]
  exact and_congr_right fun _ => repairs_iff

/-- Of an empty image, the bytes behind it are read. -/
theorem gpsFix_empty : ¬ ∀ (heap : Heap) (offset : Int) (size : U32),
    TouchesOnlyRef heap offset size := by
  intro always
  rcases inside_iff.mp (always (fun _ => 0) 0 0).inside with large | ⟨nine, _⟩
  · exact absurd large (by decide)
  · exact absurd nine (by decide)

end Jordan.Libcamera
