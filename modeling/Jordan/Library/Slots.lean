import Mathlib.Algebra.GroupWithZero.Nat
import Mathlib.Data.List.Induction

/-! # Arrays that collect distinct keys

An array of blank slots is filled with the distinct keys of a list, in the order
in which they first appear. When there is room for one key more than the list
has, the array holds exactly the keys and the blank.
-/

namespace Slots

variable {Key : Type*}

/-- The slots hold distinct keys followed by blanks. -/
structure Filled (blank : Key) (room : Nat) (keys : List Key) (filled : Nat × List Key) : Prop where
  slots : ∃ distinct : List Key, distinct.length = filled.1 ∧
    filled.2 = distinct ++ List.replicate (room - filled.1) blank
  used : filled.1 ≤ keys.length
  mem_iff (key : Key) : key ∈ filled.2 ↔ key ∈ keys ∨ key = blank

theorem Filled.length {blank : Key} {room : Nat} {keys : List Key} {filled : Nat × List Key}
    (holds : Filled blank room keys filled) (fits : keys.length ≤ room) :
    filled.2.length = room := by
  obtain ⟨distinct, used, slots⟩ := holds.slots
  have := holds.used
  rw [slots, List.length_append, List.length_replicate, used]
  omega

variable [DecidableEq Key]

/-- The first slot that holds the key. -/
def find (slots : List Key) (key : Key) : Option Nat := slots.findIdx? (· = key)

/-- A key is not found exactly if it is in no slot. -/
theorem find_eq_none_iff {slots : List Key} {key : Key} : find slots key = none ↔ key ∉ slots := by
  unfold find
  rw [List.findIdx?_eq_none_iff]
  constructor
  · intro all member
    exact of_decide_eq_false (all key member) rfl
  · intro absent held member
    exact decide_eq_false fun same => absent (same ▸ member)

theorem getElem?_of_find {slots : List Key} {key : Key} {slot : Nat}
    (found : find slots key = some slot) : slots[slot]? = some key := by
  obtain ⟨inside, same, _⟩ := List.findIdx?_eq_some_iff_getElem.mp found
  rw [List.getElem?_eq_getElem inside, of_decide_eq_true same]

/-- Put the key into the next slot, unless a slot holds it. -/
def record (filled : Nat × List Key) (key : Key) : Nat × List Key :=
  if find filled.2 key = none then (filled.1 + 1, filled.2.set filled.1 key) else filled

/-- Record the keys in blank slots; the number of slots in use, and the slots. -/
def fill (blank : Key) (room : Nat) (keys : List Key) : Nat × List Key :=
  keys.foldl record (0, List.replicate room blank)

/-- Recording one more key fills the next slot, while there is room for it. -/
theorem Filled.record {blank : Key} {room : Nat} {keys : List Key} {filled : Nat × List Key}
    (holds : Filled blank room keys filled) {key : Key} (fits : keys.length + 1 < room) :
    Filled blank room (keys ++ [key]) (record filled key) := by
  have used := holds.used
  unfold Slots.record
  split
  next absent =>
    obtain ⟨distinct, length, slots⟩ := holds.slots
    -- at least two slots are blank
    obtain ⟨spare, room_eq⟩ : ∃ spare, room - filled.1 = spare + 2 :=
      ⟨room - filled.1 - 2, by omega⟩
    have rest : room - (filled.1 + 1) = spare + 1 := by omega
    have set : filled.2.set filled.1 key =
        (distinct ++ [key]) ++ List.replicate (spare + 1) blank := by
      rw [slots, List.set_append_right _ _ (by omega), room_eq, length, Nat.sub_self,
        List.replicate_succ, List.set_cons_zero, List.append_assoc, List.singleton_append]
    refine ⟨⟨distinct ++ [key], ?_, ?_⟩, ?_, fun other => ?_⟩
    · rw [List.length_append, List.length_singleton, length]
    · rw [rest]
      exact set
    · rw [List.length_append, List.length_singleton]
      exact Nat.succ_le_succ used
    · have before := holds.mem_iff other
      rw [slots, room_eq, List.mem_append, List.mem_replicate] at before
      simp only [set, List.mem_append, List.mem_singleton, List.mem_replicate]
      tauto
  next present =>
    have member : key ∈ filled.2 := by
      by_contra absent
      exact present (find_eq_none_iff.mpr absent)
    refine ⟨holds.slots, ?_, fun other => ?_⟩
    · rw [List.length_append]
      exact Nat.le_add_right_of_le used
    · rw [holds.mem_iff, List.mem_append, List.mem_singleton]
      constructor
      · rintro (held | blank)
        · exact .inl (.inl held)
        · exact .inr blank
      · rintro ((held | rfl) | blank)
        · exact .inl held
        · exact (holds.mem_iff _).mp member
        · exact .inr blank

/-- Filling leaves at least one blank when there is room for one more key. -/
theorem fill_filled (blank : Key) {room : Nat} {keys : List Key} (fits : keys.length < room) :
    Filled blank room keys (fill blank room keys) := by
  induction keys using List.reverseRecOn with
  | nil =>
      refine ⟨⟨[], rfl, rfl⟩, Nat.le_refl 0, fun key => ?_⟩
      simp only [fill, List.foldl_nil, List.mem_replicate, List.not_mem_nil, false_or]
      exact and_iff_right (Nat.ne_of_gt fits)
  | append_singleton keys key ih =>
      rw [List.length_append, List.length_singleton] at fits
      unfold fill
      rw [List.foldl_append]
      exact (ih (by omega)).record fits

/-- Adding to one slot adds to the sum. -/
theorem sum_modify_add {slots : List Nat} {slot : Nat} (inside : slot < slots.length)
    (amount : Nat) : (slots.modify slot (· + amount)).sum = slots.sum + amount := by
  induction slots generalizing slot with
  | nil => exact absurd inside (Nat.not_lt_zero slot)
  | cons first rest ih =>
      cases slot with
      | zero =>
          rw [List.modify_zero_cons, List.sum_cons, List.sum_cons]
          omega
      | succ slot =>
          rw [List.modify_succ_cons, List.sum_cons, List.sum_cons,
            ih (Nat.lt_of_succ_lt_succ inside)]
          omega

end Slots
