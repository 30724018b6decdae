import Mathlib.Data.Finset.Card

/-! # A hook that several holders share

The first of several holders installs a hook, and the last one removes it. Which is the
last one is told by a counter: a release removes the hook when the count that is left is
at most some limit. With the limit 0 the hook is there exactly while somebody holds it;
with a greater one a release can remove it from the others
(`SharedHook.Hook.Balanced.release_iff`).
-/

namespace SharedHook

/-- Who holds the hook, the counter, and whether the hook is installed. -/
structure Hook (Member : Type*) where
  holders : Finset Member
  count : Nat
  installed : Bool

namespace Hook

variable {Member : Type*}

/-- The count is the number of the holders, and the hook is there while there are any. -/
structure Balanced (hook : Hook Member) : Prop where
  count : hook.count = hook.holders.card
  installed : hook.installed = true ↔ hook.holders.Nonempty

variable {hook : Hook Member} {member : Member}

theorem balanced_empty : Balanced (⟨∅, 0, false⟩ : Hook Member) where
  count := rfl
  installed := iff_of_false Bool.false_ne_true Finset.not_nonempty_empty

/-- The count tells whether the holder is the first one. -/
theorem Balanced.first_iff (balanced : hook.Balanced) :
    hook.count + 1 ≤ 1 ↔ ¬ hook.holders.Nonempty := by
  rw [balanced.count, Finset.not_nonempty_iff_eq_empty, ← Finset.card_eq_zero]
  omega

variable [DecidableEq Member]

/-- The count is incremented; the first holder installs the hook. -/
def acquire (hook : Hook Member) (member : Member) : Hook Member where
  holders := insert member hook.holders
  count := hook.count + 1
  installed := if hook.count + 1 ≤ 1 then true else hook.installed

/-- The count is decremented; the hook is removed when at most the limit is left. -/
def release (limit : Nat) (hook : Hook Member) (member : Member) : Hook Member where
  holders := hook.holders.erase member
  count := hook.count - 1
  installed := if hook.count - 1 ≤ limit then false else hook.installed

/-- A fresh member can acquire a balanced hook. -/
theorem Balanced.acquire (balanced : hook.Balanced) (fresh : member ∉ hook.holders) :
    (hook.acquire member).Balanced where
  count := by
    rw [Hook.acquire, Finset.card_insert_of_notMem fresh, balanced.count]
  installed := by
    refine iff_of_true ?_ (Finset.insert_nonempty member hook.holders)
    by_cases first : hook.count + 1 ≤ 1
    · exact if_pos first
    · exact (if_neg first).trans
        (balanced.installed.mpr (not_not.mp (mt balanced.first_iff.mpr first)))

/-- **A release is right** when it is that of the only holder, or more holders than the
limit are left. -/
theorem Balanced.release_iff (balanced : hook.Balanced) (holds : member ∈ hook.holders)
    (limit : Nat) :
    (hook.release limit member).Balanced ↔
      hook.holders.card = 1 ∨ limit + 1 < hook.holders.card := by
  have present : hook.installed = true := balanced.installed.mpr ⟨member, holds⟩
  have positive : 0 < hook.holders.card := Finset.card_pos.mpr ⟨member, holds⟩
  have card : (hook.holders.erase member).card = hook.holders.card - 1 :=
    Finset.card_erase_of_mem holds
  have installed_iff : (hook.release limit member).installed = true ↔
      ¬ hook.holders.card - 1 ≤ limit := by
    simp only [release, balanced.count, present, Bool.if_false_left, Bool.and_true,
      Bool.not_eq_true', decide_eq_false_iff_not]
  have left_iff : (hook.release limit member).holders.Nonempty ↔ 1 < hook.holders.card := by
    rw [release, ← Finset.card_pos, card]
    omega
  constructor
  · intro after
    have same := after.installed
    rw [installed_iff, left_iff] at same
    omega
  · intro right
    refine ⟨?_, ?_⟩
    · rw [release, balanced.count, card]
    · rw [installed_iff, left_iff]
      omega

/-- With the limit 0 every release is right. -/
theorem Balanced.release_zero (balanced : hook.Balanced) (holds : member ∈ hook.holders) :
    (hook.release 0 member).Balanced := by
  have positive : 0 < hook.holders.card := Finset.card_pos.mpr ⟨member, holds⟩
  exact (balanced.release_iff holds 0).mpr (by omega)

end Hook

end SharedHook
