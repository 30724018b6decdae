import Mathlib.Data.Nat.Notation
import Mathlib.Order.Basic

/-! # Bounded retries

The loop `do … while (!done && ++i < limit)` makes attempts until one is done, but
not more than the limit. The last attempt is done exactly when one of the attempts
that are allowed would be (`Retry.done_last_iff`).
-/

namespace Retry

variable {Result : Type*} (attempt : ℕ → Result) (done : Result → Prop) [DecidablePred done]

/-- The number of the last attempt, when the loop starts with attempt `i` and may
go on with `left` more. -/
def last (i : ℕ) : ℕ → ℕ
  | 0 => i
  | left + 1 => if done (attempt i) then i else last (i + 1) left

theorem last_bounds (i left : ℕ) :
    i ≤ last attempt done i left ∧ last attempt done i left ≤ i + left := by
  induction left generalizing i with
  | zero => exact ⟨Nat.le_refl i, Nat.le_refl i⟩
  | succ left ih =>
      unfold last
      by_cases here : done (attempt i)
      · rw [if_pos here]
        omega
      · rw [if_neg here]
        have later := ih (i + 1)
        omega

/-- An attempt that is not the last one was not done. -/
theorem not_done_of_lt_last {i left j : ℕ} (made : i ≤ j) (before : j < last attempt done i left) :
    ¬ done (attempt j) := by
  induction left generalizing i with
  | zero => exact absurd before (Nat.not_lt_of_le made)
  | succ left ih =>
      unfold last at before
      by_cases here : done (attempt i)
      · rw [if_pos here] at before
        exact absurd before (Nat.not_lt_of_le made)
      · rw [if_neg here] at before
        rcases Nat.eq_or_lt_of_le made with rfl | later
        · exact here
        · exact ih later before

/-- The loop ends with an attempt that is done, or at the limit. -/
theorem done_last_or (i left : ℕ) :
    done (attempt (last attempt done i left)) ∨ last attempt done i left = i + left := by
  induction left generalizing i with
  | zero => exact .inr rfl
  | succ left ih =>
      unfold last
      by_cases here : done (attempt i)
      · rw [if_pos here]
        exact .inl here
      · rw [if_neg here]
        exact (ih (i + 1)).imp_right fun limit => limit.trans (by omega)

/-- **Retrying succeeds** exactly when an attempt that is allowed does. -/
theorem done_last_iff (i left : ℕ) :
    done (attempt (last attempt done i left)) ↔ ∃ j, i ≤ j ∧ j ≤ i + left ∧ done (attempt j) := by
  obtain ⟨above, below⟩ := last_bounds attempt done i left
  constructor
  · exact fun succeeded => ⟨_, above, below, succeeded⟩
  · rintro ⟨j, made, allowed, succeeded⟩
    rcases done_last_or attempt done i left with stopped | limit
    · exact stopped
    · rcases Nat.lt_or_ge j (last attempt done i left) with earlier | final
      · exact absurd succeeded (not_done_of_lt_last attempt done made earlier)
      · rwa [Nat.le_antisymm final (limit ▸ allowed)]

/-- Retrying from the first attempt on, with a limit. -/
theorem done_last_zero_iff {limit : ℕ} (positive : 0 < limit) :
    done (attempt (last attempt done 0 (limit - 1))) ↔ ∃ j < limit, done (attempt j) := by
  rw [done_last_iff attempt done]
  constructor
  · rintro ⟨j, -, allowed, succeeded⟩
    exact ⟨j, by omega, succeeded⟩
  · rintro ⟨j, allowed, succeeded⟩
    exact ⟨j, Nat.zero_le j, by omega, succeeded⟩

/-- An attempt that was made and is done is the last one. -/
theorem eq_last_of_done {i left j : ℕ} (made : i ≤ j) (upto : j ≤ last attempt done i left)
    (succeeded : done (attempt j)) : j = last attempt done i left := by
  rcases Nat.eq_or_lt_of_le upto with same | earlier
  · exact same
  · exact absurd succeeded (not_done_of_lt_last attempt done made earlier)

end Retry
