import Mathlib.Data.List.Basic
import Mathlib.Logic.Function.Iterate

/-! # Walks that only a sentinel ends

The loop `for (i = start; !stop(i); i = next(i))` has no bound of its own. It ends
when its body breaks or at the first index that stops it, and needs one turn more
than this index is away (`Walk.run_sentinel`).
-/

namespace Walk

variable {Index State : Type*}

/-- Where a walk ends: the state, the index, and the indices for which the loop has
been entered or left. -/
structure Ended (Index State : Type*) where
  state : State
  index : Index
  visited : List Index

/-- How a walk ends: at some distance, nothing on the way stops it, and either the
sentinel or the body ends it. -/
structure Ends (stop : Index → Prop) (next : Index → Index) (body : State → Index → Option State)
    (i : Index) (distance : ℕ) (ended : Ended Index State) : Prop where
  index : ended.index = next^[distance] i
  going : ∀ before < distance, ¬ stop (next^[before] i)
  visited : ∀ j ∈ ended.visited, ∃ upto ≤ distance, j = next^[upto] i
  reason : stop ended.index ∨ body ended.state ended.index = none

variable {stop : Index → Prop} {next : Index → Index} {body : State → Index → Option State}

/-- A walk that stops at once, or whose body breaks at once, ends where it begins. -/
theorem Ends.here {i : Index} {state : State} (reason : stop i ∨ body state i = none) :
    Ends stop next body i 0 ⟨state, i, [i]⟩ where
  index := rfl
  going := fun before below => absurd below (Nat.not_lt_zero before)
  visited := fun _ member => ⟨0, Nat.le_refl 0, List.mem_singleton.mp member⟩
  reason := reason

/-- A walk that takes a turn ends where the rest of it ends. -/
theorem Ends.turn {i : Index} {distance : ℕ} {ended : Ended Index State} (going : ¬ stop i)
    (ends : Ends stop next body (next i) distance ended) :
    Ends stop next body i (distance + 1) { ended with visited := i :: ended.visited } where
  index := ends.index
  going := by
    intro before below
    cases before with
    | zero => exact going
    | succ before => exact ends.going before (Nat.lt_of_add_lt_add_right below)
  visited := by
    intro j member
    rcases List.mem_cons.mp member with rfl | later
    · exact ⟨0, Nat.zero_le _, rfl⟩
    · obtain ⟨upto, within, rfl⟩ := ends.visited j later
      exact ⟨upto + 1, Nat.add_le_add_right within 1, rfl⟩
  reason := ends.reason

/-- A walk does not pass a sentinel. -/
theorem Ends.distance_le {i : Index} {distance sentinel : ℕ} {ended : Ended Index State}
    (ends : Ends stop next body i distance ended) (stopped : stop (next^[sentinel] i)) :
    distance ≤ sentinel :=
  Nat.le_of_not_lt fun passed => ends.going sentinel passed stopped

variable (stop next body) [DecidablePred stop]

/-- The loop, for a number of turns; `none` is a body that breaks. -/
def run : ℕ → Index → State → Option (Ended Index State)
  | 0, _, _ => none
  | fuel + 1, i, state =>
      if stop i then some ⟨state, i, [i]⟩
      else
        match body state i with
        | none => some ⟨state, i, [i]⟩
        | some later =>
            (run fuel (next i) later).map fun ended =>
              { ended with visited := i :: ended.visited }

variable {stop next body}

theorem run_of_stop {i : Index} (stopped : stop i) (fuel : ℕ) (state : State) :
    run stop next body (fuel + 1) i state = some ⟨state, i, [i]⟩ :=
  if_pos stopped

theorem run_of_break {i : Index} {state : State} (going : ¬ stop i) (broken : body state i = none)
    (fuel : ℕ) : run stop next body (fuel + 1) i state = some ⟨state, i, [i]⟩ := by
  unfold run
  rw [if_neg going, broken]

theorem run_of_turn {i : Index} {state later : State} (going : ¬ stop i)
    (taken : body state i = some later) (fuel : ℕ) :
    run stop next body (fuel + 1) i state =
      (run stop next body fuel (next i) later).map fun ended =>
        { ended with visited := i :: ended.visited } := by
  rw [run, if_neg going, taken]

/-- A walk towards a sentinel ends. -/
theorem run_isSome {i : Index} {distance fuel : ℕ} (stopped : stop (next^[distance] i))
    (enough : distance < fuel) (state : State) : (run stop next body fuel i state).isSome := by
  induction fuel generalizing i distance state with
  | zero => exact absurd enough (Nat.not_lt_zero _)
  | succ fuel ih =>
      by_cases here : stop i
      · rw [run_of_stop here]
        rfl
      · cases taken : body state i with
        | none =>
            rw [run_of_break here taken]
            rfl
        | some later =>
            rw [run_of_turn here taken, Option.isSome_map]
            cases distance with
            | zero => exact absurd stopped here
            | succ distance =>
                have onward : stop (next^[distance] (next i)) := stopped
                exact ih onward (Nat.lt_of_succ_lt_succ enough) later

/-- Every walk that ends does so in this way. -/
theorem run_spec {i : Index} {fuel : ℕ} {state : State} {ended : Ended Index State}
    (ran : run stop next body fuel i state = some ended) :
    ∃ distance, Ends stop next body i distance ended := by
  induction fuel generalizing i state ended with
  | zero => cases ran
  | succ fuel ih =>
      by_cases stopped : stop i
      · rw [run_of_stop stopped, Option.some.injEq] at ran
        exact ran ▸ ⟨0, .here (.inl stopped)⟩
      · cases taken : body state i with
        | none =>
            rw [run_of_break stopped taken, Option.some.injEq] at ran
            exact ran ▸ ⟨0, .here (.inr taken)⟩
        | some later =>
            rw [run_of_turn stopped taken] at ran
            obtain ⟨rest, continued, rfl⟩ := Option.map_eq_some_iff.mp ran
            obtain ⟨distance, ends⟩ := ih continued
            exact ⟨distance + 1, ends.turn stopped⟩

variable (stop next body) in
/-- **A walk towards a sentinel** ends, and does not pass it. -/
theorem run_sentinel {i : Index} {sentinel fuel : ℕ} (stopped : stop (next^[sentinel] i))
    (enough : sentinel < fuel) (state : State) :
    ∃ ended, run stop next body fuel i state = some ended ∧
      ∃ distance ≤ sentinel, Ends stop next body i distance ended := by
  have isSome : (run stop next body fuel i state).isSome := run_isSome stopped enough state
  obtain ⟨ended, ran⟩ := Option.isSome_iff_exists.mp isSome
  obtain ⟨distance, ends⟩ := run_spec ran
  exact ⟨ended, ran, distance, ends.distance_le stopped, ends⟩

/-- What the body keeps holds at the end. -/
theorem run_invariant (holds : State → Prop)
    (kept : ∀ state i later, holds state → body state i = some later → holds later)
    {i : Index} {fuel : ℕ} {state : State} {ended : Ended Index State} (initially : holds state)
    (ran : run stop next body fuel i state = some ended) : holds ended.state := by
  induction fuel generalizing i state ended with
  | zero => cases ran
  | succ fuel ih =>
      by_cases stopped : stop i
      · rw [run_of_stop stopped, Option.some.injEq] at ran
        exact ran ▸ initially
      · cases taken : body state i with
        | none =>
            rw [run_of_break stopped taken, Option.some.injEq] at ran
            exact ran ▸ initially
        | some later =>
            rw [run_of_turn stopped taken] at ran
            obtain ⟨rest, continued, rfl⟩ := Option.map_eq_some_iff.mp ran
            have still := ih (kept state i later initially taken) continued
            exact still

end Walk
