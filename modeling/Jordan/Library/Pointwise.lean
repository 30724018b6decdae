import Mathlib.Logic.Function.Basic
import Mathlib.Data.List.Basic

/-! # Loops that change a family entry by entry

A loop over a list of indices changes the entry of each index by an idempotent
operation. After it every entry of the list is changed, whatever the order and
however often an index occurs (`Pointwise.changeAll_cons`).
-/

namespace Pointwise

variable {Index Value : Type*} [DecidableEq Index]

/-- The entries of the indices are changed. -/
def changeAll (change : Index → Value → Value) (indices : List Index) (values : Index → Value) :
    Index → Value :=
  fun i => if i ∈ indices then change i (values i) else values i

variable {change : Index → Value → Value} {indices : List Index} {values : Index → Value}

/-- What is in the list is changed. -/
theorem changeAll_of_mem {i : Index} (member : i ∈ indices) :
    changeAll change indices values i = change i (values i) :=
  if_pos member

/-- What is not in the list stays. -/
theorem changeAll_of_notMem {i : Index} (outside : i ∉ indices) :
    changeAll change indices values i = values i :=
  if_neg outside

@[simp] theorem changeAll_nil : changeAll change [] values = values :=
  funext fun _ => changeAll_of_notMem List.not_mem_nil

/-- The first turn of the loop, and the others. -/
theorem changeAll_cons (idempotent : ∀ i value, change i (change i value) = change i value)
    (first : Index) (rest : List Index) :
    changeAll change (first :: rest) values =
      changeAll change rest (Function.update values first (change first (values first))) := by
  funext i
  by_cases same : i = first
  · subst same
    rw [changeAll_of_mem List.mem_cons_self]
    by_cases again : i ∈ rest
    · rw [changeAll_of_mem again, Function.update_self, idempotent]
    · rw [changeAll_of_notMem again, Function.update_self]
  · have others : i ∈ first :: rest ↔ i ∈ rest := by
      rw [List.mem_cons, or_iff_right same]
    by_cases later : i ∈ rest
    · rw [changeAll_of_mem (others.mpr later), changeAll_of_mem later, Function.update_of_ne same]
    · rw [changeAll_of_notMem (mt others.mp later), changeAll_of_notMem later,
        Function.update_of_ne same]

/-- A property that the operation establishes, and one of all entries. -/
theorem changeAll_forall (property : Index → Value → Prop) (kept : ∀ i, property i (values i))
    (changed : ∀ i value, property i value → property i (change i value)) (i : Index) :
    property i (changeAll change indices values i) := by
  by_cases member : i ∈ indices
  · rw [changeAll_of_mem member]
    exact changed i _ (kept i)
  · rw [changeAll_of_notMem member]
    exact kept i

end Pointwise
