import Mathlib.Data.List.Basic

/-! # Neighbours in a list

The node before a node of a list, and the node behind it. In a list without duplicates
the two are inverse (`Neighbours.previous_iff_following`), and a node whose follower is
taken out is followed by what was behind that one (`Neighbours.following_erase`).
-/

namespace Neighbours

variable {Node : Type*} [DecidableEq Node]

/-- The node before a node; there is none before the head. -/
def previous (node : Node) : List Node → Option Node
  | first :: second :: rest => if second = node then some first else previous node (second :: rest)
  | [_] | [] => none

/-- The node behind a node; there is none behind the last one. -/
def following (node : Node) : List Node → Option Node
  | first :: rest => if first = node then rest.head? else following node rest
  | [] => none

variable {node next : Node} {left right list : List Node}

theorem following_of_notMem (absent : node ∉ list) : following node list = none := by
  induction list with
  | nil => rfl
  | cons first rest ih =>
      obtain ⟨different, absent⟩ := List.ne_and_not_mem_of_not_mem_cons absent
      rw [following, if_neg (Ne.symm different)]
      exact ih absent

theorem following_of_split (absent : node ∉ left) :
    following node (left ++ node :: right) = right.head? := by
  induction left with
  | nil => exact if_pos rfl
  | cons first rest ih =>
      obtain ⟨different, absent⟩ := List.ne_and_not_mem_of_not_mem_cons absent
      rw [List.cons_append, following, if_neg (Ne.symm different)]
      exact ih absent

theorem previous_of_notMem_tail (absent : node ∉ list.tail) : previous node list = none := by
  induction list with
  | nil => rfl
  | cons first rest ih =>
      cases rest with
      | nil => rfl
      | cons second rest =>
          obtain ⟨different, behind⟩ := List.ne_and_not_mem_of_not_mem_cons absent
          rw [previous, if_neg (Ne.symm different)]
          exact ih behind

/-- In front of a node comes the last of what is in front of it. -/
theorem previous_of_split (distinct : (left ++ node :: right).Nodup) :
    previous node (left ++ node :: right) = left.getLast? := by
  induction left with
  | nil => exact previous_of_notMem_tail (List.nodup_cons.mp distinct).1
  | cons first rest ih =>
      have later := (List.nodup_cons.mp distinct).2
      cases rest with
      | nil => exact if_pos rfl
      | cons second rest =>
          have different : second ≠ node := by
            rintro rfl
            exact (List.nodup_cons.mp later).1 (List.mem_append_right rest List.mem_cons_self)
          have shorter := ih later
          rw [List.cons_append] at shorter
          rw [List.cons_append, List.cons_append, previous, if_neg different, shorter,
            List.getLast?_cons_cons]

omit [DecidableEq Node] in
/-- In a list without duplicates nothing before a node is the node. -/
theorem notMem_left (distinct : (left ++ node :: right).Nodup) : node ∉ left := by
  intro before
  exact (List.nodup_append.mp distinct).2.2 node before node List.mem_cons_self rfl

/-- One node follows another exactly if the list has both next to each other, in this order. -/
theorem following_eq_some_iff (distinct : list.Nodup) :
    following node list = some next ↔ ∃ left right, list = left ++ node :: next :: right := by
  constructor
  · intro behind
    have member : node ∈ list := by
      by_contra absent
      rw [following_of_notMem absent] at behind
      cases behind
    obtain ⟨left, right, rfl⟩ := List.append_of_mem member
    rw [following_of_split (notMem_left distinct)] at behind
    obtain ⟨rest, rfl⟩ := List.head?_eq_some_iff.mp behind
    exact ⟨left, rest, rfl⟩
  · rintro ⟨left, right, rfl⟩
    exact following_of_split (notMem_left distinct)

/-- One node comes before another exactly if the list has both next to each other, in this order. -/
theorem previous_eq_some_iff (distinct : list.Nodup) :
    previous next list = some node ↔ ∃ left right, list = left ++ node :: next :: right := by
  constructor
  · intro before
    have member : next ∈ list := by
      by_contra absent
      rw [previous_of_notMem_tail (mt List.mem_of_mem_tail absent)] at before
      cases before
    obtain ⟨left, right, rfl⟩ := List.append_of_mem member
    rw [previous_of_split distinct] at before
    obtain ⟨start, rfl⟩ := List.getLast?_eq_some_iff.mp before
    exact ⟨start, right, by rw [List.append_assoc, List.singleton_append]⟩
  · rintro ⟨left, right, rfl⟩
    have regrouped : left ++ node :: next :: right = (left ++ [node]) ++ next :: right := by
      rw [List.append_assoc, List.singleton_append]
    rw [regrouped] at distinct ⊢
    rw [previous_of_split distinct, List.getLast?_append, List.getLast?_singleton, Option.some_or]

/-- **The two neighbours are inverse.** -/
theorem previous_iff_following (distinct : list.Nodup) :
    previous next list = some node ↔ following node list = some next := by
  rw [previous_eq_some_iff distinct, following_eq_some_iff distinct]

/-- Only the head has nothing before it. -/
theorem previous_eq_none_iff (distinct : list.Nodup) (member : node ∈ list) :
    previous node list = none ↔ list.head? = some node := by
  obtain ⟨left, right, rfl⟩ := List.append_of_mem member
  rw [previous_of_split distinct, List.getLast?_eq_none_iff]
  cases left with
  | nil => exact iff_of_true rfl rfl
  | cons first rest =>
      refine iff_of_false (List.cons_ne_nil first rest) fun head => ?_
      have same : first = node := Option.some.inj head
      exact notMem_left distinct (same ▸ List.mem_cons_self)

/-- When the follower of a node is taken out, the one behind it follows. -/
theorem following_erase (distinct : list.Nodup) (behind : following node list = some next) :
    following node (list.erase next) = following next list := by
  obtain ⟨left, right, rfl⟩ := (following_eq_some_iff distinct).mp behind
  have regrouped : left ++ node :: next :: right = (left ++ [node]) ++ next :: right := by
    rw [List.append_assoc, List.singleton_append]
  have fresh : node ∉ left := notMem_left distinct
  rw [regrouped] at distinct ⊢
  have absent := notMem_left distinct
  rw [following_of_split absent, List.erase_append_right _ absent, List.erase_cons_head,
    List.append_assoc, List.singleton_append]
  exact following_of_split fresh

end Neighbours
