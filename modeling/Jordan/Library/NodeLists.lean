import Mathlib.Data.List.Perm.Lattice

/-! # Families of intrusive lists

A node carries its own links, so it is unlinked or moved without naming the list
that holds it. A family of lists is a function from indices to lists of nodes;
the operations act on whichever list holds the node.
-/

namespace NodeLists

variable {Index Node : Type*}

/-- Put a node at the end of a list (`list_add_tail`). -/
def addTail [DecidableEq Index] (lists : Index → List Node) (index : Index) (node : Node) :
    Index → List Node :=
  Function.update lists index (lists index ++ [node])

@[simp] theorem addTail_self [DecidableEq Index] (lists : Index → List Node) (index : Index)
    (node : Node) : addTail lists index node index = lists index ++ [node] :=
  Function.update_self ..

@[simp] theorem addTail_of_ne [DecidableEq Index] {index other : Index} (different : other ≠ index)
    (lists : Index → List Node) (node : Node) : addTail lists index node other = lists other :=
  Function.update_of_ne different ..

/-- Every node is in the list of its home only, and there at most once. -/
structure Homed (home : Node → Index) (lists : Index → List Node) : Prop where
  distinct (index : Index) : (lists index).Nodup
  atHome {index : Index} {node : Node} (present : node ∈ lists index) : home node = index

variable {home : Node → Index} {lists : Index → List Node}

theorem Homed.notMem (homed : Homed home lists) {index other : Index} {node : Node}
    (present : node ∈ lists index) (different : other ≠ index) : node ∉ lists other := by
  intro elsewhere
  exact different ((homed.atHome elsewhere).symm.trans (homed.atHome present))

/-- Sublists of homed lists are homed. -/
theorem Homed.of_sublist (homed : Homed home lists) {fewer : Index → List Node}
    (sub : ∀ index, (fewer index).Sublist (lists index)) : Homed home fewer where
  distinct index := (homed.distinct index).sublist (sub index)
  atHome {index} _ present := homed.atHome ((sub index).subset present)

theorem Homed.of_perm (homed : Homed home lists) {other : Index → List Node}
    (perm : ∀ index, (other index).Perm (lists index)) : Homed home other where
  distinct index := (perm index).nodup_iff.mpr (homed.distinct index)
  atHome {index} _ present := homed.atHome ((perm index).mem_iff.mp present)

/-- A fresh node can be put at the end of its own list. -/
theorem Homed.addTail [DecidableEq Index] (homed : Homed home lists) {node : Node}
    (fresh : node ∉ lists (home node)) : Homed home (addTail lists (home node) node) where
  distinct index := by
    by_cases here : index = home node
    · subst here
      rw [addTail_self, List.nodup_append_comm]
      exact List.nodup_cons.mpr ⟨fresh, homed.distinct _⟩
    · rw [addTail_of_ne here]
      exact homed.distinct index
  atHome {index entry} present := by
    by_cases here : index = home node
    · subst here
      rw [addTail_self] at present
      rcases List.mem_append.mp present with older | newest
      · exact homed.atHome older
      · rw [List.mem_singleton.mp newest]
    · rw [addTail_of_ne here] at present
      exact homed.atHome present

variable [DecidableEq Node]

/-- A node that is put at the end of its own list is counted once more. -/
theorem count_addTail [DecidableEq Index] (node entry : Node) :
    (addTail lists (home node) node (home entry)).count entry =
      (lists (home entry)).count entry + [node].count entry := by
  by_cases here : home entry = home node
  · rw [here, addTail_self, List.count_append]
  · have different : node ≠ entry := fun same => here (same ▸ rfl)
    rw [addTail_of_ne here, List.count_singleton, beq_false_of_ne different]
    rfl

/-- Unlink a node (`list_del`). -/
def unlink (lists : Index → List Node) (node : Node) : Index → List Node :=
  fun index => (lists index).erase node

theorem Homed.unlink (homed : Homed home lists) (node : Node) :
    Homed home (unlink lists node) :=
  homed.of_sublist fun _ => List.erase_sublist

/-- Unlinking a node loses one occurrence of it. -/
theorem count_unlink_add {node : Node} (present : node ∈ lists (home node)) (entry : Node) :
    (unlink lists node (home entry)).count entry + [node].count entry =
      (lists (home entry)).count entry := by
  unfold unlink
  by_cases same : node = entry
  · subst same
    have := List.count_pos_iff.mpr present
    rw [List.count_erase_self, List.count_singleton_self]
    omega
  · rw [List.count_erase_of_ne (Ne.symm same), List.count_singleton, beq_false_of_ne same]
    rfl

/-- Put a node right after another one. -/
def linkAfter (node target : Node) : List Node → List Node
  | [] => []
  | head :: rest =>
      if head = target then head :: node :: rest else head :: linkAfter node target rest

/-- Without the target in the list, nothing is linked. -/
theorem linkAfter_of_notMem {node target : Node} {list : List Node}
    (absent : target ∉ list) : linkAfter node target list = list := by
  induction list with
  | nil => rfl
  | cons head rest ih =>
      have other : head ≠ target := fun same => absent (same ▸ List.mem_cons_self)
      rw [linkAfter, if_neg other, ih fun later => absent (List.mem_cons_of_mem _ later)]

/-- Linking a node behind a target puts it into the list once. -/
theorem linkAfter_perm {node target : Node} {list : List Node} (present : target ∈ list) :
    (linkAfter node target list).Perm (node :: list) := by
  induction list with
  | nil => cases present
  | cons head rest ih =>
      by_cases here : head = target
      · rw [linkAfter, if_pos here]
        exact .swap node head rest
      · rw [linkAfter, if_neg here]
        have later := (List.mem_cons.mp present).resolve_left (Ne.symm here)
        exact ((ih later).cons head).trans (.swap node head rest)

/-- Removing the target again leaves the node in its place. -/
theorem erase_linkAfter {node target : Node} {list : List Node} (distinct : list.Nodup)
    (present : target ∈ list) :
    (linkAfter node target list).erase target =
      list.map fun entry => if entry = target then node else entry := by
  induction list with
  | nil => cases present
  | cons head rest ih =>
      obtain ⟨fresh, distinct⟩ := List.nodup_cons.mp distinct
      by_cases here : head = target
      · have others : ∀ entry ∈ rest, entry ≠ target := by
          intro entry member same
          exact fresh (here ▸ same ▸ member)
        have kept : rest.map (fun entry => if entry = target then node else entry) = rest :=
          (List.map_congr_left fun entry member => if_neg (others entry member)).trans
            (List.map_id rest)
        rw [linkAfter, if_pos here, here, List.erase_cons_head, List.map_cons, if_pos rfl, kept]
      · have later := (List.mem_cons.mp present).resolve_left (Ne.symm here)
        rw [linkAfter, if_neg here, List.erase_cons_tail (by simpa using here), List.map_cons,
          if_neg here, ih distinct later]

/-- Move a node right after another one (`list_move`). -/
def moveAfter (lists : Index → List Node) (node target : Node) : Index → List Node :=
  fun index => linkAfter node target (unlink lists node index)

section Move

variable {index : Index} {node target : Node} (homed : Homed home lists)
  (present : node ∈ lists index) (presentTarget : target ∈ lists index)
include homed present presentTarget

/-- A list that holds neither the node nor the target stays as it is. -/
theorem moveAfter_elsewhere {other : Index} (elsewhere : other ≠ index) :
    moveAfter lists node target other = lists other := by
  have absent : node ∉ lists other := homed.notMem present elsewhere
  have absentTarget : target ∉ lists other := homed.notMem presentTarget elsewhere
  unfold moveAfter unlink
  rw [List.erase_of_not_mem absent, linkAfter_of_notMem absentTarget]

/-- Moving a node within its list permutes the list. -/
theorem moveAfter_perm (different : node ≠ target) (other : Index) :
    (moveAfter lists node target other).Perm (lists other) := by
  by_cases here : other = index
  · subst here
    have remains : target ∈ (lists other).erase node :=
      (List.mem_erase_of_ne different.symm).mpr presentTarget
    exact (linkAfter_perm remains).trans (List.perm_cons_erase present).symm
  · rw [moveAfter_elsewhere homed present presentTarget here]

/-- When the target is unlinked after the move and the node takes over its key,
the keys of each list are a sublist of what they were. -/
theorem map_unlink_moveAfter {Key : Type*} (different : node ≠ target) (key : Node → Key)
    (other : Index) :
    ((unlink (moveAfter lists node target) target other).map
      (Function.update key node (key target))).Sublist ((lists other).map key) := by
  by_cases here : other = index
  · subst here
    have remains : target ∈ (lists other).erase node :=
      (List.mem_erase_of_ne different.symm).mpr presentTarget
    have replaced : unlink (moveAfter lists node target) target other =
        ((lists other).erase node).map fun entry => if entry = target then node else entry :=
      erase_linkAfter ((homed.distinct other).sublist List.erase_sublist) remains
    have keys : ∀ entry ∈ (lists other).erase node,
        (Function.update key node (key target) ∘ fun entry =>
          if entry = target then node else entry) entry = key entry := by
      intro entry member
      have another : entry ≠ node := ((homed.distinct other).mem_erase_iff.mp member).1
      by_cases same : entry = target
      · simp only [Function.comp_apply, same, ↓reduceIte, Function.update_self]
      · simp only [Function.comp_apply, same, ↓reduceIte, Function.update_of_ne another]
    rw [replaced, List.map_map, List.map_congr_left keys]
    exact List.erase_sublist.map key
  · have unchanged := moveAfter_elsewhere homed present presentTarget here
    have keys : ∀ entry ∈ lists other,
        Function.update key node (key target) entry = key entry := by
      intro entry member
      have another : entry ≠ node := by
        intro same
        subst same
        exact homed.notMem present here member
      exact Function.update_of_ne another ..
    rw [unlink, unchanged, ← List.map_congr_left keys]
    exact List.erase_sublist.map _

end Move

end NodeLists
