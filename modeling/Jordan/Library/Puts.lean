import Mathlib.Data.List.Induction
import Mathlib.Logic.Function.Basic

/-! # Maps built by putting entries

A map that is filled entry by entry, where a later entry replaces an earlier one
with the same key. It holds entries that were put, and all those whose key was
put with one value only.
-/

namespace Puts

variable {Key Value : Type*} [DecidableEq Key]

/-- The map after the entries have been put into an empty one. -/
def putAll (entries : List (Key × Value)) : Key → Option Value :=
  entries.foldl (fun map entry => Function.update map entry.1 (some entry.2)) fun _ => none

theorem putAll_append_singleton (entries : List (Key × Value)) (entry : Key × Value) :
    putAll (entries ++ [entry]) = Function.update (putAll entries) entry.1 (some entry.2) := by
  unfold putAll
  rw [List.foldl_append]
  rfl

/-- What the map holds has been put. -/
theorem mem_of_putAll {entries : List (Key × Value)} {key : Key} {value : Value}
    (holds : putAll entries key = some value) : (key, value) ∈ entries := by
  induction entries using List.reverseRecOn with
  | nil => cases holds
  | append_singleton entries entry ih =>
      rw [putAll_append_singleton] at holds
      rw [List.mem_append, List.mem_singleton]
      rcases eq_or_ne key entry.1 with rfl | other
      · rw [Function.update_self] at holds
        exact .inr (Prod.ext rfl (Option.some.inj holds).symm)
      · rw [Function.update_of_ne other] at holds
        exact .inl (ih holds)

/-- A key that has been put with one value only has this value. -/
theorem putAll_of_unique {entries : List (Key × Value)} {key : Key} {value : Value}
    (member : (key, value) ∈ entries)
    (unique : ∀ other, (key, other) ∈ entries → other = value) :
    putAll entries key = some value := by
  induction entries using List.reverseRecOn with
  | nil => cases member
  | append_singleton entries entry ih =>
      rw [putAll_append_singleton]
      rcases eq_or_ne key entry.1 with rfl | different
      · rw [Function.update_self]
        exact congrArg some (unique entry.2 (List.mem_append_right _ List.mem_cons_self))
      · rw [Function.update_of_ne different]
        apply ih
        · rcases List.mem_append.mp member with before | last
          · exact before
          · exact absurd (congrArg Prod.fst (List.mem_singleton.mp last)) different
        · exact fun other put => unique other (List.mem_append_left _ put)

/-- The map that holds a value computed from each key. -/
theorem putAll_map_of_mem {keys : List Key} (value : Key → Value) {key : Key}
    (member : key ∈ keys) :
    putAll (keys.map fun key => (key, value key)) key = some (value key) := by
  have present : (key, value key) ∈ keys.map fun key => (key, value key) :=
    List.mem_map.mpr ⟨key, member, rfl⟩
  apply putAll_of_unique present
  intro other put
  obtain ⟨_, _, same⟩ := List.mem_map.mp put
  obtain ⟨rfl, rfl⟩ := Prod.mk.inj same
  rfl

/-- What is found under a key was put there for this key. -/
theorem eq_of_putAll_map {keys : List Key} {value : Key → Value} {key : Key} {found : Value}
    (holds : putAll (keys.map fun key => (key, value key)) key = some found) :
    found = value key := by
  obtain ⟨_, _, same⟩ := List.mem_map.mp (mem_of_putAll holds)
  obtain ⟨rfl, rfl⟩ := Prod.mk.inj same
  rfl

end Puts
