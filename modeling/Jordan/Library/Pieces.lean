import Mathlib.Data.List.Basic

/-! # Reading a text in pieces

A call with an offset returns a piece, and possibly an end mark. A reader calls
with the number of elements it has received so far, until a call returns nothing.
When the calls return slices of a text, the reader receives the text
(`Pieces.Slices.delivers`) and no other (`Pieces.Slices.eq_of_delivers`).
-/

namespace Pieces

variable {α : Type*}

/-- What a call returns: the number of elements, the end mark, and the elements. -/
structure Reply (α : Type*) where
  ret : Int
  eof : Bool
  bytes : List α

/-- What the reader has received in the end, and its calls, by offset. -/
def collect (read : Nat → Reply α) : Nat → List α → Option (List α × List (Nat × Reply α))
  | 0, _ => none
  | fuel + 1, received =>
      let reply := read received.length
      if reply.ret = 0 then some (received, [(received.length, reply)])
      else
        (collect read fuel (received ++ reply.bytes)).map fun (text, calls) =>
          (text, (received.length, reply) :: calls)

/-- A reader receives exactly the text, and the end mark only with its end. -/
def Delivers (read : Nat → Reply α) (text : List α) : Prop :=
  ∃ fuel calls, collect read fuel [] = some (text, calls) ∧
    ∀ call ∈ calls, call.2.eof = true → text.length ≤ call.1 + call.2.bytes.length

/-- The calls return slices of a text, of at most `count` elements. -/
structure Slices (read : Nat → Reply α) (text : List α) (count : Nat) : Prop where
  bytes (offset : Nat) : (read offset).bytes = (text.drop offset).take count
  ret (offset : Nat) : (read offset).ret = (read offset).bytes.length

variable {read : Nat → Reply α} {text other received : List α} {count fuel : Nat}
  {calls : List (Nat × Reply α)}

/-- The calls of a reader are calls of the read function. -/
theorem reply_of_mem_calls (collected : collect read fuel received = some (text, calls)) :
    ∀ call ∈ calls, call.2 = read call.1 := by
  induction fuel generalizing received calls with
  | zero => cases collected
  | succ fuel ih =>
      rw [collect] at collected
      split at collected
      · obtain ⟨_, rfl⟩ := Prod.mk.inj (Option.some.inj collected)
        intro call member
        rw [List.mem_singleton.mp member]
      · obtain ⟨⟨_, later⟩, rest, same⟩ := Option.map_eq_some_iff.mp collected
        obtain ⟨rfl, rfl⟩ := Prod.mk.inj same
        intro call member
        rcases List.mem_cons.mp member with rfl | behind
        · rfl
        · exact ih rest call behind

namespace Slices

/-- A reader that has received a beginning of the text has all of it, or receives
some more of it. -/
theorem next (slices : Slices read text count) (positive : 0 < count)
    (start : received <+: text) :
    ((read received.length).ret = 0 ∧ received = text) ∨
      ((read received.length).ret ≠ 0 ∧ received ++ (read received.length).bytes <+: text ∧
        received.length < (received ++ (read received.length).bytes).length) := by
  obtain ⟨behind, rfl⟩ := start
  have piece : (read received.length).bytes = behind.take count := by
    rw [slices.bytes, List.drop_left]
  rw [slices.ret, piece]
  cases behind with
  | nil => exact .inl ⟨by rw [List.take_nil]; rfl, (List.append_nil received).symm⟩
  | cons first rest =>
      have nonempty : 0 < ((first :: rest).take count).length := by
        rw [List.length_take, List.length_cons]
        omega
      refine .inr ⟨by omega, ?_, by rw [List.length_append]; omega⟩
      exact (List.prefix_append_right_inj received).mpr (List.take_prefix count _)

/-- A reader receives nothing but the text. -/
theorem eq_of_collect (slices : Slices read text count) (positive : 0 < count)
    (start : received <+: text) (collected : collect read fuel received = some (other, calls)) :
    other = text := by
  induction fuel generalizing received calls with
  | zero => cases collected
  | succ fuel ih =>
      rw [collect] at collected
      rcases slices.next positive start with ⟨ended, complete⟩ | ⟨more, longer, _⟩
      · rw [if_pos ended] at collected
        obtain ⟨rfl, _⟩ := Prod.mk.inj (Option.some.inj collected)
        exact complete
      · rw [if_neg more] at collected
        obtain ⟨⟨_, _⟩, rest, same⟩ := Option.map_eq_some_iff.mp collected
        obtain ⟨rfl, _⟩ := Prod.mk.inj same
        exact ih longer rest

/-- A reader that may make enough calls receives the text. -/
theorem exists_collect (slices : Slices read text count) (positive : 0 < count)
    (start : received <+: text) (enough : text.length < received.length + fuel) :
    ∃ calls, collect read fuel received = some (text, calls) := by
  induction fuel generalizing received with
  | zero => exact absurd start.length_le (by omega)
  | succ fuel ih =>
      rw [collect]
      rcases slices.next positive start with ⟨ended, complete⟩ | ⟨more, longer, grows⟩
      · rw [if_pos ended]
        exact ⟨[(received.length, read received.length)], by rw [complete]⟩
      · rw [if_neg more]
        obtain ⟨calls, rest⟩ := ih longer (by omega)
        exact ⟨_, Option.map_eq_some_iff.mpr ⟨_, rest, rfl⟩⟩

/-- A reader of slices receives the text, if the end mark comes only with its end. -/
theorem delivers (slices : Slices read text count) (positive : 0 < count)
    (ends : ∀ offset, (read offset).eof = true →
      text.length ≤ offset + (read offset).bytes.length) : Delivers read text := by
  have enough : text.length < ([] : List α).length + (text.length + 1) := by
    rw [List.length_nil]
    omega
  obtain ⟨calls, collected⟩ := slices.exists_collect positive List.nil_prefix enough
  refine ⟨_, calls, collected, fun call member marked => ?_⟩
  rw [reply_of_mem_calls collected call member] at marked ⊢
  exact ends call.1 marked

/-- A reader of slices receives no other text. -/
theorem eq_of_delivers (slices : Slices read text count) (positive : 0 < count)
    (delivers : Delivers read other) : other = text := by
  obtain ⟨fuel, calls, collected, _⟩ := delivers
  exact slices.eq_of_collect positive List.nil_prefix collected

end Slices

end Pieces
