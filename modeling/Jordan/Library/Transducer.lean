import Mathlib.Data.List.Basic

/-! # Transducers

A transducer reads a list and emits outputs at every element. A program that
computes its outputs in pieces keeps a state and a list of inputs it has not
read yet; `Transducer.Emits` relates two such stages by what is emitted between
them, whatever inputs are appended later. Pieces compose (`Emits.trans`).
-/

/-- A machine that emits a list of outputs at every input. -/
structure Transducer (State Input Output : Type*) where
  step : State → Input → State × List Output

namespace Transducer

variable {State Input Output : Type*} (machine : Transducer State Input Output)

/-- Everything emitted on a list of inputs, in order. -/
def outputs (start : State) : List Input → List Output
  | [] => []
  | input :: rest =>
      (machine.step start input).2 ++ outputs (machine.step start input).1 rest

theorem outputs_cons (start : State) (input : Input) (rest : List Input) :
    machine.outputs start (input :: rest) =
      (machine.step start input).2 ++ machine.outputs (machine.step start input).1 rest := rfl

/-- The state after a list of inputs. -/
def stateAfter (start : State) (inputs : List Input) : State :=
  inputs.foldl (fun state input => (machine.step state input).1) start

theorem outputs_append (start : State) (first second : List Input) :
    machine.outputs start (first ++ second) =
      machine.outputs start first ++ machine.outputs (machine.stateAfter start first) second := by
  induction first generalizing start with
  | nil => rfl
  | cons input rest ih =>
      rw [List.cons_append, outputs_cons, outputs_cons, ih, List.append_assoc]
      rfl

/-- Inputs that emit nothing and leave the state can be left out. Each input
carries a tag, which tells whether it is kept. -/
theorem outputs_filter {Tag : Type*} (keep : Tag × Input → Bool) {tagged : List (Tag × Input)}
    (silent : ∀ entry ∈ tagged, keep entry = false →
      ∀ state, machine.step state entry.2 = (state, [])) (start : State) :
    machine.outputs start ((tagged.filter keep).map Prod.snd) =
      machine.outputs start (tagged.map Prod.snd) := by
  induction tagged generalizing start with
  | nil => rfl
  | cons entry rest ih =>
      have later := ih fun other member => silent other (List.mem_cons_of_mem _ member)
      rw [List.map_cons, outputs_cons]
      cases kept : keep entry with
      | true =>
          rw [List.filter_cons_of_pos kept, List.map_cons, outputs_cons, later]
      | false =>
          rw [List.filter_cons_of_neg (Bool.not_eq_true _ ▸ kept),
            silent entry List.mem_cons_self kept start, List.nil_append, later]

/-- From one stage to another, exactly this has been emitted, whatever follows. -/
def Emits (start : State) (unread : List Input) (emitted : List Output) (next : State)
    (left : List Input) : Prop :=
  ∀ later, machine.outputs start (unread ++ later) =
    emitted ++ machine.outputs next (left ++ later)

variable {machine} {start middle next : State} {unread between left rest : List Input}
  {first second emitted : List Output}

variable (machine) in
theorem Emits.refl (start : State) (unread : List Input) :
    machine.Emits start unread [] start unread := fun _ => rfl

/-- Reading one input. -/
theorem Emits.step {input : Input} (taken : machine.step start input = (next, emitted)) :
    machine.Emits start (input :: rest) emitted next rest := by
  intro later
  rw [List.cons_append, outputs_cons, taken]

/-- Pieces compose. -/
theorem Emits.trans (before : machine.Emits start unread first middle between)
    (after : machine.Emits middle between second next left) :
    machine.Emits start unread (first ++ second) next left := by
  intro later
  rw [before, after, List.append_assoc]

/-- When the number of outputs does not depend on the state, what is emitted while
some inputs are read are the outputs on these inputs. -/
theorem Emits.eq_outputs
    (steady : ∀ state other input, (machine.step state input).2.length =
      (machine.step other input).2.length)
    (piece : machine.Emits start (between ++ left) emitted next left) :
    emitted = machine.outputs start between := by
  have counted (state other : State) (inputs : List Input) :
      (machine.outputs state inputs).length = (machine.outputs other inputs).length := by
    induction inputs generalizing state other with
    | nil => rfl
    | cons input rest ih =>
        rw [outputs_cons, outputs_cons, List.length_append, List.length_append,
          steady state other, ih]
  have whole := piece []
  rw [List.append_nil, List.append_nil, outputs_append] at whole
  exact (List.append_inj_left' whole (counted _ _ _)).symm

/-- Inputs appended at both ends stay unread. -/
theorem Emits.append (piece : machine.Emits start unread emitted next left) (more : List Input) :
    machine.Emits start (unread ++ more) emitted next (left ++ more) := by
  intro later
  rw [List.append_assoc, List.append_assoc]
  exact piece (more ++ later)

end Transducer
