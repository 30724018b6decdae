import Mathlib.Data.List.Basic

/-! # Executions of partial deterministic systems

A system is a partial step function: `step state action` is the next state when
the action is enabled. Everything an environment may choose is part of the
action, so a list of actions determines the execution. Safety is shown by an
invariant that every step keeps (`Execution.invariant`), possibly only the
steps that meet a guard; when the guard is also necessary, a law holds along an
execution exactly when every step meets the guard (`Execution.along_iff`).
-/

namespace Execution

variable {State Action : Type*} (step : State → Action → Option State)

/-- The state a list of actions leads to, if every one of them is enabled. -/
def exec (start : State) (actions : List Action) : Option State :=
  actions.foldlM step start

@[simp] theorem exec_nil (start : State) : exec step start [] = some start := rfl

theorem exec_cons (start : State) (action : Action) (rest : List Action) :
    exec step start (action :: rest) = (step start action).bind fun next => exec step next rest :=
  rfl

variable {step}

theorem exec_cons_eq_some {start last : State} {action : Action} {rest : List Action} :
    exec step start (action :: rest) = some last ↔
      ∃ next, step start action = some next ∧ exec step next rest = some last := by
  rw [exec_cons, Option.bind_eq_some_iff]

/-- Running appended lists of actions is running one after the other. -/
theorem exec_append_eq_some {start last : State} {first second : List Action} :
    exec step start (first ++ second) = some last ↔
      ∃ middle, exec step start first = some middle ∧ exec step middle second = some last := by
  unfold exec
  rw [List.foldlM_append, Option.bind_eq_bind, Option.bind_eq_some_iff]

variable (step) in
/-- Every step taken from `start` along the actions satisfies the law. -/
def Along (law : State → Action → State → Prop) : State → List Action → Prop
  | _, [] => True
  | start, action :: rest =>
      ∀ next, step start action = some next → law start action next ∧ Along law next rest

variable (step) in
/-- Every action taken from `start` is taken in a state where the guard allows it. -/
abbrev Guarded (guard : State → Action → Prop) (start : State) (actions : List Action) : Prop :=
  Along step (fun before action _ => guard before action) start actions

/-- A decidable law can be checked along a concrete list of actions. -/
instance decidableAlong (law : State → Action → State → Prop)
    [∀ before action after, Decidable (law before action after)] :
    ∀ (start : State) (actions : List Action), Decidable (Along step law start actions)
  | _, [] => .isTrue trivial
  | start, action :: rest =>
      match taken : step start action with
      | none => .isTrue fun next reached => by
          rw [taken] at reached
          cases reached
      | some next =>
          have := decidableAlong law next rest
          decidable_of_iff (law start action next ∧ Along step law next rest)
            ⟨fun both _ reached => by
              rw [taken, Option.some.injEq] at reached
              exact reached ▸ both, fun along => along next taken⟩

theorem Along.mono {law other : State → Action → State → Prop}
    (weaker : ∀ before action after, law before action after → other before action after)
    {start : State} {actions : List Action} (along : Along step law start actions) :
    Along step other start actions := by
  induction actions generalizing start with
  | nil => trivial
  | cons action rest ih =>
      intro next taken
      obtain ⟨here, later⟩ := along next taken
      exact ⟨weaker _ _ _ here, ih later⟩

theorem Along.and {law other : State → Action → State → Prop} {start : State}
    {actions : List Action} (along : Along step law start actions)
    (alongOther : Along step other start actions) :
    Along step (fun before action after => law before action after ∧ other before action after)
      start actions := by
  induction actions generalizing start with
  | nil => trivial
  | cons action rest ih =>
      intro next taken
      obtain ⟨here, later⟩ := along next taken
      obtain ⟨hereOther, laterOther⟩ := alongOther next taken
      exact ⟨⟨here, hereOther⟩, ih later laterOther⟩

/-- A property of all actions is a guard that all steps meet. -/
theorem guarded_of_mem {property : Action → Prop} {actions : List Action}
    (all : ∀ action ∈ actions, property action) (start : State) :
    Guarded step (fun _ action => property action) start actions := by
  induction actions generalizing start with
  | nil => trivial
  | cons action rest ih =>
      intro next taken
      exact ⟨all action List.mem_cons_self, ih (fun _ member => all _ (.tail _ member)) next⟩

/-- A law of every enabled step holds along every execution. -/
theorem along_of_forall {law : State → Action → State → Prop}
    (always : ∀ before action after, step before action = some after → law before action after)
    (start : State) (actions : List Action) : Along step law start actions := by
  induction actions generalizing start with
  | nil => trivial
  | cons action rest ih =>
      intro next taken
      exact ⟨always _ _ _ taken, ih next⟩

/-- A law along appended actions holds along the first part. -/
theorem Along.left {law : State → Action → State → Prop} {start : State}
    {first second : List Action} (along : Along step law start (first ++ second)) :
    Along step law start first := by
  induction first generalizing start with
  | nil => trivial
  | cons action rest ih =>
      intro next taken
      obtain ⟨here, later⟩ := along next taken
      exact ⟨here, ih later⟩

/-- A law along appended actions holds along the second part, from the state
the first part leads to. -/
theorem Along.right {law : State → Action → State → Prop} {start middle : State}
    {first second : List Action} (along : Along step law start (first ++ second))
    (reached : exec step start first = some middle) : Along step law middle second := by
  induction first generalizing start with
  | nil =>
      rw [exec_nil, Option.some.injEq] at reached
      exact reached ▸ along
  | cons action rest ih =>
      obtain ⟨next, taken, reached⟩ := exec_cons_eq_some.mp reached
      exact ih (along next taken).2 reached

/-- A property that every guarded step keeps holds in every state a guarded
execution reaches. -/
theorem invariant {guard : State → Action → Prop} (holds : State → Prop)
    (kept : ∀ before action after, holds before → guard before action →
      step before action = some after → holds after)
    {start last : State} {actions : List Action} (initially : holds start)
    (guarded : Guarded step guard start actions)
    (reached : exec step start actions = some last) : holds last := by
  induction actions generalizing start with
  | nil =>
      rw [exec_nil, Option.some.injEq] at reached
      exact reached ▸ initially
  | cons action rest ih =>
      obtain ⟨next, taken, reached⟩ := exec_cons_eq_some.mp reached
      obtain ⟨allowed, guarded⟩ := guarded next taken
      exact ih (kept _ _ _ initially allowed taken) guarded reached

/-- The same for a property of the state and of the actions that led to it. -/
theorem invariant_with_past {guard : State → Action → Prop} (holds : List Action → State → Prop)
    (kept : ∀ past before action after, holds past before → guard before action →
      step before action = some after → holds (past ++ [action]) after)
    {start last : State} {actions : List Action} (initially : holds [] start)
    (guarded : Guarded step guard start actions)
    (reached : exec step start actions = some last) : holds actions last := by
  suffices general : ∀ past, holds past start → holds (past ++ actions) last from
    general [] initially
  clear initially
  induction actions generalizing start with
  | nil =>
      intro past initially
      rw [exec_nil, Option.some.injEq] at reached
      rw [List.append_nil]
      exact reached ▸ initially
  | cons action rest ih =>
      intro past initially
      obtain ⟨next, taken, reached⟩ := exec_cons_eq_some.mp reached
      obtain ⟨allowed, guarded⟩ := guarded next taken
      have later := ih guarded reached _ (kept _ _ _ _ initially allowed taken)
      rwa [List.append_assoc, List.singleton_append] at later

/-- A property that every step keeps holds in every reachable state. -/
theorem invariant_of_step (holds : State → Prop)
    (kept : ∀ before action after, holds before → step before action = some after → holds after)
    {start last : State} {actions : List Action} (initially : holds start)
    (reached : exec step start actions = some last) : holds last := by
  have unguarded : Guarded step (fun _ _ => True) start actions :=
    along_of_forall (fun _ _ _ _ => trivial) _ _
  exact invariant holds (fun _ _ _ held _ taken => kept _ _ _ held taken) initially unguarded
    reached

/-- In a loop whose turns keep an invariant, each turn establishes a property of
its own and keeps those of the other turns. After the loop all of them hold. -/
theorem exec_establishes (holds : State → Prop) (property : Action → State → Prop)
    (kept : ∀ before turn after, holds before → step before turn = some after → holds after)
    (established : ∀ before turn after, holds before → step before turn = some after →
      property turn after)
    (retained : ∀ before turn after other, holds before → step before turn = some after →
      property other before → property other after)
    {start last : State} {turns : List Action} (initially : holds start)
    (reached : exec step start turns = some last) (turn : Action)
    (covered : turn ∈ turns ∨ property turn start) : property turn last := by
  induction turns generalizing start with
  | nil =>
      rw [exec_nil, Option.some.injEq] at reached
      exact reached ▸ covered.resolve_left List.not_mem_nil
  | cons first rest ih =>
      obtain ⟨next, taken, reached⟩ := exec_cons_eq_some.mp reached
      apply ih (kept _ _ _ initially taken) reached
      rcases covered with member | already
      · rcases List.mem_cons.mp member with rfl | later
        · exact .inr (established _ _ _ initially taken)
        · exact .inl later
      · exact .inr (retained _ _ _ _ initially taken already)

/-- A reflexive and transitive relation that every step respects relates the
views of the first and the last state of an execution. -/
theorem exec_related {View : Type*} (view : State → View) {related : View → View → Prop}
    (refl : ∀ here, related here here)
    (trans : ∀ {first second third}, related first second → related second third →
      related first third)
    (each : ∀ before action after, step before action = some after →
      related (view before) (view after))
    {start last : State} {actions : List Action} (reached : exec step start actions = some last) :
    related (view start) (view last) :=
  invariant_of_step (fun now => related (view start) (view now))
    (fun _ _ _ held taken => trans held (each _ _ _ taken)) (refl _) reached

/-- **Simulation.** If a view of the states that satisfy an invariant turns each
step into a step of another system, it turns executions into executions, and the
same actions are enabled. -/
theorem exec_simulates {View : Type*} {viewStep : View → Action → Option View}
    (holds : State → Prop) (view : State → View)
    (kept : ∀ before action after, holds before → step before action = some after → holds after)
    (simulates : ∀ before action, holds before →
      (step before action).map view = viewStep (view before) action)
    {start : State} (initially : holds start) (actions : List Action) :
    (exec step start actions).map view = exec viewStep (view start) actions := by
  induction actions generalizing start with
  | nil => rfl
  | cons action rest ih =>
      rw [exec_cons, exec_cons, ← simulates start action initially, Option.map_bind,
        Option.bind_map]
      apply Option.bind_congr
      intro next taken
      exact ih (kept _ _ _ initially taken)

/-- A system whose steps return something, with what they have returned so far. -/
def replying {Reply : Type*} (call : State → Action → Option (Reply × State))
    (before : State × List Reply) (action : Action) : Option (State × List Reply) :=
  (call before.1 action).map fun after => (after.2, before.2 ++ [after.1])

/-- Simulation with the same replies. -/
theorem exec_replying_simulates {View Reply : Type*}
    {call : State → Action → Option (Reply × State)}
    {viewCall : View → Action → Option (Reply × View)} (holds : State → Prop) (view : State → View)
    (kept : ∀ before action after, holds before → call before action = some after → holds after.2)
    (simulates : ∀ before action, holds before →
      (call before action).map (Prod.map id view) = viewCall (view before) action)
    {start : State} (initially : holds start) (actions : List Action) :
    (exec (replying call) (start, []) actions).map (Prod.map view id) =
      exec (replying viewCall) (view start, []) actions := by
  have initial : holds (start, ([] : List Reply)).1 := initially
  refine exec_simulates (fun before => holds before.1) (Prod.map view id) ?_ ?_ initial actions
  · rintro before action after held taken
    obtain ⟨⟨reply, next⟩, called, rfl⟩ := Option.map_eq_some_iff.mp taken
    exact kept _ _ _ held called
  · rintro ⟨before, replies⟩ action held
    unfold replying
    rw [Prod.map_fst, ← simulates before action held, Option.map_map, Option.map_map]
    rfl

/-- A law that guarded steps satisfy, keeping an invariant, holds along every
guarded execution. -/
theorem along_of_invariant {law : State → Action → State → Prop} {guard : State → Action → Prop}
    (holds : State → Prop)
    (kept : ∀ before action after, holds before → guard before action →
      step before action = some after → holds after ∧ law before action after)
    {start : State} (initially : holds start) {actions : List Action}
    (guarded : Guarded step guard start actions) : Along step law start actions := by
  induction actions generalizing start with
  | nil => trivial
  | cons action rest ih =>
      intro next taken
      obtain ⟨allowed, later⟩ := guarded next taken
      obtain ⟨still, lawful⟩ := kept _ _ _ initially allowed taken
      exact ⟨lawful, ih still later⟩

/-- **A guard that is exact.** If guarded steps keep the invariant and satisfy
the law, and from an invariant state only guarded steps satisfy the law, then
the law holds along an execution exactly when all its steps are guarded. -/
theorem along_iff {law : State → Action → State → Prop} {guard : State → Action → Prop}
    (holds : State → Prop)
    (kept : ∀ before action after, holds before → guard before action →
      step before action = some after → holds after ∧ law before action after)
    (needed : ∀ before action after, holds before → step before action = some after →
      law before action after → guard before action)
    {start : State} (initially : holds start) (actions : List Action) :
    Along step law start actions ↔ Guarded step guard start actions := by
  constructor
  · intro along
    induction actions generalizing start with
    | nil => trivial
    | cons action rest ih =>
        intro next taken
        obtain ⟨lawful, later⟩ := along next taken
        have allowed := needed _ _ _ initially taken lawful
        exact ⟨allowed, ih (kept _ _ _ initially allowed taken).1 later⟩
  · exact along_of_invariant holds kept initially

variable {Other : Type*} {otherStep : Other → Action → Option Other}

/-- **Laws of related systems.** If related states take the same actions to related states,
and a step satisfies the law exactly when the other one satisfies the other law, the laws hold
along the same actions. -/
theorem along_iff_of_related {law : State → Action → State → Prop}
    {otherLaw : Other → Action → Other → Prop} (related : State → Other → Prop)
    (each : ∀ before other action, related before other →
      ∃ after otherAfter, step before action = some after ∧
        otherStep other action = some otherAfter ∧ related after otherAfter ∧
        (law before action after ↔ otherLaw other action otherAfter))
    {start : State} {other : Other} (initially : related start other) (actions : List Action) :
    Along step law start actions ↔ Along otherStep otherLaw other actions := by
  induction actions generalizing start other with
  | nil => exact Iff.rfl
  | cons action rest ih =>
      obtain ⟨after, otherAfter, taken, otherTaken, still, lawful⟩ := each _ _ action initially
      constructor
      · intro along next reached
        obtain rfl := Option.some.inj (otherTaken.symm.trans reached)
        obtain ⟨here, later⟩ := along after taken
        exact ⟨lawful.mp here, (ih still).mp later⟩
      · intro along next reached
        obtain rfl := Option.some.inj (taken.symm.trans reached)
        obtain ⟨here, later⟩ := along otherAfter otherTaken
        exact ⟨lawful.mpr here, (ih still).mpr later⟩
end Execution
