import Mathlib.Data.Option.Basic

/-!
# Runs of an executable transition system

A partial step function on states, its runs on lists of actions, and the two
induction rules the rest of the development uses: an invariant that holds
initially and is kept by every step holds in every reachable state, and a
reflexive transitive relation kept by every step relates the two ends of a run.
-/

/-- A state machine with one partial step for each action. -/
structure TransitionSystem (State Action : Type) where
  initial : State
  step : State → Action → Option State

namespace TransitionSystem

variable {State Action : Type}
variable (system : TransitionSystem State Action)

/-- The state after a list of actions, if every one of them is enabled. -/
def run (state : State) : List Action → Option State
  | [] => some state
  | action :: actions => (system.step state action).bind (run · actions)

/-- Some list of actions leads from one state to another. -/
def Reaches (state next : State) : Prop :=
  ∃ actions, system.run state actions = some next

/-- Some list of actions leads here from the initial state. -/
def Reachable (state : State) : Prop :=
  system.Reaches system.initial state

variable {system} {state middle next : State} {action : Action}

@[simp] theorem run_nil : system.run state [] = some state :=
  rfl

theorem run_cons_eq_some
    {actions : List Action} :
    system.run state (action :: actions) = some next ↔
      ∃ middle, system.step state action = some middle ∧
        system.run middle actions = some next := by
  rw [run, Option.bind_eq_some_iff]

theorem run_append
    (first second : List Action) :
    system.run state (first ++ second) =
      (system.run state first).bind (system.run · second) := by
  induction first generalizing state with
  | nil => rfl
  | cons action first ih =>
      simp only [List.cons_append, run, Option.bind_assoc, ih]

theorem Reaches.refl (state : State) : system.Reaches state state :=
  ⟨[], rfl⟩

theorem Reaches.trans
    (first : system.Reaches state middle)
    (second : system.Reaches middle next) :
    system.Reaches state next := by
  obtain ⟨firstActions, firstRun⟩ := first
  obtain ⟨secondActions, secondRun⟩ := second
  exact ⟨firstActions ++ secondActions, by
    rw [run_append, firstRun, Option.bind_some, secondRun]⟩

theorem Reaches.single
    (stepped : system.step state action = some next) :
    system.Reaches state next :=
  ⟨[action], by simp [run, stepped]⟩

theorem Reachable.initial : system.Reachable system.initial :=
  Reaches.refl _

theorem Reachable.step
    (reachable : system.Reachable state)
    (stepped : system.step state action = some next) :
    system.Reachable next :=
  reachable.trans (.single stepped)

/-- Every action of a run fits the state it is taken in. -/
def AllSteps
    (system : TransitionSystem State Action)
    (fits : State → Action → Prop)
    (state : State) : List Action → Prop
  | [] => True
  | action :: actions =>
      fits state action ∧
        ∀ next, system.step state action = some next →
          AllSteps system fits next actions

/-- A property kept by every step is kept by a run. -/
theorem Reaches.invariant
    {property : State → Prop}
    (kept : ∀ {state action next},
      property state → system.step state action = some next → property next)
    (reaches : system.Reaches state next)
    (holds : property state) :
    property next := by
  obtain ⟨actions, ran⟩ := reaches
  induction actions generalizing state with
  | nil =>
      obtain rfl := Option.some.inj ran
      exact holds
  | cons action actions ih =>
      obtain ⟨middle, stepped, ran⟩ := run_cons_eq_some.mp ran
      exact ih (kept holds stepped) ran

/-- A property that holds initially and is kept by every step holds in every
reachable state. -/
theorem Reachable.invariant
    {property : State → Prop}
    (initially : property system.initial)
    (kept : ∀ {state action next},
      property state → system.step state action = some next → property next)
    (reachable : system.Reachable state) :
    property state :=
  Reaches.invariant kept reachable initially

/-- A simulation: where every step from related states leads to related states,
every reachable state has a related reachable one. -/
theorem Reachable.simulated
    {OtherState OtherAction : Type}
    {other : TransitionSystem OtherState OtherAction}
    (related : State → OtherState → Prop)
    (initially : related system.initial other.initial)
    (kept : ∀ {state action next abstract},
      other.Reachable abstract → related state abstract →
        system.step state action = some next →
          ∃ abstractNext, other.Reaches abstract abstractNext ∧
            related next abstractNext)
    (reachable : system.Reachable state) :
    ∃ abstract, other.Reachable abstract ∧ related state abstract := by
  apply reachable.invariant
  · exact ⟨other.initial, .initial, initially⟩
  · rintro state action next ⟨abstract, abstractReachable, holds⟩ stepped
    obtain ⟨abstractNext, reaches, holdsNext⟩ :=
      kept abstractReachable holds stepped
    exact ⟨abstractNext, abstractReachable.trans reaches, holdsNext⟩

/-- A reflexive transitive relation kept by every step relates the ends of a
run. -/
theorem Reaches.relation
    {relation : State → State → Prop}
    (reflexive : ∀ state, relation state state)
    (transitive : ∀ {first second third},
      relation first second → relation second third → relation first third)
    (kept : ∀ {state action next},
      system.step state action = some next → relation state next)
    (reaches : system.Reaches state next) :
    relation state next := by
  have related : ∀ {middle action last},
      relation state middle → system.step middle action = some last →
        relation state last :=
    fun before stepped => transitive before (kept stepped)
  exact reaches.invariant related (reflexive state)

/-- A property that a step keeps exactly when its action fits is kept by a run
exactly when all its actions fit. -/
theorem good_iff_allSteps
    {invariant good : State → Prop}
    {fits : State → Action → Prop}
    {actions : List Action}
    (kept : ∀ {state action next},
      invariant state → system.step state action = some next →
        invariant next)
    (exactly : ∀ {state action next},
      invariant state → system.step state action = some next →
        (good next ↔ good state ∧ fits state action))
    (ran : system.run state actions = some next)
    (holds : invariant state) :
    good next ↔ good state ∧ system.AllSteps fits state actions := by
  induction actions generalizing state with
  | nil =>
      obtain rfl := Option.some.inj ran
      simp [AllSteps]
  | cons action actions ih =>
      obtain ⟨middle, stepped, ran⟩ := run_cons_eq_some.mp ran
      have rest : (∀ after, system.step state action = some after →
          system.AllSteps fits after actions) ↔
            system.AllSteps fits middle actions := by
        simp [stepped]
      rw [ih ran (kept holds stepped), exactly holds stepped, AllSteps, rest,
        and_assoc]

end TransitionSystem
