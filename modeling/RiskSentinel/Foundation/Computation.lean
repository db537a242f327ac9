import Mathlib.Algebra.GroupWithZero.Nat
import Mathlib.Data.List.Basic

namespace RiskSentinel
namespace Foundation

/-!
# Fallible computations and runs of step functions

The first section inverts a successful fallible computation.  The second
turns a partial step function into runs over lists of actions, with the rule
that an invariant of one step is an invariant of every run.  A run may be
restricted to steps that satisfy a condition on the state before the step;
the rule then needs the invariant to be kept by those steps only.  A measure
that every step of one party lowers bounds the number of these steps.
-/

universe u v w

theorem bind_eq_ok {E : Type u} {A B : Type v} {first : Except E A}
    {next : A -> Except E B} {result : B} :
    first >>= next = .ok result ↔ Exists fun value => first = .ok value ∧
    next value = .ok result := by
  cases first with
  | error cause =>
      constructor
      · intro impossible
        cases impossible
      · rintro ⟨value, impossible, _⟩
        cases impossible
  | ok value =>
      constructor
      · intro finished
        exact ⟨value, rfl, finished⟩
      · rintro ⟨other, same, finished⟩
        cases same
        exact finished

/-- A check in front of a computation. -/
theorem check_bind_eq_ok {E : Type u} {B : Type v} {check : Except E PUnit}
    {next : PUnit -> Except E B} {result : B} : check >>= next = .ok result ↔
    check = .ok PUnit.unit ∧ next PUnit.unit = .ok result := by
  rw [bind_eq_ok]
  constructor
  · rintro ⟨_, passed, finished⟩
    exact ⟨passed, finished⟩
  · rintro ⟨passed, finished⟩
    exact ⟨PUnit.unit, passed, finished⟩

/-- A loop of checks succeeds when each of them does. -/
theorem forM_eq_ok {E : Type u} {A : Type v} {check : A -> Except E PUnit} {items : List A} :
    items.forM check = .ok PUnit.unit ↔ forall item, item ∈ items ->
    check item = .ok PUnit.unit := by
  induction items with
  | nil => simp [pure, Except.pure]
  | cons item rest inductionHypothesis =>
      rw [List.forall_mem_cons, ← inductionHypothesis, List.forM_eq_forM, List.forM_cons,
        check_bind_eq_ok]

section Runs

variable {State : Type u} {Action : Type v} (step : State -> Action -> Option State)

/-- Perform a list of actions; the run is undefined as soon as one of them
is not enabled. -/
def runActions : State -> List Action -> Option State
  | state, [] => some state
  | state, action :: rest =>
      match step state action with
      | some next => runActions next rest
      | none => none

@[simp] theorem runActions_nil (state : State) : runActions step state [] = some state := rfl

theorem runActions_cons_eq_some {state final : State} {action : Action} {rest : List Action} :
    runActions step state (action :: rest) = some final ↔
      Exists fun next => step state action = some next ∧
      runActions step next rest = some final := by
  simp only [runActions]
  cases step state action with
  | none => simp
  | some next => simp

theorem runActions_append (state : State) (earlier later : List Action) :
    runActions step state (earlier ++ later) = (runActions step state earlier).bind fun middle =>
      runActions step middle later := by
  induction earlier generalizing state with
  | nil => rfl
  | cons action rest inductionHypothesis =>
      simp only [List.cons_append, runActions]
      cases step state action with
      | none => rfl
      | some next => exact inductionHypothesis next

/-- Every step of the run is taken in a state where it is allowed. -/
def AllSteps (allowed : State -> Action -> Prop) : State -> List Action -> Prop
  | _, [] => True
  | state, action :: rest =>
      allowed state action ∧ forall next, step state action = some next ->
      AllSteps allowed next rest

instance decidableAllSteps (allowed : State -> Action -> Prop)
    [forall state action, Decidable (allowed state action)] (state : State) :
    (actions : List Action) -> Decidable (AllSteps step allowed state actions)
  | [] => isTrue trivial
  | action :: rest =>
      match reached : step state action with
      | none =>
          decidable_of_iff (allowed state action)
            ⟨fun holds => ⟨holds, fun next taken => by rw [reached] at taken; cases taken⟩,
              fun both => both.1⟩
      | some next =>
          have := decidableAllSteps allowed next rest
          decidable_of_iff (allowed state action ∧ AllSteps step allowed next rest)
            ⟨fun both => ⟨both.1, fun other taken => by
                rw [reached] at taken
                cases taken
                exact both.2⟩,
              fun both => ⟨both.1, both.2 next reached⟩⟩

/-- What every allowed step preserves holds at the end of every run of
allowed steps. -/
theorem invariant_of_allSteps (allowed : State -> Action -> Prop) (invariant : State -> Prop)
    (preserved : forall state action next, invariant state -> allowed state action ->
      step state action = some next -> invariant next)
    {state final : State} {actions : List Action} (initially : invariant state)
    (guarded : AllSteps step allowed state actions)
    (finished : runActions step state actions = some final) : invariant final := by
  induction actions generalizing state with
  | nil =>
      cases finished
      exact initially
  | cons action rest inductionHypothesis =>
      rcases (runActions_cons_eq_some step).mp finished with ⟨next, taken, remaining⟩
      exact inductionHypothesis (preserved state action next initially guarded.1 taken)
        (guarded.2 next taken) remaining

/-- A condition on the actions alone can be read off the list. -/
theorem allSteps_of_actions {allowed : State -> Action -> Prop} (state : State)
    (actions : List Action)
    (each : forall action, action ∈ actions -> forall before, allowed before action) :
    AllSteps step allowed state actions := by
  induction actions generalizing state with
  | nil => trivial
  | cons action rest inductionHypothesis =>
      exact ⟨each action List.mem_cons_self state,
        fun next _ => inductionHypothesis next fun later member =>
        each later (List.mem_cons_of_mem _ member)⟩

/-- What every step preserves holds at the end of every run. -/
theorem invariant_of_run (invariant : State -> Prop)
    (preserved : forall state action next, invariant state ->
      step state action = some next -> invariant next)
    {state final : State} {actions : List Action} (initially : invariant state)
    (finished : runActions step state actions = some final) : invariant final :=
  invariant_of_allSteps step (fun _ _ => True) invariant
    (fun state action next holds _ taken => preserved state action next holds taken) initially
    (allSteps_of_actions step state actions fun _ _ _ => trivial) finished

/-- A log to which every step appends what its action says.  After a run it
lists what the actions say, in their order. -/
theorem log_of_run {Entry : Type w} (log : State -> List Entry) (entries : Action -> List Entry)
    (appends : forall state action next, step state action = some next ->
      log next = log state ++ entries action)
    {state final : State} {actions : List Action}
    (finished : runActions step state actions = some final) :
    log final = log state ++ actions.flatMap entries := by
  induction actions generalizing state with
  | nil =>
      cases finished
      exact (List.append_nil _).symm
  | cons action rest inductionHypothesis =>
      rcases (runActions_cons_eq_some step).mp finished with ⟨next, taken, remaining⟩
      rw [inductionHypothesis remaining, appends state action next taken, List.flatMap_cons,
        List.append_assoc]

theorem allSteps_and {left right : State -> Action -> Prop} {state : State} {actions : List Action}
    (leftSteps : AllSteps step left state actions)
    (rightSteps : AllSteps step right state actions) :
    AllSteps step (fun before action => left before action ∧
      right before action) state actions := by
  induction actions generalizing state with
  | nil => trivial
  | cons action rest inductionHypothesis =>
      exact ⟨⟨leftSteps.1, rightSteps.1⟩,
        fun next taken => inductionHypothesis (leftSteps.2 next taken) (rightSteps.2 next taken)⟩

theorem allSteps_of_append {allowed : State -> Action -> Prop} {state : State}
    {earlier later : List Action} (steps : AllSteps step allowed state (earlier ++ later)) :
    AllSteps step allowed state earlier := by
  induction earlier generalizing state with
  | nil => trivial
  | cons action rest inductionHypothesis =>
      exact ⟨steps.1, fun next taken => inductionHypothesis (steps.2 next taken)⟩

/-- A run either keeps to the condition, or ends in what a violation of it
leads to and every step preserves. -/
theorem allSteps_or_violated (allowed : State -> Action -> Prop)
    (invariant violated : State -> Prop) (usual : Action -> Prop)
    (preserved : forall state action next, invariant state -> usual action ->
      step state action = some next ->
      invariant next)
    (breaks : forall state action next, invariant state -> ¬ allowed state action ->
      step state action = some next -> violated next)
    (stays : forall state action next, invariant state -> violated state -> usual action ->
      step state action = some next -> violated next)
    {state final : State} {actions : List Action} (initially : invariant state)
    (each : forall action, action ∈ actions -> usual action)
    (finished : runActions step state actions = some final) :
    AllSteps step allowed state actions ∨ violated final := by
  have persists : forall (rest : List Action) (before : State), invariant before ->
      violated before ->
      (forall action, action ∈ rest -> usual action) -> runActions step before rest = some final ->
      violated final := by
    intro rest before holds bad usually ran
    have both := invariant_of_allSteps step (fun _ action => usual action)
      (fun reached => invariant reached ∧ violated reached)
      (fun reached action next both allowed taken =>
        ⟨preserved reached action next both.1 allowed taken,
        stays reached action next both.1 both.2 allowed taken⟩)
      ⟨holds, bad⟩ (allSteps_of_actions step before rest fun action member _ =>
        usually action member) ran
    exact both.2
  induction actions generalizing state with
  | nil => exact Or.inl trivial
  | cons action rest inductionHypothesis =>
      rcases (runActions_cons_eq_some step).mp finished with ⟨next, taken, remaining⟩
      have usually : forall later, later ∈ rest -> usual later :=
        fun later member => each later (List.mem_cons_of_mem _ member)
      have holds := preserved state action next initially (each action List.mem_cons_self) taken
      by_cases fine : allowed state action
      · refine (inductionHypothesis holds usually remaining).imp_left fun others =>
          ⟨fine, fun other reached => ?_⟩
        rw [taken] at reached
        cases reached
        exact others
      · exact Or.inr (persists rest next holds
          (breaks state action next initially fine taken) usually remaining)

/-- A ranking.  Some actions spend work and others bring it; what a run spends
is at most what there was and what it was brought. -/
theorem spent_of_run (invariant : State -> Prop) (work : State -> Nat)
    (spends brings : Action -> Nat) (preserved : forall state action next, invariant state ->
      step state action = some next -> invariant next)
    (pays : forall state action next, invariant state -> step state action = some next ->
      spends action + work next ≤ work state + brings action)
    {state final : State} {actions : List Action} (initially : invariant state)
    (finished : runActions step state actions = some final) :
    (actions.map spends).sum + work final ≤ work state + (actions.map brings).sum := by
  induction actions generalizing state with
  | nil =>
      cases finished
      simp
  | cons action rest inductionHypothesis =>
      rcases (runActions_cons_eq_some step).mp finished with ⟨next, taken, remaining⟩
      have first := pays state action next initially taken
      have others := inductionHypothesis (preserved state action next initially taken) remaining
      rw [List.map_cons, List.sum_cons, List.map_cons, List.sum_cons]
      omega

/-- Where some action of one party always brings it closer to its goal, that
party reaches the goal alone. -/
theorem reaches_of_progress (invariant goal : State -> Prop) (own : Action -> Prop)
    (work : State -> Nat) (progress : forall state, invariant state -> ¬ goal state ->
      Exists fun action => own action ∧
      Exists fun next => step state action = some next ∧ invariant next ∧ work next < work state)
    {state : State} (initially : invariant state) :
    Exists fun actions => (forall action, action ∈ actions -> own action) ∧
      Exists fun final => runActions step state actions = some final ∧ goal final := by
  induction left : work state using Nat.strongRecOn generalizing state with
  | ind left inductionHypothesis =>
      by_cases there : goal state
      · exact ⟨[], fun _ impossible => absurd impossible List.not_mem_nil, state, rfl, there⟩
      · rcases progress state initially there with ⟨action, mine, next, taken, holds, less⟩
        rcases inductionHypothesis (work next) (by omega) holds rfl
          with ⟨rest, others, final, ran, reached⟩
        refine ⟨action :: rest, fun later member => ?_, final, (runActions_cons_eq_some step).mpr
          ⟨next, taken, ran⟩,
          reached⟩
        rcases List.mem_cons.mp member with same | behind
        · rw [same]
          exact mine
        · exact others later behind

/-! ## What a run can still come to -/

/-- Some run comes to a goal. -/
def CanReach (goal : State -> Prop) (state : State) : Prop :=
  Exists fun actions => Exists fun final => runActions step state actions = some final ∧ goal final

variable {step}

theorem CanReach.here {goal : State -> Prop} {state : State} (there : goal state) :
    CanReach step goal state :=
  ⟨[], state, rfl, there⟩

theorem CanReach.after {goal : State -> Prop} {state next : State} {action : Action}
    (taken : step state action = some next) (reaches : CanReach step goal next) :
    CanReach step goal state := by
  rcases reaches with ⟨actions, final, ran, there⟩
  exact ⟨action :: actions, final, (runActions_cons_eq_some step).mpr ⟨next, taken, ran⟩, there⟩

theorem CanReach.imp {first second : State -> Prop} {state : State}
    (weaker : forall final, first final -> second final) (reaches : CanReach step first state) :
    CanReach step second state := by
  rcases reaches with ⟨actions, final, ran, there⟩
  exact ⟨actions, final, ran, weaker final there⟩

/-- From one goal to the next. -/
theorem CanReach.trans {first second : State -> Prop} {state : State}
    (reaches : CanReach step first state)
    (continues : forall middle, first middle -> CanReach step second middle) :
    CanReach step second state := by
  rcases reaches with ⟨actions, middle, ran, there⟩
  rcases continues middle there with ⟨later, final, goesOn, goal⟩
  refine ⟨actions ++ later, final, ?_, goal⟩
  rw [runActions_append, ran]
  exact goesOn

/-- What every step preserves comes along. -/
theorem CanReach.with_invariant {invariant goal : State -> Prop}
    (preserved : forall state action next, invariant state ->
      step state action = some next -> invariant next)
    {state : State} (holds : invariant state) (reaches : CanReach step goal state) :
    CanReach step (fun final => invariant final ∧ goal final) state := by
  rcases reaches with ⟨actions, final, ran, there⟩
  exact ⟨actions, final, ran, invariant_of_run step invariant preserved holds ran, there⟩

/-- What a part can reach, the whole can reach, where every step of the part is
one of the whole. -/
theorem CanReach.lift {Whole : Type w} {WholeAction : Type*}
    {wholeStep : Whole -> WholeAction -> Option Whole} (embed : State -> Whole)
    (embedAction : Action -> WholeAction)
    (commutes : forall state action next, step state action = some next ->
      wholeStep (embed state) (embedAction action) = some (embed next))
    {goal : State -> Prop} {wholeGoal : Whole -> Prop}
    (same : forall final, goal final -> wholeGoal (embed final)) {state : State}
    (reaches : CanReach step goal state) : CanReach wholeStep wholeGoal (embed state) := by
  rcases reaches with ⟨actions, final, ran, there⟩
  induction actions generalizing state with
  | nil =>
      cases ran
      exact .here (same _ there)
  | cons action rest inductionHypothesis =>
      rcases (runActions_cons_eq_some step).mp ran with ⟨next, taken, remaining⟩
      exact .after (commutes state action next taken) (inductionHypothesis remaining)

end Runs

end Foundation
end RiskSentinel
