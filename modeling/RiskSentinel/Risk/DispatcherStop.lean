import RiskSentinel.Risk.DispatcherLoop

namespace RiskSentinel
namespace Risk

open Foundation

/-!
# Stopping the dispatcher

`running_` is false when the dispatcher is constructed, `run` sets it as its
first step and `stop` clears it.  A call of `stop` that comes before this first
step is undone by it.  The event source and the engine construct their flags
as true and their loops never set them.

After a call of `stop` that finds the loop begun the flag stays clear, and a
measure of what is left to do bounds the steps of the thread: every alert
brings at most the same number of steps, and with nothing left the thread has
returned.
-/

/-- `run` has done its first step. -/
def Place.begun : Place -> Bool
  | .notStarted => false
  | _ => true

/-- The calls of `stop` clear the flag only after `run` has set it. -/
def StopsWhenBegun (state : LoopState) : LoopAction -> Prop
  | .stopStore => state.place.begun = true
  | _ => True

instance (state : LoopState) : forall action, Decidable (StopsWhenBegun state action)
  | .stopStore => inferInstanceAs (Decidable (state.place.begun = true))
  | .start | .advance | .wake | .timeout | .judge _ | .send _ | .dispatch _ | .stopReturn
      | .requestStop =>
      isTrue trivial

namespace LoopAction

/-- The steps of the thread of `run`. -/
def ofRunThread : LoopAction -> Bool
  | .start | .advance | .wake | .timeout | .judge _ | .send _ => true
  | .dispatch _ | .stopStore | .stopReturn | .requestStop => false

/-- The steps that ask the loop to leave. -/
def stops : LoopAction -> Bool
  | .stopStore | .requestStop => true
  | _ => false

/-- One step of the thread of `run`. -/
def spends (action : LoopAction) : Nat :=
  if action.ofRunThread then 1 else 0

/-- An alert brings one turn of the loop. -/
def brings (turn : Nat) : LoopAction -> Nat
  | .dispatch _ => turn
  | _ => 0

end LoopAction

/-- The steps of one turn, at most, when the flag is clear. -/
def turnSteps (channels : Nat) : Nat := channels + 7

/-- The steps that are left when the flag is clear and the queue empty. -/
def Place.stepsLeft (channels : Nat) : Place -> Nat
  | .notStarted => 0
  | .returned => 0
  | .leaving => 1
  | .decided true => 2
  | .askingRunning => 3
  | .testingRunning => 4
  | .testingQueue => 5
  | .loopHead => 6
  | .waiting => 6
  | .testingToken => 7
  | .decided false => 7
  | .askingToken => 8
  | .sending _ outcomes => 7 + (channels - outcomes.length)
  | .taken _ => 8 + channels

/-- What is left to do for the thread when the flag is clear. -/
def LoopState.stepsLeft (channels : Nat) (state : LoopState) : Nat :=
  state.queue.length * turnSteps channels + state.place.stepsLeft channels

/-- The loop has begun and the flag is clear. -/
structure Stopped (initial : AlertDispatcher) (state : LoopState) : Prop where
  refines : Refines initial state
  clear : state.running = false
  begun : state.place.begun = true

namespace Stopped

variable {initial : AlertDispatcher} {state : LoopState}

/-- Only the first step of `run` sets the flag. -/
theorem step {next : LoopState} {action : LoopAction} (stopped : Stopped initial state)
    (taken : state.step action = some next) : Stopped initial next := by
  have begun := stopped.begun
  have clear := stopped.clear
  refine ⟨stopped.refines.step taken, ?_, ?_⟩
  · cases moves_of_step taken with
    | started here =>
        rw [here] at begun
        cases begun
    | judges here nowMs =>
        unfold LoopState.judge
        dsimp only
        split <;> exact clear
    | stores => rfl
    | _ => exact clear
  · cases moves_of_step taken with
    | judges here nowMs =>
        unfold LoopState.judge
        dsimp only
        split <;> rfl
    | arrives _ alert => exact begun
    | stores => exact begun
    | stopReturns _ => exact begun
    | requests => exact begun
    | _ => rfl

/-- A step of the thread to a place with less to do. -/
private theorem pays_of_place {channels alerts : Nat} {before after : Place}
    (less : after.stepsLeft channels < before.stepsLeft channels) :
    1 + (alerts * turnSteps channels + after.stepsLeft channels) ≤
      alerts * turnSteps channels + before.stepsLeft channels + 0 := by
  omega

/-- What is left to do shrinks with every step of the thread and grows only
with an alert. -/
theorem pays {next : LoopState} {action : LoopAction} (stopped : Stopped initial state)
    (taken : state.step action = some next) :
    action.spends + next.stepsLeft initial.channels.length ≤
      state.stepsLeft initial.channels.length + action.brings
        (turnSteps initial.channels.length) := by
  have begun := stopped.begun
  have clear := stopped.clear
  cases moves_of_step taken with
  -- With the flag clear, the steps that need it set are not enabled.
  | started here =>
      rw [here] at begun
      cases begun
  | goesOn _ running =>
      rw [clear] at running
      cases running
  | asks _ running =>
      rw [clear] at running
      cases running
  | locks here => exact pays_of_place (by simp [Place.stepsLeft, here])
  | findsEmpty here _ => exact pays_of_place (by simp [Place.stepsLeft, here])
  | findsAlert here _ => exact pays_of_place (by simp [Place.stepsLeft, here])
  | findsStopped here _ => exact pays_of_place (by simp [Place.stepsLeft, here])
  | findsRequest here _ => exact pays_of_place (by simp [Place.stepsLeft, here])
  | waits here _ => exact pays_of_place (by simp [Place.stepsLeft, here])
  | shutsDown here _ => exact pays_of_place (by simp [Place.stepsLeft, here])
  | exits here _ => exact pays_of_place (by simp [Place.stepsLeft, here])
  | continues here _ => exact pays_of_place (by simp [Place.stepsLeft, here])
  | returns here => exact pays_of_place (by simp [Place.stepsLeft, here])
  | wakes here => exact pays_of_place (by simp [Place.stepsLeft, here])
  | timesOut here => exact pays_of_place (by simp [Place.stepsLeft, here])
  | finishes here _ => exact pays_of_place (by simp [Place.stepsLeft, here]; omega)
  | decides here =>
      refine pays_of_place ?_
      rw [here]
      cases state.stopRequested <;> simp [Place.stepsLeft]
  | sends here registered outcome =>
      have inside := (List.getElem?_eq_some_iff.mp registered).1
      rw [stopped.refines.channels] at inside
      refine pays_of_place ?_
      rw [here]
      simp only [LoopState.callChannel, Place.stepsLeft, List.length_append, List.length_singleton]
      omega
  | judges here nowMs =>
      unfold LoopState.judge
      dsimp only
      split
      · exact pays_of_place (by simp [Place.stepsLeft, here]; omega)
      · exact pays_of_place (by simp [Place.stepsLeft, here])
  -- The alert leaves the queue and takes the steps of its turn with it.
  | @takes isShutdown _ rest here front =>
      have before : 2 ≤ (Place.decided isShutdown).stepsLeft initial.channels.length := by
        cases isShutdown <;> simp [Place.stepsLeft]
      unfold LoopState.stepsLeft
      rw [here, front, List.length_cons, Nat.succ_mul]
      change 1 + (rest.length * turnSteps initial.channels.length + (8 + initial.channels.length)) ≤
        _ + 0
      simp only [turnSteps] at before ⊢
      omega
  | arrives _ alert =>
      have longer : (state.queue ++ [alert]).length * turnSteps initial.channels.length =
          state.queue.length * turnSteps initial.channels.length +
            turnSteps initial.channels.length := by
        rw [List.length_append, List.length_singleton, Nat.succ_mul]
      have bound : 0 + ((state.queue ++ [alert]).length * turnSteps initial.channels.length +
            state.place.stepsLeft initial.channels.length) ≤
          state.queue.length * turnSteps initial.channels.length +
              state.place.stepsLeft initial.channels.length +
            turnSteps initial.channels.length := by
        rw [longer]
        omega
      exact bound
  | stores => exact Nat.le_of_eq (Nat.zero_add _)
  | stopReturns _ => exact Nat.le_of_eq (Nat.zero_add _)
  | requests => exact Nat.le_of_eq (Nat.zero_add _)

/-- Until it has returned the thread always has a step. -/
theorem enabled (stopped : Stopped initial state) (remains : state.place ≠ .returned) :
    Exists fun action => action.ofRunThread = true ∧
    Exists fun next => state.step action = some next := by
  have begun := stopped.begun
  cases here : state.place with
  | notStarted =>
      rw [here] at begun
      cases begun
  | returned => exact absurd here remains
  | waiting => exact ⟨.timeout, rfl, _, by simp only [LoopState.step, here]; rfl⟩
  | taken alert => exact ⟨.judge 0, rfl, _, by simp only [LoopState.step, here]; rfl⟩
  | decided isShutdown =>
      refine ⟨.advance, rfl, Option.isSome_iff_exists.mp ?_⟩
      simp only [LoopState.step, LoopState.advance, here]
      cases state.queue with
      | nil => cases isShutdown <;> rfl
      | cons alert rest => rfl
  | sending item outcomes =>
      by_cases complete : outcomes.length = state.dispatcher.channels.length
      · exact ⟨.advance, rfl, _,
          by simp only [LoopState.step, LoopState.advance, here]; exact if_pos complete⟩
      · have inside : outcomes.length < state.dispatcher.channels.length := by
          have bound := (stopped.refines.fan_out here).1
          rw [← stopped.refines.channels] at bound
          omega
        exact ⟨.send .sent, rfl, _, by
          simp only [LoopState.step, here, LoopState.sendNext, List.getElem?_eq_getElem inside]
          rfl⟩
  | _ => exact ⟨.advance, rfl, _, by simp only [LoopState.step, LoopState.advance, here]; rfl⟩

/-- The thread alone comes to its end. -/
theorem returns_alone (stopped : Stopped initial state) :
    Exists fun actions =>
    (forall action, action ∈ actions -> LoopAction.ofRunThread action = true) ∧
      Exists fun final => runActions LoopState.step state actions = some final ∧
      final.place = .returned := by
  refine reaches_of_progress LoopState.step (Stopped initial)
    (fun reached => reached.place = .returned)
    (fun action => LoopAction.ofRunThread action = true)
      (LoopState.stepsLeft initial.channels.length) ?_ stopped
  intro before holds remains
  rcases holds.enabled remains with ⟨action, own, next, taken⟩
  refine ⟨action, own, next, taken, holds.step taken, ?_⟩
  have paid := holds.pays taken
  cases action with
  | dispatch _ => cases own
  | stopStore => cases own
  | stopReturn => cases own
  | requestStop => cases own
  | _ =>
      simp only [LoopAction.spends, LoopAction.ofRunThread, LoopAction.brings, if_true] at paid
      omega

end Stopped

/-- Where every call of `stop` finds the loop begun: a call that has cleared the
flag leaves it clear. -/
private theorem clear_or_unstopped {initial : AlertDispatcher} {actions : List LoopAction}
    {state : LoopState} (guarded : AllSteps LoopState.step StopsWhenBegun (newLoop initial) actions)
    (ran : runActions LoopState.step (newLoop initial) actions = some state) :
    state.stopsStored + state.stopsReturned = 0 ∨ Stopped initial state := by
  have both := invariant_of_allSteps LoopState.step StopsWhenBegun
    (fun reached => Refines initial reached ∧
      (reached.stopsStored + reached.stopsReturned = 0 ∨ Stopped initial reached)) ?_
    ⟨refines_newLoop initial, Or.inl rfl⟩ guarded ran
  · exact both.2
  · rintro before action next ⟨refines, unstopped | stopped⟩ inTime taken
    · refine ⟨refines.step taken, ?_⟩
      have after := refines.step taken
      cases moves_of_step taken with
      | stores => exact Or.inr ⟨after, rfl, inTime⟩
      | stopReturns pending =>
          rw [pending] at unstopped
          omega
      | judges here nowMs =>
          refine Or.inl ?_
          unfold LoopState.judge
          dsimp only
          split <;> exact unstopped
      | _ => exact Or.inl unstopped
    · exact ⟨refines.step taken, Or.inr (stopped.step taken)⟩

/-- Every interleaving of `run` with calls of `stop`, `dispatch` and a request
through the token, in which no call of `stop` clears the flag before the first
step of `run`.  When a call of `stop` has returned the flag is clear.  From
there, whatever the threads do, the thread of `run` takes at most the steps
that were left and those of the alerts that still arrive, and at every moment
it comes to its end alone: with nothing arriving the join completes. -/
theorem stop_kept_when_begun {initial : AlertDispatcher} {actions : List LoopAction}
    {state : LoopState} (guarded : AllSteps LoopState.step StopsWhenBegun (newLoop initial) actions)
    (ran : runActions LoopState.step (newLoop initial) actions = some state)
    (stopped : 0 < state.stopsReturned) :
    state.running = false ∧
    forall (later : List LoopAction) (next : LoopState),
    runActions LoopState.step state later = some next ->
      next.running = false ∧
      (later.map LoopAction.spends).sum + next.stepsLeft initial.channels.length ≤
        state.stepsLeft initial.channels.length +
          (later.map (LoopAction.brings (turnSteps initial.channels.length))).sum ∧
      Exists fun own => (forall action, action ∈ own -> LoopAction.ofRunThread action = true) ∧
        Exists fun final => runActions LoopState.step next own = some final ∧
        final.place = .returned := by
  have now : Stopped initial state := by
    rcases clear_or_unstopped guarded ran with unstopped | holds
    · omega
    · exact holds
  refine ⟨now.clear, fun later next continued => ?_⟩
  have stays : forall before action after, Stopped initial before ->
      before.step action = some after ->
      Stopped initial after := fun _ _ _ holds taken => holds.step taken
  have afterwards := invariant_of_run LoopState.step (Stopped initial) stays now continued
  exact ⟨afterwards.clear, spent_of_run LoopState.step (Stopped initial)
    (LoopState.stepsLeft initial.channels.length)
    LoopAction.spends (LoopAction.brings (turnSteps initial.channels.length)) stays
    (fun _ _ _ holds taken => holds.pays taken) now continued, afterwards.returns_alone⟩

/-- A dispatcher with the file channel alone. -/
private def fileDispatcher : AlertDispatcher where
  channels := ["file"]
  deduplicator := .create .production

private def stopAfterStart : List LoopAction := [.start, .advance, .stopStore, .stopReturn]

theorem stop_after_start_kept :
    Exists fun state => runActions LoopState.step
      (newLoop fileDispatcher) stopAfterStart = some state ∧
      state.running = false :=
  ⟨_, rfl, (@stop_kept_when_begun fileDispatcher stopAfterStart _
    (by decide +kernel) rfl (by decide)).1⟩

/-! ## A call that comes before the first step -/

/-- A place in the loop that is not on the way out. -/
private def Place.goesRound : Place -> Bool
  | .notStarted | .decided true | .leaving | .returned => false
  | _ => true

/-- The loop goes round with its flag set and no request through the token. -/
private structure Spinning (state : LoopState) : Prop where
  set : state.running = true
  unrequested : state.stopRequested = false
  inside : state.place.goesRound = true

/-- Without another call of `stop` or a request the loop never leaves. -/
private theorem Spinning.step {state next : LoopState} {action : LoopAction}
    (spinning : Spinning state) (goesOn : action.stops = false)
    (taken : state.step action = some next) : Spinning next := by
  have inside := spinning.inside
  have set := spinning.set
  cases moves_of_step taken with
  | stores => cases goesOn
  | requests => cases goesOn
  | started here =>
      rw [here] at inside
      cases inside
  | exits here _ =>
      rw [here] at inside
      cases inside
  | returns here =>
      rw [here] at inside
      cases inside
  | shutsDown _ stopped =>
      rw [set] at stopped
      cases stopped
  -- Neither half of the test for shutdown holds.
  | decides _ =>
      refine ⟨set, spinning.unrequested, ?_⟩
      rw [spinning.unrequested]
      rfl
  | judges _ nowMs =>
      unfold LoopState.judge
      dsimp only
      split <;> exact ⟨set, spinning.unrequested, rfl⟩
  | arrives _ alert => exact ⟨set, spinning.unrequested, inside⟩
  | stopReturns _ => exact ⟨set, spinning.unrequested, inside⟩
  | _ => exact ⟨set, spinning.unrequested, rfl⟩

/-- A call of `stop` comes and returns before the first step of `run`, and
nobody calls it again: the loop never leaves, and the join never completes. -/
theorem early_stop_lost :
    Exists fun state => runActions LoopState.step (newLoop fileDispatcher)
      [.stopStore, .stopReturn, .start] = some state ∧
      state.stopsReturned = 1 ∧ state.running = true ∧
      forall (later : List LoopAction) (next : LoopState),
        (forall action, action ∈ later -> LoopAction.stops action = false) ->
        runActions LoopState.step state later = some next -> next.running = true ∧
        next.place ≠ .returned := by
  refine ⟨_, rfl, rfl, rfl, fun later next without continued => ?_⟩
  have spinning := invariant_of_allSteps LoopState.step
    (fun _ action => LoopAction.stops action = false) Spinning
    (fun _ _ _ holds goesOn taken => holds.step goesOn taken) ⟨rfl, rfl, rfl⟩
    (allSteps_of_actions LoopState.step _ later fun action member _ =>
      without action member) continued
  refine ⟨spinning.set, fun gone => ?_⟩
  have inside := spinning.inside
  rw [gone] at inside
  cases inside

end Risk
end RiskSentinel
