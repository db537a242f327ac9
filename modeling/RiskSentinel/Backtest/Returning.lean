import RiskSentinel.Backtest.BacktestApp
import RiskSentinel.Events.Exhaustion
import RiskSentinel.Pipeline.Progress

namespace RiskSentinel
namespace Backtest

open Foundation Events Risk Pipeline

/-!
# Whether a backtest can still return

`BacktestApp::run` waits for the event source without a deadline, and
afterwards only for threads that it has told to stop.  The source returns when
its range is exhausted, which needs an end block that the cursor can pass.  It
is never stuck in the middle of a batch, because nobody stops the engine
before the source has been joined.

What is left is the dispatcher: `run` of the dispatcher sets its flag in its
first line, and a thread that comes to this line after the stop forgets it.
From every reachable state the backtest can still return exactly when the
range is exhaustible and this has not happened.
-/

namespace BacktestState

variable {config : BacktestConfig} {chainId : UInt64} {state next : BacktestState}

/-- The dispatcher was told to stop before it began, and has forgotten it or
will forget it. -/
structure Deaf (state : BacktestState) : Prop where
  told : state.main.dispatcherStopped = true
  forgets : state.threads.Forgetful

/-- What holds in every state, whatever deadlines expire. -/
structure Told (config : BacktestConfig) (chainId : UInt64) (state : BacktestState) : Prop where
  consistent : state.threads.Consistent
    (config.eventSource chainId) config.riskEngine backtestDispatcher
  early : state.main.pillSent = false -> state.threads.Orderly false false false
  capacity : 0 < state.threads.capacity
  ringFits : state.threads.ring.length ≤ state.threads.capacity
  sourceRuns : state.threads.sourceRunning = true
  sourceExhausted : state.threads.sourceAt = .returned ->
    state.threads.eventSource.isExhausted = true
  sourceGone : state.main ≠ .joinSource -> state.threads.sourceAt = .returned
  engine : state.main.engineStopped = true -> state.threads.engineRunning = false
  dispatcherGone : state.main = .returned -> state.threads.dispatcherAt = .returned

theorem start_told {capacity : Nat} (positive : 0 < capacity) :
    (start capacity config chainId).Told config chainId where
  consistent := Threads.start_consistent capacity
  early := fun _ => Threads.start_orderly capacity _ _ _
  capacity := positive
  ringFits := Nat.zero_le _
  sourceRuns := rfl
  sourceExhausted := fun impossible => by cases impossible
  sourceGone := fun elsewhere => absurd rfl elsewhere
  engine := fun impossible => by cases impossible
  dispatcherGone := fun impossible => by cases impossible

private theorem Told.workerStep (told : state.Told config chainId) {action : WorkerAction}
    {threads : Threads} (taken : state.threads.workerStep action = some threads) :
    { state with threads := threads }.Told config chainId where
  consistent := told.consistent.workerStep taken
  early := fun here => (told.early here).workerStep told.consistent.ordinary taken
  capacity := by
    rw [Threads.capacity_of_workerStep taken]
    exact told.capacity
  ringFits := Threads.ring_fits_of_workerStep taken told.ringFits
  sourceRuns := (Threads.sourceRunning_of_workerStep taken).trans told.sourceRuns
  sourceExhausted := by
    intro returned
    rcases Threads.exhausted_of_returns taken told.sourceRuns returned with exhausted | already
    · exact exhausted
    · rw [(Threads.source_stays_returned taken already).2.1]
      exact told.sourceExhausted already
  sourceGone := fun elsewhere => (Threads.source_stays_returned taken (told.sourceGone elsewhere)).1
  engine := fun here => (Threads.engineRunning_of_workerStep taken).trans (told.engine here)
  dispatcherGone := fun here => Threads.dispatcher_stays_returned taken (told.dispatcherGone here)

/-- The main thread only moves on. -/
private theorem Told.advance (told : state.Told config chainId) {place : BacktestAt}
    (late : place.pillSent = true) (source : state.threads.sourceAt = .returned)
    (engine : place.engineStopped = true -> state.threads.engineRunning = false)
    (dispatcher : place = .returned -> state.threads.dispatcherAt = .returned) :
    { state with main := place }.Told config chainId :=
  { told with
    early := fun early => by
      rw [show place.pillSent = true from late] at early
      cases early
    sourceGone := fun _ => source
    engine := engine
    dispatcherGone := dispatcher }

private theorem Told.mainStep (told : state.Told config chainId)
    (taken : state.mainStep = some next) : next.Told config chainId := by
  cases move_of_mainStep taken with
  | sourceJoined here returned =>
      exact { told with
        early := fun _ => told.early (by rw [here]; rfl)
        sourceGone := fun _ => returned
        engine := fun impossible => by cases impossible
        dispatcherGone := fun impossible => by cases impossible }
  | pillPushed here threads pushed =>
      have source := told.sourceGone (by rw [here]; decide)
      have consistent := told.consistent.tryPushPill pushed
      rcases Threads.tryPushPill_eq_some pushed with ⟨room, rfl⟩
      exact { told with
        consistent := consistent
        early := fun impossible => by cases impossible
        ringFits := by
          change (state.threads.ring ++ [poisonPill]).length ≤ state.threads.capacity
          rw [List.length_append, List.length_singleton]
          exact room
        sourceGone := fun _ => source
        engine := fun impossible => by cases impossible
        dispatcherGone := fun impossible => by cases impossible }
  | waits => exact told
  | engineAwaited here finished =>
      exact told.advance rfl (told.sourceGone (by rw [here]; decide))
        (fun impossible => by cases impossible) (fun impossible => by cases impossible)
  | engineStopped here =>
      exact { told with
        consistent := told.consistent.stopEngine
        early := fun impossible => by cases impossible
        sourceGone := fun _ => told.sourceGone (by rw [here]; decide)
        engine := fun _ => rfl
        dispatcherGone := fun impossible => by cases impossible }
  | engineJoined here =>
      exact told.advance rfl (told.sourceGone (by rw [here]; decide))
        (fun _ => told.engine (by rw [here]; rfl)) (fun impossible => by cases impossible)
  | dispatcherStopped here =>
      exact { told with
        consistent := told.consistent.stopDispatcher
        early := fun impossible => by cases impossible
        sourceGone := fun _ => told.sourceGone (by rw [here]; decide)
        engine := fun _ => told.engine (by rw [here]; rfl)
        dispatcherGone := fun impossible => by cases impossible }
  | dispatcherJoined here returned =>
      exact told.advance rfl (told.sourceGone (by rw [here]; decide))
        (fun _ => told.engine (by rw [here]; rfl)) (fun _ => returned)

theorem Told.step {action : BacktestAction} (told : state.Told config chainId)
    (taken : state.step action = some next) : next.Told config chainId := by
  cases action with
  | worker action =>
      rcases Option.map_eq_some_iff.mp taken with ⟨threads, moved, rfl⟩
      exact told.workerStep moved
  | main => exact told.mainStep taken
  | deadline =>
      simp only [BacktestState.step, deadlineStep] at taken
      split at taken
      next here =>
        cases taken
        exact told.advance rfl (told.sourceGone (by rw [here]; decide))
          (fun impossible => by cases impossible) (fun impossible => by cases impossible)
      next here =>
        cases taken
        exact told.advance rfl (told.sourceGone (by rw [here]; decide))
          (fun impossible => by cases impossible) (fun impossible => by cases impossible)
      next => cases taken

/-! ## What never ends -/

/-- The source stands where the loop on the same answers stands. -/
private theorem Told.cursor_config (told : state.Told config chainId) :
    state.threads.cursor.config = (config.eventSource chainId).config := by
  rw [← told.consistent.cursor]
  exact EventSource.run_config _ _

/-- With an endless range the source never returns. -/
private theorem Told.source_busy (told : state.Told config chainId)
    (endless : ¬ EventSource.Exhaustible (config.eventSource chainId).config) :
    state.threads.sourceAt ≠ .returned := by
  intro returned
  have exhausted := told.sourceExhausted returned
  have sameConfig := told.cursor_config
  rw [Threads.cursor, returned] at sameConfig
  rw [EventSource.not_isExhausted (by rw [sameConfig]; exact endless)] at exhausted
  cases exhausted

/-- A dispatcher that has forgotten its stop serves forever. -/
private theorem Deaf.step {action : BacktestAction} (deaf : state.Deaf)
    (taken : state.step action = some next) : next.Deaf := by
  have told := deaf.told
  cases action with
  | worker action =>
      rcases Option.map_eq_some_iff.mp taken with ⟨threads, moved, rfl⟩
      exact ⟨told, deaf.forgets.workerStep moved⟩
  | main =>
      cases move_of_mainStep taken with
      | waits => exact deaf
      | dispatcherJoined here returned => exact absurd returned deaf.forgets.busy
      | sourceJoined here | pillPushed here | engineAwaited here | engineStopped here
          | engineJoined here
      | dispatcherStopped here =>
          rw [here] at told
          cases told
  | deadline =>
      simp only [BacktestState.step, deadlineStep] at taken
      split at taken
      next here =>
        rw [here] at told
        cases told
      next here =>
        rw [here] at told
        cases told
      next => cases taken

/-! ## The threads alone -/

/-- What the threads can reach by steps of their own, the backtest can
reach. -/
private theorem reaches_of_threads {goal : Threads -> Prop}
    (reaches : CanReach Threads.workerStep goal state.threads) :
    CanReach step (fun final => final.main = state.main ∧ goal final.threads) state := by
  apply CanReach.lift (fun threads =>
    ({ threads := threads, main := state.main } : BacktestState)) .worker _ _ reaches
  · intro threads action next taken
    exact Option.map_eq_some_iff.mpr ⟨next, taken, rfl⟩
  · exact fun final there => ⟨rfl, there⟩

/-! ## After the source -/

private theorem ends_at_joinDispatcher (here : state.main = .joinDispatcher)
    (obedient : state.threads.Obedient) :
    CanReach step (fun final => final.main = .returned) state := by
  refine (reaches_of_threads (Threads.dispatcher_returns obedient)).trans ?_
  rintro middle ⟨main, _, _, returned⟩
  have taken : middle.step .main = some { middle with main := .returned } := by
    simp [BacktestState.step, BacktestState.mainStep, main, here, returned]
  exact .after taken (.here rfl)

private theorem ends_at_stopDispatcher (here : state.main = .stopDispatcher)
    (begun : state.threads.dispatcherAt ≠ .notStarted) :
    CanReach step (fun final => final.main = .returned) state := by
  have taken : state.step .main =
      some { threads := state.threads.stopDispatcher, main := .joinDispatcher } := by
    simp [BacktestState.step, BacktestState.mainStep, here]
  exact .after taken (ends_at_joinDispatcher rfl (Or.inr ⟨begun, rfl⟩))

private theorem ends_at_joinEngine (here : state.main = .joinEngine)
    (stopped : state.threads.engineRunning = false)
    (begun : state.threads.dispatcherAt ≠ .notStarted) :
    CanReach step (fun final => final.main = .returned) state := by
  refine (reaches_of_threads (Threads.engine_returns stopped)).trans ?_
  rintro middle ⟨main, moved, returned⟩
  have taken : middle.step .main = some { middle with main := .stopDispatcher } := by
    simp [BacktestState.step, BacktestState.mainStep, main, here, returned]
  exact .after taken (ends_at_stopDispatcher rfl (by rw [moved.dispatcherAt]; exact begun))

private theorem ends_at_stopEngine (here : state.main = .stopEngine)
    (begun : state.threads.dispatcherAt ≠ .notStarted) :
    CanReach step (fun final => final.main = .returned) state := by
  have taken : state.step .main = some { threads := state.threads.stopEngine, main := .joinEngine } := by
    simp [BacktestState.step, BacktestState.mainStep, here]
  exact .after taken (ends_at_joinEngine rfl rfl begun)

/-- At the latest the deadline ends the wait for the engine. -/
private theorem ends_at_awaitEngine (here : state.main = .awaitEngine)
    (begun : state.threads.dispatcherAt ≠ .notStarted) :
    CanReach step (fun final => final.main = .returned) state := by
  have taken : state.step .deadline = some { state with main := .stopEngine } := by
    simp [BacktestState.step, deadlineStep, here]
  exact .after taken (ends_at_stopEngine rfl begun)

private theorem ends_at_pushPill (here : state.main = .pushPill)
    (begun : state.threads.dispatcherAt ≠ .notStarted) :
    CanReach step (fun final => final.main = .returned) state := by
  have taken : state.step .deadline = some { state with main := .awaitEngine } := by
    simp [BacktestState.step, deadlineStep, here]
  exact .after taken (ends_at_awaitEngine rfl begun)

/-! ## The source -/

/-- The source has returned, and the main thread can join it. -/
def SourceGone (state final : BacktestState) : Prop :=
  final.main = .joinSource ∧ final.threads.sourceAt = .returned ∧
    final.threads.dispatcherAt = state.threads.dispatcherAt

private theorem gone_after {middle : BacktestState} {action : BacktestAction}
    (taken : state.step action = some middle)
    (same : middle.threads.dispatcherAt = state.threads.dispatcherAt)
    (gone : CanReach step middle.SourceGone middle) : CanReach step state.SourceGone state :=
  .after taken (gone.imp fun _ done => ⟨done.1, done.2.1, done.2.2.trans same⟩)

section Source

variable (exhaustible : EventSource.Exhaustible (config.eventSource chainId).config)

include exhaustible in
private theorem Told.cursor_sound (told : state.Told config chainId) :
    state.threads.cursor.Sound ∧ EventSource.Exhaustible state.threads.cursor.config := by
  have sound : (config.eventSource chainId).Sound := EventSource.create_sound _ _ rfl
  constructor
  · rw [← told.consistent.cursor]
    exact sound.run exhaustible _
  · rw [told.cursor_config]
    exact exhaustible

include exhaustible in
/-- From the head of its loop the source polls until its range is exhausted. -/
private theorem source_exhausts (told : state.Told config chainId) (here : state.main = .joinSource)
    (head : state.threads.sourceAt = .loopHead) : CanReach step state.SourceGone state := by
  induction same : state.threads.eventSource.remaining using Nat.strongRecOn generalizing state with
  | ind left inductionHypothesis =>
      have cursor : state.threads.cursor = state.threads.eventSource := by rw [Threads.cursor, head]
      have sound := told.cursor_sound exhaustible
      rw [cursor] at sound
      cases more : state.threads.eventSource.isExhausted with
      | true =>
          have taken : state.step (.worker .sourceCheck) =
              some { state with threads := { state.threads with sourceAt := .returned } } := by
            simp [BacktestState.step, Threads.workerStep, Threads.sourceCheck, head, more]
          exact .after taken (.here ⟨here, rfl, rfl⟩)
      | false =>
          let env := EventSource.emptyNode state.threads.eventSource.config.backtestEndBlock
          have empty := EventSource.pollOnce_empty sound.1 sound.2 more
          let polling : BacktestState :=
            { state with threads := { state.threads with sourceAt := .polling } }
          let polled : BacktestState := { state with threads := { state.threads with
            sourceAt := .pushing [] (state.threads.eventSource.pollOnce env).source
            history := { state.threads.history
              with polls := state.threads.history.polls ++ [env] } } }
          let turned : BacktestState := { polled with threads := { polled.threads with
            eventSource := (state.threads.eventSource.pollOnce env).source,
              sourceAt := .loopHead } }
          have enters : state.step (.worker .sourceCheck) = some polling := by
            simp [BacktestState.step, Threads.workerStep, Threads.sourceCheck, head, more,
              told.sourceRuns, polling]
          have polls : polling.step (.worker (.sourcePoll env)) = some polled := by
            simp [BacktestState.step, Threads.workerStep, Threads.sourcePoll, polling,
              polled, env, empty.1]
          have completes : polled.step (.worker .sourcePush) = some turned := by
            simp [BacktestState.step, Threads.workerStep, Threads.sourcePush, polled, turned]
          have toldThen := ((told.step enters).step polls).step completes
          have less : turned.threads.eventSource.remaining < left := same ▸ empty.2
          exact gone_after enters rfl (gone_after polls rfl (gone_after completes rfl
            (inductionHypothesis _ less toldThen here rfl rfl)))

/-- As long as the source has not been joined, the engine runs. -/
private theorem Told.not_cramped (told : state.Told config chainId)
    (here : state.main = .joinSource) : ¬ state.threads.Cramped := by
  intro cramped
  have orderly := told.early (by rw [here]; rfl)
  rcases cramped.leaves with stopped | left
  · rw [orderly.engineFlag] at stopped
    cases stopped
  · have pills := orderly.pills
    rw [orderly.leavesDrained left] at pills
    change _ + 1 = 0 at pills
    omega

include exhaustible in
private theorem source_returns (told : state.Told config chainId)
    (here : state.main = .joinSource) : CanReach step state.SourceGone state := by
  have from_batch : forall {before : BacktestState} {batch : List Signal} {moved : EventSource},
      before.Told config chainId -> before.main = .joinSource ->
      before.threads.sourceAt = .pushing batch moved ->
      CanReach step before.SourceGone before := by
    intro before batch moved toldBefore stands pushing
    have pushed := (reaches_of_threads
      (Threads.batch_pushed pushing toldBefore.capacity toldBefore.ringFits
      (toldBefore.not_cramped stands))).with_invariant
        (fun _ _ _ holds taken => Told.step holds taken) toldBefore
    refine pushed.trans ?_
    rintro middle ⟨toldThen, main, done⟩
    refine (source_exhausts exhaustible toldThen
      (main.trans stands) done.sourceAt).imp fun _ gone => ?_
    exact ⟨gone.1, gone.2.1, gone.2.2.trans done.dispatcherAt⟩
  cases stands : state.threads.sourceAt with
  | returned => exact .here ⟨here, stands, rfl⟩
  | loopHead => exact source_exhausts exhaustible told here stands
  | pushing batch moved => exact from_batch told here stands
  | polling =>
      let env := EventSource.emptyNode 0
      let polled : BacktestState := { state with threads := { state.threads with
        sourceAt := .pushing (state.threads.eventSource.pollOnce env).pushed
          (state.threads.eventSource.pollOnce env).source
        history := { state.threads.history with polls := state.threads.history.polls ++ [env] } } }
      have taken : state.step (.worker (.sourcePoll env)) = some polled := by
        simp [BacktestState.step, Threads.workerStep, Threads.sourcePoll, stands, polled]
      exact gone_after taken rfl (from_batch (told.step taken) here rfl)

/-! ## The end -/

include exhaustible in
private theorem ends_when_begun (told : state.Told config chainId)
    (begun : state.threads.dispatcherAt ≠ .notStarted) (hears : ¬ state.Deaf) :
    CanReach step (fun final => final.main = .returned) state := by
  cases here : state.main with
  | returned => exact .here here
  | joinDispatcher =>
      apply ends_at_joinDispatcher here
      exact Threads.obedient_of_not_forgetful begun fun forgets =>
        hears ⟨by rw [here]; rfl, forgets⟩
  | stopDispatcher => exact ends_at_stopDispatcher here begun
  | joinEngine => exact ends_at_joinEngine here (told.engine (by rw [here]; rfl)) begun
  | stopEngine => exact ends_at_stopEngine here begun
  | awaitEngine => exact ends_at_awaitEngine here begun
  | pushPill => exact ends_at_pushPill here begun
  | joinSource =>
      refine (source_returns exhaustible told here).trans ?_
      rintro middle ⟨main, returned, same⟩
      have taken : middle.step .main = some { middle with main := .pushPill } := by
        simp [BacktestState.step, BacktestState.mainStep, main, returned]
      exact .after taken (ends_at_pushPill rfl (by rw [same]; exact begun))

include exhaustible in
private theorem ends_of_not_deaf (told : state.Told config chainId) (hears : ¬ state.Deaf) :
    CanReach step (fun final => final.main = .returned) state := by
  by_cases notStarted : state.threads.dispatcherAt = .notStarted
  · let begun : BacktestState :=
      { state with threads := { state.threads with dispatcherRunning := true, dispatcherAt := .waiting } }
    have taken : state.step (.worker .dispatcherStart) = some begun := by
      simp [BacktestState.step, Threads.workerStep, Threads.dispatcherStart, notStarted, begun]
    have stillHears : ¬ begun.Deaf := fun deaf =>
      hears ⟨deaf.told, by rw [notStarted]; decide, Or.inl notStarted⟩
    exact .after taken (ends_when_begun exhaustible (told.step taken)
      (by intro impossible; cases impossible) stillHears)
  · exact ends_when_begun exhaustible told notStarted hears

end Source

/-- From every state that a backtest reaches, in any interleaving, whatever the
nodes answer and whichever deadlines have expired, `run` can still return
exactly when the end block is neither 0 nor the largest number and the
dispatcher has not forgotten its stop. -/
theorem backtest_can_return_iff {capacity : Nat} (positive : 0 < capacity)
    (actions : List BacktestAction)
    (ran : runActions step (start capacity config chainId) actions = some state) :
    CanReach step (fun final => final.main = .returned) state ↔
      (config.endBlock ≠ 0 ∧ config.endBlock.toNat < 2 ^ 64 - 1) ∧ ¬ state.Deaf := by
  have preserved : forall (before : BacktestState) (action : BacktestAction)
      (after : BacktestState),
      before.Told config chainId -> before.step action = some after -> after.Told config chainId :=
    fun _ _ _ told taken => told.step taken
  have told := invariant_of_run step (fun reached => reached.Told config chainId) preserved
    (start_told positive) ran
  constructor
  · rintro ⟨later, final, goesOn, returned⟩
    have last := invariant_of_run step
      (fun reached => reached.Told config chainId) preserved told goesOn
    constructor
    · by_contra endless
      exact last.source_busy endless (last.sourceGone (by rw [returned]; decide))
    · intro deaf
      have still := invariant_of_run step Deaf
        (fun _ _ _ holds taken => holds.step taken) deaf goesOn
      exact still.forgets.busy (last.dispatcherGone returned)
  · rintro ⟨exhaustible, hears⟩
    exact ends_of_not_deaf exhaustible told hears

/-- The thread of the dispatcher comes to its first line when everything else is
over. -/
def overtaken : List BacktestAction :=
  [.worker .sourceCheck, .worker (.sourcePoll (EventSource.emptyNode 601)), .worker .sourcePush,
    .worker .sourceCheck, .worker (.sourcePoll (EventSource.emptyNode 601)), .worker .sourcePush,
    .worker .sourceCheck, .main, .main, .worker .engineCheck, .worker .engineRead,
    .worker .engineCheck, .worker .engineRead, .worker .engineFinish, .main, .main, .main, .main,
    .worker .dispatcherStart]

/-- This backtest then waits for the dispatcher forever, and all the others can
return. -/
theorem overtaken_never_returns :
    CanReach step (fun final => final.main = .returned) (start 65536 watchedContract 1) ∧
      Exists fun final => runActions step (start 65536 watchedContract 1) overtaken = some final ∧
        ¬ CanReach step (fun last => last.main = .returned) final := by
  constructor
  · refine (backtest_can_return_iff (by decide) [] rfl).mpr ⟨by decide, fun deaf => ?_⟩
    cases deaf.told
  · have shape : (runActions step (start 65536 watchedContract 1) overtaken).map (fun final =>
        (final.main, final.threads.dispatcherAt, final.threads.dispatcherRunning)) =
          some (.joinDispatcher, .waiting, true) := by
      decide +kernel
    rcases Option.map_eq_some_iff.mp shape with ⟨final, ran, facts⟩
    simp only [Prod.mk.injEq] at facts
    refine ⟨final, ran, fun returns => ?_⟩
    have hears := ((backtest_can_return_iff (by decide) overtaken ran).mp returns).2
    exact hears ⟨by rw [facts.1]; rfl, by rw [facts.2.1]; decide, Or.inr facts.2.2⟩

end BacktestState

end Backtest
end RiskSentinel
