import RiskSentinel.App.RingWedge
import RiskSentinel.Pipeline.Progress

namespace RiskSentinel
namespace App

open Foundation Events Risk Pipeline

/-!
# Whether a shutdown can still end

The main thread returns when it has joined the three threads.  Two things can
make that impossible.  The event source may hold more signals than the ring
will ever take, because the engine is gone or is about to leave.  And the
dispatcher may have been told to stop before its thread came to the first line
of `run`, which sets the flag again.

Nothing else can.  From every state that the program reaches, with or without
expired timeouts and for a ring of any positive capacity, the shutdown can end
exactly when neither has happened.
-/

namespace AppState

variable {source : EventSource} {engine : RiskEngine} {dispatcher : AlertDispatcher}
    {state next : AppState}

/-- The dispatcher was told to stop before it began, and has forgotten it or
will forget it. -/
structure Deaf (state : AppState) : Prop where
  told : state.main.dispatcherStopped = true
  forgets : state.threads.Forgetful

/-! ## What the main thread has seen to -/

/-- What holds in every state besides `Bounded`: what the main thread has told
the others, and whom it has joined. -/
structure Told (state : AppState) : Prop where
  capacity : 0 < state.threads.capacity
  source : state.main ≠ .serving -> state.main ≠ .stopSource -> state.threads.sourceRunning = false
  engine : state.main.engineStopped = true -> state.threads.engineRunning = false
  sourceGone : state.main.sourceJoined = true -> state.threads.sourceAt = .returned
  engineGone : state.main = .joinDispatcher ∨ state.main = .joined ->
    state.threads.engineAt = .returned
  dispatcherGone : state.main = .joined -> state.threads.dispatcherAt = .returned

theorem Told.step {action : AppAction} (told : state.Told) (taken : state.step action = some next) :
    next.Told := by
  cases action with
  | worker action =>
      rcases Option.map_eq_some_iff.mp taken with ⟨threads, moved, rfl⟩
      exact {
        capacity := by
          rw [Threads.capacity_of_workerStep moved]
          exact told.capacity
        source := fun started stopped => (Threads.sourceRunning_of_workerStep moved).trans
          (told.source started stopped)
        engine := fun here => (Threads.engineRunning_of_workerStep moved).trans (told.engine here)
        sourceGone := fun here => (Threads.source_stays_returned moved (told.sourceGone here)).1
        engineGone := fun here => Threads.engine_stays_returned moved (told.engineGone here)
        dispatcherGone := fun here => Threads.dispatcher_stays_returned moved
          (told.dispatcherGone here) }
  | deadline =>
      simp only [AppState.step, deadlineStep] at taken
      split at taken
      next here =>
        cases taken
        refine ⟨told.capacity, fun _ _ => told.source (by simp [here]) (by simp [here]),
            ?_, ?_, ?_, ?_⟩ <;>
          intro impossible <;> simp [AppAt.engineStopped, AppAt.sourceJoined] at impossible
      next here =>
        cases taken
        refine ⟨told.capacity, fun _ _ => told.source (by simp [here]) (by simp [here]),
            ?_, ?_, ?_, ?_⟩ <;>
          intro impossible <;> simp [AppAt.engineStopped, AppAt.sourceJoined] at impossible
      next => cases taken
  | main =>
      cases move_of_mainStep taken with
      | stopRequested here =>
          refine ⟨told.capacity, fun _ stopping => absurd rfl stopping, ?_, ?_, ?_, ?_⟩ <;>
            intro impossible <;> simp [AppAt.engineStopped, AppAt.sourceJoined] at impossible
      | sourceStopped here =>
          refine ⟨told.capacity, fun _ _ => rfl, ?_, ?_, ?_, ?_⟩ <;>
            intro impossible <;> simp [AppAt.engineStopped, AppAt.sourceJoined] at impossible
      | pillPushed here threads pushed =>
          have quiet := told.source (by simp [here]) (by simp [here])
          rcases Threads.tryPushPill_eq_some pushed with ⟨_, rfl⟩
          refine ⟨told.capacity, fun _ _ => quiet, ?_, ?_, ?_, ?_⟩ <;>
            intro impossible <;> simp [AppAt.engineStopped, AppAt.sourceJoined] at impossible
      | waits => exact told
      | engineAwaited here finished =>
          refine ⟨told.capacity, fun _ _ => told.source (by simp [here]) (by simp [here]),
              ?_, ?_, ?_, ?_⟩ <;>
            intro impossible <;> simp [AppAt.engineStopped, AppAt.sourceJoined] at impossible
      | engineStopped here =>
          refine ⟨told.capacity, fun _ _ => told.source (by simp [here]) (by simp [here]),
              fun _ => rfl, ?_, ?_, ?_⟩ <;>
            intro impossible <;> simp [AppAt.sourceJoined] at impossible
      | dispatcherStopped here =>
          refine ⟨told.capacity, fun _ _ => told.source (by simp [here]) (by simp [here]),
            fun _ => told.engine (by rw [here]; rfl), ?_, ?_, ?_⟩ <;>
            intro impossible <;> simp [AppAt.sourceJoined] at impossible
      | sourceJoined here returned =>
          refine ⟨told.capacity, fun _ _ => told.source (by simp [here]) (by simp [here]),
            fun _ => told.engine (by rw [here]; rfl), fun _ => returned, ?_, ?_⟩ <;>
            intro impossible <;> simp at impossible
      | engineJoined here returned =>
          exact ⟨told.capacity, fun _ _ => told.source (by simp [here]) (by simp [here]),
            fun _ => told.engine (by rw [here]; rfl), fun _ => told.sourceGone (by rw [here]; rfl),
            fun _ => returned, fun impossible => by cases impossible⟩
      | dispatcherJoined here returned =>
          exact ⟨told.capacity, fun _ _ => told.source (by simp [here]) (by simp [here]),
            fun _ => told.engine (by rw [here]; rfl), fun _ => told.sourceGone (by rw [here]; rfl),
            fun _ => told.engineGone (Or.inl here), fun _ => returned⟩

theorem start_told {capacity : Nat} (positive : 0 < capacity) :
    (start capacity source engine dispatcher).Told where
  capacity := positive
  source := fun elsewhere => absurd rfl elsewhere
  engine := fun impossible => by cases impossible
  sourceGone := fun impossible => by cases impossible
  engineGone := fun impossible => by rcases impossible with joining | joined <;> contradiction
  dispatcherGone := fun impossible => by cases impossible

/-! ## What never ends -/

/-- The engine is in its loop, and has not been told to stop, as long as the
stop command has not been sent. -/
private theorem Bounded.serves (bounded : state.Bounded source engine dispatcher)
    (early : state.main.pillSent = false) : state.threads.engineRunning = true ∧
    ¬ state.threads.EngineLeft := by
  have orderly := bounded.early early
  refine ⟨orderly.engineFlag, fun left => ?_⟩
  have pills := orderly.pills
  rw [orderly.leavesDrained left] at pills
  change _ + 1 = 0 at pills
  omega

/-- A source with too much keeps too much. -/
private theorem cramped_step {action : AppAction} (bounded : state.Bounded source engine dispatcher)
    (cramped : state.threads.Cramped) (taken : state.step action = some next) :
    next.threads.Cramped := by
  cases action with
  | worker action =>
      rcases Option.map_eq_some_iff.mp taken with ⟨threads, moved, rfl⟩
      exact cramped.workerStep bounded.ringFits moved
  | main =>
      cases move_of_mainStep taken with
      | pillPushed here =>
          have serves := bounded.serves (by rw [here]; rfl)
          rcases cramped.leaves with stopped | left
          · rw [serves.1] at stopped
            cases stopped
          · exact absurd left serves.2
      | engineStopped => exact ⟨Or.inl rfl, cramped.tooMuch⟩
      | stopRequested | sourceStopped | engineAwaited | dispatcherStopped
          | sourceJoined | engineJoined
      | dispatcherJoined => exact ⟨cramped.leaves, cramped.tooMuch⟩
      | waits => exact cramped
  | deadline =>
      simp only [AppState.step, deadlineStep] at taken
      split at taken
      · cases taken
        exact ⟨cramped.leaves, cramped.tooMuch⟩
      · cases taken
        exact ⟨cramped.leaves, cramped.tooMuch⟩
      · cases taken

/-- A dispatcher that has forgotten its stop serves forever. -/
private theorem Deaf.step {action : AppAction} (deaf : state.Deaf)
    (taken : state.step action = some next) : next.Deaf := by
  have told := deaf.told
  cases action with
  | worker action =>
      rcases Option.map_eq_some_iff.mp taken with ⟨threads, moved, rfl⟩
      exact ⟨told, deaf.forgets.workerStep moved⟩
  | main =>
      cases move_of_mainStep taken with
      | sourceJoined | engineJoined => exact ⟨rfl, deaf.forgets⟩
      | dispatcherJoined here returned => exact absurd returned deaf.forgets.busy
      | waits => exact deaf
      | stopRequested here | sourceStopped here | pillPushed here | engineAwaited here
          | engineStopped here
      | dispatcherStopped here =>
          rw [here] at told
          cases told
  | deadline =>
      simp only [AppState.step, deadlineStep] at taken
      split at taken
      next here =>
        rw [here] at told
        cases told
      next here =>
        rw [here] at told
        cases told
      next => cases taken

/-- Neither of them is compatible with the end. -/
private theorem not_doomed_of_joined (bounded : state.Bounded source engine dispatcher)
    (told : state.Told) (joined : state.main = .joined) : ¬ state.threads.Cramped ∧
    ¬ state.Deaf := by
  constructor
  · intro cramped
    have tooMuch := cramped.tooMuch
    have ringFits := bounded.ringFits
    rw [Threads.pending, told.sourceGone (by rw [joined]; rfl), List.length_nil] at tooMuch
    omega
  · intro deaf
    exact deaf.forgets.busy (told.dispatcherGone joined)

/-! ## The threads alone -/

/-- What the threads can reach by steps of their own, the program can reach. -/
private theorem reaches_of_threads {goal : Threads -> Prop}
    (reaches : CanReach Threads.workerStep goal state.threads) :
    CanReach step (fun final => final.main = state.main ∧ goal final.threads) state := by
  apply CanReach.lift (fun threads =>
    ({ threads := threads, main := state.main } : AppState)) .worker _ _ reaches
  · intro threads action next taken
    exact Option.map_eq_some_iff.mpr ⟨next, taken, rfl⟩
  · exact fun final there => ⟨rfl, there⟩

/-- A node that answers nothing. -/
def silentNode : PollEnv where
  latestBlock := .error "timeout"
  getLogs := fun _ _ => .error "timeout"
  blockTimestamp := fun _ => .error "timeout"
  systemClockMs := 0
  steadyClockMs := fun _ => 0
  scratch := fun _ => Bytes.zeros 32

private theorem fetchLogs_silent (nextBlock minBlockRange range : UInt64) :
    Exists fun message =>
    EventSource.fetchLogs silentNode nextBlock minBlockRange range = .error message := by
  induction range using WellFounded.induction (measure UInt64.toNat).wf with
  | _ range inductionHypothesis =>
      rw [EventSource.fetchLogs_eq]
      change Exists fun message => (if range ≤ minBlockRange then _ else _) = _
      by_cases smallest : range ≤ minBlockRange
      · rw [if_pos smallest]
        exact ⟨_, rfl⟩
      · rw [if_neg smallest]
        exact inductionHypothesis _ (EventSource.halved_lt range minBlockRange smallest)

/-- A poll of such a node pushes nothing. -/
private theorem pollOnce_silent (asking : EventSource) :
    (asking.pollOnce silentNode).pushed = [] := by
  rcases EventSource.pollOnce_cases asking silentNode with
    ⟨message, _, result⟩ | ⟨refreshed, _, result⟩
      | ⟨refreshed, _, ⟨_, result⟩ | ⟨message, _, result⟩ | batch⟩
  · rw [result]
  · rw [result]
  · rw [result]
  · rw [result]
  · rcases batch with ⟨toBlock, logs, fetched, _⟩
    unfold EventSource.fetchBatch at fetched
    split at fetched
    · cases fetched
    · dsimp only at fetched
      rcases fetchLogs_silent refreshed.nextBlock refreshed.config.minBlockRange
        (max (min refreshed.config.maxBlockRange
          (refreshed.cachedChainHead - refreshed.nextBlock + 1))
          refreshed.config.minBlockRange) with ⟨message, failed⟩
      rw [failed] at fetched
      cases fetched

/-- The source is not in the middle of a batch. -/
def SourceDone (state final : AppState) : Prop :=
  final.main = state.main ∧ final.threads.dispatcherAt = state.threads.dispatcherAt ∧
    final.threads.dispatcherRunning = state.threads.dispatcherRunning ∧
    (final.threads.sourceAt = .loopHead ∨ final.threads.sourceAt = .returned)

private theorem source_completes {batch : List Signal} {moved : EventSource}
    (here : state.threads.sourceAt = .pushing batch moved) (told : state.Told)
    (bounded : state.Bounded source engine dispatcher) (free : ¬ state.threads.Cramped) :
    CanReach step state.SourceDone state :=
  (reaches_of_threads (Threads.batch_pushed here told.capacity bounded.ringFits free)).imp fun _ done =>
    ⟨done.1, done.2.dispatcherAt, done.2.dispatcherRunning, Or.inl done.2.sourceAt⟩

/-- A source that is not cramped can finish its batch. -/
private theorem source_finishes (told : state.Told)
    (bounded : state.Bounded source engine dispatcher) (free : ¬ state.threads.Cramped) :
    CanReach step state.SourceDone state := by
  cases here : state.threads.sourceAt with
  | loopHead => exact .here ⟨rfl, rfl, rfl, Or.inl here⟩
  | returned => exact .here ⟨rfl, rfl, rfl, Or.inr here⟩
  | pushing batch moved => exact source_completes here told bounded free
  | polling =>
      let polled : AppState := { state with threads := { state.threads with
        sourceAt := .pushing [] (state.threads.eventSource.pollOnce silentNode).source
        history := { state.threads.history
          with polls := state.threads.history.polls ++ [silentNode] } } }
      have taken : state.step (.worker (.sourcePoll silentNode)) = some polled := by
        simp [AppState.step, Threads.workerStep, Threads.sourcePoll, here, polled, pollOnce_silent]
      have empty : ¬ polled.threads.Cramped := by
        intro cramped
        have tooMuch := cramped.tooMuch
        have ringFits := bounded.ringFits
        change state.threads.capacity + _ < state.threads.ring.length + 0 at tooMuch
        omega
      exact .after taken (source_completes rfl (told.step taken) (bounded.step taken) empty)

/-! ## The main thread and the joins -/

/-- The main thread has come to a place, and the source and the dispatcher
stand where they stood. -/
def MainAt (state : AppState) (place : AppAt) (final : AppState) : Prop :=
  final.main = place ∧ final.threads.sourceAt = state.threads.sourceAt ∧
    final.threads.dispatcherAt = state.threads.dispatcherAt ∧
    final.threads.dispatcherRunning = state.threads.dispatcherRunning

private theorem main_after {middle : AppState} {action : AppAction} {place : AppAt}
    (taken : state.step action = some middle) (moved : state.MainAt middle.main middle)
    (ends : CanReach step (middle.MainAt place) middle) :
    CanReach step (state.MainAt place) state :=
  .after taken (ends.imp fun _ done =>
    ⟨done.1, done.2.1.trans moved.2.1, done.2.2.1.trans moved.2.2.1,
    done.2.2.2.trans moved.2.2.2⟩)

private theorem main_stops_engine (here : state.main = .stopEngine) :
    CanReach step (state.MainAt .stopDispatcher) state := by
  have taken : state.step .main =
      some { threads := state.threads.stopEngine, main := .stopDispatcher } := by
    simp [AppState.step, mainStep, here]
  exact .after taken (.here ⟨rfl, rfl, rfl, rfl⟩)

/-- The drain timeout ends the wait for room and the wait for the engine. -/
private theorem main_gives_up (here : state.main = .pushPill ∨ state.main = .awaitEngine) :
    CanReach step (state.MainAt .stopDispatcher) state := by
  have taken : state.step .deadline = some { state with main := .stopEngine } := by
    rcases here with here | here <;> simp [AppState.step, deadlineStep, here]
  exact main_after taken ⟨rfl, rfl, rfl, rfl⟩ (main_stops_engine rfl)

private theorem main_stops_source (here : state.main = .stopSource) :
    CanReach step (state.MainAt .stopDispatcher) state := by
  have taken : state.step .main = some { threads := state.threads.stopSource, main := .pushPill } := by
    simp [AppState.step, mainStep, here]
  exact main_after taken ⟨rfl, rfl, rfl, rfl⟩ (main_gives_up (Or.inl rfl))

/-- Whatever the others do, the main thread tells the source and the engine to
stop. -/
private theorem main_tells (early : state.main.engineStopped = false) :
    CanReach step (state.MainAt .stopDispatcher) state := by
  cases here : state.main with
  | serving =>
      have taken : state.step .main = some { state with main := .stopSource } := by
        simp [AppState.step, mainStep, here]
      exact main_after taken ⟨rfl, rfl, rfl, rfl⟩ (main_stops_source rfl)
  | stopSource => exact main_stops_source here
  | pushPill => exact main_gives_up (Or.inl here)
  | awaitEngine => exact main_gives_up (Or.inr here)
  | stopEngine => exact main_stops_engine here
  | stopDispatcher | joinSource | joinEngine | joinDispatcher | joined =>
      rw [here] at early
      cases early

/-- With all three threads back, the joins succeed. -/
private theorem main_joins (told : state.main.dispatcherStopped = true)
    (source : state.threads.sourceAt = .returned) (engine : state.threads.engineAt = .returned)
    (dispatcher : state.threads.dispatcherAt = .returned) :
    CanReach step (fun final => final.main = .joined) state := by
  have last : forall {before : AppState}, before.threads = state.threads ->
      before.main = .joinDispatcher ->
      CanReach step (fun final => final.main = .joined) before := by
    intro before same here
    have taken : before.step .main = some { before with main := .joined } := by
      simp [AppState.step, mainStep, here, same, dispatcher]
    exact .after taken (.here rfl)
  have second : forall {before : AppState}, before.threads = state.threads ->
      before.main = .joinEngine ->
      CanReach step (fun final => final.main = .joined) before := by
    intro before same here
    have taken : before.step .main = some { before with main := .joinDispatcher } := by
      simp [AppState.step, mainStep, here, same, engine]
    exact .after taken (last same rfl)
  cases here : state.main with
  | joined => exact .here here
  | joinDispatcher => exact last rfl here
  | joinEngine => exact second rfl here
  | joinSource =>
      have taken : state.step .main = some { state with main := .joinEngine } := by
        simp [AppState.step, mainStep, here, source]
      exact .after taken (second rfl rfl)
  | serving | stopSource | pushPill | awaitEngine | stopEngine | stopDispatcher =>
      rw [here] at told
      cases told

/-! ## The end -/

/-- The dispatcher has begun, and what it has been told it knows. -/
structure Listens (state : AppState) : Prop where
  begun : state.threads.dispatcherAt ≠ .notStarted
  knows : state.main.dispatcherStopped = true -> state.threads.Obedient

private theorem Listens.of_same {middle : AppState} (listens : state.Listens)
    (main : middle.main.dispatcherStopped = true -> state.main.dispatcherStopped = true)
    (dispatcherAt : middle.threads.dispatcherAt = state.threads.dispatcherAt)
    (dispatcherRunning : middle.threads.dispatcherRunning = state.threads.dispatcherRunning) :
    middle.Listens where
  begun := by
    rw [dispatcherAt]
    exact listens.begun
  knows := fun told => by
    rw [Threads.Obedient, dispatcherAt, dispatcherRunning]
    exact listens.knows (main told)

private theorem ends_when_told (told : state.main.dispatcherStopped = true)
    (source : state.threads.sourceAt = .returned) (engine : state.threads.engineAt = .returned)
    (listens : state.Listens) :
    CanReach step (fun final => final.main = .joined) state :=
  (reaches_of_threads (Threads.dispatcher_returns (listens.knows told))).trans fun middle done =>
    main_joins (by rw [done.1]; exact told) (done.2.1.trans source)
      (done.2.2.1.trans engine) done.2.2.2

private theorem ends_when_returned (told : state.main.engineStopped = true)
    (source : state.threads.sourceAt = .returned) (engine : state.threads.engineAt = .returned)
    (listens : state.Listens) :
    CanReach step (fun final => final.main = .joined) state := by
  by_cases here : state.main = .stopDispatcher
  · have taken : state.step .main =
        some { threads := state.threads.stopDispatcher, main := .joinSource } := by
      simp [AppState.step, mainStep, here]
    exact .after taken (ends_when_told rfl source engine
      ⟨listens.begun, fun _ => Or.inr ⟨listens.begun, rfl⟩⟩)
  · refine ends_when_told ?_ source engine listens
    revert told here
    cases state.main <;> decide

private theorem ends_when_source_returned (toldAll : state.Told)
    (told : state.main.engineStopped = true) (source : state.threads.sourceAt = .returned)
    (listens : state.Listens) :
    CanReach step (fun final => final.main = .joined) state :=
  (reaches_of_threads (Threads.engine_returns (toldAll.engine told))).trans fun middle done =>
    ends_when_returned (by rw [done.1]; exact told) (done.2.1.sourceAt.trans source) done.2.2
      (listens.of_same (by rw [done.1]; exact id) done.2.1.dispatcherAt done.2.1.dispatcherRunning)

private theorem ends_when_engine_told (toldAll : state.Told)
    (told : state.main.engineStopped = true)
    (done : state.threads.sourceAt = .loopHead ∨ state.threads.sourceAt = .returned)
    (listens : state.Listens) :
    CanReach step (fun final => final.main = .joined) state := by
  rcases done with here | returned
  · have quiet : state.threads.sourceRunning = false :=
      toldAll.source (by intro same; rw [same] at told; cases told)
        (by intro same; rw [same] at told; cases told)
    have taken : state.step (.worker .sourceCheck) =
        some { state with threads := { state.threads with sourceAt := .returned } } := by
      simp [AppState.step, Threads.workerStep, Threads.sourceCheck, here, quiet]
    exact .after taken (ends_when_source_returned (toldAll.step taken) told rfl
      ⟨listens.begun, listens.knows⟩)
  · exact ends_when_source_returned toldAll told returned listens

private theorem ends_when_source_done (toldAll : state.Told)
    (done : state.threads.sourceAt = .loopHead ∨ state.threads.sourceAt = .returned)
    (listens : state.Listens) :
    CanReach step (fun final => final.main = .joined) state := by
  cases told : state.main.engineStopped with
  | true => exact ends_when_engine_told toldAll told done listens
  | false =>
      refine ((main_tells told).with_invariant
        (fun _ _ _ holds taken => Told.step holds taken) toldAll).trans ?_
      rintro middle ⟨stillTold, here, sourceAt, dispatcherAt, dispatcherRunning⟩
      refine ends_when_engine_told stillTold (by rw [here]; rfl) (by rw [sourceAt]; exact done)
        (listens.of_same (by rw [here]; intro impossible; cases impossible) dispatcherAt
          dispatcherRunning)

private theorem ends_when_begun (bounded : state.Bounded source engine dispatcher)
    (told : state.Told) (free : ¬ state.threads.Cramped) (listens : state.Listens) :
    CanReach step (fun final => final.main = .joined) state := by
  refine ((source_finishes told bounded free).with_invariant
    (fun _ _ _ holds taken => Told.step holds taken) told).trans ?_
  rintro middle ⟨stillTold, main, dispatcherAt, dispatcherRunning, done⟩
  exact ends_when_source_done stillTold done
    (listens.of_same (by rw [main]; exact id) dispatcherAt dispatcherRunning)

private theorem listens_of_not_deaf (hears : ¬ state.Deaf)
    (begun : state.threads.dispatcherAt ≠ .notStarted) : state.Listens where
  begun := begun
  knows := fun told => Threads.obedient_of_not_forgetful begun fun forgets => hears ⟨told, forgets⟩

private theorem ends_of_not_doomed (bounded : state.Bounded source engine dispatcher)
    (told : state.Told) (free : ¬ state.threads.Cramped) (hears : ¬ state.Deaf) :
    CanReach step (fun final => final.main = .joined) state := by
  by_cases notStarted : state.threads.dispatcherAt = .notStarted
  · let begun : AppState :=
      { state with threads := { state.threads with dispatcherRunning := true, dispatcherAt := .waiting } }
    have taken : state.step (.worker .dispatcherStart) = some begun := by
      simp [AppState.step, Threads.workerStep, Threads.dispatcherStart, notStarted, begun]
    have untold : state.main.dispatcherStopped ≠ true := by
      intro stopped
      exact hears ⟨stopped, by rw [notStarted]; decide, Or.inl notStarted⟩
    have stillFree : ¬ begun.threads.Cramped :=
      fun cramped => free ⟨cramped.leaves, cramped.tooMuch⟩
    exact .after taken (ends_when_begun (bounded.step taken) (told.step taken) stillFree
      ⟨(by intro impossible; cases impossible), fun stopped => absurd stopped untold⟩)
  · exact ends_when_begun bounded told free (listens_of_not_deaf hears notStarted)

/-- In every state that the stop protocol reaches, in any interleaving and
whichever timeouts have expired, the main thread can still come to join all
threads exactly when the source does not hold more than the ring will take and
the dispatcher has not forgotten its stop. -/
theorem shutdown_can_end_iff {capacity : Nat} (positive : 0 < capacity) (actions : List AppAction)
    (ran : runActions step (start capacity source engine dispatcher) actions = some state) :
    CanReach step (fun final => final.main = .joined) state ↔ ¬ state.threads.Cramped ∧
    ¬ state.Deaf := by
  have reached := invariant_of_run step
    (fun reached => reached.Bounded source engine dispatcher ∧ reached.Told)
    (fun _ _ _ holds taken => ⟨holds.1.step taken, holds.2.step taken⟩)
    ⟨start_bounded capacity, start_told positive⟩ ran
  constructor
  · rintro ⟨later, final, goesOn, joined⟩
    have last := invariant_of_run step
      (fun reached => reached.Bounded source engine dispatcher ∧ reached.Told)
      (fun _ _ _ holds taken => ⟨holds.1.step taken, holds.2.step taken⟩) reached goesOn
    have ended := not_doomed_of_joined last.1 last.2 joined
    constructor
    · intro cramped
      exact ended.1 (invariant_of_run step
        (fun reached => reached.Bounded source engine dispatcher ∧ reached.threads.Cramped)
        (fun _ _ _ holds taken => ⟨holds.1.step taken, cramped_step holds.1 holds.2 taken⟩)
          ⟨reached.1, cramped⟩ goesOn).2
    · intro deaf
      exact ended.2 (invariant_of_run step Deaf
        (fun _ _ _ holds taken => holds.step taken) deaf goesOn)
  · rintro ⟨free, hears⟩
    exact ends_of_not_doomed reached.1 reached.2 free hears

/-- A stop that overtakes the start of the dispatcher's thread. -/
def earlyStop : List AppAction :=
  [.main, .main, .deadline, .main, .main, .worker .dispatcherStart]

/-- The program on a node at block 1 then waits in its joins forever. -/
theorem earlyStop_never_ends :
    Exists fun final => runActions step liveApp earlyStop = some final ∧
      ¬ CanReach step (fun last => last.main = .joined) final := by
  refine ⟨_, rfl, fun ends => ?_⟩
  have hears := ((shutdown_can_end_iff (by decide) earlyStop rfl).mp ends).2
  exact hears ⟨rfl, by decide, Or.inr rfl⟩

end AppState

end App
end RiskSentinel
