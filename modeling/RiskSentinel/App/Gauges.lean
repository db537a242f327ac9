import RiskSentinel.App.DeliveryCounters
import RiskSentinel.App.Shutdown

namespace RiskSentinel
namespace App

open Foundation Events Risk Pipeline

/-!
# The gauges of the pipeline

The three threads keep metrics while they work.  The source increments the
depth of the ring after a push, the engine decrements it before a pop, and the
depth of the alert queue is set inside the lock.  The main thread pushes the
stop command without touching the gauge, and the engine decrements for it like
for any signal.

The engine counts an alert by its rule type right before it dispatches it, and
the dispatcher counts it again when it is suppressed.  Between the two it is in
the queue or in the dispatcher's hands.

These updates are steps of their own, so that other threads come in between.
-/

/-- The metrics that the threads share. -/
structure Meters where
  ringBufferDepth : Int := 0
  alertQueueDepth : Nat := 0
  alertsGenerated : Table String Nat := Table.empty

/-- The program with its metrics and with the updates that are under way. -/
structure MeteredApp where
  app : AppState
  meters : Meters
  /-- The source has pushed a signal and not yet incremented the depth. -/
  sourceOwes : Bool := false
  /-- The engine has decremented the depth and not yet popped. -/
  engineTook : Bool := false
  /-- The engine has counted the alert that it dispatches next. -/
  engineCounted : Bool := false
  /-- The stop command has been pushed. -/
  stopPushed : Bool := false

inductive MeteredAction where
  | app (action : AppAction)
  | sourceIncrements
  | engineDecrements
  | engineCounts

/-- What `register_rule` adds to the counters. -/
def registerCounter (counters : Table String Nat) (label : String) : Table String Nat :=
  if counters.contains label then counters else counters.assign label 0

/-! ## The program without its metrics -/

namespace AppState

/-- What holds of the program in every state of a run, whatever timeouts
expire. -/
structure Settled (source : EventSource) (engine : RiskEngine) (dispatcher : AlertDispatcher)
    (state : AppState) : Prop where
  consistent : state.threads.Consistent source engine dispatcher
  sourceJoined : state.main.sourceJoined = true -> state.threads.sourceAt = .returned
  engineJoined : state.main = .joinDispatcher ∨ state.main = .joined ->
    state.threads.engineAt = .returned

variable {source : EventSource} {engine : RiskEngine} {dispatcher : AlertDispatcher}
    {state next : AppState}

theorem start_settled (capacity : Nat) :
    (start capacity source engine dispatcher).Settled source engine dispatcher where
  consistent := Threads.start_consistent capacity
  sourceJoined impossible := by cases impossible
  engineJoined impossible := by rcases impossible with impossible | impossible <;> cases impossible

private theorem settled_of_early {threads : Threads}
    (consistent : threads.Consistent source engine dispatcher) {place : AppAt}
    (notJoined : place.sourceJoined = false) :
    AppState.Settled source engine dispatcher ⟨threads, place⟩ where
  consistent := consistent
  sourceJoined impossible := by
    rw [show place.sourceJoined = false from notJoined] at impossible
    cases impossible
  engineJoined impossible := by
    rcases impossible with here | here
    · cases here
      cases notJoined
    · cases here
      cases notJoined

private theorem Settled.mainStep (settled : state.Settled source engine dispatcher)
    (taken : state.mainStep = some next) : next.Settled source engine dispatcher := by
  cases move_of_mainStep taken with
  | waits => exact settled
  | stopRequested here => exact settled_of_early settled.consistent rfl
  | sourceStopped here => exact settled_of_early settled.consistent.stopSource rfl
  | pillPushed here threads pushed =>
      exact settled_of_early (settled.consistent.tryPushPill pushed) rfl
  | engineAwaited here finished => exact settled_of_early settled.consistent rfl
  | engineStopped here => exact settled_of_early settled.consistent.stopEngine rfl
  | dispatcherStopped here => exact settled_of_early settled.consistent.stopDispatcher rfl
  | sourceJoined here returned =>
      refine ⟨settled.consistent, fun _ => returned, fun impossible => ?_⟩
      rcases impossible with impossible | impossible <;> cases impossible
  | engineJoined here returned =>
      exact ⟨settled.consistent, fun _ => settled.sourceJoined (by rw [here]; rfl),
        fun _ => returned⟩
  | dispatcherJoined here returned =>
      exact ⟨settled.consistent, fun _ => settled.sourceJoined (by rw [here]; rfl),
        fun _ => settled.engineJoined (Or.inl here)⟩

theorem Settled.step {action : AppAction} (settled : state.Settled source engine dispatcher)
    (taken : state.step action = some next) : next.Settled source engine dispatcher := by
  cases action with
  | worker action =>
      rcases Option.map_eq_some_iff.mp taken with ⟨threads, moved, rfl⟩
      exact ⟨settled.consistent.workerStep moved,
        fun joined => (Threads.source_stays_returned moved (settled.sourceJoined joined)).1,
        fun joined => Threads.engine_stays_returned moved (settled.engineJoined joined)⟩
  | main => exact settled.mainStep taken
  | deadline =>
      simp only [AppState.step, deadlineStep] at taken
      split at taken
      · cases taken
        exact settled_of_early settled.consistent rfl
      · cases taken
        exact settled_of_early settled.consistent rfl
      · cases taken

end AppState

/-! ## The steps with metrics -/

namespace MeteredApp

def start (capacity : Nat) (source : EventSource) (engine : RiskEngine)
    (dispatcher : AlertDispatcher) : MeteredApp where
  app := .start capacity source engine dispatcher
  meters := { alertsGenerated := (engine.rules.map Rule.ruleTypeName).foldl registerCounter Table.empty }

/-- A step of the program.  The depth of the ring is updated on its own; that
of the queue is set where the queue is changed. -/
def appStep (state : MeteredApp) (action : AppAction) : Option MeteredApp :=
  match action with
  | .worker .sourcePush =>
      if state.sourceOwes then none
      else (state.app.step (.worker .sourcePush)).map fun app =>
        { state with
          app := app
          sourceOwes := decide (state.app.threads.ring.length < app.threads.ring.length) }
  | .worker .engineRead =>
      if !state.app.threads.ring.isEmpty && !state.engineTook then none
      else (state.app.step (.worker .engineRead)).map fun app =>
        { state with app := app, engineTook := false }
  | .worker .engineDispatch =>
      if !state.app.threads.undispatched.isEmpty && !state.engineCounted then none
      else (state.app.step (.worker .engineDispatch)).map fun app =>
        { state with
          app := app
          engineCounted := false
          meters := { state.meters with
            alertQueueDepth :=
              if state.app.threads.undispatched.isEmpty then state.meters.alertQueueDepth
              else app.threads.queue.length } }
  | .worker .dispatcherTake =>
      (state.app.step (.worker .dispatcherTake)).map fun app =>
        { state with
          app := app
          meters := { state.meters with
            alertQueueDepth :=
              if state.app.threads.queue.isEmpty then state.meters.alertQueueDepth
                else app.threads.queue.length } }
  | .main =>
      (state.app.step .main).map fun app =>
        { state with
          app := app
          stopPushed := state.stopPushed || decide
            (state.app.main = .pushPill ∧ app.main = .awaitEngine) }
  | action => (state.app.step action).map fun app => { state with app := app }

def step (state : MeteredApp) : MeteredAction -> Option MeteredApp
  | .app action => state.appStep action
  | .sourceIncrements =>
      if state.sourceOwes then
        some { state with
          sourceOwes := false
          meters := { state.meters with ringBufferDepth := state.meters.ringBufferDepth + 1 } }
      else none
  | .engineDecrements =>
      if state.app.threads.engineAt = .reading ∧ state.app.threads.ring ≠ [] ∧
          state.engineTook = false then
        some { state with
          engineTook := true
          meters := { state.meters with ringBufferDepth := state.meters.ringBufferDepth - 1 } }
      else none
  | .engineCounts =>
      match state.app.threads.undispatched with
      | [] => none
      | alert :: _ =>
          if state.engineCounted then none
          else some { state with
            engineCounted := true
            meters := { state.meters with
              alertsGenerated := increment state.meters.alertsGenerated alert.ruleType } }

/-- The alert that has been counted and not yet dispatched. -/
def counted (state : MeteredApp) : List Alert :=
  if state.engineCounted then state.app.threads.undispatched.take 1 else []

/-- The alerts of a rule type. -/
def ofType (label : String) (alerts : List Alert) : Nat :=
  alerts.countP fun alert => decide (alert.ruleType = label)

/-- The metrics say what is in the ring and in the queue, up to the updates
under way, and how many alerts of each type have been dispatched. -/
structure Invariant (source : EventSource) (engine : RiskEngine) (dispatcher : AlertDispatcher)
    (state : MeteredApp) : Prop where
  settled : state.app.Settled source engine dispatcher
  depth : state.meters.ringBufferDepth + state.sourceOwes.toNat + state.engineTook.toNat +
    state.stopPushed.toNat = state.app.threads.ring.length
  owing : state.sourceOwes = true -> Exists fun rest => Exists fun next =>
    state.app.threads.sourceAt = .pushing rest next
  taking : state.engineTook = true -> state.app.threads.engineAt = .reading ∧
    state.app.threads.ring ≠ []
  counting : state.engineCounted = true -> state.app.threads.undispatched ≠ []
  pushesOnce : state.stopPushed = true -> state.app.main.pillSent = true
  queueDepth : state.meters.alertQueueDepth = state.app.threads.queue.length
  generated : forall label, state.meters.alertsGenerated.find? label =
    ((start 0 source engine dispatcher).meters.alertsGenerated.find? label).map
      (· + ofType label (state.app.threads.history.dispatched ++ state.counted))

variable {source : EventSource} {engine : RiskEngine} {dispatcher : AlertDispatcher}
    {state next : MeteredApp}

theorem start_invariant (capacity : Nat) :
    (start capacity source engine dispatcher).Invariant source engine dispatcher where
  settled := AppState.start_settled capacity
  depth := rfl
  owing impossible := by cases impossible
  taking impossible := by cases impossible
  counting impossible := by cases impossible
  pushesOnce impossible := by cases impossible
  queueDepth := rfl
  generated label := by
    simp only [start, AppState.start, Threads.start, counted, ofType, Bool.false_eq_true, if_false,
      List.append_nil,
      List.countP_nil, Nat.add_zero, Option.map_id']

private theorem Invariant.not_owing (invariant : state.Invariant source engine dispatcher)
    {place : SourceAt} (here : state.app.threads.sourceAt = place)
    (outside : forall rest next, place ≠ .pushing rest next) :
    state.sourceOwes = false := by
  apply Bool.eq_false_iff.mpr
  intro owes
  rcases invariant.owing owes with ⟨rest, next, pushing⟩
  exact outside rest next (here.symm.trans pushing)

private theorem Invariant.not_taking (invariant : state.Invariant source engine dispatcher)
    {place : EngineAt} (here : state.app.threads.engineAt = place) (outside : place ≠ .reading) :
    state.engineTook = false := by
  apply Bool.eq_false_iff.mpr
  intro took
  exact outside (here.symm.trans (invariant.taking took).1)

private theorem Invariant.not_counting (invariant : state.Invariant source engine dispatcher)
    (none : state.app.threads.undispatched = []) : state.engineCounted = false :=
  Bool.eq_false_iff.mpr fun counted => invariant.counting counted none

/-- The step leaves alone what the metrics are about. -/
private structure Quiet (state next : MeteredApp) : Prop where
  meters : next.meters = state.meters
  owes : next.sourceOwes = state.sourceOwes
  took : next.engineTook = state.engineTook
  counted : next.engineCounted = state.engineCounted
  pushed : next.stopPushed = state.stopPushed
  ring : next.app.threads.ring = state.app.threads.ring
  queue : next.app.threads.queue = state.app.threads.queue
  dispatched : next.app.threads.history.dispatched = state.app.threads.history.dispatched
  undispatched : next.app.threads.undispatched = state.app.threads.undispatched
  source : state.sourceOwes = true -> next.app.threads.sourceAt = state.app.threads.sourceAt
  engine : state.engineTook = true -> next.app.threads.engineAt = state.app.threads.engineAt
  sent : state.app.main.pillSent = true -> next.app.main.pillSent = true

private theorem Invariant.quiet (invariant : state.Invariant source engine dispatcher)
    (settled : next.app.Settled source engine dispatcher) (quiet : Quiet state next) :
    next.Invariant source engine dispatcher where
  settled := settled
  depth := by
    rw [quiet.meters, quiet.owes, quiet.took, quiet.pushed, quiet.ring]
    exact invariant.depth
  owing owes := by
    rw [quiet.owes] at owes
    rw [quiet.source owes]
    exact invariant.owing owes
  taking took := by
    rw [quiet.took] at took
    rw [quiet.engine took, quiet.ring]
    exact invariant.taking took
  counting counted := by
    rw [quiet.counted] at counted
    rw [quiet.undispatched]
    exact invariant.counting counted
  pushesOnce pushed := by
    rw [quiet.pushed] at pushed
    exact quiet.sent (invariant.pushesOnce pushed)
  queueDepth := by
    rw [quiet.meters, quiet.queue]
    exact invariant.queueDepth
  generated label := by
    have before := invariant.generated label
    unfold MeteredApp.counted at before ⊢
    rw [quiet.meters, quiet.counted, quiet.dispatched, quiet.undispatched]
    exact before

/-! ## One step of the program -/

private theorem Invariant.sourcePush {app : AppState}
    (invariant : state.Invariant source engine dispatcher) (paid : state.sourceOwes = false)
    (taken : state.app.step (.worker .sourcePush) = some app) :
    MeteredApp.Invariant source engine dispatcher
      { state with
        app := app
        sourceOwes := decide (state.app.threads.ring.length < app.threads.ring.length) } := by
  have settled := invariant.settled.step taken
  rcases Option.map_eq_some_iff.mp taken with ⟨threads, moved, rfl⟩
  cases Threads.move_of_workerStep moved with
  | sourcePushes signal rest after here room =>
      have depth := invariant.depth
      have longer : (state.app.threads.ring ++ [signal]).length =
          state.app.threads.ring.length + 1 := by simp
      rw [paid] at depth
      exact { invariant with
        settled := settled
        depth := by
          dsimp only
          rw [longer, decide_eq_true (Nat.lt_succ_self _)]
          simp only [Bool.toNat_true, Bool.toNat_false, Int.natCast_add] at depth ⊢
          omega
        owing := fun _ => ⟨rest, after, rfl⟩
        taking := fun took => ⟨(invariant.taking took).1, by simp⟩ }
  | sourceRetries signal rest after here full =>
      refine invariant.quiet settled ?_
      constructor <;> first | rfl | simp [paid]
  | sourceCompletes after here =>
      refine invariant.quiet settled ?_
      constructor <;> first | rfl | simp [paid]

/-- The engine pops the signal that it has announced. -/
private theorem Invariant.pops (invariant : state.Invariant source engine dispatcher)
    {threads : Threads} {signal : Signal} {rest : List Signal}
    (here : state.app.threads.engineAt = .reading) (front : state.app.threads.ring = signal :: rest)
    (took : state.engineTook = true)
    (settled : AppState.Settled source engine dispatcher { state.app with threads := threads })
    (ring : threads.ring = rest) (queue : threads.queue = state.app.threads.queue)
    (dispatched : threads.history.dispatched = state.app.threads.history.dispatched)
    (sourceAt : threads.sourceAt = state.app.threads.sourceAt) :
    MeteredApp.Invariant source engine dispatcher
      { state with app := { state.app with threads := threads }, engineTook := false } := by
  have uncounted := invariant.not_counting (by simp [Threads.undispatched, here])
  have depth := invariant.depth
  have generated := invariant.generated
  rw [took, front, List.length_cons] at depth
  exact { invariant with
    settled := settled
    depth := by
      rw [ring]
      simp only [Bool.toNat_true, Bool.toNat_false, Int.natCast_add] at depth ⊢
      omega
    owing := by
      rw [sourceAt]
      exact invariant.owing
    taking := fun impossible => by cases impossible
    counting := fun impossible => absurd (uncounted.symm.trans impossible) Bool.false_ne_true
    queueDepth := by
      rw [queue]
      exact invariant.queueDepth
    generated := by
      intro label
      have before := generated label
      simp only [MeteredApp.counted, uncounted, Bool.false_eq_true, if_false] at before ⊢
      rw [dispatched]
      exact before }

private theorem Invariant.engineRead {app : AppState}
    (invariant : state.Invariant source engine dispatcher)
    (announced : state.app.threads.ring ≠ [] -> state.engineTook = true)
    (taken : state.app.step (.worker .engineRead) = some app) :
    MeteredApp.Invariant source engine dispatcher
      { state with app := app, engineTook := false } := by
  have settled := invariant.settled.step taken
  have untaken : state.app.threads.ring = [] -> state.engineTook = false := fun empty =>
    Bool.eq_false_iff.mpr fun took => (invariant.taking took).2 empty
  have depth := invariant.depth
  rcases Option.map_eq_some_iff.mp taken with ⟨threads, moved, rfl⟩
  cases Threads.move_of_workerStep moved with
  | engineIdles here empty serving =>
      refine invariant.quiet settled ?_
      constructor <;> first | rfl | simp [untaken empty, Threads.undispatched, here]
  | engineDrained here empty draining =>
      refine invariant.quiet settled ?_
      constructor <;> first | rfl | simp [untaken empty, Threads.undispatched, here]
  | engineReadsPill signal rest here front pill =>
      exact invariant.pops here front (announced (by simp [front])) settled rfl rfl rfl rfl
  | engineEvaluates signal rest here front ordinary =>
      exact invariant.pops here front (announced (by simp [front])) settled rfl rfl rfl rfl

private theorem Invariant.engineDispatch {app : AppState}
    (invariant : state.Invariant source engine dispatcher)
    (announced : state.app.threads.undispatched ≠ [] -> state.engineCounted = true)
    (taken : state.app.step (.worker .engineDispatch) = some app) :
    MeteredApp.Invariant source engine dispatcher
      { state with
        app := app
        engineCounted := false
        meters := { state.meters with
          alertQueueDepth :=
            if state.app.threads.undispatched.isEmpty then state.meters.alertQueueDepth
            else app.threads.queue.length } } := by
  have settled := invariant.settled.step taken
  rcases Option.map_eq_some_iff.mp taken with ⟨threads, moved, rfl⟩
  cases Threads.move_of_workerStep moved with
  | engineTurns here =>
      have uncounted := invariant.not_counting (by simp [Threads.undispatched, here])
      refine invariant.quiet settled ?_
      constructor <;>
        first | rfl | simp [Threads.undispatched, here, uncounted, invariant.not_taking here]
  | engineDispatches alert rest here =>
      have front : state.app.threads.undispatched = alert :: rest := by
        simp [Threads.undispatched, here]
      have counted := announced (by simp [front])
      have untaken := invariant.not_taking here (by simp)
      have generated := invariant.generated
      exact { invariant with
        settled := settled
        taking := fun impossible => absurd (untaken.symm.trans impossible) Bool.false_ne_true
        counting := fun impossible => by cases impossible
        queueDepth := by simp [front]
        generated := by
          intro label
          have before := generated label
          simp only [MeteredApp.counted, counted, if_true, front,
            List.take_succ_cons, List.take_zero,
            Bool.false_eq_true, if_false, List.append_nil] at before ⊢
          exact before }

private theorem Invariant.dispatcherTake {app : AppState}
    (invariant : state.Invariant source engine dispatcher)
    (taken : state.app.step (.worker .dispatcherTake) = some app) :
    MeteredApp.Invariant source engine dispatcher
      { state with
        app := app
        meters := { state.meters with
          alertQueueDepth :=
            if state.app.threads.queue.isEmpty then state.meters.alertQueueDepth
            else app.threads.queue.length } } := by
  have settled := invariant.settled.step taken
  rcases Option.map_eq_some_iff.mp taken with ⟨threads, moved, rfl⟩
  cases Threads.move_of_workerStep moved with
  | dispatcherIdles here empty running =>
      refine invariant.quiet settled ?_
      constructor <;> first | rfl | simp [empty]
  | dispatcherReturns here empty stopped =>
      refine invariant.quiet settled ?_
      constructor <;> first | rfl | simp [empty]
  | dispatcherTakes alert rest here front =>
      exact { invariant with
        settled := settled
        queueDepth := by simp [front] }

/-- The remaining steps of the threads change nothing that is measured. -/
private theorem Invariant.worker {action : WorkerAction} {app : AppState}
    (invariant : state.Invariant source engine dispatcher)
    (other : action ≠ .sourcePush ∧ action ≠ .engineRead ∧ action ≠ .engineDispatch ∧
      action ≠ .dispatcherTake)
    (taken : state.app.step (.worker action) = some app) :
    MeteredApp.Invariant source engine dispatcher { state with app := app } := by
  have settled := invariant.settled.step taken
  refine invariant.quiet settled ?_
  rcases Option.map_eq_some_iff.mp taken with ⟨threads, moved, rfl⟩
  cases Threads.move_of_workerStep moved with
  | sourcePushes | sourceRetries | sourceCompletes => exact absurd rfl other.1
  | engineIdles | engineDrained | engineReadsPill | engineEvaluates => exact absurd rfl other.2.1
  | engineDispatches | engineTurns => exact absurd rfl other.2.2.1
  | dispatcherIdles | dispatcherReturns | dispatcherTakes => exact absurd rfl other.2.2.2
  | sourceEnters here | sourceReturns here | sourcePolls env here =>
      constructor <;> first | rfl | simp [invariant.not_owing here]
  | engineEnters here | engineStops here | engineFinishes here =>
      constructor <;> first | rfl | simp [invariant.not_taking here, Threads.undispatched, here]
  | dispatcherStarts here | dispatcherDelivers nowMs outcome alert here =>
      constructor <;> first | rfl | simp

private theorem Invariant.main {app : AppState}
    (invariant : state.Invariant source engine dispatcher)
    (taken : state.app.step .main = some app) :
    MeteredApp.Invariant source engine dispatcher
      { state with
        app := app
        stopPushed := state.stopPushed || decide
          (state.app.main = .pushPill ∧ app.main = .awaitEngine) } := by
  have settled := invariant.settled.step taken
  cases AppState.move_of_mainStep taken with
  | pillPushed here threads pushed =>
      have first : state.stopPushed = false := by
        apply Bool.eq_false_iff.mpr
        intro already
        have sent := invariant.pushesOnce already
        rw [here] at sent
        cases sent
      have depth := invariant.depth
      have taking := invariant.taking
      have generated := invariant.generated
      rw [(Threads.tryPushPill_eq_some pushed).2] at settled ⊢
      exact { invariant with
        settled := settled
        depth := by
          simp only [first, here, Bool.false_or, and_self, decide_true, Bool.toNat_true,
            Bool.toNat_false,
            List.length_append, List.length_singleton, Int.natCast_add] at depth ⊢
          omega
        taking := fun took => ⟨(taking took).1, by simp⟩
        pushesOnce := fun _ => rfl }
  | waits =>
      refine invariant.quiet settled ?_
      constructor <;> first | rfl | simp
      intro here impossible
      rw [here] at impossible
      cases impossible
  | stopRequested here | sourceStopped here | engineAwaited here | engineStopped here
      | dispatcherStopped here
  | sourceJoined here | engineJoined here | dispatcherJoined here =>
      refine invariant.quiet settled ?_
      constructor <;> first
        | rfl
        | simp [here, AppAt.pillSent, Threads.stopSource, Threads.stopEngine,
            Threads.stopDispatcher]

theorem Invariant.step {action : MeteredAction}
    (invariant : state.Invariant source engine dispatcher) (taken : state.step action = some next) :
    next.Invariant source engine dispatcher := by
  cases action with
  | app action =>
      cases action with
      | main =>
          rcases Option.map_eq_some_iff.mp taken with ⟨app, moved, rfl⟩
          exact invariant.main moved
      | deadline =>
          rcases Option.map_eq_some_iff.mp taken with ⟨app, moved, rfl⟩
          refine invariant.quiet (invariant.settled.step moved) ?_
          simp only [AppState.step, AppState.deadlineStep] at moved
          split at moved
          · cases moved
            constructor <;> first | rfl | simp [AppAt.pillSent]
          · cases moved
            constructor <;> first | rfl | simp [AppAt.pillSent]
          · cases moved
      | worker action =>
          cases action with
          | sourcePush =>
              simp only [MeteredApp.step, appStep] at taken
              split at taken
              · cases taken
              · rename_i paid
                rcases Option.map_eq_some_iff.mp taken with ⟨app, moved, rfl⟩
                exact invariant.sourcePush (Bool.eq_false_iff.mpr paid) moved
          | engineRead =>
              simp only [MeteredApp.step, appStep] at taken
              split at taken
              · cases taken
              · rename_i announced
                rcases Option.map_eq_some_iff.mp taken with ⟨app, moved, rfl⟩
                refine invariant.engineRead (fun some => ?_) moved
                simpa [some] using announced
          | engineDispatch =>
              simp only [MeteredApp.step, appStep] at taken
              split at taken
              · cases taken
              · rename_i announced
                rcases Option.map_eq_some_iff.mp taken with ⟨app, moved, rfl⟩
                refine invariant.engineDispatch (fun some => ?_) moved
                simpa [some] using announced
          | dispatcherTake =>
              rcases Option.map_eq_some_iff.mp taken with ⟨app, moved, rfl⟩
              exact invariant.dispatcherTake moved
          | sourceCheck | sourcePoll env | engineCheck | engineFinish | dispatcherStart
          | dispatcherDeliver nowMs outcome =>
              rcases Option.map_eq_some_iff.mp taken with ⟨app, moved, rfl⟩
              exact invariant.worker (by simp) moved
  | sourceIncrements =>
      simp only [MeteredApp.step] at taken
      split at taken
      · rename_i owes
        cases taken
        have depth := invariant.depth
        rw [owes] at depth
        exact { invariant with
          depth := by
            simp only [Bool.toNat_true, Bool.toNat_false] at depth ⊢
            omega
          owing := fun impossible => by cases impossible }
      · cases taken
  | engineDecrements =>
      simp only [MeteredApp.step] at taken
      split at taken
      · rename_i ready
        cases taken
        have depth := invariant.depth
        rw [ready.2.2] at depth
        exact { invariant with
          depth := by
            simp only [Bool.toNat_true, Bool.toNat_false] at depth ⊢
            omega
          taking := fun _ => ⟨ready.1, ready.2.1⟩ }
      · cases taken
  | engineCounts =>
      simp only [MeteredApp.step] at taken
      split at taken
      · cases taken
      · rename_i alert rest front
        split at taken
        · cases taken
        · rename_i uncounted
          cases taken
          have generated := invariant.generated
          exact { invariant with
            counting := fun _ => by simp [front]
            generated := by
              intro label
              have before := generated label
              simp only [counted, uncounted, if_true, front, List.take_succ_cons, List.take_zero,
                Bool.false_eq_true, if_false, List.append_nil] at before ⊢
              rw [find?_increment, ofType, List.countP_append]
              by_cases same : label = alert.ruleType
              · rw [if_pos same, ← same, before]
                cases (start 0 source engine dispatcher).meters.alertsGenerated.find? label <;>
                  simp [ofType, same, Nat.add_assoc]
              · rw [if_neg same, before]
                simp [ofType, Ne.symm same] }

private theorem invariant_of_run {capacity : Nat} {actions : List MeteredAction}
    {final : MeteredApp}
    (ran : runActions step (start capacity source engine dispatcher) actions = some final) :
    final.Invariant source engine dispatcher :=
  Foundation.invariant_of_run step (fun state => state.Invariant source engine dispatcher)
    (fun _ _ _ invariant taken => invariant.step taken) (start_invariant capacity) ran

/-- The gauges in every state of every run.  The queue's is exact.  The ring's
is behind by the updates under way, and once the stop command has been pushed,
too low by one for good. -/
theorem gauges_of_run (capacity : Nat) (source : EventSource) (engine : RiskEngine)
    (dispatcher : AlertDispatcher) (actions : List MeteredAction) (final : MeteredApp)
    (ran : runActions step (start capacity source engine dispatcher) actions = some final) :
    final.meters.alertQueueDepth = final.app.threads.queue.length ∧
      final.meters.ringBufferDepth = final.app.threads.ring.length - final.sourceOwes.toNat -
        final.engineTook.toNat - final.stopPushed.toNat ∧
      (final.app.main = .joined ->
        final.meters.ringBufferDepth = final.app.threads.ring.length - final.stopPushed.toNat) := by
  have invariant := invariant_of_run ran
  have depth := invariant.depth
  refine ⟨invariant.queueDepth, by omega, fun joined => ?_⟩
  have paid := invariant.not_owing (invariant.settled.sourceJoined (by rw [joined]; rfl)) (by simp)
  have untaken := invariant.not_taking (invariant.settled.engineJoined (Or.inr joined)) (by simp)
  rw [paid, untaken] at depth
  simp only [Bool.toNat_false] at depth
  omega

/-! ## The counters of the alerts -/

/-- The rule types for which `init_modules_` registers deduplication counters. -/
def ruleTypes : List String :=
  ["large_transfer", "governance", "mint_burn", "approval", "bridge_transfer", "oracle_update"]

/-- The dispatcher of the program: its counters by rule type, and its channels
as they are added. -/
def appDispatcher (config : DeduplicatorConfig) (channels : List String) : AlertDispatcher :=
  channels.foldl (fun dispatcher name => dispatcher.addChannel name true)
    { channels := []
      deduplicator := .create config
      counters :=
        { alertsDeduplicated :=
            ruleTypes.foldl (fun counters label => counters.assign label 0) Table.empty } }

/-- What no added channel changes is as it was before the channels. -/
theorem appDispatcher_keeps {Part : Type} (part : AlertDispatcher -> Part)
    (kept : forall dispatcher name, part (dispatcher.addChannel name true) = part dispatcher)
    (config : DeduplicatorConfig) (channels : List String) :
    part (appDispatcher config channels) = part (appDispatcher config []) := by
  have added : forall dispatcher : AlertDispatcher,
      part (channels.foldl (fun dispatcher name => dispatcher.addChannel name true) dispatcher) =
        part dispatcher := by
    induction channels with
    | nil => exact fun _ => rfl
    | cons name rest inductionHypothesis =>
        intro dispatcher
        exact (inductionHypothesis (dispatcher.addChannel name true)).trans (kept dispatcher name)
  exact added _

private theorem find?_appDispatcher (config : DeduplicatorConfig) (channels : List String)
    {label : String} (known : label ∈ ruleTypes) :
    (appDispatcher config channels).counters.alertsDeduplicated.find? label = some 0 := by
  rw [appDispatcher_keeps (fun dispatcher => dispatcher.counters.alertsDeduplicated) fun _ _ => rfl]
  change (ruleTypes.foldl (fun counters label => counters.assign label 0) Table.empty).find? label =
    some 0
  simp only [ruleTypes, List.mem_cons, List.not_mem_nil, or_false] at known
  rcases known with rfl | rfl | rfl | rfl | rfl | rfl <;> decide

private theorem find?_generated (tables : RuleTables) (capacity : Nat) {label : String}
    (known : label ∈ ruleTypes) :
    (start capacity source
      (.ofRules tables.registerRules) dispatcher).meters.alertsGenerated.find? label = some 0 := by
  rw [start, RiskEngine.ofRules_rules]
  change (ruleTypes.foldl registerCounter Table.empty).find? label = some 0
  simp only [ruleTypes, List.mem_cons, List.not_mem_nil, or_false] at known
  rcases known with rfl | rfl | rfl | rfl | rfl | rfl <;> decide

private theorem deduplicated_sendThrough (outcome : Nat -> SendOutcome)
    (counters : DispatchCounters) (channels : List (String × Nat)) :
    (AlertDispatcher.sendThrough outcome counters channels).1.alertsDeduplicated =
      counters.alertsDeduplicated := by
  induction channels generalizing counters with
  | nil => rfl
  | cons channel rest inductionHypothesis =>
      rcases channel with ⟨name, position⟩
      cases ended : outcome position <;> simp only [AlertDispatcher.sendThrough,
        ended] <;> exact inductionHypothesis _

/-- The records of suppressed alerts of a type. -/
def suppressedOf (label : String) (records : List DispatchRecord) : Nat :=
  records.countP fun record => record.suppressed && decide (record.delivery.alert.ruleType = label)

private theorem deduplicated_handle (dispatcher : AlertDispatcher) (delivery : Delivery)
    (label : String) :
    (dispatcher.handle delivery).1.counters.alertsDeduplicated.find? label =
      (dispatcher.counters.alertsDeduplicated.find? label).map
        (· + suppressedOf label [(dispatcher.handle delivery).2]) := by
  unfold AlertDispatcher.handle suppressedOf
  dsimp only
  by_cases suppressed :
    (dispatcher.deduplicator.shouldSuppress delivery.alert delivery.nowMs).2 = true
  · rw [if_pos suppressed]
    dsimp only
    rw [find?_increment]
    by_cases same : label = delivery.alert.ruleType
    · simp [same]
    · simp [same, Ne.symm same]
  · rw [if_neg suppressed, deduplicated_sendThrough]
    simp

private theorem deduplicated_handleAll (dispatcher : AlertDispatcher) (deliveries : List Delivery)
    (label : String) :
    (dispatcher.handleAll deliveries).1.counters.alertsDeduplicated.find? label =
      (dispatcher.counters.alertsDeduplicated.find? label).map
        (· + suppressedOf label (dispatcher.handleAll deliveries).2) := by
  induction deliveries generalizing dispatcher with
  | nil => simp [AlertDispatcher.handleAll, suppressedOf]
  | cons delivery rest inductionHypothesis =>
      have split : dispatcher.handleAll (delivery :: rest) =
          (((dispatcher.handle delivery).1.handleAll rest).1,
            (dispatcher.handle delivery).2 ::
            ((dispatcher.handle delivery).1.handleAll rest).2) := rfl
      rw [split, inductionHypothesis, deduplicated_handle]
      cases dispatcher.counters.alertsDeduplicated.find? label with
      | none => rfl
      | some count =>
          simp only [suppressedOf, Option.map_some, List.countP_cons, List.countP_nil]
          congr 1
          omega

/-- Every delivery has one record, and is suppressed or not. -/
private theorem ofType_deliveries (dispatcher : AlertDispatcher) (deliveries : List Delivery)
    (label : String) :
    ofType label (deliveries.map Delivery.alert) = suppressedOf label
        (dispatcher.handleAll deliveries).2 +
      ofType label ((AlertDispatcher.unsuppressed
        (dispatcher.handleAll deliveries).2).map Delivery.alert) := by
  induction deliveries generalizing dispatcher with
  | nil => rfl
  | cons delivery rest inductionHypothesis =>
      have split : (dispatcher.handleAll (delivery :: rest)).2 =
          (dispatcher.handle delivery).2 :: ((dispatcher.handle delivery).1.handleAll rest).2 := rfl
      have others := inductionHypothesis (dispatcher.handle delivery).1
      rw [split, AlertDispatcher.unsuppressed_cons, AlertDispatcher.handle_delivery]
      simp only [ofType, suppressedOf, List.map_cons, List.countP_cons,
        AlertDispatcher.handle_delivery] at others ⊢
      cases (dispatcher.handle delivery).2.suppressed <;>
        simp only [Bool.true_and, Bool.false_and, Bool.false_eq_true, if_true,
          if_false, List.map_cons,
          List.countP_cons] <;> omega

private theorem ruleTypeName_stepRule (signal : Signal) (rule : Rule) :
    (RiskEngine.stepRule signal rule).ruleTypeName = rule.ruleTypeName := by
  unfold RiskEngine.stepRule
  split
  · cases rule <;> rfl
  · rfl

private theorem ruleType_of_sequential {rules : List Rule} {signals : List Signal} {alert : Alert}
    (member : alert ∈ RiskEngine.sequentialAlerts rules signals) :
    alert.ruleType ∈ rules.map Rule.ruleTypeName := by
  induction signals generalizing rules with
  | nil => cases member
  | cons signal rest inductionHypothesis =>
      rcases List.mem_append.mp member with here | later
      · rcases List.mem_flatMap.mp here with ⟨rule, listed, raised⟩
        unfold RiskEngine.ruleAlerts at raised
        split at raised
        · rw [Rule.ruleType_of_mem_evaluate raised]
          exact List.mem_map_of_mem listed
        · cases raised
      · have names : (rules.map (RiskEngine.stepRule signal)).map Rule.ruleTypeName =
            rules.map Rule.ruleTypeName := by
          rw [List.map_map]
          exact List.map_congr_left fun rule _ => ruleTypeName_stepRule signal rule
        rw [← names]
        exact inductionHypothesis later

/-- No alert is lost between the counters, in any state of any run.  Every
alert has one of the registered types, and of each type as many have been
generated as have been suppressed and offered to the channels, together with
those in the queue, in the dispatcher's hands and about to be dispatched. -/
theorem alerts_accounted_for (tables : RuleTables) (config : DeduplicatorConfig)
    (channels : List String) (capacity : Nat) (source : EventSource) (actions : List MeteredAction)
    (final : MeteredApp)
    (ran : runActions step
    (start capacity source (.ofRules tables.registerRules) (appDispatcher config channels))
      actions = some final) :
    (forall alert, alert ∈ final.app.threads.history.dispatched -> alert.ruleType ∈ ruleTypes) ∧
      forall label, label ∈ ruleTypes -> Exists fun generated => Exists fun deduplicated =>
        final.meters.alertsGenerated.find? label = some generated ∧
        final.app.threads.dispatcher.counters.alertsDeduplicated.find? label = some deduplicated ∧
        generated = deduplicated +
          ofType label
            ((AlertDispatcher.unsuppressed final.app.threads.history.records).map Delivery.alert) +
          ofType label (final.app.threads.held ++ final.app.threads.queue ++ final.counted) := by
  have invariant := invariant_of_run ran
  have consistent := invariant.settled.consistent
  constructor
  · intro alert dispatched
    have raised : alert ∈
        RiskEngine.sequentialAlerts tables.registerRules final.app.threads.history.evaluated := by
      have all := consistent.dispatched
      rw [RiskEngine.processAll_alerts, RiskEngine.ofRules_rules] at all
      rw [all]
      exact List.mem_append_left _ dispatched
    exact ruleType_of_sequential raised
  · intro label known
    have generated := invariant.generated label
    have deduplicated := deduplicated_handleAll (appDispatcher config channels)
      final.app.threads.history.deliveries label
    rw [find?_generated tables 0 known, Option.map_some, Nat.zero_add] at generated
    rw [consistent.delivered, find?_appDispatcher config channels known, Option.map_some,
      Nat.zero_add] at deduplicated
    refine ⟨_, _, generated, deduplicated, ?_⟩
    have deliveries := ofType_deliveries
      (appDispatcher config channels) final.app.threads.history.deliveries label
    rw [consistent.delivered] at deliveries
    rw [consistent.taken]
    simp only [ofType, List.countP_append] at deliveries ⊢
    omega

/-- One customer wants to know of every transfer of a token. -/
private def watchful : RuleTables :=
  { RuleTables.empty with
    largeTransferConfigs :=
      [{ customerId := 7
         chainId := 1
         tokenAddress := Bytes.ofNat 20 0xaa
         thresholdBe := Bytes.zeros 32 }] }

/-- A transfer of one unit of this token. -/
private def unitTransfer : RawLog :=
  { EventSource.transferLog with
    topics := EventSource.transferLog.topics ++ EventSource.transferLog.topics ++
      EventSource.transferLog.topics
    data := "0x0000000000000000000000000000000000000000000000000000000000000001" }

private def watchfulApp : MeteredApp :=
  start 65536 (.create { startBlock := 1 } 1) (.ofRules watchful.registerRules)
    (appDispatcher .production ["console"])

/-- The transfer is reported, and the program is stopped behind it. -/
private def reportAndStop : List MeteredAction :=
  [.app (.worker .dispatcherStart), .app (.worker .sourceCheck),
    .app (.worker (.sourcePoll (EventSource.nodeAtOne [unitTransfer]))), .app (.worker .sourcePush),
    .sourceIncrements, .app (.worker .sourcePush), .app .main, .app .main,
    .app (.worker .sourceCheck), .app .main, .app (.worker .engineCheck), .engineDecrements,
    .app (.worker .engineRead), .engineCounts, .app (.worker .engineDispatch),
    .app (.worker .engineDispatch), .app (.worker .engineCheck), .engineDecrements,
    .app (.worker .engineRead), .app (.worker .engineCheck), .app (.worker .engineRead),
    .app (.worker .engineFinish), .app .main, .app .main, .app .main,
    .app (.worker .dispatcherTake), .app (.worker (.dispatcherDeliver 0 fun _ => .sent)),
    .app (.worker .dispatcherTake), .app .main, .app .main, .app .main]

private theorem reportAndStop_runs :
    Exists fun final => runActions step watchfulApp reportAndStop = some final ∧
    final.app.main = .joined ∧
      final.app.threads.ring.length = 0 ∧ final.stopPushed = true ∧
      final.app.threads.history.dispatched.length = 1 := by
  have shape : (runActions step watchfulApp reportAndStop).map (fun final => (final.app.main,
      final.app.threads.ring.length, final.stopPushed,
      final.app.threads.history.dispatched.length)) =
        some (.joined, 0, true, 1) := by
    decide +kernel
  rcases Option.map_eq_some_iff.mp shape with ⟨final, ran, facts⟩
  simp only [Prod.mk.injEq] at facts
  exact ⟨final, ran, facts⟩

/-- At the end the ring is empty and its depth is minus one. -/
theorem depth_below_zero :
    Exists fun final => runActions step watchfulApp reportAndStop = some final ∧
      final.meters.alertQueueDepth = final.app.threads.queue.length ∧
      final.meters.ringBufferDepth = -1 := by
  rcases reportAndStop_runs with ⟨final, ran, joined, empty, pushed, _⟩
  have gauges := gauges_of_run 65536 _ _ _ reportAndStop final ran
  refine ⟨final, ran, gauges.1, ?_⟩
  rw [gauges.2.2 joined, empty, pushed]
  rfl

/-- The one alert is accounted for. -/
theorem reported_alert_accounted_for :
    Exists fun final => runActions step watchfulApp reportAndStop = some final ∧
      final.app.threads.history.dispatched.length = 1 ∧
      Exists fun generated => Exists fun deduplicated =>
        final.meters.alertsGenerated.find? "large_transfer" = some generated ∧
        final.app.threads.dispatcher.counters.alertsDeduplicated.find? "large_transfer" =
          some deduplicated ∧
        generated = deduplicated +
          ofType "large_transfer"
            ((AlertDispatcher.unsuppressed final.app.threads.history.records).map Delivery.alert) +
          ofType "large_transfer"
            (final.app.threads.held ++ final.app.threads.queue ++ final.counted) := by
  rcases reportAndStop_runs with ⟨final, ran, _, _, _, one⟩
  exact ⟨final, ran, one,
    (alerts_accounted_for watchful .production
      ["console"] 65536 _ reportAndStop final ran).2 "large_transfer" (by decide)⟩

end MeteredApp

end App
end RiskSentinel
