import RiskSentinel.App.Shutdown
import RiskSentinel.Foundation.Monitor

namespace RiskSentinel
namespace App

open Foundation Events Risk Pipeline

/-!
# The stop request

`App::run` waits on `run_cv_` until `stop_requested_` is set.  The thread that
waits for signals calls `request_stop` once and returns; it sets the flag and
notifies without the mutex of the wait.  When both fall between the test of
the flag and the sleep, nobody notifies again and the program ignores the
signal.  Otherwise the main thread gets to the orderly stop by itself.

A request may come at any time, also while the program still starts; then the
wait does not sleep at all.
-/

/-- The wait of `run`: the shared state is `stop_requested_`. -/
def runMonitor : Monitor Bool Unit where
  ready := id
  perform := fun _ _ => true
  locks := fun _ => false
  timed := false
  consume := id

/-- Where the thread of `sigtimedwait` stands: between signals, inside
`request_stop`, or at its return. -/
inductive SignalAt where
  | watching
  | stored
  | returned
deriving DecidableEq, Repr

namespace SignalAt

/-- The flag, as the signal thread has left it. -/
def requested : SignalAt -> Bool
  | .watching => false
  | .stored | .returned => true

/-- The notifications that the signal thread still owes. -/
def owes : SignalAt -> Nat
  | .stored => 1
  | .watching | .returned => 0

end SignalAt

/-- The program with the wait of the main thread. -/
structure LiveState where
  /-- `start_threads_` and the steps before it are done. -/
  started : Bool := false
  wait : MonitorState Bool := { shared := false }
  signalAt : SignalAt := .watching
  app : AppState

inductive LiveAction where
  | start
  | app (action : AppAction)
  | wait (action : MonitorAction Unit)
  | requestStore
  | requestNotify

namespace LiveAction

/-- The steps of the main thread, without the wake-ups that come from
outside. -/
def ofMain : LiveAction -> Bool
  | .start | .app .main | .wait .lock | .wait .test | .wait .sleep => true
  | _ => false

/-- The main thread wakes up without a notification. -/
def spurious : LiveAction -> Bool
  | .wait .rouse => true
  | _ => false

end LiveAction

/-- The main thread does not come back to the wait, and nobody else moves it. -/
private theorem AppState.leaves_serving {app moved : AppState} {action : AppAction}
    (taken : app.step action = some moved) :
    (app.main ≠ .serving -> moved.main ≠ .serving) ∧
    (app.main = .serving -> action ≠ .main -> moved.main = .serving) := by
  cases action with
  | worker action =>
      rcases Option.map_eq_some_iff.mp taken with ⟨threads, _, rfl⟩
      exact ⟨id, fun here _ => here⟩
  | deadline =>
      simp only [AppState.step, AppState.deadlineStep] at taken
      split at taken
      next here =>
        cases taken
        rw [here]
        exact ⟨fun _ => AppAt.noConfusion, AppAt.noConfusion⟩
      next here =>
        cases taken
        rw [here]
        exact ⟨fun _ => AppAt.noConfusion, AppAt.noConfusion⟩
      next => cases taken
  | main =>
      refine ⟨fun behind => ?_, fun _ other => absurd rfl other⟩
      cases AppState.move_of_mainStep taken with
      | waits => exact behind
      | stopRequested | sourceStopped | pillPushed | engineAwaited | engineStopped
          | dispatcherStopped
      | sourceJoined | engineJoined | dispatcherJoined =>
          intro impossible
          cases impossible

namespace LiveState

def launch (app : AppState) : LiveState where
  app := app

/-- A step of the worker threads, of the drain timeout, or of the main thread.
The main thread leaves the wait with the flag set, and gives the mutex back. -/
def appStep (state : LiveState) (action : AppAction) : Option LiveState :=
  match action, state.app.main with
  | .main, .serving =>
      match runMonitor.step state.wait .leave with
      | some wait => (state.app.step .main).map fun app => { state with wait := wait, app := app }
      | none => none
  | action, _ => (state.app.step action).map fun app => { state with app := app }

/-- A step of the main thread inside the wait. -/
def waitStep (state : LiveState) (action : MonitorAction Unit) : Option LiveState :=
  match action, state.app.main with
  | .lock, .serving | .test, .serving | .sleep, .serving | .rouse, .serving =>
      (runMonitor.step state.wait action).map fun wait => { state with wait := wait }
  | _, _ => none

def step (state : LiveState) : LiveAction -> Option LiveState
  | .start => if state.started then none else some { state with started := true }
  | .app action => if state.started then state.appStep action else none
  | .wait action => if state.started then state.waitStep action else none
  | .requestStore =>
      match state.signalAt with
      | .watching =>
          (runMonitor.step state.wait (.operate ())).map fun wait =>
            { state with wait := wait, signalAt := .stored }
      | _ => none
  | .requestNotify =>
      match state.signalAt with
      | .stored => (runMonitor.step state.wait .notify).map fun wait =>
          { state with wait := wait, signalAt := .returned }
      | _ => none

/-! ## Every move -/

/-- Everything that can happen to the program. -/
inductive Move (state : LiveState) : LiveAction -> LiveState -> Prop where
  | starts (fresh : state.started = false) : Move state .start { state with started := true }
  | goesOn (action : AppAction) (app : AppState) (up : state.started = true)
      (other : action = .main -> state.app.main ≠ .serving)
        (taken : state.app.step action = some app) :
      Move state (.app action) { state with app := app }
  | leaves (wait : MonitorState Bool) (app : AppState) (up : state.started = true)
      (here : state.app.main = .serving) (left : runMonitor.step state.wait .leave = some wait)
      (taken : state.app.step .main = some app) :
      Move state (.app .main) { state with wait := wait, app := app }
  | waits (action : MonitorAction Unit) (wait : MonitorState Bool) (up : state.started = true)
      (here : state.app.main = .serving)
      (own : action = .lock ∨ action = .test ∨ action = .sleep ∨ action = .rouse)
      (taken : runMonitor.step state.wait action = some wait) :
      Move state (.wait action) { state with wait := wait }
  | stores (wait : MonitorState Bool) (here : state.signalAt = .watching)
      (taken : runMonitor.step state.wait (.operate ()) = some wait) :
      Move state .requestStore { state with wait := wait, signalAt := .stored }
  | notifies (wait : MonitorState Bool) (here : state.signalAt = .stored)
      (taken : runMonitor.step state.wait .notify = some wait) :
      Move state .requestNotify { state with wait := wait, signalAt := .returned }

variable {state next : LiveState}

private theorem move_of_appStep {action : AppAction} (up : state.started = true)
    (taken : state.appStep action = some next) : Move state (.app action) next := by
  unfold appStep at taken
  split at taken
  next here =>
    split at taken
    next wait left =>
      rcases Option.map_eq_some_iff.mp taken with ⟨app, moved, rfl⟩
      exact .leaves wait app up here left moved
    next => cases taken
  next other =>
    rcases Option.map_eq_some_iff.mp taken with ⟨app, moved, rfl⟩
    exact .goesOn _ app up (fun main here => other main here) moved

private theorem move_of_waitStep {action : MonitorAction Unit} (up : state.started = true)
    (taken : state.waitStep action = some next) : Move state (.wait action) next := by
  unfold waitStep at taken
  split at taken
  next here =>
    rcases Option.map_eq_some_iff.mp taken with ⟨wait, moved, rfl⟩
    exact .waits _ wait up here (by simp) moved
  next here =>
    rcases Option.map_eq_some_iff.mp taken with ⟨wait, moved, rfl⟩
    exact .waits _ wait up here (by simp) moved
  next here =>
    rcases Option.map_eq_some_iff.mp taken with ⟨wait, moved, rfl⟩
    exact .waits _ wait up here (by simp) moved
  next here =>
    rcases Option.map_eq_some_iff.mp taken with ⟨wait, moved, rfl⟩
    exact .waits _ wait up here (by simp) moved
  next => cases taken

theorem move_of_step {action : LiveAction} (taken : state.step action = some next) :
    Move state action next := by
  cases action with
  | start =>
      simp only [step] at taken
      cases fresh : state.started with
      | true =>
          rw [fresh, if_pos rfl] at taken
          cases taken
      | false =>
          rw [fresh, if_neg Bool.false_ne_true] at taken
          cases taken
          exact .starts fresh
  | app action =>
      simp only [step] at taken
      cases up : state.started with
      | true =>
          rw [up, if_pos rfl] at taken
          exact move_of_appStep up taken
      | false =>
          rw [up, if_neg Bool.false_ne_true] at taken
          cases taken
  | wait action =>
      simp only [step] at taken
      cases up : state.started with
      | true =>
          rw [up, if_pos rfl] at taken
          exact move_of_waitStep up taken
      | false =>
          rw [up, if_neg Bool.false_ne_true] at taken
          cases taken
  | requestStore =>
      simp only [step] at taken
      split at taken
      next here =>
        rcases Option.map_eq_some_iff.mp taken with ⟨wait, moved, rfl⟩
        exact .stores wait here moved
      next => cases taken
  | requestNotify =>
      simp only [step] at taken
      split at taken
      next here =>
        rcases Option.map_eq_some_iff.mp taken with ⟨wait, moved, rfl⟩
        exact .notifies wait here moved
      next => cases taken

/-! ## Reachable states -/

/-- What holds in every state that the program reaches. -/
structure Invariant (state : LiveState) : Prop where
  flag : state.wait.shared = state.signalAt.requested
  due : state.wait.unnotified = state.signalAt.owes
  tested : state.wait.waiter = .through -> state.wait.shared = true
  untimed : state.wait.waiter ≠ .expired
  behind : state.app.main ≠ .serving -> state.wait.waiter = .outside
  waitsStarted : state.started = false -> state.app.main = .serving

theorem launch_invariant {app : AppState} (serving : app.main = .serving) :
    (launch app).Invariant where
  flag := rfl
  due := rfl
  tested := fun impossible => by cases impossible
  untimed := fun impossible => by cases impossible
  behind := fun elsewhere => absurd serving elsewhere
  waitsStarted := fun _ => serving

/-- The main thread's own steps in the wait change neither the flag nor what
is owed. -/
private theorem Invariant.waits {action : MonitorAction Unit} {wait : MonitorState Bool}
    (invariant : state.Invariant) (here : state.app.main = .serving)
    (own : action = .lock ∨ action = .test ∨ action = .sleep ∨ action = .rouse)
    (taken : runMonitor.step state.wait action = some wait) :
    { state with wait := wait }.Invariant := by
  have serving : state.app.main ≠ .serving -> wait.waiter = .outside := fun elsewhere =>
    absurd here elsewhere
  cases Monitor.move_of_step taken with
  | passes _ ready =>
      exact ⟨invariant.flag, invariant.due, fun _ => ready,
        (by intro impossible; cases impossible), serving,
        invariant.waitsStarted⟩
  | locks | commits | sleeps | rouses =>
      exact ⟨invariant.flag, invariant.due, (by intro impossible; cases impossible),
        (by intro impossible; cases impossible), serving, invariant.waitsStarted⟩
  | givesUp expired => exact absurd expired invariant.untimed
  | expires _ timed => cases timed
  | leaves | operatesLocked | operatesFreely | notifies => simp at own

theorem Invariant.step {action : LiveAction} (invariant : state.Invariant)
    (taken : state.step action = some next) : next.Invariant := by
  cases move_of_step taken with
  | starts fresh =>
      exact ⟨invariant.flag, invariant.due, invariant.tested, invariant.untimed, invariant.behind,
        (by intro impossible; cases impossible)⟩
  | goesOn action app up other moved =>
      refine ⟨invariant.flag, invariant.due, invariant.tested, invariant.untimed, fun behind => ?_,
        (by intro fresh; rw [up] at fresh; cases fresh)⟩
      by_cases here : state.app.main = .serving
      · have main : action ≠ .main := fun same => other same here
        exact absurd ((AppState.leaves_serving moved).2 here main) behind
      · exact invariant.behind here
  | leaves wait app up here left moved =>
      cases Monitor.move_of_step left with
      | leaves through =>
          exact ⟨invariant.flag, invariant.due, (by intro impossible; cases impossible),
            (by intro impossible; cases impossible), fun _ => rfl,
            (by intro fresh; rw [up] at fresh; cases fresh)⟩
  | waits action wait up here own moved => exact invariant.waits here own moved
  | stores wait here moved =>
      have due := invariant.due
      rw [here] at due
      cases Monitor.move_of_step moved with
      | operatesLocked _ locked => cases locked
      | operatesFreely =>
          exact ⟨rfl, by rw [due]; rfl, fun _ => rfl, invariant.untimed, invariant.behind,
            invariant.waitsStarted⟩
  | notifies wait here moved =>
      have due := invariant.due
      have flag := invariant.flag
      rw [here] at due flag
      cases Monitor.move_of_step moved with
      | notifies waiting pending =>
          rw [due] at pending
          refine ⟨flag, (Nat.succ.inj pending).symm, fun _ => flag, ?_, fun behind => ?_,
            invariant.waitsStarted⟩
          · have untimed := invariant.untimed
            change state.wait.waiter.notified ≠ .expired
            revert untimed
            cases state.wait.waiter <;> simp [WaiterAt.notified]
          · change state.wait.waiter.notified = .outside
            rw [invariant.behind behind]
            rfl

/-! ## Kept and lost requests -/

/-- The notification of `request_stop` does not fall between the test of the
flag and the sleep. -/
def NotifiesInTime (state : LiveState) : LiveAction -> Prop
  | .requestNotify => state.wait.waiter ≠ .committed
  | _ => True

instance (state : LiveState) : forall action, Decidable (NotifiesInTime state action)
  | .requestNotify => inferInstanceAs (Decidable (state.wait.waiter ≠ .committed))
  | .start | .app _ | .wait _ | .requestStore => isTrue trivial

private theorem watched_step {action : LiveAction}
    (watched : runMonitor.Watched state.wait) (inTime : NotifiesInTime state action)
    (taken : state.step action = some next) : runMonitor.Watched next.wait := by
  cases move_of_step taken with
  | starts | goesOn => exact watched
  | leaves wait app up here left moved =>
      refine watched.step ?_ left
      trivial
  | waits action wait up here own moved =>
      refine watched.step ?_ moved
      rcases own with rfl | rfl | rfl | rfl <;> trivial
  | stores wait here moved =>
      refine watched.step ?_ moved
      trivial
  | notifies wait here moved =>
      refine watched.step ?_ moved
      exact inTime

/-- The main thread waits, and its notification is lost. -/
structure Ignored (state : LiveState) : Prop where
  lost : runMonitor.Lost state.wait
  requested : state.signalAt = .returned

private theorem ignored_of_not_inTime {action : LiveAction} (invariant : state.Invariant)
    (late : ¬ NotifiesInTime state action) (taken : state.step action = some next) :
    next.Ignored := by
  cases move_of_step taken with
  | notifies wait here moved =>
      have flag := invariant.flag
      have due := invariant.due
      rw [here] at flag due
      refine ⟨Monitor.lost_of_not_inTime ?_ flag due moved, rfl⟩
      exact late
  | _ => exact absurd trivial late

private theorem Ignored.step {action : LiveAction} (ignored : state.Ignored)
    (usual : action.spurious = false) (taken : state.step action = some next) : next.Ignored := by
  cases move_of_step taken with
  | starts | goesOn => exact ⟨ignored.lost, ignored.requested⟩
  | leaves wait app up here left moved => exact ⟨ignored.lost.step rfl left, ignored.requested⟩
  | waits action wait up here own moved =>
      refine ⟨ignored.lost.step ?_ moved, ignored.requested⟩
      rcases own with rfl | rfl | rfl | rfl
      · rfl
      · rfl
      · rfl
      · cases usual
  | stores wait here | notifies wait here =>
      rw [ignored.requested] at here
      cases here

/-- A main thread that ignores the request still serves. -/
private theorem Ignored.serving (ignored : state.Ignored) (invariant : state.Invariant) :
    state.app.main = .serving := by
  by_cases here : state.app.main = .serving
  · exact here
  · have resting := ignored.lost.resting
    rw [invariant.behind here] at resting
    cases resting

/-- Steps in the wait are steps of the program. -/
private theorem run_wait (up : state.started = true) (here : state.app.main = .serving)
    {actions : List (MonitorAction Unit)}
    (own : forall action, action ∈ actions -> action = .lock ∨ action = .test ∨ action = .sleep ∨
      action = .rouse)
    {wait : MonitorState Bool} (ran : runActions runMonitor.step state.wait actions = some wait) :
    runActions step state (actions.map .wait) = some { state with wait := wait } := by
  induction actions generalizing state with
  | nil =>
      cases ran
      rfl
  | cons action rest inductionHypothesis =>
      rcases (runActions_cons_eq_some _).mp ran with ⟨middle, taken, others⟩
      have first : state.step (.wait action) = some { state with wait := middle } := by
        simp only [step, up, if_true, waitStep, here]
        rcases own action List.mem_cons_self with rfl | rfl | rfl
          | rfl <;> simp only [taken, Option.map_some]
      refine (runActions_cons_eq_some _).mpr ⟨_, first, ?_⟩
      exact @inductionHypothesis { state with wait := middle } up here
        (fun later member => own later (List.mem_cons_of_mem _ member)) others

private theorem wayThrough_own (place : WaiterAt) (action : MonitorAction Unit)
    (member : action ∈ Monitor.wayThrough place) :
    action = .lock ∨ action = .test ∨ action = .sleep ∨ action = .rouse := by
  cases place with
  | outside | roused =>
      rcases List.mem_cons.mp member with same | later
      · exact Or.inl same
      · exact Or.inr (Or.inl (List.mem_singleton.mp later))
  | testing => exact Or.inr (Or.inl (List.mem_singleton.mp member))
  | expired => exact Or.inl (List.mem_singleton.mp member)
  | through | committed | asleep => exact (List.not_mem_nil member).elim

/-- What the main thread does before the wait, when it has not come there. -/
def remainingStart (state : LiveState) : List LiveAction :=
  if state.started then [] else [.start]

private theorem run_remainingStart (state : LiveState) :
    runActions step state state.remainingStart = some { state with started := true } := by
  rcases state with ⟨started, wait, signalAt, app⟩
  cases started <;> rfl

/-- The steps by which a main thread that does not rest gets to the orderly
stop. -/
def ownWay (state : LiveState) : List LiveAction :=
  state.remainingStart ++ (Monitor.wayThrough state.wait.waiter).map .wait ++ [.app .main]

private theorem ownWay_ofMain (state : LiveState) (action : LiveAction)
    (member : action ∈ state.ownWay) : action.ofMain = true := by
  rcases List.mem_append.mp member with before | last
  · rcases List.mem_append.mp before with start | inWait
    · unfold remainingStart at start
      split at start
      · exact (List.not_mem_nil start).elim
      · rw [List.mem_singleton.mp start]
        rfl
    · rcases List.mem_map.mp inWait with ⟨step, onWay, rfl⟩
      revert onWay
      cases state.wait.waiter <;> intro onWay <;> simp [Monitor.wayThrough] at onWay
      · rcases onWay with rfl | rfl <;> rfl
      · rw [onWay]
        rfl
      · rcases onWay with rfl | rfl <;> rfl
      · rw [onWay]
        rfl
  · rw [List.mem_singleton.mp last]
    rfl

private theorem run_ownWay (here : state.app.main = .serving) (requested : state.wait.shared = true)
    (awake : state.wait.waiter.resting = false) :
    Exists fun next => runActions step state state.ownWay = some next ∧
    next.app.main ≠ .serving := by
  let up : LiveState := { state with started := true }
  let passed : LiveState := { up with wait := { state.wait with waiter := .through } }
  have waited : runActions step up
      ((Monitor.wayThrough state.wait.waiter).map .wait) = some passed :=
    run_wait (show up.started = true from rfl) here (wayThrough_own _)
      (Monitor.runs_wayThrough requested awake)
  let stopped : LiveState :=
    { passed with
      wait := { state.wait with waiter := .outside }
      app := { state.app with main := .stopSource } }
  have left : passed.step (.app .main) = some stopped := by
    simp only [step, if_true, appStep, here, passed, up, Monitor.step, AppState.step,
      AppState.mainStep,
      Option.map_some]
    rfl
  refine ⟨stopped, ?_, ?_⟩
  · rw [ownWay, runActions_append, runActions_append, run_remainingStart, Option.bind_some, waited,
      Option.bind_some]
    exact (runActions_cons_eq_some _).mpr ⟨_, left, rfl⟩
  · intro impossible
    cases impossible

/-- A main thread that does not rest gets to the orderly stop by itself. -/
private theorem stops_alone (requested : state.wait.shared = true)
    (awake : state.wait.waiter.resting = false) :
    Exists fun own => (forall action, action ∈ own -> LiveAction.ofMain action = true) ∧
      Exists fun next => runActions step state own = some next ∧ next.app.main ≠ .serving := by
  by_cases here : state.app.main = .serving
  · exact ⟨state.ownWay, ownWay_ofMain state, run_ownWay here requested awake⟩
  · exact ⟨[], fun _ impossible => (List.not_mem_nil impossible).elim, state, rfl, here⟩

private theorem ofMain_not_spurious {action : LiveAction} (own : action.ofMain = true) :
    action.spurious = false := by
  cases action with
  | wait action => cases action <;> first | rfl | cases own
  | start | app _ | requestStore | requestNotify => rfl

/-- In a run without spurious wake-ups whose `request_stop` has returned, the
main thread can get to the orderly stop by itself exactly when the notification
did not fall between its test of the flag and its sleep.  When it did, nothing
that any thread does ever ends the wait. -/
theorem stop_kept_iff_notified_in_time {app : AppState} (serving : app.main = .serving)
    {actions : List LiveAction} {final : LiveState}
    (ran : runActions step (launch app) actions = some final)
    (awake : forall action, action ∈ actions -> action.spurious = false)
    (requested : final.signalAt = .returned) :
    ((Exists fun own => (forall action, action ∈ own -> LiveAction.ofMain action = true) ∧
        Exists fun next => runActions step final own = some next ∧ next.app.main ≠ .serving) ↔
      AllSteps step NotifiesInTime (launch app) actions) ∧
    (¬ AllSteps step NotifiesInTime (launch app) actions ->
      forall (later : List LiveAction) (next : LiveState),
        (forall action, action ∈ later -> action.spurious = false) ->
        runActions step final later = some next ->
        next.app.main = .serving ∧ next.Ignored) := by
  have holds : final.Invariant :=
    invariant_of_run step Invariant (fun _ _ _ before taken => before.step taken)
      (launch_invariant serving) ran
  have inTime_or_ignored := allSteps_or_violated step NotifiesInTime Invariant Ignored
    (fun action => action.spurious = false) (fun _ _ _ before _ taken => before.step taken)
    (fun _ _ _ before late taken => ignored_of_not_inTime before late taken)
    (fun _ _ _ _ ignored usual taken => ignored.step usual taken)
      (launch_invariant serving) awake ran
  have forever : ¬ AllSteps step NotifiesInTime (launch app) actions ->
      forall (later : List LiveAction) (next : LiveState),
        (forall action, action ∈ later -> action.spurious = false) ->
        runActions step final later = some next ->
        next.app.main = .serving ∧ next.Ignored := by
    intro late later next usual goesOn
    have ignored := inTime_or_ignored.resolve_left late
    have both := invariant_of_allSteps step (fun _ action => action.spurious = false)
      (fun reached => reached.Invariant ∧ reached.Ignored)
      (fun _ _ _ before allowed taken => ⟨before.1.step taken, before.2.step allowed taken⟩)
        ⟨holds, ignored⟩
      (allSteps_of_actions step final later fun action member _ => usual action member) goesOn
    exact ⟨both.2.serving both.1, both.2⟩
  refine ⟨⟨fun leaves => ?_, fun inTime => ?_⟩, forever⟩
  · rcases leaves with ⟨own, ofMain, next, goesOn, elsewhere⟩
    by_contra late
    exact elsewhere (forever late own next
      (fun action member => ofMain_not_spurious (ofMain action member)) goesOn).1
  · have watched : runMonitor.Watched final.wait :=
      invariant_of_allSteps step NotifiesInTime (fun reached => runMonitor.Watched reached.wait)
        (fun _ _ _ before allowed taken => watched_step before allowed taken)
        (fun impossible => by cases impossible) inTime ran
    have flag := holds.flag
    have due := holds.due
    rw [requested] at flag due
    refine stops_alone flag ?_
    cases resting : final.wait.waiter.resting with
    | false => rfl
    | true =>
        have pending := watched resting flag
        rw [due] at pending
        cases pending

/-- The signal arrives after the test of the flag, and `request_stop` is
quicker than the sleep. -/
def signalBeforeSleep : List LiveAction :=
  [.start, .wait .lock, .wait .test, .requestStore, .requestNotify, .wait .sleep]

/-- This program never stops, whatever its threads do. -/
theorem signalBeforeSleep_ignored :
    Exists fun final => runActions step (launch AppState.liveApp) signalBeforeSleep = some final ∧
      forall (later : List LiveAction) (next : LiveState),
        (forall action, action ∈ later -> action.spurious = false) ->
        runActions step final later = some next ->
        next.app.main = .serving ∧ next.Ignored := by
  refine ⟨_, rfl, ?_⟩
  have serving : AppState.liveApp.main = .serving := rfl
  refine (stop_kept_iff_notified_in_time serving
    (rfl : runActions step _ signalBeforeSleep = _) ?_ rfl).2 ?_
  · decide
  · decide

/-! ## The stop protocol below the wait -/

/-- The steps that the threads, the main thread behind the wait, and the drain
timeout have taken. -/
def appActions (actions : List LiveAction) : List AppAction :=
  actions.filterMap fun
    | .app action => some action
    | _ => none

private theorem step_app {action : LiveAction} (taken : state.step action = some next) :
    runActions AppState.step state.app (appActions [action]) = some next.app := by
  cases move_of_step taken with
  | goesOn action app up other moved => exact (runActions_cons_eq_some _).mpr ⟨app, moved, rfl⟩
  | leaves wait app up here left moved => exact (runActions_cons_eq_some _).mpr ⟨app, moved, rfl⟩
  | starts | waits | stores | notifies => rfl

/-- A run of the program is a run of the stop protocol, in which the wait
takes no steps. -/
theorem run_app {actions : List LiveAction} {final : LiveState}
    (ran : runActions step state actions = some final) :
    runActions AppState.step state.app (appActions actions) = some final.app := by
  induction actions generalizing state with
  | nil =>
      cases ran
      rfl
  | cons action rest inductionHypothesis =>
      rcases (runActions_cons_eq_some _).mp ran with ⟨middle, taken, others⟩
      have split : appActions (action :: rest) = appActions [action] ++ appActions rest := by
        rw [appActions, appActions, appActions, ← List.filterMap_append, List.singleton_append]
      rw [split, runActions_append, step_app taken, Option.bind_some]
      exact inductionHypothesis others

end LiveState

end App
end RiskSentinel
