import RiskSentinel.Foundation.Monitor
import RiskSentinel.Pipeline.Threads

namespace RiskSentinel
namespace Risk

open Foundation Pipeline

/-!
# The wait of the dispatcher

`AlertDispatcher::run` waits for at most a second, so that an idle dispatcher
still records its heartbeat.  The source argues that alerts do not pay for
this: the wait ends at once when `dispatch` notifies.  That is so because
`dispatch` holds the mutex.  `stop` does not hold it, and its notification can
fall between the test and the sleep; the thread then sleeps until the timeout,
and no longer.
-/

/-- What `dispatch` and `stop` change and the wait tests. -/
structure Mailbox where
  queue : List Alert
  running : Bool
deriving DecidableEq

inductive MailboxOp where
  | dispatch (alert : Alert)
  | stop

namespace Mailbox

def ready (mailbox : Mailbox) : Bool :=
  !mailbox.queue.isEmpty || !mailbox.running

def perform : MailboxOp -> Mailbox -> Mailbox
  | .dispatch alert, mailbox => { mailbox with queue := mailbox.queue ++ [alert] }
  | .stop, mailbox => { mailbox with running := false }

/-- The critical section behind the wait: the front of the queue is taken. -/
def take (mailbox : Mailbox) : Mailbox :=
  { mailbox with queue := mailbox.queue.tail }

end Mailbox

def dispatcherMonitor : Monitor Mailbox MailboxOp where
  ready := Mailbox.ready
  perform := Mailbox.perform
  locks
    | .dispatch _ => true
    | .stop => false
  timed := true
  consume := Mailbox.take

/-- The same queue and flag among the threads of the pipeline. -/
def mailboxOf (threads : Threads) : Mailbox where
  queue := threads.queue
  running := threads.dispatcherRunning

/-- What the critical section does to them. -/
theorem mailboxOf_dispatcherTake {threads next : Threads}
    (taken : threads.dispatcherTake = some next) : mailboxOf next = (mailboxOf threads).take := by
  unfold Threads.dispatcherTake at taken
  split at taken
  next empty =>
    split at taken
    all_goals
      cases taken
      simp [mailboxOf, Mailbox.take, empty]
  next front =>
    cases taken
    simp [mailboxOf, Mailbox.take, front]
  next => cases taken

/-- The steps of a thread that sleeps, or is about to, until its timeout. -/
def timeoutWay : WaiterAt -> List (MonitorAction MailboxOp)
  | .committed => [.sleep, .expire, .lock]
  | .asleep => [.expire, .lock]
  | _ => []

private theorem runs_timeoutWay {state : MonitorState Mailbox}
    (resting : state.waiter.resting = true) :
    runActions dispatcherMonitor.step state
      (timeoutWay state.waiter) = some { state with waiter := .through } := by
  rcases state with ⟨shared, waiter, unnotified⟩
  cases waiter with
  | committed | asleep => rfl
  | outside | testing | roused | expired | through => cases resting

/-- A thread that rests has no alert. -/
private theorem queue_empty_of_resting {state next : MonitorState Mailbox}
    {action : MonitorAction MailboxOp}
    (empty : state.waiter.resting = true -> ¬ state.shared.queue ≠ [])
    (taken : dispatcherMonitor.step state action = some next) :
    next.waiter.resting = true -> ¬ next.shared.queue ≠ [] := by
  have tested : forall mailbox : Mailbox, mailbox.queue ≠ [] ->
      dispatcherMonitor.ready mailbox = true := by
    intro mailbox some
    cases queue : mailbox.queue with
    | nil => exact absurd queue some
    | cons alert rest => simp [dispatcherMonitor, Mailbox.ready, queue]
  refine Monitor.unheld_of_resting tested ?_ taken empty
  intro op mailbox unlocked some
  cases op with
  | dispatch alert => cases unlocked
  | stop => exact some

/-- For every run of `dispatch`, `stop` and the wait, from any queue: an alert
that has been dispatched is taken by steps of the thread alone, without its
timeout.  A stop whose notification did not fall between a test and the sleep
is noticed in the same way.  A thread that rests has no alert to take, and its
timeout gets it behind the wait. -/
theorem dispatched_alert_never_waits {mailbox : Mailbox} {owed : Nat}
    {actions : List (MonitorAction MailboxOp)} {final : MonitorState Mailbox}
    (ran : runActions dispatcherMonitor.step
      { shared := mailbox, unnotified := owed } actions = some final) :
    (final.shared.queue ≠ [] ->
        runActions dispatcherMonitor.step final (Monitor.wayThrough final.waiter) =
      some { final with waiter := .through }) ∧
    (AllSteps dispatcherMonitor.step Monitor.NotifiesInTime
      { shared := mailbox, unnotified := owed } actions ->
      final.shared.running = false -> final.unnotified = 0 ->
      runActions dispatcherMonitor.step final (Monitor.wayThrough final.waiter) =
        some { final with waiter := .through }) ∧
    (final.waiter.resting = true -> final.shared.queue = [] ∧
      runActions dispatcherMonitor.step final
        (timeoutWay final.waiter) = some { final with waiter := .through }) := by
  have noAlert := invariant_of_run dispatcherMonitor.step
    (fun state => state.waiter.resting = true -> ¬ state.shared.queue ≠ [])
    (fun _ _ _ empty taken => queue_empty_of_resting empty taken)
      (fun impossible => by cases impossible) ran
  refine ⟨fun some => ?_, fun inTime stopped silent => ?_, fun resting => ?_⟩
  · apply Monitor.runs_wayThrough
    · cases queue : final.shared.queue with
      | nil => exact absurd queue some
      | cons alert rest => simp [dispatcherMonitor, Mailbox.ready, queue]
    · cases resting : final.waiter.resting with
      | false => rfl
      | true => exact absurd some (noAlert resting)
  · have ready : dispatcherMonitor.ready final.shared = true := by
      simp [dispatcherMonitor, Mailbox.ready, stopped]
    have watched := invariant_of_allSteps dispatcherMonitor.step Monitor.NotifiesInTime
      dispatcherMonitor.Watched
      (fun _ _ _ before allowed taken => before.step allowed taken)
        (fun impossible => by cases impossible) inTime ran
    refine Monitor.runs_wayThrough ready ?_
    cases resting : final.waiter.resting with
    | false => rfl
    | true =>
        have pending := watched resting ready
        rw [silent] at pending
        cases pending
  · exact ⟨Classical.not_not.mp (noAlert resting), runs_timeoutWay resting⟩

/-- A stop arrives between the test and the sleep, an alert during the sleep. -/
def stopAndAlert : List (MonitorAction MailboxOp) :=
  [.lock, .test, .operate .stop, .notify, .sleep, .operate (.dispatch { ruleType := "governance" })]

/-- The stop is slept on, and the alert ends the sleep. -/
theorem stopAndAlert_wakes :
    Exists fun final =>
      runActions dispatcherMonitor.step { shared := ⟨[], true⟩ } stopAndAlert = some final ∧
        final.shared.running = false ∧
        runActions dispatcherMonitor.step final
          [.lock, .test] = some { final with waiter := .through } := by
  have ran : runActions dispatcherMonitor.step { shared := ⟨[], true⟩ } stopAndAlert =
      some ⟨⟨[{ ruleType := "governance" }], false⟩, .roused, 0⟩ := rfl
  exact ⟨_, ran, rfl, (dispatched_alert_never_waits ran).1 (List.cons_ne_nil _ _)⟩

end Risk
end RiskSentinel
