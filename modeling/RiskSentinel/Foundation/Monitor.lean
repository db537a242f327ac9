import RiskSentinel.Foundation.Computation

namespace RiskSentinel
namespace Foundation

/-!
# Waiting on a condition variable

A waiter takes a lock and tests a predicate of the shared state.  While the
predicate is false it goes to sleep, which gives the lock back in the same
step, and after waking up it takes the lock and tests again.  Other parties
perform operations on the shared state and notify the waiter.  A notification
wakes a waiter that is asleep and has no effect on any other.

An operation under the lock cannot fall between the test and the sleep.  An
operation without the lock can, and when its notification falls there as well
the waiter sleeps although the predicate is true.
-/

universe u v

/-- Where the waiter stands.  It holds the lock while it tests, until it is
asleep, and behind the wait. -/
inductive WaiterAt where
  | outside
  | testing
  | committed
  | asleep
  | roused
  | expired
  | through
deriving DecidableEq, Repr

namespace WaiterAt

def holdsLock : WaiterAt -> Bool
  | .testing | .committed | .through => true
  | .outside | .asleep | .roused | .expired => false

/-- The test was negative and the waiter has not woken up since. -/
def resting : WaiterAt -> Bool
  | .committed | .asleep => true
  | .outside | .testing | .roused | .expired | .through => false

/-- What a notification does. -/
def notified : WaiterAt -> WaiterAt
  | .asleep => .roused
  | place => place

end WaiterAt

/-- The use of one condition variable.  `locks` says which operations are
performed and notified under the lock, `timed` that the wait has a timeout;
`consume` is what the waiter does behind the wait before it gives the lock
back. -/
structure Monitor (Shared : Type u) (Op : Type v) where
  ready : Shared -> Bool
  perform : Op -> Shared -> Shared
  locks : Op -> Bool
  timed : Bool
  consume : Shared -> Shared

structure MonitorState (Shared : Type u) where
  shared : Shared
  waiter : WaiterAt := .outside
  /-- Operations performed without the lock whose notification is to come. -/
  unnotified : Nat := 0
deriving DecidableEq, Repr

/-- `rouse` is a spurious wake-up. -/
inductive MonitorAction (Op : Type v) where
  | lock
  | test
  | sleep
  | rouse
  | expire
  | leave
  | operate (op : Op)
  | notify
deriving DecidableEq, Repr

/-- What can end a rest besides a notification that is still to come. -/
def MonitorAction.endsRest {Op : Type v} : MonitorAction Op -> Bool
  | .rouse | .expire | .operate _ => true
  | .lock | .test | .sleep | .leave | .notify => false

namespace Monitor

variable {Shared : Type u} {Op : Type v} (monitor : Monitor Shared Op)

def operate (op : Op) (state : MonitorState Shared) : Option (MonitorState Shared) :=
  if monitor.locks op then
    -- The lock keeps the waiter from looking between the operation and its
    -- notification.
    if state.waiter.holdsLock then none
    else some { state with shared := monitor.perform op state.shared, waiter := state.waiter.notified }
  else
    some { state with shared := monitor.perform op state.shared, unnotified := state.unnotified + 1 }

def step (state : MonitorState Shared) : MonitorAction Op -> Option (MonitorState Shared)
  | .lock =>
      match state.waiter with
      | .outside | .roused => some { state with waiter := .testing }
      -- After the timeout the wait returns whatever the predicate says.
      | .expired => some { state with waiter := .through }
      | _ => none
  | .test =>
      match state.waiter with
      | .testing => some { state with waiter := if monitor.ready state.shared then .through
          else .committed }
      | _ => none
  | .sleep =>
      match state.waiter with
      | .committed => some { state with waiter := .asleep }
      | _ => none
  | .rouse =>
      match state.waiter with
      | .asleep => some { state with waiter := .roused }
      | _ => none
  | .expire =>
      match state.waiter with
      | .asleep => if monitor.timed then some { state with waiter := .expired } else none
      | _ => none
  | .leave =>
      match state.waiter with
      | .through => some { state with shared := monitor.consume state.shared, waiter := .outside }
      | _ => none
  | .operate op => monitor.operate op state
  | .notify =>
      match state.unnotified with
      | 0 => none
      | waiting + 1 => some { state with waiter := state.waiter.notified, unnotified := waiting }

/-! ## Every move -/

/-- Everything that can happen, with the state in which it happens. -/
inductive Move (state : MonitorState Shared) : MonitorAction Op -> MonitorState Shared -> Prop where
  | locks (free : state.waiter = .outside ∨ state.waiter = .roused) :
      Move state .lock { state with waiter := .testing }
  | givesUp (here : state.waiter = .expired) : Move state .lock { state with waiter := .through }
  | passes (here : state.waiter = .testing) (ready : monitor.ready state.shared = true) :
      Move state .test { state with waiter := .through }
  | commits (here : state.waiter = .testing) (unready : monitor.ready state.shared = false) :
      Move state .test { state with waiter := .committed }
  | sleeps (here : state.waiter = .committed) : Move state .sleep { state with waiter := .asleep }
  | rouses (here : state.waiter = .asleep) : Move state .rouse { state with waiter := .roused }
  | expires (here : state.waiter = .asleep) (timed : monitor.timed = true) :
      Move state .expire { state with waiter := .expired }
  | leaves (here : state.waiter = .through) :
      Move state .leave { state with shared := monitor.consume state.shared, waiter := .outside }
  | operatesLocked (op : Op) (locked : monitor.locks op = true)
      (free : state.waiter.holdsLock = false) :
      Move state (.operate op)
        { state with shared := monitor.perform op state.shared, waiter := state.waiter.notified }
  | operatesFreely (op : Op) (unlocked : monitor.locks op = false) :
      Move state (.operate op)
        { state with shared := monitor.perform op state.shared, unnotified := state.unnotified + 1 }
  | notifies (waiting : Nat) (due : state.unnotified = waiting + 1) :
      Move state .notify { state with waiter := state.waiter.notified, unnotified := waiting }

variable {monitor} {state next : MonitorState Shared}

theorem move_of_operate {op : Op} (taken : monitor.operate op state = some next) :
    monitor.Move state (.operate op) next := by
  unfold operate at taken
  cases locked : monitor.locks op with
  | true =>
      rw [locked, if_pos rfl] at taken
      cases free : state.waiter.holdsLock with
      | true =>
          rw [free, if_pos rfl] at taken
          cases taken
      | false =>
          rw [free, if_neg Bool.false_ne_true] at taken
          cases taken
          exact .operatesLocked op locked free
  | false =>
      rw [locked, if_neg Bool.false_ne_true] at taken
      cases taken
      exact .operatesFreely op locked

theorem move_of_step {action : MonitorAction Op} (taken : monitor.step state action = some next) :
    monitor.Move state action next := by
  cases action with
  | operate op => exact move_of_operate taken
  | lock =>
      simp only [step] at taken
      split at taken
      next here =>
        cases taken
        exact .locks (Or.inl here)
      next here =>
        cases taken
        exact .locks (Or.inr here)
      next here =>
        cases taken
        exact .givesUp here
      next => cases taken
  | test =>
      simp only [step] at taken
      split at taken
      next here =>
        cases ready : monitor.ready state.shared with
        | true =>
            rw [ready, if_pos rfl] at taken
            cases taken
            exact .passes here ready
        | false =>
            rw [ready, if_neg Bool.false_ne_true] at taken
            cases taken
            exact .commits here ready
      next => cases taken
  | sleep =>
      simp only [step] at taken
      split at taken
      next here =>
        cases taken
        exact .sleeps here
      next => cases taken
  | rouse =>
      simp only [step] at taken
      split at taken
      next here =>
        cases taken
        exact .rouses here
      next => cases taken
  | expire =>
      simp only [step] at taken
      split at taken
      next here =>
        cases timed : monitor.timed with
        | true =>
            rw [timed, if_pos rfl] at taken
            cases taken
            exact .expires here timed
        | false =>
            rw [timed, if_neg Bool.false_ne_true] at taken
            cases taken
      next => cases taken
  | leave =>
      simp only [step] at taken
      split at taken
      next here =>
        cases taken
        exact .leaves here
      next => cases taken
  | notify =>
      simp only [step] at taken
      split at taken
      next => cases taken
      next waiting due =>
        cases taken
        exact .notifies waiting due

/-! ## Operations under the lock -/

section Guarded

/-- A notified waiter rests only if it has committed itself and not slept. -/
private theorem committed_of_resting_notified {place : WaiterAt}
    (resting : place.notified.resting = true) : place = .committed := by
  cases place with
  | committed => rfl
  | outside | testing | asleep | roused | expired | through => cases resting

variable {property : Shared -> Prop}

/-- A property that makes the predicate true and that is brought about under
the lock alone never holds while the waiter rests. -/
theorem unheld_of_resting (tested : forall shared, property shared -> monitor.ready shared = true)
    (underLock : forall op shared, monitor.locks op = false ->
      property (monitor.perform op shared) ->
      property shared)
    {action : MonitorAction Op} (taken : monitor.step state action = some next)
    (unheld : state.waiter.resting = true -> ¬ property state.shared) :
    next.waiter.resting = true -> ¬ property next.shared := by
  intro resting held
  cases move_of_step taken with
  | commits here unready =>
      rw [tested _ held] at unready
      cases unready
  | sleeps here => exact unheld (by rw [here]; rfl) held
  | operatesLocked op locked free =>
      have here := committed_of_resting_notified resting
      rw [here] at free
      cases free
  | operatesFreely op unlocked => exact unheld resting (underLock op _ unlocked held)
  | notifies waiting due => exact unheld (by rw [committed_of_resting_notified resting]; rfl) held
  | locks | givesUp | passes | rouses | expires | leaves => cases resting

end Guarded

/-! ## Operations without the lock -/

/-- A notification comes when the waiter is not between its test and its
sleep. -/
def NotifiesInTime (state : MonitorState Shared) : MonitorAction Op -> Prop
  | .notify => state.waiter ≠ .committed
  | _ => True

/-- A waiter that rests although the predicate is true will be notified. -/
def Watched (monitor : Monitor Shared Op) (state : MonitorState Shared) : Prop :=
  state.waiter.resting = true -> monitor.ready state.shared = true -> 0 < state.unnotified

/-- The waiter rests, the predicate is true, and no notification is to come. -/
structure Lost (monitor : Monitor Shared Op) (state : MonitorState Shared) : Prop where
  resting : state.waiter.resting = true
  ready : monitor.ready state.shared = true
  silent : state.unnotified = 0

theorem Watched.step {action : MonitorAction Op} (watched : monitor.Watched state)
    (inTime : NotifiesInTime state action) (taken : monitor.step state action = some next) :
    monitor.Watched next := by
  intro resting ready
  cases move_of_step taken with
  | commits here unready =>
      change monitor.ready state.shared = true at ready
      rw [unready] at ready
      cases ready
  | sleeps here => exact watched (by rw [here]; rfl) ready
  | operatesLocked op locked free =>
      rw [committed_of_resting_notified resting] at free
      cases free
  | operatesFreely op unlocked => exact Nat.succ_pos _
  | notifies waiting due => exact absurd (committed_of_resting_notified resting) inTime
  | locks | givesUp | passes | rouses | expires | leaves => cases resting

/-- The last notification falls between the test and the sleep. -/
theorem lost_of_not_inTime {action : MonitorAction Op} (late : ¬ NotifiesInTime state action)
    (ready : monitor.ready state.shared = true) (last : state.unnotified = 1)
    (taken : monitor.step state action = some next) : monitor.Lost next := by
  cases move_of_step taken with
  | notifies waiting due =>
      have here : state.waiter = .committed := by
        by_cases between : state.waiter = .committed
        · exact between
        · exact absurd between late
      rw [last] at due
      refine ⟨?_, ready, ?_⟩
      · change state.waiter.notified.resting = true
        rw [here]
        rfl
      · exact (Nat.succ.inj due).symm
  | _ => exact absurd trivial late

/-- A lost notification is lost until something else ends the rest. -/
theorem Lost.step {action : MonitorAction Op} (lost : monitor.Lost state)
    (usual : action.endsRest = false) (taken : monitor.step state action = some next) :
    monitor.Lost next := by
  have resting := lost.resting
  cases move_of_step taken with
  | sleeps here => exact ⟨rfl, lost.ready, lost.silent⟩
  | notifies waiting due =>
      rw [lost.silent] at due
      cases due
  | locks free =>
      rcases free with here | here <;>
        · rw [here] at resting
          cases resting
  | givesUp here | passes here | commits here | leaves here =>
      rw [here] at resting
      cases resting
  | rouses | expires | operatesLocked | operatesFreely => cases usual

/-- The steps that the waiter takes by itself to get behind the wait when the
predicate is true and it does not rest. -/
def wayThrough : WaiterAt -> List (MonitorAction Op)
  | .outside | .roused => [.lock, .test]
  | .testing => [.test]
  | .expired => [.lock]
  | .through | .committed | .asleep => []

/-- A waiter that does not rest gets behind the wait alone. -/
theorem runs_wayThrough (ready : monitor.ready state.shared = true)
    (awake : state.waiter.resting = false) :
    runActions monitor.step state
      (wayThrough state.waiter) = some { state with waiter := .through } := by
  rcases state with ⟨shared, waiter, unnotified⟩
  change monitor.ready shared = true at ready
  cases waiter with
  | committed | asleep => cases awake
  | outside | roused | testing | expired | through => simp [wayThrough, runActions, step, ready]

end Monitor

end Foundation
end RiskSentinel
