import RiskSentinel.Foundation.Computation
import RiskSentinel.Risk.AlertDispatcher

namespace RiskSentinel
namespace Risk

open Foundation

/-!
# The loop of the dispatcher, step by step

`AlertDispatcher.handle` says what one turn of the loop does with an alert.
Here is the loop itself, interleaved with any number of calls of `dispatch`
and `stop` from other threads.  The thread of `run` stands at a place of the
source; from the first line of the critical section to its end it holds the
mutex, and no `dispatch` completes meanwhile.  `stop` takes no mutex and may
fall between any two steps.  A call of `send` ends in any way; the fan-out
takes one step for each channel.

The state also records what has happened: the alerts whose `dispatch` has
completed, the turns that are finished, and the calls of `send`.  The loop
refines `handleAll`: whatever the interleaving, the deduplicator, the counters
and the calls are those of the finished turns, taken one after another.
-/

/-- Where the thread of `run` stands. -/
inductive Place where
  | notStarted
  | loopHead
  | testingQueue
  | testingRunning
  | testingToken
  | waiting
  | askingRunning
  | askingToken
  | decided (isShutdown : Bool)
  | taken (alert : Alert)
  | sending (item : TimedAlert) (outcomes : List SendOutcome)
  | leaving
  | returned

namespace Place

/-- The thread holds the mutex. -/
def locked : Place -> Bool
  | .testingQueue | .testingRunning | .testingToken | .askingRunning | .askingToken
      | .decided _ => true
  | .notStarted | .loopHead | .waiting | .taken _ | .sending _ _ | .leaving | .returned => false

/-- The alert that has left the queue and whose turn is not finished. -/
def current : Place -> List Alert
  | .taken alert => [alert]
  | .sending item _ => [item.alert]
  | _ => []

/-- That alert once the deduplicator has let it through. -/
def judged : Place -> List TimedAlert
  | .sending item _ => [item]
  | _ => []

/-- That alert while it has not come to the channel at a position. -/
def pendingAt (position : Nat) : Place -> List Alert
  | .sending item outcomes => if outcomes.length ≤ position then [item.alert] else []
  | _ => []

end Place

structure LoopState where
  running : Bool := false
  stopRequested : Bool := false
  queue : List Alert := []
  place : Place := .notStarted
  dispatcher : AlertDispatcher
  /-- Calls of `stop` that have cleared the flag and not returned. -/
  stopsStored : Nat := 0
  stopsReturned : Nat := 0
  dispatched : List Alert := []
  finished : List Delivery := []
  /-- Every call of a channel's `send`, in order. -/
  sends : List (Nat × Alert) := []
  /-- What had been dispatched when `run` found the queue empty and left. -/
  dispatchedAtExit : Option (List Alert) := none

inductive LoopAction where
  | start
  | advance
  | wake
  | timeout
  | judge (nowMs : UInt64)
  | send (outcome : SendOutcome)
  | dispatch (alert : Alert)
  | stopStore
  | stopReturn
  | requestStop

/-- How the channels have behaved so far. -/
def outcomeAt (outcomes : List SendOutcome) (position : Nat) : SendOutcome :=
  outcomes.getD position .sent

/-- What the dispatcher counts after one call. -/
def countSend (counters : DispatchCounters) (name : String) (outcome : SendOutcome) :
    DispatchCounters :=
  match outcome with
  | .sent => { counters with alertsSent := increment counters.alertsSent name }
  | .standardException | .unknownException =>
      { counters with alertsSendFailures := increment counters.alertsSendFailures name }

namespace LoopState

variable (state : LoopState)

/-- The part of `run` between the clock reading and the fan-out. -/
def judge (alert : Alert) (nowMs : UInt64) : LoopState :=
  let decided := state.dispatcher.deduplicator.shouldSuppress alert nowMs
  if decided.2 then
    { state with
      place := .loopHead
      dispatcher := { state.dispatcher with
        deduplicator := decided.1
        counters := { state.dispatcher.counters with
          alertsDeduplicated :=
            increment state.dispatcher.counters.alertsDeduplicated alert.ruleType } }
      finished := state.finished ++ [⟨alert, nowMs, fun _ => .sent⟩] }
  else
    { state with
      place := .sending ⟨alert, nowMs⟩ []
      dispatcher := { state.dispatcher with deduplicator := decided.1 } }

/-- One call of `send`.  An exception is caught and counted. -/
def callChannel (name : String) (item : TimedAlert) (outcomes : List SendOutcome)
    (outcome : SendOutcome) : LoopState :=
  { state with
    place := .sending item (outcomes ++ [outcome])
    dispatcher := { state.dispatcher
      with counters := countSend state.dispatcher.counters name outcome }
    sends := state.sends ++ [(outcomes.length, item.alert)] }

def sendNext (item : TimedAlert) (outcomes : List SendOutcome) (outcome : SendOutcome) :
    Option LoopState :=
  match state.dispatcher.channels[outcomes.length]? with
  | none => none
  | some name => some (state.callChannel name item outcomes outcome)

/-- The steps of `run` that depend on the state alone. -/
def advance : Option LoopState :=
  match state.place with
  | .loopHead => some { state with place := .testingQueue }
  -- The predicate of the wait: some alert, no longer running, or told to stop.
  | .testingQueue => some { state with place := if state.queue.isEmpty then .testingRunning
      else .askingRunning }
  | .testingRunning =>
      some { state with place := if state.running then .testingToken else .askingRunning }
  | .testingToken => some { state with place := if state.stopRequested
      then .askingRunning else .waiting }
  -- The test for shutdown behind the wait.
  | .askingRunning => some { state with place := if state.running then .askingToken else .decided true }
  | .askingToken => some { state with place := .decided state.stopRequested }
  | .decided isShutdown =>
      match state.queue with
      | [] =>
          if isShutdown then
            some { state with place := .leaving, dispatchedAtExit := some state.dispatched }
          else some { state with place := .loopHead }
      | alert :: rest => some { state with queue := rest, place := .taken alert }
  | .sending item outcomes =>
      if outcomes.length = state.dispatcher.channels.length then
        some { state with
          place := .loopHead
          finished := state.finished ++ [⟨item.alert, item.nowMs, outcomeAt outcomes⟩] }
      else none
  | .leaving => some { state with place := .returned }
  | .notStarted | .waiting | .taken _ | .returned => none

/-- One step of some thread. -/
def step : LoopAction -> Option LoopState
  | .start =>
      match state.place with
      | .notStarted => some { state with running := true, place := .loopHead }
      | _ => none
  | .advance => state.advance
  -- A notification or a spurious wake-up tests the predicate again; after the
  -- timeout the wait returns whatever the predicate says.
  | .wake =>
      match state.place with
      | .waiting => some { state with place := .testingQueue }
      | _ => none
  | .timeout =>
      match state.place with
      | .waiting => some { state with place := .askingRunning }
      | _ => none
  | .judge nowMs =>
      match state.place with
      | .taken alert => some (state.judge alert nowMs)
      | _ => none
  | .send outcome =>
      match state.place with
      | .sending item outcomes => state.sendNext item outcomes outcome
      | _ => none
  | .dispatch alert =>
      if state.place.locked then none
      else some { state with queue := state.queue ++ [alert], dispatched := state.dispatched ++ [alert] }
  | .stopStore => some { state with running := false, stopsStored := state.stopsStored + 1 }
  | .stopReturn =>
      match state.stopsStored with
      | 0 => none
      | stored + 1 => some { state with stopsStored := stored, stopsReturned := state.stopsReturned + 1 }
  | .requestStop => some { state with stopRequested := true }

/-- The alerts on which the channel at a position was called. -/
def sentTo (position : Nat) : List Alert :=
  (state.sends.filter fun call => decide (call.1 = position)).map Prod.snd

end LoopState

/-! ## What a step can do -/

/-- The steps by name, with what each of them finds and leaves. -/
inductive Moves (state : LoopState) : LoopAction -> LoopState -> Prop
  | started (here : state.place = .notStarted) :
      Moves state .start { state with running := true, place := .loopHead }
  | locks (here : state.place = .loopHead) :
      Moves state .advance { state with place := .testingQueue }
  | findsEmpty (here : state.place = .testingQueue) (empty : state.queue = []) :
      Moves state .advance { state with place := .testingRunning }
  | findsAlert (here : state.place = .testingQueue) (nonempty : state.queue ≠ []) :
      Moves state .advance { state with place := .askingRunning }
  | goesOn (here : state.place = .testingRunning) (running : state.running = true) :
      Moves state .advance { state with place := .testingToken }
  | findsStopped (here : state.place = .testingRunning) (stopped : state.running = false) :
      Moves state .advance { state with place := .askingRunning }
  | findsRequest (here : state.place = .testingToken) (requested : state.stopRequested = true) :
      Moves state .advance { state with place := .askingRunning }
  | waits (here : state.place = .testingToken) (unrequested : state.stopRequested = false) :
      Moves state .advance { state with place := .waiting }
  | asks (here : state.place = .askingRunning) (running : state.running = true) :
      Moves state .advance { state with place := .askingToken }
  | shutsDown (here : state.place = .askingRunning) (stopped : state.running = false) :
      Moves state .advance { state with place := .decided true }
  | decides (here : state.place = .askingToken) :
      Moves state .advance { state with place := .decided state.stopRequested }
  | exits (here : state.place = .decided true) (empty : state.queue = []) :
      Moves state .advance
        { state with place := .leaving, dispatchedAtExit := some state.dispatched }
  | continues (here : state.place = .decided false) (empty : state.queue = []) :
      Moves state .advance { state with place := .loopHead }
  | takes {isShutdown : Bool} {alert : Alert} {rest : List Alert}
      (here : state.place = .decided isShutdown) (front : state.queue = alert :: rest) :
      Moves state .advance { state with queue := rest, place := .taken alert }
  | finishes {item : TimedAlert} {outcomes : List SendOutcome}
      (here : state.place = .sending item outcomes)
      (complete : outcomes.length = state.dispatcher.channels.length) :
      Moves state .advance { state with
        place := .loopHead
        finished := state.finished ++ [⟨item.alert, item.nowMs, outcomeAt outcomes⟩] }
  | returns (here : state.place = .leaving) : Moves state .advance { state with place := .returned }
  | wakes (here : state.place = .waiting) : Moves state .wake { state with place := .testingQueue }
  | timesOut (here : state.place = .waiting) :
      Moves state .timeout { state with place := .askingRunning }
  | judges {alert : Alert} (here : state.place = .taken alert) (nowMs : UInt64) :
      Moves state (.judge nowMs) (state.judge alert nowMs)
  | sends {item : TimedAlert} {outcomes : List SendOutcome} {name : String}
      (here : state.place = .sending item outcomes)
      (registered : state.dispatcher.channels[outcomes.length]? = some name)
        (outcome : SendOutcome) :
      Moves state (.send outcome) (state.callChannel name item outcomes outcome)
  | arrives (free : state.place.locked = false) (alert : Alert) :
      Moves state (.dispatch alert)
        { state with queue := state.queue ++ [alert], dispatched := state.dispatched ++ [alert] }
  | stores : Moves state .stopStore
      { state with running := false, stopsStored := state.stopsStored + 1 }
  | stopReturns {stored : Nat} (pending : state.stopsStored = stored + 1) :
      Moves state .stopReturn
        { state with stopsStored := stored, stopsReturned := state.stopsReturned + 1 }
  | requests : Moves state .requestStop { state with stopRequested := true }

private theorem moves_of_advance {state next : LoopState} (taken : state.advance = some next) :
    Moves state .advance next := by
  unfold LoopState.advance at taken
  split at taken <;> rename_i here
  · cases taken
    exact .locks here
  · cases taken
    by_cases empty : state.queue.isEmpty = true
    · rw [if_pos empty]
      exact .findsEmpty here (List.isEmpty_iff.mp empty)
    · rw [if_neg empty]
      exact .findsAlert here fun nothing => empty (List.isEmpty_iff.mpr nothing)
  · cases taken
    by_cases running : state.running = true
    · rw [if_pos running]
      exact .goesOn here running
    · rw [if_neg running]
      exact .findsStopped here (Bool.eq_false_iff.mpr running)
  · cases taken
    by_cases requested : state.stopRequested = true
    · rw [if_pos requested]
      exact .findsRequest here requested
    · rw [if_neg requested]
      exact .waits here (Bool.eq_false_iff.mpr requested)
  · cases taken
    by_cases running : state.running = true
    · rw [if_pos running]
      exact .asks here running
    · rw [if_neg running]
      exact .shutsDown here (Bool.eq_false_iff.mpr running)
  · cases taken
    exact .decides here
  · split at taken
    · rename_i isShutdown _ empty
      cases isShutdown with
      | true =>
          cases taken
          exact .exits here empty
      | false =>
          cases taken
          exact .continues here empty
    · cases taken
      rename_i front
      exact .takes here front
  · split at taken
    · cases taken
      rename_i complete
      exact .finishes here complete
    · cases taken
  · cases taken
    exact .returns here
  · cases taken
  · cases taken
  · cases taken
  · cases taken

/-- The list is complete. -/
theorem moves_of_step {state next : LoopState} {action : LoopAction}
    (taken : state.step action = some next) : Moves state action next := by
  cases action with
  | start =>
      simp only [LoopState.step] at taken
      split at taken
      · cases taken
        exact .started ‹_›
      · cases taken
  | advance => exact moves_of_advance taken
  | wake =>
      simp only [LoopState.step] at taken
      split at taken
      · cases taken
        exact .wakes ‹_›
      · cases taken
  | timeout =>
      simp only [LoopState.step] at taken
      split at taken
      · cases taken
        exact .timesOut ‹_›
      · cases taken
  | judge nowMs =>
      simp only [LoopState.step] at taken
      split at taken
      · cases taken
        exact .judges ‹_› nowMs
      · cases taken
  | send outcome =>
      simp only [LoopState.step] at taken
      split at taken
      · rename_i here
        unfold LoopState.sendNext at taken
        split at taken
        · cases taken
        · cases taken
          exact .sends here ‹_› outcome
      · cases taken
  | dispatch alert =>
      simp only [LoopState.step] at taken
      split at taken
      · cases taken
      · cases taken
        exact .arrives (Bool.eq_false_iff.mpr ‹_›) alert
  | stopStore =>
      cases taken
      exact .stores
  | stopReturn =>
      simp only [LoopState.step] at taken
      split at taken
      · cases taken
      · cases taken
        exact .stopReturns ‹_›
  | requestStop =>
      cases taken
      exact .requests

/-- A dispatcher whose thread has not been scheduled yet. -/
def newLoop (dispatcher : AlertDispatcher) : LoopState where
  dispatcher := dispatcher

/-! ## The fan-out, channel by channel -/

private theorem sendThrough_snoc (outcome : Nat -> SendOutcome) (counters : DispatchCounters)
    (channels : List (String × Nat)) (name : String) (position : Nat) :
    (AlertDispatcher.sendThrough outcome counters (channels ++ [(name, position)])).1 =
      countSend (AlertDispatcher.sendThrough outcome counters channels).1 name
        (outcome position) := by
  induction channels generalizing counters with
  | nil =>
      cases ended : outcome position <;> simp [AlertDispatcher.sendThrough, countSend, ended]
  | cons channel rest inductionHypothesis =>
      cases ended : outcome channel.2 <;>
        simp [AlertDispatcher.sendThrough, ended, inductionHypothesis]

private theorem sendThrough_congr {left right : Nat -> SendOutcome} (counters : DispatchCounters)
    (channels : List (String × Nat))
    (same : forall channel, channel ∈ channels -> left channel.2 = right channel.2) :
    AlertDispatcher.sendThrough left counters channels =
      AlertDispatcher.sendThrough right counters channels := by
  induction channels generalizing counters with
  | nil => rfl
  | cons channel rest inductionHypothesis =>
      have others := fun more => inductionHypothesis more fun other member =>
        same other (List.mem_cons_of_mem _ member)
      simp only [AlertDispatcher.sendThrough, same channel List.mem_cons_self, others]

/-- The channels that have been called. -/
def called (channels : List String) (count : Nat) : List (String × Nat) :=
  channels.zipIdx.take count

private theorem called_succ {channels : List String} {count : Nat} {name : String}
    (registered : channels[count]? = some name) :
    called channels (count + 1) = called channels count ++ [(name, count)] := by
  have entry : channels.zipIdx[count]? = some (name, count) := by
    rw [List.getElem?_zipIdx, registered]
    simp
  rw [called, called, List.take_add_one, entry]
  rfl

private theorem snd_lt_of_mem_called {channels : List String} {count : Nat} {channel : String × Nat}
    (member : channel ∈ called channels count) : channel.2 < count := by
  rcases List.mem_take_iff_getElem.mp member with ⟨index, inside, found⟩
  rw [List.getElem_zipIdx] at found
  rw [← found]
  simp only [Nat.zero_add]
  omega

/-- One more call adds one more count. -/
private theorem sendThrough_called_succ {channels : List String}
    {outcomes : List SendOutcome} {name : String}
    (registered : channels[outcomes.length]? = some name) (counters : DispatchCounters)
    (outcome : SendOutcome) :
    (AlertDispatcher.sendThrough (outcomeAt (outcomes ++ [outcome])) counters
        (called channels (outcomes.length + 1))).1 =
      countSend (AlertDispatcher.sendThrough (outcomeAt outcomes) counters
        (called channels outcomes.length)).1 name
        outcome := by
  have last : outcomeAt (outcomes ++ [outcome]) outcomes.length = outcome := by
    simp [outcomeAt]
  have before : forall channel, channel ∈ called channels outcomes.length ->
      outcomeAt (outcomes ++ [outcome]) channel.2 = outcomeAt outcomes channel.2 := by
    intro channel member
    have inside := snd_lt_of_mem_called member
    simp only [outcomeAt, List.getD_eq_getElem?_getD, List.getElem?_append_left inside]
  rw [called_succ registered, sendThrough_snoc, last, sendThrough_congr _ _ before]

/-! ## The loop refines the turns -/

/-- The deduplicator and the counters are those that the finished turns have
left, and during a fan-out those that its turn has reached. -/
def InTurn (initial : AlertDispatcher) (state : LoopState) : Prop :=
  match state.place with
  | .sending item outcomes =>
      outcomes.length ≤ initial.channels.length ∧
        (initial.handleAll state.finished).1.deduplicator.shouldSuppress item.alert item.nowMs =
          (state.dispatcher.deduplicator, false) ∧
        state.dispatcher.counters = (AlertDispatcher.sendThrough (outcomeAt outcomes)
          (initial.handleAll state.finished).1.counters (called initial.channels outcomes.length)).1
  | _ => state.dispatcher = (initial.handleAll state.finished).1

/-- What holds of the loop in every interleaving. -/
structure Refines (initial : AlertDispatcher) (state : LoopState) : Prop where
  channels : state.dispatcher.channels = initial.channels
  order : state.finished.map Delivery.alert ++ (state.place.current ++ state.queue) =
    state.dispatched
  turn : InTurn initial state
  calls : forall position, position < initial.channels.length ->
    state.sentTo position ++ state.place.pendingAt position =
      (AlertDispatcher.unsuppressed (initial.handleAll state.finished).2).map Delivery.alert ++
        state.place.judged.map TimedAlert.alert
  exit : state.place = .leaving ∨ state.place = .returned ->
    state.dispatchedAtExit = some (state.finished.map Delivery.alert)

/-- The loop has been left. -/
def Place.left : Place -> Bool
  | .leaving | .returned => true
  | _ => false

private theorem exit_inside {place : Place} {claimed : Prop} (inside : place.left = false)
    (either : place = .leaving ∨ place = .returned) : claimed := by
  rcases either with rfl | rfl
  · cases inside
  · cases inside

theorem refines_newLoop (initial : AlertDispatcher) : Refines initial (newLoop initial) where
  channels := rfl
  order := rfl
  turn := rfl
  calls := fun _ _ => rfl
  exit := exit_inside rfl

/-- A place inside or before the loop at which no alert is between the queue
and the channels. -/
def Place.idle : Place -> Bool
  | .taken _ | .sending _ _ | .leaving | .returned => false
  | _ => true

private theorem Place.idle_views {place : Place} (idle : place.idle = true) :
    place.current = [] ∧ place.judged = [] ∧ (forall position, place.pendingAt position = []) ∧
      ¬ (place = .leaving ∨ place = .returned) := by
  cases place with
  | taken alert => cases idle
  | sending item outcomes => cases idle
  | leaving => cases idle
  | returned => cases idle
  | _ => exact ⟨rfl, rfl, fun _ => rfl, by simp⟩

/-- Outside a fan-out the dispatcher is the one that the finished turns have
left. -/
private theorem inTurn_iff_of_unjudged {initial : AlertDispatcher} {state : LoopState}
    (unjudged : state.place.judged = []) :
    InTurn initial state ↔ state.dispatcher = (initial.handleAll state.finished).1 := by
  unfold InTurn
  cases place : state.place with
  | sending item outcomes =>
      rw [place] at unjudged
      cases unjudged
  | _ => exact Iff.rfl

namespace Refines

variable {initial : AlertDispatcher} {state : LoopState}

/-- Steps between idle places inside the loop change nothing that matters. -/
private theorem quiet (refines : Refines initial state) (running : Bool) {place : Place}
    (before : state.place.idle = true) (after : place.idle = true) :
    Refines initial { state with running := running, place := place } := by
  rcases Place.idle_views before with ⟨current, judged, pending, _⟩
  rcases Place.idle_views after with ⟨newCurrent, newJudged, newPending, inside⟩
  refine ⟨refines.channels, ?_, ?_, fun position registered => ?_,
    fun either => absurd either inside⟩
  · have order := refines.order
    rw [current] at order
    rw [newCurrent]
    exact order
  · exact (inTurn_iff_of_unjudged newJudged).mpr ((inTurn_iff_of_unjudged judged).mp refines.turn)
  · have calls := refines.calls position registered
    rw [pending, judged] at calls
    rw [newPending, newJudged]
    exact calls

/-- The dispatcher outside a fan-out. -/
private theorem dispatcher_eq (refines : Refines initial state)
    (unjudged : state.place.judged = []) :
    state.dispatcher = (initial.handleAll state.finished).1 :=
  (inTurn_iff_of_unjudged unjudged).mp refines.turn

/-- The dispatcher during a fan-out. -/
theorem fan_out (refines : Refines initial state) {item : TimedAlert} {outcomes : List SendOutcome}
    (here : state.place = .sending item outcomes) :
    outcomes.length ≤ initial.channels.length ∧
      (initial.handleAll state.finished).1.deduplicator.shouldSuppress item.alert item.nowMs =
        (state.dispatcher.deduplicator, false) ∧
      state.dispatcher.counters = (AlertDispatcher.sendThrough (outcomeAt outcomes)
        (initial.handleAll state.finished).1.counters
        (called initial.channels outcomes.length)).1 := by
  have turn := refines.turn
  unfold InTurn at turn
  rw [here] at turn
  exact turn

private theorem takes (refines : Refines initial state) {isShutdown : Bool} {alert : Alert}
    {rest : List Alert} (here : state.place = .decided isShutdown)
    (front : state.queue = alert :: rest) :
    Refines initial { state with queue := rest, place := .taken alert } := by
  refine ⟨refines.channels, ?_, ?_, fun position registered => ?_, exit_inside rfl⟩
  · have order := refines.order
    rw [here, front] at order
    exact order
  · exact refines.dispatcher_eq (by rw [here]; rfl)
  · have calls := refines.calls position registered
    rw [here] at calls
    exact calls

/-- The exit is taken with an empty queue, so everything dispatched so far
has had its turn. -/
private theorem exits (refines : Refines initial state) {isShutdown : Bool}
    (here : state.place = .decided isShutdown) (empty : state.queue = []) :
    Refines initial { state with place := .leaving, dispatchedAtExit := some state.dispatched } := by
  have order := refines.order
  rw [here, empty] at order
  refine ⟨refines.channels, ?_, ?_, fun position registered => ?_, fun _ => ?_⟩
  · rw [empty]
    exact order
  · exact refines.dispatcher_eq (by rw [here]; rfl)
  · have calls := refines.calls position registered
    rw [here] at calls
    exact calls
  · change some state.dispatched = some (state.finished.map Delivery.alert)
    rw [← order]
    simp [Place.current]

private theorem returns (refines : Refines initial state) (here : state.place = .leaving) :
    Refines initial { state with place := .returned } := by
  refine ⟨refines.channels, ?_, ?_, fun position registered => ?_,
    fun _ => refines.exit (Or.inl here)⟩
  · have order := refines.order
    rw [here] at order
    exact order
  · exact refines.dispatcher_eq (by rw [here]; rfl)
  · have calls := refines.calls position registered
    rw [here] at calls
    exact calls

private theorem arrives (refines : Refines initial state) (alert : Alert) :
    Refines initial { state with
      queue := state.queue ++ [alert]
      dispatched := state.dispatched ++ [alert] } := by
  refine ⟨refines.channels, ?_, refines.turn, refines.calls, refines.exit⟩
  change _ ++ (_ ++ (state.queue ++ [alert])) = state.dispatched ++ [alert]
  rw [← refines.order]
  simp

/-- One more finished turn. -/
private theorem handleAll_snoc (finished : List Delivery) (delivery : Delivery) :
    initial.handleAll (finished ++ [delivery]) =
      (((initial.handleAll finished).1.handle delivery).1,
        (initial.handleAll finished).2 ++
          [((initial.handleAll finished).1.handle delivery).2]) := by
  rw [AlertDispatcher.handleAll_append]
  rfl

private theorem unsuppressed_snoc (records : List DispatchRecord) (record : DispatchRecord) :
    AlertDispatcher.unsuppressed (records ++ [record]) =
      AlertDispatcher.unsuppressed records ++ if record.suppressed then []
        else [record.delivery] := by
  cases suppressed : record.suppressed <;> simp [AlertDispatcher.unsuppressed, suppressed]

private theorem judges (refines : Refines initial state) {alert : Alert}
    (here : state.place = .taken alert) (nowMs : UInt64) :
    Refines initial (state.judge alert nowMs) := by
  have turn := refines.dispatcher_eq (by rw [here]; rfl)
  have order := refines.order
  rw [here] at order
  unfold LoopState.judge
  dsimp only
  by_cases suppressed : (state.dispatcher.deduplicator.shouldSuppress alert nowMs).2 = true
  · rw [if_pos suppressed]
    have handled : (state.dispatcher.handle ⟨alert, nowMs, fun _ => .sent⟩) =
        ({ state.dispatcher with
            deduplicator := (state.dispatcher.deduplicator.shouldSuppress alert nowMs).1
            counters := { state.dispatcher.counters with
              alertsDeduplicated :=
                increment state.dispatcher.counters.alertsDeduplicated alert.ruleType } },
          { delivery := ⟨alert, nowMs, fun _ => .sent⟩, suppressed := true, sentBy := [] }) := by
      unfold AlertDispatcher.handle
      dsimp only
      rw [if_pos suppressed]
    refine ⟨refines.channels, ?_, ?_, fun position registered => ?_, exit_inside rfl⟩
    · rw [← order]
      simp [Place.current]
    · change _ = (initial.handleAll (state.finished ++ [_])).1
      rw [handleAll_snoc, ← turn, handled]
    · have calls := refines.calls position registered
      rw [here] at calls
      change state.sentTo position ++ [] =
        (AlertDispatcher.unsuppressed
          (initial.handleAll (state.finished ++ [_])).2).map Delivery.alert ++ []
      rw [handleAll_snoc, ← turn, handled, unsuppressed_snoc, if_pos rfl]
      simpa [Place.pendingAt, Place.judged] using calls
  · rw [if_neg suppressed]
    refine ⟨refines.channels, order, ?_, fun position registered => ?_, exit_inside rfl⟩
    · refine ⟨Nat.zero_le _, ?_, ?_⟩
      · rw [← turn]
        exact Prod.ext rfl (Bool.eq_false_iff.mpr suppressed)
      · rw [← turn]
        rfl
    · have calls := refines.calls position registered
      rw [here] at calls
      change state.sentTo position ++ [alert] = _ ++ [alert]
      exact congrArg (· ++ [alert]) (by simpa [Place.pendingAt, Place.judged] using calls)
  
private theorem sends (refines : Refines initial state) {item : TimedAlert}
    {outcomes : List SendOutcome} {name : String} (here : state.place = .sending item outcomes)
    (registered : state.dispatcher.channels[outcomes.length]? = some name) (outcome : SendOutcome) :
    Refines initial (state.callChannel name item outcomes outcome) := by
  rcases refines.fan_out here with ⟨_, judged, counters⟩
  have order := refines.order
  rw [here] at order
  rw [refines.channels] at registered
  have inside : outcomes.length < initial.channels.length :=
    (List.getElem?_eq_some_iff.mp registered).1
  refine ⟨refines.channels, order, ⟨?_, judged, ?_⟩, fun position within => ?_, exit_inside rfl⟩
  · rw [List.length_append]
    exact inside
  · change countSend state.dispatcher.counters name outcome = _
    rw [List.length_append, List.length_singleton, sendThrough_called_succ registered, counters]
    rfl
  · have calls := refines.calls position within
    rw [here] at calls
    -- At the channel of this call the alert is no longer pending; elsewhere nothing changes.
    have moved : ((state.sends ++ [(outcomes.length, item.alert)]).filter fun call =>
          decide (call.1 = position)).map Prod.snd ++
          (if (outcomes ++ [outcome]).length ≤ position then [item.alert] else []) =
        state.sentTo position ++ if outcomes.length ≤ position then [item.alert] else [] := by
      rw [List.filter_append, List.map_append, List.length_append, List.length_singleton]
      rcases Nat.lt_trichotomy outcomes.length position with earlier | same | later
      · rw [if_pos (show outcomes.length + 1 ≤ position from earlier),
          if_pos (Nat.le_of_lt earlier)]
        simp [LoopState.sentTo, Nat.ne_of_lt earlier]
      · rw [if_neg (show ¬ outcomes.length + 1 ≤ position by omega), if_pos (Nat.le_of_eq same)]
        simp [LoopState.sentTo, same]
      · rw [if_neg (show ¬ outcomes.length + 1 ≤ position by omega),
          if_neg (show ¬ outcomes.length ≤ position by omega)]
        simp [LoopState.sentTo, Nat.ne_of_gt later]
    exact moved.trans calls

/-- With the last channel called, the turn is what `handle` makes of it. -/
private theorem finishes (refines : Refines initial state) {item : TimedAlert}
    {outcomes : List SendOutcome} (here : state.place = .sending item outcomes)
    (complete : outcomes.length = state.dispatcher.channels.length) :
    Refines initial { state with
      place := .loopHead
      finished := state.finished ++ [⟨item.alert, item.nowMs, outcomeAt outcomes⟩] } := by
  rcases refines.fan_out here with ⟨_, judged, counters⟩
  have order := refines.order
  rw [here] at order
  rw [refines.channels] at complete
  have all : called initial.channels outcomes.length = initial.channels.zipIdx := by
    rw [called, complete]
    exact List.take_of_length_le (by simp)
  have handled : (initial.handleAll state.finished).1.handle
      ⟨item.alert, item.nowMs, outcomeAt outcomes⟩ = (state.dispatcher,
        { delivery := ⟨item.alert, item.nowMs, outcomeAt outcomes⟩
          suppressed := false
          sentBy := (AlertDispatcher.sendThrough (outcomeAt outcomes)
            (initial.handleAll state.finished).1.counters initial.channels.zipIdx).2 }) := by
    unfold AlertDispatcher.handle
    dsimp only
    rw [judged, AlertDispatcher.handleAll_channels, if_neg Bool.false_ne_true]
    rw [all] at counters
    rw [← counters, ← refines.channels]
  refine ⟨refines.channels, ?_, ?_, fun position registered => ?_, exit_inside rfl⟩
  · rw [← order]
    simp [Place.current]
  · change state.dispatcher = (initial.handleAll (state.finished ++ [_])).1
    rw [handleAll_snoc, handled]
  · have calls := refines.calls position registered
    rw [here] at calls
    have reached : ¬ outcomes.length ≤ position := by omega
    change state.sentTo position ++ [] =
      (AlertDispatcher.unsuppressed
        (initial.handleAll (state.finished ++ [_])).2).map Delivery.alert ++ []
    rw [handleAll_snoc, handled, unsuppressed_snoc, if_neg Bool.false_ne_true]
    simpa [Place.pendingAt, Place.judged, reached] using calls

/-- Every step of every thread keeps the loop in step with the turns. -/
theorem step {next : LoopState} {action : LoopAction} (refines : Refines initial state)
    (taken : state.step action = some next) : Refines initial next := by
  cases moves_of_step taken with
  | started here => exact refines.quiet _ (by rw [here]; rfl) rfl
  | locks here => exact refines.quiet _ (by rw [here]; rfl) rfl
  | findsEmpty here _ => exact refines.quiet _ (by rw [here]; rfl) rfl
  | findsAlert here _ => exact refines.quiet _ (by rw [here]; rfl) rfl
  | goesOn here _ => exact refines.quiet _ (by rw [here]; rfl) rfl
  | findsStopped here _ => exact refines.quiet _ (by rw [here]; rfl) rfl
  | findsRequest here _ => exact refines.quiet _ (by rw [here]; rfl) rfl
  | waits here _ => exact refines.quiet _ (by rw [here]; rfl) rfl
  | asks here _ => exact refines.quiet _ (by rw [here]; rfl) rfl
  | shutsDown here _ => exact refines.quiet _ (by rw [here]; rfl) rfl
  | decides here => exact refines.quiet _ (by rw [here]; rfl) rfl
  | continues here _ => exact refines.quiet _ (by rw [here]; rfl) rfl
  | wakes here => exact refines.quiet _ (by rw [here]; rfl) rfl
  | timesOut here => exact refines.quiet _ (by rw [here]; rfl) rfl
  | exits here empty => exact refines.exits here empty
  | takes here front => exact refines.takes here front
  | finishes here complete => exact refines.finishes here complete
  | returns here => exact refines.returns here
  | judges here nowMs => exact refines.judges here nowMs
  | sends here registered outcome => exact refines.sends here registered outcome
  | arrives _ alert => exact refines.arrives alert
  | stores => exact ⟨refines.channels, refines.order, refines.turn, refines.calls, refines.exit⟩
  | stopReturns _ => exact ⟨refines.channels, refines.order, refines.turn,
      refines.calls, refines.exit⟩
  | requests => exact ⟨refines.channels, refines.order, refines.turn, refines.calls, refines.exit⟩

end Refines

theorem refines_of_run {initial : AlertDispatcher} {actions : List LoopAction} {state : LoopState}
    (ran : runActions LoopState.step (newLoop initial) actions = some state) :
    Refines initial state :=
  invariant_of_run LoopState.step (Refines initial) (fun _ _ _ refines taken => refines.step taken)
    (refines_newLoop initial) ran

/-! ## The calls of the channels -/

/-- During a fan-out its alert is the last one that the deduplicator let
through. -/
theorem Refines.calls_eq_letThrough {initial : AlertDispatcher} {state : LoopState}
    (refines : Refines initial state) {position : Nat}
    (registered : position < initial.channels.length) :
    state.sentTo position ++ state.place.pendingAt position =
      (initial.deduplicator.letThrough
        (state.finished.map Delivery.timed ++ state.place.judged)).map
        TimedAlert.alert := by
  have finished := AlertDispatcher.map_timed_unsuppressed initial state.finished
  have alerts : forall deliveries : List Delivery,
        (deliveries.map Delivery.timed).map TimedAlert.alert =
      deliveries.map Delivery.alert := by
    intro deliveries
    rw [List.map_map]
    rfl
  rw [refines.calls position registered]
  cases place : state.place with
  | sending item outcomes =>
      have passes : ((initial.handleAll state.finished).1.handle
          ⟨item.alert, item.nowMs, outcomeAt outcomes⟩).2.suppressed = false := by
        rw [AlertDispatcher.handle_suppressed]
        exact congrArg Prod.snd (refines.fan_out place).2.1
      have next := AlertDispatcher.map_timed_unsuppressed initial
        (state.finished ++ [⟨item.alert, item.nowMs, outcomeAt outcomes⟩])
      rw [Refines.handleAll_snoc, Refines.unsuppressed_snoc, passes, if_neg Bool.false_ne_true,
        AlertDispatcher.handle_delivery, List.map_append, List.map_append] at next
      have read := congrArg (List.map TimedAlert.alert) next
      rw [List.map_append, alerts] at read
      exact read
  | _ =>
      simp only [Place.judged, List.map_nil, List.append_nil]
      rw [← finished, alerts]

/-- Whatever the remaining channels do, the fan-out goes through all of them
and the loop goes on. -/
private theorem finish_fan_out {state : LoopState} {item : TimedAlert}
    {outcomes rest : List SendOutcome} (here : state.place = .sending item outcomes)
    (count : outcomes.length + rest.length = state.dispatcher.channels.length) :
    Exists fun next => runActions LoopState.step state (rest.map .send ++ [.advance]) = some next ∧
      next.place = .loopHead ∧
      next.finished = state.finished ++
        [⟨item.alert, item.nowMs, outcomeAt (outcomes ++ rest)⟩] := by
  induction rest generalizing state outcomes with
  | nil =>
      have complete : outcomes.length = state.dispatcher.channels.length := count
      have last : state.step .advance = some { state with
          place := .loopHead
          finished := state.finished ++ [⟨item.alert, item.nowMs, outcomeAt outcomes⟩] } := by
        simp only [LoopState.step, LoopState.advance, here]
        rw [if_pos complete]
      refine ⟨_, (runActions_cons_eq_some _).mpr ⟨_, last, rfl⟩, rfl, ?_⟩
      rw [List.append_nil]
  | cons outcome others inductionHypothesis =>
      have inside : outcomes.length < state.dispatcher.channels.length := by
        rw [List.length_cons] at count
        omega
      have call : state.step (.send outcome) =
          some (state.callChannel state.dispatcher.channels[outcomes.length] item outcomes outcome) := by
        simp only [LoopState.step, here, LoopState.sendNext, List.getElem?_eq_getElem inside]
      have remaining : (outcomes ++ [outcome]).length + others.length =
          state.dispatcher.channels.length := by
        rw [List.length_append, List.length_singleton]
        rw [List.length_cons] at count
        omega
      have rest := @inductionHypothesis
        (state.callChannel state.dispatcher.channels[outcomes.length] item outcomes outcome)
          (outcomes ++ [outcome])
        rfl remaining
      rcases rest with ⟨next, ran, home, finished⟩
      refine ⟨next, (runActions_cons_eq_some _).mpr ⟨_, call, ran⟩, home, ?_⟩
      rw [finished, List.append_assoc]
      rfl

/-- After the fan-out every channel has been called on its alert. -/
private theorem called_after_fan_out {initial : AlertDispatcher} {state next : LoopState}
    {item : TimedAlert} {outcomes rest : List SendOutcome} (refines : Refines initial state)
    (after : Refines initial next) (here : state.place = .sending item outcomes)
    (home : next.place = .loopHead)
    (finished : next.finished = state.finished ++
    [⟨item.alert, item.nowMs, outcomeAt (outcomes ++ rest)⟩]) {position : Nat}
      (registered : position < initial.channels.length) :
    next.sentTo position = state.sentTo position ++ state.place.pendingAt position := by
  have before := refines.calls_eq_letThrough registered
  have later := after.calls_eq_letThrough registered
  rw [home, finished, List.map_append] at later
  rw [before, here]
  simpa [Place.pendingAt, Place.judged, Delivery.timed] using later

/-- In every interleaving of a run of the loop with calls of `dispatch` and
`stop`, for every list of channels and every way in which their calls end.
Alerts have their turns in the order of the queue.  Every channel is called on
the alerts that the deduplicator lets through, in this order and once on each;
during a fan-out the current alert may still be pending at a channel, and the
fan-out comes to every channel, whatever the calls before it do.  When `run`
leaves, every alert that was dispatched before the last test of the queue has
had its turn. -/
theorem fan_out_in_every_interleaving {initial : AlertDispatcher} {actions : List LoopAction}
    {state : LoopState} (ran : runActions LoopState.step (newLoop initial) actions = some state) :
    state.finished.map Delivery.alert ++ (state.place.current ++ state.queue) = state.dispatched ∧
    (forall position, position < initial.channels.length ->
      state.sentTo position ++ state.place.pendingAt position =
        (initial.deduplicator.letThrough
          (state.finished.map Delivery.timed ++ state.place.judged)).map
          TimedAlert.alert) ∧
    (forall (item : TimedAlert) (outcomes rest : List SendOutcome),
      state.place = .sending item outcomes ->
      outcomes.length + rest.length = initial.channels.length ->
      Exists fun next => runActions LoopState.step state
        (rest.map .send ++ [.advance]) = some next ∧
        next.place = .loopHead ∧ forall position, position < initial.channels.length ->
          next.sentTo position = state.sentTo position ++ state.place.pendingAt position) ∧
    (state.place = .leaving ∨ state.place = .returned ->
      state.dispatchedAtExit = some (state.finished.map Delivery.alert)) := by
  have refines := refines_of_run ran
  refine ⟨refines.order, fun position registered => refines.calls_eq_letThrough registered,
    fun item outcomes rest here count => ?_, refines.exit⟩
  rcases finish_fan_out here (count.trans (congrArg List.length refines.channels.symm)) with
    ⟨next, continued, home, finished⟩
  have after := invariant_of_run LoopState.step (Refines initial)
    (fun _ _ _ holds taken => holds.step taken)
    refines continued
  exact ⟨next, continued, home, fun position registered =>
    called_after_fan_out refines after here home finished registered⟩

/-- Two channels, of which the first throws. -/
private def twoChannels : AlertDispatcher where
  channels := ["telegram", "webhook"]
  deduplicator := .create .production

/-- The alert is dispatched, taken and judged, and the first channel throws. -/
private def firstThrows : List LoopAction :=
  [.start, .dispatch AlertDispatcher.pausedAlert, .advance, .advance, .advance, .advance, .advance,
    .judge 1700000001000, .send .unknownException]

theorem throwing_channel_hides_nothing :
    Exists fun state => runActions LoopState.step (newLoop twoChannels) firstThrows = some state ∧
      Exists fun next => runActions LoopState.step state [.send .sent, .advance] = some next ∧
        next.sentTo 1 = [AlertDispatcher.pausedAlert] := by
  have enabled : (runActions LoopState.step (newLoop twoChannels) firstThrows).isSome = true := by
    decide +kernel
  rcases Option.isSome_iff_exists.mp enabled with ⟨state, ran⟩
  refine ⟨state, ran, ?_⟩
  have placed : (runActions LoopState.step (newLoop twoChannels) firstThrows).map LoopState.place =
      some (.sending ⟨AlertDispatcher.pausedAlert, 1700000001000⟩ [.unknownException]) := rfl
  rw [ran] at placed
  have here : state.place = .sending ⟨AlertDispatcher.pausedAlert, 1700000001000⟩
      [.unknownException] :=
    Option.some.inj placed
  rcases (fan_out_in_every_interleaving ran).2.2.1 _ _ [.sent] here rfl
    with ⟨next, continued, _, called⟩
  have before : (runActions LoopState.step (newLoop twoChannels) firstThrows).map
        (fun reached => reached.sentTo 1) =
      some [] := rfl
  rw [ran] at before
  have uncalled : state.sentTo 1 = [] := Option.some.inj before
  refine ⟨next, continued, (called 1 (by decide)).trans ?_⟩
  rw [here, uncalled]
  rfl

/-- The thread has found the queue empty and has released the mutex, but has
not returned, when an alert is dispatched. -/
theorem dispatched_behind_the_exit :
    Exists fun before => Exists fun after =>
      runActions LoopState.step (newLoop twoChannels)
        [.start, .stopStore, .stopReturn, .advance, .advance, .advance,
        .advance, .advance, .dispatch AlertDispatcher.pausedAlert] = some before ∧
      before.place = .leaving ∧ before.dispatched = [AlertDispatcher.pausedAlert] ∧
      before.step .advance = some after ∧ after.place = .returned ∧
      after.finished = [] ∧ after.queue = [AlertDispatcher.pausedAlert] :=
  ⟨_, _, rfl, rfl, rfl, rfl, rfl, rfl, rfl⟩

end Risk
end RiskSentinel
