import RiskSentinel.Backtest.ReportFile
import RiskSentinel.Risk.TelegramAlertChannel

namespace RiskSentinel
namespace App

open Foundation Risk Backtest

/-!
# What the delivery counters count

The dispatcher counts an alert as sent by a channel when the channel's `send`
returns and as a failure when it throws.  The channels of the two programs
log most of their failures and return.  This module puts the counting loop
and the three implementations together: over whole runs, the counters of a
channel are the numbers of calls that returned and that threw, and they are
the numbers of delivered and of failed alerts exactly when no call failed
silently.
-/

/-! ## The webhook's call with its exceptions -/

/-- The behaviour of the libraries during one call of the webhook's `send`. -/
structure WebhookEnv where
  /-- The library of the program, which the other channels use as well. -/
  json : Json.Library Json.Sorted
  clockMs : Int
  serialisationThrows : Bool
  /-- The keyed hash for the endpoint at a position; without a value it
  throws. -/
  hmac : Nat -> String -> String -> Option String
  attempts : Nat -> HttpAttempt

namespace WebhookEnv

variable (env : WebhookEnv)

/-- The signature of one request, if the hash does not throw. -/
def signature? (timestamp body : String) (entry : WebhookEndpoint × Nat) : Option String :=
  if entry.1.hmacSecret = "" then some ""
  else (env.hmac entry.2 entry.1.hmacSecret
    (WebhookAlertChannel.signingString timestamp body)).map fun digest =>
    "sha256=" ++ digest

/-- The loop over the endpoints: what is posted before it ends, and how. -/
def postUntil (timestamp body : String) :
    List (WebhookEndpoint × Nat) -> List (Nat × HttpRequest) × SendOutcome
  | [] => ([], .sent)
  | entry :: rest =>
      match env.signature? timestamp body entry with
      | none => ([], .standardException)
      | some signature =>
          let others := postUntil timestamp body rest
          match env.attempts entry.2 with
          | .noHandle => others
          | .transportError | .response _ =>
              ((entry.2, ⟨entry.1.url, WebhookAlertChannel.headers timestamp signature,
                body⟩) :: others.1, others.2)

/-- `WebhookAlertChannel::send`. -/
def send (channel : WebhookAlertChannel) (alert : Alert) : List (Nat × HttpRequest) × SendOutcome :=
  if (channel.endpointsOf alert.customerId).isEmpty then ([], .sent)
  else if env.serialisationThrows then ([], .standardException)
  else env.postUntil (WebhookAlertChannel.timestampText env.clockMs)
    (WebhookAlertChannel.body env.json alert) (channel.endpointsOf alert.customerId).zipIdx

/-- The endpoint at a position answered with success. -/
def answered (position : Nat) : Bool :=
  match env.attempts position with
  | .response httpCode => successCode httpCode
  | .noHandle | .transportError => false

/-- No exception stands between the alert and its last endpoint. -/
def runsThrough (channel : WebhookAlertChannel) (alert : Alert) : Bool :=
  !env.serialisationThrows && (channel.endpointsOf alert.customerId).zipIdx.all fun entry =>
    (env.signature? (WebhookAlertChannel.timestampText env.clockMs)
      (WebhookAlertChannel.body env.json alert) entry).isSome

theorem postUntil_outcome (timestamp body : String) (endpoints : List (WebhookEndpoint × Nat)) :
    (env.postUntil timestamp body endpoints).2 = .sent ↔
      forall entry, entry ∈ endpoints -> (env.signature? timestamp body entry).isSome = true := by
  induction endpoints with
  | nil => simp [postUntil]
  | cons entry rest inductionHypothesis =>
      cases signed : env.signature? timestamp body entry with
      | none => simp [postUntil, signed]
      | some signature =>
          cases ended : env.attempts entry.2 <;> simp [postUntil, signed, ended,
            inductionHypothesis]

theorem send_outcome (channel : WebhookAlertChannel) (alert : Alert) :
    (env.send channel alert).2 = .sent ↔
      channel.endpointsOf alert.customerId = [] ∨ env.runsThrough channel alert = true := by
  unfold send runsThrough
  by_cases none : channel.endpointsOf alert.customerId = []
  · simp [none]
  · rw [if_neg (by simpa using none)]
    cases env.serialisationThrows with
    | true => simp [none]
    | false =>
        rw [if_neg Bool.false_ne_true, postUntil_outcome]
        simp [none]

/-- With a hash that always has a value and a serialisation that does not
throw, the requests are those of the call without exceptions. -/
theorem send_eq (hmac : String -> String -> String) (total : forall position secret text,
      env.hmac position secret text = some (hmac secret text))
        (serialises : env.serialisationThrows = false)
    (channel : WebhookAlertChannel) (alert : Alert) :
    env.send channel alert =
      (channel.send env.json hmac alert env.clockMs env.attempts, .sent) := by
  have loop : forall timestamp body endpoints, env.postUntil timestamp body endpoints =
      (WebhookAlertChannel.postAll hmac timestamp body env.attempts endpoints, .sent) := by
    intro timestamp body endpoints
    induction endpoints with
    | nil => rfl
    | cons entry rest inductionHypothesis =>
        have signed : env.signature? timestamp body entry =
            some (WebhookAlertChannel.signature hmac entry.1.hmacSecret timestamp body) := by
          unfold signature? WebhookAlertChannel.signature
          by_cases unsigned : entry.1.hmacSecret = ""
          · rw [if_pos unsigned, if_pos unsigned]
          · rw [if_neg unsigned, if_neg unsigned, total]
            rfl
        cases ended : env.attempts entry.2 <;>
          simp [postUntil, WebhookAlertChannel.postAll, WebhookAlertChannel.request, signed, ended,
            inductionHypothesis]
  rw [WebhookAlertChannel.send_eq_postAll, send, serialises, loop]
  cases channel.endpointsOf alert.customerId with
  | nil => rfl
  | cons endpoint rest => rfl

end WebhookEnv

/-! ## The counting loop -/

section Counting

theorem find?_increment (counters : Table String Nat) (label other : String) :
    (increment counters label).find? other =
      if other = label then (counters.find? label).map (· + 1) else counters.find? other := by
  unfold increment
  cases found : counters.find? label with
  | none =>
      by_cases same : other = label
      · simp [same, found]
      · simp [same]
  | some count => simp

/-- The number of channels of a name whose call ends in a way. -/
def endings (outcome : Nat -> SendOutcome) (ends : SendOutcome -> Bool)
    (channels : List (String × Nat)) (label : String) : Nat :=
  channels.countP fun channel => decide (channel.1 = label) && ends (outcome channel.2)

/-- The two ways in which the dispatcher tells calls apart. -/
def returned (outcome : SendOutcome) : Bool :=
  decide (outcome = .sent)

def threw (outcome : SendOutcome) : Bool :=
  !returned outcome

private theorem map_add_map (count : Option Nat) (first second : Nat) :
    (count.map (· + first)).map (· + second) = count.map (· + (first + second)) := by
  cases count with
  | none => rfl
  | some count => simp [Nat.add_assoc]

private theorem endings_cons (outcome : Nat -> SendOutcome)
    (ends : SendOutcome -> Bool) (name : String) (position : Nat) (rest : List (String × Nat))
    (label : String) :
    endings outcome ends ((name, position) :: rest) label =
      (if name = label ∧ ends (outcome position) = true then 1 else 0) +
        endings outcome ends rest label := by
  rw [endings, endings, List.countP_cons, Nat.add_comm]
  simp

/-- Incrementing first and adding later counts both. -/
private theorem map_increment (counters : Table String Nat) (name label : String) (later : Nat) :
    ((increment counters name).find? label).map (· + later) =
      (counters.find? label).map (· + ((if name = label then 1 else 0) + later)) := by
  rw [find?_increment]
  by_cases same : label = name
  · rw [if_pos same, if_pos same.symm, same, map_add_map]
  · rw [if_neg same, if_neg (Ne.symm same), Nat.zero_add]

/-- The loop over the channels adds to the counters of a name how its calls
ended. -/
theorem sendThrough_counters (outcome : Nat -> SendOutcome) (counters : DispatchCounters)
    (channels : List (String × Nat)) (label : String) :
    (AlertDispatcher.sendThrough outcome counters channels).1.alertsSent.find? label =
        (counters.alertsSent.find? label).map (· + endings outcome returned channels label) ∧
      (AlertDispatcher.sendThrough outcome counters channels).1.alertsSendFailures.find? label =
        (counters.alertsSendFailures.find? label).map
        (· + endings outcome threw channels label) := by
  induction channels generalizing counters with
  | nil => simp [AlertDispatcher.sendThrough, endings]
  | cons channel rest inductionHypothesis =>
      rcases channel with ⟨name, position⟩
      rw [endings_cons, endings_cons]
      cases ended : outcome position with
      | sent =>
          have others := inductionHypothesis
            { counters with alertsSent := increment counters.alertsSent name }
          simp only [AlertDispatcher.sendThrough, ended, others, map_increment]
          simp [returned, threw]
      | standardException =>
          have others := inductionHypothesis
            { counters with alertsSendFailures := increment counters.alertsSendFailures name }
          simp only [AlertDispatcher.sendThrough, ended, others, map_increment]
          simp [returned, threw]
      | unknownException =>
          have others := inductionHypothesis
            { counters with alertsSendFailures := increment counters.alertsSendFailures name }
          simp only [AlertDispatcher.sendThrough, ended, others, map_increment]
          simp [returned, threw]

private theorem endings_absent (outcome : Nat -> SendOutcome) (ends : SendOutcome -> Bool)
    (names : List String) (start : Nat) {label : String} (absent : label ∉ names) :
    endings outcome ends (names.zipIdx start) label = 0 := by
  refine List.countP_eq_zero.mpr fun channel member => ?_
  have listed : channel.1 ∈ names := List.fst_mem_of_mem_zipIdx member
  have different : channel.1 ≠ label := fun same => absent (same ▸ listed)
  simp [different]

/-- Where names are distinct, a name has one call. -/
private theorem endings_distinct (outcome : Nat -> SendOutcome) (ends : SendOutcome -> Bool)
    {names : List String} (distinct : names.Nodup) {position : Nat} {label : String}
    (registered : names[position]? = some label) (start : Nat) :
    endings outcome ends (names.zipIdx start) label = if ends (outcome (start + position)) = true
      then 1 else 0 := by
  induction names generalizing position start with
  | nil => cases registered
  | cons name rest inductionHypothesis =>
      rw [List.nodup_cons] at distinct
      rw [List.zipIdx_cons, endings_cons]
      cases position with
      | zero =>
          cases registered
          rw [endings_absent outcome ends rest (start + 1) distinct.1]
          simp
      | succ position =>
          have later : rest[position]? = some label := registered
          have different : name ≠ label :=
            fun same => distinct.1 (same ▸ List.mem_of_getElem? later)
          rw [inductionHypothesis distinct.2 later (start + 1), Nat.add_right_comm start 1 position]
          simp [different, Nat.add_assoc]

/-- One turn of the loop counts one call of each channel unless the alert is
suppressed. -/
private theorem handle_counters {dispatcher : AlertDispatcher}
    (distinct : dispatcher.channels.Nodup) {position : Nat} {label : String}
    (registered : dispatcher.channels[position]? = some label) (delivery : Delivery) :
    (dispatcher.handle delivery).1.counters.alertsSent.find? label =
        (dispatcher.counters.alertsSent.find? label).map (· +
          if (dispatcher.handle delivery).2.suppressed = false ∧
          returned (delivery.outcome position) = true
          then 1 else 0) ∧
      (dispatcher.handle delivery).1.counters.alertsSendFailures.find? label =
        (dispatcher.counters.alertsSendFailures.find? label).map (· +
          if (dispatcher.handle delivery).2.suppressed = false ∧
          threw (delivery.outcome position) = true
          then 1 else 0) := by
  unfold AlertDispatcher.handle
  dsimp only
  by_cases suppressed :
    (dispatcher.deduplicator.shouldSuppress delivery.alert delivery.nowMs).2 = true
  · rw [if_pos suppressed]
    simp
  · rw [if_neg suppressed]
    have counted := sendThrough_counters delivery.outcome dispatcher.counters
      dispatcher.channels.zipIdx label
    rw [endings_distinct _ _ distinct registered, endings_distinct _ _ distinct registered,
      Nat.zero_add] at counted
    simpa using counted

/-- Over a run, the counters of a channel are the numbers of its calls that
returned and that threw. -/
theorem handleAll_counters {dispatcher : AlertDispatcher} (distinct : dispatcher.channels.Nodup)
    {position : Nat} {label : String} (registered : dispatcher.channels[position]? = some label)
    (deliveries : List Delivery) :
    (dispatcher.handleAll deliveries).1.counters.alertsSent.find? label =
        (dispatcher.counters.alertsSent.find? label).map (· +
          (AlertDispatcher.unsuppressed (dispatcher.handleAll deliveries).2).countP fun delivery =>
            returned (delivery.outcome position)) ∧
      (dispatcher.handleAll deliveries).1.counters.alertsSendFailures.find? label =
        (dispatcher.counters.alertsSendFailures.find? label).map (· +
          (AlertDispatcher.unsuppressed (dispatcher.handleAll deliveries).2).countP fun delivery =>
            threw (delivery.outcome position)) := by
  induction deliveries generalizing dispatcher with
  | nil => simp [AlertDispatcher.handleAll, AlertDispatcher.unsuppressed]
  | cons delivery rest inductionHypothesis =>
      have first := handle_counters distinct registered delivery
      rw [← AlertDispatcher.handle_channels dispatcher delivery] at distinct registered
      have others := inductionHypothesis distinct registered
      have split : dispatcher.handleAll (delivery :: rest) =
          (((dispatcher.handle delivery).1.handleAll rest).1,
            (dispatcher.handle delivery).2 ::
            ((dispatcher.handle delivery).1.handleAll rest).2) := rfl
      have counted : forall ends : SendOutcome -> Bool,
          (AlertDispatcher.unsuppressed (dispatcher.handleAll (delivery :: rest)).2).countP
              (fun delivery => ends (delivery.outcome position)) =
            (if (dispatcher.handle delivery).2.suppressed = false ∧
              ends (delivery.outcome position) = true then 1 else 0) +
            (AlertDispatcher.unsuppressed ((dispatcher.handle delivery).1.handleAll rest).2).countP
              (fun delivery => ends (delivery.outcome position)) := by
        intro ends
        rw [split, AlertDispatcher.unsuppressed_cons, AlertDispatcher.handle_delivery]
        cases (dispatcher.handle delivery).2.suppressed with
        | true => simp
        | false => simp [List.countP_cons, Nat.add_comm]
      rw [counted, counted, split, others.1, others.2, first.1, first.2, map_add_map, map_add_map]
      exact ⟨rfl, rfl⟩

end Counting

/-! ## The three channels -/

inductive AlertChannel where
  | telegram (channel : TelegramAlertChannel)
  | webhook (channel : WebhookAlertChannel)
  | file

/-- What each channel meets during one call. -/
structure ChannelEnv where
  telegram : TelegramAttempt
  webhook : WebhookEnv
  file : WriteResult

namespace AlertChannel

def name : AlertChannel -> String
  | .telegram _ => "telegram"
  | .webhook _ => "webhook"
  | .file => "file"

/-- How the call ends.  The file channel catches what it throws itself. -/
def outcome (channel : AlertChannel) (alert : Alert) (env : ChannelEnv) : SendOutcome :=
  match channel with
  | .telegram chat => (chat.send env.webhook.json alert env.telegram).2
  | .webhook hooks => (env.webhook.send hooks alert).2
  | .file => .sent

/-- There is somebody to deliver to. -/
def attempts (channel : AlertChannel) (alert : Alert) : Bool :=
  match channel with
  | .telegram _ => true
  | .webhook hooks => !(hooks.endpointsOf alert.customerId).isEmpty
  | .file => true

/-- The alert reached the chat, every endpoint of its customer, or the
file. -/
def delivers (channel : AlertChannel) (alert : Alert) (env : ChannelEnv) : Bool :=
  match channel with
  | .telegram _ => TelegramAlertChannel.delivers env.telegram
  | .webhook hooks => channel.attempts alert && env.webhook.runsThrough hooks alert &&
      (List.range (hooks.endpointsOf alert.customerId).length).all env.webhook.answered
  | .file => env.file.isWritten

/-- The alert was to be delivered and was not. -/
def fails (channel : AlertChannel) (alert : Alert) (env : ChannelEnv) : Bool :=
  channel.attempts alert && !channel.delivers alert env

/-- One of the exits that log a failure, or a customer without endpoints. -/
def failsSilently (channel : AlertChannel) (alert : Alert) (env : ChannelEnv) : Bool :=
  match channel with
  | .telegram _ => TelegramAlertChannel.failsSilently env.telegram
  | .webhook hooks => (hooks.endpointsOf alert.customerId).isEmpty ||
      (env.webhook.runsThrough hooks alert &&
      !(List.range (hooks.endpointsOf alert.customerId).length).all env.webhook.answered)
  | .file => !env.file.isWritten

/-- A call returns when it has delivered or failed silently, and never
both. -/
theorem outcome_eq_sent_iff (channel : AlertChannel) (alert : Alert) (env : ChannelEnv) :
    channel.outcome alert env = .sent ↔
      (channel.delivers alert env = true ∨ channel.failsSilently alert env = true) := by
  cases channel with
  | telegram chat => exact TelegramAlertChannel.send_outcome env.webhook.json chat alert env.telegram
  | webhook hooks =>
      change (env.webhook.send hooks alert).2 = .sent ↔ _
      rw [env.webhook.send_outcome]
      simp only [delivers, failsSilently, attempts, ← List.isEmpty_iff]
      cases (hooks.endpointsOf alert.customerId).isEmpty <;>
        cases env.webhook.runsThrough hooks alert <;>
        cases (List.range (hooks.endpointsOf alert.customerId).length).all env.webhook.answered <;> simp
  | file => cases written : env.file.isWritten <;> simp [outcome, delivers, failsSilently, written]

theorem not_delivers_of_silent {channel : AlertChannel} {alert : Alert} {env : ChannelEnv}
    (silent : channel.failsSilently alert env = true) : channel.delivers alert env = false := by
  cases channel with
  | telegram chat =>
      cases delivered : TelegramAlertChannel.delivers env.telegram with
      | false => exact delivered
      | true =>
          have loud := TelegramAlertChannel.delivers_not_silent env.telegram delivered
          rw [failsSilently, loud] at silent
          cases silent
  | webhook hooks =>
      simp only [delivers, failsSilently, attempts] at silent ⊢
      revert silent
      cases (hooks.endpointsOf alert.customerId).isEmpty <;>
        cases env.webhook.runsThrough hooks alert <;>
        cases (List.range (hooks.endpointsOf alert.customerId).length).all env.webhook.answered <;> simp
  | file => cases written : env.file.isWritten <;> simp_all [delivers, failsSilently]

/-- A channel that has nobody to deliver to does not throw. -/
theorem attempts_of_throws {channel : AlertChannel} {alert : Alert} {env : ChannelEnv}
    (throws : channel.outcome alert env ≠ .sent) : channel.attempts alert = true := by
  cases channel with
  | telegram chat => rfl
  | webhook hooks =>
      by_contra none
      apply throws
      change (env.webhook.send hooks alert).2 = .sent
      rw [env.webhook.send_outcome]
      exact Or.inl (by simpa [attempts] using none)
  | file => rfl

end AlertChannel

/-! ## Runs with these channels -/

/-- The channels of a dispatcher, each at most once. -/
structure ChannelSet where
  channels : List AlertChannel
  distinct : (channels.map AlertChannel.name).Nodup

/-- An alert taken from the queue, the reading of the clock, and what the
channel at each position meets. -/
structure Arrival where
  alert : Alert
  nowMs : UInt64
  env : Nat -> ChannelEnv

namespace ChannelSet

variable (set : ChannelSet)

def delivery (arrival : Arrival) : Delivery where
  alert := arrival.alert
  nowMs := arrival.nowMs
  outcome := fun position =>
    match set.channels[position]? with
    | some channel => channel.outcome arrival.alert (arrival.env position)
    | none => .sent

/-- A dispatcher with metrics to which the channels were added. -/
def dispatcher (config : DeduplicatorConfig) : AlertDispatcher :=
  (set.channels.map AlertChannel.name).foldl (fun current name => current.addChannel name true)
    { channels := [], deduplicator := .create config }

/-- The arrivals that the deduplicator does not suppress. -/
def passed : AlertDispatcher -> List Arrival -> List Arrival
  | _, [] => []
  | current, arrival :: rest =>
      let turn := current.handle (set.delivery arrival)
      if turn.2.suppressed then passed turn.1 rest else arrival :: passed turn.1 rest

theorem unsuppressed_eq_passed (current : AlertDispatcher) (arrivals : List Arrival) :
    AlertDispatcher.unsuppressed (current.handleAll (arrivals.map set.delivery)).2 =
      (set.passed current arrivals).map set.delivery := by
  induction arrivals generalizing current with
  | nil => rfl
  | cons arrival rest inductionHypothesis =>
      have others := inductionHypothesis (current.handle (set.delivery arrival)).1
      rw [List.map_cons]
      change AlertDispatcher.unsuppressed ((current.handle (set.delivery arrival)).2 :: _) = _
      rw [AlertDispatcher.unsuppressed_cons, AlertDispatcher.handle_delivery, passed]
      cases (current.handle (set.delivery arrival)).2.suppressed with
      | true => exact others
      | false => exact congrArg (List.cons _) others

private theorem registered (names : List String) (current : AlertDispatcher) :
    (names.foldl (fun dispatcher name => dispatcher.addChannel name true) current).channels =
        current.channels ++ names ∧
      forall label, (label ∈ names ∨ (current.counters.alertsSent.find? label = some 0 ∧
          current.counters.alertsSendFailures.find? label = some 0)) ->
        (names.foldl (fun dispatcher name =>
          dispatcher.addChannel name true) current).counters.alertsSent.find?
            label = some 0 ∧
          (names.foldl (fun dispatcher name =>
            dispatcher.addChannel name true) current).counters.alertsSendFailures.find? label =
              some 0 := by
  induction names generalizing current with
  | nil =>
      refine ⟨by simp, fun label known => ?_⟩
      rcases known with member | zero
      · cases member
      · exact zero
  | cons name rest inductionHypothesis =>
      have others := inductionHypothesis (current.addChannel name true)
      refine ⟨?_, fun label known => others.2 label ?_⟩
      · rw [List.foldl_cons, others.1]
        simp [AlertDispatcher.addChannel]
      · by_cases same : label = name
        · right
          simp [AlertDispatcher.addChannel, same]
        · rcases known with member | zero
          · exact Or.inl ((List.mem_cons.mp member).resolve_left same)
          · right
            simpa [AlertDispatcher.addChannel, same] using zero

theorem dispatcher_channels (config : DeduplicatorConfig) :
    (set.dispatcher config).channels = set.channels.map AlertChannel.name := by
  rw [dispatcher, (registered _ _).1]
  rfl

/-- After a run, the counters of every channel are the numbers of alerts that
it delivered and that it was to deliver and did not. -/
def CountersTrue (config : DeduplicatorConfig) (arrivals : List Arrival) : Prop :=
  forall (position : Nat) (channel : AlertChannel), set.channels[position]? = some channel ->
    let final := ((set.dispatcher config).handleAll (arrivals.map set.delivery)).1
    let alerts := set.passed (set.dispatcher config) arrivals
    final.counters.alertsSent.find? channel.name =
        some (alerts.countP fun arrival => channel.delivers arrival.alert (arrival.env position)) ∧
      final.counters.alertsSendFailures.find? channel.name =
        some (alerts.countP fun arrival => channel.fails arrival.alert (arrival.env position))

/-- The counters as the code computes them. -/
private theorem counters_eq (config : DeduplicatorConfig) (arrivals : List Arrival) {position : Nat}
    {channel : AlertChannel} (listed : set.channels[position]? = some channel) :
    let final := ((set.dispatcher config).handleAll (arrivals.map set.delivery)).1
    let alerts := set.passed (set.dispatcher config) arrivals
    final.counters.alertsSent.find? channel.name =
        some (alerts.countP fun arrival => returned
          (channel.outcome arrival.alert (arrival.env position))) ∧
      final.counters.alertsSendFailures.find? channel.name =
        some (alerts.countP fun arrival => threw
          (channel.outcome arrival.alert (arrival.env position))) := by
  have names := set.dispatcher_channels config
  have here : (set.dispatcher config).channels[position]? = some channel.name := by
    rw [names, List.getElem?_map, listed]
    rfl
  have zero := (registered (set.channels.map AlertChannel.name)
    { channels := [], deduplicator := .create config }).2 channel.name
    (Or.inl (List.mem_map_of_mem (List.mem_of_getElem? listed)))
  have counted := handleAll_counters (by rw [names]; exact set.distinct) here
    (arrivals.map set.delivery)
  rw [set.unsuppressed_eq_passed, List.countP_map, List.countP_map] at counted
  have outcome : forall arrival, (set.delivery arrival).outcome position =
      channel.outcome arrival.alert (arrival.env position) := by
    intro arrival
    simp only [delivery, listed]
  simp only [Function.comp_def, outcome] at counted
  have sentZero : (set.dispatcher config).counters.alertsSent.find? channel.name = some 0 := zero.1
  have failedZero : (set.dispatcher config).counters.alertsSendFailures.find? channel.name =
      some 0 := zero.2
  rw [sentZero, failedZero] at counted
  simpa using counted

/-- The calls that return are those that deliver and those that fail
silently. -/
private theorem countP_returned (channel : AlertChannel) (position : Nat) (alerts : List Arrival) :
    (alerts.countP fun arrival => returned (channel.outcome arrival.alert (arrival.env position))) =
      (alerts.countP fun arrival => channel.delivers arrival.alert (arrival.env position)) +
        alerts.countP fun arrival => channel.failsSilently arrival.alert
          (arrival.env position) := by
  induction alerts with
  | nil => rfl
  | cons arrival rest inductionHypothesis =>
      have ended := channel.outcome_eq_sent_iff arrival.alert (arrival.env position)
      rw [List.countP_cons, List.countP_cons, List.countP_cons, inductionHypothesis]
      cases silent : channel.failsSilently arrival.alert (arrival.env position) with
      | true =>
          have undelivered := AlertChannel.not_delivers_of_silent silent
          have back := ended.mpr (Or.inr silent)
          simp [returned, back, undelivered]
          omega
      | false =>
          cases delivered : channel.delivers arrival.alert (arrival.env position) with
          | true =>
              have back := ended.mpr (Or.inl delivered)
              simp [returned, back]
              omega
          | false =>
              have thrown : ¬ channel.outcome arrival.alert (arrival.env position) = .sent := by
                simp [ended, silent, delivered]
              simp [returned, thrown]

/-- Without silent failures the calls that throw are those that fail. -/
private theorem threw_eq_fails {channel : AlertChannel} {alert : Alert} {env : ChannelEnv}
    (loud : channel.failsSilently alert env = false) :
    threw (channel.outcome alert env) = channel.fails alert env := by
  have ended := channel.outcome_eq_sent_iff alert env
  cases delivered : channel.delivers alert env with
  | true =>
      have back := ended.mpr (Or.inl delivered)
      simp [threw, returned, back, AlertChannel.fails, delivered]
  | false =>
      have thrown : ¬ channel.outcome alert env = .sent := by
        simp [ended, loud, delivered]
      simp [threw, returned, thrown, AlertChannel.fails, delivered,
        AlertChannel.attempts_of_throws thrown]

/-- For every run and every outcome of every attempt: the delivery counters
are true if and only if no call on an alert that passed the deduplicator
failed silently. -/
theorem counters_true_iff (config : DeduplicatorConfig) (arrivals : List Arrival) :
    set.CountersTrue config arrivals ↔
      forall (position : Nat) (channel : AlertChannel), set.channels[position]? = some channel ->
        forall arrival, arrival ∈ set.passed (set.dispatcher config) arrivals ->
          channel.failsSilently arrival.alert (arrival.env position) = false := by
  constructor
  · intro truthful position channel listed arrival member
    have counted := (set.counters_eq config arrivals listed).1
    have claimed := (truthful position channel listed).1
    rw [counted, countP_returned, Option.some.injEq, Nat.add_eq_left, List.countP_eq_zero]
      at claimed
    exact Bool.eq_false_iff.mpr (claimed arrival member)
  · intro loud position channel listed
    have counted := set.counters_eq config arrivals listed
    have none : (set.passed (set.dispatcher config) arrivals).countP (fun arrival =>
        channel.failsSilently arrival.alert (arrival.env position)) = 0 :=
      List.countP_eq_zero.mpr fun arrival member =>
        Bool.eq_false_iff.mp (loud position channel listed arrival member)
    refine ⟨?_, ?_⟩
    · rw [counted.1, countP_returned, none, Nat.add_zero]
    · rw [counted.2]
      apply congrArg some
      apply List.countP_congr
      intro arrival member
      rw [threw_eq_fails (loud position channel listed arrival member)]

end ChannelSet

/-- All three channels; the customer has one endpoint. -/
private def threeChannels : ChannelSet where
  channels := [.telegram ⟨"bot", "chat", ⟨none, none⟩⟩,
    .webhook ⟨Table.empty.assign 1 [⟨"https://hook.example.com/a", "secret-a"⟩]⟩, .file]
  distinct := by decide

/-- The endpoint is down and answers 503; the other channels deliver. -/
private def endpointDown : Arrival where
  alert := AlertDispatcher.pausedAlert
  nowMs := 1700000001000
  env := fun _ =>
    { telegram := .response 200
      webhook := ⟨Json.compact _, 1700000001000, false, fun _ _ _ => some "00",
        fun _ => .response 503⟩
      file := .written }

/-- The webhook is counted as having sent the alert that its endpoint
refused. -/
theorem refused_alert_counted_as_sent :
    (((threeChannels.dispatcher .production).handleAll
        [threeChannels.delivery endpointDown]).1.counters.alertsSent.find? "webhook" = some 1) ∧
      (((threeChannels.dispatcher .production).handleAll
        [threeChannels.delivery endpointDown]).1.counters.alertsSendFailures.find? "webhook" =
          some 0) ∧
      ¬ threeChannels.CountersTrue .production [endpointDown] := by
  have sent : ((threeChannels.dispatcher .production).handleAll
      [threeChannels.delivery endpointDown]).1.counters.alertsSent.find? "webhook" = some 1 := by
    decide +kernel
  refine ⟨sent, by decide +kernel, fun claimed => ?_⟩
  have webhook := (claimed 1 _ rfl).1
  have nothing : (threeChannels.passed (threeChannels.dispatcher .production) [endpointDown]).countP
      (fun arrival => AlertChannel.delivers
        (.webhook ⟨Table.empty.assign 1 [⟨"https://hook.example.com/a", "secret-a"⟩]⟩)
        arrival.alert (arrival.env 1)) = 0 := by
    decide +kernel
  exact absurd (sent.symm.trans (webhook.trans (congrArg some nothing))) (by decide)

end App
end RiskSentinel
