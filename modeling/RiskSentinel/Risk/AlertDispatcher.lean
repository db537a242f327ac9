import RiskSentinel.Risk.AlertDeduplicator

namespace RiskSentinel
namespace Risk

open Foundation

/-!
# Delivering alerts to channels

One turn of the dispatcher's loop takes an alert from the queue, reads the
clock, asks the deduplicator, and offers an alert that is not suppressed to
every channel.  A channel that throws is counted and skipped.  The firing is
recorded by the deduplicator before any channel is tried.
-/

/-- How a call of a channel's `send` ends. -/
inductive SendOutcome where
  | sent
  | standardException
  | unknownException
deriving DecidableEq, Repr

/-- One alert taken from the queue, with the clock reading and the behaviour
of each channel, by position, on this alert. -/
structure Delivery where
  alert : Alert
  nowMs : UInt64
  outcome : Nat -> SendOutcome

def Delivery.timed (delivery : Delivery) : TimedAlert where
  alert := delivery.alert
  nowMs := delivery.nowMs

/-- The counters registered with the metrics library, by label.  They are
empty when the dispatcher runs without metrics. -/
structure DispatchCounters where
  alertsSent : Table String Nat := Table.empty
  alertsSendFailures : Table String Nat := Table.empty
  alertsDeduplicated : Table String Nat := Table.empty

/-- Increment a counter that exists. -/
def increment (counters : Table String Nat) (label : String) : Table String Nat :=
  match counters.find? label with
  | some count => counters.assign label (count + 1)
  | none => counters

structure AlertDispatcher where
  channels : List String
  deduplicator : AlertDeduplicator
  counters : DispatchCounters := {}

/-- What became of one delivery. -/
structure DispatchRecord where
  delivery : Delivery
  suppressed : Bool
  sentBy : List String

namespace AlertDispatcher

/-- Registration makes the two counters of the channel's name. -/
def addChannel (dispatcher : AlertDispatcher) (name : String) (metrics : Bool) : AlertDispatcher :=
  { dispatcher with
    channels := dispatcher.channels ++ [name]
    counters :=
      if metrics then
        { dispatcher.counters with
          alertsSent := dispatcher.counters.alertsSent.assign name 0
          alertsSendFailures := dispatcher.counters.alertsSendFailures.assign name 0 }
      else dispatcher.counters }

/-- The loop over the channels.  An exception ends one channel's attempt and
not the loop. -/
def sendThrough (outcome : Nat -> SendOutcome) :
    DispatchCounters -> List (String × Nat) -> DispatchCounters × List String
  | counters, [] => (counters, [])
  | counters, (name, position) :: rest =>
      match outcome position with
      | .sent =>
          let others := sendThrough outcome
            { counters with alertsSent := increment counters.alertsSent name } rest
          (others.1, name :: others.2)
      | .standardException | .unknownException =>
          sendThrough outcome
            { counters with alertsSendFailures := increment counters.alertsSendFailures name } rest

/-- One turn of the loop of `run` after an alert has been taken. -/
def handle (dispatcher : AlertDispatcher) (delivery : Delivery) :
    AlertDispatcher × DispatchRecord :=
  let decided := dispatcher.deduplicator.shouldSuppress delivery.alert delivery.nowMs
  if decided.2 then
    ({ dispatcher with
        deduplicator := decided.1
        counters := { dispatcher.counters with
          alertsDeduplicated :=
            increment dispatcher.counters.alertsDeduplicated delivery.alert.ruleType } },
      { delivery := delivery, suppressed := true, sentBy := [] })
  else
    let fanned := sendThrough delivery.outcome dispatcher.counters dispatcher.channels.zipIdx
    ({ dispatcher with deduplicator := decided.1, counters := fanned.1 },
      { delivery := delivery, suppressed := false, sentBy := fanned.2 })

/-- The loop over a sequence of alerts. -/
def handleAll : AlertDispatcher -> List Delivery -> AlertDispatcher × List DispatchRecord
  | dispatcher, [] => (dispatcher, [])
  | dispatcher, delivery :: rest =>
      let first := dispatcher.handle delivery
      let others := handleAll first.1 rest
      (others.1, first.2 :: others.2)

/-! ## One turn -/

@[simp] theorem handle_deduplicator (dispatcher : AlertDispatcher) (delivery : Delivery) :
    (dispatcher.handle delivery).1.deduplicator =
      (dispatcher.deduplicator.shouldSuppress delivery.alert delivery.nowMs).1 := by
  unfold handle
  dsimp only
  split <;> rfl

@[simp] theorem handle_channels (dispatcher : AlertDispatcher) (delivery : Delivery) :
    (dispatcher.handle delivery).1.channels = dispatcher.channels := by
  unfold handle
  dsimp only
  split <;> rfl

@[simp] theorem handle_delivery (dispatcher : AlertDispatcher) (delivery : Delivery) :
    (dispatcher.handle delivery).2.delivery = delivery := by
  unfold handle
  dsimp only
  split <;> rfl

@[simp] theorem handle_suppressed (dispatcher : AlertDispatcher) (delivery : Delivery) :
    (dispatcher.handle delivery).2.suppressed =
      dispatcher.deduplicator.isRecent delivery.alert delivery.nowMs := by
  change _ = (dispatcher.deduplicator.shouldSuppress delivery.alert delivery.nowMs).2
  unfold handle
  dsimp only
  split <;> simp_all

private theorem sendThrough_eq_nil_iff (outcome : Nat -> SendOutcome) (counters : DispatchCounters)
    (channels : List (String × Nat)) :
    (sendThrough outcome counters channels).2 = [] ↔
      forall channel, channel ∈ channels -> outcome channel.2 ≠ .sent := by
  induction channels generalizing counters with
  | nil => simp [sendThrough]
  | cons channel rest inductionHypothesis =>
      rcases channel with ⟨name, position⟩
      cases ended : outcome position <;> simp [sendThrough, ended, inductionHypothesis]

/-- Some registered channel accepts the delivery. -/
def Accepts (channels : List String) (delivery : Delivery) : Prop :=
  Exists fun position => position < channels.length ∧ delivery.outcome position = .sent

/-- An alert reaches a channel exactly when it is not suppressed and some
channel accepts it. -/
theorem handle_sentBy (dispatcher : AlertDispatcher) (delivery : Delivery) :
    (dispatcher.handle delivery).2.sentBy ≠ [] ↔
      dispatcher.deduplicator.isRecent delivery.alert delivery.nowMs = false ∧
        Accepts dispatcher.channels delivery := by
  have decision : (dispatcher.deduplicator.shouldSuppress delivery.alert delivery.nowMs).2 =
      dispatcher.deduplicator.isRecent delivery.alert delivery.nowMs := rfl
  unfold handle
  dsimp only
  rw [decision]
  cases dispatcher.deduplicator.isRecent delivery.alert delivery.nowMs with
  | true => simp
  | false =>
      simp only [Bool.false_eq_true, if_false, true_and, ne_eq, sendThrough_eq_nil_iff, not_forall,
        Classical.not_not, Accepts]
      constructor
      · rintro ⟨channel, member, ended⟩
        rcases List.mem_zipIdx_iff_getElem?.mp member with found
        exact ⟨channel.2, (List.getElem?_eq_some_iff.mp found).1, ended⟩
      · rintro ⟨position, inside, ended⟩
        exact ⟨(dispatcher.channels[position], position),
          List.mem_zipIdx_iff_getElem?.mpr (List.getElem?_eq_getElem inside), ended⟩

/-! ## Whole runs -/

theorem handleAll_append (dispatcher : AlertDispatcher) (earlier later : List Delivery) :
    dispatcher.handleAll (earlier ++ later) =
      (((dispatcher.handleAll earlier).1.handleAll later).1,
        (dispatcher.handleAll earlier).2 ++
          ((dispatcher.handleAll earlier).1.handleAll later).2) := by
  induction earlier generalizing dispatcher with
  | nil => rfl
  | cons delivery rest inductionHypothesis =>
      simp only [List.cons_append, handleAll, inductionHypothesis]

@[simp] theorem handleAll_channels (dispatcher : AlertDispatcher) (deliveries : List Delivery) :
    (dispatcher.handleAll deliveries).1.channels = dispatcher.channels := by
  induction deliveries generalizing dispatcher with
  | nil => rfl
  | cons delivery rest inductionHypothesis =>
      exact (inductionHypothesis _).trans (handle_channels dispatcher delivery)

@[simp] theorem handleAll_config (dispatcher : AlertDispatcher) (deliveries : List Delivery) :
    (dispatcher.handleAll deliveries).1.deduplicator.config = dispatcher.deduplicator.config := by
  induction deliveries generalizing dispatcher with
  | nil => rfl
  | cons delivery rest inductionHypothesis =>
      apply (inductionHypothesis _).trans
      rw [handle_deduplicator, AlertDeduplicator.shouldSuppress_config]

/-- A record of a run was made in the state that its predecessors left. -/
theorem handleAll_split {dispatcher : AlertDispatcher} {deliveries : List Delivery}
    {earlier later : List DispatchRecord} {record : DispatchRecord}
    (split : (dispatcher.handleAll deliveries).2 = earlier ++ record :: later) :
    Exists fun before => Exists fun delivery => Exists fun after =>
      deliveries = before ++ delivery :: after ∧ earlier = (dispatcher.handleAll before).2 ∧
        record = ((dispatcher.handleAll before).1.handle delivery).2 := by
  induction deliveries generalizing dispatcher earlier with
  | nil => simp [handleAll] at split
  | cons delivery rest inductionHypothesis =>
      cases earlier with
      | nil =>
          have heads := List.head_eq_of_cons_eq split
          exact ⟨[], delivery, rest, rfl, rfl, heads.symm⟩
      | cons first others =>
          have heads := List.head_eq_of_cons_eq split
          rcases inductionHypothesis (List.tail_eq_of_cons_eq split) with
            ⟨before, chosen, after, parts, records, made⟩
          refine ⟨delivery :: before, chosen, after, by rw [parts]; rfl, ?_, made⟩
          rw [records, ← heads]
          rfl

/-- The request that a delivery makes of the throttle. -/
def request (config : DeduplicatorConfig) (delivery : Delivery) : Request String :=
  config.request delivery.timed

/-- The records of the alerts that were not suppressed. -/
def unsuppressed (records : List DispatchRecord) : List Delivery :=
  (records.filter fun record => !record.suppressed).map DispatchRecord.delivery

theorem unsuppressed_cons (record : DispatchRecord) (records : List DispatchRecord) :
    unsuppressed (record :: records) =
      if record.suppressed then unsuppressed records
        else record.delivery :: unsuppressed records := by
  cases suppressed : record.suppressed <;> simp [unsuppressed, suppressed]

/-- Which alerts are not suppressed is decided by the deduplicator alone. -/
theorem map_timed_unsuppressed (dispatcher : AlertDispatcher) (deliveries : List Delivery) :
    (unsuppressed (dispatcher.handleAll deliveries).2).map Delivery.timed =
      dispatcher.deduplicator.letThrough (deliveries.map Delivery.timed) := by
  induction deliveries generalizing dispatcher with
  | nil => rfl
  | cons delivery rest inductionHypothesis =>
      have others := inductionHypothesis (dispatcher.handle delivery).1
      rw [handle_deduplicator] at others
      change (unsuppressed ((dispatcher.handle delivery).2 :: _)).map Delivery.timed = _
      rw [unsuppressed_cons, handle_suppressed, handle_delivery, List.map_cons,
        AlertDeduplicator.letThrough]
      change _ = if dispatcher.deduplicator.isRecent delivery.alert delivery.nowMs = true then _
        else _
      split
      · exact others
      · rw [List.map_cons, others]
        rfl

/-- Over a run with a nondecreasing clock the deduplicator remembers what the
throttle remembers, and lets through what the throttle admits. -/
theorem handleAll_remembers (config : DeduplicatorConfig) (deliveries : List Delivery)
    (dispatcher : AlertDispatcher) (same : dispatcher.deduplicator.config = config) (clock : Nat)
    (full : String -> Option Nat) (remembers : dispatcher.deduplicator.Remembers clock full)
    (reached : forall delivery, delivery ∈ deliveries -> clock ≤ delivery.nowMs.toNat)
    (monotone : Throttle.Monotone (request config) deliveries) :
    unsuppressed (dispatcher.handleAll deliveries).2 = Throttle.passing
      (request config) full deliveries ∧
      forall bound, clock ≤ bound ->
      (forall delivery, delivery ∈ deliveries -> delivery.nowMs.toNat ≤ bound) ->
        (dispatcher.handleAll deliveries).1.deduplicator.Remembers bound
          (Throttle.after (request config) full deliveries) := by
  induction deliveries generalizing dispatcher clock full with
  | nil => exact ⟨rfl, fun bound moved _ => Throttle.Prunes.mono remembers moved⟩
  | cons delivery rest inductionHypothesis =>
      have tail := List.pairwise_cons.mp monotone
      have decided := remembers.shouldSuppress delivery.timed (reached delivery List.mem_cons_self)
      rw [same] at decided
      have next : (dispatcher.handle delivery).1.deduplicator.Remembers delivery.nowMs.toNat
          (Throttle.recordFiring full (request config delivery)) := by
        rw [handle_deduplicator]
        exact decided.2
      have others := inductionHypothesis (dispatcher.handle delivery).1
        (by rw [handle_deduplicator, AlertDeduplicator.shouldSuppress_config,
          same]) _ _ next tail.1 tail.2
      have decision : (dispatcher.handle delivery).2.suppressed = Throttle.blocked full
          (request config delivery) := by
        rw [handle_suppressed]
        exact decided.1
      constructor
      · change unsuppressed (_ :: _) = _
        rw [unsuppressed_cons, decision, handle_delivery, others.1, Throttle.passing]
      · intro bound _ below
        exact others.2 bound (below delivery List.mem_cons_self)
          (fun later member => below later (List.mem_cons_of_mem _ member))

/-! ## Suppressed alerts -/

/-- Every suppressed alert stands behind an earlier one of the same subject
that some channel sent less than the rule's window before. -/
def SuppressionBacked (config : DeduplicatorConfig) (records : List DispatchRecord) : Prop :=
  forall earlier record later, records = earlier ++ record :: later -> record.suppressed = true ->
    Exists fun backing => backing ∈ earlier ∧ backing.sentBy ≠ [] ∧
      SameSubject backing.delivery.alert record.delivery.alert ∧
      record.delivery.nowMs.toNat < backing.delivery.nowMs.toNat +
        (config.windowMs record.delivery.alert.ruleType).toNat

/-- The alert comes less than its window after an alert with its key. -/
def Follows (config : DeduplicatorConfig) (first second : Delivery) : Prop :=
  buildKey first.alert = buildKey second.alert ∧
    second.nowMs.toNat < first.nowMs.toNat + (config.windowMs second.alert.ruleType).toNat

/-- An alert that the deduplicator is about to let through, and that an alert
with the same key follows within the window, is accepted by some channel and
has the subject of its follower. -/
def RepeatedOnlyIfDelivered (dispatcher : AlertDispatcher) (deliveries : List Delivery) : Prop :=
  forall before first between second after,
    deliveries = before ++ first :: (between ++ second :: after) ->
    (dispatcher.handleAll before).1.deduplicator.isRecent first.alert first.nowMs = false ->
    Follows dispatcher.deduplicator.config first second ->
    Accepts dispatcher.channels first ∧ SameSubject first.alert second.alert

private theorem mem_unsuppressed_iff {dispatcher : AlertDispatcher} {deliveries : List Delivery}
    {first : Delivery} :
    first ∈ unsuppressed (dispatcher.handleAll deliveries).2 ↔
      Exists fun before => Exists fun after => deliveries = before ++ first :: after ∧
        (dispatcher.handleAll before).1.deduplicator.isRecent first.alert first.nowMs = false := by
  constructor
  · intro member
    rcases List.mem_map.mp member with ⟨record, kept, rfl⟩
    rcases List.mem_filter.mp kept with ⟨listed, notSuppressed⟩
    rcases List.append_of_mem listed with ⟨earlier, later, split⟩
    rcases handleAll_split split with ⟨before, delivery, after, parts, _, rfl⟩
    rw [handle_suppressed, Bool.not_eq_true'] at notSuppressed
    rw [handle_delivery]
    exact ⟨before, after, parts, notSuppressed⟩
  · rintro ⟨before, after, rfl, notRecent⟩
    rw [handleAll_append]
    refine List.mem_map.mpr
      ⟨((dispatcher.handleAll before).1.handle first).2, ?_, handle_delivery _ _⟩
    refine List.mem_filter.mpr ⟨List.mem_append_right _ List.mem_cons_self, ?_⟩
    rw [handle_suppressed, notRecent]
    rfl

/-- The decision on a delivery of a run, read off the earlier ones. -/
private theorem isRecent_iff_follows {dispatcher : AlertDispatcher} {before : List Delivery}
    {delivery : Delivery} (fresh : dispatcher.deduplicator.Remembers 0 (fun _ => none))
    (monotone : Throttle.Monotone (request dispatcher.deduplicator.config) (before ++ [delivery])) :
    (dispatcher.handleAll before).1.deduplicator.isRecent delivery.alert delivery.nowMs = true ↔
      Exists fun first => first ∈ unsuppressed (dispatcher.handleAll before).2 ∧
        Follows dispatcher.deduplicator.config first delivery := by
  rcases List.pairwise_append.mp monotone with ⟨earlier, _, below⟩
  have run := handleAll_remembers dispatcher.deduplicator.config before dispatcher rfl 0 _ fresh
    (fun _ _ => Nat.zero_le _) earlier
  have remembers := run.2 delivery.nowMs.toNat (Nat.zero_le _)
    (fun first member => below first member delivery List.mem_cons_self)
  have decided := remembers.shouldSuppress delivery.timed (Nat.le_refl _)
  rw [handleAll_config] at decided
  change (AlertDeduplicator.shouldSuppress _ delivery.timed.alert delivery.timed.nowMs).2 = true ↔ _
  rw [decided.1, run.1]
  exact Throttle.blocked_after_iff _ before earlier _

/-- A delivery follows at most one unsuppressed delivery of its subject:
two of them lie a window apart. -/
private theorem followed_unique {dispatcher : AlertDispatcher} {before : List Delivery}
    {delivery : Delivery} (fresh : dispatcher.deduplicator.Remembers 0 (fun _ => none))
    (monotone : Throttle.Monotone (request dispatcher.deduplicator.config) (before ++ [delivery]))
    {left right : Delivery} (leftMember : left ∈ unsuppressed (dispatcher.handleAll before).2)
    (rightMember : right ∈ unsuppressed (dispatcher.handleAll before).2)
    (leftSubject : SameSubject left.alert delivery.alert)
    (rightSubject : SameSubject right.alert delivery.alert)
    (leftNear : Follows dispatcher.deduplicator.config left delivery)
    (rightNear : Follows dispatcher.deduplicator.config right delivery) : left = right := by
  rcases List.pairwise_append.mp monotone with ⟨earlier, _, below⟩
  have run := handleAll_remembers dispatcher.deduplicator.config before dispatcher rfl 0 _ fresh
    (fun _ _ => Nat.zero_le _) earlier
  rw [run.1] at leftMember rightMember
  have windows : forall {first : Delivery}, SameSubject first.alert delivery.alert ->
      (request dispatcher.deduplicator.config first).window =
        (request dispatcher.deduplicator.config delivery).window := by
    intro first subject
    change (DeduplicatorConfig.windowMs _ first.alert.ruleType).toNat = _
    rw [subject.ruleType]
    rfl
  refine Throttle.passing_unique _ _ before earlier leftMember rightMember
    (leftNear.1.trans rightNear.1.symm)
    ((windows leftSubject).trans (windows rightSubject).symm) delivery.nowMs.toNat
    (below left (Throttle.mem_of_mem_passing _ leftMember) delivery List.mem_cons_self)
    (below right (Throttle.mem_of_mem_passing _ rightMember) delivery List.mem_cons_self) ?_ ?_
  · rw [windows leftSubject]
    exact leftNear.2
  · rw [windows rightSubject]
    exact rightNear.2

/-- A run in which no undelivered alert is followed within the window keeps
suppressed alerts backed. -/
private theorem suppressionBacked_of_delivered (dispatcher : AlertDispatcher)
    {deliveries : List Delivery} (fresh : dispatcher.deduplicator.Remembers 0 (fun _ => none))
    (monotone : Throttle.Monotone (request dispatcher.deduplicator.config) deliveries)
    (delivered : RepeatedOnlyIfDelivered dispatcher deliveries) :
    SuppressionBacked dispatcher.deduplicator.config (dispatcher.handleAll deliveries).2 := by
  intro earlier record later split suppressed
  rcases handleAll_split split with ⟨before, second, after, parts, rfl, rfl⟩
  rw [handle_suppressed] at suppressed
  rw [handle_delivery]
  have prefixMonotone : Throttle.Monotone (request dispatcher.deduplicator.config)
      (before ++ [second]) := by
    refine List.Pairwise.sublist ?_ monotone
    rw [parts]
    exact List.Sublist.append_left (List.singleton_sublist.mpr List.mem_cons_self) before
  rcases (isRecent_iff_follows fresh prefixMonotone).mp suppressed with ⟨first, member, follows⟩
  rcases mem_unsuppressed_iff.mp member with ⟨start, between, rfl, notRecent⟩
  have accepted := delivered start first between second after
    (by rw [parts]; simp) notRecent follows
  refine ⟨((dispatcher.handleAll start).1.handle first).2, ?_, ?_, ?_, ?_⟩
  · rw [handleAll_append]
    exact List.mem_append_right _ List.mem_cons_self
  · rw [handle_sentBy, handleAll_channels]
    exact ⟨notRecent, accepted.1⟩
  · rw [handle_delivery]
    exact accepted.2
  · rw [handle_delivery]
    exact follows.2

private theorem delivered_of_suppressionBacked (dispatcher : AlertDispatcher)
    {deliveries : List Delivery} (fresh : dispatcher.deduplicator.Remembers 0 (fun _ => none))
    (monotone : Throttle.Monotone (request dispatcher.deduplicator.config) deliveries)
    (clear : forall delivery, delivery ∈ deliveries -> delivery.alert.Unambiguous)
    (backed : SuppressionBacked dispatcher.deduplicator.config
      (dispatcher.handleAll deliveries).2) :
    RepeatedOnlyIfDelivered dispatcher deliveries := by
  intro before first between second after parts notRecent follows
  have grouped : deliveries = (before ++ first :: between) ++ second :: after := by
    rw [parts]
    simp
  have subject : SameSubject first.alert second.alert :=
    sameSubject_of_buildKey (clear first (by simp [parts]))
      (clear second (by simp [parts])) follows.1
  have prefixMonotone : Throttle.Monotone (request dispatcher.deduplicator.config)
      ((before ++ first :: between) ++ [second]) := by
    refine List.Pairwise.sublist ?_ monotone
    rw [grouped]
    exact List.Sublist.append_left (List.singleton_sublist.mpr List.mem_cons_self) _
  have firstPassed : first ∈ unsuppressed (dispatcher.handleAll (before ++ first :: between)).2 :=
    mem_unsuppressed_iff.mpr ⟨before, between, rfl, notRecent⟩
  have suppressed := (isRecent_iff_follows fresh prefixMonotone).mpr ⟨first, firstPassed, follows⟩
  rcases backed (dispatcher.handleAll (before ++ first :: between)).2
      ((dispatcher.handleAll (before ++ first :: between)).1.handle second).2
      (((dispatcher.handleAll (before ++ first :: between)).1.handle second).1.handleAll after).2
      (by rw [grouped, handleAll_append]; rfl) (by rw [handle_suppressed]; exact suppressed) with
    ⟨backing, listed, sent, sameAsSecond, near⟩
  rw [handle_delivery] at sameAsSecond near
  rcases List.append_of_mem listed with ⟨earlier, later, split⟩
  rcases handleAll_split split with ⟨start, chosen, rest, chosenParts, _, rfl⟩
  rw [handle_sentBy, handleAll_channels] at sent
  rw [handle_delivery] at sameAsSecond near
  have chosenPassed : chosen ∈ unsuppressed (dispatcher.handleAll (before ++ first :: between)).2 :=
    mem_unsuppressed_iff.mpr ⟨start, rest, chosenParts, sent.1⟩
  have same : chosen = first :=
    followed_unique fresh prefixMonotone chosenPassed firstPassed sameAsSecond subject
    ⟨sameAsSecond.buildKey_eq, near⟩ follows
  exact ⟨same ▸ sent.2, subject⟩

/-- Suppression in every run of a new dispatcher with a nondecreasing clock.
It hides no undelivered alert if every alert that is let through and then
followed by its key within the window was accepted by some channel.  For the
alerts the rules make, which are unambiguous, it does so only then. -/
theorem suppression_backed_iff_repeated_only_if_delivered (config : DeduplicatorConfig)
    (channels : List String) (counters : DispatchCounters) (deliveries : List Delivery)
    (nondecreasing : deliveries.Pairwise fun earlier later => earlier.nowMs ≤ later.nowMs) :
    let dispatcher : AlertDispatcher :=
      { channels := channels, deduplicator := .create config, counters := counters }
    (RepeatedOnlyIfDelivered dispatcher deliveries ->
        SuppressionBacked config (dispatcher.handleAll deliveries).2) ∧
      ((forall delivery, delivery ∈ deliveries -> delivery.alert.Unambiguous) ->
        SuppressionBacked config (dispatcher.handleAll deliveries).2 ->
        RepeatedOnlyIfDelivered dispatcher deliveries) := by
  intro dispatcher
  have fresh := AlertDeduplicator.remembers_new config 0
  have monotone : Throttle.Monotone (request config) deliveries :=
    nondecreasing.imp fun order => UInt64.le_iff_toNat_le.mp order
  exact ⟨fun delivered => suppressionBacked_of_delivered dispatcher fresh monotone delivered,
    fun clear backed => delivered_of_suppressionBacked dispatcher fresh monotone clear backed⟩

/-- A governance alert as the rule writes it. -/
def pausedAlert : Alert where
  customerId := 1
  ruleType := "governance"
  message := "Governance action 'Paused' detected on contract 0x00000000000000000000000000000000000000aa"
  timestampMs := 1700000000000
  tokenAddress := some "0x00000000000000000000000000000000000000aa"
  chainId := some 1

def failedDelivery : Delivery where
  alert := pausedAlert
  nowMs := 1700000001000
  outcome := fun _ => .standardException

def laterDelivery : Delivery where
  alert := pausedAlert
  nowMs := 1700000061000
  outcome := fun _ => .sent

def webhookDispatcher : AlertDispatcher where
  channels := ["webhook"]
  deduplicator := .create .production

/-- With the channel up throughout, the condition holds and the repeated
alert is rightly suppressed. -/
theorem suppression_backed_without_outage :
    SuppressionBacked .production (webhookDispatcher.handleAll
        [{ failedDelivery with outcome := fun _ => .sent }, laterDelivery]).2 ∧
      RepeatedOnlyIfDelivered webhookDispatcher
        [{ failedDelivery with outcome := fun _ => .sent }, laterDelivery] := by
  have uniform : forall delivery,
      delivery ∈ [{ failedDelivery with outcome := fun _ => SendOutcome.sent }, laterDelivery] ->
      delivery.alert = pausedAlert ∧ delivery.outcome 0 = .sent := by
    simp [failedDelivery, laterDelivery]
  have settled := suppression_backed_iff_repeated_only_if_delivered .production ["webhook"] {}
    [{ failedDelivery with outcome := fun _ => .sent }, laterDelivery]
    (by simp [failedDelivery, laterDelivery])
  have backed := settled.1 (by
    intro before first between second after parts _ _
    have firstFacts := uniform first (by rw [parts]; simp)
    have secondFacts := uniform second (by rw [parts]; simp)
    refine ⟨⟨0, by decide, firstFacts.2⟩, ?_⟩
    rw [firstFacts.1, secondFacts.1]
    exact ⟨rfl, rfl, rfl, rfl⟩)
  refine ⟨backed, settled.2 (fun delivery member => ?_) backed⟩
  rw [(uniform delivery member).1]
  exact ⟨by decide, rfl⟩

/-- The channel is down when the contract is paused and up again a minute
later.  The second alert is suppressed although nobody received the first. -/
theorem outage_hides_undelivered_alert :
    ([failedDelivery, laterDelivery].Pairwise fun earlier later => earlier.nowMs ≤ later.nowMs) ∧
      ¬ SuppressionBacked .production
        (webhookDispatcher.handleAll [failedDelivery, laterDelivery]).2 := by
  refine ⟨by simp [failedDelivery, laterDelivery], fun backed => ?_⟩
  have suppressed :
      ((webhookDispatcher.handle failedDelivery).1.handle laterDelivery).2.suppressed = true := by
    decide +kernel
  have unsent : (webhookDispatcher.handle failedDelivery).2.sentBy = [] := by
    decide +kernel
  rcases backed [(webhookDispatcher.handle failedDelivery).2] _ [] rfl suppressed
    with ⟨backing, member, sent, _⟩
  rw [List.mem_singleton.mp member] at sent
  exact sent unsent

end AlertDispatcher

end Risk
end RiskSentinel
