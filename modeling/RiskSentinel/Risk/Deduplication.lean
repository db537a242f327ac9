import RiskSentinel.Foundation.Computation
import RiskSentinel.Risk.AlertDeduplicator

namespace RiskSentinel
namespace Risk

open Foundation

/-!
# Deduplication over whole runs

The deduplicator has two public operations, and nothing orders their callers.
The first section lets the two alternate freely and shows that, as long as the
clock readings do not go back, every answer is determined by the alerts let
through before it.  A clean-up between two alerts has no effect on any answer.

The second section drops the assumption on the clock.  The dispatcher reads
the wall clock, which can be set forward and back again.  Suppression and
clean-up each guard against a reading from the past, but a clean-up at a
reading that is later taken back has already thrown entries away.  A run keeps
its deliveries a window apart exactly when no alert falls into such a gap.
-/

/-- A call of one of the two operations. -/
inductive DeduplicatorCall where
  | shouldSuppress (item : TimedAlert)
  | cleanupStaleEntries (nowMs : UInt64)

namespace DeduplicatorCall

/-- The clock reading a call is given. -/
def nowMs : DeduplicatorCall -> UInt64
  | .shouldSuppress item => item.nowMs
  | .cleanupStaleEntries nowMs => nowMs

/-- The alert a call asks about. -/
def item? : DeduplicatorCall -> Option TimedAlert
  | .shouldSuppress item => some item
  | .cleanupStaleEntries _ => none

end DeduplicatorCall

namespace AlertDeduplicator

/-- The answers to the calls of `should_suppress` in a sequence of calls,
each with the alert it was about. -/
def answers : AlertDeduplicator -> List DeduplicatorCall -> List (TimedAlert × Bool)
  | _, [] => []
  | dedup, .shouldSuppress item :: rest =>
      let decided := dedup.shouldSuppress item.alert item.nowMs
      (item, decided.2) :: answers decided.1 rest
  | dedup, .cleanupStaleEntries nowMs :: rest => answers (dedup.cleanupStaleEntries nowMs) rest

/-- The clock readings of the calls do not go back. -/
def Ordered (calls : List DeduplicatorCall) : Prop :=
  calls.Pairwise fun earlier later => earlier.nowMs ≤ later.nowMs

private theorem answers_remembers (config : DeduplicatorConfig) (calls : List DeduplicatorCall)
    (dedup : AlertDeduplicator) (same : dedup.config = config) (clock : Nat)
    (full : String -> Option Nat) (remembers : dedup.Remembers clock full)
    (reached : forall call, call ∈ calls -> clock ≤ call.nowMs.toNat) (ordered : Ordered calls) :
    dedup.answers calls = Throttle.decisions config.request full
      (calls.filterMap DeduplicatorCall.item?) := by
  induction calls generalizing dedup clock full with
  | nil => rfl
  | cons call rest inductionHypothesis =>
      have tail := List.pairwise_cons.mp ordered
      have now := reached call List.mem_cons_self
      cases call with
      | shouldSuppress item =>
          have decided := remembers.shouldSuppress item now
          rw [same] at decided
          rw [List.filterMap_cons_some (f := DeduplicatorCall.item?) (b := item) rfl,
            Throttle.decisions, answers, decided.1]
          congr 1
          exact inductionHypothesis _
            ((shouldSuppress_config dedup _ _).trans same) _ _ decided.2 tail.1 tail.2
      | cleanupStaleEntries nowMs =>
          rw [List.filterMap_cons_none (f := DeduplicatorCall.item?) rfl]
          exact inductionHypothesis (dedup.cleanupStaleEntries nowMs) same nowMs.toNat full
            (remembers.cleanupStaleEntries nowMs now) tail.1 tail.2

/-- With ordered clock readings a new deduplicator answers like the throttle
that is asked about the same alerts and never forgets. -/
theorem answers_eq_decisions (config : DeduplicatorConfig) (calls : List DeduplicatorCall)
    (ordered : Ordered calls) :
    (create config).answers calls =
      Throttle.decisions config.request (fun _ => none) (calls.filterMap DeduplicatorCall.item?) :=
  answers_remembers config calls (create config) rfl 0 _ (remembers_new config 0)
    (fun _ _ => Nat.zero_le _) ordered

private theorem monotone_items (config : DeduplicatorConfig) (calls : List DeduplicatorCall)
    (ordered : Ordered calls) : Throttle.Monotone config.request
    (calls.filterMap DeduplicatorCall.item?) := by
  refine List.Pairwise.filterMap _ ?_ ordered
  intro earlier later order first isFirst second isSecond
  cases earlier with
  | cleanupStaleEntries nowMs => cases isFirst
  | shouldSuppress item =>
      cases later with
      | cleanupStaleEntries nowMs => cases isSecond
      | shouldSuppress other =>
          cases isFirst
          cases isSecond
          exact UInt64.le_iff_toNat_le.mp order

/-- An alert is suppressed exactly when an alert with the same customer, rule
type, chain and token was let through less than its window before it, and
this whatever clean-ups took place in between. -/
theorem suppressed_iff_recent_delivery (config : DeduplicatorConfig) (calls : List DeduplicatorCall)
    (ordered : Ordered calls)
    (clear : forall item, .shouldSuppress item ∈ calls -> '|' ∉ item.alert.ruleType.toList)
    (before later : List (TimedAlert × Bool)) (item : TimedAlert) (answer : Bool)
    (split : (create config).answers calls = before ++ (item, answer) :: later) :
    answer = true ↔ Exists fun earlier : TimedAlert => (earlier, false) ∈ before ∧
      SameKeyParts earlier.alert item.alert ∧
      item.nowMs.toNat - earlier.nowMs.toNat < (config.windowMs item.alert.ruleType).toNat := by
  rw [answers_eq_decisions config calls ordered] at split
  rcases Throttle.decisions_split config.request _ _ before later item answer split with
    ⟨earlierItems, rest, items, rfl, rfl⟩
  have monotone := monotone_items config calls ordered
  have clearItem : forall other, other ∈ earlierItems ++ item :: rest ->
      '|' ∉ other.alert.ruleType.toList := by
    intro other member
    rw [← items] at member
    rcases List.mem_filterMap.mp member with ⟨call, listed, isOther⟩
    cases call with
    | cleanupStaleEntries nowMs => cases isOther
    | shouldSuppress asked =>
        cases isOther
        exact clear other listed
  rw [items] at monotone
  have parts := List.pairwise_append.mp monotone
  rw [Throttle.blocked_after_iff config.request earlierItems parts.1]
  apply exists_congr
  intro earlier
  rw [Throttle.mem_passing_iff_decisions]
  apply and_congr_right
  intro delivered
  have member : earlier ∈ earlierItems :=
    Throttle.mem_of_mem_passing config.request
      ((Throttle.mem_passing_iff_decisions _ _ _ _).mpr delivered)
  have order : earlier.nowMs.toNat ≤ item.nowMs.toNat :=
    parts.2.2 earlier member item List.mem_cons_self
  have keys := sameKeyParts_iff_buildKey (clearItem earlier (List.mem_append_left _ member))
    (clearItem item (List.mem_append_right _ List.mem_cons_self))
  rw [keys]
  change _ ∧ item.nowMs.toNat < earlier.nowMs.toNat +
    (config.windowMs item.alert.ruleType).toNat ↔ _
  apply and_congr_right
  intro _
  omega

/-- A clean-up on every alert, and the rule windows of the two alerts below. -/
private def eagerConfig : DeduplicatorConfig where
  defaultWindowMs := 10
  perRuleWindowMs := ⟨[("governance", 50)], by decide⟩
  cleanupEveryNAlerts := 0

private def sampleAlert (ruleType : String) : Alert where
  customerId := 1
  ruleType := ruleType
  message := ""
  timestampMs := 0
  tokenAddress := some "0xa"
  chainId := some 1

/-- A clean-up just before the end of the window does not let the repeated
alert pass. -/
theorem suppressed_after_cleanup :
    (create eagerConfig).answers
    [.shouldSuppress ⟨sampleAlert "governance", 0⟩, .cleanupStaleEntries 49,
        .shouldSuppress ⟨sampleAlert "governance", 49⟩] =
      [(⟨sampleAlert "governance", 0⟩, false)] ++ [(⟨sampleAlert "governance", 49⟩, true)] ∧
      Exists fun earlier : TimedAlert =>
      (earlier, false) ∈ [(⟨sampleAlert "governance", 0⟩, false)] ∧
        SameKeyParts earlier.alert (sampleAlert "governance") ∧
        (49 : UInt64).toNat - earlier.nowMs.toNat < (eagerConfig.windowMs "governance").toNat := by
  have split : (create eagerConfig).answers [.shouldSuppress ⟨sampleAlert "governance", 0⟩,
      .cleanupStaleEntries 49, .shouldSuppress ⟨sampleAlert "governance", 49⟩] =
      [(⟨sampleAlert "governance", 0⟩, false)] ++ [(⟨sampleAlert "governance", 49⟩, true)] := by
    decide +kernel
  refine ⟨split, (suppressed_iff_recent_delivery eagerConfig _ ?_ ?_ _ [] _ _ split).mp rfl⟩
  · unfold Ordered
    decide
  · intro item member
    simp only [List.mem_cons, List.not_mem_nil, or_false, DeduplicatorCall.shouldSuppress.injEq,
      reduceCtorEq, false_or] at member
    rcases member with rfl | rfl <;> decide

end AlertDeduplicator

/-! ## A clock that steps forward and back -/

/-- The deduplicator together with the alerts delivered so far. -/
structure DeliveryState where
  dedup : AlertDeduplicator
  delivered : List TimedAlert

namespace DeliveryState

/-- The dispatcher asks about one alert and delivers it unless it is
suppressed. -/
def take (state : DeliveryState) (item : TimedAlert) : Option DeliveryState :=
  let decided := state.dedup.shouldSuppress item.alert item.nowMs
  some ⟨decided.1, if decided.2 then state.delivered else state.delivered ++ [item]⟩

/-- The last delivery under a key. -/
def lastDelivery (state : DeliveryState) (key : String) : Option TimedAlert :=
  state.delivered.reverse.find? fun item => decide (buildKey item.alert = key)

/-- The alert's key has been delivered, a clean-up has since thrown its entry
away, and the clock is back within the window of that delivery. -/
def FallsIntoGap (state : DeliveryState) (item : TimedAlert) : Prop :=
  state.dedup.lastFiredMs.find? (buildKey item.alert) = none ∧
    Exists fun fired => state.lastDelivery (buildKey item.alert) = some fired ∧
      item.nowMs.toNat < fired.nowMs.toNat + (state.dedup.config.windowMs item.alert.ruleType).toNat

/-- Deliveries of one key, in the order of the calls, are a window apart. -/
def Spaced (config : DeduplicatorConfig) (delivered : List TimedAlert) : Prop :=
  delivered.Pairwise fun earlier later => buildKey earlier.alert = buildKey later.alert ->
    earlier.nowMs.toNat + (config.windowMs later.alert.ruleType).toNat ≤ later.nowMs.toNat

theorem mem_of_lastDelivery {state : DeliveryState} {key : String} {fired : TimedAlert}
    (found : state.lastDelivery key = some fired) : fired ∈ state.delivered ∧
    buildKey fired.alert = key := by
  unfold lastDelivery at found
  refine ⟨List.mem_reverse.mp (List.mem_of_find?_eq_some found), ?_⟩
  have matching := List.find?_some found
  simpa only [decide_eq_true_eq] using matching

theorem lastDelivery_snoc (dedup : AlertDeduplicator) (delivered : List TimedAlert)
    (item : TimedAlert) (key : String) : lastDelivery ⟨dedup, delivered ++ [item]⟩ key =
      if buildKey item.alert = key then some item else lastDelivery ⟨dedup, delivered⟩ key := by
  unfold lastDelivery
  rw [List.reverse_append, List.reverse_singleton, List.singleton_append, List.find?_cons]
  by_cases same : buildKey item.alert = key
  · rw [if_pos same, decide_eq_true same]
  · rw [if_neg same, decide_eq_false same]

/-- In spaced deliveries the last one of a key is also the latest. -/
theorem Spaced.le_lastDelivery {config : DeduplicatorConfig} {state : DeliveryState}
    (spaced : Spaced config state.delivered) {item : TimedAlert} (member : item ∈ state.delivered) :
    Exists fun fired => state.lastDelivery (buildKey item.alert) = some fired ∧
      item.nowMs.toNat ≤ fired.nowMs.toNat := by
  rcases state with ⟨dedup, delivered⟩
  induction delivered using List.reverseRecOn with
  | nil => exact (List.not_mem_nil member).elim
  | append_singleton rest last inductionHypothesis =>
      have parts := List.pairwise_append.mp spaced
      rw [lastDelivery_snoc]
      by_cases same : buildKey last.alert = buildKey item.alert
      · rw [if_pos same]
        refine ⟨last, rfl, ?_⟩
        rcases List.mem_append.mp member with earlier | isLast
        · have apart := parts.2.2 item earlier last List.mem_cons_self same.symm
          omega
        · rw [List.mem_singleton.mp isLast]
      · rw [if_neg same]
        rcases List.mem_append.mp member with earlier | isLast
        · exact inductionHypothesis parts.1 earlier
        · rw [List.mem_singleton.mp isLast] at same
          exact absurd rfl same

end DeliveryState

namespace AlertDeduplicator

/-- What the table holds after an alert was there before, or is the alert
itself. -/
theorem find?_shouldSuppress {dedup : AlertDeduplicator} {item : TimedAlert} {key : String}
    {stored : UInt64}
    (found : (dedup.shouldSuppress item.alert item.nowMs).1.lastFiredMs.find? key = some stored) :
    (dedup.isRecent item.alert item.nowMs = false ∧ key = buildKey item.alert ∧
      stored = item.nowMs) ∨
      (dedup.lastFiredMs.find? key = some stored ∧
        (dedup.isRecent item.alert item.nowMs = true ∨ key ≠ buildKey item.alert)) := by
  have recorded : (dedup.recordFired item.alert item.nowMs).lastFiredMs.find? key =
      some stored := by
    unfold shouldSuppress countProcessed cleanupStaleEntries at found
    by_cases reached : (dedup.recordFired item.alert item.nowMs).config.cleanupEveryNAlerts ≤
        (dedup.recordFired item.alert item.nowMs).alertsProcessedSinceCleanup + 1
    · rw [if_pos reached, Table.find?_eraseIf] at found
      exact (Option.filter_eq_some_iff.mp found).1
    · rw [if_neg reached] at found
      exact found
  unfold recordFired at recorded
  cases recent : dedup.isRecent item.alert item.nowMs with
  | true =>
      rw [recent, if_pos rfl] at recorded
      exact Or.inr ⟨recorded, Or.inl rfl⟩
  | false =>
      rw [recent, if_neg (by decide), Table.find?_assign] at recorded
      by_cases same : key = buildKey item.alert
      · rw [if_pos same] at recorded
        exact Or.inl ⟨rfl, same, (Option.some.inj recorded).symm⟩
      · rw [if_neg same] at recorded
        exact Or.inr ⟨recorded, Or.inr same⟩

end AlertDeduplicator

namespace DeliveryState

/-- Every entry of the table is the last delivery of its key. -/
structure Faithful (config : DeduplicatorConfig) (state : DeliveryState) : Prop where
  config_eq : state.dedup.config = config
  entries : forall key stored, state.dedup.lastFiredMs.find? key = some stored ->
    Exists fun fired => state.lastDelivery key = some fired ∧ fired.nowMs = stored

theorem faithful_new (config : DeduplicatorConfig) :
    Faithful config ⟨AlertDeduplicator.create config, []⟩ :=
  ⟨rfl, fun key stored found => by cases found⟩

/-- The two ways an alert is taken. -/
theorem take_cases {state next : DeliveryState} {item : TimedAlert}
    (taken : state.take item = some next) :
    next.dedup = (state.dedup.shouldSuppress item.alert item.nowMs).1 ∧
      ((state.dedup.isRecent item.alert item.nowMs = true ∧ next.delivered = state.delivered) ∨
        (state.dedup.isRecent item.alert item.nowMs = false ∧
          next.delivered = state.delivered ++ [item])) := by
  cases taken
  refine ⟨rfl, ?_⟩
  cases recent : state.dedup.isRecent item.alert item.nowMs with
  | true => exact Or.inl ⟨rfl, if_pos recent⟩
  | false =>
      have old : ¬ (state.dedup.isRecent item.alert item.nowMs = true) := by
        rw [recent]
        decide
      exact Or.inr ⟨rfl, if_neg old⟩

theorem Faithful.take {config : DeduplicatorConfig} {state next : DeliveryState} {item : TimedAlert}
    (faithful : Faithful config state) (taken : state.take item = some next) :
    Faithful config next := by
  rcases next with ⟨dedup, delivered⟩
  rcases take_cases taken with ⟨rfl, decided⟩
  refine ⟨(AlertDeduplicator.shouldSuppress_config _ _ _).trans faithful.config_eq,
    fun key stored found => ?_⟩
  rcases AlertDeduplicator.find?_shouldSuppress found with ⟨passed, rfl, rfl⟩ | ⟨old, unchanged⟩
  · rcases decided with ⟨suppressed, _⟩ | ⟨_, rfl⟩
    · rw [passed] at suppressed
      cases suppressed
    · exact ⟨item, by rw [lastDelivery_snoc, if_pos rfl], rfl⟩
  · rcases faithful.entries key stored old with ⟨fired, isLast, time⟩
    refine ⟨fired, ?_, time⟩
    rcases decided with ⟨_, rfl⟩ | ⟨passed, rfl⟩
    · exact isLast
    · have different : buildKey item.alert ≠ key := by
        rcases unchanged with suppressed | other
        · rw [passed] at suppressed
          cases suppressed
        · exact other.symm
      rw [lastDelivery_snoc, if_neg different]
      exact isLast

/-- Outside a gap, a delivered alert comes a window after the last delivery
of its key. -/
private theorem far_of_not_gap {config : DeduplicatorConfig} {state : DeliveryState}
    {item fired : TimedAlert} (faithful : Faithful config state) (noGap : ¬ state.FallsIntoGap item)
    (passed : state.dedup.isRecent item.alert item.nowMs = false)
    (isLast : state.lastDelivery (buildKey item.alert) = some fired) :
    fired.nowMs.toNat + (config.windowMs item.alert.ruleType).toNat ≤ item.nowMs.toNat := by
  cases found : state.dedup.lastFiredMs.find? (buildKey item.alert) with
  | none =>
      rw [← faithful.config_eq]
      apply Nat.le_of_not_lt
      intro near
      exact noGap ⟨found, fired, isLast, near⟩
  | some stored =>
      rcases faithful.entries _ stored found with ⟨other, alsoLast, rfl⟩
      rw [isLast] at alsoLast
      cases alsoLast
      rw [AlertDeduplicator.isRecent_eq, Throttle.blocked] at passed
      simp only [AlertDeduplicator.memory, DeduplicatorConfig.request, found, Option.map_some,
        decide_eq_false_iff_not, faithful.config_eq] at passed
      omega

private theorem Spaced.take {config : DeduplicatorConfig} {state next : DeliveryState}
    {item : TimedAlert} (faithful : Faithful config state) (spaced : Spaced config state.delivered)
    (noGap : ¬ state.FallsIntoGap item) (taken : state.take item = some next) :
    Spaced config next.delivered := by
  rcases (take_cases taken).2 with ⟨_, same⟩ | ⟨passed, grown⟩
  · rw [same]
    exact spaced
  · rw [grown]
    refine List.pairwise_append.mpr ⟨spaced, List.pairwise_singleton _ _, ?_⟩
    intro earlier member later isItem sameKey
    rw [List.mem_singleton.mp isItem] at sameKey ⊢
    rcases spaced.le_lastDelivery member with ⟨fired, isLast, bound⟩
    rw [sameKey] at isLast
    have far := far_of_not_gap faithful noGap passed isLast
    omega

/-- An alert that falls into a gap is delivered too early. -/
private theorem not_spaced_of_gap {config : DeduplicatorConfig} {state next : DeliveryState}
    {item : TimedAlert} (faithful : Faithful config state) (gap : state.FallsIntoGap item)
    (taken : state.take item = some next) :
    ¬ Spaced config next.delivered := by
  rcases gap with ⟨absent, fired, isLast, near⟩
  have passed : state.dedup.isRecent item.alert item.nowMs = false := by
    rw [AlertDeduplicator.isRecent, absent]
  rcases (take_cases taken).2 with ⟨suppressed, _⟩ | ⟨_, grown⟩
  · rw [passed] at suppressed
    cases suppressed
  · intro spaced
    rw [grown] at spaced
    rcases mem_of_lastDelivery isLast with ⟨member, sameKey⟩
    have far := (List.pairwise_append.mp spaced).2.2 fired member item List.mem_cons_self sameKey
    rw [faithful.config_eq] at near
    omega

/-- What has been delivered too early stays delivered. -/
private theorem not_spaced_take {config : DeduplicatorConfig} {state next : DeliveryState}
    {item : TimedAlert} (broken : ¬ Spaced config state.delivered)
    (taken : state.take item = some next) :
    ¬ Spaced config next.delivered := by
  rcases (take_cases taken).2 with ⟨_, same⟩ | ⟨_, grown⟩
  · rw [same]
    exact broken
  · rw [grown]
    exact fun spaced => broken (List.pairwise_append.mp spaced).1

theorem runActions_take (dedup : AlertDeduplicator) (delivered items : List TimedAlert) :
    Exists fun final => runActions take
      ⟨dedup, delivered⟩ items = some ⟨final, delivered ++ dedup.letThrough items⟩ := by
  induction items generalizing dedup delivered with
  | nil => exact ⟨dedup, by rw [AlertDeduplicator.letThrough, List.append_nil]; rfl⟩
  | cons item rest inductionHypothesis =>
      rcases inductionHypothesis (dedup.shouldSuppress item.alert item.nowMs).1
        (if (dedup.shouldSuppress item.alert item.nowMs).2 then delivered
          else delivered ++ [item]) with
        ⟨final, finished⟩
      refine ⟨final, finished.trans ?_⟩
      rw [AlertDeduplicator.letThrough]
      cases (dedup.shouldSuppress item.alert item.nowMs).2 <;> simp

private theorem noGap_of_spaced (config : DeduplicatorConfig) (items : List TimedAlert)
    (spaced : Spaced config ((AlertDeduplicator.create config).letThrough items)) :
    AllSteps take (fun state item => ¬ state.FallsIntoGap item)
      ⟨AlertDeduplicator.create config, []⟩ items := by
  rcases runActions_take (AlertDeduplicator.create config) [] items with ⟨final, finished⟩
  rw [List.nil_append] at finished
  have either := allSteps_or_violated take (fun state item => ¬ state.FallsIntoGap item)
    (Faithful config) (fun state => ¬ Spaced config state.delivered) (fun _ => True)
    (fun _ _ _ faithful _ taken => faithful.take taken)
    (fun _ _ _ faithful gap taken => not_spaced_of_gap faithful (Classical.not_not.mp gap) taken)
    (fun _ _ _ _ broken _ taken => not_spaced_take broken taken)
    (faithful_new config) (fun _ _ => trivial) finished
  exact either.resolve_right fun broken => broken spaced

/-- Whatever the clock does, the deliveries of a run are a window apart
exactly when no alert of the run falls into a gap. -/
theorem spaced_iff_noGap (config : DeduplicatorConfig) (items : List TimedAlert) :
    Spaced config ((AlertDeduplicator.create config).letThrough items) ↔
      AllSteps take (fun state item => ¬ state.FallsIntoGap item)
        ⟨AlertDeduplicator.create config, []⟩ items := by
  constructor
  · exact noGap_of_spaced config items
  · intro steps
    rcases runActions_take (AlertDeduplicator.create config) [] items with ⟨final, finished⟩
    rw [List.nil_append] at finished
    have both := invariant_of_allSteps take (fun state item => ¬ state.FallsIntoGap item)
      (fun state => Faithful config state ∧ Spaced config state.delivered)
      (fun _ _ _ holds noGap taken => ⟨holds.1.take taken, holds.2.take holds.1 noGap taken⟩)
      ⟨faithful_new config, List.Pairwise.nil⟩ steps finished
    exact both.2

/-- In the configuration of the programs: a governance alert, ninety-eight
alerts of another rule, one more of them two hours later, and the governance
alert again after the clock has been set back. -/
private def steppedBack : List TimedAlert :=
  ⟨AlertDeduplicator.sampleAlert "governance", 0⟩ ::
    (List.replicate 98 ⟨AlertDeduplicator.sampleAlert "approval", 0⟩ ++
      [⟨AlertDeduplicator.sampleAlert "approval", 7200000⟩,
        ⟨AlertDeduplicator.sampleAlert "governance", 1⟩])

theorem delivered_after_step_back :
    ¬ Spaced .production ((AlertDeduplicator.create .production).letThrough steppedBack) := by
  have delivered : (AlertDeduplicator.create .production).letThrough steppedBack =
      [⟨AlertDeduplicator.sampleAlert "governance", 0⟩,
        ⟨AlertDeduplicator.sampleAlert "approval", 0⟩,
        ⟨AlertDeduplicator.sampleAlert "approval", 7200000⟩,
        ⟨AlertDeduplicator.sampleAlert "governance", 1⟩] := by
    decide +kernel
  rw [delivered]
  intro spaced
  have apart := (List.pairwise_cons.mp spaced).1
    ⟨AlertDeduplicator.sampleAlert "governance", 1⟩ (by simp) rfl
  exact absurd apart (by decide)

/-- A clock that does not go back never meets a gap. -/
theorem noGap_of_monotone (config : DeduplicatorConfig) (items : List TimedAlert)
    (monotone : Throttle.Monotone config.request items) :
    AllSteps take (fun state item => ¬ state.FallsIntoGap item)
      ⟨AlertDeduplicator.create config, []⟩ items := by
  have spaced := Throttle.passing_spaced config.request (fun _ => none) items monotone
  rw [← AlertDeduplicator.letThrough_eq_passing config items monotone] at spaced
  exact noGap_of_spaced config items spaced

end DeliveryState

end Risk
end RiskSentinel
