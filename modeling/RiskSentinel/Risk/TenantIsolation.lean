import Mathlib.Data.List.Forall2
import RiskSentinel.Risk.AlertDeduplicator
import RiskSentinel.Risk.OracleRuns
import RiskSentinel.Risk.RiskEngine

namespace RiskSentinel
namespace Risk

open Foundation Events

/-!
# Customers do not see each other

All customers share the rule objects, the observations of the oracle rule, the
deduplicator's map and the counter that triggers its clean-up.  What one of
them receives is nevertheless a function of that customer's own entries.  The
proof runs the program twice, once with all entries and once with one
customer's, and relates the two at every signal.
-/

/-- The alerts of one customer. -/
def belongsTo (customer : UInt64) (alert : Alert) : Bool :=
  alert.customerId == customer

/-! ## Restricted tables -/

/-- One customer's entries of every bucket.  A bucket without any is not
there, as if it had never been loaded. -/
def restrictBuckets {K Config : Type} (customerOf : Config -> UInt64) (customer : UInt64)
    (table : Table K (List Config)) : Table K (List Config) :=
  table.filterMap fun _ bucket =>
    if (bucket.filter fun config => customerOf config == customer).isEmpty then none
    else some (bucket.filter fun config => customerOf config == customer)

theorem find?_restrictBuckets {K Config : Type} [DecidableEq K] (customerOf : Config -> UInt64)
    (customer : UInt64) (table : Table K (List Config)) (key : K) :
    ((restrictBuckets customerOf customer table).find? key).getD [] =
      ((table.find? key).getD []).filter fun config => customerOf config == customer := by
  rw [restrictBuckets, Table.find?_filterMap]
  cases table.find? key with
  | none => rfl
  | some bucket =>
      simp only [Option.bind_some, Option.getD_some]
      split
      · rename_i empty
        exact (List.isEmpty_iff.mp empty).symm
      · rfl

def RuleTables.restrictTo (tables : RuleTables) (customer : UInt64) : RuleTables where
  largeTransferConfigs := tables.largeTransferConfigs.filter fun config =>
    config.customerId == customer
  governanceRulesByContract :=
    restrictBuckets GovernanceRuleConfig.customerId customer tables.governanceRulesByContract
  mintBurnRulesByContract :=
    restrictBuckets MintBurnRuleConfig.customerId customer tables.mintBurnRulesByContract
  approvalRulesByContract :=
    restrictBuckets ApprovalRuleConfig.customerId customer tables.approvalRulesByContract
  bridgeConfigsByKey :=
    restrictBuckets BridgeRuleConfig.customerId customer tables.bridgeConfigsByKey
  bridges := tables.bridges
  oracleConfigsByFeed :=
    restrictBuckets OracleRuleConfig.customerId customer tables.oracleConfigsByFeed

/-- A selection whose alerts go to the customers of its entries can be
restricted before or after. -/
theorem filter_selection {Config : Type} (customerOf : Config -> UInt64) (customer : UInt64)
    (selected : Config -> Prop) [DecidablePred selected] (made : Config -> Alert)
    (owned : forall config, (made config).customerId = customerOf config) (configs : List Config) :
    (configs.filterMap fun config => if selected config then some (made config) else none).filter
        (belongsTo customer) =
      (configs.filter fun config => customerOf config == customer).filterMap fun config =>
        if selected config then some (made config) else none := by
  induction configs with
  | nil => rfl
  | cons config rest inductionHypothesis =>
      have owner : belongsTo customer (made config) = (customerOf config == customer) := by
        rw [belongsTo, owned config]
      by_cases holds : selected config <;> cases own : customerOf config == customer <;>
        simp only [List.filterMap_cons, List.filter_cons, holds, own, owner, inductionHypothesis,
          if_true, if_false,
          Bool.false_eq_true]

/-! ## Two runs, rule by rule -/

/-- The second rule is the first with one customer's entries.  Of the oracle
rule's observations only those of the customer's own feeds have to agree. -/
inductive RestrictsTo (customer : UInt64) : Rule -> Rule -> Prop where
  | largeTransfer (configs : List LargeTransferRuleConfig) :
      RestrictsTo customer (.largeTransfer ⟨configs⟩)
        (.largeTransfer ⟨configs.filter fun config => config.customerId == customer⟩)
  | governance (table : Table GovernanceContractKey (List GovernanceRuleConfig)) :
      RestrictsTo customer (.governance ⟨table⟩)
        (.governance ⟨restrictBuckets GovernanceRuleConfig.customerId customer table⟩)
  | mintBurn (table : Table MintBurnContractKey (List MintBurnRuleConfig)) :
      RestrictsTo customer (.mintBurn ⟨table⟩)
        (.mintBurn ⟨restrictBuckets MintBurnRuleConfig.customerId customer table⟩)
  | approval (table : Table ApprovalContractKey (List ApprovalRuleConfig)) :
      RestrictsTo customer (.approval ⟨table⟩)
        (.approval ⟨restrictBuckets ApprovalRuleConfig.customerId customer table⟩)
  | bridgeTransfer (table : Table BridgeRuleKey (List BridgeRuleConfig))
      (registry : BridgeRegistry) :
      RestrictsTo customer (.bridgeTransfer ⟨table, registry⟩)
        (.bridgeTransfer ⟨restrictBuckets BridgeRuleConfig.customerId customer table, registry⟩)
  | oracleUpdate (table : Table OracleFeedKey (List OracleRuleConfig))
      (fullLast ownLast : Table OracleFeedKey LastObservation)
      (agree : forall feed,
        ((restrictBuckets OracleRuleConfig.customerId customer table).find? feed).isSome = true ->
        fullLast.find? feed = ownLast.find? feed) :
      RestrictsTo customer (.oracleUpdate ⟨table, fullLast⟩)
        (.oracleUpdate ⟨restrictBuckets OracleRuleConfig.customerId customer table, ownLast⟩)

theorem RestrictsTo.signalType_eq {customer : UInt64} {full own : Rule}
    (restricts : RestrictsTo customer full own) : own.signalType = full.signalType := by
  cases restricts <;> rfl

private theorem largeTransfer_restricted (customer : UInt64)
    (configs : List LargeTransferRuleConfig) (signal : Signal) :
    LargeTransferRule.evaluate ⟨configs.filter fun config => config.customerId == customer⟩ signal =
      (LargeTransferRule.evaluate ⟨configs⟩ signal).filter (belongsTo customer) := by
  cases payload : signal.payload with
  | evmLog evm =>
      cases readable : lacksAmount evm with
      | true => simp [LargeTransferRule.evaluate, payload, readable]
      | false =>
          rw [LargeTransferRule.evaluate_evmLog _ payload readable,
            LargeTransferRule.evaluate_evmLog _ payload readable,
            filter_selection LargeTransferRuleConfig.customerId]
          exact fun _ => rfl
  | _ => simp [LargeTransferRule.evaluate, payload]

private theorem governance_restricted (customer : UInt64)
    (table : Table GovernanceContractKey (List GovernanceRuleConfig)) (signal : Signal) :
    GovernanceRule.evaluate
        ⟨restrictBuckets GovernanceRuleConfig.customerId customer table⟩ signal =
      (GovernanceRule.evaluate ⟨table⟩ signal).filter (belongsTo customer) := by
  by_cases type : signal.type = .governance
  · cases payload : signal.payload with
    | governance event =>
        rw [GovernanceRule.evaluate_governance _ type payload,
          GovernanceRule.evaluate_governance _ type payload,
          find?_restrictBuckets, filter_selection GovernanceRuleConfig.customerId]
        exact fun _ => rfl
    | _ => simp [GovernanceRule.evaluate, payload]
  · simp [GovernanceRule.evaluate, type]

private theorem mintBurn_restricted (customer : UInt64)
    (table : Table MintBurnContractKey (List MintBurnRuleConfig)) (signal : Signal) :
    MintBurnRule.evaluate ⟨restrictBuckets MintBurnRuleConfig.customerId customer table⟩ signal =
      (MintBurnRule.evaluate ⟨table⟩ signal).filter (belongsTo customer) := by
  by_cases type : signal.type = .mintBurn
  · cases payload : signal.payload with
    | mintBurn event =>
        rw [MintBurnRule.evaluate_mintBurn _ type payload,
          MintBurnRule.evaluate_mintBurn _ type payload,
          find?_restrictBuckets, filter_selection MintBurnRuleConfig.customerId]
        exact fun _ => rfl
    | _ => simp [MintBurnRule.evaluate, payload]
  · simp [MintBurnRule.evaluate, type]

private theorem approval_restricted (customer : UInt64)
    (table : Table ApprovalContractKey (List ApprovalRuleConfig)) (signal : Signal) :
    ApprovalRule.evaluate ⟨restrictBuckets ApprovalRuleConfig.customerId customer table⟩ signal =
      (ApprovalRule.evaluate ⟨table⟩ signal).filter (belongsTo customer) := by
  by_cases type : signal.type = .approval
  · cases payload : signal.payload with
    | evmLog evm =>
        cases readable : lacksAmount evm with
        | true => simp [ApprovalRule.evaluate, payload, readable]
        | false =>
            rw [ApprovalRule.evaluate_evmLog _ type payload readable,
              ApprovalRule.evaluate_evmLog _ type payload readable,
              find?_restrictBuckets, filter_selection ApprovalRuleConfig.customerId]
            exact fun _ => rfl
    | _ => simp [ApprovalRule.evaluate, payload]
  · simp [ApprovalRule.evaluate, type]

private theorem bridgeTransfer_restricted (customer : UInt64)
    (table : Table BridgeRuleKey (List BridgeRuleConfig)) (registry : BridgeRegistry)
    (signal : Signal) :
    BridgeTransferRule.evaluate
        ⟨restrictBuckets BridgeRuleConfig.customerId customer table, registry⟩ signal =
      (BridgeTransferRule.evaluate ⟨table, registry⟩ signal).filter (belongsTo customer) := by
  by_cases type : signal.type = .transfer
  · cases payload : signal.payload with
    | evmLog evm =>
        cases readable : lacksAmount evm with
        | true => simp [BridgeTransferRule.evaluate, payload, readable]
        | false =>
            rw [BridgeTransferRule.evaluate_evmLog _ type payload readable,
              BridgeTransferRule.evaluate_evmLog _ type payload readable,
              find?_restrictBuckets, filter_selection BridgeRuleConfig.customerId]
            exact fun _ => rfl
    | _ => simp [BridgeTransferRule.evaluate, payload]
  · simp [BridgeTransferRule.evaluate, type]

private theorem compareWithLast_restricted (customer : UInt64) (last : Option LastObservation)
    (bucket : List OracleRuleConfig) (event : OracleUpdateEvent) (timestampMs : UInt64) :
    OracleUpdateRule.compareWithLast last
        (bucket.filter fun config => config.customerId == customer) event timestampMs =
      (OracleUpdateRule.compareWithLast last bucket event timestampMs).filter
      (belongsTo customer) := by
  unfold OracleUpdateRule.compareWithLast
  cases last with
  | none => rfl
  | some observed =>
      dsimp only
      split
      · rfl
      · rw [OracleUpdateRule.spikeAlerts_eq, OracleUpdateRule.spikeAlerts_eq,
          filter_selection OracleRuleConfig.customerId]
        exact fun _ => rfl

private theorem compareWithLast_nil (last : Option LastObservation) (event : OracleUpdateEvent)
    (timestampMs : UInt64) : OracleUpdateRule.compareWithLast last [] event timestampMs = [] := by
  unfold OracleUpdateRule.compareWithLast OracleUpdateRule.spikeAlerts
  cases last with
  | none => rfl
  | some observed =>
      dsimp only
      split <;> rfl

/-- The oracle rules of the two runs agree on the customer's alerts, and
afterwards still on the customer's feeds. -/
private theorem oracleUpdate_restricted (customer : UInt64)
    (table : Table OracleFeedKey (List OracleRuleConfig))
    (fullLast ownLast : Table OracleFeedKey LastObservation)
    (agree : forall feed,
    ((restrictBuckets OracleRuleConfig.customerId customer table).find? feed).isSome = true ->
      fullLast.find? feed = ownLast.find? feed) (signal : Signal) :
    let full := OracleUpdateRule.evaluate ⟨table, fullLast⟩ signal
    let own := OracleUpdateRule.evaluate
      ⟨restrictBuckets OracleRuleConfig.customerId customer table, ownLast⟩ signal
    RestrictsTo customer (.oracleUpdate full.1) (.oracleUpdate own.1) ∧
      own.2 = full.2.filter (belongsTo customer) := by
  intro full own
  have buckets := find?_restrictBuckets OracleRuleConfig.customerId customer table
  rcases OracleUpdateRule.evaluate_cases ⟨table, fullLast⟩ signal with
    ⟨fullResult, unknown⟩ | ⟨event, bucket, observed, found, fullResult⟩
  · rcases OracleUpdateRule.evaluate_cases
      ⟨restrictBuckets OracleRuleConfig.customerId customer table, ownLast⟩ signal with
      ⟨ownResult, _⟩ | ⟨event, bucket, observed, found, _⟩
    · simp only [full, own, fullResult, ownResult]
      exact ⟨.oracleUpdate table fullLast ownLast agree, rfl⟩
    · -- A feed of the restricted table is a feed of the full one.
      have missing : table.find? (OracleUpdateRule.feedKey event) = none := unknown event observed
      change (restrictBuckets OracleRuleConfig.customerId customer table).find? _ = _ at found
      rw [restrictBuckets, Table.find?_filterMap, missing] at found
      cases found
  · change table.find? _ = _ at found
    have owned := buckets (OracleUpdateRule.feedKey event)
    rw [found] at owned
    rcases OracleUpdateRule.evaluate_cases
      ⟨restrictBuckets OracleRuleConfig.customerId customer table, ownLast⟩ signal with
      ⟨ownResult, unknown⟩ | ⟨sameEvent, ownBucket, ownObserved, ownFound, ownResult⟩
    · -- Not a feed of the customer: the other customers' baseline moves alone.
      have missing : (restrictBuckets OracleRuleConfig.customerId customer table).find?
          (OracleUpdateRule.feedKey event) = none := unknown event observed
      rw [missing] at owned
      have noneOwned : (bucket.filter fun config => config.customerId == customer) = [] :=
        owned.symm
      simp only [full, own, fullResult, ownResult]
      rw [← compareWithLast_restricted, noneOwned]
      refine ⟨.oracleUpdate _ _ _ fun feed configured => ?_, (compareWithLast_nil _ _ _).symm⟩
      have different : feed ≠ OracleUpdateRule.feedKey event := by
        intro same
        rw [same, missing] at configured
        cases configured
      rw [Table.find?_assign, if_neg different]
      exact agree feed configured
    · rw [observed] at ownObserved
      cases ownObserved
      change (restrictBuckets OracleRuleConfig.customerId customer table).find? _ = _ at ownFound
      rw [ownFound] at owned
      simp only [full, own, fullResult, ownResult]
      rw [← compareWithLast_restricted, agree (OracleUpdateRule.feedKey event)
        (by rw [ownFound]; rfl)]
      refine ⟨.oracleUpdate _ _ _ fun feed configured => ?_, congrArg
        (fun configs =>
          OracleUpdateRule.compareWithLast _ configs event signal.signalMeta.timestampMs) owned⟩
      rw [Table.find?_assign, Table.find?_assign, agree feed configured]

/-- One signal keeps the two runs related and gives the customer the same
alerts in both. -/
theorem RestrictsTo.step {customer : UInt64} {full own : Rule}
    (restricts : RestrictsTo customer full own) (signal : Signal) :
    RestrictsTo customer (RiskEngine.stepRule signal full) (RiskEngine.stepRule signal own) ∧
      RiskEngine.ruleAlerts signal own = (RiskEngine.ruleAlerts signal full).filter
        (belongsTo customer) := by
  unfold RiskEngine.stepRule RiskEngine.ruleAlerts
  rw [Rule.interestedIn_eq, Rule.interestedIn_eq, restricts.signalType_eq]
  by_cases asked : signal.type = full.signalType
  · rw [if_pos (decide_eq_true asked), if_pos (decide_eq_true asked), if_pos (decide_eq_true asked),
      if_pos (decide_eq_true asked)]
    cases restricts with
    | largeTransfer configs =>
        exact ⟨.largeTransfer configs, largeTransfer_restricted customer configs signal⟩
    | governance table => exact ⟨.governance table, governance_restricted customer table signal⟩
    | mintBurn table => exact ⟨.mintBurn table, mintBurn_restricted customer table signal⟩
    | approval table => exact ⟨.approval table, approval_restricted customer table signal⟩
    | bridgeTransfer table registry =>
        exact ⟨.bridgeTransfer table registry,
          bridgeTransfer_restricted customer table registry signal⟩
    | oracleUpdate table fullLast ownLast agree =>
        exact oracleUpdate_restricted customer table fullLast ownLast agree signal
  · rw [if_neg (by simp [asked]), if_neg (by simp [asked]), if_neg (by simp [asked]),
      if_neg (by simp [asked])]
    exact ⟨restricts, rfl⟩

private theorem step_all {customer : UInt64} {full own : List Rule} (signal : Signal)
    (restricts : List.Forall₂ (RestrictsTo customer) full own) :
    List.Forall₂ (RestrictsTo customer) (full.map (RiskEngine.stepRule signal))
        (own.map (RiskEngine.stepRule signal)) ∧
      own.flatMap (RiskEngine.ruleAlerts signal) =
        (full.flatMap (RiskEngine.ruleAlerts signal)).filter (belongsTo customer) := by
  induction restricts with
  | nil => exact ⟨.nil, rfl⟩
  | cons head _ inductionHypothesis =>
      refine ⟨.cons (head.step signal).1 inductionHypothesis.1, ?_⟩
      rw [List.flatMap_cons, List.flatMap_cons, List.filter_append, (head.step signal).2,
        inductionHypothesis.2]

/-- Over any sequence of signals the restricted run raises exactly the
customer's alerts. -/
theorem processAll_restricted {customer : UInt64} (signals : List Signal) (full own : RiskEngine)
    (restricts : List.Forall₂ (RestrictsTo customer) full.rules own.rules) :
    (own.processAll signals).2 = (full.processAll signals).2.filter (belongsTo customer) := by
  induction signals generalizing full own with
  | nil => rfl
  | cons signal rest inductionHypothesis =>
      have stepped := step_all signal restricts
      have others := inductionHypothesis (full.processSignal signal).1
        (own.processSignal signal).1 (by
        rw [RiskEngine.processSignal_rules, RiskEngine.processSignal_rules]
        exact stepped.1)
      simp only [RiskEngine.processAll, others, RiskEngine.processSignal_alerts, stepped.2,
        List.filter_append]

theorem registerRules_restricted (tables : RuleTables) (customer : UInt64) :
    List.Forall₂ (RestrictsTo customer) tables.registerRules
      (tables.restrictTo customer).registerRules :=
  .cons (.largeTransfer _) (.cons (.governance _) (.cons (.mintBurn _) (.cons (.approval _)
    (.cons (.bridgeTransfer _ _) (.cons (.oracleUpdate _ _ _ fun _ _ => rfl) .nil)))))

/-! ## What a customer receives -/

/-- The alerts of a sequence of signals under the given tables. -/
def generatedAlerts (tables : RuleTables) (signals : List Signal) : List Alert :=
  ((RiskEngine.ofRules tables.registerRules).processAll signals).2

private theorem map_zipWith_nowMs (alerts : List Alert) (times : List UInt64)
    (assigned : times.length = alerts.length) :
    (List.zipWith TimedAlert.mk alerts times).map TimedAlert.nowMs = times := by
  induction alerts generalizing times with
  | nil => exact (List.length_eq_zero_iff.mp assigned).symm
  | cons alert rest inductionHypothesis =>
      cases times with
      | nil => cases assigned
      | cons time later => simp [inductionHypothesis later (Nat.succ.inj assigned)]

private theorem map_filter_zipWith (alerts : List Alert) (times : List UInt64)
    (assigned : times.length = alerts.length) (customer : UInt64) :
    ((List.zipWith TimedAlert.mk alerts times).filter fun item =>
        belongsTo customer item.alert).map TimedAlert.alert =
      alerts.filter (belongsTo customer) := by
  induction alerts generalizing times with
  | nil => rfl
  | cons alert rest inductionHypothesis =>
      cases times with
      | nil => cases assigned
      | cons time later =>
          have others := inductionHypothesis later (Nat.succ.inj assigned)
          rw [List.zipWith_cons_cons, List.filter_cons, List.filter_cons]
          split
          · rw [List.map_cons, others]
          · exact others

/-- Tenant isolation.  At any nondecreasing dispatch times a customer receives
what the same customer would receive alone, with that customer's entries, the
shared bridge registry and the same times, however often either deduplicator
cleans up. -/
theorem customer_receives_own_alerts_only (tables : RuleTables)
    (config : DeduplicatorConfig) (cleanup : Nat) (signals : List Signal) (customer : UInt64)
    (times : List UInt64) (assigned : times.length = (generatedAlerts tables signals).length)
    (nondecreasing : times.Pairwise (· ≤ ·)) :
    let timed := List.zipWith TimedAlert.mk (generatedAlerts tables signals) times
    let own := timed.filter fun item => belongsTo customer item.alert
    own.map TimedAlert.alert = generatedAlerts (tables.restrictTo customer) signals ∧
      (AlertDeduplicator.letThrough (.create config) timed).filter
      (fun item => belongsTo customer item.alert) =
        AlertDeduplicator.letThrough
          (.create { config with cleanupEveryNAlerts := cleanup }) own := by
  intro timed own
  have monotone : Throttle.Monotone config.request timed := by
    have clock : timed.map TimedAlert.nowMs = times := map_zipWith_nowMs _ times assigned
    rw [← clock, List.pairwise_map] at nondecreasing
    exact nondecreasing.imp fun order => UInt64.le_iff_toNat_le.mp order
  constructor
  · have related : List.Forall₂ (RestrictsTo customer)
        (RiskEngine.ofRules tables.registerRules).rules
        (RiskEngine.ofRules (tables.restrictTo customer).registerRules).rules := by
      rw [RiskEngine.ofRules_rules, RiskEngine.ofRules_rules]
      exact registerRules_restricted tables customer
    exact (map_filter_zipWith _ times assigned customer).trans
      (processAll_restricted signals _ _ related).symm
  · have ownMonotone : Throttle.Monotone config.request own :=
      List.Pairwise.sublist List.filter_sublist monotone
    rw [AlertDeduplicator.letThrough_eq_passing config timed monotone,
      AlertDeduplicator.letThrough_eq_passing
        { config with cleanupEveryNAlerts := cleanup } own ownMonotone]
    refine Throttle.passing_filter config.request
      (fun item => belongsTo customer item.alert) ?_ timed _ _ (fun _ _ => rfl)
    intro first second sameKey
    rw [belongsTo, belongsTo, customerId_of_buildKey sameKey]

/-- A contract that customers 1 and 2 both watch. -/
def sharedContract : RuleTables :=
  { RuleTables.empty with
    governanceRulesByContract := Table.empty.assign ⟨1, bytesToHex (Bytes.ofNat 20 0xaa)⟩
      [⟨1, 1, bytesToHex (Bytes.ofNat 20 0xaa), true, none⟩,
        ⟨2, 1, bytesToHex (Bytes.ofNat 20 0xaa), true, none⟩] }

def pauseSignal : Signal where
  type := .governance
  payload := .governance ⟨.paused, 1, Bytes.ofNat 20 0xaa⟩

/-- Both are alerted to a pause, and customer 1 as if customer 2 were not
there. -/
theorem customer_one_receives_own_alert :
    let timed := List.zipWith TimedAlert.mk (generatedAlerts sharedContract [pauseSignal]) [10, 20]
    let own := timed.filter fun item => belongsTo 1 item.alert
    own.length = 1 ∧ timed.length = 2 ∧
      (AlertDeduplicator.letThrough (.create .production) timed).filter
      (fun item => belongsTo 1 item.alert) =
        AlertDeduplicator.letThrough
          (.create { DeduplicatorConfig.production with cleanupEveryNAlerts := 1 }) own := by
  intro timed own
  refine ⟨by decide +kernel, by decide +kernel, ?_⟩
  exact (customer_receives_own_alerts_only sharedContract .production 1 [pauseSignal] 1 [10, 20]
    (by decide +kernel) (by decide)).2

end Risk
end RiskSentinel
