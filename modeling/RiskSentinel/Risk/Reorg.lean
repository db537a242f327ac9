import RiskSentinel.Events.Normalize
import RiskSentinel.Risk.RiskEngine

namespace RiskSentinel
namespace Risk

open Foundation Events

/-!
# Logs removed by a reorganisation

A removed log should leave no trace.  The three rules that read the generic
payload see to it.  A governance event, a mint or burn and an oracle update
travel in payloads without the flag, and nothing behind `normalize` can tell
that they were removed.
-/

/-- The stored observations of a feed, one entry for each oracle rule. -/
def oracleBaseline (rules : List Rule) (feed : OracleFeedKey) : List (Option LastObservation) :=
  rules.filterMap fun rule =>
    match rule with
    | .oracleUpdate inner => some (inner.lastByFeed.find? feed)
    | _ => none

/-- Showing the signal to the six rules raises no alert and leaves the oracle
baseline alone. -/
def Inert (signal : Signal) (tables : RuleTables)
    (lastByFeed : Table OracleFeedKey LastObservation) : Prop :=
  let engine := RiskEngine.ofRules (tables.rulesWith lastByFeed)
  (engine.processSignal signal).2 = [] ∧
    forall feed, oracleBaseline
      (engine.processSignal signal).1.rules feed = oracleBaseline engine.rules feed

/-- A signal that no rule reacts to is inert. -/
private theorem inert_of_silent {signal : Signal} (tables : RuleTables)
    (lastByFeed : Table OracleFeedKey LastObservation)
    (silent : forall rule : Rule, rule.signalType = signal.type ->
      rule.evaluate signal = (rule, [])) :
    Inert signal tables lastByFeed := by
  have unchanged : forall rule : Rule, RiskEngine.stepRule signal rule = rule ∧
      RiskEngine.ruleAlerts signal rule = [] := by
    intro rule
    rw [RiskEngine.stepRule, RiskEngine.ruleAlerts, Rule.interestedIn_eq]
    by_cases asked : signal.type = rule.signalType
    · simp [asked, silent rule asked.symm]
    · simp [asked]
  unfold Inert
  refine ⟨?_, fun feed => ?_⟩
  · rw [RiskEngine.processSignal_alerts]
    exact List.flatMap_eq_nil_iff.mpr fun rule _ => (unchanged rule).2
  · rw [RiskEngine.processSignal_rules]
    have same : forall rules : List Rule, rules.map (RiskEngine.stepRule signal) = rules := by
      intro rules
      exact List.map_id'' (fun rule => (unchanged rule).1) rules
    rw [same]

/-- Every rule ignores the generic payload of a removed log. -/
theorem evaluate_removed (rule : Rule) {signal : Signal} {evm : EvmLogEvent}
    (payload : signal.payload = .evmLog evm) (removed : evm.removed = true) :
    rule.evaluate signal = (rule, []) := by
  have noAmount : lacksAmount evm = true := by simp [lacksAmount, removed]
  cases rule with
  | largeTransfer inner => simp [Rule.evaluate, LargeTransferRule.evaluate, payload, noAmount]
  | governance inner => simp [Rule.evaluate, GovernanceRule.evaluate, payload]
  | mintBurn inner => simp [Rule.evaluate, MintBurnRule.evaluate, payload]
  | approval inner => simp [Rule.evaluate, ApprovalRule.evaluate, payload, noAmount]
  | bridgeTransfer inner => simp [Rule.evaluate, BridgeTransferRule.evaluate, payload, noAmount]
  | oracleUpdate inner => simp [Rule.evaluate, OracleUpdateRule.evaluate, payload]

/-- The decoded log ends in a payload that cannot say it was removed, and
that some rule acts upon. -/
def ActsThoughRemoved (evm : EvmLogEvent) : Prop :=
  IsGovernanceLog evm ∨
    (IsMintBurnLog evm ∧ (evm.topics 1).isZero ≠ (evm.topics 2).isZero) ∨
    (IsOracleLog evm ∧ OracleUpdateRule.isAccepted (evm.topics 1) = true)

/-- A signal with the payload that `classify` gives. -/
def Classified (signal : Signal) (evm : EvmLogEvent) : Prop :=
  signal.type = (classify evm).1 ∧ signal.payload = (classify evm).2

theorem inert_of_not_acts {signal : Signal} {evm : EvmLogEvent} (classified : Classified signal evm)
    (removed : evm.removed = true) (quiet : ¬ ActsThoughRemoved evm) (tables : RuleTables)
    (lastByFeed : Table OracleFeedKey LastObservation) : Inert signal tables lastByFeed := by
  apply inert_of_silent
  intro rule asked
  rcases classified with ⟨type, payload⟩
  rcases classify_cases evm with ⟨isGovernance, _⟩ | ⟨isMintBurn, result⟩ | ⟨isOracle, result⟩
    | ⟨_, _, _, result⟩
  · exact absurd (Or.inl isGovernance) quiet
  · rw [result] at type payload
    have undirected : (mintBurnEvent evm (evm.topics 1).isZero (evm.topics 2).isZero).direction =
        .unknown := by
      have same : (evm.topics 1).isZero = (evm.topics 2).isZero :=
        Classical.byContradiction fun different => quiet (Or.inr (Or.inl ⟨isMintBurn, different⟩))
      have one := isMintBurn.2.2.2
      rw [same, or_self] at one
      simp [mintBurnEvent, same, one]
    rw [type] at asked
    cases rule with
    | mintBurn inner =>
        rw [Rule.evaluate, inner.evaluate_mintBurn type payload]
        simp [MintBurnRule.isAlert, undirected]
    | _ => cases asked
  · rw [result] at type payload
    have rejected : OracleUpdateRule.isAccepted (oracleUpdateEvent evm).currentAnswer = false := by
      rw [Bool.eq_false_iff]
      exact fun accepted => quiet (Or.inr (Or.inr ⟨isOracle, accepted⟩))
    rw [type] at asked
    cases rule with
    | oracleUpdate inner =>
        rw [Rule.evaluate, inner.evaluate_oracleUpdate type payload, rejected]
        cases inner.configsByFeed.find? (OracleUpdateRule.feedKey (oracleUpdateEvent evm)) <;> rfl
    | _ => cases asked
  · rw [result] at payload
    exact evaluate_removed rule payload removed

/-- An inert signal makes no registered rule raise an alert. -/
private theorem Inert.no_alert {signal : Signal} {tables : RuleTables}
    {lastByFeed : Table OracleFeedKey LastObservation}
    (inert : Inert signal tables lastByFeed) (rule : Rule)
    (registered : rule ∈ tables.rulesWith lastByFeed) (asked : signal.type = rule.signalType) :
    (rule.evaluate signal).2 = [] := by
  have silent := inert.1
  rw [RiskEngine.processSignal_alerts, RiskEngine.ofRules_rules, List.flatMap_eq_nil_iff] at silent
  have alerts := silent rule registered
  rw [RiskEngine.ruleAlerts, Rule.interestedIn_eq, if_pos (decide_eq_true asked)] at alerts
  exact alerts

/-- Tables in which one customer watches everything a log can report: any
governance action, any mint and burn, and the feed. -/
def RuleTables.watching (evm : EvmLogEvent) : RuleTables :=
  { RuleTables.empty with
    governanceRulesByContract :=
      Table.empty.assign { chainId := evm.chainId, contractAddress := bytesToHex evm.address }
        [{ customerId := 1, chainId := evm.chainId, contractAddress := bytesToHex evm.address,
           enabled := true, actionFilter := none }]
    mintBurnRulesByContract :=
      Table.empty.assign { chainId := evm.chainId, contractAddress := bytesToHex evm.address }
        [{ customerId := 1, chainId := evm.chainId, contractAddress := bytesToHex evm.address,
           mintThresholdBe := Bytes.zeros 32, burnThresholdBe := Bytes.zeros 32, enabled := true }]
    oracleConfigsByFeed :=
      Table.empty.assign { chainId := evm.chainId, aggregatorAddress := evm.address }
        [{ customerId := 1, chainId := evm.chainId, aggregatorAddress := evm.address,
           feedLabel := "", spikeThresholdBps := 0, decimals := 0, enabled := true }] }

private theorem zero_not_greater (amount : Bytes 32) :
    greaterBe256 (Bytes.zeros 32).bytes amount.bytes = false := by
  rw [greaterBe256_eq _ _ (by decide) (Nat.le_of_eq amount.size_eq.symm)]
  have zero : beNat ((Bytes.zeros 32).bytes.take 32) = 0 := by decide
  rw [zero]
  rfl

/-- An oracle update reaches the oracle rule and no other. -/
private theorem oracleBaseline_step {signal : Signal} (type : signal.type = .oracleUpdate)
    (tables : RuleTables) (lastByFeed : Table OracleFeedKey LastObservation)
    (feed : OracleFeedKey) :
    oracleBaseline ((tables.rulesWith lastByFeed).map (RiskEngine.stepRule signal)) feed =
      [(OracleUpdateRule.evaluate
        ⟨tables.oracleConfigsByFeed, lastByFeed⟩ signal).1.lastByFeed.find? feed] := by
  simp [RuleTables.rulesWith, oracleBaseline, RiskEngine.stepRule, Rule.interestedIn_eq, type,
    Rule.signalType,
    Rule.evaluate]

/-- Each kind of log that still acts does so for a customer who watches it. -/
theorem not_inert_of_acts {signal : Signal} {evm : EvmLogEvent} (classified : Classified signal evm)
    (acts : ActsThoughRemoved evm) : ¬ Inert signal (RuleTables.watching evm) Table.empty := by
  intro inert
  rcases classified with ⟨type, payload⟩
  rcases classify_cases evm with
    ⟨isGovernance, result⟩ | ⟨isMintBurn, result⟩ | ⟨isOracle, result⟩
      | ⟨notGovernance, notMintBurn, notOracle, _⟩
  · rw [result] at type payload
    have silent := inert.no_alert
      (.governance ⟨(RuleTables.watching evm).governanceRulesByContract⟩)
      (by simp [RuleTables.rulesWith]) type
    rw [Rule.evaluate, GovernanceRule.evaluate_governance _ type payload] at silent
    simp [RuleTables.watching, GovernanceRule.passesFilter] at silent
  · rw [result] at type payload
    have silent := inert.no_alert (.mintBurn ⟨(RuleTables.watching evm).mintBurnRulesByContract⟩)
      (by simp [RuleTables.rulesWith]) type
    rw [Rule.evaluate, MintBurnRule.evaluate_mintBurn _ type payload] at silent
    have different : (evm.topics 1).isZero ≠ (evm.topics 2).isZero := by
      rcases acts with isGovernance | ⟨_, different⟩ | ⟨isOracle, _⟩
      · exact absurd (isMintBurn.1.symm.trans isGovernance) (by decide)
      · exact different
      · exact absurd (isMintBurn.1.symm.trans isOracle.1) (by decide)
    cases fromZero : (evm.topics 1).isZero <;> cases toZero : (evm.topics 2).isZero <;>
      simp [fromZero, toZero, RuleTables.watching, MintBurnRule.isAlert, mintBurnEvent,
        zero_not_greater] at silent different
  · rw [result] at type payload
    have accepted : OracleUpdateRule.isAccepted (oracleUpdateEvent evm).currentAnswer = true := by
      rcases acts with isGovernance | ⟨isMintBurn, _⟩ | ⟨_, accepted⟩
      · exact absurd (isOracle.1.symm.trans isGovernance) (by decide)
      · exact absurd (isOracle.1.symm.trans isMintBurn.1) (by decide)
      · exact accepted
    have configured : (RuleTables.watching evm).oracleConfigsByFeed.find?
        (OracleUpdateRule.feedKey (oracleUpdateEvent evm)) ≠ none := by
      simp [RuleTables.watching, OracleUpdateRule.feedKey, oracleUpdateEvent]
    have baseline := inert.2 (OracleUpdateRule.feedKey (oracleUpdateEvent evm))
    rw [RiskEngine.processSignal_rules, RiskEngine.ofRules_rules, oracleBaseline_step type]
      at baseline
    rcases Option.ne_none_iff_exists'.mp configured with ⟨bucket, found⟩
    rw [OracleUpdateRule.evaluate_oracleUpdate _ type payload] at baseline
    simp [found, accepted, oracleBaseline, RuleTables.rulesWith] at baseline
  · rcases acts with isGovernance | ⟨isMintBurn, _⟩ | ⟨isOracle, _⟩
    · exact notGovernance isGovernance
    · exact notMintBurn isMintBurn
    · exact notOracle isOracle

/-- A removed log is inert for every chain, all tables and every state of the
oracle rule exactly when `normalize` rejects it, or it is neither a governance
event, nor a transfer with an amount from or to the zero word but not both,
nor an oracle update with an answer the oracle rule accepts. -/
theorem removed_log_inert_iff (raw : RawLog) (removed : raw.removed = true) :
    (forall chainId blockTimestamp scratch signal,
      normalize raw chainId blockTimestamp scratch = .ok signal ->
        forall tables lastByFeed, Inert signal tables lastByFeed) ↔
      (isNormalizable raw = true ->
        forall chainId evm, decodeEvmLog raw chainId = .ok evm -> ¬ ActsThoughRemoved evm) := by
  constructor
  · intro inert accepted chainId evm decoded acts
    have succeeds := normalize_isOk raw chainId 0 (Bytes.zeros 32)
    rw [accepted] at succeeds
    cases normalized : normalize raw chainId 0 (Bytes.zeros 32) with
    | error message =>
        rw [normalized] at succeeds
        cases succeeds
    | ok signal =>
        rcases normalize_ok normalized with ⟨other, otherDecoded, type, payload, _⟩
        have same : other = evm := Except.ok.inj (otherDecoded.symm.trans decoded)
        rw [same] at type payload
        exact not_inert_of_acts ⟨type, payload⟩ acts (inert chainId 0 _ signal normalized _ _)
  · intro quiet chainId blockTimestamp scratch signal normalized tables lastByFeed
    have accepted : isNormalizable raw = true := by
      rw [← normalize_isOk raw chainId blockTimestamp scratch, normalized]
      rfl
    rcases normalize_ok normalized with ⟨evm, decoded, type, payload, _⟩
    have stillRemoved : evm.removed = true := (decodeEvmLog_ok decoded).removed.trans removed
    exact inert_of_not_acts ⟨type, payload⟩ stillRemoved
      (quiet accepted chainId evm decoded) tables lastByFeed

/-- A removed log with the given first topic and no other. -/
def removedLog (topic0 : String) : RawLog where
  address := "0x00000000000000000000000000000000000000aa"
  topics := [topic0]
  data := "0x"
  blockNumber := "0x1"
  transactionHash := "0x00000000000000000000000000000000000000000000000000000000000000bb"
  logIndex := "0x0"
  transactionIndex := "0x0"
  removed := true

/-- A removed transfer is accepted, and inert. -/
theorem removed_transfer_inert :
    isNormalizable
        (removedLog "0xddf252ad1be2c89b69c2b068fc378daa952ba7f163c4a11628f55a4df523b3ef") = true ∧
      forall chainId blockTimestamp scratch signal,
        normalize (removedLog "0xddf252ad1be2c89b69c2b068fc378daa952ba7f163c4a11628f55a4df523b3ef")
          chainId blockTimestamp scratch = .ok signal ->
        forall tables lastByFeed, Inert signal tables lastByFeed := by
  refine ⟨by decide +kernel,
    (removed_log_inert_iff (removedLog _) rfl).mpr fun _ chainId evm decoded acts => ?_⟩
  have facts := decodeEvmLog_ok decoded
  have count : evm.topicCount = 1 := facts.topicCount
  rcases facts.topics with ⟨topics, parsed, each⟩
  have only : topics = [topicTransfer] :=
    Except.ok.inj (parsed.symm.trans (by decide +kernel))
  have type : topicType evm = .transfer := by
    rw [topicType, count, each 0, only]
    decide +kernel
  rcases acts with isGovernance | ⟨isMintBurn, _⟩ | ⟨isOracle, _⟩
  · exact absurd (type.symm.trans isGovernance) (by decide)
  · exact absurd isMintBurn.2.1 (by rw [count]; decide)
  · exact absurd isOracle.2.1 (by rw [count]; decide)

/-- A `Paused` event that the node reports as removed still raises an alert
for a customer who watches the contract. -/
theorem removed_pause_not_inert :
    ¬ forall chainId blockTimestamp scratch signal,
      normalize (removedLog "0x62e78cea01bee320cd4e420270b5ea74000d11b0c9f74754ebdbfc544b05a258")
        chainId blockTimestamp scratch = .ok signal ->
      forall tables lastByFeed, Inert signal tables lastByFeed := by
  intro inert
  have accepted : (normalize
      (removedLog "0x62e78cea01bee320cd4e420270b5ea74000d11b0c9f74754ebdbfc544b05a258")
      1 0 (Bytes.zeros 32)).isOk = true := by
    decide +kernel
  cases normalized : normalize
    (removedLog "0x62e78cea01bee320cd4e420270b5ea74000d11b0c9f74754ebdbfc544b05a258")
      1 0 (Bytes.zeros 32) with
  | error message =>
      rw [normalized] at accepted
      cases accepted
  | ok signal =>
      rcases normalize_ok normalized with ⟨evm, decoded, type, payload, _⟩
      have facts := decodeEvmLog_ok decoded
      rcases facts.topics with ⟨topics, parsed, each⟩
      have only : topics = [topicPaused] := Except.ok.inj (parsed.symm.trans (by decide +kernel))
      have isGovernance : IsGovernanceLog evm := by
        rw [IsGovernanceLog, topicType, facts.topicCount, each 0, only]
        decide +kernel
      exact not_inert_of_acts ⟨type, payload⟩ (Or.inl isGovernance)
        (inert 1 0 _ signal normalized _ _)

end Risk
end RiskSentinel
