import RiskSentinel.Events.Normalize
import RiskSentinel.Risk.RiskEngine

namespace RiskSentinel
namespace Risk

open Foundation Events

/-!
# The amount rules decide on numbers

Four rules compare an amount with a threshold.  Between the raw log and their
alerts lie the decoding of hexadecimal text, the cut of the data at 256 bytes,
the classification by topic, the routing by masks, comparisons byte by byte
and two conversions between bytes and decimal text.  This module states what
all of it comes to: a table of conditions on the topics of the log and on the
number in its first data word.
-/

namespace AmountRules

/-- The number that a threshold's configured text spells. -/
def thresholdValue (texts : Bytes 32 -> String) (threshold : Bytes 32) : Nat :=
  Nat.ofDigitChars 10 (texts threshold).toList 0

/-- Tables as the loaders build them: every entry belongs to the key of its
bucket, and `texts` gives the decimal text each threshold was read from. -/
structure Loaded (tables : RuleTables) (texts : Bytes 32 -> String) : Prop where
  largeTransfer : forall config, config ∈ tables.largeTransferConfigs ->
    decimalToBe256 (texts config.thresholdBe) = .ok config.thresholdBe
  mintBurn : forall key bucket, tables.mintBurnRulesByContract.find? key = some bucket ->
    forall config, config ∈ bucket ->
      config.chainId = key.chainId ∧ config.contractAddress = key.contractAddress ∧
        decimalToBe256 (texts config.mintThresholdBe) = .ok config.mintThresholdBe ∧
        decimalToBe256 (texts config.burnThresholdBe) = .ok config.burnThresholdBe
  approval : forall key bucket, tables.approvalRulesByContract.find? key = some bucket ->
    forall config, config ∈ bucket ->
      config.chainId = key.chainId ∧ bytesToHex config.tokenAddress = key.tokenAddress ∧
        decimalToBe256 (texts config.thresholdBe) = .ok config.thresholdBe
  bridge : forall key bucket, tables.bridgeConfigsByKey.find? key = some bucket ->
    forall config, config ∈ bucket ->
      config.chainId = key.chainId ∧ config.tokenAddress = key.tokenAddress ∧
        decimalToBe256 (texts config.thresholdBe) = .ok config.thresholdBe

/-! ## The table of conditions -/

section Expected

variable (tables : RuleTables) (texts : Bytes 32 -> String) (log : EvmLog)
    (chainId timestampMs : UInt64)

/-- The alert of a rule on the amount of the log. -/
def expectedAlert (customerId : UInt64) (ruleType message : String) : Alert where
  customerId := customerId
  ruleType := ruleType
  message := message
  timestampMs := timestampMs
  amountDecimal := some (Nat.repr log.amount)
  tokenAddress := some (bytesToHex log.address)
  chainId := some chainId

def expectedLargeTransfers : List Alert :=
  tables.largeTransferConfigs.filterMap fun config =>
    if config.chainId = chainId ∧ config.tokenAddress = log.address ∧
        thresholdValue texts config.thresholdBe < log.amount then
      some (expectedAlert log chainId timestampMs config.customerId "large_transfer"
        "Large transfer detected")
    else none

def expectedBridgeTransfers (recipient : Bytes 20) : List Alert :=
  ((tables.bridgeConfigsByKey.find? ⟨chainId, log.address⟩).getD []).filterMap fun config =>
    if config.enabled = true ∧ ⟨chainId, recipient⟩ ∈ tables.bridges.addresses ∧
        thresholdValue texts config.thresholdBe < log.amount then
      some (expectedAlert log chainId timestampMs config.customerId "bridge_transfer"
        ("Large transfer to bridge '" ++ BridgeTransferRule.bridgeName tables.bridges
          ⟨chainId, recipient⟩ ++ "' detected"))
    else none

/-- The threshold for mints or for burns; meeting it is enough. -/
def expectedMintBurns (isMint : Bool) : List Alert :=
  ((tables.mintBurnRulesByContract.find? ⟨chainId, bytesToHex log.address⟩).getD
    []).filterMap fun config =>
    if config.enabled = true ∧
        thresholdValue texts
          (if isMint then config.mintThresholdBe else config.burnThresholdBe) ≤ log.amount then
      some (expectedAlert log chainId timestampMs config.customerId "mint_burn"
        (if isMint then "Large Mint detected" else "Large Burn detected"))
    else none

/-- An infinite allowance is the largest word. -/
def expectedApprovals : List Alert :=
  ((tables.approvalRulesByContract.find? ⟨chainId, bytesToHex log.address⟩).getD
    []).filterMap fun config =>
    if config.enabled = true ∧
        (thresholdValue texts config.thresholdBe < log.amount ∨
          (config.alertOnInfinite = true ∧ log.amount = 2 ^ 256 - 1)) then
      some (expectedAlert log chainId timestampMs config.customerId "approval"
        (if log.amount = 2 ^ 256 - 1 then "Infinite approval detected"
          else "Large approval detected"))
    else none

/-- All alerts of the four amount rules for a log that was not removed. -/
def expectedAlerts : List Alert :=
  match log.topics with
  | topic0 :: topic1 :: topic2 :: _ =>
      if log.data.length < 32 then
        []
      else if topic0 = topicTransfer then
        if topic1.isZero = true ∧ topic2.isZero = true then
          []
        else if topic1.isZero = true ∨ topic2.isZero = true then
          expectedMintBurns tables texts log chainId timestampMs topic1.isZero
        else if 256 < log.data.length then
          []
        else
          expectedLargeTransfers tables texts log chainId timestampMs ++
            expectedBridgeTransfers tables texts log chainId timestampMs
              (topic2.slice 12 20 address_in_topic)
      else if topic0 = topicApproval ∧ log.data.length ≤ 256 then
        expectedApprovals tables texts log chainId timestampMs
      else
        []
  | _ => []

end Expected

/-! ## The decoded numbers -/

private theorem data_take {log : EvmLog} (chainId : UInt64) (enough : 32 ≤ log.data.length) :
    (log.event chainId false).data.bytes.take 32 = log.data.take 32 :=
  take_word_overwrite enough

private theorem amount_text {log : EvmLog} (chainId : UInt64) (enough : 32 ≤ log.data.length) :
    uint256BeToDecimal (log.event chainId false).data.bytes = Nat.repr log.amount := by
  rw [uint256BeToDecimal_eq, data_take chainId enough]
  rfl

private theorem take_threshold (threshold : Bytes 32) : threshold.bytes.take 32 = threshold.bytes :=
  List.take_of_length_le (Nat.le_of_eq threshold.size_eq)

private theorem exceeds {log : EvmLog} (chainId : UInt64) (enough : 32 ≤ log.data.length)
    {texts : Bytes 32 -> String} {threshold : Bytes 32}
    (loaded : decimalToBe256 (texts threshold) = .ok threshold) :
    greaterBe256 (log.event chainId false).data.bytes threshold.bytes =
      decide (thresholdValue texts threshold < log.amount) := by
  have wide : 32 ≤ (log.event chainId false).data.bytes.length := by
    rw [(log.event chainId false).data.size_eq]
    decide
  rw [greaterBe256_eq _ _ wide (Nat.le_of_eq threshold.size_eq.symm), data_take chainId enough,
    take_threshold, decimalToBe256_value loaded]
  rfl

private theorem reaches {log : EvmLog} (enough : 32 ≤ log.data.length)
    {texts : Bytes 32 -> String} {threshold : Bytes 32}
    (loaded : decimalToBe256 (texts threshold) = .ok threshold) :
    (!greaterBe256 threshold.bytes (log.data.take 32)) = decide
    (thresholdValue texts threshold ≤ log.amount) := by
  have width : 32 ≤ (log.data.take 32).length := by
    rw [List.length_take]
    omega
  rw [greaterBe256_eq _ _ (Nat.le_of_eq threshold.size_eq.symm) width,
    take_threshold, List.take_take,
    Nat.min_self, decimalToBe256_value loaded, ← decide_not, decide_eq_decide, Nat.not_lt]
  rfl

private theorem infinite_iff {log : EvmLog} (chainId : UInt64) (enough : 32 ≤ log.data.length) :
    ApprovalRule.isInfinite (log.event chainId false) = decide (log.amount = 2 ^ 256 - 1) := by
  have width : (log.data.take 32).length = 32 := by
    rw [List.length_take]
    omega
  have largest := beNat_eq_max_iff (log.data.take 32)
  rw [width] at largest
  rw [ApprovalRule.isInfinite, data_take chainId enough, Bool.eq_iff_iff, decide_eq_true_eq,
    List.all_eq_true]
  simp only [beq_iff_eq]
  exact largest.symm

/-- The generic payload of a log is readable when it has three topics and one
to eight data words. -/
private theorem lacksAmount_event (log : EvmLog) (chainId : UInt64) :
    lacksAmount (log.event chainId false) = false ↔
      3 ≤ log.topics.length ∧ 32 ≤ log.data.length ∧ log.data.length ≤ 256 := by
  rw [lacksAmount, Bool.or_eq_false_iff, Bool.or_eq_false_iff, Bool.or_eq_false_iff]
  constructor
  · rintro ⟨⟨⟨_, topics⟩, words⟩, cut⟩
    have enoughTopics : ¬ log.topics.length < 3 := of_decide_eq_false topics
    have enoughWords : ¬ min 256 log.data.length < 32 := of_decide_eq_false words
    have uncut : ¬ 256 < log.data.length := of_decide_eq_false cut
    omega
  · rintro ⟨topics, words, uncut⟩
    exact ⟨⟨⟨rfl, decide_eq_false (Nat.not_lt.mpr topics)⟩,
      decide_eq_false (Nat.not_lt.mpr (Nat.le_min.mpr ⟨by decide, words⟩))⟩,
        decide_eq_false (Nat.not_lt.mpr uncut)⟩

/-! ## The alerts of the four rules -/

/-- The alert was raised by one of the four rules. -/
def isAmountAlert (alert : Alert) : Bool :=
  [LargeTransferRule.ruleTypeName, MintBurnRule.ruleTypeName, ApprovalRule.ruleTypeName,
    BridgeTransferRule.ruleTypeName].contains alert.ruleType

/-- The alerts of the four rules, in registration order. -/
def amountPart (tables : RuleTables) (signal : Signal) : List Alert :=
  RiskEngine.ruleAlerts signal (.largeTransfer ⟨tables.largeTransferConfigs⟩) ++
    RiskEngine.ruleAlerts signal (.mintBurn ⟨tables.mintBurnRulesByContract⟩) ++
    RiskEngine.ruleAlerts signal (.approval ⟨tables.approvalRulesByContract⟩) ++
    RiskEngine.ruleAlerts signal (.bridgeTransfer ⟨tables.bridgeConfigsByKey, tables.bridges⟩)

def isAmountRule : Rule -> Bool
  | .governance _ => false
  | .oracleUpdate _ => false
  | _ => true

private theorem filter_ruleAlerts (signal : Signal) (rule : Rule) :
    (RiskEngine.ruleAlerts signal rule).filter isAmountAlert =
      if isAmountRule rule then RiskEngine.ruleAlerts signal rule else [] := by
  have each : forall alert, alert ∈ RiskEngine.ruleAlerts signal rule ->
      isAmountAlert alert = isAmountRule rule := by
    intro alert member
    unfold RiskEngine.ruleAlerts at member
    split at member
    · rw [isAmountAlert, Rule.ruleType_of_mem_evaluate member]
      cases rule <;> simp only [Rule.ruleTypeName, isAmountRule] <;> decide
    · cases member
  cases kept : isAmountRule rule with
  | true =>
      rw [kept] at each
      exact List.filter_eq_self.mpr each
  | false =>
      rw [kept] at each
      exact List.filter_eq_nil_iff.mpr fun alert member => by simp [each alert member]

theorem filter_alerts (tables : RuleTables) (lastByFeed : Table OracleFeedKey LastObservation)
    (signal : Signal) :
    ((RiskEngine.ofRules
        (tables.rulesWith lastByFeed)).processSignal signal).2.filter isAmountAlert =
      amountPart tables signal := by
  rw [RiskEngine.processSignal_alerts, RiskEngine.ofRules_rules]
  simp [RuleTables.rulesWith, filter_ruleAlerts, isAmountRule, amountPart]

/-- On a given type only the rules that ask for it speak. -/
theorem amountPart_eq (tables : RuleTables) (signal : Signal) :
    amountPart tables signal =
      match signal.type with
      | .transfer => LargeTransferRule.evaluate ⟨tables.largeTransferConfigs⟩ signal ++
          BridgeTransferRule.evaluate ⟨tables.bridgeConfigsByKey, tables.bridges⟩ signal
      | .mintBurn => MintBurnRule.evaluate ⟨tables.mintBurnRulesByContract⟩ signal
      | .approval => ApprovalRule.evaluate ⟨tables.approvalRulesByContract⟩ signal
      | _ => [] := by
  simp only [amountPart, RiskEngine.ruleAlerts, Rule.interestedIn_eq,
    Rule.signalType, Rule.evaluate]
  cases signal.type <;> simp

/-! ## Each rule on its own kind of log -/

section Cases

variable {tables : RuleTables} {texts : Bytes 32 -> String} {log : EvmLog} {chainId : UInt64}
    {signal : Signal}

/-- Two selections agree when their conditions do and their alerts do where
the conditions hold. -/
private theorem selection_congr {Config : Type} {configs : List Config}
    {left right : Config -> Prop} [DecidablePred left] [DecidablePred right]
    {made expected : Config -> Alert}
    (conditions : forall config, config ∈ configs -> (left config ↔ right config))
    (alerts : forall config, config ∈ configs -> right config -> made config = expected config) :
    (configs.filterMap fun config => if left config then some (made config) else none) =
      configs.filterMap fun config => if right config then some (expected config) else none := by
  apply List.filterMap_congr
  intro config member
  by_cases selected : right config
  · rw [if_pos selected, if_pos ((conditions config member).mpr selected),
      alerts config member selected]
  · rw [if_neg selected, if_neg fun holds => selected ((conditions config member).mp holds)]

private theorem largeTransfer_eq (loaded : Loaded tables texts) (enough : 32 ≤ log.data.length)
    (payload : signal.payload = .evmLog (log.event chainId false))
    (readable : lacksAmount (log.event chainId false) = false) :
    LargeTransferRule.evaluate ⟨tables.largeTransferConfigs⟩ signal =
      expectedLargeTransfers tables texts log chainId signal.signalMeta.timestampMs := by
  rw [LargeTransferRule.evaluate_evmLog _ payload readable]
  refine selection_congr (fun config member => ?_) (fun config member selected => ?_)
  · rw [exceeds chainId enough (loaded.largeTransfer config member), decide_eq_true_eq]
    exact and_congr eq_comm (and_congr_left' eq_comm)
  · simp [LargeTransferRule.alert, expectedAlert, amount_text chainId enough,
      selected.1, selected.2.1]

private theorem bridgeTransfer_eq (loaded : Loaded tables texts) (enough : 32 ≤ log.data.length)
    (type : signal.type = .transfer) (payload : signal.payload = .evmLog (log.event chainId false))
    (readable : lacksAmount (log.event chainId false) = false) :
    BridgeTransferRule.evaluate ⟨tables.bridgeConfigsByKey, tables.bridges⟩ signal =
      expectedBridgeTransfers tables texts log chainId signal.signalMeta.timestampMs
        ((log.topics.getD 2 (Bytes.zeros 32)).slice 12 20 address_in_topic) := by
  rw [BridgeTransferRule.evaluate_evmLog _ type payload readable, expectedBridgeTransfers]
  change List.filterMap _ ((tables.bridgeConfigsByKey.find? ⟨chainId, log.address⟩).getD []) = _
  cases found : tables.bridgeConfigsByKey.find? ⟨chainId, log.address⟩ with
  | none => rfl
  | some bucket =>
      refine selection_congr (fun config member => ?_) (fun config member _ => ?_)
      · rw [exceeds chainId enough (loaded.bridge _ bucket found config member).2.2,
          decide_eq_true_eq]
        rfl
      · have chain : config.chainId = chainId := (loaded.bridge _ bucket found config member).1
        rw [BridgeTransferRule.alert, amount_text chainId enough, chain]
        rfl

private theorem mintBurn_eq (loaded : Loaded tables texts) (enough : 32 ≤ log.data.length)
    (type : signal.type = .mintBurn) (isMint isBurn : Bool) (one : isMint = !isBurn)
    (payload : signal.payload = .mintBurn (mintBurnEvent (log.event chainId false) isMint isBurn)) :
    MintBurnRule.evaluate ⟨tables.mintBurnRulesByContract⟩ signal =
      expectedMintBurns tables texts log chainId signal.signalMeta.timestampMs isMint := by
  rw [MintBurnRule.evaluate_mintBurn _ type payload, expectedMintBurns]
  change List.filterMap _
    ((tables.mintBurnRulesByContract.find? ⟨chainId, bytesToHex log.address⟩).getD []) = _
  cases found : tables.mintBurnRulesByContract.find? ⟨chainId, bytesToHex log.address⟩ with
  | none => rfl
  | some bucket =>
      have amount : (mintBurnEvent (log.event chainId false) isMint isBurn).amount.bytes =
          log.data.take 32 :=
        data_take chainId enough
      have text : uint256BeToDecimal (log.data.take 32) = Nat.repr log.amount := by
        rw [uint256BeToDecimal_eq, List.take_take, Nat.min_self]
        rfl
      refine selection_congr (fun config member => ?_) (fun config member _ => ?_)
      · rcases loaded.mintBurn _ bucket found config member with ⟨_, _, mint, burn⟩
        apply and_congr_right'
        rw [MintBurnRule.isAlert, amount]
        cases isBurn <;> subst one
        · simp only [mintBurnEvent, Bool.not_false, Bool.and_false, Bool.false_eq_true,
            if_false, if_true]
          rw [reaches enough mint, decide_eq_true_eq]
        · simp only [mintBurnEvent, Bool.not_true, Bool.false_and, Bool.false_eq_true, if_false]
          rw [reaches enough burn, decide_eq_true_eq]
      · rw [MintBurnRule.alert, amount, text]
        cases isBurn <;> subst one <;> rfl

private theorem approval_eq (loaded : Loaded tables texts) (enough : 32 ≤ log.data.length)
    (type : signal.type = .approval) (payload : signal.payload = .evmLog (log.event chainId false))
    (readable : lacksAmount (log.event chainId false) = false) :
    ApprovalRule.evaluate ⟨tables.approvalRulesByContract⟩ signal =
      expectedApprovals tables texts log chainId signal.signalMeta.timestampMs := by
  rw [ApprovalRule.evaluate_evmLog _ type payload readable, expectedApprovals]
  change List.filterMap _
    ((tables.approvalRulesByContract.find? ⟨chainId, bytesToHex log.address⟩).getD []) = _
  cases found : tables.approvalRulesByContract.find? ⟨chainId, bytesToHex log.address⟩ with
  | none => rfl
  | some bucket =>
      refine selection_congr (fun config member => ?_) (fun config member _ => ?_)
      · apply and_congr_right'
        rw [ApprovalRule.isAlert, infinite_iff chainId enough,
          exceeds chainId enough (loaded.approval _ bucket found config member).2.2,
          Bool.or_eq_true, Bool.and_eq_true, decide_eq_true_eq, decide_eq_true_eq, or_comm]
      · rw [ApprovalRule.alert, infinite_iff chainId enough, amount_text chainId enough]
        simp [expectedAlert]

end Cases

/-! ## From the raw log to the alerts -/

/-- No amount rule speaks on a generic payload without a readable amount. -/
private theorem amountPart_unreadable {tables : RuleTables} {signal : Signal} {evm : EvmLogEvent}
    (payload : signal.payload = .evmLog evm) (unreadable : lacksAmount evm = true) :
    amountPart tables signal = [] := by
  rw [amountPart_eq]
  cases type : signal.type <;>
    simp [LargeTransferRule.evaluate, BridgeTransferRule.evaluate, MintBurnRule.evaluate,
      ApprovalRule.evaluate,
      payload, unreadable, type]

/-- Nor on a signal of a type none of them asks for. -/
private theorem amountPart_unasked {tables : RuleTables} {signal : Signal}
    (unasked : signal.type ≠ .transfer ∧ signal.type ≠ .mintBurn ∧ signal.type ≠ .approval) :
    amountPart tables signal = [] := by
  rw [amountPart_eq]
  cases type : signal.type <;> simp_all

section Signals

variable {tables : RuleTables} {texts : Bytes 32 -> String}
    (loaded : Loaded tables texts) (log : EvmLog)
  (chainId timestampMs : UInt64)

/-- A log without an amount raises no amount alert, whatever it is. -/
private theorem amountPart_short (short : ¬ (3 ≤ log.topics.length ∧ 32 ≤ log.data.length)) :
    amountPart tables (log.signal chainId timestampMs false) = [] := by
  have unreadable : lacksAmount (log.event chainId false) = true := by
    rw [← Bool.not_eq_false, lacksAmount_event]
    exact fun long => short ⟨long.1, long.2.1⟩
  have words : 32 ≤ (log.event chainId false).dataSize -> 32 ≤ log.data.length := fun enough =>
    Nat.le_trans enough (Nat.min_le_right _ _)
  rcases classify_cases (log.event chainId false) with
    ⟨_, result⟩ | ⟨isMintBurn, _⟩ | ⟨_, result⟩ | ⟨_, _, _, result⟩
  · exact amountPart_unasked (by simp [result])
  · exact absurd ⟨isMintBurn.2.1, words isMintBurn.2.2.1⟩ short
  · exact amountPart_unasked (by simp [result])
  · exact amountPart_unreadable (by simp [result]) unreadable

section LongLogs

variable {topic0 topic1 topic2 : Bytes 32} {others : List (Bytes 32)}
  (topics : log.topics = topic0 :: topic1 :: topic2 :: others) (enough : 32 ≤ log.data.length)

include topics

private theorem topicType_long : topicType (log.event chainId false) = classifyTopic0 topic0 := by
  rw [topicType, if_pos (by simp [topics])]
  simp [topics]

include loaded enough

private theorem amountPart_transfer (isTransfer : topic0 = topicTransfer) :
    amountPart tables (log.signal chainId timestampMs false) =
      if topic1.isZero = true ∧ topic2.isZero = true then
        []
      else if topic1.isZero = true ∨ topic2.isZero = true then
        expectedMintBurns tables texts log chainId timestampMs topic1.isZero
      else if 256 < log.data.length then
        []
      else
        expectedLargeTransfers tables texts log chainId timestampMs ++
          expectedBridgeTransfers tables texts log chainId timestampMs
            (topic2.slice 12 20 address_in_topic) := by
  have type := topicType_long log chainId topics
  rw [(classifyTopic0_eq_transfer_iff topic0).mpr isTransfer] at type
  have first : (log.event chainId false).topics 1 = topic1 := by simp [topics]
  have second : (log.event chainId false).topics 2 = topic2 := by simp [topics]
  rcases classify_cases (log.event chainId false) with
    ⟨isGovernance, _⟩ | ⟨isMintBurn, result⟩ | ⟨isOracle, _⟩ | ⟨_, notMintBurn, _, result⟩
  · exact absurd (type.symm.trans isGovernance) (by decide)
  · rw [first, second] at result
    have someZero : topic1.isZero = true ∨ topic2.isZero = true := first ▸ second ▸ isMintBurn.2.2.2
    have signalType : (log.signal chainId timestampMs false).type = .mintBurn := by simp [result]
    have payload : (log.signal chainId timestampMs false).payload =
        .mintBurn (mintBurnEvent (log.event chainId false) topic1.isZero topic2.isZero) := by
      simp [result]
    rw [amountPart_eq, signalType]
    dsimp only
    by_cases both : topic1.isZero = true ∧ topic2.isZero = true
    · rw [if_pos both, MintBurnRule.evaluate_mintBurn _ signalType payload]
      simp [MintBurnRule.isAlert, mintBurnEvent, both]
    · rw [if_neg both, if_pos someZero]
      refine mintBurn_eq loaded enough signalType topic1.isZero topic2.isZero ?_ payload
      cases zero1 : topic1.isZero <;> cases zero2 : topic2.isZero <;> simp_all
  · exact absurd (type.symm.trans isOracle.1) (by decide)
  · have noZero : ¬ (topic1.isZero = true ∨ topic2.isZero = true) := by
      intro someZero
      refine notMintBurn ⟨type, ?_, Nat.le_min.mpr ⟨by decide, enough⟩, first ▸ second ▸ someZero⟩
      simp [topics]
    have payload : (log.signal chainId timestampMs false).payload = .evmLog
        (log.event chainId false) := by
      simp [result]
    have signalType : (log.signal chainId timestampMs false).type = .transfer := by
      simp [result, type]
    rw [if_neg fun both => noZero (Or.inl both.1), if_neg noZero]
    by_cases long : 256 < log.data.length
    · rw [if_pos long]
      apply amountPart_unreadable payload
      rw [← Bool.not_eq_false, lacksAmount_event]
      omega
    · have readable : lacksAmount (log.event chainId false) = false :=
        (lacksAmount_event log chainId).mpr ⟨by simp [topics], enough, Nat.le_of_not_lt long⟩
      rw [if_neg long, amountPart_eq, signalType]
      dsimp only
      rw [largeTransfer_eq loaded enough payload readable,
        bridgeTransfer_eq loaded enough signalType payload readable]
      simp [topics]

private theorem amountPart_other (notTransfer : topic0 ≠ topicTransfer) :
    amountPart tables (log.signal chainId timestampMs false) =
      if topic0 = topicApproval ∧ log.data.length ≤ 256 then
        expectedApprovals tables texts log chainId timestampMs
      else
        [] := by
  have type := topicType_long log chainId topics
  have typeNotTransfer : topicType (log.event chainId false) ≠ .transfer := by
    rw [type]
    exact fun isTransfer => notTransfer ((classifyTopic0_eq_transfer_iff topic0).mp isTransfer)
  rcases classify_cases (log.event chainId false) with
    ⟨isGovernance, result⟩ | ⟨isMintBurn, _⟩ | ⟨isOracle, result⟩ | ⟨_, _, _, result⟩
  · rw [if_neg]
    · exact amountPart_unasked (by simp [result])
    · rintro ⟨isApproval, _⟩
      rw [(classifyTopic0_eq_approval_iff topic0).mpr isApproval] at type
      exact absurd (type.symm.trans isGovernance) (by decide)
  · exact absurd isMintBurn.1 typeNotTransfer
  · rw [if_neg]
    · exact amountPart_unasked (by simp [result])
    · rintro ⟨isApproval, _⟩
      rw [(classifyTopic0_eq_approval_iff topic0).mpr isApproval] at type
      exact absurd (type.symm.trans isOracle.1) (by decide)
  · have payload : (log.signal chainId timestampMs false).payload = .evmLog
        (log.event chainId false) := by
      simp [result]
    have signalType : (log.signal chainId timestampMs false).type = classifyTopic0 topic0 := by
      simp [result, type]
    by_cases isApproval : topic0 = topicApproval
    · rw [(classifyTopic0_eq_approval_iff topic0).mpr isApproval] at signalType
      by_cases long : 256 < log.data.length
      · rw [if_neg fun both => absurd both.2 (Nat.not_le.mpr long)]
        apply amountPart_unreadable payload
        rw [← Bool.not_eq_false, lacksAmount_event]
        omega
      · have readable : lacksAmount (log.event chainId false) = false :=
          (lacksAmount_event log chainId).mpr ⟨by simp [topics], enough, Nat.le_of_not_lt long⟩
        rw [if_pos ⟨isApproval, Nat.le_of_not_lt long⟩, amountPart_eq, signalType]
        exact approval_eq loaded enough signalType payload readable
    · rw [if_neg fun both => isApproval both.1]
      refine amountPart_unasked ⟨?_, ?_, ?_⟩
      · rw [signalType, ← type]
        exact typeNotTransfer
      · rw [signalType]
        exact classifyTopic0_ne_mintBurn topic0
      · rw [signalType]
        exact fun same => isApproval ((classifyTopic0_eq_approval_iff topic0).mp same)

end LongLogs

include loaded

/-- The signal of a log, on its way through the engine. -/
theorem amountPart_signal :
    amountPart tables (log.signal chainId timestampMs false) =
      expectedAlerts tables texts log chainId timestampMs := by
  unfold expectedAlerts
  split
  · rename_i topic0 topic1 topic2 others topics
    by_cases short : log.data.length < 32
    · rw [if_pos short]
      exact amountPart_short log chainId timestampMs fun long =>
        absurd short (Nat.not_lt.mpr long.2)
    · rw [if_neg short]
      have enough := Nat.le_of_not_lt short
      by_cases isTransfer : topic0 = topicTransfer
      · rw [if_pos isTransfer]
        exact amountPart_transfer loaded log chainId timestampMs topics enough isTransfer
      · rw [if_neg isTransfer]
        exact amountPart_other loaded log chainId timestampMs topics enough isTransfer
  · rename_i few
    apply amountPart_short log chainId timestampMs
    intro long
    match topics : log.topics with
    | [] => simp [topics] at long
    | [_] => simp [topics] at long
    | [_, _] => simp [topics] at long
    | topic0 :: topic1 :: topic2 :: others => exact few topic0 topic1 topic2 others topics

end Signals

/-- From the raw text of a log to the alerts of the four amount rules.  The
loaded tables decide by the number in the first data word and by nothing that
happened to its representation on the way. -/
theorem amount_alerts_of_raw_log {tables : RuleTables} {texts : Bytes 32 -> String}
    (loaded : Loaded tables texts) {raw : RawLog} {log : EvmLog} (encodes : raw.Encodes log)
    (kept : raw.removed = false) (chainId timestampMs : UInt64) (scratch : Bytes 32)
    (lastByFeed : Table OracleFeedKey LastObservation) :
    Exists fun signal => normalize raw chainId timestampMs scratch = .ok signal ∧
      ((RiskEngine.ofRules
          (tables.rulesWith lastByFeed)).processSignal signal).2.filter isAmountAlert =
        expectedAlerts tables texts log chainId timestampMs := by
  refine ⟨log.signal chainId timestampMs false, ?_, ?_⟩
  · rw [normalize_encodes encodes, kept]
  · rw [filter_alerts]
    exact amountPart_signal loaded log chainId timestampMs

/-- A transfer of 101 units. -/
def smallTransfer : EvmLog where
  address := Bytes.ofNat 20 0xaa
  topics := [topicTransfer, Bytes.ofNat 32 1, Bytes.ofNat 32 2]
  topics_le := by decide
  data := (Bytes.ofNat 32 101).bytes
  txHash := Bytes.zeros 32
  blockNumber := 1
  txIndex := 0
  txIndex_le := EvmLog.first_index
  logIndex := 0
  logIndex_le := EvmLog.first_index

def smallTransferText : RawLog where
  address := bytesToHex smallTransfer.address
  topics := smallTransfer.topics.map bytesToHex
  data := bytesToHex (Bytes.ofNat 32 101)
  blockNumber := "0x1"
  transactionHash := bytesToHex smallTransfer.txHash
  logIndex := "0x0"
  transactionIndex := "0x0"

/-- One customer watches transfers above 100 units. -/
def aboveHundred : RuleTables where
  largeTransferConfigs := [⟨7, 1, smallTransfer.address, Bytes.ofNat 32 100⟩]
  governanceRulesByContract := Table.empty
  mintBurnRulesByContract := Table.empty
  approvalRulesByContract := Table.empty
  bridgeConfigsByKey := Table.empty
  bridges := ⟨[], Table.empty⟩
  oracleConfigsByFeed := Table.empty

/-- The transfer of 101 units raises that customer's alert. -/
theorem amount_alert_of_small_transfer :
    Exists fun signal => normalize smallTransferText 1 5 (Bytes.zeros 32) = .ok signal ∧
      ((RiskEngine.ofRules
          (aboveHundred.rulesWith Table.empty)).processSignal signal).2.filter isAmountAlert =
        [{ customerId := 7, ruleType := "large_transfer", message := "Large transfer detected",
           timestampMs := 5, amountDecimal := some "101",
           tokenAddress := some "0x00000000000000000000000000000000000000aa",
           chainId := some 1 }] := by
  have loaded : Loaded aboveHundred fun _ => "100" := by
    refine ⟨fun config member => ?_, fun _ _ found => ?_, fun _ _ found => ?_, fun _ _ found => ?_⟩
    · rw [List.mem_singleton.mp member]
      decide +kernel
    all_goals cases found
  have encodes : smallTransferText.Encodes smallTransfer :=
    { address := bytesToHex_spells _
      topics := .cons (bytesToHex_spells _)
        (.cons (bytesToHex_spells _) (.cons (bytesToHex_spells _) .nil))
      data := bytesToHex_spells _
      blockNumber := ⟨['1'], by decide, by decide⟩
      transactionHash := bytesToHex_spells _
      transactionIndex := ⟨['0'], by decide, by decide⟩
      logIndex := ⟨['0'], by decide, by decide⟩ }
  rcases amount_alerts_of_raw_log loaded encodes rfl 1 5 (Bytes.zeros 32) Table.empty with
    ⟨signal, normalized, alerts⟩
  refine ⟨signal, normalized, alerts.trans ?_⟩
  decide +kernel

end AmountRules

end Risk
end RiskSentinel
