import RiskSentinel.Events.Decimal
import RiskSentinel.Events.Hex
import RiskSentinel.Foundation.Table
import RiskSentinel.Risk.Signal

namespace RiskSentinel
namespace Risk

open Foundation Events

/-!
# The six risk rules

Each rule object holds its configuration as the loaders leave it.  Three
tables are keyed by the lowercase text of an address, two by its bytes, and
large transfers are a plain vector.  `evaluate` returns the alerts in the
order in which the source appends them.  Only the oracle rule has a state of
its own, the last observation of each configured feed.

Three rules read a generic log and skip one that was removed by a
reorganisation.  The other three receive payloads that cannot say so.
-/

abbrev SignalMask := UInt32

def makeMask (type : SignalType) : SignalMask :=
  1 <<< UInt32.ofNat type.index

/-- The guard shared by the rules that read an amount from a generic log. -/
def lacksAmount (evm : EvmLogEvent) : Bool :=
  evm.removed || decide (evm.topicCount < 3) || decide (evm.dataSize < 32) || evm.truncated

/-! ## Large transfers -/

structure LargeTransferRuleConfig where
  customerId : UInt64
  chainId : UInt64
  tokenAddress : Bytes 20
  thresholdBe : Bytes 32
deriving DecidableEq

structure LargeTransferRule where
  configs : List LargeTransferRuleConfig

namespace LargeTransferRule

def interests : SignalMask := makeMask .transfer

def ruleTypeName : String := "large_transfer"

def alert (config : LargeTransferRuleConfig) (evm : EvmLogEvent) (timestampMs : UInt64) :
    Alert where
  customerId := config.customerId
  ruleType := "large_transfer"
  message := "Large transfer detected"
  timestampMs := timestampMs
  amountDecimal := some (uint256BeToDecimal evm.data.bytes)
  tokenAddress := some (bytesToHex config.tokenAddress)
  chainId := some config.chainId

/-- The rule looks at the payload only; its type test is the routing. -/
def evaluate (rule : LargeTransferRule) (signal : Signal) : List Alert :=
  match signal.payload with
  | .evmLog evm =>
      if lacksAmount evm then
        []
      else
        rule.configs.filterMap fun config =>
          if evm.chainId != config.chainId then none
          else if evm.address != config.tokenAddress then none
          else if greaterBe256 evm.data.bytes config.thresholdBe.bytes then
            some (alert config evm signal.signalMeta.timestampMs)
          else none
  | _ => []

theorem evaluate_evmLog (rule : LargeTransferRule) {signal : Signal} {evm : EvmLogEvent}
    (payload : signal.payload = .evmLog evm) (readable : lacksAmount evm = false) :
    rule.evaluate signal = rule.configs.filterMap fun config =>
      if evm.chainId = config.chainId ∧ evm.address = config.tokenAddress ∧
          greaterBe256 evm.data.bytes config.thresholdBe.bytes = true then
        some (alert config evm signal.signalMeta.timestampMs)
      else none := by
  simp only [evaluate, payload, readable, Bool.false_eq_true, if_false]
  congr 1
  funext config
  by_cases chain : evm.chainId = config.chainId <;> by_cases token :
      evm.address = config.tokenAddress <;>
    simp [chain, token]

end LargeTransferRule

/-! ## Governance actions -/

structure GovernanceRuleConfig where
  customerId : UInt64
  chainId : UInt64
  contractAddress : String
  enabled : Bool
  actionFilter : Option GovernanceAction
deriving DecidableEq

structure GovernanceContractKey where
  chainId : UInt64
  contractAddress : String
deriving DecidableEq

def actionToString : GovernanceAction -> String
  | .ownershipTransferred => "OwnershipTransferred"
  | .paused => "Paused"
  | .unpaused => "Unpaused"
  | .roleGranted => "RoleGranted"
  | .roleRevoked => "RoleRevoked"
  | .upgraded => "Upgraded"
  | .unknown => "Unknown"

structure GovernanceRule where
  configMap : Table GovernanceContractKey (List GovernanceRuleConfig)

namespace GovernanceRule

def interests : SignalMask := makeMask .governance

def ruleTypeName : String := "governance"

def alert (config : GovernanceRuleConfig) (event : GovernanceEvent) (timestampMs : UInt64) :
    Alert where
  customerId := config.customerId
  ruleType := "governance"
  message := "Governance action '" ++ actionToString event.action ++ "' detected on contract " ++
    bytesToHex event.contractAddress
  timestampMs := timestampMs
  tokenAddress := some (bytesToHex event.contractAddress)
  chainId := some event.chainId

def passesFilter (config : GovernanceRuleConfig) (action : GovernanceAction) : Bool :=
  match config.actionFilter with
  | some wanted => decide (wanted = action)
  | none => true

def evaluate (rule : GovernanceRule) (signal : Signal) : List Alert :=
  if signal.type != .governance then
    []
  else
    match signal.payload with
    | .governance event =>
        match rule.configMap.find? ⟨event.chainId, bytesToHex event.contractAddress⟩ with
        | none => []
        | some bucket =>
            bucket.filterMap fun config =>
              if !config.enabled then none
              else if !passesFilter config event.action then none
              else some (alert config event signal.signalMeta.timestampMs)
    | _ => []

theorem evaluate_governance (rule : GovernanceRule) {signal : Signal} {event : GovernanceEvent}
    (type : signal.type = .governance) (payload : signal.payload = .governance event) :
    rule.evaluate signal =
      ((rule.configMap.find? ⟨event.chainId, bytesToHex event.contractAddress⟩).getD
        []).filterMap fun config =>
        if config.enabled = true ∧ passesFilter config event.action = true then
          some (alert config event signal.signalMeta.timestampMs)
        else none := by
  simp only [evaluate, type, payload, bne_self_eq_false, Bool.false_eq_true, if_false]
  cases rule.configMap.find? ⟨event.chainId, bytesToHex event.contractAddress⟩ with
  | none => rfl
  | some bucket =>
      simp only [Option.getD_some]
      congr 1
      funext config
      cases enabled : config.enabled <;> cases passesFilter config event.action <;> simp

end GovernanceRule

/-! ## Mints and burns -/

structure MintBurnRuleConfig where
  customerId : UInt64
  chainId : UInt64
  contractAddress : String
  mintThresholdBe : Bytes 32
  burnThresholdBe : Bytes 32
  enabled : Bool
deriving DecidableEq

structure MintBurnContractKey where
  chainId : UInt64
  contractAddress : String
deriving DecidableEq

structure MintBurnRule where
  configMap : Table MintBurnContractKey (List MintBurnRuleConfig)

namespace MintBurnRule

def interests : SignalMask := makeMask .mintBurn

def ruleTypeName : String := "mint_burn"

def alert (config : MintBurnRuleConfig) (event : MintBurnEvent) (timestampMs : UInt64) : Alert where
  customerId := config.customerId
  ruleType := "mint_burn"
  message := "Large " ++ (if event.direction = .mint then "Mint" else "Burn") ++ " detected"
  timestampMs := timestampMs
  amountDecimal := some (uint256BeToDecimal event.amount.bytes)
  tokenAddress := some (bytesToHex event.tokenAddress)
  chainId := some event.chainId

/-- An amount equal to the threshold is reported.  An event with both
topics zero has no direction and never is. -/
def isAlert (config : MintBurnRuleConfig) (event : MintBurnEvent) : Bool :=
  match event.direction with
  | .mint => !greaterBe256 config.mintThresholdBe.bytes event.amount.bytes
  | .burn => !greaterBe256 config.burnThresholdBe.bytes event.amount.bytes
  | .unknown => false

def evaluate (rule : MintBurnRule) (signal : Signal) : List Alert :=
  if signal.type != .mintBurn then
    []
  else
    match signal.payload with
    | .mintBurn event =>
        match rule.configMap.find? ⟨event.chainId, bytesToHex event.tokenAddress⟩ with
        | none => []
        | some bucket =>
            bucket.filterMap fun config =>
              if !config.enabled then none
              else if isAlert config event
                then some (alert config event signal.signalMeta.timestampMs)
              else none
    | _ => []

theorem evaluate_mintBurn (rule : MintBurnRule) {signal : Signal} {event : MintBurnEvent}
    (type : signal.type = .mintBurn) (payload : signal.payload = .mintBurn event) :
    rule.evaluate signal =
      ((rule.configMap.find? ⟨event.chainId, bytesToHex event.tokenAddress⟩).getD
        []).filterMap fun config =>
        if config.enabled = true ∧ isAlert config event = true then
          some (alert config event signal.signalMeta.timestampMs)
        else none := by
  simp only [evaluate, type, payload, bne_self_eq_false, Bool.false_eq_true, if_false]
  cases rule.configMap.find? ⟨event.chainId, bytesToHex event.tokenAddress⟩ with
  | none => rfl
  | some bucket =>
      simp only [Option.getD_some]
      congr 1
      funext config
      cases enabled : config.enabled <;> simp

end MintBurnRule

/-! ## Approvals -/

structure ApprovalRuleConfig where
  customerId : UInt64
  chainId : UInt64
  tokenAddress : Bytes 20
  thresholdBe : Bytes 32
  alertOnInfinite : Bool
  enabled : Bool
deriving DecidableEq

structure ApprovalContractKey where
  chainId : UInt64
  tokenAddress : String
deriving DecidableEq

structure ApprovalRule where
  configMap : Table ApprovalContractKey (List ApprovalRuleConfig)

namespace ApprovalRule

def interests : SignalMask := makeMask .approval

def ruleTypeName : String := "approval"

/-- All 32 bytes of the allowance are set. -/
def isInfinite (evm : EvmLogEvent) : Bool :=
  (evm.data.bytes.take 32).all (· == 0xFF)

def alert (config : ApprovalRuleConfig) (evm : EvmLogEvent) (timestampMs : UInt64) : Alert where
  customerId := config.customerId
  ruleType := "approval"
  message := if isInfinite evm then "Infinite approval detected" else "Large approval detected"
  timestampMs := timestampMs
  amountDecimal := some (uint256BeToDecimal evm.data.bytes)
  tokenAddress := some (bytesToHex evm.address)
  chainId := some evm.chainId

def isAlert (config : ApprovalRuleConfig) (evm : EvmLogEvent) : Bool :=
  (config.alertOnInfinite && isInfinite evm) || greaterBe256 evm.data.bytes config.thresholdBe.bytes

def evaluate (rule : ApprovalRule) (signal : Signal) : List Alert :=
  if signal.type != .approval then
    []
  else
    match signal.payload with
    | .evmLog evm =>
        if lacksAmount evm then
          []
        else
          match rule.configMap.find? ⟨evm.chainId, bytesToHex evm.address⟩ with
          | none => []
          | some bucket =>
              bucket.filterMap fun config =>
                if !config.enabled then none
                else if isAlert config evm
                  then some (alert config evm signal.signalMeta.timestampMs)
                else none
    | _ => []

theorem evaluate_evmLog (rule : ApprovalRule) {signal : Signal} {evm : EvmLogEvent}
    (type : signal.type = .approval) (payload : signal.payload = .evmLog evm)
    (readable : lacksAmount evm = false) :
    rule.evaluate signal =
      ((rule.configMap.find? ⟨evm.chainId, bytesToHex evm.address⟩).getD []).filterMap fun config =>
        if config.enabled = true ∧ isAlert config evm = true then
          some (alert config evm signal.signalMeta.timestampMs)
        else none := by
  simp only [evaluate, type, payload, readable, bne_self_eq_false, Bool.false_eq_true, if_false]
  cases rule.configMap.find? ⟨evm.chainId, bytesToHex evm.address⟩ with
  | none => rfl
  | some bucket =>
      simp only [Option.getD_some]
      congr 1
      funext config
      cases enabled : config.enabled <;> simp

end ApprovalRule

/-! ## Transfers to bridges -/

structure BridgeRuleConfig where
  customerId : UInt64
  chainId : UInt64
  tokenAddress : Bytes 20
  thresholdBe : Bytes 32
  enabled : Bool
deriving DecidableEq

structure BridgeRuleKey where
  chainId : UInt64
  tokenAddress : Bytes 20
deriving DecidableEq

structure BridgeAddressKey where
  chainId : UInt64
  address : Bytes 20
deriving DecidableEq

/-- The registry of bridge contracts, shared by all customers. -/
structure BridgeRegistry where
  addresses : List BridgeAddressKey
  names : Table BridgeAddressKey String

structure BridgeTransferRule where
  configsByKey : Table BridgeRuleKey (List BridgeRuleConfig)
  registry : BridgeRegistry

namespace BridgeTransferRule

def interests : SignalMask := makeMask .transfer

def ruleTypeName : String := "bridge_transfer"

/-- The recipient, left-padded to a word in the third topic. -/
def bridgeKey (evm : EvmLogEvent) : BridgeAddressKey where
  chainId := evm.chainId
  address := (evm.topics 2).slice 12 20 address_in_topic

def bridgeName (registry : BridgeRegistry) (key : BridgeAddressKey) : String :=
  match registry.names.find? key with
  | some name => name
  | none => "unknown bridge"

/-- The chain is the configuration's, not the event's. -/
def alert (registry : BridgeRegistry) (config : BridgeRuleConfig) (evm : EvmLogEvent)
    (timestampMs : UInt64) : Alert where
  customerId := config.customerId
  ruleType := "bridge_transfer"
  message := "Large transfer to bridge '" ++ bridgeName registry (bridgeKey evm) ++ "' detected"
  timestampMs := timestampMs
  amountDecimal := some (uint256BeToDecimal evm.data.bytes)
  tokenAddress := some (bytesToHex evm.address)
  chainId := some config.chainId

def evaluate (rule : BridgeTransferRule) (signal : Signal) : List Alert :=
  if signal.type != .transfer then
    []
  else
    match signal.payload with
    | .evmLog evm =>
        if lacksAmount evm then
          []
        else if !rule.registry.addresses.contains (bridgeKey evm) then
          []
        else
          match rule.configsByKey.find? ⟨evm.chainId, evm.address⟩ with
          | none => []
          | some bucket =>
              bucket.filterMap fun config =>
                if !config.enabled then none
                else if !greaterBe256 evm.data.bytes config.thresholdBe.bytes then none
                else some (alert rule.registry config evm signal.signalMeta.timestampMs)
    | _ => []

theorem evaluate_evmLog (rule : BridgeTransferRule) {signal : Signal} {evm : EvmLogEvent}
    (type : signal.type = .transfer) (payload : signal.payload = .evmLog evm)
    (readable : lacksAmount evm = false) :
    rule.evaluate signal =
      ((rule.configsByKey.find? ⟨evm.chainId, evm.address⟩).getD []).filterMap fun config =>
        if config.enabled = true ∧ bridgeKey evm ∈ rule.registry.addresses ∧
            greaterBe256 evm.data.bytes config.thresholdBe.bytes = true then
          some (alert rule.registry config evm signal.signalMeta.timestampMs)
        else none := by
  simp only [evaluate, type, payload, readable, bne_self_eq_false, Bool.false_eq_true, if_false]
  by_cases registered : bridgeKey evm ∈ rule.registry.addresses
  · rw [if_neg (by simp [registered])]
    cases rule.configsByKey.find? ⟨evm.chainId, evm.address⟩ with
    | none => rfl
    | some bucket =>
        simp only [Option.getD_some, registered, true_and]
        congr 1
        funext config
        cases enabled : config.enabled <;>
          cases greaterBe256 evm.data.bytes config.thresholdBe.bytes <;> simp
  · rw [if_pos (by simp [registered])]
    simp [registered]

end BridgeTransferRule

/-! ## Oracle updates -/

structure OracleRuleConfig where
  customerId : UInt64
  chainId : UInt64
  aggregatorAddress : Bytes 20
  feedLabel : String
  spikeThresholdBps : UInt32
  decimals : UInt8
  enabled : Bool
deriving DecidableEq

structure OracleFeedKey where
  chainId : UInt64
  aggregatorAddress : Bytes 20
deriving DecidableEq

structure LastObservation where
  answer : Bytes 32
  updatedAt : UInt64
deriving DecidableEq

structure OracleUpdateRule where
  configsByFeed : Table OracleFeedKey (List OracleRuleConfig)
  lastByFeed : Table OracleFeedKey LastObservation := Table.empty

namespace OracleUpdateRule

def interests : SignalMask := makeMask .oracleUpdate

def ruleTypeName : String := "oracle_update"

def aggregatorToHex (address : Bytes 20) : String := bytesToHex address

/-- Whole percents and two digits of hundredths. -/
def formatPctFromBps (deltaBps : UInt64) : String :=
  let whole := deltaBps / 100
  let frac := deltaBps % 100
  Nat.repr whole.toNat ++ "." ++ (if frac < 10 then "0" else "") ++ Nat.repr frac.toNat

/-- Non-negative as an `int256`, and no bit set above the 64th. -/
def isAccepted (answer : Bytes 32) : Bool :=
  (answer.bytes.getD 0 0 &&& 0x80 == 0) && (answer.bytes.take 24).all (· == 0)

/-- The low 64 bits of an answer. -/
def lowUint64 (answer : Bytes 32) : UInt64 :=
  (answer.slice 24 8 (by decide)).bytes.foldl (fun value byte => (value <<< 8) ||| byte.toUInt64) 0

/-- The relative change in basis points, rounded down.  The source widens to
128 bits, which `diff * 10000` cannot leave, and clamps the quotient. -/
def deltaBps (previous current : UInt64) : UInt64 :=
  let diff := if previous < current then current - previous else previous - current
  let quotient := diff.toNat * 10000 / previous.toNat
  if 0xFFFFFFFFFFFFFFFF < quotient then 0xFFFFFFFFFFFFFFFF else UInt64.ofNat quotient

def alert (config : OracleRuleConfig) (event : OracleUpdateEvent) (change : UInt64)
    (timestampMs : UInt64) : Alert where
  customerId := config.customerId
  ruleType := "oracle_update"
  message := "Oracle spike on " ++ config.feedLabel ++ ": " ++ formatPctFromBps change ++ "% change"
  timestampMs := timestampMs
  amountDecimal := some (Nat.repr (lowUint64 event.currentAnswer).toNat)
  tokenAddress := some (aggregatorToHex event.aggregatorAddress)
  chainId := some event.chainId

def feedKey (event : OracleUpdateEvent) : OracleFeedKey where
  chainId := event.chainId
  aggregatorAddress := event.aggregatorAddress

def observation (event : OracleUpdateEvent) : LastObservation where
  answer := event.currentAnswer
  updatedAt := event.updatedAt

/-- The alerts of a comparison with a baseline that is not zero. -/
def spikeAlerts (bucket : List OracleRuleConfig) (event : OracleUpdateEvent) (change : UInt64)
    (timestampMs : UInt64) : List Alert :=
  bucket.filterMap fun config =>
    if !config.enabled then none
    else if change ≤ config.spikeThresholdBps.toUInt64 then none
    else some (alert config event change timestampMs)

/-- The comparison with the last observation of the feed, if there is one. -/
def compareWithLast (last : Option LastObservation) (bucket : List OracleRuleConfig)
    (event : OracleUpdateEvent) (timestampMs : UInt64) : List Alert :=
  match last with
  | none => []
  | some observed =>
      let previous := lowUint64 observed.answer
      if previous == 0 then []
      else spikeAlerts bucket event (deltaBps previous (lowUint64 event.currentAnswer)) timestampMs

/-- An update of an unconfigured feed, a negative answer and an answer above
64 bits leave the state alone.  Every other update becomes the baseline of
the next one, on the cold start, on a zero baseline and after a comparison
alike. -/
def evaluate (rule : OracleUpdateRule) (signal : Signal) : OracleUpdateRule × List Alert :=
  if signal.type != .oracleUpdate then
    (rule, [])
  else
    match signal.payload with
    | .oracleUpdate event =>
        match rule.configsByFeed.find? (feedKey event) with
        | none => (rule, [])
        | some bucket =>
            if !isAccepted event.currentAnswer then
              (rule, [])
            else
              ({ rule with lastByFeed := rule.lastByFeed.assign (feedKey event) (observation event) },
                compareWithLast (rule.lastByFeed.find? (feedKey event)) bucket event
                  signal.signalMeta.timestampMs)
    | _ => (rule, [])

theorem spikeAlerts_eq (bucket : List OracleRuleConfig) (event : OracleUpdateEvent)
    (change timestampMs : UInt64) :
    spikeAlerts bucket event change timestampMs = bucket.filterMap fun config =>
      if config.enabled = true ∧ config.spikeThresholdBps.toUInt64 < change then
        some (alert config event change timestampMs)
      else none := by
  unfold spikeAlerts
  congr 1
  funext config
  cases enabled : config.enabled <;> simp [← UInt64.not_le]

theorem evaluate_oracleUpdate (rule : OracleUpdateRule) {signal : Signal}
    {event : OracleUpdateEvent} (type : signal.type = .oracleUpdate)
    (payload : signal.payload = .oracleUpdate event) :
    rule.evaluate signal =
      match rule.configsByFeed.find? (feedKey event) with
      | none => (rule, [])
      | some bucket =>
          if isAccepted event.currentAnswer = true then
            ({ rule with lastByFeed := rule.lastByFeed.assign (feedKey event) (observation event) },
              compareWithLast (rule.lastByFeed.find? (feedKey event)) bucket event
                signal.signalMeta.timestampMs)
          else (rule, []) := by
  simp only [evaluate, type, payload, bne_self_eq_false, Bool.false_eq_true, if_false]
  cases rule.configsByFeed.find? (feedKey event) with
  | none => rfl
  | some bucket => cases isAccepted event.currentAnswer <;> simp

end OracleUpdateRule

/-! ## The rule interface -/

/-- A registered rule object. -/
inductive Rule where
  | largeTransfer (rule : LargeTransferRule)
  | governance (rule : GovernanceRule)
  | mintBurn (rule : MintBurnRule)
  | approval (rule : ApprovalRule)
  | bridgeTransfer (rule : BridgeTransferRule)
  | oracleUpdate (rule : OracleUpdateRule)

namespace Rule

def interests : Rule -> SignalMask
  | .largeTransfer _ => LargeTransferRule.interests
  | .governance _ => GovernanceRule.interests
  | .mintBurn _ => MintBurnRule.interests
  | .approval _ => ApprovalRule.interests
  | .bridgeTransfer _ => BridgeTransferRule.interests
  | .oracleUpdate _ => OracleUpdateRule.interests

def ruleTypeName : Rule -> String
  | .largeTransfer _ => LargeTransferRule.ruleTypeName
  | .governance _ => GovernanceRule.ruleTypeName
  | .mintBurn _ => MintBurnRule.ruleTypeName
  | .approval _ => ApprovalRule.ruleTypeName
  | .bridgeTransfer _ => BridgeTransferRule.ruleTypeName
  | .oracleUpdate _ => OracleUpdateRule.ruleTypeName

/-- The object after the call and the alerts appended by it. -/
def evaluate (rule : Rule) (signal : Signal) : Rule × List Alert :=
  match rule with
  | .largeTransfer inner => (rule, inner.evaluate signal)
  | .governance inner => (rule, inner.evaluate signal)
  | .mintBurn inner => (rule, inner.evaluate signal)
  | .approval inner => (rule, inner.evaluate signal)
  | .bridgeTransfer inner => (rule, inner.evaluate signal)
  | .oracleUpdate inner => (.oracleUpdate (inner.evaluate signal).1, (inner.evaluate signal).2)

private theorem ruleType_of_mem_filterMap {Config : Type} {configs : List Config}
    {select : Config -> Option Alert} {name : String}
    (each : forall config made, select config = some made -> made.ruleType = name) {alert : Alert}
    (member : alert ∈ configs.filterMap select) : alert.ruleType = name := by
  rcases List.mem_filterMap.mp member with ⟨config, _, selected⟩
  exact each config alert selected

/-- Every alert carries the type name of the rule that raised it. -/
theorem ruleType_of_mem_evaluate {rule : Rule} {signal : Signal} {alert : Alert}
    (member : alert ∈ (rule.evaluate signal).2) : alert.ruleType = rule.ruleTypeName := by
  -- Whatever branch is taken, the alerts come from a selection over a bucket.
  cases rule <;>
    simp only [evaluate, LargeTransferRule.evaluate, GovernanceRule.evaluate, MintBurnRule.evaluate,
      ApprovalRule.evaluate, BridgeTransferRule.evaluate, OracleUpdateRule.evaluate,
      OracleUpdateRule.compareWithLast, OracleUpdateRule.spikeAlerts] at member
  all_goals
    repeat' split at member
    all_goals first
      | cases member
      | refine ruleType_of_mem_filterMap (fun config made selected => ?_) member
    repeat' split at selected
    all_goals cases selected
    rfl

/-- The bit test by which registration fills the routing table. -/
def interestedIn (rule : Rule) (index : Nat) : Bool :=
  rule.interests &&& (1 <<< UInt32.ofNat index) != 0

/-- The one signal type each rule asks for. -/
def signalType : Rule -> SignalType
  | .largeTransfer _ => .transfer
  | .governance _ => .governance
  | .mintBurn _ => .mintBurn
  | .approval _ => .approval
  | .bridgeTransfer _ => .transfer
  | .oracleUpdate _ => .oracleUpdate

/-- The masks select exactly the signal types they are made of. -/
theorem interestedIn_eq (rule : Rule) (type : SignalType) :
    rule.interestedIn type.index = decide (type = rule.signalType) := by
  have selects : forall wanted : SignalType,
      (makeMask wanted &&& (1 <<< UInt32.ofNat type.index) != 0) = decide (type = wanted) := by
    intro wanted
    cases wanted <;> cases type <;> decide
  cases rule <;> exact selects _

end Rule

end Risk
end RiskSentinel
