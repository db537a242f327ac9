import Mathlib.Algebra.Order.BigOperators.Group.List
import RiskSentinel.Risk.RiskEngine

namespace RiskSentinel
namespace Risk

open Foundation Events

/-!
# What a rule reacts to and what it emits

The six evaluators are written by hand and differ in their tests and in how
they fill an alert.  This module says once, with one constructor for each
rule, everything a call of `evaluate` can append.  Two questions about all
rules are then answered by a case analysis.

Is the routing table only an optimisation?  Five rules test the type of the
signal themselves.  The large transfer rule tests the payload alone, and logs
of every type share one payload, so without the table it would also report
approvals.

Does an alert carry what its signal says?  Every field is taken over except
the time of ingress, which no rule copies.
-/

/-- Everything that `evaluate` can append for a signal. -/
inductive Emitted (signal : Signal) : Rule -> Alert -> Prop where
  | largeTransfer {rule : LargeTransferRule} {evm : EvmLogEvent} {config : LargeTransferRuleConfig}
      (payload : signal.payload = .evmLog evm) (readable : lacksAmount evm = false)
      (listed : config ∈ rule.configs) (chain : evm.chainId = config.chainId)
      (token : evm.address = config.tokenAddress)
      (exceeds : greaterBe256 evm.data.bytes config.thresholdBe.bytes = true) :
      Emitted signal (.largeTransfer rule)
        (LargeTransferRule.alert config evm signal.signalMeta.timestampMs)
  | governance {rule : GovernanceRule} {event : GovernanceEvent}
      {bucket : List GovernanceRuleConfig}
      {config : GovernanceRuleConfig} (type : signal.type = .governance)
        (payload : signal.payload = .governance event)
      (found : rule.configMap.find? ⟨event.chainId, bytesToHex event.contractAddress⟩ = some bucket)
      (listed : config ∈ bucket) (enabled : config.enabled = true) :
      Emitted signal (.governance rule)
        (GovernanceRule.alert config event signal.signalMeta.timestampMs)
  | mintBurn {rule : MintBurnRule} {event : MintBurnEvent} {bucket : List MintBurnRuleConfig}
      {config : MintBurnRuleConfig} (type : signal.type = .mintBurn)
        (payload : signal.payload = .mintBurn event)
      (found : rule.configMap.find? ⟨event.chainId, bytesToHex event.tokenAddress⟩ = some bucket)
      (listed : config ∈ bucket) (enabled : config.enabled = true) :
      Emitted signal (.mintBurn rule)
        (MintBurnRule.alert config event signal.signalMeta.timestampMs)
  | approval {rule : ApprovalRule} {evm : EvmLogEvent} {bucket : List ApprovalRuleConfig}
      {config : ApprovalRuleConfig} (type : signal.type = .approval)
        (payload : signal.payload = .evmLog evm)
      (found : rule.configMap.find? ⟨evm.chainId, bytesToHex evm.address⟩ = some bucket)
      (listed : config ∈ bucket) (enabled : config.enabled = true) :
      Emitted signal (.approval rule) (ApprovalRule.alert config evm signal.signalMeta.timestampMs)
  | bridgeTransfer {rule : BridgeTransferRule} {evm : EvmLogEvent} {bucket : List BridgeRuleConfig}
      {config : BridgeRuleConfig} (type : signal.type = .transfer)
        (payload : signal.payload = .evmLog evm)
      (found : rule.configsByKey.find? ⟨evm.chainId, evm.address⟩ = some bucket)
      (listed : config ∈ bucket) (enabled : config.enabled = true) :
      Emitted signal (.bridgeTransfer rule)
        (BridgeTransferRule.alert rule.registry config evm signal.signalMeta.timestampMs)
  | oracleUpdate {rule : OracleUpdateRule} {event : OracleUpdateEvent}
      {bucket : List OracleRuleConfig}
      {config : OracleRuleConfig} (change : UInt64) (type : signal.type = .oracleUpdate)
      (payload : signal.payload = .oracleUpdate event)
      (found : rule.configsByFeed.find? (OracleUpdateRule.feedKey event) = some bucket)
      (listed : config ∈ bucket) (enabled : config.enabled = true) :
      Emitted signal (.oracleUpdate rule)
        (OracleUpdateRule.alert config event change signal.signalMeta.timestampMs)

/-! ## Inverting the six evaluators -/

section Inversion

variable {signal : Signal} {alert : Alert}

private theorem mem_selection {Config : Type} {configs : List Config} {selected : Config -> Prop}
    [DecidablePred selected] {made : Config -> Alert}
    (member : alert ∈ configs.filterMap fun config => if selected config
      then some (made config) else none) :
    Exists fun config => config ∈ configs ∧ selected config ∧ alert = made config := by
  rcases List.mem_filterMap.mp member with ⟨config, listed, chosen⟩
  rcases Option.ite_none_right_eq_some.mp chosen with ⟨holds, same⟩
  exact ⟨config, listed, holds, (Option.some.inj same).symm⟩

private theorem bucket_of_mem {Config : Type} {found : Option (List Config)} {config : Config}
    (member : config ∈ found.getD []) : Exists fun bucket => found = some bucket ∧
    config ∈ bucket := by
  cases found with
  | none => cases member
  | some bucket => exact ⟨bucket, rfl, member⟩

private theorem emitted_largeTransfer {rule : LargeTransferRule}
    (member : alert ∈ rule.evaluate signal) : Emitted signal (.largeTransfer rule) alert := by
  cases payload : signal.payload with
  | evmLog evm =>
      cases readable : lacksAmount evm with
      | true => simp [LargeTransferRule.evaluate, payload, readable] at member
      | false =>
          rw [LargeTransferRule.evaluate_evmLog rule payload readable] at member
          rcases mem_selection member with ⟨config, listed, ⟨chain, token, exceeds⟩, rfl⟩
          exact .largeTransfer payload readable listed chain token exceeds
  | _ => simp [LargeTransferRule.evaluate, payload] at member

private theorem emitted_governance {rule : GovernanceRule} (member : alert ∈ rule.evaluate signal) :
    Emitted signal (.governance rule) alert := by
  by_cases type : signal.type = .governance
  · cases payload : signal.payload with
    | governance event =>
        rw [GovernanceRule.evaluate_governance rule type payload] at member
        rcases mem_selection member with ⟨config, listed, ⟨enabled, _⟩, rfl⟩
        rcases bucket_of_mem listed with ⟨bucket, found, inside⟩
        exact .governance type payload found inside enabled
    | _ => simp [GovernanceRule.evaluate, payload] at member
  · simp [GovernanceRule.evaluate, type] at member

private theorem emitted_mintBurn {rule : MintBurnRule} (member : alert ∈ rule.evaluate signal) :
    Emitted signal (.mintBurn rule) alert := by
  by_cases type : signal.type = .mintBurn
  · cases payload : signal.payload with
    | mintBurn event =>
        rw [MintBurnRule.evaluate_mintBurn rule type payload] at member
        rcases mem_selection member with ⟨config, listed, ⟨enabled, _⟩, rfl⟩
        rcases bucket_of_mem listed with ⟨bucket, found, inside⟩
        exact .mintBurn type payload found inside enabled
    | _ => simp [MintBurnRule.evaluate, payload] at member
  · simp [MintBurnRule.evaluate, type] at member

private theorem emitted_approval {rule : ApprovalRule} (member : alert ∈ rule.evaluate signal) :
    Emitted signal (.approval rule) alert := by
  by_cases type : signal.type = .approval
  · cases payload : signal.payload with
    | evmLog evm =>
        cases readable : lacksAmount evm with
        | true => simp [ApprovalRule.evaluate, payload, readable] at member
        | false =>
            rw [ApprovalRule.evaluate_evmLog rule type payload readable] at member
            rcases mem_selection member with ⟨config, listed, ⟨enabled, _⟩, rfl⟩
            rcases bucket_of_mem listed with ⟨bucket, found, inside⟩
            exact .approval type payload found inside enabled
    | _ => simp [ApprovalRule.evaluate, payload] at member
  · simp [ApprovalRule.evaluate, type] at member

private theorem emitted_bridgeTransfer {rule : BridgeTransferRule}
    (member : alert ∈ rule.evaluate signal) : Emitted signal (.bridgeTransfer rule) alert := by
  by_cases type : signal.type = .transfer
  · cases payload : signal.payload with
    | evmLog evm =>
        cases readable : lacksAmount evm with
        | true => simp [BridgeTransferRule.evaluate, payload, readable] at member
        | false =>
            rw [BridgeTransferRule.evaluate_evmLog rule type payload readable] at member
            rcases mem_selection member with ⟨config, listed, ⟨enabled, _⟩, rfl⟩
            rcases bucket_of_mem listed with ⟨bucket, found, inside⟩
            exact .bridgeTransfer type payload found inside enabled
    | _ => simp [BridgeTransferRule.evaluate, payload] at member
  · simp [BridgeTransferRule.evaluate, type] at member

private theorem emitted_oracleUpdate {rule : OracleUpdateRule}
    (member : alert ∈ (rule.evaluate signal).2) : Emitted signal (.oracleUpdate rule) alert := by
  by_cases type : signal.type = .oracleUpdate
  · cases payload : signal.payload with
    | oracleUpdate event =>
        rw [rule.evaluate_oracleUpdate type payload] at member
        cases found : rule.configsByFeed.find? (OracleUpdateRule.feedKey event) with
        | none => simp [found] at member
        | some bucket =>
            rw [found] at member
            dsimp only at member
            split at member
            · -- Only a comparison with a nonzero baseline emits anything.
              unfold OracleUpdateRule.compareWithLast at member
              split at member
              · cases member
              · dsimp only at member
                split at member
                · cases member
                · rw [OracleUpdateRule.spikeAlerts_eq] at member
                  rcases mem_selection member with ⟨config, listed, ⟨enabled, _⟩, rfl⟩
                  exact .oracleUpdate _ type payload found listed enabled
            · cases member
    | _ => simp [OracleUpdateRule.evaluate, payload] at member
  · simp [OracleUpdateRule.evaluate, type] at member

/-- Whatever a rule appends is one of the six kinds. -/
theorem emitted_of_mem_evaluate {rule : Rule} (member : alert ∈ (rule.evaluate signal).2) :
    Emitted signal rule alert := by
  cases rule with
  | largeTransfer inner => exact emitted_largeTransfer member
  | governance inner => exact emitted_governance member
  | mintBurn inner => exact emitted_mintBurn member
  | approval inner => exact emitted_approval member
  | bridgeTransfer inner => exact emitted_bridgeTransfer member
  | oracleUpdate inner => exact emitted_oracleUpdate member

end Inversion

/-! ## Signals outside a rule's interests -/

/-- The signal is a readable log above a threshold of the large transfer
rule, for one of its tokens.  Its type is not looked at. -/
def LooksLarge (rule : Rule) (signal : Signal) : Prop :=
  Exists fun inner => Exists fun evm => Exists fun config =>
    rule = .largeTransfer inner ∧ signal.payload = .evmLog evm ∧ lacksAmount evm = false ∧
      config ∈ inner.configs ∧ evm.chainId = config.chainId ∧ evm.address = config.tokenAddress ∧
        greaterBe256 evm.data.bytes config.thresholdBe.bytes = true

/-- A signal whose type the rule did not ask for changes nothing. -/
def IgnoresOutside (rule : Rule) (signal : Signal) : Prop :=
  rule.interestedIn signal.type.index = false -> rule.evaluate signal = (rule, [])

/-- The routing table makes no difference to the alerts of a signal. -/
def RoutingInvisible (engine : RiskEngine) (signal : Signal) : Prop :=
  (engine.processSignal signal).2 = engine.rules.flatMap fun rule => (rule.evaluate signal).2

section Outside

variable {signal : Signal}

private theorem interested_iff {rule : Rule} :
    rule.interestedIn signal.type.index = true ↔ signal.type = rule.signalType := by
  rw [Rule.interestedIn_eq, decide_eq_true_eq]

/-- Five rules test the type; the sixth emits what looks like a large
transfer. -/
private theorem looksLarge_of_emitted {rule : Rule} {alert : Alert}
    (emitted : Emitted signal rule alert) (outside : rule.interestedIn signal.type.index = false) :
    LooksLarge rule signal := by
  have differs : signal.type ≠ rule.signalType := by
    intro same
    rw [interested_iff.mpr same] at outside
    cases outside
  cases emitted with
  | largeTransfer payload readable listed chain token exceeds =>
      exact ⟨_, _, _, rfl, payload, readable, listed, chain, token, exceeds⟩
  | governance type => exact absurd type differs
  | mintBurn type => exact absurd type differs
  | approval type => exact absurd type differs
  | bridgeTransfer type => exact absurd type differs
  | oracleUpdate change type => exact absurd type differs

private theorem mem_evaluate_of_looksLarge {rule : Rule} (looks : LooksLarge rule signal) :
    (rule.evaluate signal).2 ≠ [] := by
  rcases looks with ⟨inner, evm, config, rfl, payload, readable, listed, chain, token, exceeds⟩
  apply List.ne_nil_of_mem (a := LargeTransferRule.alert config evm signal.signalMeta.timestampMs)
  change _ ∈ inner.evaluate signal
  rw [LargeTransferRule.evaluate_evmLog inner payload readable]
  apply List.mem_filterMap.mpr
  exact ⟨config, listed, if_pos ⟨chain, token, exceeds⟩⟩

/-- Outside its interests a rule never changes. -/
private theorem evaluate_fst_of_outside {rule : Rule}
    (outside : rule.interestedIn signal.type.index = false) : (rule.evaluate signal).1 = rule := by
  cases rule with
  | oracleUpdate inner =>
      have differs : signal.type ≠ .oracleUpdate := by
        intro same
        rw [interested_iff.mpr same] at outside
        cases outside
      simp [Rule.evaluate, OracleUpdateRule.evaluate, differs]
  | largeTransfer | governance | mintBurn | approval | bridgeTransfer => rfl

private theorem alerts_eq_nil_iff {rule : Rule}
    (outside : rule.interestedIn signal.type.index = false) :
    (rule.evaluate signal).2 = [] ↔ ¬ LooksLarge rule signal := by
  constructor
  · intro silent looks
    exact mem_evaluate_of_looksLarge looks silent
  · intro plain
    apply List.eq_nil_iff_forall_not_mem.mpr
    intro alert member
    exact plain (looksLarge_of_emitted (emitted_of_mem_evaluate member) outside)

/-- Choosing some of the parts gives the whole only when the others are
empty. -/
private theorem flatMap_ite_eq_iff {Item Part : Type} (chosen : Item -> Bool)
    (parts : Item -> List Part) (items : List Item) :
    (items.flatMap fun item => if chosen item then parts item else []) = items.flatMap parts ↔
      forall item, item ∈ items -> chosen item = false -> parts item = [] := by
  induction items with
  | nil => simp
  | cons item rest inductionHypothesis =>
      have shorter : (rest.flatMap fun item => if chosen item then parts item else []).length ≤
          (rest.flatMap parts).length := by
        simp only [List.length_flatMap]
        apply List.sum_le_sum
        intro other _
        cases chosen other <;> simp
      rw [List.flatMap_cons, List.flatMap_cons, List.forall_mem_cons]
      cases taken : chosen item with
      | true =>
          rw [if_pos rfl, List.append_cancel_left_eq, inductionHypothesis]
          simp
      | false =>
          rw [if_neg (by decide), List.nil_append]
          constructor
          · intro same
            have lengths := congrArg List.length same
            rw [List.length_append] at lengths
            have none : parts item = [] := List.length_eq_zero_iff.mp (by omega)
            rw [none, List.nil_append] at same
            exact ⟨fun _ => none, inductionHypothesis.mp same⟩
          · rintro ⟨none, others⟩
            rw [none rfl, List.nil_append]
            exact inductionHypothesis.mpr others

end Outside

/-- A rule ignores a signal outside its interests exactly when the signal does
not look like a large transfer to it; and the routing table is invisible
exactly when no registered rule takes a signal of another type for a large
transfer. -/
theorem routing_invisible_iff (rule : Rule) (engine : RiskEngine) (signal : Signal) :
    (IgnoresOutside rule signal ↔
      ¬ (rule.interestedIn signal.type.index = false ∧ LooksLarge rule signal)) ∧
    (RoutingInvisible engine signal ↔
      forall registered, registered ∈ engine.rules ->
        ¬ (registered.interestedIn signal.type.index = false ∧ LooksLarge registered signal)) := by
  constructor
  · rw [not_and]
    apply imp_congr_right
    intro outside
    rw [← alerts_eq_nil_iff outside, Prod.ext_iff]
    exact and_iff_right (evaluate_fst_of_outside outside)
  · unfold RoutingInvisible
    rw [RiskEngine.processSignal_alerts]
    refine (flatMap_ite_eq_iff (fun registered => registered.interestedIn signal.type.index)
      (fun registered => (registered.evaluate signal).2) engine.rules).trans ?_
    apply forall_congr'
    intro registered
    apply imp_congr_right
    intro _
    rw [not_and]
    apply imp_congr_right
    intro outside
    exact alerts_eq_nil_iff outside

/-- An approval of 2000 units of a token. -/
private def sampleApproval : EvmLogEvent where
  chainId := 1
  txIndex := 0
  logIndex := 0
  removed := false
  address := Bytes.ofNat 20 7
  topicCount := 3
  topics := fun _ => Bytes.zeros 32
  dataSize := 32
  data := (Bytes.zeros 256).overwrite (Bytes.ofNat 32 2000).bytes
  truncated := false

private def sampleConfig : LargeTransferRuleConfig where
  customerId := 1
  chainId := 1
  tokenAddress := Bytes.ofNat 20 7
  thresholdBe := Bytes.ofNat 32 1000

private def sampleSignal (type : SignalType) : Signal where
  type := type
  signalMeta := { timestampMs := 12345, internalIngressTimeMs := 99 }
  payload := .evmLog sampleApproval

private theorem sample_looksLarge (type : SignalType) :
    LooksLarge (.largeTransfer ⟨[sampleConfig]⟩) (sampleSignal type) :=
  ⟨⟨[sampleConfig]⟩, sampleApproval, sampleConfig, rfl, rfl,
    by decide, List.mem_singleton_self _, rfl, rfl,
    by decide +kernel⟩

/-- Asked directly, the large transfer rule reports the approval; through the
routing table it is never asked. -/
theorem approval_taken_for_transfer :
    ¬ IgnoresOutside (.largeTransfer ⟨[sampleConfig]⟩) (sampleSignal .approval) ∧
      ¬ RoutingInvisible (.ofRules [.largeTransfer ⟨[sampleConfig]⟩]) (sampleSignal .approval) := by
  have outside : Rule.interestedIn (.largeTransfer ⟨[sampleConfig]⟩)
      (sampleSignal .approval).type.index = false := by
    decide
  have reported := mem_evaluate_of_looksLarge (sample_looksLarge .approval)
  constructor
  · intro ignores
    apply reported
    rw [ignores outside]
  · intro invisible
    unfold RoutingInvisible at invisible
    rw [RiskEngine.processSignal_alerts, RiskEngine.ofRules_rules, List.flatMap_singleton,
      List.flatMap_singleton,
      RiskEngine.ruleAlerts, outside] at invisible
    exact reported invisible.symm

/-! ## Where an alert comes from -/

/-- The chain and the contract of the event in a payload. -/
def SignalPayload.origin? : SignalPayload -> Option (UInt64 × Bytes 20)
  | .evmLog evm => some (evm.chainId, evm.address)
  | .governance event => some (event.chainId, event.contractAddress)
  | .mintBurn event => some (event.chainId, event.tokenAddress)
  | .oracleUpdate event => some (event.chainId, event.aggregatorAddress)
  | .empty | .priceTick _ | .poolSnapshot _ _ | .control _ => none

/-- The entries of every bucket have the chain and the address of its key, as
the loaders of both programs build them. -/
def Rule.KeysMatch : Rule -> Prop
  | .largeTransfer _ => True
  | .governance rule => forall key bucket, rule.configMap.find? key = some bucket ->
      forall config, config ∈ bucket -> config.chainId = key.chainId ∧
      config.contractAddress = key.contractAddress
  | .mintBurn rule => forall key bucket, rule.configMap.find? key = some bucket ->
      forall config, config ∈ bucket -> config.chainId = key.chainId ∧
      config.contractAddress = key.contractAddress
  | .approval rule => forall key bucket, rule.configMap.find? key = some bucket ->
      forall config, config ∈ bucket -> config.chainId = key.chainId ∧
      bytesToHex config.tokenAddress = key.tokenAddress
  | .bridgeTransfer rule => forall key bucket, rule.configsByKey.find? key = some bucket ->
      forall config, config ∈ bucket -> config.chainId = key.chainId ∧
      config.tokenAddress = key.tokenAddress
  | .oracleUpdate rule => forall key bucket, rule.configsByFeed.find? key = some bucket ->
      forall config, config ∈ bucket ->
        config.chainId = key.chainId ∧ config.aggregatorAddress = key.aggregatorAddress

/-- The customer has a configuration for the chain and the address, and it is
not switched off. -/
def Rule.Watches (rule : Rule) (customerId chainId : UInt64) (address : Bytes 20) : Prop :=
  match rule with
  | .largeTransfer rule => Exists fun config => config ∈ rule.configs ∧
      config.customerId = customerId ∧
      config.chainId = chainId ∧ config.tokenAddress = address
  | .governance rule => Exists fun config => config ∈ rule.configMap.entries.flatMap Prod.snd ∧
      config.customerId = customerId ∧ config.chainId = chainId ∧
      config.contractAddress = bytesToHex address ∧
        config.enabled = true
  | .mintBurn rule => Exists fun config => config ∈ rule.configMap.entries.flatMap Prod.snd ∧
      config.customerId = customerId ∧ config.chainId = chainId ∧
      config.contractAddress = bytesToHex address ∧
        config.enabled = true
  | .approval rule => Exists fun config => config ∈ rule.configMap.entries.flatMap Prod.snd ∧
      config.customerId = customerId ∧ config.chainId = chainId ∧ config.tokenAddress = address ∧
        config.enabled = true
  | .bridgeTransfer rule => Exists fun config =>
      config ∈ rule.configsByKey.entries.flatMap Prod.snd ∧
      config.customerId = customerId ∧ config.chainId = chainId ∧ config.tokenAddress = address ∧
        config.enabled = true
  | .oracleUpdate rule => Exists fun config =>
      config ∈ rule.configsByFeed.entries.flatMap Prod.snd ∧
      config.customerId = customerId ∧ config.chainId = chainId ∧
      config.aggregatorAddress = address ∧
        config.enabled = true

/-- The fields that every rule takes over. -/
structure FromEvent (rule : Rule) (signal : Signal) (alert : Alert) : Prop where
  timestampMs : alert.timestampMs = signal.signalMeta.timestampMs
  ruleType : alert.ruleType = rule.ruleTypeName
  origin : Exists fun chainId => Exists fun address =>
    signal.payload.origin? = some (chainId, address) ∧ alert.chainId = some chainId ∧
      alert.tokenAddress = some (bytesToHex address) ∧ rule.Watches alert.customerId chainId address

/-- The dispatcher observes the latency of an alert that has a time of
ingress. -/
def measuresLatency (alert : Alert) : Bool :=
  decide (0 < alert.internalIngressTimeMs)

/-- What an alert should carry of its signal. -/
structure Provenance (rule : Rule) (signal : Signal) (alert : Alert) : Prop extends
    FromEvent rule signal alert where
  internalIngressTimeMs : alert.internalIngressTimeMs = signal.signalMeta.internalIngressTimeMs
  measured : 0 < signal.signalMeta.internalIngressTimeMs -> measuresLatency alert = true

private theorem mem_buckets {Key Config : Type} [DecidableEq Key]
    {table : Table Key (List Config)} {key : Key} {bucket : List Config} {config : Config}
    (found : table.find? key = some bucket) (listed : config ∈ bucket) :
    config ∈ table.entries.flatMap Prod.snd := by
  apply List.mem_flatMap.mpr
  exact ⟨(key, bucket), Table.mem_of_find? found, listed⟩

/-- Whatever is emitted comes from the event and from an entry for it. -/
private theorem fromEvent_of_emitted {rule : Rule} (keyed : rule.KeysMatch)
    {signal : Signal} {alert : Alert} (emitted : Emitted signal rule alert) :
    FromEvent rule signal alert := by
  cases emitted with
  | @largeTransfer inner evm config payload _ listed chain token _ =>
      refine ⟨rfl, rfl, evm.chainId, evm.address,
        by rw [payload]; rfl, ?_, ?_, config, listed, rfl, ?_, ?_⟩
      · exact congrArg some chain.symm
      · exact congrArg (fun address => some (bytesToHex address)) token.symm
      · exact chain.symm
      · exact token.symm
  | @governance inner event bucket config _ payload found listed enabled =>
      have matched := keyed _ bucket found config listed
      exact ⟨rfl, rfl, event.chainId, event.contractAddress, by rw [payload]; rfl, rfl, rfl, config,
        mem_buckets found listed, rfl, matched.1, matched.2, enabled⟩
  | @mintBurn inner event bucket config _ payload found listed enabled =>
      have matched := keyed _ bucket found config listed
      exact ⟨rfl, rfl, event.chainId, event.tokenAddress, by rw [payload]; rfl, rfl, rfl, config,
        mem_buckets found listed, rfl, matched.1, matched.2, enabled⟩
  | @approval inner evm bucket config _ payload found listed enabled =>
      have matched := keyed _ bucket found config listed
      exact ⟨rfl, rfl, evm.chainId, evm.address, by rw [payload]; rfl, rfl, rfl, config,
        mem_buckets found listed, rfl, matched.1, bytesToHex_inj matched.2, enabled⟩
  | @bridgeTransfer inner evm bucket config _ payload found listed enabled =>
      have matched := keyed _ bucket found config listed
      -- The alert has the chain of the entry, and the entry that of its key.
      exact ⟨rfl, rfl, evm.chainId, evm.address,
        by rw [payload]; rfl, congrArg some matched.1, rfl, config,
        mem_buckets found listed, rfl, matched.1, matched.2, enabled⟩
  | @oracleUpdate inner event bucket config change _ payload found listed enabled =>
      have matched := keyed _ bucket found config listed
      exact ⟨rfl, rfl, event.chainId, event.aggregatorAddress,
        by rw [payload]; rfl, rfl, rfl, config,
        mem_buckets found listed, rfl, matched.1, matched.2, enabled⟩

/-- No rule copies the time of ingress. -/
theorem internalIngressTimeMs_of_emitted {rule : Rule} {signal : Signal} {alert : Alert}
    (emitted : Emitted signal rule alert) : alert.internalIngressTimeMs = 0 := by
  cases emitted <;> rfl

/-- An alert carries everything it should exactly when its signal has no time
of ingress.  All other fields are always right. -/
theorem provenance_iff_unstamped {rule : Rule} (keyed : rule.KeysMatch)
    {signal : Signal} {alert : Alert} (member : alert ∈ (rule.evaluate signal).2) :
    FromEvent rule signal alert ∧
      (Provenance rule signal alert ↔ signal.signalMeta.internalIngressTimeMs = 0) := by
  have emitted := emitted_of_mem_evaluate member
  have unset := internalIngressTimeMs_of_emitted emitted
  have copied := fromEvent_of_emitted keyed emitted
  refine ⟨copied, fun provenance => ?_, fun unstamped => ?_⟩
  · rw [← provenance.internalIngressTimeMs, unset]
  · refine { copied with
      internalIngressTimeMs := unset.trans unstamped.symm
      measured := fun stamped => ?_ }
    rw [unstamped] at stamped
    exact absurd stamped (UInt64.lt_irrefl 0)

private theorem sample_member :
    LargeTransferRule.alert sampleConfig sampleApproval 12345 ∈
      (Rule.evaluate (.largeTransfer ⟨[sampleConfig]⟩) (sampleSignal .transfer)).2 := by
  have payload : (sampleSignal .transfer).payload = .evmLog sampleApproval := rfl
  change _ ∈ LargeTransferRule.evaluate ⟨[sampleConfig]⟩ (sampleSignal .transfer)
  rw [LargeTransferRule.evaluate_evmLog _ payload (by decide)]
  apply List.mem_filterMap.mpr
  exact ⟨sampleConfig, List.mem_singleton_self _, if_pos ⟨rfl, rfl, by decide +kernel⟩⟩

theorem sample_transfer_fromEvent :
    LargeTransferRule.alert sampleConfig sampleApproval 12345 ∈
        (Rule.evaluate (.largeTransfer ⟨[sampleConfig]⟩) (sampleSignal .transfer)).2 ∧
      FromEvent (.largeTransfer ⟨[sampleConfig]⟩) (sampleSignal .transfer)
        (LargeTransferRule.alert sampleConfig sampleApproval 12345) := by
  have keyed : Rule.KeysMatch (.largeTransfer ⟨[sampleConfig]⟩) := trivial
  exact ⟨sample_member, (provenance_iff_unstamped keyed sample_member).1⟩

/-- A transfer stamped at 99 gives an alert without the stamp. -/
theorem stamped_transfer_loses_ingress :
    (sampleSignal .transfer).signalMeta.internalIngressTimeMs = 99 ∧
      Exists fun alert => alert ∈
        (Rule.evaluate (.largeTransfer ⟨[sampleConfig]⟩) (sampleSignal .transfer)).2 ∧
        measuresLatency alert = false ∧
          ¬ Provenance (.largeTransfer ⟨[sampleConfig]⟩) (sampleSignal .transfer) alert := by
  refine ⟨rfl, LargeTransferRule.alert sampleConfig sampleApproval 12345, sample_member, rfl, ?_⟩
  intro provenance
  have copied := provenance.internalIngressTimeMs
  exact absurd copied (by decide)

end Risk
end RiskSentinel
