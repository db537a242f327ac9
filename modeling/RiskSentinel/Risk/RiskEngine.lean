import RiskSentinel.Risk.Rules

namespace RiskSentinel
namespace Risk

open Foundation

/-!
# Routing signals to rules

Registration stores a rule in every row of the routing table whose bit is set
in the rule's mask.  The table holds positions into the list of registered
objects, the model of the source's pointers: a rule that is reached through
the table is updated in place.

An engine carries the proof that its table is the one registration built.
Evaluation keeps it, because no rule changes its interests.  The table can
then be forgotten: a signal is shown to every interested rule in registration
order.
-/

/-- The positions of the rules interested in one row, in registration order. -/
def interestedPositions (index : Nat) : Nat -> List Rule -> List Nat
  | _, [] => []
  | position, rule :: rest =>
      if rule.interestedIn index then position :: interestedPositions index (position + 1) rest
      else interestedPositions index (position + 1) rest

structure RiskEngine where
  rules : List Rule
  routingTable : Nat -> List Nat
  routed : forall index, index < signalTypeCount ->
    routingTable index = interestedPositions index 0 rules

namespace RiskEngine

def empty : RiskEngine where
  rules := []
  routingTable := fun _ => []
  routed := fun _ _ => rfl

theorem interestedPositions_append (index position : Nat) (rules : List Rule) (rule : Rule) :
    interestedPositions index position (rules ++ [rule]) =
      if rule.interestedIn index then
        interestedPositions index position rules ++ [position + rules.length]
      else interestedPositions index position rules := by
  induction rules generalizing position with
  | nil => cases selected : rule.interestedIn index <;> simp [interestedPositions, selected]
  | cons head rest inductionHypothesis =>
      have next : position + 1 + rest.length = position + (head :: rest).length := by
        rw [List.length_cons]
        omega
      cases selected : rule.interestedIn index <;> cases first : head.interestedIn index <;>
        simp [interestedPositions, inductionHypothesis, selected, first, next]

def registerRule (engine : RiskEngine) (rule : Rule) : RiskEngine where
  rules := engine.rules ++ [rule]
  routingTable := fun index =>
    if decide (index < signalTypeCount) && rule.interestedIn index then
      engine.routingTable index ++ [engine.rules.length]
    else engine.routingTable index
  routed := by
    intro index inside
    rw [interestedPositions_append, engine.routed index inside]
    cases selected : rule.interestedIn index <;> simp [inside]

/-- The engine after registering the rules in order. -/
def ofRules (rules : List Rule) : RiskEngine :=
  rules.foldl registerRule empty

/-- Show the signal to the rule at one position. -/
def evaluateAt (signal : Signal) (state : List Rule × List Alert) (position : Nat) :
    List Rule × List Alert :=
  match state.1[position]? with
  | some rule => (state.1.set position (rule.evaluate signal).1,
      state.2 ++ (rule.evaluate signal).2)
  | none => state

/-- The loop over the row of the signal's type. -/
def evaluateRow (engine : RiskEngine) (signal : Signal) : List Rule × List Alert :=
  if signal.type.index < signalTypeCount then
    (engine.routingTable signal.type.index).foldl (evaluateAt signal) (engine.rules, [])
  else
    (engine.rules, [])

/-! ## The table says no more than the masks -/

/-- What a registered rule becomes when a signal passes through. -/
def stepRule (signal : Signal) (rule : Rule) : Rule :=
  if rule.interestedIn signal.type.index then (rule.evaluate signal).1 else rule

/-- The alerts of one registered rule for a signal. -/
def ruleAlerts (signal : Signal) (rule : Rule) : List Alert :=
  if rule.interestedIn signal.type.index then (rule.evaluate signal).2 else []

private theorem foldl_evaluateAt (signal : Signal) (visited remaining : List Rule)
    (alerts : List Alert) :
    (interestedPositions signal.type.index visited.length remaining).foldl (evaluateAt signal)
        (visited ++ remaining, alerts) =
      (visited ++ remaining.map (stepRule signal),
        alerts ++ remaining.flatMap (ruleAlerts signal)) := by
  induction remaining generalizing visited alerts with
  | nil => simp [interestedPositions]
  | cons rule rest inductionHypothesis =>
      have atPosition : (visited ++ rule :: rest)[visited.length]? = some rule := by simp
      have moved : forall other : Rule,
          visited ++ other :: rest = (visited ++ [other]) ++ rest := by
        simp
      cases selected : rule.interestedIn signal.type.index with
      | true =>
          have here : evaluateAt signal (visited ++ rule :: rest, alerts) visited.length =
              (visited ++ [(rule.evaluate signal).1] ++ rest,
                alerts ++ (rule.evaluate signal).2) := by
            simp [evaluateAt]
          have next := inductionHypothesis (visited ++ [(rule.evaluate signal).1])
            (alerts ++ (rule.evaluate signal).2)
          rw [List.length_append, List.length_singleton] at next
          simp only [interestedPositions, selected, if_true, List.foldl_cons, here, next]
          simp [stepRule, ruleAlerts, selected]
      | false =>
          have next := inductionHypothesis (visited ++ [rule]) alerts
          rw [List.length_append, List.length_singleton] at next
          simp only [interestedPositions, selected, Bool.false_eq_true, if_false, moved, next]
          simp [stepRule, ruleAlerts, selected]

/-- The row of the table visits exactly the interested rules, each once and
in registration order. -/
theorem evaluateRow_eq (engine : RiskEngine) (signal : Signal) :
    engine.evaluateRow signal =
      (engine.rules.map (stepRule signal), engine.rules.flatMap (ruleAlerts signal)) := by
  rw [evaluateRow, if_pos signal.type.index_lt, engine.routed _ signal.type.index_lt]
  simpa using foldl_evaluateAt signal [] engine.rules []

theorem interestedIn_stepRule (signal : Signal) (rule : Rule) (index : Nat) :
    (stepRule signal rule).interestedIn index = rule.interestedIn index := by
  unfold stepRule
  cases rule <;> split <;> rfl

private theorem interestedPositions_map (signal : Signal) (index position : Nat)
    (rules : List Rule) :
    interestedPositions index position (rules.map (stepRule signal)) =
      interestedPositions index position rules := by
  induction rules generalizing position with
  | nil => rfl
  | cons rule rest inductionHypothesis =>
      simp only [List.map_cons, interestedPositions, interestedIn_stepRule, inductionHypothesis]

/-- One signal taken from the ring buffer: the engine afterwards and the
alerts it hands to the dispatcher. -/
def processSignal (engine : RiskEngine) (signal : Signal) : RiskEngine × List Alert :=
  ({ rules := (engine.evaluateRow signal).1
     routingTable := engine.routingTable
     routed := by
       intro index inside
       rw [engine.routed index inside, evaluateRow_eq, interestedPositions_map] },
    (engine.evaluateRow signal).2)

@[simp] theorem processSignal_rules (engine : RiskEngine) (signal : Signal) :
    (engine.processSignal signal).1.rules = engine.rules.map (stepRule signal) := by
  simp [processSignal, evaluateRow_eq]

@[simp] theorem processSignal_alerts (engine : RiskEngine) (signal : Signal) :
    (engine.processSignal signal).2 = engine.rules.flatMap (ruleAlerts signal) := by
  simp [processSignal, evaluateRow_eq]

/-- The alerts of a sequence of signals, in order. -/
def processAll : RiskEngine -> List Signal -> RiskEngine × List Alert
  | engine, [] => (engine, [])
  | engine, signal :: rest =>
      let first := engine.processSignal signal
      let others := processAll first.1 rest
      (others.1, first.2 ++ others.2)

theorem processAll_append (engine : RiskEngine) (earlier later : List Signal) :
    engine.processAll (earlier ++ later) =
      let first := engine.processAll earlier
      let second := first.1.processAll later
      (second.1, first.2 ++ second.2) := by
  induction earlier generalizing engine with
  | nil => simp [processAll]
  | cons signal rest inductionHypothesis =>
      simp only [List.cons_append, processAll, inductionHypothesis, List.append_assoc]

/-- The alerts of a sequence of signals without the routing table: for every
signal the interested rules in their order, each with what it has seen so
far. -/
def sequentialAlerts : List Rule -> List Signal -> List Alert
  | _, [] => []
  | rules, signal :: rest =>
      rules.flatMap (ruleAlerts signal) ++ sequentialAlerts (rules.map (stepRule signal)) rest

theorem processAll_alerts (engine : RiskEngine) (signals : List Signal) :
    (engine.processAll signals).2 = sequentialAlerts engine.rules signals := by
  induction signals generalizing engine with
  | nil => rfl
  | cons signal rest inductionHypothesis =>
      simp only [processAll, sequentialAlerts, processSignal_alerts, inductionHypothesis,
        processSignal_rules]

/-- What comes later does not change the alerts on what came before. -/
theorem sequentialAlerts_prefix (rules : List Rule) {earlier later : List Signal}
    (begins : earlier <+: later) :
    sequentialAlerts rules earlier <+: sequentialAlerts rules later := by
  rcases begins with ⟨rest, rfl⟩
  induction earlier generalizing rules with
  | nil => exact List.nil_prefix
  | cons signal earlier inductionHypothesis =>
      rw [List.cons_append, sequentialAlerts, sequentialAlerts]
      exact (List.prefix_append_right_inj _).mpr (inductionHypothesis _)

@[simp] theorem ofRules_rules (rules : List Rule) : (ofRules rules).rules = rules := by
  have general : forall (engine : RiskEngine) (more : List Rule),
      (more.foldl registerRule engine).rules = engine.rules ++ more := by
    intro engine more
    induction more generalizing engine with
    | nil => simp
    | cons rule rest inductionHypothesis =>
        rw [List.foldl_cons, inductionHypothesis]
        simp [registerRule]
  exact general empty rules

end RiskEngine

/-! ## The registry of bridge contracts -/

/-- A bridge contract enters the set of addresses and gives it a name. -/
def registerBridge (registry : BridgeRegistry) (entry : BridgeAddressKey × String) :
    BridgeRegistry where
  addresses := if registry.addresses.contains entry.1 then registry.addresses
    else registry.addresses ++ [entry.1]
  names := registry.names.assign entry.1 entry.2

/-- The registry that a list of contracts leaves. -/
def registryOf (entries : List (BridgeAddressKey × String)) : BridgeRegistry :=
  entries.foldl registerBridge ⟨[], Table.empty⟩

private theorem foldl_registerBridge (registry : BridgeRegistry)
    (entries : List (BridgeAddressKey × String)) :
    (entries.foldl registerBridge registry).names = registry.names.assignAll entries ∧
      forall key, key ∈ (entries.foldl registerBridge registry).addresses ↔
        key ∈ registry.addresses ∨ key ∈ entries.map Prod.fst := by
  induction entries generalizing registry with
  | nil => exact ⟨rfl, fun key => by simp⟩
  | cons entry rest inductionHypothesis =>
      have here : forall key, key ∈ (registerBridge registry entry).addresses ↔
          key ∈ registry.addresses ∨ key = entry.1 := by
        intro key
        unfold registerBridge
        by_cases known : entry.1 ∈ registry.addresses
        · rw [if_pos (List.contains_iff_mem.mpr known)]
          constructor
          · exact Or.inl
          · rintro (listed | rfl)
            · exact listed
            · exact known
        · rw [if_neg fun listed => known (List.contains_iff_mem.mp listed), List.mem_append,
            List.mem_singleton]
      have others := inductionHypothesis (registerBridge registry entry)
      refine ⟨others.1, fun key => ?_⟩
      rw [List.foldl_cons, others.2 key, here key, List.map_cons, List.mem_cons, or_assoc]

@[simp] theorem find?_names_registryOf (entries : List (BridgeAddressKey × String))
    (key : BridgeAddressKey) :
    (registryOf entries).names.find? key = entries.reverse.lookup key := by
  rw [registryOf, (foldl_registerBridge _ entries).1, Table.find?_assignAll,
    Table.find?_empty, Option.or_none]

theorem mem_addresses_registryOf (entries : List (BridgeAddressKey × String))
    (key : BridgeAddressKey) :
    key ∈ (registryOf entries).addresses ↔ key ∈ entries.map Prod.fst := by
  rw [registryOf, (foldl_registerBridge _ entries).2]
  simp

theorem isEmpty_addresses_registryOf (entries : List (BridgeAddressKey × String)) :
    (registryOf entries).addresses.isEmpty = true ↔ entries = [] := by
  rw [List.isEmpty_iff, List.eq_nil_iff_forall_not_mem]
  simp only [mem_addresses_registryOf]
  rw [← List.eq_nil_iff_forall_not_mem, List.map_eq_nil_iff]

/-- A registered address is one that has a name. -/
theorem mem_addresses_iff_named (entries : List (BridgeAddressKey × String))
    (key : BridgeAddressKey) :
    key ∈ (registryOf entries).addresses ↔ (entries.reverse.lookup key).isSome = true := by
  rw [mem_addresses_registryOf, List.lookup_isSome_iff]
  simp

/-! ## Registered rules of the two programs -/

/-- The rule tables as the loaders of either program leave them. -/
structure RuleTables where
  largeTransferConfigs : List LargeTransferRuleConfig
  governanceRulesByContract : Table GovernanceContractKey (List GovernanceRuleConfig)
  mintBurnRulesByContract : Table MintBurnContractKey (List MintBurnRuleConfig)
  approvalRulesByContract : Table ApprovalContractKey (List ApprovalRuleConfig)
  bridgeConfigsByKey : Table BridgeRuleKey (List BridgeRuleConfig)
  bridges : BridgeRegistry
  oracleConfigsByFeed : Table OracleFeedKey (List OracleRuleConfig)

namespace RuleTables

/-- Tables without any entry. -/
def empty : RuleTables where
  largeTransferConfigs := []
  governanceRulesByContract := Table.empty
  mintBurnRulesByContract := Table.empty
  approvalRulesByContract := Table.empty
  bridgeConfigsByKey := Table.empty
  bridges := ⟨[], Table.empty⟩
  oracleConfigsByFeed := Table.empty

/-- All six rules in the order of registration, the oracle rule with the
observations it has made so far. -/
def rulesWith (tables : RuleTables) (lastByFeed : Table OracleFeedKey LastObservation) :
    List Rule :=
  [.largeTransfer ⟨tables.largeTransferConfigs⟩,
    .governance ⟨tables.governanceRulesByContract⟩,
    .mintBurn ⟨tables.mintBurnRulesByContract⟩,
    .approval ⟨tables.approvalRulesByContract⟩,
    .bridgeTransfer ⟨tables.bridgeConfigsByKey, tables.bridges⟩,
    .oracleUpdate ⟨tables.oracleConfigsByFeed, lastByFeed⟩]

/-- `App::register_rules_` registers all six rules. -/
def registerRules (tables : RuleTables) : List Rule :=
  tables.rulesWith Table.empty

/-- `BacktestApp::run` registers a rule only when its section has entries. -/
def registerNonemptyRules (tables : RuleTables) : List Rule :=
  (if tables.largeTransferConfigs.isEmpty then []
    else [.largeTransfer ⟨tables.largeTransferConfigs⟩]) ++
    (if tables.governanceRulesByContract.size == 0 then []
      else [.governance ⟨tables.governanceRulesByContract⟩]) ++
    (if tables.mintBurnRulesByContract.size == 0 then []
      else [.mintBurn ⟨tables.mintBurnRulesByContract⟩]) ++
    (if tables.approvalRulesByContract.size == 0 then []
      else [.approval ⟨tables.approvalRulesByContract⟩]) ++
    (if tables.bridgeConfigsByKey.size == 0 then []
      else [.bridgeTransfer ⟨tables.bridgeConfigsByKey, tables.bridges⟩]) ++
    (if tables.oracleConfigsByFeed.size == 0 then []
      else [.oracleUpdate { configsByFeed := tables.oracleConfigsByFeed }])

end RuleTables

/-! ## Rules without entries -/

namespace RiskEngine

/-- The rule never raises an alert and never changes. -/
def Silent (rule : Rule) : Prop :=
  forall signal, rule.evaluate signal = (rule, [])

/-- The second list is the first one without some of its silent rules. -/
inductive DropsSilent : List Rule -> List Rule -> Prop
  | nil : DropsSilent [] []
  | keep {rules kept : List Rule} (rule : Rule) (rest : DropsSilent rules kept) :
      DropsSilent (rule :: rules) (rule :: kept)
  | drop {rules kept : List Rule} {rule : Rule} (silent : Silent rule)
      (rest : DropsSilent rules kept) :
      DropsSilent (rule :: rules) kept

namespace DropsSilent

theorem append {firstRules firstKept secondRules secondKept : List Rule}
    (first : DropsSilent firstRules firstKept) (second : DropsSilent secondRules secondKept) :
    DropsSilent (firstRules ++ secondRules) (firstKept ++ secondKept) := by
  induction first with
  | nil => exact second
  | keep rule _ inductionHypothesis => exact .keep rule inductionHypothesis
  | drop silent _ inductionHypothesis => exact .drop silent inductionHypothesis

theorem optional {rule : Rule} {unused : Bool} (silent : unused = true -> Silent rule) :
    DropsSilent [rule] (if unused then [] else [rule]) := by
  cases unused with
  | true => exact .drop (silent rfl) .nil
  | false => exact .keep rule .nil

/-- One signal: the alerts are the same, and so is the relation of what the
rules become. -/
theorem step {rules kept : List Rule} (drops : DropsSilent rules kept) (signal : Signal) :
    rules.flatMap (ruleAlerts signal) = kept.flatMap (ruleAlerts signal) ∧
      DropsSilent (rules.map (stepRule signal)) (kept.map (stepRule signal)) := by
  induction drops with
  | nil => exact ⟨rfl, .nil⟩
  | keep rule _ inductionHypothesis =>
      refine ⟨?_, .keep _ inductionHypothesis.2⟩
      rw [List.flatMap_cons, List.flatMap_cons, inductionHypothesis.1]
  | @drop rules kept rule silent _ inductionHypothesis =>
      have same : stepRule signal rule = rule := by
        unfold stepRule
        rw [silent signal, ite_self]
      have none : ruleAlerts signal rule = [] := by
        unfold ruleAlerts
        rw [silent signal, ite_self]
      refine ⟨?_, ?_⟩
      · rw [List.flatMap_cons, none, List.nil_append, inductionHypothesis.1]
      · rw [List.map_cons, same]
        exact .drop silent inductionHypothesis.2

/-- Over a whole run the silent rules make no difference. -/
theorem sequentialAlerts_eq {rules kept : List Rule} (drops : DropsSilent rules kept)
    (signals : List Signal) : sequentialAlerts rules signals = sequentialAlerts kept signals := by
  induction signals generalizing rules kept with
  | nil => rfl
  | cons signal rest inductionHypothesis =>
      rcases drops.step signal with ⟨alerts, next⟩
      simp only [sequentialAlerts, alerts, inductionHypothesis next]

end DropsSilent

private theorem find?_of_size_zero {K V : Type} [DecidableEq K] {table : Table K V}
    (none : (table.size == 0) = true) (key : K) : table.find? key = Option.none := by
  cases found : table.find? key with
  | none => rfl
  | some value => exact absurd (beq_iff_eq.mp none) (Table.ne_empty_of_find? found)

/-- The rule has no entries. -/
def unused : Rule -> Bool
  | .largeTransfer rule => rule.configs.isEmpty
  | .governance rule => rule.configMap.size == 0
  | .mintBurn rule => rule.configMap.size == 0
  | .approval rule => rule.configMap.size == 0
  | .bridgeTransfer rule => rule.configsByKey.size == 0
  | .oracleUpdate rule => rule.configsByFeed.size == 0

theorem silent_of_unused {rule : Rule} (none : unused rule = true) : Silent rule := by
  intro signal
  cases rule with
  | largeTransfer rule =>
      simp only [Rule.evaluate, LargeTransferRule.evaluate, List.isEmpty_iff.mp none,
        List.filterMap_nil]
      repeat' split
      all_goals rfl
  | governance rule =>
      simp only [Rule.evaluate, GovernanceRule.evaluate, find?_of_size_zero none]
      repeat' split
      all_goals rfl
  | mintBurn rule =>
      simp only [Rule.evaluate, MintBurnRule.evaluate, find?_of_size_zero none]
      repeat' split
      all_goals rfl
  | approval rule =>
      simp only [Rule.evaluate, ApprovalRule.evaluate, find?_of_size_zero none]
      repeat' split
      all_goals rfl
  | bridgeTransfer rule =>
      simp only [Rule.evaluate, BridgeTransferRule.evaluate, find?_of_size_zero none]
      repeat' split
      all_goals rfl
  | oracleUpdate rule =>
      simp only [Rule.evaluate, OracleUpdateRule.evaluate, find?_of_size_zero none]
      repeat' split
      all_goals rfl

/-- Without a registered contract no transfer goes to a bridge. -/
theorem silent_unregistered {rule : BridgeTransferRule} (none : rule.registry.addresses = []) :
    Silent (.bridgeTransfer rule) := by
  intro signal
  simp only [Rule.evaluate, BridgeTransferRule.evaluate, none, List.contains_nil,
    Bool.not_false, if_true]
  repeat' split
  all_goals rfl

/-- It makes no difference that only one of the programs registers rules
without entries. -/
theorem dropsSilent_registerNonemptyRules (tables : RuleTables) :
    DropsSilent tables.registerRules tables.registerNonemptyRules := by
  have each : forall rule, DropsSilent [rule] (if unused rule then [] else [rule]) := fun rule =>
    .optional silent_of_unused
  exact (((((each (.largeTransfer ⟨tables.largeTransferConfigs⟩)).append
    (each (.governance ⟨tables.governanceRulesByContract⟩))).append
    (each (.mintBurn ⟨tables.mintBurnRulesByContract⟩))).append
    (each (.approval ⟨tables.approvalRulesByContract⟩))).append
    (each (.bridgeTransfer ⟨tables.bridgeConfigsByKey, tables.bridges⟩))).append
    (each (.oracleUpdate ⟨tables.oracleConfigsByFeed, Table.empty⟩))

end RiskEngine

end Risk
end RiskSentinel
