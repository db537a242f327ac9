import RiskSentinel.Foundation.Loading
import RiskSentinel.Risk.RiskEngine

namespace RiskSentinel
namespace App

open Foundation Events Risk

/-!
# The rule loaders of the live program

At its start the program reads the enabled rules of every customer from the
database, with one loader for each kind of rule.  The model begins at the
result of each query: a row is what the query selects, and the columns that
the program parses itself, addresses and thresholds, are arbitrary text.

The loaders are siblings with different handlers.  Large transfers and oracle
feeds catch the failure of one row inside the loop and go on.  Mints and
burns, approvals and bridges have a single handler around the loop.  There a
malformed row of one customer ends the loading for all customers behind it,
and a malformed bridge contract ends it before any bridge rule is read.
-/

/-! ## Rows as the queries select them -/

structure LargeTransferRow where
  customerId : UInt64
  paramsJsonb : String

structure GovernanceRow where
  customerId : UInt64
  chainId : UInt64
  contractAddress : String
  enabled : Bool

structure MintBurnRow where
  customerId : UInt64
  chainId : UInt64
  contractAddress : String
  mintThresholdRaw : String
  burnThresholdRaw : String
  enabled : Bool

structure ApprovalRow where
  customerId : UInt64
  chainId : UInt64
  tokenAddress : String
  thresholdRaw : String
  alertOnInfinite : Bool
  enabled : Bool

structure BridgeContractRow where
  chainId : UInt64
  address : String
  bridgeName : String

structure BridgeRuleRow where
  customerId : UInt64
  chainId : UInt64
  tokenAddress : String
  thresholdRaw : String

structure OracleRow where
  customerId : UInt64
  chainId : UInt64
  aggregatorAddress : String
  feedLabel : String
  spikeThresholdBps : Int
  decimals : Int

/-- The results of all queries. -/
structure DatabaseRows where
  largeTransfer : List LargeTransferRow := []
  governance : List GovernanceRow := []
  mintBurn : List MintBurnRow := []
  approval : List ApprovalRow := []
  bridgeContracts : List BridgeContractRow := []
  bridgeRules : List BridgeRuleRow := []
  oracle : List OracleRow := []

/-- What the loader of large transfers uses of the JSON library.  The two
accessors return their last argument when the object has no such key. -/
structure JsonLibrary (Json : Type) where
  parse : String -> Except String Json
  valueUint64 : Json -> String -> UInt64 -> Except String UInt64
  valueString : Json -> String -> String -> Except String String

/-! ## Reading one row -/

/-- The body of the loop of `load_large_transfer_configs_`. -/
def readLargeTransferRow {Json : Type} (json : JsonLibrary Json) (row : LargeTransferRow) :
    Except String LargeTransferRuleConfig := do
  let params ← json.parse row.paramsJsonb
  let chainId ← json.valueUint64 params "chain_id" 42161
  let tokenStr ← json.valueString params "token_address" "0xFd086bC7CD5C481DCC9C85ebE478A1C0b69FCbb9"
  let tokenAddress ← parseHexBytes tokenStr (Bytes.zeros 20)
  let thresholdStr ← json.valueString params "threshold" "10000000000"
  let thresholdBe ← decimalToBe256 thresholdStr
  return { customerId := row.customerId, chainId, tokenAddress, thresholdBe }

/-- The body of the loop of `load_governance_configs_`.  The address is not
decoded, so no row fails. -/
def readGovernanceRow (row : GovernanceRow) :
    Except String (GovernanceContractKey × GovernanceRuleConfig) :=
  let contractAddress := lower row.contractAddress
  .ok (⟨row.chainId, contractAddress⟩,
    { customerId := row.customerId, chainId := row.chainId, contractAddress, enabled := row.enabled
      actionFilter := none })

/-- The body of the loop of `load_mint_burn_configs_`. -/
def readMintBurnRow (row : MintBurnRow) :
    Except String (MintBurnContractKey × MintBurnRuleConfig) := do
  let contractAddress := lower row.contractAddress
  let mintThresholdBe ← decimalToBe256 row.mintThresholdRaw
  let burnThresholdBe ← decimalToBe256 row.burnThresholdRaw
  return (⟨row.chainId, contractAddress⟩,
    { customerId := row.customerId, chainId := row.chainId, contractAddress,
      mintThresholdBe, burnThresholdBe
      enabled := row.enabled })

/-- The body of the loop of `load_approval_configs_`. -/
def readApprovalRow (row : ApprovalRow) :
    Except String (ApprovalContractKey × ApprovalRuleConfig) := do
  let tokenText := lower row.tokenAddress
  let tokenAddress ← parseHexBytes tokenText (Bytes.zeros 20)
  let thresholdBe ← decimalToBe256 row.thresholdRaw
  return (⟨row.chainId, tokenText⟩,
    { customerId := row.customerId, chainId := row.chainId, tokenAddress, thresholdBe
      alertOnInfinite := row.alertOnInfinite, enabled := row.enabled })

/-- The body of the first loop of `load_bridge_configs_`. -/
def readBridgeContractRow (row : BridgeContractRow) :
    Except String (BridgeAddressKey × String) := do
  let address ← parseHexBytes (lower row.address) (Bytes.zeros 20)
  return (⟨row.chainId, address⟩, row.bridgeName)

/-- The body of the second loop of `load_bridge_configs_`. -/
def readBridgeRuleRow (row : BridgeRuleRow) : Except String (BridgeRuleKey × BridgeRuleConfig) := do
  let tokenAddress ← parseHexBytes (lower row.tokenAddress) (Bytes.zeros 20)
  let thresholdBe ← decimalToBe256 row.thresholdRaw
  return (⟨row.chainId, tokenAddress⟩,
    { customerId := row.customerId, chainId := row.chainId, tokenAddress, thresholdBe,
      enabled := true })

/-- The end of the warnings about a skipped feed. -/
def oracleRowText (row : OracleRow) : String :=
  " for customer_id=" ++ toString row.customerId.toNat ++ " aggregator=" ++
    lower row.aggregatorAddress

/-- The body of the loop of `load_oracle_configs_`.  The error is the text of
the warning with which the row is skipped. -/
def readOracleRow (row : OracleRow) : Except String (OracleFeedKey × OracleRuleConfig) :=
  if row.spikeThresholdBps ≤ 0 ∨ 100000 < row.spikeThresholdBps then
    .error ("Skipping oracle rule with out-of-range spike_threshold_bps=" ++
      toString row.spikeThresholdBps ++ oracleRowText row)
  else if row.decimals < 0 ∨ 255 < row.decimals then
    .error ("Skipping oracle rule with out-of-range decimals=" ++ toString row.decimals ++
      oracleRowText row)
  else
    match parseHexBytes (lower row.aggregatorAddress) (Bytes.zeros 20) with
    | .error cause =>
        .error ("Skipping oracle rule with malformed aggregator_address='" ++
          lower row.aggregatorAddress ++
          "' for customer_id=" ++ toString row.customerId.toNat ++ ": " ++ cause)
    | .ok aggregatorAddress =>
        .ok (⟨row.chainId, aggregatorAddress⟩,
          { customerId := row.customerId, chainId := row.chainId, aggregatorAddress,
            feedLabel := row.feedLabel
            spikeThresholdBps := UInt32.ofNat row.spikeThresholdBps.toNat
            decimals := UInt8.ofNat row.decimals.toNat, enabled := true })

/-! What each row gives when its texts are in order. -/

theorem readMintBurnRow_ok {row : MintBurnRow} {mintThresholdBe burnThresholdBe : Bytes 32}
    (mint : decimalToBe256 row.mintThresholdRaw = .ok mintThresholdBe)
    (burn : decimalToBe256 row.burnThresholdRaw = .ok burnThresholdBe) :
    readMintBurnRow row = .ok (⟨row.chainId, lower row.contractAddress⟩,
      { customerId := row.customerId, chainId := row.chainId,
        contractAddress := lower row.contractAddress
        mintThresholdBe, burnThresholdBe, enabled := row.enabled }) := by
  simp only [readMintBurnRow, mint, burn, bind, Except.bind, pure, Except.pure]

theorem readApprovalRow_ok {row : ApprovalRow} {tokenAddress : Bytes 20} {thresholdBe : Bytes 32}
    (token : parseHexBytes (lower row.tokenAddress) (Bytes.zeros 20) = .ok tokenAddress)
    (threshold : decimalToBe256 row.thresholdRaw = .ok thresholdBe) :
    readApprovalRow row = .ok (⟨row.chainId, lower row.tokenAddress⟩,
      { customerId := row.customerId, chainId := row.chainId, tokenAddress, thresholdBe
        alertOnInfinite := row.alertOnInfinite, enabled := row.enabled }) := by
  simp only [readApprovalRow, token, threshold, bind, Except.bind, pure, Except.pure]

theorem readBridgeContractRow_ok {row : BridgeContractRow} {address : Bytes 20}
    (decoded : parseHexBytes (lower row.address) (Bytes.zeros 20) = .ok address) :
    readBridgeContractRow row = .ok (⟨row.chainId, address⟩, row.bridgeName) := by
  simp only [readBridgeContractRow, decoded, bind, Except.bind, pure, Except.pure]

theorem readBridgeRuleRow_ok {row : BridgeRuleRow} {tokenAddress : Bytes 20}
    {thresholdBe : Bytes 32}
    (token : parseHexBytes (lower row.tokenAddress) (Bytes.zeros 20) = .ok tokenAddress)
    (threshold : decimalToBe256 row.thresholdRaw = .ok thresholdBe) :
    readBridgeRuleRow row = .ok (⟨row.chainId, tokenAddress⟩,
      { customerId := row.customerId, chainId := row.chainId, tokenAddress, thresholdBe,
        enabled := true }) := by
  simp only [readBridgeRuleRow, token, threshold, bind, Except.bind, pure, Except.pure]

theorem readOracleRow_ok {row : OracleRow} {aggregatorAddress : Bytes 20}
    (bps : ¬ (row.spikeThresholdBps ≤ 0 ∨ 100000 < row.spikeThresholdBps))
    (decimals : ¬ (row.decimals < 0 ∨ 255 < row.decimals))
    (decoded : parseHexBytes (lower row.aggregatorAddress)
      (Bytes.zeros 20) = .ok aggregatorAddress) :
    readOracleRow row = .ok (⟨row.chainId, aggregatorAddress⟩,
      { customerId := row.customerId, chainId := row.chainId, aggregatorAddress,
        feedLabel := row.feedLabel
        spikeThresholdBps := UInt32.ofNat row.spikeThresholdBps.toNat
        decimals := UInt8.ofNat row.decimals.toNat, enabled := true }) := by
  rw [readOracleRow, if_neg bps, if_neg decimals, decoded]

/-! ## The loaders -/

def loadLargeTransferConfigs {Json : Type} (json : JsonLibrary Json)
    (rows : List LargeTransferRow) : List LargeTransferRuleConfig :=
  loadSkippingFailures (readLargeTransferRow json)
    (fun configs config => configs ++ [config]) [] rows

def loadGovernanceConfigs (rows : List GovernanceRow) :
    Table GovernanceContractKey (List GovernanceRuleConfig) :=
  (loadUntilFailure readGovernanceRow Table.pushEntry Table.empty rows).1

def loadMintBurnConfigs (rows : List MintBurnRow) :
    Table MintBurnContractKey (List MintBurnRuleConfig) :=
  (loadUntilFailure readMintBurnRow Table.pushEntry Table.empty rows).1

def loadApprovalConfigs (rows : List ApprovalRow) :
    Table ApprovalContractKey (List ApprovalRuleConfig) :=
  (loadUntilFailure readApprovalRow Table.pushEntry Table.empty rows).1

/-- Both loops share one handler.  Without a single registered contract the
second query is not made. -/
def loadBridgeConfigs (contracts : List BridgeContractRow) (rules : List BridgeRuleRow) :
    BridgeRegistry × Table BridgeRuleKey (List BridgeRuleConfig) :=
  match loadUntilFailure readBridgeContractRow registerBridge ⟨[], Table.empty⟩ contracts with
  | (registry, some _) => (registry, Table.empty)
  | (registry, none) =>
      if registry.addresses.isEmpty then (registry, Table.empty)
      else (registry, (loadUntilFailure readBridgeRuleRow Table.pushEntry Table.empty rules).1)

def loadOracleConfigs (rows : List OracleRow) : Table OracleFeedKey (List OracleRuleConfig) :=
  loadSkippingFailures readOracleRow Table.pushEntry Table.empty rows

/-- The tables from which `register_rules_` builds the rules. -/
def loadRuleTables {Json : Type} (json : JsonLibrary Json) (rows : DatabaseRows) : RuleTables where
  largeTransferConfigs := loadLargeTransferConfigs json rows.largeTransfer
  governanceRulesByContract := loadGovernanceConfigs rows.governance
  mintBurnRulesByContract := loadMintBurnConfigs rows.mintBurn
  approvalRulesByContract := loadApprovalConfigs rows.approval
  bridgeConfigsByKey := (loadBridgeConfigs rows.bridgeContracts rows.bridgeRules).2
  bridges := (loadBridgeConfigs rows.bridgeContracts rows.bridgeRules).1
  oracleConfigsByFeed := loadOracleConfigs rows.oracle

/-! ## The tables as functions of the loaded entries -/

theorem loadLargeTransferConfigs_eq {Json : Type} (json : JsonLibrary Json)
    (rows : List LargeTransferRow) :
    loadLargeTransferConfigs json rows = loadedEntries (readLargeTransferRow json) rows := by
  have appended : forall configs more : List LargeTransferRuleConfig,
      more.foldl (fun stored config => stored ++ [config]) configs = configs ++ more := by
    intro configs more
    induction more generalizing configs with
    | nil => simp
    | cons config rest inductionHypothesis =>
        rw [List.foldl_cons, inductionHypothesis, List.append_assoc, List.singleton_append]
  rw [loadLargeTransferConfigs, loadSkippingFailures_eq, appended, List.nil_append]

theorem loadOracleConfigs_eq (rows : List OracleRow) :
    loadOracleConfigs rows = Table.empty.pushBackAll (loadedEntries readOracleRow rows) :=
  loadSkippingFailures_eq readOracleRow Table.pushEntry Table.empty rows

theorem loads_governance (row : GovernanceRow) : loads readGovernanceRow row = true := rfl

theorem loadGovernanceConfigs_eq (rows : List GovernanceRow) :
    loadGovernanceConfigs rows = Table.empty.pushBackAll
      (loadedEntries readGovernanceRow rows) := by
  rw [loadGovernanceConfigs, loadUntilFailure_of_forall _ _ _ fun row _ => loads_governance row]
  rfl

/-- With one handler around the loop the table holds the entries before the
first failure. -/
theorem loadUntilFailure_table {Row Key Config : Type} [DecidableEq Key]
    (read : Row -> Except String (Key × Config)) (rows : List Row) :
    (loadUntilFailure read Table.pushEntry Table.empty rows).1 =
      Table.empty.pushBackAll (loadedEntries read (rows.takeWhile (loads read))) :=
  loadUntilFailure_state read Table.pushEntry Table.empty rows

/-- What the loader of bridges leaves, by whether every contract loads. -/
theorem loadBridgeConfigs_eq (contracts : List BridgeContractRow) (rules : List BridgeRuleRow) :
    loadBridgeConfigs contracts rules =
      (registryOf (loadedEntries readBridgeContractRow
        (contracts.takeWhile (loads readBridgeContractRow))),
        if (forall row, row ∈ contracts -> loads readBridgeContractRow row = true) ∧
        contracts ≠ [] then
          Table.empty.pushBackAll
            (loadedEntries readBridgeRuleRow (rules.takeWhile (loads readBridgeRuleRow)))
        else Table.empty) := by
  have registered := loadUntilFailure_state readBridgeContractRow registerBridge
    ⟨[], Table.empty⟩ contracts
  have failed := loadUntilFailure_failure readBridgeContractRow registerBridge
    ⟨[], Table.empty⟩ contracts
  unfold loadBridgeConfigs
  cases outcome : loadUntilFailure readBridgeContractRow registerBridge
    ⟨[], Table.empty⟩ contracts with
  | mk registry failure =>
      rw [outcome] at registered failed
      have left : registry = registryOf
          (loadedEntries readBridgeContractRow
            (contracts.takeWhile (loads readBridgeContractRow))) := registered
      cases failure with
      | some cause =>
          have someFails : ¬ ((forall row, row ∈ contracts ->
              loads readBridgeContractRow row = true) ∧
              contracts ≠ []) := by
            rintro ⟨all, _⟩
            cases failed.mpr all
          rw [if_neg someFails, ← left]
      | none =>
          have all := failed.mp rfl
          change (if registry.addresses.isEmpty then _ else _) = _
          rw [← left]
          by_cases unset : contracts = []
          · have noContracts :
                ¬ ((forall row, row ∈ contracts -> loads readBridgeContractRow row = true) ∧
                contracts ≠ []) := fun both => both.2 unset
            have none : registry.addresses.isEmpty = true := by
              rw [left, unset]
              rfl
            rw [if_neg noContracts, if_pos none]
          · have some : ¬ registry.addresses.isEmpty = true := by
              intro none
              rw [left, isEmpty_addresses_registryOf, List.takeWhile_eq_self_iff.mpr all,
                loadedEntries_eq_nil_iff] at none
              rcases List.exists_mem_of_ne_nil contracts unset with ⟨row, member⟩
              exact Bool.false_ne_true ((none row member).symm.trans (all row member))
            rw [if_neg some, if_pos (And.intro all unset), loadUntilFailure_table]

/-! ## What a bad row costs -/

/-- Two sets of tables hold the same: hash maps and sets are compared
by what is found in them. -/
structure SameTables (left right : RuleTables) : Prop where
  largeTransfer : left.largeTransferConfigs = right.largeTransferConfigs
  governance : forall key,
    left.governanceRulesByContract.find? key = right.governanceRulesByContract.find? key
  mintBurn : forall key,
    left.mintBurnRulesByContract.find? key = right.mintBurnRulesByContract.find? key
  approval : forall key,
    left.approvalRulesByContract.find? key = right.approvalRulesByContract.find? key
  bridgeConfigs : forall key, left.bridgeConfigsByKey.find? key = right.bridgeConfigsByKey.find? key
  bridgeAddresses : forall key, key ∈ left.bridges.addresses ↔ key ∈ right.bridges.addresses
  bridgeNames : forall key, left.bridges.names.find? key = right.bridges.names.find? key
  oracle : forall key, left.oracleConfigsByFeed.find? key = right.oracleConfigsByFeed.find? key

/-- Only the rows that load on their own. -/
def DatabaseRows.loadable {Json : Type} (json : JsonLibrary Json) (rows : DatabaseRows) :
    DatabaseRows where
  largeTransfer := rows.largeTransfer.filter (loads (readLargeTransferRow json))
  governance := rows.governance.filter (loads readGovernanceRow)
  mintBurn := rows.mintBurn.filter (loads readMintBurnRow)
  approval := rows.approval.filter (loads readApprovalRow)
  bridgeContracts := rows.bridgeContracts.filter (loads readBridgeContractRow)
  bridgeRules := rows.bridgeRules.filter (loads readBridgeRuleRow)
  oracle := rows.oracle.filter (loads readOracleRow)

/-- The name that a list of contracts gives to an address: that of its last
row that loads. -/
def bridgeNameIn (contracts : List BridgeContractRow) (key : BridgeAddressKey) : Option String :=
  (loadedEntries readBridgeContractRow contracts).reverse.lookup key

/-- When all contracts load, there are none or the bad bridge rules stand
last.  When one does not, the contracts behind it repeat what those before it
say, and there is nothing that the missing bridge rules could apply to: no
contract loads at all, or no bridge rule does. -/
def BridgeFailuresHarmless (contracts : List BridgeContractRow) (rules : List BridgeRuleRow) :
    Prop :=
  ((forall row, row ∈ contracts -> loads readBridgeContractRow row = true) ->
      contracts = [] ∨ FailuresLast readBridgeRuleRow rules) ∧
    ((¬ forall row, row ∈ contracts -> loads readBridgeContractRow row = true) ->
      (forall key, bridgeNameIn (contracts.takeWhile (loads readBridgeContractRow)) key =
        bridgeNameIn contracts key) ∧
      ((forall row, row ∈ contracts -> loads readBridgeContractRow row = false) ∨
        forall row, row ∈ rules -> loads readBridgeRuleRow row = false))

/-- No row that loads stands behind a bad one where a single handler
surrounds the loop. -/
structure DatabaseRows.FailuresHarmless (rows : DatabaseRows) : Prop where
  mintBurn : FailuresLast readMintBurnRow rows.mintBurn
  approval : FailuresLast readApprovalRow rows.approval
  bridge : BridgeFailuresHarmless rows.bridgeContracts rows.bridgeRules

/-- One loader with a single handler around its loop. -/
private theorem same_table_iff {Row Key Config : Type} [DecidableEq Key]
    (read : Row -> Except String (Key × Config)) (rows : List Row) :
    (forall key, (loadUntilFailure read Table.pushEntry Table.empty rows).1.find? key =
        (loadUntilFailure read Table.pushEntry Table.empty
          (rows.filter (loads read))).1.find? key) ↔
      FailuresLast read rows := by
  rw [loadUntilFailure_table, loadUntilFailure_table, takeWhile_filter_loads, loadedEntries_filter,
    loadedEntries_split read rows, Table.pushBackAll_append, Table.find?_eq_pushBackAll_iff,
    loadedEntries_dropWhile_eq_nil_iff]

private theorem harmless_iff_of_all {contracts : List BridgeContractRow}
    {rules : List BridgeRuleRow}
    (all : forall row, row ∈ contracts -> loads readBridgeContractRow row = true) :
    BridgeFailuresHarmless contracts rules ↔ contracts = [] ∨
    FailuresLast readBridgeRuleRow rules :=
  ⟨fun harmless => harmless.1 all, fun last => ⟨fun _ => last, fun some => absurd all some⟩⟩

private theorem harmless_iff_of_failure {contracts : List BridgeContractRow}
    {rules : List BridgeRuleRow}
    (failure : ¬ forall row, row ∈ contracts -> loads readBridgeContractRow row = true) :
    BridgeFailuresHarmless contracts rules ↔
      (forall key, bridgeNameIn (contracts.takeWhile (loads readBridgeContractRow)) key =
        bridgeNameIn contracts key) ∧
      ((forall row, row ∈ contracts -> loads readBridgeContractRow row = false) ∨
        forall row, row ∈ rules -> loads readBridgeRuleRow row = false) :=
  ⟨fun harmless => harmless.2 failure, fun both => ⟨fun all => absurd all failure, fun _ => both⟩⟩

/-- The bridge rules that are read when only loadable rows are offered. -/
private theorem bridgeRules_loadable (contracts : List BridgeContractRow)
    (rules : List BridgeRuleRow) :
    (loadBridgeConfigs (contracts.filter (loads readBridgeContractRow))
        (rules.filter (loads readBridgeRuleRow))).2 =
      if contracts.filter (loads readBridgeContractRow) ≠ [] then
        Table.empty.pushBackAll (loadedEntries readBridgeRuleRow rules)
      else Table.empty := by
  have allGood : forall row, row ∈ contracts.filter (loads readBridgeContractRow) ->
      loads readBridgeContractRow row = true := fun row member => (List.mem_filter.mp member).2
  rw [loadBridgeConfigs_eq, takeWhile_filter_loads, takeWhile_filter_loads, loadedEntries_filter,
    loadedEntries_filter]
  by_cases some : contracts.filter (loads readBridgeContractRow) ≠ []
  · rw [if_pos some]
    exact if_pos ⟨allGood, some⟩
  · rw [if_neg some]
    exact if_neg fun both => some both.2

private theorem bridges_loadable (contracts : List BridgeContractRow) (rules : List BridgeRuleRow) :
    (loadBridgeConfigs (contracts.filter (loads readBridgeContractRow))
        (rules.filter (loads readBridgeRuleRow))).1 =
      registryOf (loadedEntries readBridgeContractRow contracts) := by
  rw [loadBridgeConfigs_eq, takeWhile_filter_loads, loadedEntries_filter]

private theorem same_bridges_iff (contracts : List BridgeContractRow) (rules : List BridgeRuleRow) :
    ((forall key, (loadBridgeConfigs contracts rules).2.find? key =
        (loadBridgeConfigs (contracts.filter (loads readBridgeContractRow))
          (rules.filter (loads readBridgeRuleRow))).2.find? key) ∧
      forall key, (loadBridgeConfigs contracts rules).1.names.find? key =
        (loadBridgeConfigs (contracts.filter (loads readBridgeContractRow))
          (rules.filter (loads readBridgeRuleRow))).1.names.find? key) ↔
      BridgeFailuresHarmless contracts rules := by
  rw [bridgeRules_loadable, bridges_loadable, loadBridgeConfigs_eq]
  simp only [find?_names_registryOf]
  by_cases all : forall row, row ∈ contracts -> loads readBridgeContractRow row = true
  · rw [harmless_iff_of_all all, List.filter_eq_self.mpr all, List.takeWhile_eq_self_iff.mpr all]
    by_cases unset : contracts = []
    · simp [unset]
    · rw [if_pos (And.intro all unset), if_pos unset, loadedEntries_split readBridgeRuleRow rules,
        Table.pushBackAll_append, Table.find?_eq_pushBackAll_iff,
        loadedEntries_dropWhile_eq_nil_iff]
      simp [unset]
  · have stopped : ¬ ((forall row, row ∈ contracts -> loads readBridgeContractRow row = true) ∧
        contracts ≠ []) :=
      fun both => all both.1
    rw [harmless_iff_of_failure all, if_neg stopped, and_comm]
    apply and_congr Iff.rfl
    by_cases none : contracts.filter (loads readBridgeContractRow) = []
    · have bad : forall row, row ∈ contracts -> loads readBridgeContractRow row = false :=
        fun row member =>
        Bool.eq_false_iff.mpr (List.filter_eq_nil_iff.mp none row member)
      rw [if_neg (not_not_intro none)]
      exact ⟨fun _ => Or.inl bad, fun _ _ => rfl⟩
    · have good : ¬ forall row, row ∈ contracts ->
          loads readBridgeContractRow row = false := fun bad =>
        none (List.filter_eq_nil_iff.mpr fun row member => Bool.eq_false_iff.mp (bad row member))
      rw [if_pos none, Table.find?_eq_pushBackAll_iff, loadedEntries_eq_nil_iff]
      exact ⟨Or.inr, fun either => either.resolve_left good⟩

/-- Every table is what the loadable rows alone would give, whatever the other
rows contain, exactly when no loadable row stands behind a bad one in the
loaders with a single handler. -/
theorem bad_rows_cost_nothing_iff {Json : Type} (json : JsonLibrary Json) (rows : DatabaseRows) :
    SameTables (loadRuleTables json rows) (loadRuleTables json (rows.loadable json)) ↔
    rows.FailuresHarmless := by
  constructor
  · intro same
    exact ⟨(same_table_iff readMintBurnRow rows.mintBurn).mp same.mintBurn,
      (same_table_iff readApprovalRow rows.approval).mp same.approval,
      (same_bridges_iff rows.bridgeContracts rows.bridgeRules).mp
        ⟨same.bridgeConfigs, same.bridgeNames⟩⟩
  · intro harmless
    have bridges := (same_bridges_iff rows.bridgeContracts rows.bridgeRules).mpr harmless.bridge
    refine {
      largeTransfer := ?_
      governance := fun key => ?_
      mintBurn := (same_table_iff readMintBurnRow rows.mintBurn).mpr harmless.mintBurn
      approval := (same_table_iff readApprovalRow rows.approval).mpr harmless.approval
      bridgeConfigs := bridges.1
      bridgeAddresses := fun key => ?_
      bridgeNames := bridges.2
      oracle := fun key => ?_ }
    · exact (loadLargeTransferConfigs_eq json _).trans
        ((loadedEntries_filter _ _).symm.trans (loadLargeTransferConfigs_eq json _).symm)
    · exact congrArg (fun kept => (loadGovernanceConfigs kept).find? key)
        (List.filter_eq_self.mpr fun row _ => loads_governance row).symm
    · -- An address is registered when it has a name.
      have named := bridges.2 key
      simp only [loadRuleTables, DatabaseRows.loadable] at named ⊢
      rw [bridges_loadable, loadBridgeConfigs_eq] at named ⊢
      rw [find?_names_registryOf, find?_names_registryOf] at named
      rw [mem_addresses_iff_named, mem_addresses_iff_named, named]
    · simp only [loadRuleTables, DatabaseRows.loadable, loadOracleConfigs_eq, loadedEntries_filter]

/-- A reader of JSON that finds an object without keys in every text. -/
private def emptyObject : JsonLibrary Unit where
  parse := fun _ => .ok ()
  valueUint64 := fun _ _ fallback => .ok fallback
  valueString := fun _ _ fallback => .ok fallback

/-- The first customer's threshold has a thousands separator; the second
customer's row is in order. -/
private def separatorInThreshold : DatabaseRows where
  mintBurn :=
    [{ customerId := 1, chainId := 1, contractAddress := "0xdac17f958d2ee523a2206206994597c13d831ec7"
       mintThresholdRaw := "1,000,000", burnThresholdRaw := "1000000", enabled := true },
      { customerId := 2, chainId := 1,
        contractAddress := "0xa0b86991c6218b36c1d19d4a2e9eb0ce3606eb48"
        mintThresholdRaw := "1000000", burnThresholdRaw := "1000000", enabled := true }]

/-- The second customer's rule is not loaded, though its row loads alone. -/
theorem second_customer_not_loaded :
    (loadRuleTables emptyObject separatorInThreshold).mintBurnRulesByContract.size = 0 ∧
      (loadRuleTables emptyObject
        (separatorInThreshold.loadable emptyObject)).mintBurnRulesByContract.size = 1 ∧
      ¬ SameTables (loadRuleTables emptyObject separatorInThreshold)
        (loadRuleTables emptyObject (separatorInThreshold.loadable emptyObject)) := by
  refine ⟨by decide +kernel, by decide +kernel, fun same => ?_⟩
  have found := same.mintBurn ⟨1, "0xa0b86991c6218b36c1d19d4a2e9eb0ce3606eb48"⟩
  revert found
  decide +kernel

end App
end RiskSentinel
