import RiskSentinel.Backtest.RowsInFile

namespace RiskSentinel

/-!
# The same rules in production and in a backtest

The two loaders are written independently.  One folds addresses to lower case
with the C function, the other with a helper of its own, one validates them
and the other does not, and large transfers keep their case in the database.
Three tables are keyed by the lowercase text of an address and are asked with
the text of an event's address, the others are keyed by bytes.

None of this is visible in the alerts.  A row in order is read as the same
entry by both loaders, and whatever the key of its table, the entry is found
by an event exactly when the chains agree and the row's address decodes to the
event's.  The live program registers rules without entries and leaves out the
bridge rules when there is no bridge, which changes no alert either.
-/

namespace Risk

open Foundation Events

/-! ## The configurations that a rule consults for an event -/

/-- The configurations that pass the two comparisons of the loop. -/
def LargeTransferRule.consulted (rule : LargeTransferRule) (evm : EvmLogEvent) :
    List LargeTransferRuleConfig :=
  rule.configs.filter fun config =>
    decide (evm.chainId = config.chainId ∧ evm.address = config.tokenAddress)

/-- The bucket of the event's contract. -/
def GovernanceRule.consulted (rule : GovernanceRule) (event : GovernanceEvent) :
    List GovernanceRuleConfig :=
  (rule.configMap.find? ⟨event.chainId, bytesToHex event.contractAddress⟩).getD []

/-- The bucket of the event's token. -/
def MintBurnRule.consulted (rule : MintBurnRule) (event : MintBurnEvent) :
    List MintBurnRuleConfig :=
  (rule.configMap.find? ⟨event.chainId, bytesToHex event.tokenAddress⟩).getD []

/-- The bucket of the log's token. -/
def ApprovalRule.consulted (rule : ApprovalRule) (evm : EvmLogEvent) : List ApprovalRuleConfig :=
  (rule.configMap.find? ⟨evm.chainId, bytesToHex evm.address⟩).getD []

/-- The bucket of the log's token, if the recipient is a bridge. -/
def BridgeTransferRule.consulted (rule : BridgeTransferRule) (evm : EvmLogEvent) :
    List BridgeRuleConfig :=
  if bridgeKey evm ∈ rule.registry.addresses
    then (rule.configsByKey.find? ⟨evm.chainId, evm.address⟩).getD []
  else []

/-- The bucket of the event's feed. -/
def OracleUpdateRule.consulted (rule : OracleUpdateRule) (event : OracleUpdateEvent) :
    List OracleRuleConfig :=
  (rule.configsByFeed.find? (feedKey event)).getD []

theorem LargeTransferRule.evaluate_consulted (rule : LargeTransferRule) {signal : Signal}
    {evm : EvmLogEvent} (payload : signal.payload = .evmLog evm)
    (readable : lacksAmount evm = false) :
    rule.evaluate signal = (rule.consulted evm).filterMap fun config =>
      if greaterBe256 evm.data.bytes config.thresholdBe.bytes = true then
        some (alert config evm signal.signalMeta.timestampMs)
      else none := by
  rw [rule.evaluate_evmLog payload readable, consulted, List.filterMap_filter]
  congr 1
  funext config
  by_cases wanted : evm.chainId = config.chainId ∧ evm.address = config.tokenAddress
  · simp [wanted]
  · have rejected : ¬ (evm.chainId = config.chainId ∧ evm.address = config.tokenAddress ∧
        greaterBe256 evm.data.bytes config.thresholdBe.bytes = true) := fun all => wanted
          ⟨all.1, all.2.1⟩
    rw [if_neg rejected]
    simp [wanted]

theorem GovernanceRule.evaluate_consulted (rule : GovernanceRule) {signal : Signal}
    {event : GovernanceEvent} (type : signal.type = .governance)
    (payload : signal.payload = .governance event) :
    rule.evaluate signal = (rule.consulted event).filterMap fun config =>
      if config.enabled = true ∧ passesFilter config event.action = true then
        some (alert config event signal.signalMeta.timestampMs)
      else none :=
  rule.evaluate_governance type payload

theorem MintBurnRule.evaluate_consulted (rule : MintBurnRule) {signal : Signal}
    {event : MintBurnEvent} (type : signal.type = .mintBurn)
    (payload : signal.payload = .mintBurn event) :
    rule.evaluate signal = (rule.consulted event).filterMap fun config =>
      if config.enabled = true ∧ isAlert config event = true then
        some (alert config event signal.signalMeta.timestampMs)
      else none :=
  rule.evaluate_mintBurn type payload

theorem ApprovalRule.evaluate_consulted (rule : ApprovalRule) {signal : Signal} {evm : EvmLogEvent}
    (type : signal.type = .approval) (payload : signal.payload = .evmLog evm)
    (readable : lacksAmount evm = false) :
    rule.evaluate signal = (rule.consulted evm).filterMap fun config =>
      if config.enabled = true ∧ isAlert config evm = true then
        some (alert config evm signal.signalMeta.timestampMs)
      else none :=
  rule.evaluate_evmLog type payload readable

theorem BridgeTransferRule.evaluate_consulted (rule : BridgeTransferRule) {signal : Signal}
    {evm : EvmLogEvent} (type : signal.type = .transfer) (payload : signal.payload = .evmLog evm)
    (readable : lacksAmount evm = false) :
    rule.evaluate signal = (rule.consulted evm).filterMap fun config =>
      if config.enabled = true ∧ greaterBe256 evm.data.bytes config.thresholdBe.bytes = true then
        some (alert rule.registry config evm signal.signalMeta.timestampMs)
      else none := by
  rw [rule.evaluate_evmLog type payload readable, consulted]
  by_cases registered : bridgeKey evm ∈ rule.registry.addresses
  · simp only [registered, if_true, true_and]
  · simp [registered]

theorem OracleUpdateRule.evaluate_consulted (rule : OracleUpdateRule) {signal : Signal}
    {event : OracleUpdateEvent} (type : signal.type = .oracleUpdate)
    (payload : signal.payload = .oracleUpdate event) :
    (rule.evaluate signal).2 =
      if isAccepted event.currentAnswer = true then
        compareWithLast (rule.lastByFeed.find? (feedKey event)) (rule.consulted event) event
          signal.signalMeta.timestampMs
      else [] := by
  rw [rule.evaluate_oracleUpdate type payload, consulted]
  cases rule.configsByFeed.find? (feedKey event) with
  | none =>
      cases rule.lastByFeed.find? (feedKey event) with
      | none => simp [compareWithLast]
      | some observed => simp [compareWithLast, spikeAlerts]
  | some bucket => cases isAccepted event.currentAnswer <;> simp

end Risk

namespace Backtest

open Foundation Events Risk App

/-! ## All rows -/

section Tables

variable {Json : Type} (json : JsonLibrary Json) (library : YamlLibrary) (rows : DatabaseRows)
  (customers : List CustomerEntry)

/-- Every address is `0x` and forty hexadecimal digits, every threshold a
number below `2 ^ 256`, every oracle parameter in its range, and the rows are
enabled. -/
structure RowsProper : Prop where
  largeTransfer : forall row, row ∈ rows.largeTransfer -> LargeTransferProper json row
  governance : forall row, row ∈ rows.governance -> GovernanceProper row
  mintBurn : forall row, row ∈ rows.mintBurn -> MintBurnProper row
  approval : forall row, row ∈ rows.approval -> ApprovalProper row
  bridgeContracts : forall row, row ∈ rows.bridgeContracts -> IsHexAddress row.address
  bridgeRules : forall row, row ∈ rows.bridgeRules -> BridgeRuleProper row
  oracle : forall row, row ∈ rows.oracle -> OracleProper row

/-- Every row belongs to a customer of the list. -/
structure CustomersDeclared : Prop where
  largeTransfer : forall row, row ∈ rows.largeTransfer ->
    row.customerId ∈ customers.map CustomerEntry.id
  governance : forall row, row ∈ rows.governance -> row.customerId ∈ customers.map CustomerEntry.id
  mintBurn : forall row, row ∈ rows.mintBurn -> row.customerId ∈ customers.map CustomerEntry.id
  approval : forall row, row ∈ rows.approval -> row.customerId ∈ customers.map CustomerEntry.id
  bridgeRules : forall row, row ∈ rows.bridgeRules ->
    row.customerId ∈ customers.map CustomerEntry.id
  oracle : forall row, row ∈ rows.oracle -> row.customerId ∈ customers.map CustomerEntry.id

/-- The field holds a section with an item for each row, in order. -/
def FieldLists {Row : Type} (writtenAs : Row -> Yaml -> Prop) (node : Yaml) (field : String)
    (listed : List Row) : Prop :=
  Exists fun items => library.get node field = .ok items ∧ SectionLists writtenAs items listed

/-- The map under `rules` lists the rows. -/
structure RulesList (rules : Yaml) : Prop where
  keys : library.warnUnknownKeys rules = .ok ()
  largeTransfer : FieldLists library
    (LargeTransferWrittenAs json library) rules "large_transfer" rows.largeTransfer
  governance : FieldLists library (GovernanceWrittenAs library) rules "governance" rows.governance
  mintBurn : FieldLists library (MintBurnWrittenAs library) rules "mint_burn" rows.mintBurn
  approval : FieldLists library (ApprovalWrittenAs library) rules "approval" rows.approval
  bridgeTransfers : FieldLists library
    (BridgeRuleWrittenAs library) rules "bridge_transfers" rows.bridgeRules
  oracleUpdate : FieldLists library (OracleWrittenAs library) rules "oracle_update" rows.oracle

/-- The file lists the rows and the customers, and its other fields are in
order. -/
structure FileLists (root : Yaml) : Prop where
  keys : library.warnUnknownKeys root = .ok ()
  chain : Exists fun chain => library.Reads library.asString root "chain" chain ∧
    (chain = "ethereum" ∨ chain = "arbitrum")
  blocks : Exists fun startBlock => Exists fun endBlock =>
    library.Reads library.asUint64 root "start_block" startBlock ∧
      library.Reads library.asUint64 root "end_block" endBlock ∧ startBlock < endBlock
  outputPath : Exists fun path => library.Reads library.asString root "output_path" path ∧ path ≠ ""
  maxBlockRange : library.get root "max_block_range" = .ok none ∨
    Exists fun range => library.Reads library.asUint64 root "max_block_range" range ∧ range ≠ 0
  customers : FieldLists library (CustomerWrittenAs library) root "customers" customers
  rules : Exists fun entries => library.get root "rules" = .ok (some (.map entries)) ∧
    RulesList json library rows (.map entries)
  bridgeContracts : FieldLists library
    (BridgeContractWrittenAs library) root "bridge_contracts" rows.bridgeContracts

/-- The entries of the rows that load, by section. -/
def rowEntries : RuleEntries where
  largeTransfer := loadedEntries (readLargeTransferRow json) rows.largeTransfer
  governance := loadedEntries readGovernanceRow rows.governance
  mintBurn := loadedEntries readMintBurnRow rows.mintBurn
  approval := loadedEntries readApprovalRow rows.approval
  bridgeTransfers := loadedEntries readBridgeRuleRow rows.bridgeRules
  oracleUpdate := loadedEntries readOracleRow rows.oracle

/-- The tables that hold all of them. -/
def rowTables : RuleTables :=
  (rowEntries json rows).tables (loadedEntries readBridgeContractRow rows.bridgeContracts)

variable {json library rows customers}

/-! ### What the live program loads -/

/-- The live program loads the same tables, except that it leaves out the
bridge rules when there is no bridge. -/
theorem loadRuleTables_eq (proper : RowsProper json rows) :
    loadRuleTables json rows =
      { rowTables json rows with
        bridgeConfigsByKey := if rows.bridgeContracts ≠ []
          then (rowTables json rows).bridgeConfigsByKey
          else Table.empty } := by
  have mintBurn : forall row, row ∈ rows.mintBurn -> loads readMintBurnRow row = true := by
    intro row member
    rcases (proper.mintBurn row member).mint.accepted with ⟨_, mint⟩
    rcases (proper.mintBurn row member).burn.accepted with ⟨_, burn⟩
    exact loads_of_ok _ (readMintBurnRow_ok mint burn)
  have approval : forall row, row ∈ rows.approval -> loads readApprovalRow row = true := by
    intro row member
    rcases (proper.approval row member).address.spells with ⟨_, spells⟩
    rcases (proper.approval row member).threshold.accepted with ⟨_, threshold⟩
    exact loads_of_ok _ (readApprovalRow_ok (parse_lower spells) threshold)
  have contracts : forall row, row ∈ rows.bridgeContracts ->
      loads readBridgeContractRow row = true := by
    intro row member
    rcases (proper.bridgeContracts row member).spells with ⟨_, spells⟩
    exact loads_of_ok _ (readBridgeContractRow_ok (parse_lower spells))
  have rules : forall row, row ∈ rows.bridgeRules -> loads readBridgeRuleRow row = true := by
    intro row member
    rcases (proper.bridgeRules row member).address.spells with ⟨_, spells⟩
    rcases (proper.bridgeRules row member).threshold.accepted with ⟨_, threshold⟩
    exact loads_of_ok _ (readBridgeRuleRow_ok (parse_lower spells) threshold)
  have bridges : loadBridgeConfigs rows.bridgeContracts rows.bridgeRules =
      ((rowTables json rows).bridges,
        if rows.bridgeContracts ≠ [] then (rowTables json rows).bridgeConfigsByKey
          else Table.empty) := by
    rw [loadBridgeConfigs_eq, List.takeWhile_eq_self_iff.mpr contracts,
      List.takeWhile_eq_self_iff.mpr rules]
    by_cases some : rows.bridgeContracts ≠ []
    · rw [if_pos (And.intro contracts some), if_pos some]
      rfl
    · rw [if_neg some, if_neg fun both => some both.2]
      rfl
  unfold loadRuleTables
  rw [bridges, loadLargeTransferConfigs_eq, loadGovernanceConfigs_eq, loadOracleConfigs_eq,
    loadMintBurnConfigs,
    loadApprovalConfigs, loadUntilFailure_table, loadUntilFailure_table,
    List.takeWhile_eq_self_iff.mpr mintBurn, List.takeWhile_eq_self_iff.mpr approval]
  rfl

/-! ### What the backtest loads -/

theorem parseRuleSections_eq {rules : Yaml} (proper : RowsProper json rows)
    (lists : RulesList json library rows rules) : parseRuleSections library rules = .ok
    (rowEntries json rows) := by
  rcases lists.largeTransfer with ⟨largeTransfer, largeTransferField, largeTransferItems⟩
  rcases lists.governance with ⟨governance, governanceField, governanceItems⟩
  rcases lists.mintBurn with ⟨mintBurn, mintBurnField, mintBurnItems⟩
  rcases lists.approval with ⟨approval, approvalField, approvalItems⟩
  rcases lists.bridgeTransfers with ⟨bridgeTransfers, bridgeTransfersField, bridgeTransfersItems⟩
  rcases lists.oracleUpdate with ⟨oracleUpdate, oracleUpdateField, oracleUpdateItems⟩
  have largeTransferParsed : parseSection "rules.large_transfer"
        (parseLargeTransferItem library) largeTransfer =
      .ok (rowEntries json rows).largeTransfer := by
    refine parseSection_of_lists largeTransferItems (fun row member => ?_) _
    rcases readAlike_largeTransfer json library (proper.largeTransfer row member)
      with ⟨config, done, _, parsed, _⟩
    exact ⟨config, done, parsed⟩
  simp only [parseRuleSections, bind_eq_ok]
  exact ⟨_, lists.keys, _, largeTransferField, _, largeTransferParsed, _, governanceField, _,
    section_of_readAlike
      (fun row member => readAlike_governance library (proper.governance row member))
      governanceItems _, _, mintBurnField, _,
    section_of_readAlike (fun row member => readAlike_mintBurn library (proper.mintBurn row member))
      mintBurnItems _, _, approvalField, _,
    section_of_readAlike (fun row member => readAlike_approval library (proper.approval row member))
      approvalItems _, _, bridgeTransfersField, _,
    section_of_readAlike
      (fun row member => readAlike_bridgeRule library (proper.bridgeRules row member))
      bridgeTransfersItems _, _, oracleUpdateField, _,
    section_of_readAlike (fun row member => readAlike_oracle library (proper.oracle row member))
      oracleUpdateItems _, rfl⟩

/-- The configurations of a table belong to the customers of its rows. -/
private theorem declared_of_rows {Row Key Config : Type} [DecidableEq Key]
    {read : Row -> Except String (Key × Config)} {customerOf : Config -> UInt64}
    {rowCustomer : Row -> UInt64} {listed : List Row} {declared : List UInt64}
    (own : forall row entry, read row = .ok entry -> customerOf entry.2 = rowCustomer row)
    (each : forall row, row ∈ listed -> rowCustomer row ∈ declared) :
    forall config, config ∈
      (Table.empty.pushBackAll (loadedEntries read listed)).entries.flatMap Prod.snd ->
      customerOf config ∈ declared := by
  intro config member
  rcases List.mem_flatMap.mp member with ⟨⟨key, bucket⟩, stored, inBucket⟩
  rcases List.mem_filterMap.mp (Table.mem_of_mem_pushBackAll stored inBucket)
    with ⟨row, rowMember, done⟩
  cases outcome : read row with
  | error cause =>
      rw [outcome] at done
      cases done
  | ok entry =>
      rw [outcome] at done
      cases done
      rw [own row (key, config) outcome]
      exact each row rowMember

private theorem customer_mintBurn {row : MintBurnRow}
    {entry : MintBurnContractKey × MintBurnRuleConfig} (done : readMintBurnRow row = .ok entry) :
    entry.2.customerId = row.customerId := by
  simp only [readMintBurnRow, bind_eq_ok] at done
  rcases done with ⟨_, _, _, _, made⟩
  cases made
  rfl

private theorem customer_approval {row : ApprovalRow}
    {entry : ApprovalContractKey × ApprovalRuleConfig} (done : readApprovalRow row = .ok entry) :
    entry.2.customerId = row.customerId := by
  simp only [readApprovalRow, bind_eq_ok] at done
  rcases done with ⟨_, _, _, _, made⟩
  cases made
  rfl

private theorem customer_bridgeRule {row : BridgeRuleRow} {entry : BridgeRuleKey × BridgeRuleConfig}
    (done : readBridgeRuleRow row = .ok entry) : entry.2.customerId = row.customerId := by
  simp only [readBridgeRuleRow, bind_eq_ok] at done
  rcases done with ⟨_, _, _, _, made⟩
  cases made
  rfl

private theorem customer_oracle {row : OracleRow} {entry : OracleFeedKey × OracleRuleConfig}
    (done : readOracleRow row = .ok entry) : entry.2.customerId = row.customerId := by
  unfold readOracleRow at done
  repeat' split at done
  all_goals cases done
  rfl

theorem validateCustomerIds_rowTables (proper : RowsProper json rows)
    (declared : CustomersDeclared rows customers) :
    validateCustomerIds customers (rowTables json rows) = .ok () := by
  refine validateCustomerIds_eq_ok.mpr ⟨fun config member => ?_,
    declared_of_rows (fun _ _ done => by cases done; rfl) declared.governance,
    declared_of_rows (fun _ _ => customer_mintBurn) declared.mintBurn,
    declared_of_rows (fun _ _ => customer_approval) declared.approval,
    declared_of_rows (fun _ _ => customer_bridgeRule) declared.bridgeRules,
    declared_of_rows (fun _ _ => customer_oracle) declared.oracle⟩
  rcases List.mem_filterMap.mp member with ⟨row, listed, done⟩
  rcases (proper.largeTransfer row listed).inOrder with ⟨params, said, address, threshold⟩
  rcases address.spells with ⟨source, spells⟩
  rcases threshold.accepted with ⟨thresholdBe, accepted⟩
  rw [readLargeTransferRow_ok json said (parseHexBytes_exact _ source spells) accepted] at done
  cases done
  exact declared.largeTransfer row listed

theorem readChain_of_reads {root : Yaml} {chain : String}
    (reads : library.Reads library.asString root "chain" chain)
    (known : chain = "ethereum" ∨ chain = "arbitrum") : readChain library root = .ok chain := by
  simp only [readChain, bind_eq_ok]
  refine ⟨chain, reads.require _ _, (), rejectIf_eq_ok.mpr ?_, rfl⟩
  rintro ⟨notEthereum, notArbitrum⟩
  exact known.elim notEthereum notArbitrum

theorem readBlocks_of_reads {root : Yaml} {startBlock endBlock : UInt64}
    (first : library.Reads library.asUint64 root "start_block" startBlock)
    (last : library.Reads library.asUint64 root "end_block" endBlock)
    (ordered : startBlock < endBlock) :
    readBlocks library root = .ok (startBlock, endBlock) := by
  simp only [readBlocks, bind_eq_ok]
  exact ⟨startBlock, first.require _ _, endBlock, last.require _ _, (),
    rejectIf_eq_ok.mpr (UInt64.not_le.mpr ordered), rfl⟩

theorem readOutputPath_of_reads {root : Yaml} {path : String}
    (reads : library.Reads library.asString root "output_path" path) (given : path ≠ "") :
    readOutputPath library root = .ok path := by
  simp only [readOutputPath, bind_eq_ok]
  exact ⟨path, reads.require _ _, (), rejectIf_eq_ok.mpr given, rfl⟩

theorem readMaxBlockRange_of_reads {root : Yaml}
    (known : library.get root "max_block_range" = .ok none ∨
      Exists fun range => library.Reads library.asUint64 root "max_block_range" range ∧ range ≠ 0) :
    Exists fun range => readMaxBlockRange library root = .ok range := by
  rcases known with absent | ⟨range, ⟨child, found, converted⟩, positive⟩
  · refine ⟨1000, ?_⟩
    simp only [readMaxBlockRange, bind_eq_ok]
    exact ⟨none, absent, rfl⟩
  · refine ⟨range, ?_⟩
    simp only [readMaxBlockRange, bind_eq_ok]
    refine ⟨some child, found, ?_⟩
    simp only [bind_eq_ok]
    exact ⟨range, converted, (), rejectIf_eq_ok.mpr positive, rfl⟩

theorem parseCustomers_eq {items : Option Yaml}
    (lists : SectionLists (CustomerWrittenAs library) items customers) :
    parseSection "customers" (parseCustomerItem library) items = .ok customers := by
  have parsed : parseSection "customers" (parseCustomerItem library) items =
      .ok (loadedEntries (fun customer : CustomerEntry =>
        (.ok customer : Except String CustomerEntry))
        customers) := by
    refine parseSection_of_lists lists
      (fun customer _ => ⟨customer, rfl, fun item written context => ?_⟩) _
    simp only [parseCustomerItem, bind_eq_ok]
    exact ⟨_, written.keys, _, written.id.require _ context, _, written.key.require _ context, _,
      written.displayName, rfl⟩
  rw [parsed]
  simp [loadedEntries, Except.toOption]

/-- A file that lists rows in order is accepted, and its tables hold all of
them. -/
theorem loadBacktestConfig_lists {yamlPath text : String} {entries : List (Yaml × Yaml)}
    (loaded : library.load text = .ok (.map entries)) (proper : RowsProper json rows)
    (declared : CustomersDeclared rows customers)
    (lists : FileLists json library rows customers (.map entries)) :
    Exists fun config => loadBacktestConfig library yamlPath (some text) = .ok config ∧
      config.tables = rowTables json rows := by
  rcases lists.chain with ⟨chain, chainReads, known⟩
  rcases lists.blocks with ⟨startBlock, endBlock, first, last, ordered⟩
  rcases lists.outputPath with ⟨path, pathReads, given⟩
  rcases readMaxBlockRange_of_reads lists.maxBlockRange with ⟨range, rangeRead⟩
  rcases lists.customers with ⟨customerItems, customersField, customersListed⟩
  rcases lists.rules with ⟨ruleEntries, rulesField, rulesListed⟩
  rcases lists.bridgeContracts with ⟨contractItems, contractsField, contractsListed⟩
  have contracts := section_of_readAlike
    (fun row member => readAlike_bridgeContract library
      (proper.bridgeContracts row member)) contractsListed
    "bridge_contracts"
  refine ⟨{ chain, startBlock, endBlock, outputPath := path, maxBlockRange := range, customers
            tables := rowTables json rows }, ?_, rfl⟩
  simp only [loadBacktestConfig, loaded, parseRoot, bind_eq_ok]
  exact ⟨_, lists.keys, chain, readChain_of_reads chainReads known, _,
    readBlocks_of_reads first last ordered,
    path, readOutputPath_of_reads pathReads given, range, rangeRead, _, customersField, _,
    parseCustomers_eq customersListed, _, rulesField, _, parseRuleSections_eq proper rulesListed, _,
    contractsField, _, contracts, _, validateCustomerIds_rowTables proper declared, rfl⟩

/-! ## The same alerts -/

/-- In each of the six rules, the configurations that an event meets are those
of the rows about its chain whose address decodes to the event's, in the order
of the rows.  A transfer meets bridge rules if a bridge contract row is about
its recipient. -/
structure Consults (json : JsonLibrary Json) (rows : DatabaseRows)
    (tables : RuleTables) : Prop where
  largeTransfer : forall evm, (LargeTransferRule.mk tables.largeTransferConfigs).consulted evm =
    loadedEntries (readLargeTransferRow json) (rows.largeTransfer.filter fun row =>
      largeTransferRowFor json row evm.chainId evm.address)
  governance : forall event, (GovernanceRule.mk tables.governanceRulesByContract).consulted event =
    (loadedEntries readGovernanceRow (rows.governance.filter fun row =>
      rowFor row.chainId row.contractAddress event.chainId event.contractAddress)).map Prod.snd
  mintBurn : forall event, (MintBurnRule.mk tables.mintBurnRulesByContract).consulted event =
    (loadedEntries readMintBurnRow (rows.mintBurn.filter fun row =>
      rowFor row.chainId row.contractAddress event.chainId event.tokenAddress)).map Prod.snd
  approval : forall evm, (ApprovalRule.mk tables.approvalRulesByContract).consulted evm =
    (loadedEntries readApprovalRow (rows.approval.filter fun row =>
      rowFor row.chainId row.tokenAddress evm.chainId evm.address)).map Prod.snd
  bridgeTransfer : forall evm,
      (BridgeTransferRule.mk tables.bridgeConfigsByKey tables.bridges).consulted evm =
    if (rows.bridgeContracts.any fun row => rowFor row.chainId row.address evm.chainId
        (BridgeTransferRule.bridgeKey evm).address) = true then
      (loadedEntries readBridgeRuleRow (rows.bridgeRules.filter fun row =>
        rowFor row.chainId row.tokenAddress evm.chainId evm.address)).map Prod.snd
    else []
  oracle : forall event lastByFeed,
      (OracleUpdateRule.mk tables.oracleConfigsByFeed lastByFeed).consulted event =
    (loadedEntries readOracleRow (rows.oracle.filter fun row =>
      rowFor row.chainId row.aggregatorAddress event.chainId event.aggregatorAddress)).map Prod.snd

private theorem filter_largeTransfer {listed : List LargeTransferRow} (library : YamlLibrary)
    (proper : forall row, row ∈ listed -> LargeTransferProper json row) (chainId : UInt64)
    (address : Bytes 20) :
    ((loadedEntries (readLargeTransferRow json) listed).filter fun config =>
        decide (chainId = config.chainId ∧ address = config.tokenAddress)) =
      loadedEntries (readLargeTransferRow json) (listed.filter fun row =>
        largeTransferRowFor json row chainId address) := by
  induction listed with
  | nil => rfl
  | cons row rest inductionHypothesis =>
      have others := inductionHypothesis fun other member =>
        proper other (List.mem_cons_of_mem _ member)
      rcases readAlike_largeTransfer json library (proper row List.mem_cons_self) with
        ⟨config, done, _, _, found⟩
      rw [loadedEntries_cons_ok _ done, List.filter_cons, List.filter_cons, others]
      by_cases here : chainId = config.chainId ∧ address = config.tokenAddress
      · have wanted := (found chainId address).mp here
        rw [if_pos (decide_eq_true here), if_pos wanted, loadedEntries_cons_ok _ done]
      · have unwanted : ¬ largeTransferRowFor json row chainId address = true := fun wanted =>
          here ((found chainId address).mpr wanted)
        rw [if_neg (by simpa using here), if_neg unwanted]

/-- The bridge rule consults its table for transfers to a listed contract. -/
private theorem consulted_bridge (library : YamlLibrary) (proper : RowsProper json rows)
    (configs : Table BridgeRuleKey (List BridgeRuleConfig)) (evm : EvmLogEvent) :
    (BridgeTransferRule.mk configs (rowTables json rows).bridges).consulted evm =
      if (rows.bridgeContracts.any fun row => rowFor row.chainId row.address evm.chainId
          (BridgeTransferRule.bridgeKey evm).address) = true then
        (configs.find? ⟨evm.chainId, evm.address⟩).getD []
      else [] := by
  have listed := key_of_rows
    (fun row member => readAlike_bridgeContract library (proper.bridgeContracts row member))
    evm.chainId (BridgeTransferRule.bridgeKey evm).address
  have registered :
      BridgeTransferRule.bridgeKey evm ∈ (rowTables json rows).bridges.addresses ↔ _ :=
    (mem_addresses_registryOf _ _).trans listed
  unfold BridgeTransferRule.consulted
  exact if_congr registered rfl rfl

theorem consults_rowTables (library : YamlLibrary) (proper : RowsProper json rows) :
    Consults json rows (rowTables json rows) where
  largeTransfer := fun evm =>
    filter_largeTransfer library proper.largeTransfer evm.chainId evm.address
  governance := fun event => bucket_of_rows
    (fun row member => readAlike_governance library
      (proper.governance row member)) event.chainId event.contractAddress
  mintBurn := fun event => bucket_of_rows
    (fun row member => readAlike_mintBurn library
      (proper.mintBurn row member)) event.chainId event.tokenAddress
  approval := fun evm => bucket_of_rows
    (fun row member => readAlike_approval library
      (proper.approval row member)) evm.chainId evm.address
  bridgeTransfer := fun evm => (consulted_bridge library proper _ evm).trans
    (if_congr Iff.rfl (bucket_of_rows
    (fun row member => readAlike_bridgeRule library
      (proper.bridgeRules row member)) evm.chainId evm.address) rfl)
  oracle := fun event _ => bucket_of_rows
    (fun row member => readAlike_oracle library
      (proper.oracle row member)) event.chainId event.aggregatorAddress

theorem consults_loadRuleTables (library : YamlLibrary) (proper : RowsProper json rows) :
    Consults json rows (loadRuleTables json rows) := by
  have full := consults_rowTables library proper
  rw [loadRuleTables_eq proper]
  by_cases bridges : rows.bridgeContracts ≠ []
  · rw [if_pos bridges]
    exact full
  · refine { full with bridgeTransfer := fun evm => ?_ }
    have none := not_not.mp bridges
    rw [consulted_bridge library proper, none]
    rfl

/-- The live program's six rules and the backtest's rules raise the same
alerts. -/
theorem sequentialAlerts_alike (proper : RowsProper json rows) (signals : List Signal) :
    RiskEngine.sequentialAlerts (loadRuleTables json rows).registerRules signals =
      RiskEngine.sequentialAlerts (rowTables json rows).registerNonemptyRules signals := by
  rw [← (RiskEngine.dropsSilent_registerNonemptyRules (rowTables json rows)).sequentialAlerts_eq,
    loadRuleTables_eq proper]
  by_cases bridges : rows.bridgeContracts ≠ []
  · rw [if_pos bridges]
  · -- Without a bridge the bridge rule is silent, whatever its table holds.
    have unregistered : (rowTables json rows).bridges.addresses = [] := by
      rw [rowTables, RuleEntries.tables, not_not.mp bridges]
      rfl
    have without : forall configs : Table BridgeRuleKey (List BridgeRuleConfig),
        RiskEngine.DropsSilent
          ({ rowTables json rows with bridgeConfigsByKey := configs } : RuleTables).registerRules
          [.largeTransfer ⟨(rowTables json rows).largeTransferConfigs⟩,
            .governance ⟨(rowTables json rows).governanceRulesByContract⟩,
            .mintBurn ⟨(rowTables json rows).mintBurnRulesByContract⟩,
            .approval ⟨(rowTables json rows).approvalRulesByContract⟩,
            .oracleUpdate ⟨(rowTables json rows).oracleConfigsByFeed,
              Table.empty⟩] := fun configs =>
      .keep _ (.keep _ (.keep _
        (.keep _ (.drop (RiskEngine.silent_unregistered unregistered) (.keep _ .nil)))))
    rw [(without _).sequentialAlerts_eq]
    exact ((without (rowTables json rows).bridgeConfigsByKey).sequentialAlerts_eq signals).symm

/-- Rows in order, listed in the database and in the file: the file is
accepted, the rules of both programs raise the same alerts for every sequence
of signals, and in both a row is consulted exactly for the events of its chain
and address. -/
theorem same_rules_same_alerts {yamlPath text : String} {entries : List (Yaml × Yaml)}
    (loaded : library.load text = .ok (.map entries)) (proper : RowsProper json rows)
    (declared : CustomersDeclared rows customers)
    (lists : FileLists json library rows customers (.map entries)) :
    Exists fun config => loadBacktestConfig library yamlPath (some text) = .ok config ∧
      (forall signals, ((RiskEngine.ofRules
          (loadRuleTables json rows).registerRules).processAll signals).2 =
        (config.riskEngine.processAll signals).2) ∧
      Consults json rows (loadRuleTables json rows) ∧ Consults json rows config.tables := by
  rcases loadBacktestConfig_lists loaded proper declared lists with ⟨config, accepted, tables⟩
  refine ⟨config, accepted, fun signals => ?_, consults_loadRuleTables library proper, ?_⟩
  · rw [RiskEngine.processAll_alerts, RiskEngine.processAll_alerts, BacktestConfig.riskEngine,
      RiskEngine.ofRules_rules, RiskEngine.ofRules_rules, tables]
    exact sequentialAlerts_alike proper signals
  · rw [tables]
    exact consults_rowTables library proper

end Tables

/-! A pair of rows with addresses in mixed case. -/

private def sampleJson : JsonLibrary (List (String × String)) where
  parse := fun text =>
    if text = "\x7b\"chain_id\":1,\"token_address\":\"0xdAC17F958D2ee523a2206206994597C13D831ec7\"\x7d" then
      .ok [("chain_id", "1"), ("token_address", "0xdAC17F958D2ee523a2206206994597C13D831ec7")]
    else .error "parse error"
  valueUint64 := fun params key fallback =>
    .ok (((params.lookup key).map fun digits => UInt64.ofNat
      (Nat.ofDigitChars 10 digits.toList 0)).getD fallback)
  valueString := fun params key fallback => .ok ((params.lookup key).getD fallback)

private def sampleField (name value : String) : Yaml × Yaml :=
  (.scalar name, .scalar value)

private def sampleRules : List (Yaml × Yaml) :=
  [(.scalar "large_transfer",
    .sequence [.map [sampleField "customer_id" "1", sampleField "chain_id" "1",
      sampleField "token_address" "0xdAC17F958D2ee523a2206206994597C13D831ec7",
      sampleField "threshold_decimal" "10000000000"]]),
    (.scalar "governance",
      .sequence [.map [sampleField "customer_id" "1", sampleField "chain_id" "1",
      sampleField "contract_address" "0xA0b86991c6218b36c1d19D4a2e9Eb0cE3606eB48"]])]

private def sampleFile : List (Yaml × Yaml) :=
  [sampleField "chain" "ethereum", sampleField "start_block" "100", sampleField "end_block" "200",
    sampleField "output_path" "alerts.jsonl",
    (.scalar "customers", .sequence [.map [sampleField "id" "1", sampleField "key" "acme"]]),
    (.scalar "rules", .map sampleRules)]

private def sampleText : String :=
  "\x7bchain: ethereum, start_block: 100, end_block: 200, output_path: alerts.jsonl, " ++
    "customers: [\x7bid: 1, key: acme\x7d], " ++
    "rules: \x7blarge_transfer: [\x7bcustomer_id: 1, chain_id: 1, " ++
    "token_address: 0xdAC17F958D2ee523a2206206994597C13D831ec7, threshold_decimal: 10000000000\x7d], " ++
    "governance: [\x7bcustomer_id: 1, chain_id: 1, " ++
    "contract_address: 0xA0b86991c6218b36c1d19D4a2e9Eb0cE3606eB48\x7d]\x7d\x7d"

/-- The conversions of plain scalars. -/
private def sampleYaml : YamlLibrary where
  load := fun text => if text = sampleText then .ok (.map sampleFile) else .error "parse error"
  asString
    | .scalar text => .ok text
    | _ => .error "bad conversion"
  asUint64
    | .scalar text => .ok (UInt64.ofNat (Nat.ofDigitChars 10 text.toList 0))
    | _ => .error "bad conversion"
  asInt
    | .scalar text => .ok (Nat.ofDigitChars 10 text.toList 0)
    | _ => .error "bad conversion"
  asBool
    | .scalar text => .ok (decide (text = "true"))
    | _ => .error "bad conversion"
  badSubscript := fun field => "operator[] call on a scalar (key: \"" ++ field ++ "\")"

private def sampleRows : DatabaseRows where
  largeTransfer :=
    [{ customerId := 1
       paramsJsonb :=
        "\x7b\"chain_id\":1,\"token_address\":\"0xdAC17F958D2ee523a2206206994597C13D831ec7\"\x7d" }]
  governance :=
    [{ customerId := 1, chainId := 1, contractAddress := "0xA0b86991c6218b36c1d19D4a2e9Eb0cE3606eB48"
       enabled := true }]

private theorem sampleRows_proper : RowsProper sampleJson sampleRows where
  largeTransfer := by
    intro row member
    rw [List.mem_singleton.mp member]
    exact ⟨⟨⟨1, "0xdAC17F958D2ee523a2206206994597C13D831ec7", "10000000000"⟩, rfl,
      by decide +kernel,
      by decide +kernel⟩⟩
  governance := by
    intro row member
    rw [List.mem_singleton.mp member]
    exact ⟨by decide +kernel, rfl⟩
  mintBurn := fun _ member => absurd member List.not_mem_nil
  approval := fun _ member => absurd member List.not_mem_nil
  bridgeContracts := fun _ member => absurd member List.not_mem_nil
  bridgeRules := fun _ member => absurd member List.not_mem_nil
  oracle := fun _ member => absurd member List.not_mem_nil

private theorem sampleRules_list : RulesList sampleJson sampleYaml sampleRows
    (.map sampleRules) where
  keys := rfl
  largeTransfer := ⟨_, rfl, Or.inr ⟨_, rfl, .cons
    { keys := rfl
      customerId := ⟨_, rfl, rfl⟩
      params := by
        intro params said
        cases said
        exact ⟨⟨_, rfl, rfl⟩, ⟨_, rfl, rfl⟩, ⟨_, rfl, rfl⟩⟩ } .nil⟩⟩
  governance := ⟨_, rfl, Or.inr ⟨_, rfl, .cons
    { keys := rfl, customerId := ⟨_, rfl, rfl⟩, chainId := ⟨_, rfl, rfl⟩,
      address := ⟨_, rfl, rfl⟩ } .nil⟩⟩
  mintBurn := ⟨none, rfl, Or.inl ⟨Or.inl rfl, rfl⟩⟩
  approval := ⟨none, rfl, Or.inl ⟨Or.inl rfl, rfl⟩⟩
  bridgeTransfers := ⟨none, rfl, Or.inl ⟨Or.inl rfl, rfl⟩⟩
  oracleUpdate := ⟨none, rfl, Or.inl ⟨Or.inl rfl, rfl⟩⟩

private theorem sampleFile_lists :
    FileLists sampleJson sampleYaml sampleRows [⟨1, "acme", ""⟩] (.map sampleFile) where
  keys := rfl
  chain := ⟨"ethereum", ⟨_, rfl, rfl⟩, Or.inl rfl⟩
  blocks := ⟨100, 200, ⟨_, rfl, rfl⟩, ⟨_, rfl, rfl⟩, by decide⟩
  outputPath := ⟨"alerts.jsonl", ⟨_, rfl, rfl⟩, by decide⟩
  maxBlockRange := Or.inl rfl
  customers := ⟨_, rfl, Or.inr ⟨_, rfl, .cons
    { keys := rfl, id := ⟨_, rfl, rfl⟩, key := ⟨_, rfl, rfl⟩, displayName := rfl } .nil⟩⟩
  rules := ⟨sampleRules, rfl, sampleRules_list⟩
  bridgeContracts := ⟨none, rfl, Or.inl ⟨Or.inl rfl, rfl⟩⟩

/-- The file is accepted, and the two rules consult their rows. -/
theorem sampleRows_same_alerts :
    Exists fun config => loadBacktestConfig sampleYaml "backtest.yaml"
      (some sampleText) = .ok config ∧
      (forall signals,
        ((RiskEngine.ofRules
            (loadRuleTables sampleJson sampleRows).registerRules).processAll signals).2 =
          (config.riskEngine.processAll signals).2) ∧
      Consults sampleJson sampleRows (loadRuleTables sampleJson sampleRows) ∧
      Consults sampleJson sampleRows config.tables := by
  have declared : CustomersDeclared sampleRows [⟨1, "acme", ""⟩] := {
    largeTransfer := fun row member => by
      rw [List.mem_singleton.mp member]
      decide
    governance := fun row member => by
      rw [List.mem_singleton.mp member]
      decide
    mintBurn := fun _ member => absurd member List.not_mem_nil
    approval := fun _ member => absurd member List.not_mem_nil
    bridgeRules := fun _ member => absurd member List.not_mem_nil
    oracle := fun _ member => absurd member List.not_mem_nil }
  have loaded : sampleYaml.load sampleText = .ok (.map sampleFile) := by
    simp only [sampleYaml, if_true]
  exact same_rules_same_alerts loaded sampleRows_proper declared sampleFile_lists

end Backtest

end RiskSentinel
