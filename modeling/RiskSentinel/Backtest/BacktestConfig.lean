import RiskSentinel.Backtest.Report
import RiskSentinel.Foundation.Loading

namespace RiskSentinel
namespace Backtest

open Foundation Events Risk

/-!
# The configuration file of a backtest

A backtest takes its rules from a YAML file instead of the database.  The
model starts from the tree that the YAML library builds.  What a node means
as a string, a number or a truth value is decided by that library and stays a
parameter, and so do the texts of its exceptions.

Every failure ends the loading, so the sections are first read as lists of
entries and the tables are built from them.  All texts of the loader's own
exceptions are the source's.  When several customers are undeclared, the
source names the one that its hash maps list first; here it is the first one
in the order of the table's entries.
-/

/-- A node of the tree.  A field that a map does not have is no node. -/
inductive Yaml where
  | null
  | scalar (text : String)
  | sequence (items : List Yaml)
  | map (entries : List (Yaml × Yaml))

/-- What the loader uses of the YAML library: the parser, the conversions of
`as`, and the text of the exception for a subscript of a scalar. -/
structure YamlLibrary where
  load : String -> Except String Yaml
  asString : Yaml -> Except String String
  asUint64 : Yaml -> Except String UInt64
  asInt : Yaml -> Except String Int
  asBool : Yaml -> Except String Bool
  badSubscript : String -> String

namespace YamlLibrary

/-- The key reads as the given text. -/
def keyIs (library : YamlLibrary) (key : Yaml) (field : String) : Bool :=
  match library.asString key with
  | .ok text => text == field
  | .error _ => false

/-- `node[field]`. -/
def get (library : YamlLibrary) (node : Yaml) (field : String) : Except String (Option Yaml) :=
  match node with
  | .null => .ok none
  | .scalar _ => .error (library.badSubscript field)
  | .sequence _ => .ok none
  | .map entries => .ok ((entries.find? fun entry => library.keyIs entry.1 field).map Prod.snd)

/-- The loop reads every key of a map as a string and only writes to the
log. -/
def warnUnknownKeys (library : YamlLibrary) (node : Yaml) : Except String Unit :=
  match node with
  | .map entries => entries.forM fun entry => do
      let _ ← library.asString entry.1
  | _ => .ok ()

/-- The three functions `require_*` differ in the conversion and in the name
of the expected type. -/
def requireField {Value : Type} (library : YamlLibrary)
    (convert : Yaml -> Except String Value) (kind : String) (node : Yaml) (field context : String) :
    Except String Value := do
  match ← library.get node field with
  | none => .error ("backtest config: missing required field '" ++ field ++ "' in " ++ context)
  | some value =>
      match convert value with
      | .ok result => .ok result
      | .error cause =>
          .error ("backtest config: field '" ++ field ++ "' in " ++ context ++ " is not " ++
            kind ++ ": " ++ cause)

def requireString (library : YamlLibrary) (node : Yaml) (field context : String) :
    Except String String :=
  library.requireField library.asString "a string" node field context

def requireUint (library : YamlLibrary) (node : Yaml) (field context : String) :
    Except String UInt64 :=
  library.requireField library.asUint64 "an unsigned integer" node field context

def requireInt (library : YamlLibrary) (node : Yaml) (field context : String) : Except String Int :=
  library.requireField library.asInt "an integer" node field context

end YamlLibrary

/-- Throw when something is wrong. -/
def rejectIf (wrong : Prop) [Decidable wrong] (message : String) : Except String Unit :=
  if wrong then .error message else .ok ()

theorem rejectIf_eq_ok {wrong : Prop} [Decidable wrong] {message : String} :
    rejectIf wrong message = .ok () ↔ ¬ wrong := by
  unfold rejectIf
  by_cases holds : wrong
  · simp [holds]
  · simp [holds]

def validateHexAddress (addr context : String) : Except String Unit :=
  if addr.length != 42 || !hasHexMarker addr then
    .error ("backtest config: invalid hex address '" ++ addr ++
      "' (expected 0x + 40 hex chars) in " ++ context)
  else
    match validateHex addr with
    | .ok _ => .ok ()
    | .error cause =>
        .error ("backtest config: invalid hex characters in '" ++ addr ++ "' in " ++
          context ++ ": " ++ cause)

/-! ## One item of each section -/

section Items

variable (library : YamlLibrary)

/-- An address field in lower case, after validation. -/
def requireAddress (item : Yaml) (field context : String) : Except String String := do
  let text ← library.requireString item field context
  validateHexAddress (lower text) context
  return lower text

def parseLargeTransferItem (context : String) (item : Yaml) :
    Except String LargeTransferRuleConfig := do
  library.warnUnknownKeys item
  let customerId ← library.requireUint item "customer_id" context
  let chainId ← library.requireUint item "chain_id" context
  let token ← requireAddress library item "token_address" context
  let tokenAddress ← parseHexBytes token (Bytes.zeros 20)
  let threshold ← library.requireString item "threshold_decimal" context
  let thresholdBe ← decimalToBe256 threshold
  return { customerId, chainId, tokenAddress, thresholdBe }

def parseGovernanceItem (context : String) (item : Yaml) :
    Except String (GovernanceContractKey × GovernanceRuleConfig) := do
  library.warnUnknownKeys item
  let customerId ← library.requireUint item "customer_id" context
  let chainId ← library.requireUint item "chain_id" context
  let contractAddress ← requireAddress library item "contract_address" context
  return (⟨chainId, contractAddress⟩,
    { customerId, chainId, contractAddress, enabled := true, actionFilter := none })

def parseMintBurnItem (context : String) (item : Yaml) :
    Except String (MintBurnContractKey × MintBurnRuleConfig) := do
  library.warnUnknownKeys item
  let customerId ← library.requireUint item "customer_id" context
  let chainId ← library.requireUint item "chain_id" context
  let contractAddress ← requireAddress library item "contract_address" context
  let mintThreshold ← library.requireString item "mint_threshold_decimal" context
  let burnThreshold ← library.requireString item "burn_threshold_decimal" context
  let mintThresholdBe ← decimalToBe256 mintThreshold
  let burnThresholdBe ← decimalToBe256 burnThreshold
  return (⟨chainId, contractAddress⟩,
    { customerId, chainId, contractAddress, mintThresholdBe, burnThresholdBe, enabled := true })

/-- The flag is optional and off by default. -/
def readAlertOnInfinite (item : Yaml) : Except String Bool := do
  match ← library.get item "alert_on_infinite" with
  | some flag => library.asBool flag
  | none => return false

def parseApprovalItem (context : String) (item : Yaml) :
    Except String (ApprovalContractKey × ApprovalRuleConfig) := do
  library.warnUnknownKeys item
  let customerId ← library.requireUint item "customer_id" context
  let chainId ← library.requireUint item "chain_id" context
  let token ← requireAddress library item "token_address" context
  let tokenAddress ← parseHexBytes token (Bytes.zeros 20)
  let threshold ← library.requireString item "threshold_decimal" context
  let thresholdBe ← decimalToBe256 threshold
  let alertOnInfinite ← readAlertOnInfinite library item
  return (⟨chainId, token⟩,
    { customerId, chainId, tokenAddress, thresholdBe, alertOnInfinite, enabled := true })

def parseBridgeTransferItem (context : String) (item : Yaml) :
    Except String (BridgeRuleKey × BridgeRuleConfig) := do
  library.warnUnknownKeys item
  let customerId ← library.requireUint item "customer_id" context
  let chainId ← library.requireUint item "chain_id" context
  let token ← requireAddress library item "token_address" context
  let tokenAddress ← parseHexBytes token (Bytes.zeros 20)
  let threshold ← library.requireString item "threshold_decimal" context
  let thresholdBe ← decimalToBe256 threshold
  return (⟨chainId, tokenAddress⟩,
    { customerId, chainId, tokenAddress, thresholdBe, enabled := true })

def parseOracleUpdateItem (context : String) (item : Yaml) :
    Except String (OracleFeedKey × OracleRuleConfig) := do
  library.warnUnknownKeys item
  let customerId ← library.requireUint item "customer_id" context
  let chainId ← library.requireUint item "chain_id" context
  let address ← requireAddress library item "aggregator_address" context
  let aggregatorAddress ← parseHexBytes address (Bytes.zeros 20)
  let feedLabel ← library.requireString item "feed_label" context
  let bps ← library.requireInt item "spike_threshold_bps" context
  rejectIf (bps ≤ 0 ∨ 100000 < bps)
    ("backtest config: spike_threshold_bps out of range in " ++ context)
  let decimals ← library.requireInt item "decimals" context
  rejectIf (decimals < 0 ∨ 255 < decimals) ("backtest config: decimals out of range in " ++ context)
  return (⟨chainId, aggregatorAddress⟩,
    { customerId, chainId, aggregatorAddress, feedLabel, spikeThresholdBps := UInt32.ofNat bps.toNat
      decimals := UInt8.ofNat decimals.toNat, enabled := true })

def parseBridgeContractItem (context : String) (item : Yaml) :
    Except String (BridgeAddressKey × String) := do
  library.warnUnknownKeys item
  let chainId ← library.requireUint item "chain_id" context
  let address ← requireAddress library item "address" context
  let name ← library.requireString item "bridge_name" context
  let bytes ← parseHexBytes address (Bytes.zeros 20)
  return (⟨chainId, bytes⟩, name)

structure CustomerEntry where
  id : UInt64
  key : String
  displayName : String
deriving DecidableEq

/-- The name for display is optional. -/
def readDisplayName (item : Yaml) : Except String String := do
  match ← library.get item "display_name" with
  | some name => library.asString name
  | none => return ""

def parseCustomerItem (context : String) (item : Yaml) : Except String CustomerEntry := do
  library.warnUnknownKeys item
  let id ← library.requireUint item "id" context
  let key ← library.requireString item "key" context
  let displayName ← readDisplayName library item
  return { id, key, displayName }

end Items

/-! ## Sections -/

/-- The loop over a sequence, with the position in the name of each item. -/
def parseItems {Entry : Type} (name : String) (parseItem : String -> Yaml -> Except String Entry) :
    Nat -> List Yaml -> Except String (List Entry)
  | _, [] => .ok []
  | index, item :: rest => do
      let entry ← parseItem (name ++ "[" ++ toString index ++ "]") item
      let others ← parseItems name parseItem (index + 1) rest
      return entry :: others

/-- A section may be absent or empty; otherwise it is a sequence. -/
def parseSection {Entry : Type} (name : String) (parseItem : String -> Yaml -> Except String Entry)
    (items : Option Yaml) : Except String (List Entry) :=
  match items with
  | none => .ok []
  | some .null => .ok []
  | some (.sequence items) => parseItems name parseItem 0 items
  | some _ => .error ("backtest config: " ++ name ++ " must be a sequence")

/-- The entries of the six rule sections. -/
structure RuleEntries where
  largeTransfer : List LargeTransferRuleConfig := []
  governance : List (GovernanceContractKey × GovernanceRuleConfig) := []
  mintBurn : List (MintBurnContractKey × MintBurnRuleConfig) := []
  approval : List (ApprovalContractKey × ApprovalRuleConfig) := []
  bridgeTransfers : List (BridgeRuleKey × BridgeRuleConfig) := []
  oracleUpdate : List (OracleFeedKey × OracleRuleConfig) := []

def RuleEntries.tables (entries : RuleEntries)
    (bridgeContracts : List (BridgeAddressKey × String)) : RuleTables where
  largeTransferConfigs := entries.largeTransfer
  governanceRulesByContract := Table.empty.pushBackAll entries.governance
  mintBurnRulesByContract := Table.empty.pushBackAll entries.mintBurn
  approvalRulesByContract := Table.empty.pushBackAll entries.approval
  bridgeConfigsByKey := Table.empty.pushBackAll entries.bridgeTransfers
  bridges := registryOf bridgeContracts
  oracleConfigsByFeed := Table.empty.pushBackAll entries.oracleUpdate

def parseRuleSections (library : YamlLibrary) (rules : Yaml) : Except String RuleEntries := do
  library.warnUnknownKeys rules
  let largeTransfer ← parseSection "rules.large_transfer" (parseLargeTransferItem library)
    (← library.get rules "large_transfer")
  let governance ← parseSection "rules.governance" (parseGovernanceItem library)
      (← library.get rules "governance")
  let mintBurn ← parseSection "rules.mint_burn" (parseMintBurnItem library)
      (← library.get rules "mint_burn")
  let approval ← parseSection "rules.approval" (parseApprovalItem library)
      (← library.get rules "approval")
  let bridgeTransfers ← parseSection "rules.bridge_transfers" (parseBridgeTransferItem library)
    (← library.get rules "bridge_transfers")
  let oracleUpdate ← parseSection "rules.oracle_update" (parseOracleUpdateItem library)
    (← library.get rules "oracle_update")
  return { largeTransfer, governance, mintBurn, approval, bridgeTransfers, oracleUpdate }

def parseRules (library : YamlLibrary) (rules : Option Yaml) : Except String RuleEntries :=
  match rules with
  | none => .ok {}
  | some .null => .ok {}
  | some (.map entries) => parseRuleSections library (.map entries)
  | some _ => .error "backtest config: rules must be a map"

/-! ## The whole file -/

/-- The configuration as the loader returns it. -/
structure BacktestFile extends BacktestConfig where
  chain : String
  outputPath : String
  customers : List CustomerEntry

def checkCustomer (declared : List UInt64) (ruleSection : String) (customerId : UInt64) :
    Except String Unit :=
  if declared.contains customerId then .ok ()
  else .error ("backtest config: rule section '" ++ ruleSection ++
    "' references undeclared customer_id=" ++
    toString customerId.toNat ++ "; add it to the customers section")

def validateCustomerIds (customers : List CustomerEntry) (tables : RuleTables) :
    Except String Unit := do
  let check := checkCustomer (customers.map CustomerEntry.id)
  tables.largeTransferConfigs.forM fun config => check "large_transfer" config.customerId
  (tables.governanceRulesByContract.entries.flatMap Prod.snd).forM fun config =>
    check "governance" config.customerId
  (tables.mintBurnRulesByContract.entries.flatMap Prod.snd).forM fun config =>
    check "mint_burn" config.customerId
  (tables.approvalRulesByContract.entries.flatMap Prod.snd).forM fun config =>
    check "approval" config.customerId
  (tables.bridgeConfigsByKey.entries.flatMap Prod.snd).forM fun config =>
    check "bridge_transfer" config.customerId
  (tables.oracleConfigsByFeed.entries.flatMap Prod.snd).forM fun config =>
    check "oracle_update" config.customerId

def readChain (library : YamlLibrary) (root : Yaml) : Except String String := do
  let chain ← library.requireString root "chain" "<root>"
  rejectIf (chain ≠ "ethereum" ∧ chain ≠ "arbitrum")
    ("backtest config: chain must be 'ethereum' or 'arbitrum', got '" ++ chain ++ "'")
  return chain

def readBlocks (library : YamlLibrary) (root : Yaml) : Except String (UInt64 × UInt64) := do
  let startBlock ← library.requireUint root "start_block" "<root>"
  let endBlock ← library.requireUint root "end_block" "<root>"
  rejectIf (endBlock ≤ startBlock)
    ("backtest config: start_block (" ++ toString startBlock.toNat ++ ") must be < end_block (" ++
      toString endBlock.toNat ++ ")")
  return (startBlock, endBlock)

def readOutputPath (library : YamlLibrary) (root : Yaml) : Except String String := do
  let outputPath ← library.requireString root "output_path" "<root>"
  rejectIf (outputPath = "") "backtest config: output_path must not be empty"
  return outputPath

def readMaxBlockRange (library : YamlLibrary) (root : Yaml) : Except String UInt64 := do
  match ← library.get root "max_block_range" with
  | none => return 1000
  | some node =>
      let maxBlockRange ← library.asUint64 node
      rejectIf (maxBlockRange = 0) "backtest config: max_block_range must be > 0"
      return maxBlockRange

/-- The part of `load_backtest_config` that follows the check of the root. -/
def parseRoot (library : YamlLibrary) (root : Yaml) : Except String BacktestFile := do
  library.warnUnknownKeys root
  let chain ← readChain library root
  let blocks ← readBlocks library root
  let outputPath ← readOutputPath library root
  let maxBlockRange ← readMaxBlockRange library root
  let customers ← parseSection "customers" (parseCustomerItem library)
      (← library.get root "customers")
  let rules ← parseRules library (← library.get root "rules")
  let bridgeContracts ← parseSection "bridge_contracts" (parseBridgeContractItem library)
    (← library.get root "bridge_contracts")
  let tables := rules.tables bridgeContracts
  validateCustomerIds customers tables
  return { chain, startBlock := blocks.1, endBlock := blocks.2
           outputPath, maxBlockRange, customers, tables }

/-- The file is `none` when it cannot be opened. -/
def loadBacktestConfig (library : YamlLibrary) (yamlPath : String) (file : Option String) :
    Except String BacktestFile :=
  match file with
  | none => .error ("backtest config: cannot open '" ++ yamlPath ++ "'")
  | some text =>
      match library.load text with
      | .error cause => .error
          ("backtest config: YAML parse error in '" ++ yamlPath ++ "': " ++ cause)
      | .ok (.map entries) => parseRoot library (.map entries)
      | .ok _ => .error ("backtest config: top-level YAML must be a map in '" ++ yamlPath ++ "'")

/-! ## Fields and sections that are in order -/

/-- The node has the field, and it converts to the value. -/
def YamlLibrary.Reads {Value : Type} (library : YamlLibrary)
    (convert : Yaml -> Except String Value) (node : Yaml) (field : String) (value : Value) : Prop :=
  Exists fun child => library.get node field = .ok (some child) ∧ convert child = .ok value

theorem YamlLibrary.Reads.require {Value : Type} {library : YamlLibrary}
    {convert : Yaml -> Except String Value} {node : Yaml} {field : String} {value : Value}
    (reads : library.Reads convert node field value) (kind context : String) :
    library.requireField convert kind node field context = .ok value := by
  rcases reads with ⟨child, found, converted⟩
  simp only [requireField, found, converted, bind, Except.bind]

/-- An address of the expected form passes the validation in any case. -/
theorem requireAddress_of_reads {library : YamlLibrary} {item : Yaml} {field text : String}
    {source : Bytes 20} (reads : library.Reads library.asString item field text)
    (spells : SpellsBytes text source.bytes) (context : String) :
    requireAddress library item field context = .ok (lower text) := by
  have valid : validateHexAddress (lower text) context = .ok () := by
    have written := bytesToHex_spells source
    have marked : hasHexMarker (bytesToHex source) = true := by
      rw [hasHexMarker, toList_bytesToHex]
      rfl
    rw [spells.lower_text, validateHexAddress, written.length_eq, source.size_eq, marked,
      validateHex_spells written]
    rfl
  simp only [requireAddress, bind_eq_ok]
  exact ⟨text, reads.require "a string" context, (), valid, rfl⟩

/-- The section holds an item for each row, in order. -/
def SectionLists {Row : Type} (writtenAs : Row -> Yaml -> Prop) (items : Option Yaml)
    (rows : List Row) : Prop :=
  ((items = none ∨ items = some .null) ∧ rows = []) ∨
    Exists fun listed => items = some (.sequence listed) ∧ List.Forall₂ writtenAs rows listed

/-- Where each item is read as its row is, the section is read as the rows
are. -/
theorem parseSection_of_lists {Row Entry : Type} {writtenAs : Row -> Yaml -> Prop}
    {read : Row -> Except String Entry} {parseItem : String -> Yaml -> Except String Entry}
    {items : Option Yaml} {rows : List Row} (lists : SectionLists writtenAs items rows)
    (same : forall row, row ∈ rows -> Exists fun entry => read row = .ok entry ∧
      forall item, writtenAs row item -> forall context, parseItem context item = .ok entry)
        (name : String) :
    parseSection name parseItem items = .ok (loadedEntries read rows) := by
  rcases lists with ⟨rfl | rfl, rfl⟩ | ⟨listed, rfl, each⟩
  · rfl
  · rfl
  · have general : forall index, parseItems name parseItem index listed = .ok
        (loadedEntries read rows) := by
      induction each with
      | nil =>
          intro index
          rfl
      | cons written _ inductionHypothesis =>
          intro index
          rcases same _ List.mem_cons_self with ⟨entry, done, parsed⟩
          have first := parsed _ written (name ++ "[" ++ toString index ++ "]")
          have others := inductionHypothesis
            (fun row member => same row (List.mem_cons_of_mem _ member)) (index + 1)
          rw [loadedEntries_cons_ok read done]
          simp only [parseItems, first, others, bind, Except.bind, pure, Except.pure]
    exact general 0

/-! ## Declared customers -/

theorem checkCustomer_eq_ok {declared : List UInt64} {ruleSection : String} {customerId : UInt64} :
    checkCustomer declared ruleSection customerId = .ok () ↔ customerId ∈ declared := by
  unfold checkCustomer
  by_cases known : customerId ∈ declared
  · simp [known]
  · simp [known]

private theorem forM_check_eq_ok {Config : Type} {declared : List UInt64} {ruleSection : String}
    {customerOf : Config -> UInt64} {configs : List Config} :
    (configs.forM fun config => checkCustomer declared ruleSection (customerOf config)) = .ok () ↔
      forall config, config ∈ configs -> customerOf config ∈ declared := by
  rw [forM_eq_ok]
  exact forall_congr' fun config => imp_congr_right fun _ => checkCustomer_eq_ok

/-- The validation passes exactly when every rule belongs to a declared
customer. -/
theorem validateCustomerIds_eq_ok {customers : List CustomerEntry} {tables : RuleTables} :
    validateCustomerIds customers tables = .ok () ↔
      (forall config, config ∈ tables.largeTransferConfigs ->
        config.customerId ∈ customers.map CustomerEntry.id) ∧
      (forall config, config ∈ tables.governanceRulesByContract.entries.flatMap Prod.snd ->
        config.customerId ∈ customers.map CustomerEntry.id) ∧
      (forall config, config ∈ tables.mintBurnRulesByContract.entries.flatMap Prod.snd ->
        config.customerId ∈ customers.map CustomerEntry.id) ∧
      (forall config, config ∈ tables.approvalRulesByContract.entries.flatMap Prod.snd ->
        config.customerId ∈ customers.map CustomerEntry.id) ∧
      (forall config, config ∈ tables.bridgeConfigsByKey.entries.flatMap Prod.snd ->
        config.customerId ∈ customers.map CustomerEntry.id) ∧
      forall config, config ∈ tables.oracleConfigsByFeed.entries.flatMap Prod.snd ->
        config.customerId ∈ customers.map CustomerEntry.id := by
  simp only [validateCustomerIds, check_bind_eq_ok, forM_check_eq_ok]

end Backtest
end RiskSentinel
