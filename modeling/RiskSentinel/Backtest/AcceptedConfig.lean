import RiskSentinel.Backtest.RowsInFile

namespace RiskSentinel
namespace Backtest

open Foundation Events Risk

/-!
# What an accepted configuration file says

The loader either throws or returns a configuration.  This module says what a
returned configuration owes to the tree.  Each item of a rule section is one
configuration, field by field; the buckets of a table hold exactly the
configurations of its section, each under the key that its own chain and
address give; and every customer of a rule is declared.

From this it follows that a tree with a rule of an undeclared customer is not
accepted, in whatever section and at whatever place the rule stands.
-/

/-! ## Fields that were read -/

/-- A required field that is returned was read. -/
theorem reads_of_require {Value : Type} {library : YamlLibrary}
    {convert : Yaml -> Except String Value} {kind field context : String}
    {node : Yaml} {value : Value}
    (done : library.requireField convert kind node field context = .ok value) :
    library.Reads convert node field value := by
  simp only [YamlLibrary.requireField, bind_eq_ok] at done
  rcases done with ⟨child, found, converted⟩
  cases child with
  | none => cases converted
  | some child =>
      refine ⟨child, found, ?_⟩
      dsimp only at converted
      cases result : convert child with
      | error cause =>
          rw [result] at converted
          cases converted
      | ok other =>
          rw [result] at converted
          exact converted

/-- A field has one value. -/
theorem YamlLibrary.Reads.unique {Value : Type} {library : YamlLibrary}
    {convert : Yaml -> Except String Value} {node : Yaml} {field : String} {left right : Value}
    (first : library.Reads convert node field left)
    (second : library.Reads convert node field right) : left = right := by
  rcases first with ⟨child, found, converted⟩
  rcases second with ⟨other, otherFound, otherConverted⟩
  rw [found] at otherFound
  cases otherFound
  rw [converted] at otherConverted
  exact Except.ok.inj otherConverted

/-- The text of the field is this address, up to the case of its letters. -/
def ReadsAddress (library : YamlLibrary) (item : Yaml) (field : String)
    (source : Bytes 20) : Prop :=
  Exists fun text => library.Reads library.asString item field text ∧ lower text = bytesToHex source

private theorem validateHexAddress_spells {addr context : String}
    (passed : validateHexAddress addr context = .ok ()) :
    Exists fun source : Bytes 20 => SpellsBytes addr source.bytes := by
  unfold validateHexAddress at passed
  by_cases form : (addr.length != 42 || !hasHexMarker addr) = true
  · rw [if_pos form] at passed
    cases passed
  · rw [if_neg form] at passed
    have size : addr.length = 2 * 20 + 2 := by
      simp only [Bool.or_eq_true, bne_iff_ne, ne_eq, not_or, Decidable.not_not] at form
      exact form.1
    cases digits : validateHex addr with
    | error cause =>
        rw [digits] at passed
        cases passed
    | ok _ => exact spells_of_validateHex size digits

/-- An address that passes is the lowercase text of twenty bytes, which
decoding it again gives. -/
theorem readsAddress_of_require {library : YamlLibrary} {item : Yaml}
    {field context address : String}
    (done : requireAddress library item field context = .ok address) :
    Exists fun source : Bytes 20 => ReadsAddress library item field source ∧
    address = bytesToHex source ∧
      parseHexBytes address (Bytes.zeros 20) = .ok source := by
  simp only [requireAddress, bind_eq_ok] at done
  rcases done with ⟨text, read, _, valid, returned⟩
  rcases validateHexAddress_spells valid with ⟨source, spells⟩
  have same : lower text = bytesToHex source := by
    rw [← lower_lower]
    exact spells.lower_text
  cases returned
  exact ⟨source, ⟨text, reads_of_require read, same⟩, same, parseHexBytes_exact _ source spells⟩

/-! ## Items that were read -/

section Items

variable (library : YamlLibrary)

/-- The fields that all items of the rule sections have. -/
structure RuleItem (addressField : String) (customerId chainId : UInt64)
    (address : Bytes 20) (item : Yaml) : Prop where
  customerId : library.Reads library.asUint64 item "customer_id" customerId
  chainId : library.Reads library.asUint64 item "chain_id" chainId
  address : ReadsAddress library item addressField address

/-- The threshold is the number that the text of the field writes. -/
def ReadsThreshold (item : Yaml) (field : String) (threshold : Bytes 32) : Prop :=
  Exists fun text => library.Reads library.asString item field text ∧
    decimalToBe256 text = .ok threshold

/-- The item says this configuration. -/
structure LargeTransferItem (config : LargeTransferRuleConfig) (item : Yaml) : Prop extends
    RuleItem library "token_address" config.customerId config.chainId config.tokenAddress item where
  threshold : ReadsThreshold library item "threshold_decimal" config.thresholdBe

structure GovernanceItem (config : GovernanceRuleConfig) (item : Yaml) : Prop where
  common : Exists fun source => config.contractAddress = bytesToHex source ∧
    RuleItem library "contract_address" config.customerId config.chainId source item
  enabled : config.enabled = true
  actionFilter : config.actionFilter = none

structure MintBurnItem (config : MintBurnRuleConfig) (item : Yaml) : Prop where
  common : Exists fun source => config.contractAddress = bytesToHex source ∧
    RuleItem library "contract_address" config.customerId config.chainId source item
  mintThreshold : ReadsThreshold library item "mint_threshold_decimal" config.mintThresholdBe
  burnThreshold : ReadsThreshold library item "burn_threshold_decimal" config.burnThresholdBe
  enabled : config.enabled = true

structure ApprovalItem (config : ApprovalRuleConfig) (item : Yaml) : Prop extends
    RuleItem library "token_address" config.customerId config.chainId config.tokenAddress item where
  threshold : ReadsThreshold library item "threshold_decimal" config.thresholdBe
  alertOnInfinite : readAlertOnInfinite library item = .ok config.alertOnInfinite
  enabled : config.enabled = true

structure BridgeTransferItem (config : BridgeRuleConfig) (item : Yaml) : Prop extends
    RuleItem library "token_address" config.customerId config.chainId config.tokenAddress item where
  threshold : ReadsThreshold library item "threshold_decimal" config.thresholdBe
  enabled : config.enabled = true

structure OracleUpdateItem (config : OracleRuleConfig) (item : Yaml) : Prop extends
    RuleItem library "aggregator_address" config.customerId config.chainId config.aggregatorAddress
      item where
  feedLabel : library.Reads library.asString item "feed_label" config.feedLabel
  bps : library.Reads library.asInt item "spike_threshold_bps" config.spikeThresholdBps.toNat
  decimals : library.Reads library.asInt item "decimals" config.decimals.toNat
  enabled : config.enabled = true

/-- The item says this contract and its name. -/
structure BridgeContractItem (contract : BridgeAddressKey × String) (item : Yaml) : Prop where
  chainId : library.Reads library.asUint64 item "chain_id" contract.1.chainId
  address : ReadsAddress library item "address" contract.1.address
  name : library.Reads library.asString item "bridge_name" contract.2

variable {library}

theorem largeTransferItem_of_parse {context : String} {item : Yaml}
    {config : LargeTransferRuleConfig}
    (done : parseLargeTransferItem library context item = .ok config) :
    LargeTransferItem library config item := by
  simp only [parseLargeTransferItem, bind_eq_ok] at done
  rcases done with ⟨_, _, customerId, customer, chainId, chain, token, address, tokenAddress,
    decoded, text, read,
    thresholdBe, threshold, returned⟩
  rcases readsAddress_of_require address with ⟨source, said, _, again⟩
  rw [again] at decoded
  cases decoded
  cases returned
  exact { customerId := reads_of_require customer, chainId := reads_of_require chain, address := said
          threshold := ⟨text, reads_of_require read, threshold⟩ }

/-- The key of a configuration: its own chain and address. -/
def governanceKey (config : GovernanceRuleConfig) : GovernanceContractKey :=
  ⟨config.chainId, config.contractAddress⟩

theorem governanceItem_of_parse {context : String} {item : Yaml}
    {entry : GovernanceContractKey × GovernanceRuleConfig}
    (done : parseGovernanceItem library context item = .ok entry) :
    GovernanceItem library entry.2 item ∧ entry.1 = governanceKey entry.2 := by
  simp only [parseGovernanceItem, bind_eq_ok] at done
  rcases done with ⟨_, _, customerId, customer, chainId, chain, contractAddress, address, returned⟩
  rcases readsAddress_of_require address with ⟨source, said, written, _⟩
  cases returned
  exact ⟨{ common := ⟨source, written, reads_of_require customer, reads_of_require chain, said⟩
           enabled := rfl, actionFilter := rfl }, rfl⟩

def mintBurnKey (config : MintBurnRuleConfig) : MintBurnContractKey :=
  ⟨config.chainId, config.contractAddress⟩

theorem mintBurnItem_of_parse {context : String} {item : Yaml}
    {entry : MintBurnContractKey × MintBurnRuleConfig}
    (done : parseMintBurnItem library context item = .ok entry) :
    MintBurnItem library entry.2 item ∧ entry.1 = mintBurnKey entry.2 := by
  simp only [parseMintBurnItem, bind_eq_ok] at done
  rcases done with ⟨_, _, customerId, customer, chainId, chain, contractAddress, address,
    mintText, mintRead,
    burnText, burnRead, mintBe, mint, burnBe, burn, returned⟩
  rcases readsAddress_of_require address with ⟨source, said, written, _⟩
  cases returned
  exact ⟨{ common := ⟨source, written, reads_of_require customer, reads_of_require chain, said⟩
           mintThreshold := ⟨mintText, reads_of_require mintRead, mint⟩
           burnThreshold := ⟨burnText, reads_of_require burnRead, burn⟩
           enabled := rfl }, rfl⟩

/-- The key is the text of the address, the configuration keeps the bytes. -/
def approvalKey (config : ApprovalRuleConfig) : ApprovalContractKey :=
  ⟨config.chainId, bytesToHex config.tokenAddress⟩

theorem approvalItem_of_parse {context : String} {item : Yaml}
    {entry : ApprovalContractKey × ApprovalRuleConfig}
    (done : parseApprovalItem library context item = .ok entry) :
    ApprovalItem library entry.2 item ∧ entry.1 = approvalKey entry.2 := by
  simp only [parseApprovalItem, bind_eq_ok] at done
  rcases done with ⟨_, _, customerId, customer, chainId, chain, token, address, tokenAddress,
    decoded, text, read,
    thresholdBe, threshold, alertOnInfinite, flag, returned⟩
  rcases readsAddress_of_require address with ⟨source, said, written, again⟩
  rw [again] at decoded
  cases decoded
  cases returned
  refine ⟨{ customerId := reads_of_require customer, chainId := reads_of_require chain, address := said
            threshold := ⟨text, reads_of_require read, threshold⟩
            alertOnInfinite := flag
            enabled := rfl }, ?_⟩
  rw [written]
  rfl

def bridgeKey (config : BridgeRuleConfig) : BridgeRuleKey :=
  ⟨config.chainId, config.tokenAddress⟩

theorem bridgeTransferItem_of_parse {context : String} {item : Yaml}
    {entry : BridgeRuleKey × BridgeRuleConfig}
    (done : parseBridgeTransferItem library context item = .ok entry) :
    BridgeTransferItem library entry.2 item ∧ entry.1 = bridgeKey entry.2 := by
  simp only [parseBridgeTransferItem, bind_eq_ok] at done
  rcases done with ⟨_, _, customerId, customer, chainId, chain, token, address, tokenAddress,
    decoded, text, read,
    thresholdBe, threshold, returned⟩
  rcases readsAddress_of_require address with ⟨source, said, _, again⟩
  rw [again] at decoded
  cases decoded
  cases returned
  exact ⟨{ customerId := reads_of_require customer, chainId := reads_of_require chain, address := said
           threshold := ⟨text, reads_of_require read, threshold⟩
           enabled := rfl }, rfl⟩

def feedKey (config : OracleRuleConfig) : OracleFeedKey :=
  ⟨config.chainId, config.aggregatorAddress⟩

private theorem toNat_narrowed {value : Int} {size : Nat} (range : 0 ≤ value ∧ value < size) :
    ((value.toNat % size : Nat) : Int) = value := by
  rw [Nat.mod_eq_of_lt (by omega)]
  omega

theorem oracleUpdateItem_of_parse {context : String} {item : Yaml}
    {entry : OracleFeedKey × OracleRuleConfig}
    (done : parseOracleUpdateItem library context item = .ok entry) :
    OracleUpdateItem library entry.2 item ∧ entry.1 = feedKey entry.2 := by
  simp only [parseOracleUpdateItem, bind_eq_ok] at done
  rcases done with ⟨_, _, customerId, customer, chainId, chain, text, address, aggregatorAddress,
    decoded, feedLabel,
    label, bps, bpsRead, _, bpsRange, decimals, decimalsRead, _, decimalsRange, returned⟩
  rcases readsAddress_of_require address with ⟨source, said, _, again⟩
  rw [again] at decoded
  cases decoded
  cases returned
  -- Both numbers passed their range checks, so the narrower types hold them.
  have bpsHeld := rejectIf_eq_ok.mp bpsRange
  have decimalsHeld := rejectIf_eq_ok.mp decimalsRange
  have wholeBps : (((UInt32.ofNat bps.toNat).toNat : Nat) : Int) = bps := by
    rw [UInt32.toNat_ofNat']
    exact toNat_narrowed (by omega)
  have wholeDecimals : (((UInt8.ofNat decimals.toNat).toNat : Nat) : Int) = decimals := by
    rw [UInt8.toNat_ofNat']
    exact toNat_narrowed (by omega)
  refine ⟨{ customerId := reads_of_require customer, chainId := reads_of_require chain, address := said
            feedLabel := reads_of_require label
            bps := ?_
            decimals := ?_
            enabled := rfl }, rfl⟩
  · rw [wholeBps]
    exact reads_of_require bpsRead
  · rw [wholeDecimals]
    exact reads_of_require decimalsRead

theorem bridgeContractItem_of_parse {context : String} {item : Yaml}
    {contract : BridgeAddressKey × String}
    (done : parseBridgeContractItem library context item = .ok contract) :
    BridgeContractItem library contract item := by
  simp only [parseBridgeContractItem, bind_eq_ok] at done
  rcases done with ⟨_, _, chainId, chain, text, address, name, named, bytes, decoded, returned⟩
  rcases readsAddress_of_require address with ⟨source, said, _, again⟩
  rw [again] at decoded
  cases decoded
  cases returned
  exact { chainId := reads_of_require chain, address := said, name := reads_of_require named }

theorem customerWrittenAs_of_parse {context : String} {item : Yaml} {customer : CustomerEntry}
    (done : parseCustomerItem library context item = .ok customer) :
    CustomerWrittenAs library customer item := by
  simp only [parseCustomerItem, bind_eq_ok] at done
  rcases done with ⟨_, keys, id, idRead, key, keyRead, displayName, name, returned⟩
  cases returned
  exact { keys := keys
          id := reads_of_require idRead
          key := reads_of_require keyRead
          displayName := name }

end Items

/-! ## Sections that were read -/

private theorem forall₂_of_parseItems {Entry : Type} {name : String}
    {parseItem : String -> Yaml -> Except String Entry} {index : Nat} {items : List Yaml}
    {entries : List Entry} (done : parseItems name parseItem index items = .ok entries) :
    List.Forall₂ (fun entry item => Exists fun context => parseItem context item =
      .ok entry) entries items := by
  induction items generalizing index entries with
  | nil =>
      cases done
      exact List.Forall₂.nil
  | cons item rest inductionHypothesis =>
      simp only [parseItems, bind_eq_ok] at done
      rcases done with ⟨entry, first, others, later, returned⟩
      cases returned
      exact List.Forall₂.cons ⟨_, first⟩ (inductionHypothesis later)

/-- A section that is returned has one entry for each of its items. -/
theorem sectionLists_of_parse {Entry : Type} {name : String}
    {parseItem : String -> Yaml -> Except String Entry} {items : Option Yaml} {entries : List Entry}
    (done : parseSection name parseItem items = .ok entries) :
    SectionLists (fun entry item => Exists fun context => parseItem context item =
      .ok entry) items entries := by
  unfold parseSection at done
  split at done
  · cases done
    exact Or.inl ⟨Or.inl rfl, rfl⟩
  · cases done
    exact Or.inl ⟨Or.inr rfl, rfl⟩
  · exact Or.inr ⟨_, rfl, forall₂_of_parseItems done⟩
  · cases done

theorem SectionLists.map {Row Other : Type} {writtenAs : Row -> Yaml -> Prop}
    {otherAs : Other -> Yaml -> Prop} {items : Option Yaml} {rows : List Row}
    (convert : Row -> Other) (lists : SectionLists writtenAs items rows)
    (each : forall row item, writtenAs row item -> otherAs (convert row) item) :
    SectionLists otherAs items (rows.map convert) := by
  rcases lists with ⟨absent, rfl⟩ | ⟨listed, rfl, pairwise⟩
  · exact Or.inl ⟨absent, rfl⟩
  · refine Or.inr ⟨listed, rfl, ?_⟩
    rw [List.forall₂_map_left_iff]
    exact pairwise.imp each

theorem SectionLists.item_of_mem {Row : Type} {writtenAs : Row -> Yaml -> Prop}
    {items : Option Yaml} {rows : List Row} (lists : SectionLists writtenAs items rows) {row : Row}
    (member : row ∈ rows) :
    Exists fun listed => items = some (.sequence listed) ∧ Exists fun item => item ∈ listed ∧
    writtenAs row item := by
  rcases lists with ⟨_, rfl⟩ | ⟨listed, same, pairwise⟩
  · cases member
  · refine ⟨listed, same, ?_⟩
    clear same
    induction pairwise with
    | nil => cases member
    | cons written _ inductionHypothesis =>
        rcases List.mem_cons.mp member with rfl | later
        · exact ⟨_, List.mem_cons_self, written⟩
        · rcases inductionHypothesis later with ⟨item, listed, found⟩
          exact ⟨item, List.mem_cons_of_mem _ listed, found⟩

theorem SectionLists.row_of_mem {Row : Type} {writtenAs : Row -> Yaml -> Prop} {listed : List Yaml}
    {rows : List Row} (lists : SectionLists writtenAs (some (.sequence listed)) rows) {item : Yaml}
    (member : item ∈ listed) : Exists fun row => row ∈ rows ∧ writtenAs row item := by
  rcases lists with ⟨impossible | impossible, _⟩ | ⟨others, same, pairwise⟩
  · cases impossible
  · cases impossible
  · cases same
    induction pairwise with
    | nil => cases member
    | cons written _ inductionHypothesis =>
        rcases List.mem_cons.mp member with rfl | later
        · exact ⟨_, List.mem_cons_self, written⟩
        · rcases inductionHypothesis later with ⟨row, listed, found⟩
          exact ⟨row, List.mem_cons_of_mem _ listed, found⟩

/-- The table holds the rows of the section and nothing else: each row is in
the bucket of its own key, as often as the section lists it, and the rows of
one bucket are in the order of the section.  Every row's customer is
declared. -/
structure HoldsSection {Key Config : Type} [DecidableEq Key] (keyOf : Config -> Key)
    (customerOf : Config -> UInt64) (writtenAs : Config -> Yaml -> Prop) (declared : List UInt64)
    (items : Option Yaml) (table : Table Key (List Config)) : Prop where
  rows : Exists fun configs => SectionLists writtenAs items configs ∧
    table.pairs.Perm (configs.map fun config => (keyOf config, config)) ∧
    forall key, (table.find? key).getD [] = configs.filter fun config => decide (keyOf config = key)
  keyed : forall key bucket, (key, bucket) ∈ table.entries -> bucket ≠ [] ∧
    forall config, config ∈ bucket -> keyOf config = key
  customers : forall key bucket, (key, bucket) ∈ table.entries -> forall config, config ∈ bucket ->
    customerOf config ∈ declared

private theorem valuesAt_keyed {Key Config : Type} [DecidableEq Key] (keyOf : Config -> Key)
    (configs : List Config) (key : Key) :
    Table.valuesAt (configs.map fun config => (keyOf config, config)) key =
      configs.filter fun config => decide (keyOf config = key) := by
  rw [Table.valuesAt, List.filter_map, List.map_map]
  exact List.map_id _

/-- Appending each configuration under its own key makes a table that holds
the section. -/
theorem holdsSection_of_parse {Key Config : Type} [DecidableEq Key] {keyOf : Config -> Key}
    {customerOf : Config -> UInt64} {writtenAs : Config -> Yaml -> Prop} {declared : List UInt64}
    {items : Option Yaml} {name : String}
    {parseItem : String -> Yaml -> Except String (Key × Config)} {entries : List (Key × Config)}
    (done : parseSection name parseItem items = .ok entries)
    (each : forall context item entry, parseItem context item = .ok entry ->
      writtenAs entry.2 item ∧ entry.1 = keyOf entry.2)
    (known : forall config, config ∈ (Table.empty.pushBackAll entries).entries.flatMap Prod.snd ->
      customerOf config ∈ declared) :
    HoldsSection keyOf customerOf writtenAs declared items (Table.empty.pushBackAll entries) := by
  have lists := sectionLists_of_parse done
  have own : entries = (entries.map Prod.snd).map fun config => (keyOf config, config) := by
    rw [List.map_map]
    refine (List.map_id entries).symm.trans (List.map_congr_left fun entry member => ?_)
    rcases lists.item_of_mem member with ⟨_, _, item, _, context, parsed⟩
    exact Prod.ext (each context item entry parsed).2 rfl
  refine ⟨⟨entries.map Prod.snd, ?_, ?_, fun key => ?_⟩,
    fun key bucket listed => ⟨?_, fun config member => ?_⟩,
    fun key bucket listed config member => ?_⟩
  · exact lists.map Prod.snd fun entry item ⟨context, parsed⟩ => (each context item entry parsed).1
  · rw [← own]
    exact Table.pairs_pushBackAll_empty entries
  · rw [Table.getD_find?_pushBackAll_empty, ← valuesAt_keyed, ← own]
  · have found := Table.find?_of_mem listed
    rw [Table.find?_pushBackAll_empty] at found
    by_cases none : Table.valuesAt entries key = []
    · rw [if_pos none] at found
      cases found
    · rw [if_neg none] at found
      cases found
      exact none
  · have stored := Table.mem_of_mem_pushBackAll listed member
    rw [own, List.mem_map] at stored
    rcases stored with ⟨other, _, same⟩
    cases same
    rfl
  · exact known config (List.mem_flatMap.mpr ⟨_, listed, member⟩)

namespace HoldsSection

variable {Key Config : Type} [DecidableEq Key] {keyOf : Config -> Key}
    {customerOf : Config -> UInt64}
  {writtenAs : Config -> Yaml -> Prop} {declared : List UInt64} {items : Option Yaml}
  {table : Table Key (List Config)}

/-- A bucket exists because of an item of the section. -/
theorem item_of_key (holds : HoldsSection keyOf customerOf writtenAs declared items table)
    {key : Key} {bucket : List Config} (listed : (key, bucket) ∈ table.entries) :
    Exists fun config => keyOf config = key ∧ Exists fun item => writtenAs config item := by
  rcases holds.keyed key bucket listed with ⟨nonempty, same⟩
  rcases List.exists_mem_of_ne_nil bucket nonempty with ⟨config, member⟩
  rcases holds.rows with ⟨configs, lists, _, buckets⟩
  have here := buckets key
  rw [Table.find?_of_mem listed, Option.getD_some] at here
  rw [here] at member
  rcases lists.item_of_mem (List.mem_of_mem_filter member) with ⟨_, _, item, _, written⟩
  exact ⟨config, of_decide_eq_true (List.mem_filter.mp member).2, item, written⟩

/-- The customer of every item is declared. -/
theorem declared_of_item {listed : List Yaml}
    (holds : HoldsSection keyOf customerOf writtenAs declared (some (.sequence listed)) table)
    {item : Yaml} (member : item ∈ listed) : Exists fun config => writtenAs config item ∧
    customerOf config ∈ declared := by
  rcases holds.rows with ⟨configs, lists, complete, _⟩
  rcases lists.row_of_mem member with ⟨config, row, written⟩
  have stored : (keyOf config, config) ∈ table.pairs :=
    complete.mem_iff.mpr (List.mem_map_of_mem row)
  rcases List.mem_flatMap.mp stored with ⟨entry, bucketListed, inBucket⟩
  rcases List.mem_map.mp inBucket with ⟨other, member, same⟩
  rcases Prod.mk.inj same with ⟨_, rfl⟩
  exact ⟨other, written, holds.customers entry.1 entry.2 bucketListed other member⟩

end HoldsSection

/-! ## The whole configuration -/

/-- The node of a section of the rules, if there is one. -/
def RuleSection (library : YamlLibrary) (root : Yaml) (name : String)
    (items : Option Yaml) : Prop :=
  (items = none ∧ (library.get root "rules" = .ok none ∨
    library.get root "rules" = .ok (some .null))) ∨
    Exists fun rules => library.get root "rules" = .ok (some (.map rules)) ∧
    library.get (.map rules) name = .ok items

theorem RuleSection.unique {library : YamlLibrary} {root : Yaml} {name : String}
    {left right : Option Yaml} (first : RuleSection library root name left)
    (second : RuleSection library root name right) : left = right := by
  rcases first with ⟨rfl, absent | absent⟩ | ⟨rules, found, node⟩
  · rcases second with ⟨rfl, _⟩ | ⟨_, found, _⟩
    · rfl
    · rw [absent] at found
      cases found
  · rcases second with ⟨rfl, _⟩ | ⟨_, found, _⟩
    · rfl
    · rw [absent] at found
      cases found
  · rcases second with ⟨rfl, absent | absent⟩ | ⟨others, otherFound, otherNode⟩
    · rw [found] at absent
      cases absent
    · rw [found] at absent
      cases absent
    · rw [found] at otherFound
      cases otherFound
      rw [node] at otherNode
      exact Except.ok.inj otherNode

/-- A lowercase address of forty-two characters. -/
structure LowerAddress (text : String) : Prop where
  size : text.length = 42
  lower : lower text = text
  spells : Exists fun source : Bytes 20 => text = bytesToHex source

theorem lowerAddress_bytesToHex (source : Bytes 20) : LowerAddress (bytesToHex source) where
  size := by
    rw [(bytesToHex_spells source).length_eq, source.size_eq]
  lower := (bytesToHex_spells source).lower_text
  spells := ⟨source, rfl⟩

/-- The registry has the contracts of the section and no others.  Of several
names for one contract the last one counts. -/
def HoldsContracts (writtenAs : BridgeAddressKey × String -> Yaml -> Prop) (items : Option Yaml)
    (registry : BridgeRegistry) : Prop :=
  Exists fun contracts => SectionLists writtenAs items contracts ∧
    (forall key, key ∈ registry.addresses ↔ key ∈ contracts.map Prod.fst) ∧
    forall key, registry.names.find? key = contracts.reverse.lookup key

/-- What an accepted file guarantees. -/
structure Coherent (library : YamlLibrary) (root : Yaml) (config : BacktestFile) : Prop where
  blocks : config.startBlock < config.endBlock
  maxBlockRange : 0 < config.maxBlockRange
  customers : Exists fun items => library.get root "customers" = .ok items ∧
    SectionLists (CustomerWrittenAs library) items config.customers
  largeTransfer : Exists fun items => RuleSection library root "large_transfer" items ∧
    SectionLists (LargeTransferItem library) items config.tables.largeTransferConfigs ∧
    forall rule, rule ∈ config.tables.largeTransferConfigs ->
    rule.customerId ∈ config.customers.map CustomerEntry.id
  governance : Exists fun items => RuleSection library root "governance" items ∧
    HoldsSection governanceKey GovernanceRuleConfig.customerId (GovernanceItem library)
      (config.customers.map CustomerEntry.id) items config.tables.governanceRulesByContract
  mintBurn : Exists fun items => RuleSection library root "mint_burn" items ∧
    HoldsSection mintBurnKey MintBurnRuleConfig.customerId (MintBurnItem library)
      (config.customers.map CustomerEntry.id) items config.tables.mintBurnRulesByContract
  approval : Exists fun items => RuleSection library root "approval" items ∧
    HoldsSection approvalKey ApprovalRuleConfig.customerId (ApprovalItem library)
      (config.customers.map CustomerEntry.id) items config.tables.approvalRulesByContract
  bridgeTransfers : Exists fun items => RuleSection library root "bridge_transfers" items ∧
    HoldsSection bridgeKey BridgeRuleConfig.customerId (BridgeTransferItem library)
      (config.customers.map CustomerEntry.id) items config.tables.bridgeConfigsByKey
  oracleUpdate : Exists fun items => RuleSection library root "oracle_update" items ∧
    HoldsSection feedKey OracleRuleConfig.customerId (OracleUpdateItem library)
      (config.customers.map CustomerEntry.id) items config.tables.oracleConfigsByFeed
  governanceKeys : forall key bucket,
    (key, bucket) ∈ config.tables.governanceRulesByContract.entries ->
    LowerAddress key.contractAddress
  mintBurnKeys : forall key bucket, (key, bucket) ∈ config.tables.mintBurnRulesByContract.entries ->
    LowerAddress key.contractAddress
  approvalKeys : forall key bucket, (key, bucket) ∈ config.tables.approvalRulesByContract.entries ->
    LowerAddress key.tokenAddress
  bridges : forall key, key ∈ config.tables.bridges.addresses ↔
    (config.tables.bridges.names.find? key).isSome = true
  bridgeContracts : Exists fun items => library.get root "bridge_contracts" = .ok items ∧
    HoldsContracts (BridgeContractItem library) items config.tables.bridges

/-- Each section was parsed from its node. -/
structure ParsedSections (library : YamlLibrary) (root : Yaml) (entries : RuleEntries) : Prop where
  largeTransfer : Exists fun items => RuleSection library root "large_transfer" items ∧
    parseSection "rules.large_transfer"
      (parseLargeTransferItem library) items = .ok entries.largeTransfer
  governance : Exists fun items => RuleSection library root "governance" items ∧
    parseSection "rules.governance" (parseGovernanceItem library) items = .ok entries.governance
  mintBurn : Exists fun items => RuleSection library root "mint_burn" items ∧
    parseSection "rules.mint_burn" (parseMintBurnItem library) items = .ok entries.mintBurn
  approval : Exists fun items => RuleSection library root "approval" items ∧
    parseSection "rules.approval" (parseApprovalItem library) items = .ok entries.approval
  bridgeTransfers : Exists fun items => RuleSection library root "bridge_transfers" items ∧
    parseSection "rules.bridge_transfers"
      (parseBridgeTransferItem library) items = .ok entries.bridgeTransfers
  oracleUpdate : Exists fun items => RuleSection library root "oracle_update" items ∧
    parseSection "rules.oracle_update"
      (parseOracleUpdateItem library) items = .ok entries.oracleUpdate

private theorem parsedSections_absent {library : YamlLibrary} {root : Yaml}
    (absent : library.get root "rules" = .ok none ∨ library.get root "rules" = .ok (some .null)) :
    ParsedSections library root {} where
  largeTransfer := ⟨none, Or.inl ⟨rfl, absent⟩, rfl⟩
  governance := ⟨none, Or.inl ⟨rfl, absent⟩, rfl⟩
  mintBurn := ⟨none, Or.inl ⟨rfl, absent⟩, rfl⟩
  approval := ⟨none, Or.inl ⟨rfl, absent⟩, rfl⟩
  bridgeTransfers := ⟨none, Or.inl ⟨rfl, absent⟩, rfl⟩
  oracleUpdate := ⟨none, Or.inl ⟨rfl, absent⟩, rfl⟩

private theorem parsedSections_of_parse {library : YamlLibrary} {root : Yaml} {rules : Option Yaml}
    {entries : RuleEntries} (node : library.get root "rules" = .ok rules)
    (done : parseRules library rules = .ok entries) : ParsedSections library root entries := by
  unfold parseRules at done
  split at done
  · cases done
    exact parsedSections_absent (Or.inl node)
  · cases done
    exact parsedSections_absent (Or.inr node)
  · simp only [parseRuleSections, bind_eq_ok] at done
    rcases done with ⟨_, _, largeNode, largeFound, large, largeDone, governanceNode,
      governanceFound, governance,
      governanceDone, mintNode, mintFound, mint, mintDone, approvalNode, approvalFound,
      approval, approvalDone, bridgeNode, bridgeFound, bridge, bridgeDone, oracleNode, oracleFound,
      oracle, oracleDone, returned⟩
    cases returned
    exact {
      largeTransfer := ⟨largeNode, Or.inr ⟨_, node, largeFound⟩, largeDone⟩
      governance := ⟨governanceNode, Or.inr ⟨_, node, governanceFound⟩, governanceDone⟩
      mintBurn := ⟨mintNode, Or.inr ⟨_, node, mintFound⟩, mintDone⟩
      approval := ⟨approvalNode, Or.inr ⟨_, node, approvalFound⟩, approvalDone⟩
      bridgeTransfers := ⟨bridgeNode, Or.inr ⟨_, node, bridgeFound⟩, bridgeDone⟩
      oracleUpdate := ⟨oracleNode, Or.inr ⟨_, node, oracleFound⟩, oracleDone⟩ }
  · cases done

private theorem readBlocks_ordered {library : YamlLibrary} {root : Yaml} {blocks : UInt64 × UInt64}
    (done : readBlocks library root = .ok blocks) : blocks.1 < blocks.2 := by
  simp only [readBlocks, bind_eq_ok] at done
  rcases done with ⟨startBlock, _, endBlock, _, _, ordered, returned⟩
  cases returned
  exact UInt64.not_le.mp (rejectIf_eq_ok.mp ordered)

private theorem readMaxBlockRange_pos {library : YamlLibrary} {root : Yaml} {maxBlockRange : UInt64}
    (done : readMaxBlockRange library root = .ok maxBlockRange) : 0 < maxBlockRange := by
  simp only [readMaxBlockRange, bind_eq_ok] at done
  rcases done with ⟨node, _, read⟩
  cases node with
  | none =>
      cases read
      decide
  | some node =>
      simp only [bind_eq_ok] at read
      rcases read with ⟨value, _, _, nonzero, returned⟩
      cases returned
      exact UInt64.pos_iff_ne_zero.mpr (rejectIf_eq_ok.mp nonzero)

/-- What the part after the check of the root returns is coherent. -/
theorem coherent_of_parseRoot {library : YamlLibrary} {root : Yaml} {config : BacktestFile}
    (done : parseRoot library root = .ok config) : Coherent library root config := by
  simp only [parseRoot, bind_eq_ok] at done
  rcases done with ⟨_, _, chain, _, blocks, blocksRead, outputPath, _, maxBlockRange,
    rangeRead, customersNode,
    customersFound, customers, customersDone, rulesNode, rulesFound, rules,
    rulesDone, contractsNode, contractsFound, contracts, contractsDone, _, valid, returned⟩
  cases returned
  rcases validateCustomerIds_eq_ok.mp valid with
    ⟨largeKnown, governanceKnown, mintBurnKnown, approvalKnown, bridgeKnown, oracleKnown⟩
  have parsed := parsedSections_of_parse rulesFound rulesDone
  rcases parsed.largeTransfer with ⟨largeNode, largeAt, largeDone⟩
  rcases parsed.governance with ⟨governanceNode, governanceAt, governanceDone⟩
  rcases parsed.mintBurn with ⟨mintBurnNode, mintBurnAt, mintBurnDone⟩
  rcases parsed.approval with ⟨approvalNode, approvalAt, approvalDone⟩
  rcases parsed.bridgeTransfers with ⟨bridgeNode, bridgeAt, bridgeDone⟩
  rcases parsed.oracleUpdate with ⟨oracleNode, oracleAt, oracleDone⟩
  have customerLists : SectionLists (CustomerWrittenAs library) customersNode customers := by
    have mapped := (sectionLists_of_parse customersDone).map id
      fun customer item said => said.elim fun _ read => customerWrittenAs_of_parse read
    rwa [List.map_id] at mapped
  have largeLists : SectionLists (LargeTransferItem library) largeNode rules.largeTransfer := by
    have mapped := (sectionLists_of_parse largeDone).map id
      fun rule item said => said.elim fun _ read => largeTransferItem_of_parse read
    rwa [List.map_id] at mapped
  have contractLists : SectionLists (BridgeContractItem library) contractsNode contracts := by
    have mapped := (sectionLists_of_parse contractsDone).map id
      fun contract item said => said.elim fun _ read => bridgeContractItem_of_parse read
    rwa [List.map_id] at mapped
  have governance := holdsSection_of_parse governanceDone
    (fun _ _ _ => governanceItem_of_parse) governanceKnown
  have mintBurn := holdsSection_of_parse mintBurnDone
    (fun _ _ _ => mintBurnItem_of_parse) mintBurnKnown
  have approval := holdsSection_of_parse approvalDone
    (fun _ _ _ => approvalItem_of_parse) approvalKnown
  exact {
    blocks := readBlocks_ordered blocksRead
    maxBlockRange := readMaxBlockRange_pos rangeRead
    customers := ⟨customersNode, customersFound, customerLists⟩
    largeTransfer := ⟨largeNode, largeAt, largeLists, largeKnown⟩
    governance := ⟨governanceNode, governanceAt, governance⟩
    mintBurn := ⟨mintBurnNode, mintBurnAt, mintBurn⟩
    approval := ⟨approvalNode, approvalAt, approval⟩
    bridgeTransfers := ⟨bridgeNode, bridgeAt,
      holdsSection_of_parse bridgeDone (fun _ _ _ => bridgeTransferItem_of_parse) bridgeKnown⟩
    oracleUpdate := ⟨oracleNode, oracleAt,
      holdsSection_of_parse oracleDone (fun _ _ _ => oracleUpdateItem_of_parse) oracleKnown⟩
    governanceKeys := fun key bucket listed => by
      rcases governance.item_of_key listed with ⟨rule, rfl, item, written⟩
      rcases written.common with ⟨source, text, _⟩
      rw [governanceKey, text]
      exact lowerAddress_bytesToHex source
    mintBurnKeys := fun key bucket listed => by
      rcases mintBurn.item_of_key listed with ⟨rule, rfl, item, written⟩
      rcases written.common with ⟨source, text, _⟩
      rw [mintBurnKey, text]
      exact lowerAddress_bytesToHex source
    approvalKeys := fun key bucket listed => by
      rcases approval.item_of_key listed with ⟨rule, rfl, _⟩
      exact lowerAddress_bytesToHex rule.tokenAddress
    bridges := fun key => by
      change key ∈ (registryOf contracts).addresses ↔
        ((registryOf contracts).names.find? key).isSome = true
      rw [find?_names_registryOf]
      exact mem_addresses_iff_named contracts key
    bridgeContracts := ⟨contractsNode, contractsFound, contracts, contractLists,
      mem_addresses_registryOf contracts, find?_names_registryOf contracts⟩ }

/-! ## Undeclared customers -/

/-- The sections of the rules. -/
def ruleSectionNames : List String :=
  ["large_transfer", "governance", "mint_burn", "approval", "bridge_transfers", "oracle_update"]

/-- Some item of some rule section names the customer. -/
def NamesCustomer (library : YamlLibrary) (root : Yaml) (customerId : UInt64) : Prop :=
  Exists fun name => name ∈ ruleSectionNames ∧ Exists fun items =>
    RuleSection library root name (some (.sequence items)) ∧ Exists fun item => item ∈ items ∧
      library.Reads library.asUint64 item "customer_id" customerId

/-- Some item of the customers has the identifier. -/
def DeclaresCustomer (library : YamlLibrary) (root : Yaml) (customerId : UInt64) : Prop :=
  Exists fun items => library.get root "customers" = .ok (some (.sequence items)) ∧
    Exists fun item => item ∈ items ∧ library.Reads library.asUint64 item "id" customerId

namespace Coherent

variable {library : YamlLibrary} {root : Yaml} {config : BacktestFile}

private theorem declares_of_listed (coherent : Coherent library root config) {customerId : UInt64}
    (listed : customerId ∈ config.customers.map CustomerEntry.id) :
    DeclaresCustomer library root customerId := by
  rcases List.mem_map.mp listed with ⟨customer, member, rfl⟩
  rcases coherent.customers with ⟨items, found, lists⟩
  rcases lists.item_of_mem member with ⟨sequence, rfl, item, itemListed, written⟩
  exact ⟨sequence, found, item, itemListed, written.id⟩

private theorem listed_of_section {Key Config : Type} [DecidableEq Key] {keyOf : Config -> Key}
    {customerOf : Config -> UInt64} {writtenAs : Config -> Yaml -> Prop} {declared : List UInt64}
    {table : Table Key (List Config)} {name : String} {items : List Yaml} {item : Yaml}
    {customerId : UInt64} (held : Exists fun node => RuleSection library root name node ∧
      HoldsSection keyOf customerOf writtenAs declared node table)
    (stated : forall rule, writtenAs rule item ->
      library.Reads library.asUint64 item "customer_id" (customerOf rule))
    (here : RuleSection library root name (some (.sequence items))) (member : item ∈ items)
    (reads : library.Reads library.asUint64 item "customer_id" customerId) :
    customerId ∈ declared := by
  rcases held with ⟨node, found, holds⟩
  cases found.unique here
  rcases holds.declared_of_item member with ⟨rule, written, known⟩
  rw [reads.unique (stated rule written)]
  exact known

/-- Every customer that a rule names is declared. -/
theorem declares (coherent : Coherent library root config) {customerId : UInt64}
    (names : NamesCustomer library root customerId) : DeclaresCustomer library root customerId := by
  apply coherent.declares_of_listed
  rcases names with ⟨name, known, items, found, item, member, reads⟩
  simp only [ruleSectionNames, List.mem_cons, List.not_mem_nil, or_false] at known
  rcases known with rfl | rfl | rfl | rfl | rfl | rfl
  · rcases coherent.largeTransfer with ⟨node, other, lists, known⟩
    cases other.unique found
    rcases lists.row_of_mem member with ⟨rule, listed, written⟩
    rw [reads.unique written.customerId]
    exact known rule listed
  · exact listed_of_section coherent.governance
      (fun rule written => written.common.elim fun _ common =>
        common.2.customerId) found member reads
  · exact listed_of_section coherent.mintBurn
      (fun rule written => written.common.elim fun _ common =>
        common.2.customerId) found member reads
  · exact listed_of_section coherent.approval
      (fun rule written => written.customerId) found member reads
  · exact listed_of_section coherent.bridgeTransfers
      (fun rule written => written.customerId) found member reads
  · exact listed_of_section coherent.oracleUpdate
      (fun rule written => written.customerId) found member reads

end Coherent

private theorem coherent_of_load {library : YamlLibrary} {yamlPath : String} {file : Option String}
    {config : BacktestFile} (loaded : loadBacktestConfig library yamlPath file = .ok config) :
    Exists fun text => Exists fun root => file = some text ∧ library.load text = .ok root ∧
      Coherent library root config := by
  unfold loadBacktestConfig at loaded
  split at loaded
  · cases loaded
  · rename_i text
    split at loaded
    · cases loaded
    · rename_i entries parsed
      exact ⟨text, .map entries, rfl, parsed, coherent_of_parseRoot loaded⟩
    · cases loaded

/-- Every configuration that the loader returns is coherent and holds exactly
the rows of the file, and a file with a rule of an undeclared customer has no
configuration. -/
theorem accepted_config_coherent (library : YamlLibrary) (yamlPath : String)
    (file : Option String) :
    (forall config, loadBacktestConfig library yamlPath file = .ok config ->
      Exists fun text => Exists fun root => file = some text ∧ library.load text = .ok root ∧
        Coherent library root config) ∧
    forall text root customerId, file = some text -> library.load text = .ok root ->
      NamesCustomer library root customerId -> ¬ DeclaresCustomer library root customerId ->
        Exists fun cause => loadBacktestConfig library yamlPath file = .error cause := by
  refine ⟨fun config loaded => coherent_of_load loaded,
    fun text root customerId read parsed names undeclared => ?_⟩
  cases result : loadBacktestConfig library yamlPath file with
  | error cause => exact ⟨cause, rfl⟩
  | ok config =>
      rcases coherent_of_load result with ⟨other, tree, same, parsedOther, coherent⟩
      rw [read] at same
      cases same
      rw [parsed] at parsedOther
      cases parsedOther
      exact absurd (coherent.declares names) undeclared

/-- One customer, and two rules for one contract in different spellings. -/
private def sharedBucketText : String :=
  "\x7bchain: ethereum, start_block: 100, end_block: 200, output_path: alerts.jsonl, " ++
    "customers: [\x7bid: 1, key: acme\x7d], rules: \x7bgovernance: [" ++
    "\x7bcustomer_id: 1, chain_id: 1, " ++
    "contract_address: 0xA0b86991c6218b36c1d19D4a2e9Eb0cE3606eB48\x7d, " ++
    "\x7bcustomer_id: 1, chain_id: 1, " ++
    "contract_address: 0XA0B86991C6218B36C1D19D4A2E9EB0CE3606EB48\x7d]\x7d\x7d"

private def governanceNode (customerId address : String) : Yaml :=
  .map [(.scalar "customer_id", .scalar customerId), (.scalar "chain_id", .scalar "1"),
    (.scalar "contract_address", .scalar address)]

private def fileWith (rules : List Yaml) : Yaml :=
  .map [(.scalar "chain", .scalar "ethereum"), (.scalar "start_block", .scalar "100"),
    (.scalar "end_block", .scalar "200"), (.scalar "output_path", .scalar "alerts.jsonl"),
    (.scalar "customers",
      .sequence [.map [(.scalar "id", .scalar "1"), (.scalar "key", .scalar "acme")]]),
    (.scalar "rules", .map [(.scalar "governance", .sequence rules)])]

/-- The same file with a rule of customer 7 behind them. -/
private def strangerText : String :=
  "\x7bchain: ethereum, start_block: 100, end_block: 200, output_path: alerts.jsonl, " ++
    "customers: [\x7bid: 1, key: acme\x7d], rules: \x7bgovernance: [" ++
    "\x7bcustomer_id: 1, chain_id: 1, " ++
    "contract_address: 0xA0b86991c6218b36c1d19D4a2e9Eb0cE3606eB48\x7d, " ++
    "\x7bcustomer_id: 7, chain_id: 1, " ++
    "contract_address: 0XA0B86991C6218B36C1D19D4A2E9EB0CE3606EB48\x7d]\x7d\x7d"

private def sharedBucketFile : Yaml :=
  fileWith [governanceNode "1" "0xA0b86991c6218b36c1d19D4a2e9Eb0cE3606eB48",
    governanceNode "1" "0XA0B86991C6218B36C1D19D4A2E9EB0CE3606EB48"]

private def strangerFile : Yaml :=
  fileWith [governanceNode "1" "0xA0b86991c6218b36c1d19D4a2e9Eb0cE3606eB48",
    governanceNode "7" "0XA0B86991C6218B36C1D19D4A2E9EB0CE3606EB48"]

private def twoFiles : YamlLibrary where
  load := fun text =>
    if text = sharedBucketText then .ok sharedBucketFile
    else if text = strangerText then .ok strangerFile
    else .error "parse error"
  asString
    | .scalar text => .ok text
    | _ => .error "bad conversion"
  asUint64
    | .scalar text => .ok (UInt64.ofNat (Nat.ofDigitChars 10 text.toList 0))
    | _ => .error "bad conversion"
  asInt
    | .scalar text => .ok (Nat.ofDigitChars 10 text.toList 0)
    | _ => .error "bad conversion"
  asBool
    | .scalar text => .ok (decide (text = "true"))
    | _ => .error "bad conversion"
  badSubscript := fun field => "operator[] call on a scalar (key: \"" ++ field ++ "\")"

private theorem sharedBucket_accepted :
    (loadBacktestConfig twoFiles "backtest.yaml" (some sharedBucketText)).toBool = true := by
  decide +kernel

private theorem load_strangerText : twoFiles.load strangerText = .ok strangerFile := by
  have different : ¬ strangerText = sharedBucketText := by decide +kernel
  simp only [twoFiles, if_neg different, if_true]

private theorem stranger_named : NamesCustomer twoFiles strangerFile 7 :=
  ⟨"governance", by decide, _, Or.inr ⟨_, rfl, rfl⟩, governanceNode "7" _,
    List.mem_cons_of_mem _ List.mem_cons_self, ⟨_, rfl, rfl⟩⟩

private theorem stranger_undeclared : ¬ DeclaresCustomer twoFiles strangerFile 7 := by
  rintro ⟨items, found, item, member, child, named, converted⟩
  have listed : items = [.map [(.scalar "id", .scalar "1"), (.scalar "key", .scalar "acme")]] := by
    cases found
    rfl
  rw [listed, List.mem_singleton] at member
  subst member
  cases named
  exact absurd (Except.ok.inj converted) (by decide)

/-- The first file is accepted and coherent; the second is rejected. -/
theorem stranger_rejected :
    (Exists fun config => loadBacktestConfig twoFiles "backtest.yaml"
      (some sharedBucketText) = .ok config ∧
      config.startBlock < config.endBlock) ∧
    Exists fun cause => loadBacktestConfig twoFiles "backtest.yaml"
      (some strangerText) = .error cause := by
  constructor
  · cases result : loadBacktestConfig twoFiles "backtest.yaml" (some sharedBucketText) with
    | error cause =>
        have accepted := sharedBucket_accepted
        rw [result] at accepted
        cases accepted
    | ok config =>
        rcases (accepted_config_coherent twoFiles "backtest.yaml"
          (some sharedBucketText)).1 config result with ⟨_, _, _, _, coherent⟩
        exact ⟨config, rfl, coherent.blocks⟩
  · exact (accepted_config_coherent twoFiles "backtest.yaml"
      (some strangerText)).2 strangerText strangerFile 7 rfl
      load_strangerText stranger_named stranger_undeclared

end Backtest
end RiskSentinel
