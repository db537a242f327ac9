import RiskSentinel.App.RuleLoaders
import RiskSentinel.Backtest.BacktestConfig

namespace RiskSentinel
namespace Backtest

open Foundation Events Risk App

/-!
# Rows of the database in the file of a backtest

A row is in order when its address is `0x` and forty hexadecimal digits and
its numbers are in the accepted ranges.  An item of the file says the same as
a row when each of its fields reads as the row's column.

Such a row and such an item become the same entry.  Whether the entry's key is
the lowercase text of the address or its bytes, an event finds it exactly when
the chains agree and the row's address decodes to the event's.
-/

/-! ## Rows in order, and items that say the same -/

/-- The row is about this chain, and its text decodes to this address. -/
def rowFor (rowChain : UInt64) (text : String) (chainId : UInt64) (address : Bytes 20) : Bool :=
  decide (rowChain = chainId) && decide
    ((parseHexBytes text (Bytes.zeros 20)).toOption = some address)

theorem rowFor_iff {text : String} {source : Bytes 20} (spells : SpellsBytes text source.bytes)
    (rowChain chainId : UInt64) (address : Bytes 20) :
    rowFor rowChain text chainId address = true ↔ rowChain = chainId ∧ source = address := by
  rw [rowFor, parseHexBytes_exact _ source spells]
  simp [Except.toOption]

/-- What the JSON text of a large transfer row says. -/
structure LargeTransferParams where
  chainId : UInt64
  tokenAddress : String
  threshold : String

section Rows

variable {Json : Type} (json : JsonLibrary Json) (library : YamlLibrary)

def largeTransferParams (row : LargeTransferRow) : Except String LargeTransferParams := do
  let params ← json.parse row.paramsJsonb
  let chainId ← json.valueUint64 params "chain_id" 42161
  let tokenAddress ← json.valueString params "token_address" "0xFd086bC7CD5C481DCC9C85ebE478A1C0b69FCbb9"
  let threshold ← json.valueString params "threshold" "10000000000"
  return { chainId, tokenAddress, threshold }

def largeTransferRowFor (row : LargeTransferRow) (chainId : UInt64) (address : Bytes 20) : Bool :=
  match largeTransferParams json row with
  | .ok params => rowFor params.chainId params.tokenAddress chainId address
  | .error _ => false

structure LargeTransferProper (row : LargeTransferRow) : Prop where
  inOrder : Exists fun params => largeTransferParams json row = .ok params ∧
    IsHexAddress params.tokenAddress ∧
    IsThreshold params.threshold

structure LargeTransferWrittenAs (row : LargeTransferRow) (item : Yaml) : Prop where
  keys : library.warnUnknownKeys item = .ok ()
  customerId : library.Reads library.asUint64 item "customer_id" row.customerId
  params : forall params, largeTransferParams json row = .ok params ->
    library.Reads library.asUint64 item "chain_id" params.chainId ∧
      library.Reads library.asString item "token_address" params.tokenAddress ∧
      library.Reads library.asString item "threshold_decimal" params.threshold

structure GovernanceProper (row : GovernanceRow) : Prop where
  address : IsHexAddress row.contractAddress
  enabled : row.enabled = true

structure GovernanceWrittenAs (row : GovernanceRow) (item : Yaml) : Prop where
  keys : library.warnUnknownKeys item = .ok ()
  customerId : library.Reads library.asUint64 item "customer_id" row.customerId
  chainId : library.Reads library.asUint64 item "chain_id" row.chainId
  address : library.Reads library.asString item "contract_address" row.contractAddress

structure MintBurnProper (row : MintBurnRow) : Prop where
  address : IsHexAddress row.contractAddress
  mint : IsThreshold row.mintThresholdRaw
  burn : IsThreshold row.burnThresholdRaw
  enabled : row.enabled = true

structure MintBurnWrittenAs (row : MintBurnRow) (item : Yaml) : Prop where
  keys : library.warnUnknownKeys item = .ok ()
  customerId : library.Reads library.asUint64 item "customer_id" row.customerId
  chainId : library.Reads library.asUint64 item "chain_id" row.chainId
  address : library.Reads library.asString item "contract_address" row.contractAddress
  mint : library.Reads library.asString item "mint_threshold_decimal" row.mintThresholdRaw
  burn : library.Reads library.asString item "burn_threshold_decimal" row.burnThresholdRaw

structure ApprovalProper (row : ApprovalRow) : Prop where
  address : IsHexAddress row.tokenAddress
  threshold : IsThreshold row.thresholdRaw
  enabled : row.enabled = true

structure ApprovalWrittenAs (row : ApprovalRow) (item : Yaml) : Prop where
  keys : library.warnUnknownKeys item = .ok ()
  customerId : library.Reads library.asUint64 item "customer_id" row.customerId
  chainId : library.Reads library.asUint64 item "chain_id" row.chainId
  address : library.Reads library.asString item "token_address" row.tokenAddress
  threshold : library.Reads library.asString item "threshold_decimal" row.thresholdRaw
  alertOnInfinite : readAlertOnInfinite library item = .ok row.alertOnInfinite

structure BridgeContractWrittenAs (row : BridgeContractRow) (item : Yaml) : Prop where
  keys : library.warnUnknownKeys item = .ok ()
  chainId : library.Reads library.asUint64 item "chain_id" row.chainId
  address : library.Reads library.asString item "address" row.address
  name : library.Reads library.asString item "bridge_name" row.bridgeName

structure BridgeRuleProper (row : BridgeRuleRow) : Prop where
  address : IsHexAddress row.tokenAddress
  threshold : IsThreshold row.thresholdRaw

structure BridgeRuleWrittenAs (row : BridgeRuleRow) (item : Yaml) : Prop where
  keys : library.warnUnknownKeys item = .ok ()
  customerId : library.Reads library.asUint64 item "customer_id" row.customerId
  chainId : library.Reads library.asUint64 item "chain_id" row.chainId
  address : library.Reads library.asString item "token_address" row.tokenAddress
  threshold : library.Reads library.asString item "threshold_decimal" row.thresholdRaw

structure OracleProper (row : OracleRow) : Prop where
  address : IsHexAddress row.aggregatorAddress
  bps : 0 < row.spikeThresholdBps ∧ row.spikeThresholdBps ≤ 100000
  decimals : 0 ≤ row.decimals ∧ row.decimals ≤ 255

structure OracleWrittenAs (row : OracleRow) (item : Yaml) : Prop where
  keys : library.warnUnknownKeys item = .ok ()
  customerId : library.Reads library.asUint64 item "customer_id" row.customerId
  chainId : library.Reads library.asUint64 item "chain_id" row.chainId
  address : library.Reads library.asString item "aggregator_address" row.aggregatorAddress
  feedLabel : library.Reads library.asString item "feed_label" row.feedLabel
  bps : library.Reads library.asInt item "spike_threshold_bps" row.spikeThresholdBps
  decimals : library.Reads library.asInt item "decimals" row.decimals

/-- A customer section item. -/
structure CustomerWrittenAs (customer : CustomerEntry) (item : Yaml) : Prop where
  keys : library.warnUnknownKeys item = .ok ()
  id : library.Reads library.asUint64 item "id" customer.id
  key : library.Reads library.asString item "key" customer.key
  displayName : readDisplayName library item = .ok customer.displayName

/-! ## One row, two loaders -/

/-- Both loaders read the row as one entry, and the key of the entry is that
of an event exactly when the row is about the event's chain and address. -/
def ReadAlike {Row Key Config : Type} (read : Row -> Except String (Key × Config))
    (parseItem : String -> Yaml -> Except String (Key × Config)) (writtenAs : Row -> Yaml -> Prop)
    (keyOf : UInt64 -> Bytes 20 -> Key) (rowChain : Row -> UInt64) (rowAddress : Row -> String)
    (row : Row) : Prop :=
  Exists fun entry => read row = .ok entry ∧
    (forall item, writtenAs row item -> forall context, parseItem context item = .ok entry) ∧
    forall chainId address, entry.1 = keyOf chainId address ↔
      rowFor (rowChain row) (rowAddress row) chainId address = true

theorem readAlike_governance {row : GovernanceRow} (proper : GovernanceProper row) :
    ReadAlike readGovernanceRow (parseGovernanceItem library) (GovernanceWrittenAs library)
      (fun chainId address =>
        ⟨chainId, bytesToHex address⟩) GovernanceRow.chainId GovernanceRow.contractAddress
      row := by
  rcases proper.address.spells with ⟨source, spells⟩
  refine ⟨_, rfl, fun item written context => ?_, fun chainId address => ?_⟩
  · simp only [parseGovernanceItem, bind_eq_ok, proper.enabled]
    exact ⟨_, written.keys, _, written.customerId.require _ context, _,
      written.chainId.require _ context, _,
      requireAddress_of_reads written.address spells context, rfl⟩
  · rw [rowFor_iff spells, spells.lower_text, GovernanceContractKey.mk.injEq]
    exact and_congr_right fun _ => ⟨bytesToHex_inj, congrArg bytesToHex⟩

theorem readAlike_mintBurn {row : MintBurnRow} (proper : MintBurnProper row) :
    ReadAlike readMintBurnRow (parseMintBurnItem library) (MintBurnWrittenAs library)
      (fun chainId address =>
        ⟨chainId, bytesToHex address⟩) MintBurnRow.chainId MintBurnRow.contractAddress
      row := by
  rcases proper.address.spells with ⟨source, spells⟩
  rcases proper.mint.accepted with ⟨mintBe, mint⟩
  rcases proper.burn.accepted with ⟨burnBe, burn⟩
  refine ⟨_, readMintBurnRow_ok mint burn, fun item written context => ?_,
    fun chainId address => ?_⟩
  · simp only [parseMintBurnItem, bind_eq_ok, proper.enabled]
    exact ⟨_, written.keys, _, written.customerId.require _ context, _,
      written.chainId.require _ context, _,
      requireAddress_of_reads written.address spells context, _, written.mint.require _ context, _,
      written.burn.require _ context, mintBe, mint, burnBe, burn, rfl⟩
  · rw [rowFor_iff spells, spells.lower_text, MintBurnContractKey.mk.injEq]
    exact and_congr_right fun _ => ⟨bytesToHex_inj, congrArg bytesToHex⟩

/-- An address in lower case is decoded like the address itself. -/
theorem parse_lower {text : String} {source : Bytes 20} (spells : SpellsBytes text source.bytes) :
    parseHexBytes (lower text) (Bytes.zeros 20) = .ok source := by
  rw [spells.lower_text]
  exact parseHexBytes_exact _ source (bytesToHex_spells source)

theorem readAlike_approval {row : ApprovalRow} (proper : ApprovalProper row) :
    ReadAlike readApprovalRow (parseApprovalItem library) (ApprovalWrittenAs library)
      (fun chainId address =>
        ⟨chainId, bytesToHex address⟩) ApprovalRow.chainId ApprovalRow.tokenAddress row := by
  rcases proper.address.spells with ⟨source, spells⟩
  rcases proper.threshold.accepted with ⟨thresholdBe, threshold⟩
  refine ⟨_, readApprovalRow_ok (parse_lower spells) threshold, fun item written context => ?_,
    fun chainId address => ?_⟩
  · simp only [parseApprovalItem, bind_eq_ok, proper.enabled]
    exact ⟨_, written.keys, _, written.customerId.require _ context, _,
      written.chainId.require _ context, _,
      requireAddress_of_reads written.address spells context, source, parse_lower spells, _,
      written.threshold.require _ context, thresholdBe, threshold, _, written.alertOnInfinite, rfl⟩
  · rw [rowFor_iff spells, spells.lower_text, ApprovalContractKey.mk.injEq]
    exact and_congr_right fun _ => ⟨bytesToHex_inj, congrArg bytesToHex⟩

theorem readAlike_bridgeContract {row : BridgeContractRow} (proper : IsHexAddress row.address) :
    ReadAlike readBridgeContractRow (parseBridgeContractItem library)
      (BridgeContractWrittenAs library)
      BridgeAddressKey.mk BridgeContractRow.chainId BridgeContractRow.address row := by
  rcases proper.spells with ⟨source, spells⟩
  refine ⟨_, readBridgeContractRow_ok (parse_lower spells), fun item written context => ?_,
    fun chainId address => ?_⟩
  · simp only [parseBridgeContractItem, bind_eq_ok]
    exact ⟨_, written.keys, _, written.chainId.require _ context, _,
      requireAddress_of_reads written.address spells context, _,
      written.name.require _ context, source, parse_lower spells, rfl⟩
  · rw [rowFor_iff spells, BridgeAddressKey.mk.injEq]

theorem readAlike_bridgeRule {row : BridgeRuleRow} (proper : BridgeRuleProper row) :
    ReadAlike readBridgeRuleRow (parseBridgeTransferItem library) (BridgeRuleWrittenAs library)
      BridgeRuleKey.mk BridgeRuleRow.chainId BridgeRuleRow.tokenAddress row := by
  rcases proper.address.spells with ⟨source, spells⟩
  rcases proper.threshold.accepted with ⟨thresholdBe, threshold⟩
  refine ⟨_, readBridgeRuleRow_ok (parse_lower spells) threshold, fun item written context => ?_,
    fun chainId address => ?_⟩
  · simp only [parseBridgeTransferItem, bind_eq_ok]
    exact ⟨_, written.keys, _, written.customerId.require _ context, _,
      written.chainId.require _ context, _,
      requireAddress_of_reads written.address spells context, source, parse_lower spells, _,
      written.threshold.require _ context, thresholdBe, threshold, rfl⟩
  · rw [rowFor_iff spells, BridgeRuleKey.mk.injEq]

theorem readAlike_oracle {row : OracleRow} (proper : OracleProper row) :
    ReadAlike readOracleRow (parseOracleUpdateItem library) (OracleWrittenAs library)
      OracleFeedKey.mk OracleRow.chainId OracleRow.aggregatorAddress row := by
  rcases proper.address.spells with ⟨source, spells⟩
  have bps : ¬ (row.spikeThresholdBps ≤ 0 ∨ 100000 < row.spikeThresholdBps) := by
    have := proper.bps
    omega
  have decimals : ¬ (row.decimals < 0 ∨ 255 < row.decimals) := by
    have := proper.decimals
    omega
  refine ⟨_, readOracleRow_ok bps decimals (parse_lower spells), fun item written context => ?_,
    fun chainId address => ?_⟩
  · simp only [parseOracleUpdateItem, bind_eq_ok]
    exact ⟨_, written.keys, _, written.customerId.require _ context, _,
      written.chainId.require _ context, _,
      requireAddress_of_reads written.address spells context, source, parse_lower spells, _,
      written.feedLabel.require _ context, _, written.bps.require _ context, _,
      rejectIf_eq_ok.mpr bps, _, written.decimals.require _ context, _,
      rejectIf_eq_ok.mpr decimals, rfl⟩
  · rw [rowFor_iff spells, OracleFeedKey.mk.injEq]

theorem readLargeTransferRow_ok {row : LargeTransferRow} {params : LargeTransferParams}
    {tokenAddress : Bytes 20} {thresholdBe : Bytes 32}
    (said : largeTransferParams json row = .ok params)
    (token : parseHexBytes params.tokenAddress (Bytes.zeros 20) = .ok tokenAddress)
    (threshold : decimalToBe256 params.threshold = .ok thresholdBe) :
    readLargeTransferRow json row =
      .ok { customerId := row.customerId, chainId := params.chainId, tokenAddress, thresholdBe } := by
  simp only [largeTransferParams, bind_eq_ok] at said
  rcases said with ⟨value, parsed, chainId, chain, tokenText, tokenSaid, thresholdText,
    thresholdSaid, made⟩
  cases made
  simp only [readLargeTransferRow, bind_eq_ok]
  exact ⟨value, parsed, chainId, chain, tokenText, tokenSaid, tokenAddress, token,
    thresholdText, thresholdSaid,
    thresholdBe, threshold, rfl⟩

/-- Large transfers have no key; the loop compares the two fields. -/
theorem readAlike_largeTransfer {row : LargeTransferRow} (proper : LargeTransferProper json row) :
    Exists fun config => readLargeTransferRow json row = .ok config ∧
    config.customerId = row.customerId ∧
      (forall item, LargeTransferWrittenAs json library row item -> forall context,
        parseLargeTransferItem library context item = .ok config) ∧
      forall chainId address, (chainId = config.chainId ∧ address = config.tokenAddress) ↔
        largeTransferRowFor json row chainId address = true := by
  rcases proper.inOrder with ⟨params, said, address, threshold⟩
  rcases address.spells with ⟨source, spells⟩
  rcases threshold.accepted with ⟨thresholdBe, accepted⟩
  refine ⟨_, readLargeTransferRow_ok json said (parseHexBytes_exact _ source spells) accepted, rfl,
    fun item written context => ?_, fun chainId address => ?_⟩
  · rcases written.params params said with ⟨chain, token, thresholdText⟩
    simp only [parseLargeTransferItem, bind_eq_ok]
    exact ⟨_, written.keys, _, written.customerId.require _ context, _, chain.require _ context, _,
      requireAddress_of_reads token spells context, source, parse_lower spells, _,
      thresholdText.require _ context, thresholdBe, accepted, rfl⟩
  · rw [largeTransferRowFor, said]
    exact (and_congr eq_comm eq_comm).trans (rowFor_iff spells _ _ _).symm

end Rows

/-! ## Found by an event -/

section Found

variable {Row Key Config : Type} {read : Row -> Except String (Key × Config)}
  {parseItem : String -> Yaml -> Except String (Key × Config)} {writtenAs : Row -> Yaml -> Prop}
  {keyOf : UInt64 -> Bytes 20 -> Key} {rowChain : Row -> UInt64} {rowAddress : Row -> String}
  {rows : List Row}

/-- The bucket of an event holds the configurations of the rows about its
chain and address, in their order. -/
theorem bucket_of_rows [DecidableEq Key] (alike : forall row, row ∈ rows ->
      ReadAlike read parseItem writtenAs keyOf rowChain rowAddress row) (chainId : UInt64)
        (address : Bytes 20) :
    ((Table.empty.pushBackAll (loadedEntries read rows)).find? (keyOf chainId address)).getD [] =
      (loadedEntries read (rows.filter fun row =>
        rowFor (rowChain row) (rowAddress row) chainId address)).map Prod.snd := by
  rw [Table.getD_find?_pushBackAll_empty]
  induction rows with
  | nil => rfl
  | cons row rest inductionHypothesis =>
      have others := inductionHypothesis fun other member =>
        alike other (List.mem_cons_of_mem _ member)
      rcases alike row List.mem_cons_self with ⟨entry, done, _, found⟩
      rw [loadedEntries_cons_ok read done]
      by_cases here : entry.1 = keyOf chainId address
      · have listed : Table.valuesAt (entry :: loadedEntries read rest) (keyOf chainId address) =
            entry.2 :: Table.valuesAt (loadedEntries read rest) (keyOf chainId address) := by
          simp [Table.valuesAt, here]
        have wanted := (found chainId address).mp here
        rw [listed, List.filter_cons, if_pos wanted, loadedEntries_cons_ok read done,
          List.map_cons, others]
      · have skipped : Table.valuesAt (entry :: loadedEntries read rest) (keyOf chainId address) =
            Table.valuesAt (loadedEntries read rest) (keyOf chainId address) := by
          simp [Table.valuesAt, here]
        have unwanted : ¬ rowFor (rowChain row) (rowAddress row) chainId address = true :=
          fun wanted =>
          here ((found chainId address).mpr wanted)
        rw [skipped, List.filter_cons, if_neg unwanted, others]

theorem key_of_rows (alike : forall row, row ∈ rows ->
      ReadAlike read parseItem writtenAs keyOf rowChain rowAddress row) (chainId : UInt64)
        (address : Bytes 20) :
    keyOf chainId address ∈ (loadedEntries read rows).map Prod.fst ↔
      (rows.any fun row => rowFor (rowChain row) (rowAddress row) chainId address) = true := by
  rw [List.any_eq_true, List.mem_map]
  constructor
  · rintro ⟨entry, listed, same⟩
    rcases List.mem_filterMap.mp listed with ⟨row, member, done⟩
    rcases alike row member with ⟨other, read, _, found⟩
    rw [read] at done
    cases done
    exact ⟨row, member, (found chainId address).mp same⟩
  · rintro ⟨row, member, wanted⟩
    rcases alike row member with ⟨entry, done, _, found⟩
    refine ⟨entry, List.mem_filterMap.mpr ⟨row, member, ?_⟩, (found chainId address).mpr wanted⟩
    rw [done]
    rfl

theorem section_of_readAlike (alike : forall row, row ∈ rows ->
      ReadAlike read parseItem writtenAs keyOf rowChain rowAddress row) {items : Option Yaml}
    (lists : SectionLists writtenAs items rows) (name : String) :
    parseSection name parseItem items = .ok (loadedEntries read rows) := by
  refine parseSection_of_lists lists (fun row member => ?_) name
  rcases alike row member with ⟨entry, done, parsed, _⟩
  exact ⟨entry, done, parsed⟩

end Found

end Backtest
end RiskSentinel
