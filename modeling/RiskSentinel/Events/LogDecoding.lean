import RiskSentinel.Events.Normalize

namespace RiskSentinel
namespace Events

open Foundation Risk

/-!
# What a signal keeps of a log

The first half reads `normalize` from the side of the chain: a log is given,
written down as a raw log, and the resulting signal is described in terms of
the log's own topics and data.  The second half reads it from the side of the
RPC answer, whose strings may hold anything.  There the decoder is more
lenient than its fixed-width fields allow, and the texts it decodes in full
are determined exactly.
-/

/-! ## The listed topics -/

/-- The topics that name a type. -/
def listedTopics : List (Bytes 32 × SignalType) :=
  [(topicTransfer, .transfer), (topicSwapV2, .swap), (topicSwapV3, .swap),
    (topicMint, .liquidityChange),
    (topicBurn, .liquidityChange), (topicOwnershipTransferred, .governance),
    (topicPaused, .governance), (topicUnpaused, .governance), (topicRoleGranted, .governance),
    (topicRoleRevoked, .governance), (topicUpgraded, .governance), (topicApproval, .approval),
    (topicOracleAnswerUpdated, .oracleUpdate)]

/-- The governance topics with the actions they stand for. -/
def governanceTopics : List (Bytes 32 × GovernanceAction) :=
  [(topicOwnershipTransferred, .ownershipTransferred), (topicPaused, .paused),
    (topicUnpaused, .unpaused),
    (topicRoleGranted, .roleGranted), (topicRoleRevoked, .roleRevoked), (topicUpgraded, .upgraded)]

/-- The chain of comparisons is a search in the list of topics. -/
theorem classifyTopic0_eq_lookup (topic0 : Bytes 32) :
    classifyTopic0 topic0 = (listedTopics.lookup topic0).getD .unknown := by
  unfold classifyTopic0 listedTopics
  simp only [List.lookup_cons, List.lookup_nil, Bool.or_eq_true, decide_eq_true_eq]
  repeat' split
  all_goals simp_all

theorem classifyTopic0_eq_governance_iff (topic0 : Bytes 32) :
    classifyTopic0 topic0 = .governance ↔
      Exists fun action => (topic0, action) ∈ governanceTopics := by
  constructor
  · intro type
    unfold classifyTopic0 at type
    repeat' split at type
    all_goals cases type
    rename_i listed
    simp only [Bool.or_eq_true, decide_eq_true_eq] at listed
    rcases listed with ((((rfl | rfl) | rfl) | rfl) | rfl) | rfl
    · exact ⟨.ownershipTransferred, by simp [governanceTopics]⟩
    · exact ⟨.paused, by simp [governanceTopics]⟩
    · exact ⟨.unpaused, by simp [governanceTopics]⟩
    · exact ⟨.roleGranted, by simp [governanceTopics]⟩
    · exact ⟨.roleRevoked, by simp [governanceTopics]⟩
    · exact ⟨.upgraded, by simp [governanceTopics]⟩
  · rintro ⟨action, member⟩
    have table : forall entry, entry ∈ governanceTopics ->
        classifyTopic0 entry.1 = .governance := by
      decide +kernel
    exact table _ member

theorem governanceAction_of_mem {topic0 : Bytes 32} {action : GovernanceAction}
    (member : (topic0, action) ∈ governanceTopics) : governanceAction topic0 = action := by
  have table : forall entry, entry ∈ governanceTopics -> governanceAction entry.1 = entry.2 := by
    decide +kernel
  exact table _ member

theorem classifyTopic0_eq_oracleUpdate_iff (topic0 : Bytes 32) :
    classifyTopic0 topic0 = .oracleUpdate ↔ topic0 = topicOracleAnswerUpdated := by
  constructor
  · intro type
    unfold classifyTopic0 at type
    repeat' split at type
    all_goals first
      | assumption
      | cases type
  · intro same
    rw [same]
    decide

/-! ## A log and its signal -/

namespace EmittedLog

/-- A topic of the log, the zero word where there is none. -/
def topic (log : EmittedLog) (position : Nat) : Bytes 32 :=
  log.topics.getD position (Bytes.zeros 32)

/-- The type that the first topic names. -/
def typeOfTopic0 (log : EmittedLog) : SignalType :=
  match log.topics with
  | [] => .unknown
  | topic0 :: _ => (listedTopics.lookup topic0).getD .unknown

/-- A transfer with a full amount, from or to the zero word. -/
def IsMintBurn (log : EmittedLog) : Prop :=
  log.topics.head? = some topicTransfer ∧ 3 ≤ log.topics.length ∧ 32 ≤ log.data.length ∧
    ((log.topic 1).isZero = true ∨ (log.topic 2).isZero = true)

/-- An answer update with both indexed values and a full data word. -/
def IsOracleUpdate (log : EmittedLog) : Prop :=
  log.topics.head? = some topicOracleAnswerUpdated ∧ 3 ≤ log.topics.length ∧ 32 ≤ log.data.length

/-- One of the six governance topics stands first. -/
def IsGovernance (log : EmittedLog) : Prop :=
  Exists fun topic0 => Exists fun action => (topic0, action) ∈ governanceTopics ∧
    log.topics.head? = some topic0

/-- Both words are zero, or only the sender's, or only the receiver's. -/
def mintBurnDirection (log : EmittedLog) : MintBurnDirection :=
  match (log.topic 1).isZero, (log.topic 2).isZero with
  | true, true => .unknown
  | true, false => .mint
  | false, _ => .burn

/-- The signal of a log, field by field. -/
structure SignalOf (log : EmittedLog) (chainId : UInt64) (removed : Bool)
    (signal : Signal) : Prop where
  blockNumber : signal.signalMeta.blockNumber = some log.blockNumber
  txHash : signal.signalMeta.txHash = some log.txHash
  mintBurnType : log.IsMintBurn -> signal.type = .mintBurn
  type : ¬ log.IsMintBurn -> signal.type = log.typeOfTopic0
  governance : forall topic0 action, (topic0, action) ∈ governanceTopics ->
    log.topics.head? = some topic0 ->
    signal.payload = .governance
      { action := action, chainId := chainId, contractAddress := log.address }
  isMintBurn_iff : (Exists fun event => signal.payload = .mintBurn event) ↔ log.IsMintBurn
  mintBurn : forall event, signal.payload = .mintBurn event ->
    event.direction = log.mintBurnDirection ∧ event.chainId = chainId ∧
    event.tokenAddress = log.address ∧
      event.amount.bytes = log.data.take 32 ∧
      event.fromAddress.bytes = (log.topic 1).bytes.drop 12 ∧
      event.toAddress.bytes = (log.topic 2).bytes.drop 12
  isOracleUpdate_iff : (Exists fun event => signal.payload = .oracleUpdate event) ↔
    log.IsOracleUpdate
  oracleUpdate : forall event, signal.payload = .oracleUpdate event ->
    event.chainId = chainId ∧ event.aggregatorAddress = log.address ∧
    event.currentAnswer = log.topic 1 ∧
      event.roundId = log.topic 2 ∧ event.updatedAt.toNat = beNat (log.data.take 32) % 2 ^ 64
  generic : ¬ log.IsGovernance -> ¬ log.IsMintBurn -> ¬ log.IsOracleUpdate ->
    signal.payload = .evmLog (log.event chainId removed)

private theorem topicType_event (log : EmittedLog) (chainId : UInt64) (removed : Bool) :
    topicType (log.event chainId removed) = log.typeOfTopic0 := by
  unfold topicType typeOfTopic0 event
  cases log.topics with
  | nil => rfl
  | cons topic0 rest => exact (if_pos (Nat.succ_pos _)).trans (classifyTopic0_eq_lookup topic0)

private theorem typeOfTopic0_eq_iff (log : EmittedLog) (type : SignalType)
    (listed : type ≠ .unknown) :
    log.typeOfTopic0 = type ↔
      Exists fun topic0 => log.topics.head? = some topic0 ∧ classifyTopic0 topic0 = type := by
  unfold typeOfTopic0
  cases log.topics with
  | nil =>
      constructor
      · intro unknown
        exact absurd unknown.symm listed
      · rintro ⟨topic0, impossible, _⟩
        cases impossible
  | cons topic0 rest =>
      change (listedTopics.lookup topic0).getD .unknown = type ↔ _
      rw [← classifyTopic0_eq_lookup]
      constructor
      · intro same
        exact ⟨topic0, rfl, same⟩
      · rintro ⟨other, isHead, same⟩
        cases isHead
        exact same

private theorem isGovernanceLog_event (log : EmittedLog) (chainId : UInt64) (removed : Bool) :
    IsGovernanceLog (log.event chainId removed) ↔ log.IsGovernance := by
  unfold IsGovernanceLog IsGovernance
  rw [topicType_event, typeOfTopic0_eq_iff log .governance (by decide)]
  constructor
  · rintro ⟨topic0, isHead, type⟩
    rcases (classifyTopic0_eq_governance_iff topic0).mp type with ⟨action, member⟩
    exact ⟨topic0, action, member, isHead⟩
  · rintro ⟨topic0, action, member, isHead⟩
    exact ⟨topic0, isHead, (classifyTopic0_eq_governance_iff topic0).mpr ⟨action, member⟩⟩

private theorem head_of_type (log : EmittedLog) {type : SignalType} (listed : type ≠ .unknown)
    {wanted : Bytes 32} (only : forall topic0, classifyTopic0 topic0 = type ↔ topic0 = wanted) :
    log.typeOfTopic0 = type ↔ log.topics.head? = some wanted := by
  rw [typeOfTopic0_eq_iff log type listed]
  constructor
  · rintro ⟨topic0, isHead, same⟩
    rw [isHead, (only topic0).mp same]
  · intro isHead
    exact ⟨wanted, isHead, (only wanted).mpr rfl⟩

private theorem dataSize_event (log : EmittedLog) (chainId : UInt64) (removed : Bool) :
    32 ≤ (log.event chainId removed).dataSize ↔ 32 ≤ log.data.length := by
  change 32 ≤ min 256 log.data.length ↔ _
  omega

private theorem isMintBurnLog_event (log : EmittedLog) (chainId : UInt64) (removed : Bool) :
    IsMintBurnLog (log.event chainId removed) ↔ log.IsMintBurn := by
  unfold IsMintBurnLog IsMintBurn
  rw [topicType_event, head_of_type log (by decide) classifyTopic0_eq_transfer_iff, dataSize_event]
  exact Iff.rfl

private theorem isOracleLog_event (log : EmittedLog) (chainId : UInt64) (removed : Bool) :
    IsOracleLog (log.event chainId removed) ↔ log.IsOracleUpdate := by
  unfold IsOracleLog IsOracleUpdate
  rw [topicType_event, head_of_type log (by decide) classifyTopic0_eq_oracleUpdate_iff,
    dataSize_event]
  exact Iff.rfl

private theorem data_take (log : EmittedLog) (chainId : UInt64) (removed : Bool)
    (enough : 32 ≤ log.data.length) :
    (log.event chainId removed).data.bytes.take 32 = log.data.take 32 :=
  take_word_overwrite enough

/-- The low half of the low half of the first data word. -/
private theorem toNat_updatedAtOf (log : EmittedLog) (chainId : UInt64) (removed : Bool)
    (enough : 32 ≤ log.data.length) :
    (updatedAtOf (log.event chainId removed)).toNat = beNat (log.data.take 32) % 2 ^ 64 := by
  have word := data_take log chainId removed enough
  generalize log.event chainId removed = evm at word
  have slice : (evm.data.slice 24 8 (by decide)).bytes = (log.data.take 32).drop 24 := by
    rw [← word, List.drop_take]
    rfl
  have width : ((log.data.take 32).drop 24).length = 8 := by
    rw [List.length_drop, List.length_take]
    omega
  have below := beNat_lt ((log.data.take 32).drop 24)
  have whole := beNat_append ((log.data.take 32).take 24) ((log.data.take 32).drop 24)
  rw [List.take_append_drop, width] at whole
  rw [width] at below
  have folded := toNat_foldl_shiftInByte 0 ((log.data.take 32).drop 24) (by
    change 0 * _ + _ < _
    omega)
  unfold updatedAtOf
  rw [slice]
  apply folded.trans
  change 0 * _ + _ = _
  omega

private theorem direction_eq (log : EmittedLog) (evm : EvmLogEvent) :
    (mintBurnEvent evm (log.topic 1).isZero (log.topic 2).isZero).direction =
      log.mintBurnDirection := by
  unfold mintBurnEvent mintBurnDirection
  cases first : (log.topic 1).isZero with
  | true => cases (log.topic 2).isZero <;> rfl
  | false => rfl

private theorem amount_bytes (evm : EvmLogEvent) (isMint isBurn : Bool) :
    (mintBurnEvent evm isMint isBurn).amount.bytes = evm.data.bytes.take 32 := by
  change (evm.data.bytes.drop 0).take 32 = _
  rw [List.drop_zero]

private theorem drop_twelve (word : Bytes 32) :
    (word.slice 12 20 (by decide)).bytes = word.bytes.drop 12 := by
  change (word.bytes.drop 12).take 20 = _
  apply List.take_of_length_le
  rw [List.length_drop, word.size_eq]

private theorem IsGovernance.type {log : EmittedLog} (governance : log.IsGovernance) :
    log.typeOfTopic0 = .governance := by
  rcases governance with ⟨topic0, action, member, isHead⟩
  apply (typeOfTopic0_eq_iff log .governance (by decide)).mpr
  exact ⟨topic0, isHead, (classifyTopic0_eq_governance_iff topic0).mpr ⟨action, member⟩⟩

private theorem IsMintBurn.type {log : EmittedLog} (mintBurn : log.IsMintBurn) :
    log.typeOfTopic0 = .transfer :=
  (head_of_type log (by decide) classifyTopic0_eq_transfer_iff).mpr mintBurn.1

private theorem IsOracleUpdate.type {log : EmittedLog} (oracle : log.IsOracleUpdate) :
    log.typeOfTopic0 = .oracleUpdate :=
  (head_of_type log (by decide) classifyTopic0_eq_oracleUpdate_iff).mpr oracle.1

private theorem not_of_type {log : EmittedLog} {left right : SignalType}
    (isLeft : log.typeOfTopic0 = left) (different : left ≠ right) {condition : Prop}
    (typed : condition -> log.typeOfTopic0 = right) : ¬ condition :=
  fun holds => different (isLeft.symm.trans (typed holds))

/-- The signal carries the place of the log on the chain. -/
private structure Placed (log : EmittedLog) (signal : Signal) : Prop where
  blockNumber : signal.signalMeta.blockNumber = some log.blockNumber
  txHash : signal.signalMeta.txHash = some log.txHash

/-- A payload of another kind says nothing about this kind. -/
private theorem absurd_of_other {Event : Type} {actual payload : SignalPayload}
    {make : Event -> SignalPayload} {goal : Event -> Prop} (made : actual = payload)
    (other : forall event, payload ≠ make event) (event : Event) (same : actual = make event) :
    goal event :=
  absurd (made.symm.trans same) (other event)

private theorem iff_of_other {Event : Type} {actual payload : SignalPayload}
    {make : Event -> SignalPayload} {ofKind : Prop} (made : actual = payload)
    (other : forall event, payload ≠ make event) (not : ¬ ofKind) :
    (Exists fun event => actual = make event) ↔ ofKind := by
  constructor
  · rintro ⟨event, same⟩
    exact absurd (made.symm.trans same) (other event)
  · intro holds
    exact absurd holds not

private theorem signalOf_governance {log : EmittedLog} {chainId : UInt64} {removed : Bool}
    {signal : Signal} (placed : log.Placed signal) (governance : log.IsGovernance)
    (type : signal.type = .governance) (payload : signal.payload = .governance
      { action := governanceAction ((log.event chainId removed).topics 0), chainId := chainId,
        contractAddress := log.address }) : SignalOf log chainId removed signal where
  blockNumber := placed.blockNumber
  txHash := placed.txHash
  mintBurnType := fun other =>
    absurd other (not_of_type governance.type (by decide) IsMintBurn.type)
  type := fun _ => type.trans governance.type.symm
  governance := by
    intro topic0 action member isHead
    have first : (log.event chainId removed).topics 0 = topic0 := by
      change log.topics.getD 0 (Bytes.zeros 32) = topic0
      rw [List.getD_eq_getElem?_getD, ← List.head?_eq_getElem?, isHead]
      rfl
    rw [payload, first, governanceAction_of_mem member]
  isMintBurn_iff := iff_of_other payload (fun _ same => by cases same)
    (not_of_type governance.type (by decide) IsMintBurn.type)
  mintBurn := absurd_of_other payload fun _ same => by cases same
  isOracleUpdate_iff := iff_of_other payload (fun _ same => by cases same)
    (not_of_type governance.type (by decide) IsOracleUpdate.type)
  oracleUpdate := absurd_of_other payload fun _ same => by cases same
  generic := fun notGovernance => absurd governance notGovernance

private theorem signalOf_mintBurn {log : EmittedLog} {chainId : UInt64} {removed : Bool}
    {signal : Signal} (placed : log.Placed signal) (mintBurn : log.IsMintBurn)
    (type : signal.type = .mintBurn) (payload : signal.payload = .mintBurn
      (mintBurnEvent (log.event chainId removed) (log.topic 1).isZero (log.topic 2).isZero)) :
    SignalOf log chainId removed signal where
  blockNumber := placed.blockNumber
  txHash := placed.txHash
  mintBurnType := fun _ => type
  type := fun notMintBurn => absurd mintBurn notMintBurn
  governance := by
    intro topic0 action member isHead
    exact absurd ⟨topic0, action, member, isHead⟩
      (not_of_type mintBurn.type (by decide) IsGovernance.type)
  isMintBurn_iff := ⟨fun _ => mintBurn, fun _ => ⟨_, payload⟩⟩
  mintBurn := by
    intro event same
    rw [payload] at same
    cases same
    refine ⟨direction_eq log _, rfl, rfl, ?_, drop_twelve _, drop_twelve _⟩
    rw [amount_bytes]
    exact data_take log chainId removed mintBurn.2.2.1
  isOracleUpdate_iff := iff_of_other payload (fun _ same => by cases same)
    (not_of_type mintBurn.type (by decide) IsOracleUpdate.type)
  oracleUpdate := absurd_of_other payload fun _ same => by cases same
  generic := fun _ notMintBurn => absurd mintBurn notMintBurn

private theorem signalOf_oracleUpdate {log : EmittedLog} {chainId : UInt64} {removed : Bool}
    {signal : Signal} (placed : log.Placed signal) (oracle : log.IsOracleUpdate)
    (type : signal.type = .oracleUpdate)
    (payload : signal.payload = .oracleUpdate (oracleUpdateEvent (log.event chainId removed))) :
    SignalOf log chainId removed signal where
  blockNumber := placed.blockNumber
  txHash := placed.txHash
  mintBurnType := fun other => absurd other (not_of_type oracle.type (by decide) IsMintBurn.type)
  type := fun _ => type.trans oracle.type.symm
  governance := by
    intro topic0 action member isHead
    exact absurd ⟨topic0, action, member, isHead⟩
      (not_of_type oracle.type (by decide) IsGovernance.type)
  isMintBurn_iff := iff_of_other payload (fun _ same => by cases same)
    (not_of_type oracle.type (by decide) IsMintBurn.type)
  mintBurn := absurd_of_other payload fun _ same => by cases same
  isOracleUpdate_iff := ⟨fun _ => oracle, fun _ => ⟨_, payload⟩⟩
  oracleUpdate := by
    intro event same
    rw [payload] at same
    cases same
    exact ⟨rfl, rfl, rfl, rfl, toNat_updatedAtOf log chainId removed oracle.2.2⟩
  generic := fun _ _ notOracle => absurd oracle notOracle

private theorem signalOf_generic {log : EmittedLog} {chainId : UInt64} {removed : Bool}
    {signal : Signal} (placed : log.Placed signal) (notGovernance : ¬ log.IsGovernance)
    (notMintBurn : ¬ log.IsMintBurn) (notOracle : ¬ log.IsOracleUpdate)
    (type : signal.type = log.typeOfTopic0)
    (payload : signal.payload = .evmLog (log.event chainId removed)) :
    SignalOf log chainId removed signal where
  blockNumber := placed.blockNumber
  txHash := placed.txHash
  mintBurnType := fun other => absurd other notMintBurn
  type := fun _ => type
  governance := by
    intro topic0 action member isHead
    exact absurd ⟨topic0, action, member, isHead⟩ notGovernance
  isMintBurn_iff := iff_of_other payload (fun _ same => by cases same) notMintBurn
  mintBurn := absurd_of_other payload fun _ same => by cases same
  isOracleUpdate_iff := iff_of_other payload (fun _ same => by cases same) notOracle
  oracleUpdate := absurd_of_other payload fun _ same => by cases same
  generic := fun _ _ _ => payload

/-- A classified log has the signal it is expected to have. -/
private theorem signalOf_classify {log : EmittedLog} {chainId : UInt64} {removed : Bool}
    {signal : Signal} (placed : log.Placed signal)
    (type : signal.type = (classify (log.event chainId removed)).1)
    (payload : signal.payload = (classify (log.event chainId removed)).2) :
    SignalOf log chainId removed signal := by
  rcases classify_cases (log.event chainId removed) with
    ⟨governance, result⟩ | ⟨mintBurn, result⟩ | ⟨oracle, result⟩
      | ⟨notGovernance, notMintBurn, notOracle, result⟩
  · rw [result] at type payload
    exact signalOf_governance placed
      ((isGovernanceLog_event log chainId removed).mp governance) type payload
  · rw [result] at type payload
    exact signalOf_mintBurn placed
      ((isMintBurnLog_event log chainId removed).mp mintBurn) type payload
  · rw [result] at type payload
    exact signalOf_oracleUpdate placed
      ((isOracleLog_event log chainId removed).mp oracle) type payload
  · rw [result, topicType_event] at type
    rw [result] at payload
    apply signalOf_generic placed _ _ _ type payload
    · exact fun other => notGovernance ((isGovernanceLog_event log chainId removed).mpr other)
    · exact fun other => notMintBurn ((isMintBurnLog_event log chainId removed).mpr other)
    · exact fun other => notOracle ((isOracleLog_event log chainId removed).mpr other)

/-- Normalizing any text of a log fails exactly when one of its indices does
not fit in 32 bits, and otherwise gives the log's own signal. -/
theorem normalize_inverts_encoding (raw : RawLog) (log : EmittedLog) (written : raw.Writes log)
    (chainId blockTimestamp : UInt64) (scratch : Bytes 32) :
    ((normalize raw chainId blockTimestamp scratch).isOk = false ↔
        2 ^ 32 - 1 < log.txIndex.toNat ∨ 2 ^ 32 - 1 < log.logIndex.toNat) ∧
      forall signal, normalize raw chainId blockTimestamp scratch = .ok signal ->
        log.SignalOf chainId raw.removed signal := by
  have range : log.outOfRange = true ↔ 2 ^ 32 - 1 < log.txIndex.toNat ∨
      2 ^ 32 - 1 < log.logIndex.toNat := by
    have bound : (0xFFFFFFFF : UInt64).toNat = 2 ^ 32 - 1 := by decide +kernel
    unfold outOfRange
    rw [Bool.or_eq_true, decide_eq_true_eq, decide_eq_true_eq, UInt64.lt_iff_toNat_lt,
      UInt64.lt_iff_toNat_lt, bound]
  rw [normalize_writes written, ← range]
  by_cases outside : log.outOfRange = true
  · rw [if_pos outside]
    refine ⟨⟨fun _ => outside, fun _ => rfl⟩, ?_⟩
    intro signal impossible
    cases impossible
  · rw [if_neg outside]
    refine ⟨⟨fun impossible => (by cases impossible), fun other => absurd other outside⟩, ?_⟩
    intro signal normalized
    cases normalized
    exact signalOf_classify ⟨rfl, rfl⟩ rfl rfl

/-- A mint as a contract emits it, with an index just below the bound. -/
private def sampleMint : EmittedLog where
  address := Bytes.ofNat 20 7
  topics := [topicTransfer, Bytes.zeros 32, Bytes.ofNat 32 9]
  topics_le := by decide
  data := (Bytes.ofNat 32 1000).bytes
  txHash := Bytes.ofNat 32 3
  blockNumber := 16
  txIndex := 4294967295
  logIndex := 0

private def sampleMintText : RawLog where
  address := bytesToHex (Bytes.ofNat 20 7)
  topics := [bytesToHex topicTransfer, bytesToHex (Bytes.zeros 32), bytesToHex (Bytes.ofNat 32 9)]
  data := bytesToHex (Bytes.ofNat 32 1000)
  blockNumber := "0x10"
  transactionHash := bytesToHex (Bytes.ofNat 32 3)
  logIndex := "0x00"
  transactionIndex := "0xFFFFffff"

private theorem sampleMintText_writes : sampleMintText.Writes sampleMint where
  address := bytesToHex_spells _
  topics := .cons (bytesToHex_spells _)
    (.cons (bytesToHex_spells _) (.cons (bytesToHex_spells _) .nil))
  data := bytesToHex_spells _
  blockNumber := ⟨['1', '0'], 0, rfl, by decide +kernel⟩
  transactionHash := bytesToHex_spells _
  transactionIndex := ⟨['F', 'F', 'F', 'F', 'f', 'f', 'f', 'f'], 0, rfl, by decide +kernel⟩
  logIndex := ⟨['0', '0'], 1, rfl, by decide +kernel⟩

private theorem sampleMint_accepted :
    normalize sampleMintText 1 0 (Bytes.zeros 32) = .ok (sampleMint.signal 1 0 false) :=
  (normalize_writes sampleMintText_writes 1 0 (Bytes.zeros 32)).trans (if_neg (by decide +kernel))

/-- The text of the mint normalizes to the signal of a mint. -/
theorem sampleMint_normalized :
    normalize sampleMintText 1 0 (Bytes.zeros 32) = .ok (sampleMint.signal 1 0 false) ∧
    sampleMint.IsMintBurn ∧
      sampleMint.SignalOf 1 false (sampleMint.signal 1 0 false) := by
  refine ⟨sampleMint_accepted, by unfold IsMintBurn; decide +kernel, ?_⟩
  apply (normalize_inverts_encoding sampleMintText sampleMint sampleMintText_writes 1 0
    (Bytes.zeros 32)).2
  exact sampleMint_accepted

end EmittedLog

/-! ## Texts that are decoded in full -/

/-- A text in lower case. -/
def lowercase (text : String) : List Char :=
  text.toList.map Char.toLower

/-- Writing the decoded bytes down gives back the text they came from, up to
the case of its letters: for the address, the transaction hash and every
topic that is kept. -/
structure Reencodes (raw : RawLog) (signal : Signal) (evm : EvmLogEvent) : Prop where
  address : lowercase raw.address = (bytesToHex evm.address).toList
  txHash : forall hash, signal.signalMeta.txHash = some hash ->
    lowercase raw.transactionHash = (bytesToHex hash).toList
  topics : forall (index : Fin 4) (text : String), raw.topics[index.val]? = some text ->
    lowercase text = (bytesToHex (evm.topics index)).toList

/-- The fields of fixed width have exactly that width. -/
structure FullWidth (raw : RawLog) : Prop where
  address : raw.address.length = 42
  txHash : raw.transactionHash.length = 66
  topics : forall topic, topic ∈ raw.topics.take 4 -> topic.length = 66

private theorem length_of_lowercase {n : Nat} {text : String} {source : Bytes n}
    (same : lowercase text = (bytesToHex source).toList) : text.length = 2 * n + 2 := by
  have lengths := congrArg List.length same
  rw [lowercase, List.length_map, String.length_toList, String.length_toList,
    (bytesToHex_spells source).length_eq, source.size_eq] at lengths
  exact lengths

/-- The topics are decoded one by one. -/
private theorem parseTopics_getElem? {texts : List String} {topics : List (Bytes 32)}
    (parsed : parseTopics texts = .ok topics) (position : Nat) (text : String)
    (here : texts[position]? = some text) :
    parseHexBytes text (Bytes.zeros 32) = .ok (topics.getD position (Bytes.zeros 32)) := by
  induction texts generalizing topics position with
  | nil => cases here
  | cons first rest inductionHypothesis =>
      unfold parseTopics at parsed
      rcases bind_eq_ok.mp parsed with ⟨decoded, read, parsed⟩
      rcases bind_eq_ok.mp parsed with ⟨others, restRead, parsed⟩
      cases parsed
      cases position with
      | zero =>
          cases here
          exact read
      | succ position => exact inductionHypothesis restRead position here

private theorem fullWidth_of_reencodes {raw : RawLog} {chainId blockTimestamp : UInt64}
    {scratch : Bytes 32} {signal : Signal} {evm : EvmLogEvent}
    (normalized : normalize raw chainId blockTimestamp scratch = .ok signal)
    (reencodes : Reencodes raw signal evm) : FullWidth raw := by
  unfold normalize at normalized
  rcases bind_eq_ok.mp normalized with ⟨blockNumber, _, normalized⟩
  rcases bind_eq_ok.mp normalized with ⟨hash, _, normalized⟩
  rcases bind_eq_ok.mp normalized with ⟨_, _, normalized⟩
  cases normalized
  refine ⟨length_of_lowercase reencodes.address,
    length_of_lowercase (reencodes.txHash hash rfl), ?_⟩
  intro topic member
  rcases List.getElem?_of_mem member with ⟨position, here⟩
  have inside : position < 4 := by
    have bound := (List.getElem?_eq_some_iff.mp here).1
    rw [List.length_take] at bound
    omega
  rw [List.getElem?_take_of_lt inside] at here
  exact length_of_lowercase (reencodes.topics ⟨position, inside⟩ topic here)

private theorem reencodes_of_fullWidth {raw : RawLog} {chainId blockTimestamp : UInt64}
    {scratch : Bytes 32} {signal : Signal} {evm : EvmLogEvent}
    (normalized : normalize raw chainId blockTimestamp scratch = .ok signal)
    (decoded : decodeEvmLog raw chainId = .ok evm) (full : FullWidth raw) :
    Reencodes raw signal evm := by
  have read := decodeEvmLog_ok decoded
  refine ⟨(spells_of_parseHexBytes full.address read.address).lower_eq, ?_, ?_⟩
  · intro hash isHash
    unfold normalize at normalized
    rcases bind_eq_ok.mp normalized with ⟨blockNumber, _, normalized⟩
    rcases bind_eq_ok.mp normalized with ⟨parsed, hashRead, normalized⟩
    rcases bind_eq_ok.mp normalized with ⟨_, _, normalized⟩
    cases normalized
    cases isHash
    exact (spells_of_parseHexBytes full.txHash hashRead).lower_eq
  · intro index text here
    rcases read.topics with ⟨topics, parsed, same⟩
    have taken : (raw.topics.take 4)[index.val]? = some text := by
      rw [List.getElem?_take_of_lt index.isLt]
      exact here
    have topicRead := parseTopics_getElem? parsed index.val text taken
    rw [same index]
    exact (spells_of_parseHexBytes
      (full.topics text (List.mem_of_getElem? taken)) topicRead).lower_eq

/-- Of the raw logs that are accepted, the ones that can be written back are
exactly those whose address, hash and topics have their full width. -/
theorem reencodes_iff_fullWidth (raw : RawLog) (chainId blockTimestamp : UInt64)
    (scratch : Bytes 32) (signal : Signal) (evm : EvmLogEvent)
    (normalized : normalize raw chainId blockTimestamp scratch = .ok signal)
    (decoded : decodeEvmLog raw chainId = .ok evm) : Reencodes raw signal evm ↔ FullWidth raw :=
  ⟨fullWidth_of_reencodes normalized, reencodes_of_fullWidth normalized decoded⟩

/-- The text of the mint has its full width, so what was decoded can be
written back. -/
theorem sampleMint_reencodes :
    FullWidth EmittedLog.sampleMintText ∧
      Exists fun signal => Exists fun evm => normalize EmittedLog.sampleMintText 1 0
        (Bytes.zeros 32) = .ok signal ∧
        decodeEvmLog EmittedLog.sampleMintText 1 = .ok evm ∧
        Reencodes EmittedLog.sampleMintText signal evm := by
  have width : forall topic : Bytes 32, (bytesToHex topic).length = 66 := by
    intro topic
    rw [(bytesToHex_spells topic).length_eq, topic.size_eq]
  have full : FullWidth EmittedLog.sampleMintText := by
    refine ⟨by decide +kernel, width _, ?_⟩
    intro topic member
    simp only [EmittedLog.sampleMintText, List.take_succ_cons, List.take_nil, List.mem_cons,
      List.not_mem_nil,
      or_false] at member
    rcases member with rfl | rfl | rfl
    · exact width _
    · exact width _
    · exact width _
  rcases normalize_ok EmittedLog.sampleMint_accepted with ⟨evm, decoded, _⟩
  refine ⟨full, _, evm, EmittedLog.sampleMint_accepted, decoded, ?_⟩
  exact (reencodes_iff_fullWidth _ 1 0 _ _ evm EmittedLog.sampleMint_accepted decoded).mpr full

/-- A transfer whose second topic arrived as the empty text. -/
private def damagedTransfer : RawLog :=
  { EmittedLog.sampleMintText with
    topics := [bytesToHex topicTransfer, "0x", bytesToHex (Bytes.ofNat 32 9)] }

/-- The damaged transfer is accepted, as a mint, and its second topic does not
give back the text it came from. -/
theorem damagedTransfer_accepted :
    Exists fun signal => Exists fun evm =>
    normalize damagedTransfer 1 0 (Bytes.zeros 32) = .ok signal ∧
      decodeEvmLog damagedTransfer 1 = .ok evm ∧ signal.type = .mintBurn ∧
      ¬ Reencodes damagedTransfer signal evm := by
  have type : (normalize damagedTransfer 1 0 (Bytes.zeros 32)).toOption.map Signal.type =
      some .mintBurn := by
    decide +kernel
  cases result : normalize damagedTransfer 1 0 (Bytes.zeros 32) with
  | error cause =>
      rw [result] at type
      cases type
  | ok signal =>
      rw [result] at type
      rcases normalize_ok result with ⟨evm, decoded, _⟩
      refine ⟨signal, evm, rfl, decoded, Option.some.inj type, fun reencodes => ?_⟩
      have full := (fullWidth_of_reencodes result reencodes).topics "0x"
        (List.mem_cons_of_mem _ List.mem_cons_self)
      exact absurd full (by decide)

end Events
end RiskSentinel
