import Mathlib.Data.List.Forall2
import RiskSentinel.Events.Hex
import RiskSentinel.Foundation.Computation
import RiskSentinel.Risk.Signal

namespace RiskSentinel
namespace Events

open Foundation Risk

/-!
# From raw logs to signals

`normalize` decodes every field of a raw RPC log, classifies it by its first
topic, and replaces the generic payload for governance events, mints, burns
and oracle updates.  The three special payloads have no `removed` field: only
the generic one still says that a log was reorganised away.
-/

structure RawLog where
  address : String
  topics : List String
  data : String
  blockNumber : String
  transactionHash : String
  logIndex : String
  transactionIndex : String
  removed : Bool := false
deriving DecidableEq, Repr

/-- A topic constant.  The source decodes its 64 digits at compile time; here
they are the digits of a numeral. -/
def parseTopicLiteral (literal : Nat) : Bytes 32 :=
  Bytes.ofNat 32 literal

def topicTransfer : Bytes 32 :=
  parseTopicLiteral 0xddf252ad1be2c89b69c2b068fc378daa952ba7f163c4a11628f55a4df523b3ef

def topicSwapV2 : Bytes 32 :=
  parseTopicLiteral 0xd78ad95fa46c994b6551d0da85fc275fe613ce37657fb8d5e3d130840159d822

def topicSwapV3 : Bytes 32 :=
  parseTopicLiteral 0xc42079f94a6350d7e5735f2a153e368fc95153e172ee90824036511a8fb417b3

def topicMint : Bytes 32 :=
  parseTopicLiteral 0x4c209b5fc8ad50758f13e2e1088ba56a560dff694af163234d7f6c31034c568d

def topicBurn : Bytes 32 :=
  parseTopicLiteral 0xdccd28e36055d506992d9d40a08e08d6691c9569707248066f2c2f82998396e9

def topicOwnershipTransferred : Bytes 32 :=
  parseTopicLiteral 0x8be0079c531659141344cd1fd0a4f28419497f9722a3daafe3b4186f6b6457e0

def topicPaused : Bytes 32 :=
  parseTopicLiteral 0x62e78cea01bee320cd4e420270b5ea74000d11b0c9f74754ebdbfc544b05a258

def topicUnpaused : Bytes 32 :=
  parseTopicLiteral 0x5db9ee0a495bf2e6ff9c91a7834c1ba4fdd244a5e8aa4e537bd38aeae4b073aa

def topicRoleGranted : Bytes 32 :=
  parseTopicLiteral 0x2f8788117e7eff1d82e926ec794901d17c78024a50270940304540a733656f0d

def topicRoleRevoked : Bytes 32 :=
  parseTopicLiteral 0xf6391f5c32d9c69d2a47ea670b442974b53935d1edc7fd64eb21e047a839171b

def topicUpgraded : Bytes 32 :=
  parseTopicLiteral 0xbc7cd75a20ee27fd9adebab32041f755214dbc6bffa90cc0225b39da2e5c2d3b

def topicApproval : Bytes 32 :=
  parseTopicLiteral 0x8c5be1e5ebec7d5bd14f71427d1e84f3dd0314c0f7b2291e5b200ac8c7c3b925

/-- `AnswerUpdated(int256 indexed, uint256 indexed, uint256)` of a Chainlink
aggregator. -/
def topicOracleAnswerUpdated : Bytes 32 :=
  parseTopicLiteral 0x0559884fd3a460db3073b7fc896cc77986f16e378210ded43186175bf646fc5f

def classifyTopic0 (topic0 : Bytes 32) : SignalType :=
  if topic0 = topicTransfer then .transfer
  else if topic0 = topicSwapV2 then .swap
  else if topic0 = topicSwapV3 then .swap
  else if topic0 = topicMint then .liquidityChange
  else if topic0 = topicBurn then .liquidityChange
  else if topic0 = topicOwnershipTransferred || topic0 = topicPaused || topic0 = topicUnpaused ||
      topic0 = topicRoleGranted || topic0 = topicRoleRevoked || topic0 = topicUpgraded
        then .governance
  else if topic0 = topicApproval then .approval
  else if topic0 = topicOracleAnswerUpdated then .oracleUpdate
  else .unknown

/-- The action that the first topic of a governance event names. -/
def governanceAction (topic0 : Bytes 32) : GovernanceAction :=
  if topic0 = topicOwnershipTransferred then .ownershipTransferred
  else if topic0 = topicPaused then .paused
  else if topic0 = topicUnpaused then .unpaused
  else if topic0 = topicRoleGranted then .roleGranted
  else if topic0 = topicRoleRevoked then .roleRevoked
  else if topic0 = topicUpgraded then .upgraded
  else .unknown

def mintBurnEvent (evm : EvmLogEvent) (isMint isBurn : Bool) : MintBurnEvent where
  direction := if isMint && isBurn then .unknown else if isMint then .mint else .burn
  chainId := evm.chainId
  tokenAddress := evm.address
  amount := evm.data.slice 0 32 (by decide)
  fromAddress := (evm.topics 1).slice 12 20 address_in_topic
  toAddress := (evm.topics 2).slice 12 20 address_in_topic

/-- The low 64 bits of the first data word. -/
def updatedAtOf (evm : EvmLogEvent) : UInt64 :=
  (evm.data.slice 24 8 (by decide)).bytes.foldl
    (fun value byte => (value <<< 8) ||| byte.toUInt64) 0

def oracleUpdateEvent (evm : EvmLogEvent) : OracleUpdateEvent where
  chainId := evm.chainId
  aggregatorAddress := evm.address
  currentAnswer := evm.topics 1
  roundId := evm.topics 2
  updatedAt := updatedAtOf evm

/-- The classification at the end of `normalize`: the type of the first topic,
and a more specific payload on three branches. -/
def classify (evm : EvmLogEvent) : SignalType × SignalPayload :=
  if 0 < evm.topicCount then
    let type := classifyTopic0 (evm.topics 0)
    if type = .governance then
      (type, .governance
        { action := governanceAction (evm.topics 0)
          chainId := evm.chainId
          contractAddress := evm.address })
    else if type = .transfer && 3 ≤ evm.topicCount then
      let isMint := (evm.topics 1).isZero
      let isBurn := (evm.topics 2).isZero
      if (isMint || isBurn) && 32 ≤ evm.dataSize then
        (.mintBurn, .mintBurn (mintBurnEvent evm isMint isBurn))
      else
        (type, .evmLog evm)
    else if type = .oracleUpdate && 3 ≤ evm.topicCount && 32 ≤ evm.dataSize then
      (type, .oracleUpdate (oracleUpdateEvent evm))
    else
      (type, .evmLog evm)
  else
    (.unknown, .evmLog evm)

/-- Decode the topics that are kept, in order. -/
def parseTopics : List String -> Except String (List (Bytes 32))
  | [] => .ok []
  | topic :: rest => do
      let decoded ← parseHexBytes topic (Bytes.zeros 32)
      let others ← parseTopics rest
      return decoded :: others

/-- The fields of the generic payload, in the order in which the source
decodes them. -/
def decodeEvmLog (raw : RawLog) (chainId : UInt64) : Except String EvmLogEvent := do
  let txi ← parseHexUint64 raw.transactionIndex
  let lgi ← parseHexUint64 raw.logIndex
  if 0xFFFFFFFF < txi || 0xFFFFFFFF < lgi then
    throw "tx_index/log_index out of range"
  let address ← parseHexBytes raw.address (Bytes.zeros 20)
  let topics ← parseTopics (raw.topics.take 4)
  let _ ← validateHex raw.data
  let byteLen := (raw.data.length - 2) / 2
  let data ← parseHexBytes raw.data (Bytes.zeros 256)
  return {
    chainId := chainId
    txIndex := txi.toUInt32
    logIndex := lgi.toUInt32
    removed := raw.removed
    address := address
    topicCount := min raw.topics.length 4
    topics := fun index => topics.getD index.val (Bytes.zeros 32)
    dataSize := if 256 < byteLen then 256 else byteLen
    data := data
    truncated := decide (256 < byteLen) }

/-- `scratch` is what the uninitialised local `tx_hash` held; a hash text
shorter than 32 bytes leaves its tail in place. -/
def normalize (raw : RawLog) (chainId blockTimestamp : UInt64) (scratch : Bytes 32) :
    Except String Signal := do
  let blockNumber ← parseHexUint64 raw.blockNumber
  let txHash ← parseHexBytes raw.transactionHash scratch
  let evm ← decodeEvmLog raw chainId
  return {
    type := (classify evm).1
    signalMeta := {
      timestampMs := blockTimestamp
      blockNumber := some blockNumber
      txHash := some txHash
      isFinal := false
      sourceId := chainId.toUInt32 }
    payload := (classify evm).2 }

/-! ## Inversion of a successful decoding -/

/-- What a decoded log still knows about the text it came from. -/
structure DecodedFrom (raw : RawLog) (chainId : UInt64) (evm : EvmLogEvent) : Prop where
  chain : evm.chainId = chainId
  removed : evm.removed = raw.removed
  topicCount : evm.topicCount = min raw.topics.length 4
  address : parseHexBytes raw.address (Bytes.zeros 20) = .ok evm.address
  topics : Exists fun decoded => parseTopics (raw.topics.take 4) = .ok decoded ∧
    forall index : Fin 4, evm.topics index = decoded.getD index.val (Bytes.zeros 32)
  dataSize : evm.dataSize = min 256 ((raw.data.length - 2) / 2)

theorem decodeEvmLog_ok {raw : RawLog} {chainId : UInt64} {evm : EvmLogEvent}
    (decoded : decodeEvmLog raw chainId = .ok evm) : DecodedFrom raw chainId evm := by
  unfold decodeEvmLog at decoded
  rcases bind_eq_ok.mp decoded with ⟨txi, _, decoded⟩
  rcases bind_eq_ok.mp decoded with ⟨lgi, _, decoded⟩
  by_cases outOfRange : (0xFFFFFFFF < txi || 0xFFFFFFFF < lgi) = true
  · rw [if_pos outOfRange] at decoded
    cases decoded
  · rw [if_neg outOfRange] at decoded
    rcases bind_eq_ok.mp decoded with ⟨address, addressRead, decoded⟩
    rcases bind_eq_ok.mp decoded with ⟨topics, topicsRead, decoded⟩
    rcases bind_eq_ok.mp decoded with ⟨_, _, decoded⟩
    rcases bind_eq_ok.mp decoded with ⟨data, _, decoded⟩
    cases decoded
    refine ⟨rfl, rfl, rfl, addressRead, ⟨topics, topicsRead, fun _ => rfl⟩, ?_⟩
    by_cases long : 256 < (raw.data.length - 2) / 2
    · simp only [if_pos long]
      omega
    · simp only [if_neg long]
      omega

/-- A normalized signal is the classification of a decoded log. -/
theorem normalize_ok {raw : RawLog} {chainId blockTimestamp : UInt64} {scratch : Bytes 32}
    {signal : Signal} (normalized : normalize raw chainId blockTimestamp scratch = .ok signal) :
    Exists fun evm => decodeEvmLog raw chainId = .ok evm ∧ signal.type = (classify evm).1 ∧
      signal.payload = (classify evm).2 ∧ signal.signalMeta.timestampMs = blockTimestamp := by
  unfold normalize at normalized
  rcases bind_eq_ok.mp normalized with ⟨blockNumber, _, normalized⟩
  rcases bind_eq_ok.mp normalized with ⟨txHash, _, normalized⟩
  rcases bind_eq_ok.mp normalized with ⟨evm, decoded, normalized⟩
  cases normalized
  exact ⟨evm, decoded, rfl, rfl, rfl⟩

theorem classifyTopic0_ne_control (topic0 : Bytes 32) : classifyTopic0 topic0 ≠ .control := by
  unfold classifyTopic0
  repeat' split
  all_goals decide

theorem classifyTopic0_eq_transfer_iff (topic0 : Bytes 32) :
    classifyTopic0 topic0 = .transfer ↔ topic0 = topicTransfer := by
  constructor
  · intro type
    by_cases same : topic0 = topicTransfer
    · exact same
    · rw [classifyTopic0, if_neg same] at type
      repeat' split at type
      all_goals cases type
  · intro same
    rw [classifyTopic0, if_pos same]

theorem classifyTopic0_eq_approval_iff (topic0 : Bytes 32) :
    classifyTopic0 topic0 = .approval ↔ topic0 = topicApproval := by
  constructor
  · intro type
    unfold classifyTopic0 at type
    repeat' split at type
    all_goals first
      | assumption
      | cases type
  · intro same
    rw [same]
    decide

theorem classifyTopic0_ne_mintBurn (topic0 : Bytes 32) : classifyTopic0 topic0 ≠ .mintBurn := by
  unfold classifyTopic0
  repeat' split
  all_goals decide

/-- The type of a log without regard to its payload. -/
def topicType (evm : EvmLogEvent) : SignalType :=
  if 0 < evm.topicCount then classifyTopic0 (evm.topics 0) else .unknown

/-- The log is classified as a governance event. -/
def IsGovernanceLog (evm : EvmLogEvent) : Prop :=
  topicType evm = .governance

/-- The log is a transfer from or to the zero word with a full amount. -/
def IsMintBurnLog (evm : EvmLogEvent) : Prop :=
  topicType evm = .transfer ∧ 3 ≤ evm.topicCount ∧ 32 ≤ evm.dataSize ∧
    ((evm.topics 1).isZero = true ∨ (evm.topics 2).isZero = true)

/-- The log is an oracle update with all its topics and a full data word. -/
def IsOracleLog (evm : EvmLogEvent) : Prop :=
  topicType evm = .oracleUpdate ∧ 3 ≤ evm.topicCount ∧ 32 ≤ evm.dataSize

/-- The generic payload survives exactly when none of the three special
ones replaces it. -/
theorem classify_cases (evm : EvmLogEvent) :
    (IsGovernanceLog evm ∧ classify evm = (.governance, .governance
        { action := governanceAction (evm.topics 0), chainId := evm.chainId,
          contractAddress := evm.address })) ∨
      (IsMintBurnLog evm ∧ classify evm =
        (.mintBurn, .mintBurn (mintBurnEvent evm (evm.topics 1).isZero (evm.topics 2).isZero))) ∨
      (IsOracleLog evm ∧ classify evm = (.oracleUpdate, .oracleUpdate (oracleUpdateEvent evm))) ∨
      (¬ IsGovernanceLog evm ∧ ¬ IsMintBurnLog evm ∧ ¬ IsOracleLog evm ∧
        classify evm = (topicType evm, .evmLog evm)) := by
  unfold IsGovernanceLog IsMintBurnLog IsOracleLog topicType classify
  by_cases anyTopic : 0 < evm.topicCount
  · simp only [if_pos anyTopic]
    generalize classifyTopic0 (evm.topics 0) = type
    cases type
    case governance => simp
    case transfer =>
      by_cases three : 3 ≤ evm.topicCount <;> by_cases full : 32 ≤ evm.dataSize <;>
        cases (evm.topics 1).isZero <;> cases (evm.topics 2).isZero <;> simp [three, full]
    case oracleUpdate =>
      by_cases three : 3 ≤ evm.topicCount <;> by_cases full :
        32 ≤ evm.dataSize <;> simp [three, full]
    all_goals simp
  · simp [if_neg anyTopic]

theorem classify_type_ne_control (evm : EvmLogEvent) : (classify evm).1 ≠ .control := by
  rcases classify_cases evm with ⟨_, result⟩ | ⟨_, result⟩ | ⟨_, result⟩ | ⟨_, _, _, result⟩
  · simp [result]
  · simp [result]
  · simp [result]
  · rw [result, topicType]
    by_cases anyTopic : 0 < evm.topicCount
    · rw [if_pos anyTopic]
      exact classifyTopic0_ne_control _
    · simp [if_neg anyTopic]

/-- No log on the chain can produce the engine's stop command. -/
theorem normalize_not_poisonPill {raw : RawLog} {chainId blockTimestamp : UInt64}
    {scratch : Bytes 32} {signal : Signal}
    (normalized : normalize raw chainId blockTimestamp scratch = .ok signal) :
    signal.isPoisonPill = false := by
  rcases normalize_ok normalized with ⟨evm, _, type, _, _⟩
  have notControl : signal.type ≠ .control := type ▸ classify_type_ne_control evm
  unfold Signal.isPoisonPill
  split
  · rename_i isControl _
    exact False.elim (notControl isControl)
  · rfl

/-! ## Rejected logs -/

/-- `normalize` accepts the log.  The chain, the time and the uninitialised
buffer have no say in it. -/
def isNormalizable (raw : RawLog) : Bool :=
  (normalize raw 0 0 (Bytes.zeros 32)).isOk

private theorem isOk_bind_congr {A B C D : Type} {first : Except String A}
    {second : Except String B} {next : A -> Except String C} {other : B -> Except String D}
    (same : first.isOk = second.isOk)
    (continues : forall left right, (next left).isOk = (other right).isOk) :
    (first >>= next).isOk = (second >>= other).isOk := by
  cases first with
  | error cause =>
      cases second with
      | error reason => rfl
      | ok value => cases same
  | ok value =>
      cases second with
      | error reason => cases same
      | ok result => exact continues value result

private theorem parseHexBytes_isOk {n : Nat} (hex : String) (left right : Bytes n) :
    (parseHexBytes hex left).isOk = (parseHexBytes hex right).isOk := by
  unfold parseHexBytes
  split
  · rfl
  · split
    · rfl
    · cases decodePairs (hex.toList.drop 2) (min ((hex.length - 2) / 2) n) <;> rfl

private theorem decodeEvmLog_isOk (raw : RawLog) (left right : UInt64) :
    (decodeEvmLog raw left).isOk = (decodeEvmLog raw right).isOk := by
  unfold decodeEvmLog
  rcases parseHexUint64 raw.transactionIndex with _ | txi
  · rfl
  rcases parseHexUint64 raw.logIndex with _ | lgi
  · rfl
  simp only [bind, Except.bind, pure, Except.pure]
  split
  · rfl
  rcases parseHexBytes raw.address (Bytes.zeros 20) with _ | address
  · rfl
  rcases parseTopics (raw.topics.take 4) with _ | topics
  · rfl
  rcases validateHex raw.data with _ | valid
  · rfl
  rcases parseHexBytes raw.data (Bytes.zeros 256) with _ | data
  · rfl
  · rfl

theorem normalize_isOk (raw : RawLog) (chainId blockTimestamp : UInt64) (scratch : Bytes 32) :
    (normalize raw chainId blockTimestamp scratch).isOk = isNormalizable raw := by
  unfold isNormalizable normalize
  apply isOk_bind_congr rfl
  intro _ _
  apply isOk_bind_congr (parseHexBytes_isOk _ _ _)
  intro _ _
  exact isOk_bind_congr (decodeEvmLog_isOk _ _ _) fun _ _ => rfl

/-! ## Logs as the chain has them -/

/-- A log as a contract emits it, with its place on the chain.  The two
indices are those of a real block and fit in 32 bits. -/
structure EvmLog where
  address : Bytes 20
  topics : List (Bytes 32)
  topics_le : topics.length ≤ 4
  data : List UInt8
  txHash : Bytes 32
  blockNumber : UInt64
  txIndex : UInt64
  txIndex_le : txIndex ≤ 0xFFFFFFFF
  logIndex : UInt64
  logIndex_le : logIndex ≤ 0xFFFFFFFF

theorem EvmLog.first_index : (0 : UInt64) ≤ 0xFFFFFFFF := by decide

/-- The number in the first word of the data. -/
def EvmLog.amount (log : EvmLog) : Nat :=
  beNat (log.data.take 32)

/-- `raw` is the RPC text of `log`, hexadecimal digits in either case. -/
structure RawLog.Encodes (raw : RawLog) (log : EvmLog) : Prop where
  address : SpellsBytes raw.address log.address.bytes
  topics : List.Forall₂ (fun text topic => SpellsBytes text topic.bytes) raw.topics log.topics
  data : SpellsBytes raw.data log.data
  blockNumber : SpellsQuantity raw.blockNumber log.blockNumber.toNat
  transactionHash : SpellsBytes raw.transactionHash log.txHash.bytes
  transactionIndex : SpellsQuantity raw.transactionIndex log.txIndex.toNat
  logIndex : SpellsQuantity raw.logIndex log.logIndex.toNat

/-! ## Logs with indices of any size -/

/-- A log with indices that need not fit in 32 bits. -/
structure EmittedLog where
  address : Bytes 20
  topics : List (Bytes 32)
  topics_le : topics.length ≤ 4
  data : List UInt8
  txHash : Bytes 32
  blockNumber : UInt64
  txIndex : UInt64
  logIndex : UInt64

/-- `raw` is a text of `log`: hexadecimal digits in either case, the numbers
possibly behind leading zeros. -/
structure RawLog.Writes (raw : RawLog) (log : EmittedLog) : Prop where
  address : SpellsBytes raw.address log.address.bytes
  topics : List.Forall₂ (fun text topic => SpellsBytes text topic.bytes) raw.topics log.topics
  data : SpellsBytes raw.data log.data
  blockNumber : SpellsNumber raw.blockNumber log.blockNumber.toNat
  transactionHash : SpellsBytes raw.transactionHash log.txHash.bytes
  transactionIndex : SpellsNumber raw.transactionIndex log.txIndex.toNat
  logIndex : SpellsNumber raw.logIndex log.logIndex.toNat

/-- One of the indices does not fit in 32 bits. -/
def EmittedLog.outOfRange (log : EmittedLog) : Bool :=
  0xFFFFFFFF < log.txIndex || 0xFFFFFFFF < log.logIndex

/-- The generic payload of a log.  The data buffer keeps 256 bytes. -/
def EmittedLog.event (log : EmittedLog) (chainId : UInt64) (removed : Bool) : EvmLogEvent where
  chainId := chainId
  txIndex := log.txIndex.toUInt32
  logIndex := log.logIndex.toUInt32
  removed := removed
  address := log.address
  topicCount := log.topics.length
  topics := fun index => log.topics.getD index.val (Bytes.zeros 32)
  dataSize := min 256 log.data.length
  data := (Bytes.zeros 256).overwrite (log.data.take 256)
  truncated := decide (256 < log.data.length)

/-- The first word of the data survives the copy into the event's buffer. -/
theorem take_word_overwrite {data : List UInt8} (enough : 32 ≤ data.length) :
    ((Bytes.zeros 256).overwrite (data.take 256)).bytes.take 32 = data.take 32 := by
  have kept : 32 ≤ (data.take 256).length := by
    rw [List.length_take]
    omega
  rw [Bytes.take_overwrite _ _ 32 (by decide) kept, List.take_take, Nat.min_eq_left (by decide)]

private theorem parseTopics_spells {texts : List String} {topics : List (Bytes 32)}
    (spells : List.Forall₂ (fun text topic => SpellsBytes text topic.bytes) texts topics) :
    parseTopics texts = .ok topics := by
  induction spells with
  | nil => rfl
  | cons first _ inductionHypothesis =>
      simp only [parseTopics, parseHexBytes_exact _ _ first, inductionHypothesis, bind,
        Except.bind, pure,
        Except.pure]

/-- Decoding a text fails on the indices or gives the log's own payload. -/
theorem decodeEvmLog_writes {raw : RawLog} {log : EmittedLog} (written : raw.Writes log)
    (chainId : UInt64) :
    decodeEvmLog raw chainId =
      if log.outOfRange = true then .error "tx_index/log_index out of range"
      else .ok (log.event chainId raw.removed) := by
  have count : raw.topics.length = log.topics.length := written.topics.length_eq
  have few : raw.topics.length ≤ 4 := count ▸ log.topics_le
  have size : (raw.data.length - 2) / 2 = log.data.length := by
    rw [written.data.length_eq]
    omega
  have cut : (if 256 < log.data.length then 256 else log.data.length) =
      min 256 log.data.length := by
    by_cases long : 256 < log.data.length
    · rw [if_pos long, Nat.min_eq_left (Nat.le_of_lt long)]
    · rw [if_neg long, Nat.min_eq_right (Nat.le_of_not_lt long)]
  unfold decodeEvmLog
  rw [parseHexUint64_number written.transactionIndex, parseHexUint64_number written.logIndex]
  by_cases range : log.outOfRange = true
  · have outside : (0xFFFFFFFF < log.txIndex || 0xFFFFFFFF < log.logIndex) = true := range
    rw [if_pos range]
    simp only [bind, Except.bind, if_pos outside]
    rfl
  · have inside : ¬ (0xFFFFFFFF < log.txIndex || 0xFFFFFFFF < log.logIndex) = true := range
    rw [if_neg range]
    simp only [bind, Except.bind, pure, Except.pure, if_neg inside,
      parseHexBytes_exact _ _ written.address,
      List.take_of_length_le few, parseTopics_spells written.topics,
      validateHex_spells written.data, parseHexBytes_spells _ written.data, size, count,
      Nat.min_eq_left log.topics_le, cut, EmittedLog.event]

/-- The signal of a log. -/
def EmittedLog.signal (log : EmittedLog) (chainId blockTimestamp : UInt64)
    (removed : Bool) : Signal where
  type := (classify (log.event chainId removed)).1
  signalMeta :=
    { timestampMs := blockTimestamp
      blockNumber := some log.blockNumber
      txHash := some log.txHash
      isFinal := false
      sourceId := chainId.toUInt32 }
  payload := (classify (log.event chainId removed)).2

/-- Normalizing a text of a log fails on the indices or gives the log's own
signal, whatever the uninitialised buffer held. -/
theorem normalize_writes {raw : RawLog} {log : EmittedLog} (written : raw.Writes log)
    (chainId blockTimestamp : UInt64) (scratch : Bytes 32) :
    normalize raw chainId blockTimestamp scratch =
      if log.outOfRange = true then .error "tx_index/log_index out of range"
      else .ok (log.signal chainId blockTimestamp raw.removed) := by
  simp only [normalize, parseHexUint64_number written.blockNumber,
    parseHexBytes_exact _ _ written.transactionHash, decodeEvmLog_writes written chainId, bind,
    Except.bind, pure, Except.pure, EmittedLog.signal]
  by_cases outside : log.outOfRange = true
  · simp only [if_pos outside]
  · simp only [if_neg outside]

/-- The log among those with indices of any size. -/
def EvmLog.emitted (log : EvmLog) : EmittedLog where
  address := log.address
  topics := log.topics
  topics_le := log.topics_le
  data := log.data
  txHash := log.txHash
  blockNumber := log.blockNumber
  txIndex := log.txIndex
  logIndex := log.logIndex

def EvmLog.event (log : EvmLog) (chainId : UInt64) (removed : Bool) : EvmLogEvent :=
  log.emitted.event chainId removed

def EvmLog.signal (log : EvmLog) (chainId blockTimestamp : UInt64) (removed : Bool) : Signal :=
  log.emitted.signal chainId blockTimestamp removed

section Fields

variable (log : EvmLog) (chainId blockTimestamp : UInt64) (removed : Bool)

@[simp] theorem EvmLog.event_chainId : (log.event chainId removed).chainId = chainId := rfl

@[simp] theorem EvmLog.event_address : (log.event chainId removed).address = log.address := rfl

@[simp] theorem EvmLog.event_topicCount :
    (log.event chainId removed).topicCount = log.topics.length := rfl

@[simp] theorem EvmLog.event_topics (index : Fin 4) :
    (log.event chainId removed).topics index = log.topics.getD index.val (Bytes.zeros 32) := rfl

@[simp] theorem EvmLog.signal_type :
    (log.signal chainId blockTimestamp removed).type =
      (classify (log.event chainId removed)).1 := rfl

@[simp] theorem EvmLog.signal_timestampMs :
    (log.signal chainId blockTimestamp removed).signalMeta.timestampMs = blockTimestamp := rfl

@[simp] theorem EvmLog.signal_payload :
    (log.signal chainId blockTimestamp removed).payload =
      (classify (log.event chainId removed)).2 := rfl

end Fields

theorem RawLog.Encodes.writes {raw : RawLog} {log : EvmLog} (encodes : raw.Encodes log) :
    raw.Writes log.emitted where
  address := encodes.address
  topics := encodes.topics
  data := encodes.data
  blockNumber := encodes.blockNumber.spellsNumber
  transactionHash := encodes.transactionHash
  transactionIndex := encodes.transactionIndex.spellsNumber
  logIndex := encodes.logIndex.spellsNumber

private theorem emitted_inRange (log : EvmLog) : ¬ log.emitted.outOfRange = true := by
  intro outside
  rcases (Bool.or_eq_true _ _).mp outside with tooLarge | tooLarge
  · exact absurd (of_decide_eq_true tooLarge) (UInt64.not_lt.mpr log.txIndex_le)
  · exact absurd (of_decide_eq_true tooLarge) (UInt64.not_lt.mpr log.logIndex_le)

/-- A log with indices in range always has its signal. -/
theorem normalize_encodes {raw : RawLog} {log : EvmLog} (encodes : raw.Encodes log)
    (chainId blockTimestamp : UInt64) (scratch : Bytes 32) :
    normalize raw chainId blockTimestamp scratch =
      .ok (log.signal chainId blockTimestamp raw.removed) :=
  (normalize_writes encodes.writes chainId blockTimestamp scratch).trans
    (if_neg (emitted_inRange log))

end Events
end RiskSentinel
