import RiskSentinel.Chains.EvmAdapter
import RiskSentinel.Events.Batching

namespace RiskSentinel
namespace Chains

open Foundation Events Rpc Risk

/-!
# Polling an honest node

A node is honest about a chain when each of its successful replies answers the
request that it was sent.  It may fail any exchange, reply with an error or
with a text that is no JSON, write numbers and logs in any of the ways the
protocol allows, and put further members wherever it likes.

Whatever the adapters return from such a node is what the chain holds.  The
statement about a whole run is therefore one about the chain alone: the
signals of the source are those of the logs in consecutive blocks, each once
and in order, through all failures and retries.
-/

variable {Number : Type}

/-! ## The adapter on top of the client -/

/-- What the adapter sees of a client and its endpoint. -/
def rpcCall [One Number] (text : JsonText Number) (endpoint : Endpoint) : RpcCall Number :=
  fun method params =>
    (JsonRpcClient.exchange text endpoint method params).mapError JsonRpcClient.Failure.message

/-- The client of an adapter makes this call. -/
theorem call_eq_rpcCall [One Number] (client : JsonRpcClient Number)
    (endpoint : Endpoint) (nowS : UInt64) (method : String) (params : JsonTree Number) :
    (client.call endpoint nowS method params).2 = rpcCall client.text endpoint method params := rfl

/-- A reply that the client returns. -/
structure Accepted (text : JsonText Number) (response : String) (reply : JsonTree Number) :
    Prop where
  parsed : text.parse response = .ok reply
  noError : reply.find? "error" = none
  hasResult : reply.contains "result" = true

theorem rpcCall_eq_ok [One Number] {text : JsonText Number} {endpoint : Endpoint} {method : String}
    {params reply : JsonTree Number} :
    rpcCall text endpoint method params = .ok reply ↔
      Exists fun response =>
      endpoint (text.dump (JsonRpcClient.request method params)) = .answered 200 response ∧
        Accepted text response reply := by
  unfold rpcCall JsonRpcClient.exchange
  constructor
  · intro returned
    cases ended : endpoint (text.dump (JsonRpcClient.request method params)) with
    | noHandle =>
        rw [ended] at returned
        cases returned
    | failed reason =>
        rw [ended] at returned
        cases returned
    | answered httpCode response =>
        rw [ended] at returned
        by_cases good : httpCode = 200
        · subst good
          simp only [JsonRpcClient.readReply, ne_eq, not_true, if_false] at returned
          cases parsed : text.parse response with
          | error cause =>
              rw [parsed] at returned
              cases returned
          | ok json =>
              rw [parsed] at returned
              cases failed : json.find? "error" with
              | some error =>
                  simp only [failed] at returned
                  cases returned
              | none =>
                  simp only [failed] at returned
                  cases there : json.contains "result" with
                  | false =>
                      rw [there] at returned
                      cases returned
                  | true =>
                      rw [there] at returned
                      cases returned
                      exact ⟨response, rfl, parsed, failed, there⟩
        · simp only [JsonRpcClient.readReply, ne_eq, good, not_false_eq_true, if_true] at returned
          cases returned
  · rintro ⟨response, ended, accepted⟩
    rw [ended]
    simp only [JsonRpcClient.readReply, ne_eq, not_true, if_false]
    rw [accepted.parsed]
    dsimp only
    rw [accepted.noError]
    dsimp only
    rw [accepted.hasResult]
    rfl

/-- The logs of a range are returned exactly when the range is not empty and
the body posted for it came back with status 200 and a JSON text that has no
error and whose result is an array of descriptions of these logs. -/
theorem getLogs_accepts_iff [One Number] (text : JsonText Number) (endpoint : Endpoint)
    (fromBlock toBlock : UInt64) (logs : List RawLog) :
    EvmAdapter.getLogs (rpcCall text endpoint) fromBlock toBlock = .ok logs ↔
      fromBlock ≤ toBlock ∧ Exists fun response => Exists fun reply => Exists fun items =>
        endpoint (text.dump (JsonRpcClient.request "eth_getLogs"
          (.array [EvmAdapter.logFilter fromBlock toBlock]))) =
            .answered 200 response ∧
          text.parse response = .ok reply ∧ reply.find? "error" = none ∧
          reply.find? "result" = some (.array items) ∧ List.Forall₂ Describes items logs := by
  rw [EvmAdapter.getLogs_eq_ok]
  apply and_congr_right
  intro _
  constructor
  · rintro ⟨reply, items, returned, found, described⟩
    rcases rpcCall_eq_ok.mp returned with ⟨response, ended, accepted⟩
    exact ⟨response, reply, items, ended, accepted.parsed, accepted.noError, found, described⟩
  · rintro ⟨response, reply, items, ended, parsed, noError, found, described⟩
    have there : reply.contains "result" = true := by
      rw [JsonTree.contains, found, Option.isSome_some]
    exact ⟨reply, items, rpcCall_eq_ok.mpr ⟨response, ended, parsed, noError, there⟩,
      found, described⟩

/-! ## Honest nodes -/

/-- A chain: the logs of every block, and the time of every block in
seconds. -/
structure Ledger where
  chainId : UInt64
  logs : Nat -> List EvmLog
  time : UInt64 -> UInt64

namespace Ledger

/-- The logs of the blocks from one to another. -/
def logsOf (ledger : Ledger) (fromBlock toBlock : UInt64) : List EvmLog :=
  (intervalPoints (fromBlock.toNat, toBlock.toNat)).flatMap ledger.logs

end Ledger

/-- The parameters ask for a block. -/
def AsksBlock (params : JsonTree Number) (block : UInt64) : Prop :=
  Exists fun hex => Exists fun others => params = .array (.text hex :: others) ∧
    SpellsHex hex block.toNat

/-- The parameters ask for the logs of a range. -/
def AsksRange (params : JsonTree Number) (fromBlock toBlock : UInt64) : Prop :=
  Exists fun filter => Exists fun first => Exists fun last => params = .array [filter] ∧
    filter.find? "fromBlock" = some (.text first) ∧ SpellsHex first fromBlock.toNat ∧
    filter.find? "toBlock" = some (.text last) ∧ SpellsHex last toBlock.toNat

/-- A value describes a log of the chain, in any encoding. -/
def DescribesLog (item : JsonTree Number) (log : EvmLog) : Prop :=
  Exists fun raw => Describes item raw ∧ raw.Encodes log ∧ raw.removed = false

/-- The result answers the request.  About blocks above its head a node may
say anything. -/
structure Answers (ledger : Ledger) (head : UInt64) (method : String)
    (params result : JsonTree Number) : Prop where
  chainId : method = "eth_chainId" -> Exists fun hex => result = .text hex ∧
    SpellsHex hex ledger.chainId.toNat
  blockNumber : method = "eth_blockNumber" -> Exists fun hex => result = .text hex ∧
    SpellsHex hex head.toNat
  block : method = "eth_getBlockByNumber" -> forall block, AsksBlock params block -> block ≤ head ->
    Exists fun hex => result.find? "timestamp" = some (.text hex) ∧
    SpellsHex hex (ledger.time block).toNat
  logs : method = "eth_getLogs" -> forall fromBlock toBlock, AsksRange params fromBlock toBlock ->
    toBlock ≤ head -> Exists fun items => result = .array items ∧
      List.Forall₂ DescribesLog items (ledger.logsOf fromBlock toBlock)

/-- A value describes one log only. -/
private theorem Describes.unique {item : JsonTree Number} {left right : RawLog}
    (describesLeft : Describes item left) (describesRight : Describes item right) :
    left = right := by
  have same := (rawLogOfJson_eq_ok.mpr describesLeft).symm.trans
    (rawLogOfJson_eq_ok.mpr describesRight)
  exact Except.ok.inj same

private theorem encodes_of_describes {items : List (JsonTree Number)} {raws : List RawLog}
    {logs : List EvmLog} (described : List.Forall₂ Describes items raws)
    (meant : List.Forall₂ DescribesLog items logs) :
    List.Forall₂ (fun raw log => raw.Encodes log ∧ raw.removed = false) raws logs := by
  induction described generalizing logs with
  | nil =>
      cases meant
      exact .nil
  | cons describes _ inductionHypothesis =>
      rcases meant with _ | ⟨⟨raw, other, encodes⟩, others⟩
      rw [other.unique describes] at encodes
      exact .cons encodes (inductionHypothesis others)

private theorem raws_of_describes {items : List (JsonTree Number)} {logs : List EvmLog}
    (meant : List.Forall₂ DescribesLog items logs) : Exists fun raws =>
    List.Forall₂ Describes items raws := by
  induction meant with
  | nil => exact ⟨[], .nil⟩
  | cons describes _ inductionHypothesis =>
      rcases inductionHypothesis with ⟨raws, described⟩
      rcases describes with ⟨raw, here, _⟩
      exact ⟨raw :: raws, .cons here described⟩

/-- Every successful reply answers the request in the body. -/
def Honest (text : JsonText Number) (ledger : Ledger) (head : UInt64)
    (endpoint : Endpoint) : Prop :=
  forall body response asked reply method params result, endpoint body = .answered 200 response ->
    text.parse body = .ok asked -> asked.find? "method" = some (.text method) ->
    asked.find? "params" = some params -> Accepted text response reply ->
    reply.find? "result" = some result ->
    Answers ledger head method params result

/-! ## What the adapter obtains -/

private theorem no_params_canonical : (JsonTree.array [] : JsonTree Number).Canonical :=
  .array fun _ listed => (List.not_mem_nil listed).elim

private theorem request_canonical [One Number] {params : JsonTree Number}
    (canonical : params.Canonical) (method : String) :
    (JsonRpcClient.request method params).Canonical := by
  apply JsonTree.Canonical.object
  · change List.Pairwise (· < ·) ["id", "jsonrpc", "method", "params"]
    decide
  · intro member listed
    simp only [List.mem_cons, List.not_mem_nil, or_false] at listed
    rcases listed with rfl | rfl | rfl | rfl
    · exact .number 1
    · exact .text "2.0"
    · exact .text method
    · exact canonical

private theorem logFilter_canonical (fromBlock toBlock : UInt64) :
    (JsonTree.array [EvmAdapter.logFilter fromBlock toBlock] : JsonTree Number).Canonical := by
  apply JsonTree.Canonical.array
  intro item listed
  rw [List.mem_singleton.mp listed]
  apply JsonTree.Canonical.object
  · change List.Pairwise (· < ·) ["fromBlock", "toBlock"]
    decide
  · intro member listed
    simp only [List.mem_cons, List.not_mem_nil, or_false] at listed
    rcases listed with rfl | rfl
    · exact .text _
    · exact .text _

section Obtained

variable [One Number] {text : JsonText Number} {ledger : Ledger} {head : UInt64}
    {endpoint : Endpoint}
  (honest : Honest text ledger head endpoint)

include honest

/-- The node reads the body as the adapter meant it, so the result answers
that. -/
private theorem answers_of_call {method : String} {params reply result : JsonTree Number}
    (canonical : params.Canonical) (returned : rpcCall text endpoint method params = .ok reply)
    (found : reply.find? "result" = some result) : Answers ledger head method params result := by
  rcases rpcCall_eq_ok.mp returned with ⟨response, ended, accepted⟩
  exact honest _ response (JsonRpcClient.request method params) reply method params result ended
    (text.parse_dump _ (request_canonical canonical method)) rfl rfl accepted found

private theorem quantity_of_honest {method : String} {read : UInt64} {value : UInt64}
    (obtained : quantityOf (rpcCall text endpoint) method = .ok read)
    (meant : forall result : JsonTree Number, Answers ledger head method (.array []) result ->
      Exists fun hex => result = .text hex ∧ SpellsHex hex value.toNat) : read = value := by
  rcases quantityOf_eq_ok.mp obtained with ⟨reply, hex, returned, found, parsed⟩
  rcases meant _ (answers_of_call honest no_params_canonical returned found)
    with ⟨other, same, spells⟩
  cases same
  rw [parseHexU64_of_spells spells] at parsed
  exact (Except.ok.inj parsed).symm

theorem chainId_of_honest {chainId : UInt64}
    (obtained : EvmAdapter.chainId (rpcCall text endpoint) = .ok chainId) :
    chainId = ledger.chainId :=
  quantity_of_honest honest obtained fun _ answers => answers.chainId rfl

theorem latestBlock_of_honest {latest : UInt64}
    (obtained : EvmAdapter.latestBlock (rpcCall text endpoint) = .ok latest) : latest = head :=
  quantity_of_honest honest obtained fun _ answers => answers.blockNumber rfl

theorem blockTimestamp_of_honest {block seconds : UInt64} (known : block ≤ head)
    (obtained : EvmAdapter.blockTimestamp (rpcCall text endpoint) block = .ok seconds) :
    seconds = ledger.time block := by
  rcases EvmAdapter.blockTimestamp_eq_ok.mp obtained
    with ⟨reply, result, hex, returned, found, time, parsed⟩
  have canonical : (JsonTree.array
      [.text (toHexQuantity block), .boolean false] : JsonTree Number).Canonical := by
    apply JsonTree.Canonical.array
    intro item listed
    simp only [List.mem_cons, List.not_mem_nil, or_false] at listed
    rcases listed with rfl | rfl
    · exact .text _
    · exact .boolean false
  have asks : AsksBlock
      (JsonTree.array [.text (toHexQuantity block), .boolean false] : JsonTree Number) block :=
    ⟨_, _, rfl, toHexQuantity_spells block⟩
  rcases (answers_of_call honest canonical returned found).block rfl block asks known
    with ⟨other, same, spells⟩
  rw [time] at same
  cases same
  rw [parseHexU64_of_spells spells] at parsed
  exact (Except.ok.inj parsed).symm

/-- The logs of a range that the node knows are those of its blocks, each in
some encoding. -/
theorem getLogs_of_honest {fromBlock toBlock : UInt64} {logs : List RawLog} (known : toBlock ≤ head)
    (obtained : EvmAdapter.getLogs (rpcCall text endpoint) fromBlock toBlock = .ok logs) :
    List.Forall₂ (fun raw log => raw.Encodes log ∧ raw.removed = false) logs
      (ledger.logsOf fromBlock toBlock) := by
  rcases EvmAdapter.getLogs_eq_ok.mp obtained with ⟨_, reply, items, returned, found, described⟩
  have asks : AsksRange (JsonTree.array [EvmAdapter.logFilter fromBlock toBlock] : JsonTree Number)
      fromBlock toBlock :=
    ⟨_, _, _, rfl, rfl, toHexQuantity_spells fromBlock, rfl, toHexQuantity_spells toBlock⟩
  rcases (answers_of_call honest
    (logFilter_canonical fromBlock toBlock) returned found).logs rfl fromBlock toBlock
    asks known with ⟨others, same, meant⟩
  cases same
  exact encodes_of_describes described meant

end Obtained

/-! ## Responsive nodes -/

/-- A request without which a poll cannot complete. -/
def Asks (head : UInt64) (method : String) (params : JsonTree Number) : Prop :=
  method = "eth_blockNumber" ∨
    (method = "eth_getLogs" ∧ Exists fun fromBlock => Exists fun toBlock =>
    AsksRange params fromBlock toBlock ∧ toBlock ≤ head)

/-- The node replies successfully to every such request. -/
def Responsive (text : JsonText Number) (head : UInt64) (endpoint : Endpoint) : Prop :=
  forall body asked method params, text.parse body = .ok asked ->
    asked.find? "method" = some (.text method) ->
    asked.find? "params" = some params -> Asks head method params ->
    Exists fun response => Exists fun reply => endpoint body = .answered 200 response ∧
    Accepted text response reply

section Responds

variable [One Number] {text : JsonText Number} {ledger : Ledger} {head : UInt64}
    {endpoint : Endpoint}
  (honest : Honest text ledger head endpoint) (responsive : Responsive text head endpoint)

include honest responsive

private theorem answers_of_responsive {method : String} {params : JsonTree Number}
    (canonical : params.Canonical) (asks : Asks head method params) :
    Exists fun reply => Exists fun result => rpcCall text endpoint method params = .ok reply ∧
      reply.find? "result" = some result ∧ Answers ledger head method params result := by
  rcases responsive _ (JsonRpcClient.request method params) method params
    (text.parse_dump _ (request_canonical canonical method)) rfl rfl asks
      with ⟨response, reply, ended, accepted⟩
  have returned : rpcCall text endpoint method params = .ok reply :=
    rpcCall_eq_ok.mpr ⟨response, ended, accepted⟩
  rcases Option.isSome_iff_exists.mp accepted.hasResult with ⟨result, found⟩
  exact ⟨reply, result, returned, found, answers_of_call honest canonical returned found⟩

theorem latestBlock_of_responsive : EvmAdapter.latestBlock (rpcCall text endpoint) = .ok head := by
  rcases answers_of_responsive honest responsive no_params_canonical (Or.inl rfl) with
    ⟨reply, result, returned, found, answers⟩
  rcases answers.blockNumber rfl with ⟨hex, rfl, spells⟩
  exact quantityOf_eq_ok.mpr ⟨reply, hex, returned, found, parseHexU64_of_spells spells⟩

theorem getLogs_of_responsive {fromBlock toBlock : UInt64} (forwards : fromBlock ≤ toBlock)
    (known : toBlock ≤ head) :
    Exists fun logs => EvmAdapter.getLogs (rpcCall text endpoint) fromBlock toBlock = .ok logs := by
  have asks : AsksRange (JsonTree.array [EvmAdapter.logFilter fromBlock toBlock] : JsonTree Number)
      fromBlock toBlock :=
    ⟨_, _, _, rfl, rfl, toHexQuantity_spells fromBlock, rfl, toHexQuantity_spells toBlock⟩
  rcases answers_of_responsive honest responsive (logFilter_canonical fromBlock toBlock)
    (Or.inr ⟨rfl, fromBlock, toBlock, asks, known⟩) with ⟨reply, result, returned, found, answers⟩
  rcases answers.logs rfl fromBlock toBlock asks known with ⟨items, rfl, meant⟩
  rcases raws_of_describes meant with ⟨raws, described⟩
  exact ⟨raws, EvmAdapter.getLogs_eq_ok.mpr ⟨forwards, reply, items, returned, found, described⟩⟩

end Responds

/-! ## A node that serves the chain -/

/-- The members are in the order of their keys. -/
def rawLogJson (raw : RawLog) : JsonTree Number :=
  .object [("address", .text raw.address), ("blockNumber", .text raw.blockNumber),
    ("data", .text raw.data),
    ("logIndex", .text raw.logIndex), ("removed", .boolean raw.removed),
    ("topics", .array (raw.topics.map .text)), ("transactionHash", .text raw.transactionHash),
    ("transactionIndex", .text raw.transactionIndex)]

theorem rawLogJson_describes (raw : RawLog) : Describes (rawLogJson raw : JsonTree Number) raw := by
  constructor <;> rfl

private theorem rawLogJson_canonical (raw : RawLog) :
    (rawLogJson raw : JsonTree Number).Canonical := by
  apply JsonTree.Canonical.object
  · change List.Pairwise (· < ·) ["address", "blockNumber", "data", "logIndex", "removed", "topics",
      "transactionHash", "transactionIndex"]
    decide
  · intro member listed
    simp only [List.mem_cons, List.not_mem_nil, or_false] at listed
    rcases listed with rfl | rfl | rfl | rfl | rfl | rfl | rfl | rfl
    · exact .text _
    · exact .text _
    · exact .text _
    · exact .text _
    · exact .boolean _
    · apply JsonTree.Canonical.array
      intro item listed
      rcases List.mem_map.mp listed with ⟨topic, _, rfl⟩
      exact .text topic
    · exact .text _
    · exact .text _

/-- A log in lower-case digits. -/
def encodeLog (log : EvmLog) : RawLog where
  address := bytesToHex log.address
  topics := log.topics.map bytesToHex
  data := bytesToHex (⟨log.data, rfl⟩ : Bytes log.data.length)
  blockNumber := toHexQuantity log.blockNumber
  transactionHash := bytesToHex log.txHash
  logIndex := toHexQuantity log.logIndex
  transactionIndex := toHexQuantity log.txIndex

private theorem toLower_digitChar : forall digit : Fin 16,
    digit.val.digitChar.toLower = digit.val.digitChar := by
  decide

private theorem toDigits_lower (value : Nat) :
    (Nat.toDigits 16 value).map Char.toLower = Nat.toDigits 16 value := by
  induction value using Nat.base_induction 16 (by decide) with
  | single digit small =>
      rw [Nat.toDigits_of_lt_base small, List.map_singleton, toLower_digitChar ⟨digit, small⟩]
  | digit front digit small positive inductionHypothesis =>
      rw [← Nat.toDigits_append_toDigits (by decide) positive small, List.map_append,
        inductionHypothesis,
        Nat.toDigits_of_lt_base small, List.map_singleton, toLower_digitChar ⟨digit, small⟩]

private theorem toHexQuantity_quantity (value : UInt64) :
    SpellsQuantity (toHexQuantity value) value.toNat :=
  ⟨Nat.toDigits 16 value.toNat, String.toList_ofList, toDigits_lower value.toNat⟩

theorem encodeLog_encodes (log : EvmLog) : (encodeLog log).Encodes log where
  address := bytesToHex_spells _
  topics := by
    change List.Forall₂ _ (log.topics.map bytesToHex) log.topics
    induction log.topics with
    | nil => exact .nil
    | cons topic rest inductionHypothesis =>
        exact .cons (bytesToHex_spells topic) inductionHypothesis
  data := bytesToHex_spells (⟨log.data, rfl⟩ : Bytes log.data.length)
  blockNumber := toHexQuantity_quantity _
  transactionHash := bytesToHex_spells _
  transactionIndex := toHexQuantity_quantity _
  logIndex := toHexQuantity_quantity _

def blockAsked? : JsonTree Number -> Option UInt64
  | .array (.text hex :: _) => (parseHexU64 hex).toOption
  | _ => none

def rangeAsked? : JsonTree Number -> Option (UInt64 × UInt64)
  | .array [filter] =>
      match filter.find? "fromBlock", filter.find? "toBlock" with
      | some (.text first), some (.text last) => do
          let fromBlock <- (parseHexU64 first).toOption
          let toBlock <- (parseHexU64 last).toOption
          pure (fromBlock, toBlock)
      | _, _ => none
  | _ => none

/-- The result for a request, if it is one of those an adapter makes. -/
def resultOf (ledger : Ledger) (head : UInt64) (method : String) (params : JsonTree Number) :
    Option (JsonTree Number) :=
  if method = "eth_chainId" then some (.text (toHexQuantity ledger.chainId))
  else if method = "eth_blockNumber" then some (.text (toHexQuantity head))
  else if method = "eth_getBlockByNumber" then
    (blockAsked? params).map fun block =>
      if block ≤ head then .object [("timestamp", .text (toHexQuantity (ledger.time block)))]
        else .null
  else if method = "eth_getLogs" then
    (rangeAsked? params).map fun range =>
      .array ((ledger.logsOf range.1 (min range.2 head)).map fun log => rawLogJson (encodeLog log))
  else none

def replyWith [One Number] (result : JsonTree Number) : JsonTree Number :=
  .object [("id", .number 1), ("jsonrpc", .text "2.0"), ("result", result)]

/-- A node that answers whatever it understands. -/
def serve [One Number] (text : JsonText Number) (ledger : Ledger) (head : UInt64) :
    Endpoint := fun body =>
  match text.parse body with
  | .error cause => .answered 400 cause
  | .ok asked =>
      match asked.find? "method", asked.find? "params" with
      | some (.text method), some params =>
          match resultOf ledger head method params with
          | some result => .answered 200 (text.dump (replyWith result))
          | none => .answered 404 method
      | _, _ => .answered 400 body

private theorem blockAsked?_of_asks {params : JsonTree Number} {block : UInt64}
    (asks : AsksBlock params block) : blockAsked? params = some block := by
  rcases asks with ⟨hex, others, rfl, spells⟩
  rw [blockAsked?, parseHexU64_of_spells spells]
  rfl

private theorem rangeAsked?_of_asks {params : JsonTree Number} {fromBlock toBlock : UInt64}
    (asks : AsksRange params fromBlock toBlock) :
    rangeAsked? params = some (fromBlock, toBlock) := by
  rcases asks with ⟨filter, first, last, rfl, foundFirst, spellsFirst, foundLast, spellsLast⟩
  simp only [rangeAsked?, foundFirst, foundLast, parseHexU64_of_spells spellsFirst,
    parseHexU64_of_spells spellsLast]
  rfl

private theorem resultOf_canonical {ledger : Ledger} {head : UInt64} {method : String}
    {params result : JsonTree Number} (served : resultOf ledger head method params = some result) :
    result.Canonical := by
  unfold resultOf at served
  split at served
  · cases served
    exact .text _
  split at served
  · cases served
    exact .text _
  split at served
  · rcases Option.map_eq_some_iff.mp served with ⟨block, _, rfl⟩
    split
    · apply JsonTree.Canonical.object
      · exact List.pairwise_singleton _ _
      · intro member listed
        rw [List.mem_singleton.mp listed]
        exact .text _
    · exact .null
  split at served
  · rcases Option.map_eq_some_iff.mp served with ⟨range, _, rfl⟩
    apply JsonTree.Canonical.array
    intro item listed
    rcases List.mem_map.mp listed with ⟨log, _, rfl⟩
    exact rawLogJson_canonical _
  · cases served

private theorem replyWith_canonical [One Number] {result : JsonTree Number}
    (canonical : result.Canonical) : (replyWith result).Canonical := by
  apply JsonTree.Canonical.object
  · change List.Pairwise (· < ·) ["id", "jsonrpc", "result"]
    decide
  · intro member listed
    simp only [List.mem_cons, List.not_mem_nil, or_false] at listed
    rcases listed with rfl | rfl | rfl
    · exact .number 1
    · exact .text "2.0"
    · exact canonical

private theorem answers_resultOf {ledger : Ledger} {head : UInt64} {method : String}
    {params result : JsonTree Number} (served : resultOf ledger head method params = some result) :
    Answers ledger head method params result := by
  constructor
  · rintro rfl
    cases served
    exact ⟨_, rfl, toHexQuantity_spells _⟩
  · rintro rfl
    cases served
    exact ⟨_, rfl, toHexQuantity_spells _⟩
  · rintro rfl block asks known
    change (blockAsked? params).map _ = _ at served
    rw [blockAsked?_of_asks asks, Option.map_some, if_pos known] at served
    cases served
    exact ⟨_, rfl, toHexQuantity_spells _⟩
  · rintro rfl fromBlock toBlock asks known
    change (rangeAsked? params).map _ = _ at served
    rw [rangeAsked?_of_asks asks, Option.map_some] at served
    cases served
    have whole : min toBlock head = toBlock := by
      apply UInt64.toNat_inj.mp
      rw [UInt64.toNat_min]
      exact Nat.min_eq_left (UInt64.le_iff_toNat_le.mp known)
    dsimp only
    rw [whole]
    refine ⟨_, rfl, ?_⟩
    induction ledger.logsOf fromBlock toBlock with
    | nil => exact .nil
    | cons log rest inductionHypothesis =>
        exact .cons ⟨encodeLog log, rawLogJson_describes _, encodeLog_encodes log,
          rfl⟩ inductionHypothesis

section Serves

variable [One Number] (text : JsonText Number) (ledger : Ledger) (head : UInt64)

private theorem serve_of_asked {body : String} {asked params : JsonTree Number} {method : String}
    (read : text.parse body = .ok asked) (name : asked.find? "method" = some (.text method))
    (withParams : asked.find? "params" = some params) :
    serve text ledger head body =
      match resultOf ledger head method params with
      | some result => .answered 200 (text.dump (replyWith result))
      | none => .answered 404 method := by
  unfold serve
  rw [read]
  dsimp only
  rw [name, withParams]

private theorem parse_replyWith {method : String} {params result : JsonTree Number}
    (served : resultOf ledger head method params = some result) :
    text.parse (text.dump (replyWith result)) = .ok (replyWith result) :=
  text.parse_dump _ (replyWith_canonical (resultOf_canonical served))

theorem honest_serve : Honest text ledger head (serve text ledger head) := by
  intro body response asked reply method params result ended read name withParams accepted found
  rw [serve_of_asked text ledger head read name withParams] at ended
  cases served : resultOf ledger head method params with
  | none =>
      rw [served] at ended
      cases ended
  | some sent =>
      rw [served] at ended
      cases ended
      have parsed := accepted.parsed
      rw [parse_replyWith text ledger head served] at parsed
      cases parsed
      cases found
      exact answers_resultOf served

theorem responsive_serve : Responsive text head (serve text ledger head) := by
  intro body asked method params read name withParams asks
  have served : Exists fun result => resultOf ledger head method params = some result := by
    rcases asks with rfl | ⟨rfl, fromBlock, toBlock, range, _⟩
    · exact ⟨_, rfl⟩
    · change Exists fun result => (rangeAsked? params).map _ = some result
      rw [rangeAsked?_of_asks range]
      exact ⟨_, rfl⟩
  rcases served with ⟨result, served⟩
  refine ⟨_, replyWith result, ?_, ⟨parse_replyWith text ledger head served, rfl, rfl⟩⟩
  rw [serve_of_asked text ledger head read name withParams, served]

/-- A call gets the result that the node has for it. -/
theorem rpcCall_serve {method : String} {params result : JsonTree Number}
    (canonical : params.Canonical) (served : resultOf ledger head method params = some result) :
    rpcCall text (serve text ledger head) method params = .ok (replyWith result) := by
  have ended := serve_of_asked text ledger head
    (text.parse_dump _ (request_canonical canonical method)) rfl rfl
  rw [served] at ended
  exact rpcCall_eq_ok.mpr ⟨_, ended, parse_replyWith text ledger head served, rfl, rfl⟩

theorem chainId_serve :
    EvmAdapter.chainId (rpcCall text (serve text ledger head)) = .ok ledger.chainId :=
  quantityOf_eq_ok.mpr ⟨_, _, rpcCall_serve text ledger head no_params_canonical rfl, rfl,
    parseHexU64_of_spells (toHexQuantity_spells _)⟩

theorem latestBlock_serve :
    EvmAdapter.latestBlock (rpcCall text (serve text ledger head)) = .ok head :=
  quantityOf_eq_ok.mpr ⟨_, _, rpcCall_serve text ledger head no_params_canonical rfl, rfl,
    parseHexU64_of_spells (toHexQuantity_spells _)⟩

theorem getLogs_serve (fromBlock toBlock : UInt64) :
    EvmAdapter.getLogs (rpcCall text (serve text ledger head)) fromBlock toBlock =
      if toBlock < fromBlock then .error "getLogs: to_block < from_block"
      else .ok ((ledger.logsOf fromBlock (min toBlock head)).map encodeLog) := by
  by_cases backwards : toBlock < fromBlock
  · rw [if_pos backwards, EvmAdapter.getLogs, if_pos backwards]
    rfl
  · rw [if_neg backwards]
    have asks : AsksRange
        (JsonTree.array [EvmAdapter.logFilter fromBlock toBlock] : JsonTree Number)
        fromBlock toBlock :=
      ⟨_, _, _, rfl, rfl, toHexQuantity_spells fromBlock, rfl, toHexQuantity_spells toBlock⟩
    have served : resultOf ledger head "eth_getLogs"
        (JsonTree.array [EvmAdapter.logFilter fromBlock toBlock] : JsonTree Number) =
          some (.array ((ledger.logsOf fromBlock (min toBlock head)).map fun log => rawLogJson
            (encodeLog log))) := by
      change (rangeAsked? _).map _ = _
      rw [rangeAsked?_of_asks asks]
      rfl
    refine EvmAdapter.getLogs_eq_ok.mpr ⟨UInt64.not_lt.mp backwards, _, _,
      rpcCall_serve text ledger head (logFilter_canonical fromBlock toBlock) served, rfl, ?_⟩
    induction ledger.logsOf fromBlock (min toBlock head) with
    | nil => exact .nil
    | cons log rest inductionHypothesis => exact .cons (rawLogJson_describes _) inductionHypothesis

theorem blockTimestamp_serve (block : UInt64) :
    EvmAdapter.blockTimestamp (rpcCall text (serve text ledger head)) block =
      if block ≤ head then .ok (ledger.time block)
        else .error "eth_getBlockByNumber: missing result" := by
  have asks : AsksBlock
      (JsonTree.array [.text (toHexQuantity block), .boolean false] : JsonTree Number) block :=
    ⟨_, _, rfl, toHexQuantity_spells block⟩
  have canonical : (JsonTree.array
      [.text (toHexQuantity block), .boolean false] : JsonTree Number).Canonical := by
    apply JsonTree.Canonical.array
    intro item listed
    simp only [List.mem_cons, List.not_mem_nil, or_false] at listed
    rcases listed with rfl | rfl
    · exact .text _
    · exact .boolean _
  have served : resultOf ledger head "eth_getBlockByNumber"
      (JsonTree.array [.text (toHexQuantity block), .boolean false] : JsonTree Number) =
        some (if block ≤ head
          then .object [("timestamp", .text (toHexQuantity (ledger.time block)))] else .null) := by
    change (blockAsked? _).map _ = _
    rw [blockAsked?_of_asks asks]
    rfl
  have called := rpcCall_serve text ledger head canonical served
  by_cases known : block ≤ head
  · rw [if_pos known] at called ⊢
    exact EvmAdapter.blockTimestamp_eq_ok.mpr
      ⟨_, _, _, called, rfl, rfl, parseHexU64_of_spells (toHexQuantity_spells _)⟩
  · rw [if_neg known] at called ⊢
    rw [EvmAdapter.blockTimestamp, called]
    rfl

end Serves

end Chains
end RiskSentinel
