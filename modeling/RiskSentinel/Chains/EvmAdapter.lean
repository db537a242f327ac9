import RiskSentinel.Chains.HexQuantities
import RiskSentinel.Events.EventSource
import RiskSentinel.Rpc.JsonRpcClient

namespace RiskSentinel
namespace Chains

open Foundation Events Rpc

/-!
# The chain adapters

The Ethereum and the Arbitrum adapter ask a node over JSON-RPC for the chain
id, the head, the time of a block and the logs of a range.  Their code is the
same but for their names.  Numbers go out as `0x` quantities and come back
through `parseHexU64`; a log is an object with eight fields, each of which has
to be there and of its type.

An adapter and two clocks make the environment of a poll.
-/

variable {Number : Type}

/-! ## Values of a reply -/

/-- The name of a type in the exceptions of the JSON library. -/
def typeName : JsonTree Number -> String
  | .null => "null"
  | .boolean _ => "boolean"
  | .number _ => "number"
  | .text _ => "string"
  | .array _ => "array"
  | .object _ => "object"

def typeError (wanted : String) (json : JsonTree Number) : String :=
  "[json.exception.type_error.302] type must be " ++ wanted ++ ", but is " ++ typeName json

def getString : JsonTree Number -> Except String String
  | .text value => .ok value
  | json => .error (typeError "string" json)

def getBoolean : JsonTree Number -> Except String Bool
  | .boolean value => .ok value
  | json => .error (typeError "boolean" json)

def getStrings : JsonTree Number -> Except String (List String)
  | .array items => items.mapM getString
  | json => .error (typeError "array" json)

/-- The member with a key, which has to exist. -/
def jsonAt (key : String) (json : JsonTree Number) : Except String (JsonTree Number) :=
  match json with
  | .object members =>
      match members.lookup key with
      | some value => .ok value
      | none => .error ("[json.exception.out_of_range.403] key '" ++ key ++ "' not found")
  | json => .error ("[json.exception.type_error.304] cannot use at() with " ++ typeName json)

/-- The fields are read in the order in which the structure lists them. -/
def rawLogOfJson (json : JsonTree Number) : Except String RawLog := do
  let address <- jsonAt "address" json >>= getString
  let topics <- jsonAt "topics" json >>= getStrings
  let data <- jsonAt "data" json >>= getString
  let blockNumber <- jsonAt "blockNumber" json >>= getString
  let transactionHash <- jsonAt "transactionHash" json >>= getString
  let logIndex <- jsonAt "logIndex" json >>= getString
  let transactionIndex <- jsonAt "transactionIndex" json >>= getString
  let removed <- jsonAt "removed" json >>= getBoolean
  pure { address, topics, data, blockNumber, transactionHash, logIndex, transactionIndex, removed }

/-- A number as `0x` and lower-case digits without zeros in front. -/
def toHexQuantity (value : UInt64) : String :=
  String.ofList ('0' :: 'x' :: Nat.toDigits 16 value.toNat)

/-! ## The adapter -/

/-- What an adapter calls: a method with parameters, and the reply. -/
abbrev RpcCall (Number : Type) := String -> JsonTree Number -> Except String (JsonTree Number)

/-- A call whose result is one quantity. -/
def quantityOf (call : RpcCall Number) (method : String) : Except String UInt64 := do
  let reply <- call method (.array [])
  if reply.contains "result" then
    let hex <- jsonAt "result" reply >>= getString
    parseHexU64 hex
  else
    throw (method ++ ": missing result field")

namespace EvmAdapter

def chainId (call : RpcCall Number) : Except String UInt64 :=
  quantityOf call "eth_chainId"

def latestBlock (call : RpcCall Number) : Except String UInt64 :=
  quantityOf call "eth_blockNumber"

def blockTimestamp (call : RpcCall Number) (blockNumber : UInt64) : Except String UInt64 := do
  let reply <- call "eth_getBlockByNumber"
      (.array [.text (toHexQuantity blockNumber), .boolean false])
  match reply.find? "result" with
  | none | some .null => throw "eth_getBlockByNumber: missing result"
  | some result =>
      match result.find? "timestamp" with
      | none => throw "eth_getBlockByNumber: missing timestamp"
      | some timestamp =>
          let hex <- getString timestamp
          parseHexU64 hex

/-- The filter of `eth_getLogs`. -/
def logFilter (fromBlock toBlock : UInt64) : JsonTree Number :=
  .object [("fromBlock", .text (toHexQuantity fromBlock)),
    ("toBlock", .text (toHexQuantity toBlock))]

def getLogs (call : RpcCall Number) (fromBlock toBlock : UInt64) : Except String (List RawLog) := do
  if toBlock < fromBlock then
    throw "getLogs: to_block < from_block"
  let reply <- call "eth_getLogs" (.array [logFilter fromBlock toBlock])
  match reply.find? "result" with
  | some (.array items) => items.mapM rawLogOfJson
  | _ => throw "eth_getLogs: missing result array"

end EvmAdapter

/-! ## What is accepted -/

private theorem getString_eq_ok {json : JsonTree Number} {value : String} :
    getString json = .ok value ↔ json = .text value := by
  cases json with
  | text other => simp [getString]
  | null | boolean | number | array | object => simp [getString]

private theorem getBoolean_eq_ok {json : JsonTree Number} {value : Bool} :
    getBoolean json = .ok value ↔ json = .boolean value := by
  cases json with
  | boolean other => simp [getBoolean]
  | null | text | number | array | object => simp [getBoolean]

private theorem jsonAt_eq_ok {key : String} {json value : JsonTree Number} :
    jsonAt key json = .ok value ↔ json.find? key = some value := by
  cases json with
  | object members =>
      unfold jsonAt JsonTree.find?
      dsimp only
      cases members.lookup key with
      | none => simp
      | some other => simp
  | null | text | number | array | boolean => simp [jsonAt, JsonTree.find?]

private theorem mapM_getString {items : List (JsonTree Number)} {values : List String} :
    items.mapM getString = .ok values ↔ items = values.map .text := by
  induction items generalizing values with
  | nil => cases values <;> simp [pure, Except.pure]
  | cons item rest inductionHypothesis =>
      rw [List.mapM_cons, bind_eq_ok]
      constructor
      · rintro ⟨value, read, others⟩
        rcases bind_eq_ok.mp others with ⟨later, readAll, finished⟩
        cases finished
        rw [getString_eq_ok.mp read, inductionHypothesis.mp readAll]
        rfl
      · intro same
        cases values with
        | nil => cases same
        | cons value later =>
            rw [List.map_cons, List.cons.injEq] at same
            exact ⟨value, getString_eq_ok.mpr same.1,
              bind_eq_ok.mpr ⟨later, inductionHypothesis.mpr same.2, rfl⟩⟩

private theorem getStrings_eq_ok {json : JsonTree Number} {values : List String} :
    getStrings json = .ok values ↔ json = .array (values.map .text) := by
  cases json with
  | array items =>
      rw [getStrings, mapM_getString, JsonTree.array.injEq]
  | null | text | number | boolean | object => simp [getStrings]

/-- A field that is there and of its type. -/
private theorem field_eq_ok {A : Type} {key : String} {json : JsonTree Number} {value : A}
    {get : JsonTree Number -> Except String A} {write : A -> JsonTree Number}
    (reads : forall {found : JsonTree Number} {read : A}, get found = .ok read ↔
      found = write read) :
    jsonAt key json >>= get = .ok value ↔ json.find? key = some (write value) := by
  rw [bind_eq_ok]
  constructor
  · rintro ⟨found, there, read⟩
    rw [← reads.mp read]
    exact jsonAt_eq_ok.mp there
  · intro there
    exact ⟨write value, jsonAt_eq_ok.mpr there, reads.mpr rfl⟩

/-- The JSON value describes the log: it is an object with the eight fields,
and perhaps others. -/
structure Describes (json : JsonTree Number) (raw : RawLog) : Prop where
  address : json.find? "address" = some (.text raw.address)
  topics : json.find? "topics" = some (.array (raw.topics.map .text))
  data : json.find? "data" = some (.text raw.data)
  blockNumber : json.find? "blockNumber" = some (.text raw.blockNumber)
  transactionHash : json.find? "transactionHash" = some (.text raw.transactionHash)
  logIndex : json.find? "logIndex" = some (.text raw.logIndex)
  transactionIndex : json.find? "transactionIndex" = some (.text raw.transactionIndex)
  removed : json.find? "removed" = some (.boolean raw.removed)

private theorem textField_eq_ok {key value : String} {json : JsonTree Number} :
    jsonAt key json >>= getString = .ok value ↔ json.find? key = some (.text value) :=
  field_eq_ok getString_eq_ok

private theorem listField_eq_ok {key : String} {values : List String} {json : JsonTree Number} :
    jsonAt key json >>= getStrings = .ok values ↔
    json.find? key = some (.array (values.map .text)) :=
  field_eq_ok getStrings_eq_ok

private theorem flagField_eq_ok {key : String} {value : Bool} {json : JsonTree Number} :
    jsonAt key json >>= getBoolean = .ok value ↔ json.find? key = some (.boolean value) :=
  field_eq_ok getBoolean_eq_ok

/-- A log is read exactly from the values that describe it. -/
theorem rawLogOfJson_eq_ok {json : JsonTree Number} {raw : RawLog} :
    rawLogOfJson json = .ok raw ↔ Describes json raw := by
  unfold rawLogOfJson
  constructor
  · intro read
    rcases bind_eq_ok.mp read with ⟨address, readAddress, read⟩
    rcases bind_eq_ok.mp read with ⟨topics, readTopics, read⟩
    rcases bind_eq_ok.mp read with ⟨data, readData, read⟩
    rcases bind_eq_ok.mp read with ⟨blockNumber, readBlockNumber, read⟩
    rcases bind_eq_ok.mp read with ⟨transactionHash, readTransactionHash, read⟩
    rcases bind_eq_ok.mp read with ⟨logIndex, readLogIndex, read⟩
    rcases bind_eq_ok.mp read with ⟨transactionIndex, readTransactionIndex, read⟩
    rcases bind_eq_ok.mp read with ⟨removed, readRemoved, finished⟩
    cases finished
    exact ⟨textField_eq_ok.mp readAddress, listField_eq_ok.mp readTopics,
      textField_eq_ok.mp readData,
      textField_eq_ok.mp readBlockNumber, textField_eq_ok.mp readTransactionHash,
      textField_eq_ok.mp readLogIndex, textField_eq_ok.mp readTransactionIndex,
      flagField_eq_ok.mp readRemoved⟩
  · intro describes
    rw [textField_eq_ok.mpr describes.address, listField_eq_ok.mpr describes.topics,
      textField_eq_ok.mpr describes.data, textField_eq_ok.mpr describes.blockNumber,
      textField_eq_ok.mpr describes.transactionHash, textField_eq_ok.mpr describes.logIndex,
      textField_eq_ok.mpr describes.transactionIndex, flagField_eq_ok.mpr describes.removed]
    rfl

/-! ## Quantities -/

private theorem digitChar_isHexDigit : forall digit : Fin 16,
    isHexDigit digit.val.digitChar = true ∧ hexDigitValue digit.val.digitChar = digit.val := by
  decide

private theorem toDigits_hexValue (value : Nat) :
    (Nat.toDigits 16 value).all isHexDigit = true ∧ hexValue (Nat.toDigits 16 value) 0 = value := by
  induction value using Nat.base_induction 16 (by decide) with
  | single digit small =>
      have here := digitChar_isHexDigit ⟨digit, small⟩
      rw [Nat.toDigits_of_lt_base small]
      constructor
      · simpa using here.1
      · simpa [hexValue] using here.2
  | digit front digit small positive inductionHypothesis =>
      have here := digitChar_isHexDigit ⟨digit, small⟩
      rw [← Nat.toDigits_append_toDigits (by decide) positive small, Nat.toDigits_of_lt_base small]
      constructor
      · rw [List.all_append, inductionHypothesis.1]
        simpa using here.1
      · rw [hexValue, List.foldl_append]
        change 16 * hexValue (Nat.toDigits 16 front) 0 + hexDigitValue digit.digitChar = _
        rw [inductionHypothesis.2, here.2]

/-- What goes out spells the number. -/
theorem toHexQuantity_spells (value : UInt64) : SpellsHex (toHexQuantity value) value.toNat :=
  ⟨Nat.toDigits 16 value.toNat, String.toList_ofList, Nat.toDigits_ne_nil, (toDigits_hexValue _).1,
    (toDigits_hexValue _).2⟩

/-- A text spells at most one number. -/
theorem SpellsHex.unique {text : String} {left right : Nat} (spellsLeft : SpellsHex text left)
    (spellsRight : SpellsHex text right) : left = right := by
  rcases spellsLeft with ⟨digits, written, _, _, rfl⟩
  rcases spellsRight with ⟨others, same, _, _, rfl⟩
  rw [written] at same
  cases same
  rfl

/-- A number that is spelled is read. -/
theorem parseHexU64_of_spells {text : String} {value : UInt64}
    (spells : SpellsHex text value.toNat) : parseHexU64 text = .ok value := by
  have strict : ¬ ReadsLeniently text := by
    rcases spells with ⟨digits, written, _, all, _⟩
    rintro ⟨rest, same, notOnly, _⟩
    rw [written] at same
    cases same
    rw [all] at notOnly
    cases notOnly
  exact ((parseHexU64_exact_iff text).mpr strict value).mpr spells

/-! ## What the operations accept -/

theorem mapM_rawLogOfJson {items : List (JsonTree Number)} {logs : List RawLog} :
    items.mapM rawLogOfJson = .ok logs ↔ List.Forall₂ Describes items logs := by
  induction items generalizing logs with
  | nil => cases logs <;> simp [pure, Except.pure]
  | cons item rest inductionHypothesis =>
      rw [List.mapM_cons, bind_eq_ok]
      constructor
      · rintro ⟨raw, read, others⟩
        rcases bind_eq_ok.mp others with ⟨later, readAll, finished⟩
        cases finished
        exact .cons (rawLogOfJson_eq_ok.mp read) (inductionHypothesis.mp readAll)
      · rintro (_ | ⟨describes, others⟩)
        exact ⟨_, rawLogOfJson_eq_ok.mpr describes,
          bind_eq_ok.mpr ⟨_, inductionHypothesis.mpr others, rfl⟩⟩

theorem quantityOf_eq_ok {call : RpcCall Number} {method : String} {value : UInt64} :
    quantityOf call method = .ok value ↔
      Exists fun reply => Exists fun hex => call method (.array []) = .ok reply ∧
        reply.find? "result" = some (.text hex) ∧ parseHexU64 hex = .ok value := by
  unfold quantityOf
  rw [bind_eq_ok]
  constructor
  · rintro ⟨reply, answered, read⟩
    by_cases there : reply.contains "result" = true
    · rw [if_pos there] at read
      rcases bind_eq_ok.mp read with ⟨hex, found, parsed⟩
      exact ⟨reply, hex, answered, textField_eq_ok.mp found, parsed⟩
    · rw [if_neg there] at read
      cases read
  · rintro ⟨reply, hex, answered, found, parsed⟩
    have there : reply.contains "result" = true := by
      rw [JsonTree.contains, found, Option.isSome_some]
    refine ⟨reply, answered, ?_⟩
    rw [if_pos there, textField_eq_ok.mpr found]
    exact parsed

theorem EvmAdapter.blockTimestamp_eq_ok {call : RpcCall Number} {block seconds : UInt64} :
    EvmAdapter.blockTimestamp call block = .ok seconds ↔
      Exists fun reply => Exists fun result => Exists fun hex =>
        call "eth_getBlockByNumber"
          (.array [.text (toHexQuantity block), .boolean false]) = .ok reply ∧
          reply.find? "result" = some result ∧ result.find? "timestamp" = some (.text hex) ∧
          parseHexU64 hex = .ok seconds := by
  unfold EvmAdapter.blockTimestamp
  rw [bind_eq_ok]
  constructor
  · rintro ⟨reply, answered, read⟩
    cases found : reply.find? "result" with
    | none =>
        rw [found] at read
        cases read
    | some result =>
        rw [found] at read
        cases time : result.find? "timestamp" with
        | none =>
            cases result <;>
              · simp only [time] at read
                cases read
        | some timestamp =>
            have parsed : getString timestamp >>= parseHexU64 = .ok seconds := by
              cases result with
              | object members =>
                  simp only [time] at read
                  exact read
              | null | boolean | number | text | array => cases time
            rcases bind_eq_ok.mp parsed with ⟨hex, isText, parsed⟩
            rw [getString_eq_ok.mp isText] at time
            exact ⟨reply, result, hex, answered, found, time, parsed⟩
  · rintro ⟨reply, result, hex, answered, found, time, parsed⟩
    refine ⟨reply, answered, ?_⟩
    rw [found]
    cases result with
    | object members =>
        simp only [time]
        exact parsed
    | null | boolean | number | text | array => cases time

/-- Logs are returned for a range that is not empty, when the result is an
array in which every item describes a log.  One item that does not fails the
whole call. -/
theorem EvmAdapter.getLogs_eq_ok {call : RpcCall Number} {fromBlock toBlock : UInt64}
    {logs : List RawLog} :
    EvmAdapter.getLogs call fromBlock toBlock = .ok logs ↔
      fromBlock ≤ toBlock ∧ Exists fun reply => Exists fun items =>
        call "eth_getLogs" (.array [EvmAdapter.logFilter fromBlock toBlock]) = .ok reply ∧
          reply.find? "result" = some (.array items) ∧ List.Forall₂ Describes items logs := by
  unfold EvmAdapter.getLogs
  by_cases backwards : toBlock < fromBlock
  · rw [if_pos backwards]
    refine iff_of_false (fun impossible => by cases impossible) ?_
    rintro ⟨forwards, _⟩
    exact absurd backwards (UInt64.not_lt.mpr forwards)
  · rw [if_neg backwards]
    have forwards := UInt64.not_lt.mp backwards
    change call _ _ >>= _ = _ ↔ _
    rw [bind_eq_ok]
    constructor
    · rintro ⟨reply, answered, read⟩
      refine ⟨forwards, reply, ?_⟩
      cases found : reply.find? "result" with
      | none =>
          rw [found] at read
          cases read
      | some result =>
          rw [found] at read
          cases result with
          | array items => exact ⟨items, answered, rfl, mapM_rawLogOfJson.mp read⟩
          | null | boolean | number | text | object => cases read
    · rintro ⟨_, reply, items, answered, found, described⟩
      refine ⟨reply, answered, ?_⟩
      rw [found]
      exact mapM_rawLogOfJson.mpr described

end Chains
end RiskSentinel
