import RiskSentinel.Foundation.Bytes

namespace RiskSentinel
namespace Risk

open Foundation

/-!
# Signals and alerts

The two records that travel through the pipeline: a `Signal` from the event
source through the ring buffer to the rules, an `Alert` from a rule through
the dispatcher to the channels.  Fields and defaults are those of
`risk/signal.hpp` and `risk/alert_dispatcher.hpp`.
-/

inductive SignalType where
  | unknown
  | swap
  | transfer
  | mintBurn
  | liquidityChange
  | priceTick
  | poolSnapshot
  | governance
  | approval
  | oracleUpdate
  | control
deriving DecidableEq, Repr

/-- The underlying value of the enumeration, which numbers the bits of a
mask and the rows of the routing table. -/
def SignalType.index : SignalType -> Nat
  | .unknown => 0
  | .swap => 1
  | .transfer => 2
  | .mintBurn => 3
  | .liquidityChange => 4
  | .priceTick => 5
  | .poolSnapshot => 6
  | .governance => 7
  | .approval => 8
  | .oracleUpdate => 9
  | .control => 10

def signalTypeCount : Nat := 11

theorem SignalType.index_lt (type : SignalType) : type.index < signalTypeCount := by
  cases type <;> decide

structure SignalMeta where
  timestampMs : UInt64 := 0
  internalIngressTimeMs : UInt64 := 0
  blockNumber : Option UInt64 := none
  txHash : Option (Bytes 32) := none
  isFinal : Bool := false
  sourceId : UInt32 := 0
deriving DecidableEq

/-- Positions of topics are written as numerals. -/
instance neZero_topics : NeZero 4 :=
  ⟨by decide⟩

/-- An address fills the last twenty bytes of a topic. -/
theorem address_in_topic : 12 + 20 ≤ 32 := by decide

structure EvmLogEvent where
  chainId : UInt64
  txIndex : UInt32
  logIndex : UInt32
  removed : Bool
  address : Bytes 20
  topicCount : Nat
  topics : Fin 4 -> Bytes 32
  dataSize : Nat
  data : Bytes 256
  truncated : Bool

inductive ControlCommand where
  | stop
  | sync
deriving DecidableEq, Repr

inductive GovernanceAction where
  | unknown
  | ownershipTransferred
  | paused
  | unpaused
  | roleGranted
  | roleRevoked
  | upgraded
deriving DecidableEq, Repr

structure GovernanceEvent where
  action : GovernanceAction
  chainId : UInt64
  contractAddress : Bytes 20
deriving DecidableEq

inductive MintBurnDirection where
  | unknown
  | mint
  | burn
deriving DecidableEq, Repr

structure MintBurnEvent where
  direction : MintBurnDirection
  chainId : UInt64
  tokenAddress : Bytes 20
  amount : Bytes 32
  fromAddress : Bytes 20
  toAddress : Bytes 20
deriving DecidableEq

structure OracleUpdateEvent where
  chainId : UInt64
  aggregatorAddress : Bytes 20
  currentAnswer : Bytes 32
  roundId : Bytes 32
  updatedAt : UInt64
deriving DecidableEq

/-- The alternatives of the payload variant, `empty` being `std::monostate`. -/
inductive SignalPayload where
  | empty
  | evmLog (event : EvmLogEvent)
  | priceTick (price : UInt64)
  | poolSnapshot (reserve0 reserve1 : UInt64)
  | governance (event : GovernanceEvent)
  | control (command : ControlCommand)
  | mintBurn (event : MintBurnEvent)
  | oracleUpdate (event : OracleUpdateEvent)

structure Signal where
  type : SignalType := .unknown
  signalMeta : SignalMeta := {}
  payload : SignalPayload := .empty

/-- The stop command as the shutdown code pushes it into the ring buffer. -/
def poisonPill : Signal :=
  { type := .control, payload := .control .stop }

/-- The test by which the engine recognises the stop command. -/
def Signal.isPoisonPill (signal : Signal) : Bool :=
  match signal.type, signal.payload with
  | .control, .control .stop => true
  | _, _ => false

structure Alert where
  customerId : UInt64 := 0
  ruleType : String := ""
  message : String := ""
  timestampMs : UInt64 := 0
  internalIngressTimeMs : UInt64 := 0
  amountDecimal : Option String := none
  tokenAddress : Option String := none
  chainId : Option UInt64 := none
deriving DecidableEq, Repr

end Risk
end RiskSentinel
