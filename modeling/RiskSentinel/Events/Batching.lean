import RiskSentinel.Events.HandOver

namespace RiskSentinel
namespace Events

open Foundation Risk

/-!
# What the split into batches can change

The size of a batch depends on the configuration, on the distance to the head
and on the calls that happened to fail.  Against a node that answers from one
fixed chain, none of this changes which signals are pushed, nor their order.
It does change their time: the source asks for one block time in each batch,
that of the last block, and stamps every signal of the batch with it.

Two runs over the same blocks therefore agree up to the time of their signals,
and each signal has the time of its own block exactly when no batch mixes
block times.
-/

/-- The content of a chain: the logs of each block as the node writes them,
and the time of each block in seconds. -/
structure ChainContent where
  logs : ChainLogs
  time : UInt64 -> UInt64
  encoded : forall block raw, raw ∈ logs block -> Exists fun log : EvmLog => raw.Encodes log

/-- The node answers from the chain, whenever it answers for logs at all. -/
structure PollEnv.Serves (env : PollEnv) (content : ChainContent) : Prop where
  answers : env.AnswersFrom content.logs
  blockTimestamp : forall block, env.blockTimestamp block = .ok (content.time block)

/-- The signal without the time at which it was taken in. -/
def withoutIngress (signal : Signal) : Signal :=
  { signal with signalMeta := { signal.signalMeta with internalIngressTimeMs := 0 } }

/-- The signal without either of its times. -/
def untimed (signal : Signal) : Signal :=
  { signal with signalMeta := { signal.signalMeta with timestampMs := 0, internalIngressTimeMs := 0 } }

namespace ChainContent

variable (content : ChainContent) (chainId : UInt64)

/-- The time of a block in milliseconds. -/
def timeMs (block : Nat) : UInt64 :=
  content.time (UInt64.ofNat block) * 1000

/-- The signals of the logs of a block, all with the given time. -/
def signalsAt (timestampMs : UInt64) (block : Nat) : List Signal :=
  (content.logs block).filterMap fun raw =>
    (normalize raw chainId timestampMs (Bytes.zeros 32)).toOption

/-- The signals of a batch: those of its blocks, with the time of the last
one. -/
def batchSignals (batch : Nat × Nat) : List Signal :=
  (intervalPoints batch).flatMap (content.signalsAt chainId (content.timeMs batch.2))

/-- Every block of the batch that has logs has the time of the last block. -/
def OneTime (batch : Nat × Nat) : Prop :=
  forall block, block ∈ intervalPoints batch -> content.logs block ≠ [] ->
    content.timeMs batch.2 = content.timeMs block

end ChainContent

namespace EventSource

variable {content : ChainContent}

/-- Logs of the chain are never rejected, and but for the clock reading their
signals are determined by the chain. -/
private theorem pushLogs_encoded (env : PollEnv) (chainId timestampMs : UInt64) (position : Nat)
    (logs : List RawLog)
    (encoded : forall raw, raw ∈ logs -> Exists fun log : EvmLog => raw.Encodes log) :
    (pushLogs env chainId timestampMs position logs).2 = none ∧
      (pushLogs env chainId timestampMs position logs).1.map withoutIngress =
        logs.filterMap fun raw =>
        (normalize raw chainId timestampMs (Bytes.zeros 32)).toOption := by
  induction logs generalizing position with
  | nil => exact ⟨rfl, rfl⟩
  | cons raw rest inductionHypothesis =>
      rcases encoded raw List.mem_cons_self with ⟨log, encodes⟩
      have others := inductionHypothesis (position + 1) fun other member =>
        encoded other (List.mem_cons_of_mem _ member)
      have here := normalize_encodes encodes chainId timestampMs (env.scratch position)
      have canonical := normalize_encodes encodes chainId timestampMs (Bytes.zeros 32)
      simp only [pushLogs, here, List.filterMap_cons, canonical, Except.toOption,
        List.map_cons, others.2]
      exact ⟨others.1, rfl⟩

/-- A poll never changes the chain of its source. -/
private theorem pollOnce_chainId (source : EventSource) (env : PollEnv) (sound : source.Sound) :
    (source.pollOnce env).source.chainId = source.chainId := by
  rcases pollOnce_cases source env with
    ⟨message, _, result⟩ | ⟨refreshed, head, result⟩ | ⟨refreshed, head, batch⟩
  · rw [result]
  · rw [result]
    rcases refreshHead_cases head sound with ⟨impossible, _⟩
      | ⟨answered, _, ⟨impossible, _⟩ | ⟨_, _, rfl⟩⟩
    · cases impossible
    · cases impossible
    · rfl
  · have sameChain : refreshed.chainId = source.chainId := by
      rw [(refreshHead_warm sound head).2]
    rcases batch with ⟨_, result⟩ | ⟨message, _, result⟩ | ⟨toBlock, logs, _, result⟩
    · rw [result]
      exact sameChain
    · rw [result]
      exact sameChain
    · rw [result, pushBatch]
      rcases (pushLogs env refreshed.chainId (batchTimestampMs env toBlock) 0 logs).2
        with _ | message
      · exact sameChain
      · exact sameChain

/-- One poll pushes the signals of the batch it completes, and nothing if it
completes none. -/
private theorem pushed_poll {step : PollStep} (sound : step.before.Sound)
    (heads : HeadsBelow step.env) (serves : step.env.Serves content) :
    step.result.pushed.map withoutIngress =
      step.result.outcome.range?.toList.flatMap (content.batchSignals step.before.chainId) := by
  have pushed := pollOnce_pushed step
  rcases batch : step.batch? with _ | ⟨toBlock, logs⟩
  · rw [batch] at pushed
    rw [pushed.1, pushed.2]
    rfl
  · rw [batch] at pushed
    rcases pushed with ⟨refreshed, head, fetched, result⟩
    have onlyHead := (refreshHead_warm sound head).2
    have sameNext : refreshed.nextBlock = step.before.nextBlock := by rw [onlyHead]
    have sameChain : refreshed.chainId = step.before.chainId := by rw [onlyHead]
    have answered := (fetchBatch_ok (sound.refreshHead heads head) fetched).2.2.2
    have blocks := serves.answers _ _ _ answered
    have encoded : forall raw, raw ∈ logs -> Exists fun log : EvmLog => raw.Encodes log := by
      intro raw member
      rw [blocks] at member
      rcases List.mem_flatMap.mp member with ⟨block, _, inBlock⟩
      exact content.encoded block raw inBlock
    have time : batchTimestampMs step.env toBlock = content.timeMs toBlock.toNat := by
      rw [batchTimestampMs, serves.blockTimestamp, ChainContent.timeMs, UInt64.ofNat_toNat]
    rcases pushLogs_encoded step.env refreshed.chainId
      (content.timeMs toBlock.toNat) 0 logs encoded with ⟨finished, signals⟩
    rw [result, pushBatch, time]
    simp only [finished, PollOutcome.range?, Option.toList_some, List.flatMap_singleton]
    rw [signals, blocks, sameChain, sameNext, ChainContent.batchSignals, List.filterMap_flatMap]
    rfl

/-- A run pushes the signals of the batches it completes, in order. -/
theorem pushed_run (source : EventSource) (envs : List PollEnv) (sound : source.Sound)
    (heads : forall env, env ∈ envs -> HeadsBelow env)
    (serves : forall env, env ∈ envs -> env.Serves content) :
    (source.run envs).pushed.map withoutIngress =
      (source.run envs).ranges.flatMap (content.batchSignals source.chainId) := by
  induction envs generalizing source with
  | nil => rfl
  | cons env rest inductionHypothesis =>
      rw [run]
      by_cases exhausted : source.isExhausted = true
      · rw [if_pos exhausted]
        rfl
      · rw [if_neg exhausted]
        have after := (pollOnce_cursor sound (heads env List.mem_cons_self)).1
        have others := inductionHypothesis (source.pollOnce env).source after
          (fun later member => heads later (List.mem_cons_of_mem _ member))
          (fun later member => serves later (List.mem_cons_of_mem _ member))
        rw [pollOnce_chainId source env sound] at others
        have first : (PollStep.result ⟨source, env⟩).pushed.map withoutIngress =
            (PollStep.result ⟨source, env⟩).outcome.range?.toList.flatMap
              (content.batchSignals source.chainId) :=
          pushed_poll sound (heads env List.mem_cons_self) (serves env List.mem_cons_self)
        simp only [SourceRun.pushed, SourceRun.ranges, List.flatMap_cons, List.map_append,
          List.filterMap_cons] at others ⊢
        rw [first, others]
        cases (PollStep.result ⟨source, env⟩).outcome.range? <;> simp

/-! ## The times of the signals -/

/-- Pieces of equal lengths can be compared one by one. -/
private theorem flatMap_eq_iff {A B : Type} {left right : A -> List B} (items : List A)
    (sizes : forall item, item ∈ items -> (left item).length = (right item).length) :
    items.flatMap left = items.flatMap right ↔ forall item, item ∈ items ->
    left item = right item := by
  induction items with
  | nil => simp
  | cons item rest inductionHypothesis =>
      have others := inductionHypothesis fun other member =>
        sizes other (List.mem_cons_of_mem _ member)
      rw [List.flatMap_cons, List.flatMap_cons, List.forall_mem_cons, ← others]
      constructor
      · intro same
        exact List.append_inj same (sizes item List.mem_cons_self)
      · rintro ⟨first, remaining⟩
        rw [first, remaining]

private theorem signals_encoded (chainId timestampMs : UInt64) (logs : List RawLog)
    (encoded : forall raw, raw ∈ logs -> Exists fun log : EvmLog => raw.Encodes log) :
    (logs.filterMap fun raw =>
      (normalize raw chainId timestampMs (Bytes.zeros 32)).toOption).map untimed =
        (logs.filterMap fun raw =>
          (normalize raw chainId 0 (Bytes.zeros 32)).toOption).map untimed ∧
      (logs.filterMap fun raw => (normalize raw chainId timestampMs (Bytes.zeros 32)).toOption).map
        (fun signal => signal.signalMeta.timestampMs) = List.replicate logs.length timestampMs := by
  induction logs with
  | nil => exact ⟨rfl, rfl⟩
  | cons raw rest inductionHypothesis =>
      rcases encoded raw List.mem_cons_self with ⟨log, encodes⟩
      have others := inductionHypothesis fun other member =>
        encoded other (List.mem_cons_of_mem _ member)
      have stamped := normalize_encodes encodes chainId timestampMs (Bytes.zeros 32)
      have unstamped := normalize_encodes encodes chainId 0 (Bytes.zeros 32)
      rw [List.filterMap_cons_some (b := log.signal chainId timestampMs raw.removed)
        (by rw [stamped]; rfl),
        List.filterMap_cons_some (b := log.signal chainId 0 raw.removed) (by rw [unstamped]; rfl),
        List.map_cons, List.map_cons, List.map_cons, others.1, others.2, List.length_cons,
        List.replicate_succ]
      exact ⟨rfl, rfl⟩

variable (content) in
/-- The signals of a block but for their time, and the time they get. -/
private theorem signalsAt_parts (chainId timestampMs : UInt64) (block : Nat) :
    (content.signalsAt chainId timestampMs block).map untimed =
      (content.signalsAt chainId 0 block).map untimed ∧
      (content.signalsAt chainId timestampMs block).map
      (fun signal => signal.signalMeta.timestampMs) =
        List.replicate (content.logs block).length timestampMs :=
  signals_encoded chainId timestampMs (content.logs block) (content.encoded block)

/-- Up to the times, the signals of batches are those of their blocks. -/
private theorem untimed_batches (chainId : UInt64) (batches : List (Nat × Nat)) :
    (batches.flatMap (content.batchSignals chainId)).map untimed =
      (batches.flatMap intervalPoints).flatMap fun block =>
      (content.signalsAt chainId 0 block).map untimed := by
  rw [List.map_flatMap, List.flatMap_assoc]
  congr 1
  funext batch
  rw [ChainContent.batchSignals, List.map_flatMap]
  congr 1
  funext block
  exact (signalsAt_parts content chainId _ block).1

/-- The signals of batches all have the times of their blocks exactly when no
batch mixes times. -/
private theorem times_batches (chainId : UInt64) (batches : List (Nat × Nat)) :
    ((batches.flatMap (content.batchSignals chainId)).map
      (fun signal => signal.signalMeta.timestampMs) =
        (batches.flatMap intervalPoints).flatMap fun block =>
          List.replicate (content.logs block).length (content.timeMs block)) ↔
      forall batch, batch ∈ batches -> content.OneTime batch := by
  have times : forall batch : Nat × Nat,
      (content.batchSignals chainId batch).map (fun signal => signal.signalMeta.timestampMs) =
        (intervalPoints batch).flatMap fun block =>
          List.replicate (content.logs block).length (content.timeMs batch.2) := by
    intro batch
    rw [ChainContent.batchSignals, List.map_flatMap]
    congr 1
    funext block
    exact (signalsAt_parts content chainId _ block).2
  rw [List.map_flatMap, List.flatMap_assoc]
  simp only [times]
  rw [flatMap_eq_iff batches (fun batch _ => by simp [List.length_flatMap])]
  apply forall_congr'
  intro batch
  apply imp_congr_right
  intro _
  rw [flatMap_eq_iff (intervalPoints batch) (fun block _ => by simp)]
  apply forall_congr'
  intro block
  apply imp_congr_right
  intro _
  rw [List.replicate_inj, ← List.length_pos_iff, Nat.pos_iff_ne_zero]
  constructor
  · rintro ⟨_, empty | same⟩ some
    · exact absurd empty some
    · exact same
  · intro same
    refine ⟨rfl, ?_⟩
    by_cases empty : (content.logs block).length = 0
    · exact Or.inl empty
    · exact Or.inr (same empty)

private theorem map_untimed (signals : List Signal) :
    signals.map untimed = (signals.map withoutIngress).map untimed := by
  rw [List.map_map]
  rfl

private theorem map_timestampMs (signals : List Signal) :
    signals.map (fun signal => signal.signalMeta.timestampMs) =
      (signals.map withoutIngress).map fun signal => signal.signalMeta.timestampMs := by
  rw [List.map_map]
  rfl

/-- Two runs over the same blocks of one chain, with any two configurations
and any failures.  They push the same signals but for their times; each pushes
the signals of its batches with the times of the batches' last blocks; and the
signals of a run have the times of their own blocks exactly when none of its
batches mixes times. -/
theorem batching_changes_times_only (content : ChainContent) (chainId : UInt64)
    (left right : EventSourceConfig) (leftEnvs rightEnvs : List PollEnv) (blocks : List Nat)
    (leftSmallest : left.minBlockRange = 1) (rightSmallest : right.minBlockRange = 1)
    (leftServes : forall env, env ∈ leftEnvs -> env.Serves content ∧ HeadsBelow env)
    (rightServes : forall env, env ∈ rightEnvs -> env.Serves content ∧ HeadsBelow env)
    (leftBlocks : ((create left chainId).run leftEnvs).ranges.flatMap intervalPoints = blocks)
    (rightBlocks : ((create right chainId).run rightEnvs).ranges.flatMap intervalPoints = blocks) :
    ((create left chainId).run leftEnvs).pushed.map untimed =
      ((create right chainId).run rightEnvs).pushed.map untimed ∧
      ((create left chainId).run leftEnvs).pushed.map withoutIngress =
        ((create left chainId).run leftEnvs).ranges.flatMap (content.batchSignals chainId) ∧
      ((((create left chainId).run leftEnvs).pushed.map fun signal =>
        signal.signalMeta.timestampMs) =
          (blocks.flatMap fun block => List.replicate (content.logs block).length
            (content.timeMs block)) ↔
        forall batch, batch ∈ ((create left chainId).run leftEnvs).ranges ->
        content.OneTime batch) := by
  have leftPushed := pushed_run (create left chainId) leftEnvs
    (create_sound left chainId leftSmallest)
    (fun env member => (leftServes env member).2) (fun env member => (leftServes env member).1)
  have rightPushed := pushed_run (create right chainId) rightEnvs
    (create_sound right chainId rightSmallest)
    (fun env member => (rightServes env member).2) (fun env member => (rightServes env member).1)
  refine ⟨?_, leftPushed, ?_⟩
  · rw [map_untimed, leftPushed, untimed_batches, leftBlocks, map_untimed, rightPushed,
      untimed_batches, rightBlocks]
    rfl
  · rw [map_timestampMs, leftPushed, ← leftBlocks]
    exact times_batches chainId _

/-- A transfer in block 5. -/
private def loneTransfer : EvmLog where
  address := Bytes.ofNat 20 7
  topics := [topicTransfer]
  topics_le := by decide
  data := []
  txHash := Bytes.ofNat 32 3
  blockNumber := 5
  txIndex := 0
  txIndex_le := EvmLog.first_index
  logIndex := 0
  logIndex_le := EvmLog.first_index

private def loneTransferText : RawLog where
  address := bytesToHex (Bytes.ofNat 20 7)
  topics := [bytesToHex topicTransfer]
  data := "0x"
  blockNumber := "0x5"
  transactionHash := bytesToHex (Bytes.ofNat 32 3)
  logIndex := "0x0"
  transactionIndex := "0x0"

private theorem loneTransferText_encodes : loneTransferText.Encodes loneTransfer where
  address := bytesToHex_spells _
  topics := .cons (bytesToHex_spells _) .nil
  data := ⟨[], rfl, rfl⟩
  blockNumber := ⟨['5'], rfl, by decide +kernel⟩
  transactionHash := bytesToHex_spells _
  transactionIndex := ⟨['0'], rfl, by decide +kernel⟩
  logIndex := ⟨['0'], rfl, by decide +kernel⟩

/-- The transfer in block 5, and block 6 twelve seconds later. -/
private def twoBlocks : ChainContent where
  logs := fun block => if block = 5 then [loneTransferText] else []
  time := fun block => if block = 5 then 100 else 112
  encoded := by
    intro block raw member
    split at member
    · rw [List.mem_singleton.mp member]
      exact ⟨loneTransfer, loneTransferText_encodes⟩
    · exact (List.not_mem_nil member).elim

/-- A node at block 6 of this chain, which never fails. -/
private def nodeAtSix : PollEnv where
  latestBlock := .ok 6
  getLogs := fun fromBlock toBlock =>
    .ok ((intervalPoints (fromBlock.toNat, toBlock.toNat)).flatMap twoBlocks.logs)
  blockTimestamp := fun block => .ok (twoBlocks.time block)
  systemClockMs := 0
  steadyClockMs := fun _ => 0
  scratch := fun _ => Bytes.zeros 32

private theorem nodeAtSix_serves (env : PollEnv) (member : env ∈ [nodeAtSix, nodeAtSix]) :
    env.Serves twoBlocks ∧ HeadsBelow env := by
  have same : env = nodeAtSix := by simpa using member
  rw [same]
  refine ⟨⟨?_, fun _ => rfl⟩, ?_⟩
  · intro fromBlock toBlock logs answered
    exact (Except.ok.inj answered).symm
  · intro head answered
    cases answered
    decide

private def backtestOf (maxBlockRange : UInt64) : EventSourceConfig :=
  { startBlock := 5, backtestEndBlock := 6, maxBlockRange := maxBlockRange }

/-- Block by block and both blocks at once: the same transfer is pushed, up to
its time. -/
theorem twoBlocks_same_transfer :
    ((create (backtestOf 1) 1).run [nodeAtSix, nodeAtSix]).ranges = [(5, 5), (6, 6)] ∧
      ((create (backtestOf 2) 1).run [nodeAtSix, nodeAtSix]).ranges = [(5, 6)] ∧
      ((create (backtestOf 1) 1).run [nodeAtSix, nodeAtSix]).pushed.map untimed =
        ((create (backtestOf 2) 1).run [nodeAtSix, nodeAtSix]).pushed.map untimed := by
  have single : ((create (backtestOf 1) 1).run [nodeAtSix, nodeAtSix]).ranges =
      [(5, 5), (6, 6)] := by
    decide +kernel
  have double : ((create (backtestOf 2) 1).run [nodeAtSix, nodeAtSix]).ranges = [(5, 6)] := by
    decide +kernel
  refine ⟨single, double, ?_⟩
  exact (batching_changes_times_only twoBlocks 1 (backtestOf 1) (backtestOf 2)
    [nodeAtSix, nodeAtSix]
    [nodeAtSix, nodeAtSix] [5, 6] rfl rfl nodeAtSix_serves nodeAtSix_serves (by rw [single]; decide)
    (by rw [double]; decide)).1

/-- But the time is that of block 5 in the one run and that of block 6 in the
other. -/
theorem twoBlocks_different_times :
    (((create (backtestOf 1) 1).run [nodeAtSix, nodeAtSix]).pushed.map fun signal =>
      signal.signalMeta.timestampMs) =
        [100000] ∧
      (((create (backtestOf 2) 1).run [nodeAtSix, nodeAtSix]).pushed.map fun signal =>
          signal.signalMeta.timestampMs) =
        [112000] ∧
      ((create (backtestOf 1) 1).run [nodeAtSix, nodeAtSix]).pushed.map withoutIngress ≠
        ((create (backtestOf 2) 1).run [nodeAtSix, nodeAtSix]).pushed.map withoutIngress := by
  have early : (((create (backtestOf 1) 1).run [nodeAtSix, nodeAtSix]).pushed.map
      fun signal => signal.signalMeta.timestampMs) = [100000] := by
    decide +kernel
  have late : (((create (backtestOf 2) 1).run [nodeAtSix, nodeAtSix]).pushed.map
      fun signal => signal.signalMeta.timestampMs) = [112000] := by
    decide +kernel
  refine ⟨early, late, fun same => ?_⟩
  rw [map_timestampMs, same, ← map_timestampMs, late] at early
  exact absurd early (by decide)

end EventSource

end Events
end RiskSentinel
