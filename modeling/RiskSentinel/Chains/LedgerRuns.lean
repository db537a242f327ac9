import RiskSentinel.Chains.HonestNode
import RiskSentinel.Events.Visits

namespace RiskSentinel
namespace Chains

open Foundation Events Rpc Risk

/-!
# From the ledger to the signals

The event source polls an adapter, the adapter calls a client, and the client
talks to a node.  Here these layers are put together: a run of polls against
nodes that are honest about one ledger, with exchanges failing as they like.

The source pushes the logs of consecutive blocks of the ledger, and as many of
the polls as are answered bring it up to the head.
-/

variable {Number : Type}

/-- What a poll reads from the machine it runs on. -/
structure Clocks where
  systemClockMs : UInt64
  steadyClockMs : Nat -> UInt64
  scratch : Nat -> Bytes 32

/-- The environment that an adapter makes for a poll. -/
def pollEnv (call : RpcCall Number) (clocks : Clocks) : PollEnv where
  latestBlock := EvmAdapter.latestBlock call
  getLogs := EvmAdapter.getLogs call
  blockTimestamp := EvmAdapter.blockTimestamp call
  systemClockMs := clocks.systemClockMs
  steadyClockMs := clocks.steadyClockMs
  scratch := clocks.scratch

variable [One Number] (text : JsonText Number) (ledger : Ledger)

/-- A poll against a node that is honest about the ledger up to its head. -/
structure NodeVisit where
  endpoint : Endpoint
  head : UInt64
  head_lt : head.toNat < 2 ^ 64 - 1
  clocks : Clocks
  honest : Honest text ledger head endpoint

namespace NodeVisit

variable {text ledger}

def toVisit (visit : NodeVisit text ledger) : Visit where
  env := pollEnv (rpcCall text visit.endpoint) visit.clocks
  head := visit.head
  reports _ obtained := latestBlock_of_honest visit.honest obtained

theorem headsBelow (visit : NodeVisit text ledger) : EventSource.HeadsBelow visit.toVisit.env := by
  intro head obtained
  rw [visit.toVisit.reports head obtained]
  exact visit.head_lt

theorem encodes (visit : NodeVisit text ledger) : visit.toVisit.Encodes ledger.logs :=
  fun _ _ _ known obtained => getLogs_of_honest visit.honest known obtained

private theorem all_normalizable {raws : List RawLog} {logs : List EvmLog}
    (encodes : List.Forall₂ (fun raw log => raw.Encodes log ∧ raw.removed = false) raws logs) :
    raws.all isNormalizable = true := by
  induction encodes with
  | nil => rfl
  | @cons raw log raws logs encoded _ inductionHypothesis =>
      have accepted := normalize_isOk raw 0 0 (Bytes.zeros 32)
      rw [normalize_encodes encoded.1] at accepted
      rw [List.all_cons, inductionHypothesis, ← accepted]
      rfl

theorem answered (visit : NodeVisit text ledger)
    (responsive : Responsive text visit.head visit.endpoint) : visit.toVisit.Answered where
  latestBlock := latestBlock_of_responsive visit.honest responsive
  getLogs fromBlock toBlock forwards known := by
    rcases getLogs_of_responsive visit.honest responsive forwards known with ⟨logs, obtained⟩
    exact ⟨logs, obtained, all_normalizable (visit.encodes fromBlock toBlock logs known obtained)⟩

/-- The source after polls of the nodes, with the chain id that a node told at
the start. -/
def run (config : EventSourceConfig) (chainId : UInt64) (visits : List (NodeVisit text ledger)) :
    SourceRun :=
  (EventSource.create config chainId).run (visits.map fun visit => visit.toVisit.env)

/-- The heads of the nodes never go back. -/
def Growing (visits : List (NodeVisit text ledger)) : Prop :=
  visits.Pairwise fun earlier later => earlier.head ≤ later.head

/-- A poll against a node that serves the ledger. -/
def served (text : JsonText Number) (ledger : Ledger) (head : UInt64)
    (head_lt : head.toNat < 2 ^ 64 - 1) (clocks : Clocks) : NodeVisit text ledger where
  endpoint := serve text ledger head
  head := head
  head_lt := head_lt
  clocks := clocks
  honest := honest_serve text ledger head

/-- What comes of it, without the texts in between. -/
theorem env_served (text : JsonText Number) (ledger : Ledger) (head : UInt64)
    (head_lt : head.toNat < 2 ^ 64 - 1) (clocks : Clocks) :
    (served text ledger head head_lt clocks).toVisit.env =
      { latestBlock := .ok head
        getLogs := fun fromBlock toBlock =>
          if toBlock < fromBlock then .error "getLogs: to_block < from_block"
          else .ok ((ledger.logsOf fromBlock (min toBlock head)).map encodeLog)
        blockTimestamp := fun block =>
          if block ≤ head then .ok (ledger.time block)
            else .error "eth_getBlockByNumber: missing result"
        systemClockMs := clocks.systemClockMs
        steadyClockMs := clocks.steadyClockMs
        scratch := clocks.scratch } := by
  change pollEnv (rpcCall text (serve text ledger head)) clocks = _
  rw [pollEnv, latestBlock_serve,
    funext fun fromBlock => funext (getLogs_serve text ledger head fromBlock),
    funext (blockTimestamp_serve text ledger head)]

end NodeVisit

/-- The signals of the blocks from one number on, but for their times. -/
def Ledger.signals (start count : Nat) : List Signal :=
  ((List.range' start count).flatMap ledger.logs).map fun log => log.signal ledger.chainId 0 false

section Runs

variable {text ledger} {config : EventSourceConfig} (smallest : config.minBlockRange = 1)
  {visits : List (NodeVisit text ledger)} (growing : NodeVisit.Growing visits)

private theorem growing_toVisit (growing : NodeVisit.Growing visits) :
    Events.Growing (visits.map NodeVisit.toVisit) :=
  List.pairwise_map.mpr growing

private theorem known_at_start (chainId : UInt64) (others : List Visit) :
    (EventSource.create config chainId).KnownTo others :=
  fun _ _ => UInt64.zero_le

private theorem run_eq (chainId : UInt64) :
    NodeVisit.run config chainId visits =
      (EventSource.create config chainId).run ((visits.map NodeVisit.toVisit).map Visit.env) := by
  rw [NodeVisit.run, List.map_map]
  rfl

private theorem headsBelow_toVisit (visits : List (NodeVisit text ledger)) :
    forall visit, visit ∈ visits.map NodeVisit.toVisit -> EventSource.HeadsBelow visit.env := by
  intro visit member
  rcases List.mem_map.mp member with ⟨node, _, rfl⟩
  exact node.headsBelow

include smallest growing in
/-- The logs between the first block and the cursor, with the chain id of the
ledger. -/
theorem pushed_run :
    match EventSource.origin config (visits.map fun visit => visit.toVisit.env) with
    | none => (NodeVisit.run config ledger.chainId visits).pushed = []
    | some block => (NodeVisit.run config ledger.chainId visits).pushed.map untimed =
        ledger.signals block.toNat
          ((NodeVisit.run config ledger.chainId visits).final.nextBlock.toNat - block.toNat) := by
  have pushed := EventSource.pushed_visits (EventSource.create config ledger.chainId)
    (visits.map NodeVisit.toVisit)
    (EventSource.create_sound config ledger.chainId smallest) (headsBelow_toVisit visits)
    (by
      intro visit member
      rcases List.mem_map.mp member with ⟨node, _, rfl⟩
      exact node.encodes)
    (growing_toVisit growing) (known_at_start ledger.chainId _)
  have chain := EventSource.create_chain config ledger.chainId
    ((visits.map NodeVisit.toVisit).map Visit.env) smallest (by
      intro env member
      rcases List.mem_map.mp member with ⟨visit, listed, rfl⟩
      exact headsBelow_toVisit visits visit listed)
  rw [run_eq]
  have envs : (visits.map NodeVisit.toVisit).map Visit.env = visits.map fun visit =>
      visit.toVisit.env := by
    rw [List.map_map]
    rfl
  rw [envs] at chain pushed ⊢
  cases begins : EventSource.origin config (visits.map fun visit => visit.toVisit.env) with
  | none =>
      rw [begins] at chain
      rw [chain] at pushed
      exact List.map_eq_nil_iff.mp pushed
  | some block =>
      rw [begins] at chain
      rw [chain.points_eq] at pushed
      dsimp only
      rw [pushed, Ledger.signals, List.map_flatMap]
      rfl

include smallest growing in
/-- Between its first block and its cursor, the source has pushed the logs of
the ledger, each once and in order.  The first block is the configured one, or
in a live cold start the first head that a node told. -/
theorem signals_of_honest_nodes (startup : NodeVisit text ledger) (chainId : UInt64)
    (started : EvmAdapter.chainId (rpcCall text startup.endpoint) = .ok chainId) :
    match EventSource.origin config (visits.map fun visit => visit.toVisit.env) with
    | none => (NodeVisit.run config chainId visits).pushed = []
    | some block => (NodeVisit.run config chainId visits).pushed.map untimed =
        ledger.signals block.toNat
          ((NodeVisit.run config chainId visits).final.nextBlock.toNat - block.toNat) := by
  cases chainId_of_honest startup.honest started
  exact pushed_run smallest growing

theorem Ledger.signals_prefix (start : Nat) {few many : Nat} (fewer : few ≤ many) :
    ledger.signals start few <+: ledger.signals start many := by
  rcases Nat.exists_eq_add_of_le fewer with ⟨more, rfl⟩
  unfold Ledger.signals
  rw [← List.range'_append_1, List.flatMap_append, List.map_append]
  exact List.prefix_append _ _

section Target

variable (configured : config.startBlock ≠ 0) (target : UInt64)
  (answeredIn : NodeVisit text ledger -> Bool)
  (reached : forall visit, visit ∈ visits -> answeredIn visit = true -> target ≤ visit.head)
  (within : config.backtestEndBlock ≠ 0 -> target ≤ config.backtestEndBlock)
  (answered : forall visit, visit ∈ visits -> answeredIn visit = true ->
    Responsive text visit.head visit.endpoint)
  (enough : target.toNat + 1 ≤
    config.startBlock.toNat + (visits.countP answeredIn - 1) * EventSource.batchLimit config)

omit [One Number] in
private theorem le_clampHead {head : UInt64} (there : target ≤ head)
    (within : config.backtestEndBlock ≠ 0 -> target ≤ config.backtestEndBlock) :
    target ≤ EventSource.clampHead config head := by
  unfold EventSource.clampHead
  split
  · rename_i backtest
    rw [UInt64.le_iff_toNat_le, UInt64.toNat_min]
    exact Nat.le_min.mpr ⟨UInt64.le_iff_toNat_le.mp there,
      UInt64.le_iff_toNat_le.mp (within (bne_iff_ne.mp backtest))⟩
  · exact there

include smallest growing configured reached within answered enough in
/-- When enough of the polls are answered by nodes at or past the target,
whatever the others do, the cursor has passed the target. -/
theorem cursor_past_target :
    target.toNat + 1 ≤
      (NodeVisit.run config ledger.chainId visits).final.nextBlock.toNat := by
  classical
  -- The marked polls among the visits.
  let marks : Visit -> Bool := fun visit => decide (visit.Answered ∧ target ≤ visit.head)
  have cursor := (EventSource.cursor_of_answers marks target
    (EventSource.create config ledger.chainId) (visits.map NodeVisit.toVisit)
    (EventSource.create_sound config ledger.chainId smallest)
    (by simp [EventSource.create, configured]) (headsBelow_toVisit visits)
    (fun _ _ marked => (of_decide_eq_true marked).1) (growing_toVisit growing)
    (known_at_start ledger.chainId _)
    (fun visit _ marked => le_clampHead target (of_decide_eq_true marked).2 within)
    within).2
  rw [← run_eq, List.countP_map] at cursor
  have more : visits.countP answeredIn ≤ visits.countP (marks ∘ NodeVisit.toVisit) := by
    apply List.countP_mono_left
    intro visit listed marked
    exact decide_eq_true
      ⟨visit.answered (answered visit listed marked), reached visit listed marked⟩
  have further := Nat.mul_le_mul_right (EventSource.batchLimit config) (Nat.sub_le_sub_right more 1)
  change min _ (config.startBlock.toNat + _ * EventSource.batchLimit config) ≤ _ at cursor
  omega

include smallest growing configured reached within answered enough in
/-- A source that begins at a configured block.  When enough of its polls are
answered by nodes at or past the target, whatever the others do, the logs of
all blocks up to the target are among the signals it has pushed, before any
others.  One answer more than the blocks need is asked for, because an earlier
poll may have left a lower head behind. -/
theorem signals_up_to_target (startup : NodeVisit text ledger) (chainId : UInt64)
    (started : EvmAdapter.chainId (rpcCall text startup.endpoint) = .ok chainId) :
    ledger.signals config.startBlock.toNat (target.toNat + 1 - config.startBlock.toNat) <+:
      (NodeVisit.run config chainId visits).pushed.map untimed := by
  cases chainId_of_honest startup.honest started
  have far := cursor_past_target smallest growing configured target answeredIn reached within
    answered enough
  have pushed := pushed_run smallest growing
  have begins : EventSource.origin config
      (visits.map fun visit => visit.toVisit.env) = some config.startBlock :=
    if_neg (by simp [configured])
  rw [begins] at pushed
  dsimp only at pushed
  rw [pushed]
  apply Ledger.signals_prefix
  omega

end Target

end Runs

/-! ## A node that times out once -/

/-- A JSON library whose numbers are counts. -/
def compactText : JsonText Nat :=
  JsonText.compact Numerals.unsigned

private theorem one_topic (topic : Bytes 32) : [topic].length ≤ 4 :=
  Nat.succ_le_succ (Nat.zero_le 3)

/-- A contract is paused in block 5. -/
def pauseInFive : EvmLog where
  address := Bytes.ofNat 20 0xaa
  topics := [topicPaused]
  topics_le := one_topic topicPaused
  data := []
  txHash := Bytes.ofNat 32 3
  blockNumber := 5
  txIndex := 0
  txIndex_le := EvmLog.first_index
  logIndex := 0
  logIndex_le := EvmLog.first_index

/-- A ledger in which nothing else happens. -/
def onePause : Ledger where
  chainId := 1
  logs block := if block = 5 then [pauseInFive] else []
  time _ := 1700000000

private def noClocks : Clocks where
  systemClockMs := 0
  steadyClockMs _ := 0
  scratch _ := Bytes.zeros 32

private def timesOut : NodeVisit compactText onePause where
  endpoint _ := .failed "Timeout was reached"
  head := 6
  head_lt := by decide
  clocks := noClocks
  honest := by
    intro body response asked reply method params result impossible
    cases impossible

/-- A node that serves this ledger at block 7. -/
def atSeven : NodeVisit compactText onePause :=
  .served compactText onePause 7 (by decide) noClocks

private def fromFive : EventSourceConfig :=
  { startBlock := 5 }

private theorem timesOut_growing : NodeVisit.Growing [timesOut, atSeven] :=
  List.pairwise_pair.mpr (by decide)

/-- Whatever the source has pushed, it is the pause or nothing. -/
theorem signals_of_timeout :
    (NodeVisit.run fromFive 1 [timesOut, atSeven]).pushed.map untimed =
      onePause.signals 5 ((NodeVisit.run fromFive 1 [timesOut, atSeven]).final.nextBlock.toNat -
        5) := by
  have smallest : fromFive.minBlockRange = 1 := rfl
  have pushed := signals_of_honest_nodes smallest timesOut_growing atSeven 1
    (chainId_serve compactText onePause 7)
  have begins : EventSource.origin fromFive
      ([timesOut, atSeven].map fun visit => visit.toVisit.env) = some 5 :=
    if_neg (by decide)
  have five : (5 : UInt64).toNat = 5 := rfl
  rw [begins] at pushed
  dsimp only at pushed
  rw [five] at pushed
  exact pushed

private theorem timesOut_then_answered : NodeVisit.Growing [timesOut, atSeven, atSeven] := by
  refine List.pairwise_cons.mpr ⟨fun later member => ?_, List.pairwise_pair.mpr (by decide)⟩
  simp only [List.mem_cons, List.not_mem_nil, or_false, or_self] at member
  rw [member]
  decide

/-- The first poll knows only block 6 and times out.  Two more are answered,
and the pause has been pushed. -/
theorem signals_after_timeout :
    onePause.signals 5 3 <+:
        (NodeVisit.run fromFive 1 [timesOut, atSeven, atSeven]).pushed.map untimed ∧
      (onePause.signals 5 3).length = 1 := by
  have smallest : fromFive.minBlockRange = 1 := rfl
  refine ⟨?_, by decide +kernel⟩
  refine signals_up_to_target smallest timesOut_then_answered (by decide) 7
    (fun visit => visit.head == 7) ?_ (by decide) ?_ (by decide) atSeven 1
    (chainId_serve compactText onePause 7)
  · intro visit listed marked
    rw [eq_of_beq marked]
    exact UInt64.le_refl 7
  · intro visit listed marked
    simp only [List.mem_cons, List.not_mem_nil, or_false, or_self] at listed
    rcases listed with rfl | rfl
    · cases marked
    · exact responsive_serve compactText onePause 7

end Chains
end RiskSentinel
