import RiskSentinel.Events.HandOver

namespace RiskSentinel
namespace Events

open Foundation Risk

/-!
# The metrics of the event source

The source counts the logs that it fetches and the signals that it makes of
them, and shows two block numbers: the head that it was told last, and the end
of the range that it has completed last.

A batch is counted before its logs are decoded.  When one of them is rejected,
the whole batch is fetched and counted again, so that the two counters differ
for good exactly when a batch has had a rejected log.  The last completed block
is always the one before the cursor.
-/

structure SourceMeters where
  eventsIngested : Nat := 0
  signalsNormalized : Nat := 0
  lastSeenBlock : UInt64 := 0
  lastProcessedBlock : UInt64 := 0

namespace EventSource

/-- The head is shown as it is told, before it is cut at the end of a
backtest. -/
def showHead (source : EventSource) (env : PollEnv) (meters : SourceMeters) : SourceMeters :=
  if source.cachedChainHead = 0 || source.cachedChainHead < source.nextBlock then
    match env.latestBlock with
    | .error _ => meters
    | .ok head => { meters with lastSeenBlock := head }
  else
    meters

/-- The loop over the logs of a batch counts every signal before it is
pushed. -/
def countSignals (env : PollEnv) (chainId timestampMs : UInt64) : Nat -> List RawLog ->
    SourceMeters -> SourceMeters
  | _, [], meters => meters
  | position, raw :: rest, meters =>
      match normalize raw chainId timestampMs (env.scratch position) with
      | .error _ => meters
      | .ok _ =>
          countSignals env chainId timestampMs (position + 1) rest
            { meters with signalsNormalized := meters.signalsNormalized + 1 }

def showBatch (source : EventSource) (env : PollEnv) (toBlock : UInt64) (logs : List RawLog)
    (meters : SourceMeters) : SourceMeters :=
  let counted := countSignals env source.chainId (batchTimestampMs env toBlock) 0 logs
    { meters with eventsIngested := meters.eventsIngested + logs.length }
  match (pushLogs env source.chainId (batchTimestampMs env toBlock) 0 logs).2 with
  | some _ => counted
  | none => { counted with lastProcessedBlock := toBlock }

/-- The metrics behind a poll. -/
def pollMeters (source : EventSource) (env : PollEnv) (meters : SourceMeters) : SourceMeters :=
  match source.refreshHead env with
  | .ok (refreshed, false) =>
      match refreshed.fetchBatch env with
      | some (.ok (toBlock, logs)) => refreshed.showBatch env toBlock logs
          (source.showHead env meters)
      | _ => source.showHead env meters
  | _ => source.showHead env meters

end EventSource

/-- The logs that a poll has fetched. -/
def PollStep.fetched (step : PollStep) : List RawLog :=
  step.batch?.elim [] Prod.snd

namespace EventSource

/-! ## One poll -/

private theorem showHead_counts (source : EventSource) (env : PollEnv) (meters : SourceMeters) :
    (source.showHead env meters).eventsIngested = meters.eventsIngested ∧
      (source.showHead env meters).signalsNormalized = meters.signalsNormalized ∧
      (source.showHead env meters).lastProcessedBlock = meters.lastProcessedBlock := by
  unfold showHead
  repeat' split
  all_goals exact ⟨rfl, rfl, rfl⟩

private theorem countSignals_eq (env : PollEnv) (chainId timestampMs : UInt64) (position : Nat)
    (logs : List RawLog) (meters : SourceMeters) :
    countSignals env chainId timestampMs position logs meters =
      { meters with signalsNormalized :=
          meters.signalsNormalized +
            (pushLogs env chainId timestampMs position logs).1.length } := by
  induction logs generalizing position meters with
  | nil => rfl
  | cons raw rest inductionHypothesis =>
      cases decoded : normalize raw chainId timestampMs (env.scratch position) with
      | error message => simp [countSignals, pushLogs, decoded]
      | ok signal => simp [countSignals, pushLogs, decoded, inductionHypothesis,
          Nat.add_assoc, Nat.add_comm 1]

/-- The cached head is the one shown, cut at the end of a backtest. -/
private theorem head_of_refresh {source : EventSource} (env : PollEnv) {meters : SourceMeters}
    (shown : source.cachedChainHead = clampHead source.config meters.lastSeenBlock) :
    match source.refreshHead env with
    | .error _ => source.cachedChainHead = clampHead source.config
        (source.showHead env meters).lastSeenBlock
    | .ok (refreshed, _) => refreshed.config = source.config ∧
        refreshed.cachedChainHead = clampHead source.config
          (source.showHead env meters).lastSeenBlock := by
  unfold refreshHead showHead
  by_cases asked : (source.cachedChainHead = 0 || source.cachedChainHead < source.nextBlock) = true
  · rw [if_pos asked, if_pos asked]
    cases env.latestBlock with
    | error cause => exact shown
    | ok head =>
        cases cold : source.coldStart with
        | true => exact ⟨rfl, rfl⟩
        | false => exact ⟨rfl, rfl⟩
  · rw [if_neg asked, if_neg asked]
    exact ⟨rfl, shown⟩

/-- The batch shows its last block when it is completed, and never a head. -/
private theorem showBatch_blocks (source : EventSource) (env : PollEnv) (toBlock : UInt64)
    (logs : List RawLog) (meters : SourceMeters) :
    (source.showBatch env toBlock logs meters).lastSeenBlock = meters.lastSeenBlock ∧
      (source.showBatch env toBlock logs meters).lastProcessedBlock =
        if (source.pushBatch env toBlock logs).outcome.range?.isSome then toBlock
          else meters.lastProcessedBlock := by
  unfold showBatch pushBatch
  rw [countSignals_eq]
  rcases pushLogs env source.chainId (batchTimestampMs env toBlock) 0 logs with ⟨signals, cause⟩
  cases cause with
  | none => exact ⟨rfl, rfl⟩
  | some message => exact ⟨rfl, rfl⟩

/-- What the block numbers behind a poll show. -/
private theorem pollMeters_blocks {source : EventSource} (env : PollEnv) {meters : SourceMeters}
    (shown : source.cachedChainHead = clampHead source.config meters.lastSeenBlock) :
    (source.pollOnce env).source.cachedChainHead =
        clampHead source.config (source.pollMeters env meters).lastSeenBlock ∧
      (source.pollMeters env meters).lastSeenBlock = (source.showHead env meters).lastSeenBlock ∧
      match (source.pollOnce env).outcome with
      | .completed _ toBlock _ => (source.pollMeters env meters).lastProcessedBlock = toBlock
      | _ => (source.pollMeters env meters).lastProcessedBlock = meters.lastProcessedBlock := by
  have refreshed := head_of_refresh env shown
  have kept := (showHead_counts source env meters).2.2
  rcases pollOnce_cases source env with
    ⟨message, failed, result⟩ | ⟨next, head, result⟩ | ⟨next, head, batch⟩
  · rw [failed] at refreshed
    rw [result, pollMeters, failed]
    exact ⟨refreshed, rfl, kept⟩
  · rw [head] at refreshed
    rw [result, pollMeters, head]
    exact ⟨refreshed.2, rfl, kept⟩
  · rw [head] at refreshed
    rw [pollMeters, head]
    dsimp only
    rcases batch with ⟨fetched, result⟩ | ⟨message, fetched, result⟩
      | ⟨toBlock, logs, fetched, result⟩
    · rw [fetched, result]
      exact ⟨refreshed.2, rfl, kept⟩
    · rw [fetched, result]
      exact ⟨refreshed.2, rfl, kept⟩
    · have blocks := showBatch_blocks next env toBlock logs (source.showHead env meters)
      rw [fetched, result]
      dsimp only
      rw [blocks.1, blocks.2]
      rcases pushBatch_spec next env toBlock logs
        with ⟨_, ⟨_, behind, completed⟩ | ⟨_, message, threw⟩⟩
      · rw [completed]
        refine ⟨?_, rfl, rfl⟩
        rw [← refreshed.2, pushBatch]
        split
        · rfl
        · rfl
      · rw [threw]
        refine ⟨?_, rfl, kept⟩
        rw [← refreshed.2, pushBatch]
        split
        · rfl
        · rfl

/-! ## The counters of a run -/

/-- What the block numbers show, given whether a range has been completed. -/
structure Shows (source : EventSource) (meters : SourceMeters) (completed : Bool) : Prop where
  head : source.cachedChainHead = clampHead source.config meters.lastSeenBlock
  processed : if completed then
      meters.lastProcessedBlock.toNat + 1 = source.nextBlock.toNat ∧ source.coldStart = false
    else meters.lastProcessedBlock = 0

private theorem Shows.pollOnce {source : EventSource} {env : PollEnv} {meters : SourceMeters}
    {completed : Bool} (shows : source.Shows meters completed) (sound : source.Sound)
    (heads : HeadsBelow env) :
    (source.pollOnce env).source.Shows (source.pollMeters env meters)
      (completed || (source.pollOnce env).outcome.range?.isSome) := by
  have blocks := pollMeters_blocks env shows.head
  rcases pollOnce_cursor sound heads with ⟨_, sameConfig, move⟩
  have processed := shows.processed
  have kept := blocks.2.2
  refine ⟨by rw [sameConfig]; exact blocks.1, ?_⟩
  cases move with
  | stays unfinished unmoved staysWarm staysCold =>
      have same : (source.pollMeters env meters).lastProcessedBlock =
          meters.lastProcessedBlock := by
        cases ended : (source.pollOnce env).outcome with
        | completed fromBlock toBlock behind =>
            rw [ended] at unfinished
            cases unfinished
        | idle | threw message =>
            rw [ended] at kept
            exact kept
      rw [unfinished, Option.isSome_none, Bool.or_false, same, unmoved]
      cases completed with
      | true => exact ⟨processed.1, staysWarm processed.2⟩
      | false => exact processed
  | jumps head answer idle cold live moved warm =>
      rw [idle] at kept ⊢
      cases completed with
      | true => exact absurd cold (by rw [processed.2]; decide)
      | false => exact kept.trans processed
  | advances toBlock behind warm staysWarm finished nonempty known short moved =>
      rw [finished] at kept ⊢
      change if (completed || true) = true then _ else _
      rw [Bool.or_true, if_pos rfl, kept, moved]
      exact ⟨rfl, staysWarm⟩

end EventSource

end Events
end RiskSentinel
