import RiskSentinel.Events.Normalize

namespace RiskSentinel
namespace Events

open Foundation Risk

/-!
# Polling the chain

The event source walks over the chain in block ranges.  One call of
`poll_once` refreshes the head when the cursor has passed it, chooses a range,
shrinks it while the node refuses to answer, normalizes and pushes the logs
one after another, and moves the cursor only after the last push.

Everything the node and the clocks answer during one call is a parameter of
that call.  A call asks for strictly smaller ranges on each retry, so a
function of the range covers every behaviour of the node.
-/

structure EventSourceConfig where
  startBlock : UInt64 := 0
  maxBlockRange : UInt64 := 1000
  minBlockRange : UInt64 := 1
  backtestEndBlock : UInt64 := 0
deriving DecidableEq, Repr

/-- The answers a call of `poll_once` gets: from the node, from the system
clock if the block's time is unknown, and per log from the steady clock.
`scratch` is the uninitialised hash buffer that `normalize` writes over. -/
structure PollEnv where
  latestBlock : Except String UInt64
  getLogs : UInt64 -> UInt64 -> Except String (List RawLog)
  blockTimestamp : UInt64 -> Except String UInt64
  systemClockMs : UInt64
  steadyClockMs : Nat -> UInt64
  scratch : Nat -> Bytes 32

structure EventSource where
  config : EventSourceConfig
  chainId : UInt64
  nextBlock : UInt64
  coldStart : Bool
  cachedChainHead : UInt64
deriving DecidableEq, Repr

/-- How a call of `poll_once` ends. -/
inductive PollOutcome where
  | threw (message : String)
  | idle
  | completed (fromBlock toBlock : UInt64) (behind : Bool)
deriving DecidableEq, Repr

/-- The block range of a call that completed. -/
def PollOutcome.range? : PollOutcome -> Option (Nat × Nat)
  | .completed fromBlock toBlock _ => some (fromBlock.toNat, toBlock.toNat)
  | _ => none

structure PollResult where
  source : EventSource
  pushed : List Signal
  outcome : PollOutcome

namespace EventSource

/-- The constructor. -/
def create (config : EventSourceConfig) (chainId : UInt64) : EventSource where
  config := config
  chainId := chainId
  nextBlock := config.startBlock
  coldStart := config.startBlock == 0
  cachedChainHead := 0

theorem halved_lt (range least : UInt64) (large : ¬ range ≤ least) :
    (max (range / 2) least).toNat < range.toNat := by
  have above := UInt64.lt_iff_toNat_lt.mp (UInt64.not_le.mp large)
  have half : (range / 2).toNat = range.toNat / 2 := UInt64.toNat_div range 2
  rw [UInt64.toNat_max, half]
  omega

/-- The retry loop around `getLogs`, for a number of turns: the last block of
the range that was answered, and its logs. -/
def fetchTurns (env : PollEnv) (nextBlock minBlockRange : UInt64) :
    Nat -> UInt64 -> Except String (UInt64 × List RawLog)
  | 0, _ => .error "Persistent RPC failure even with min_range"
  | turns + 1, range =>
      let toBlock := nextBlock + range - 1
      match env.getLogs nextBlock toBlock with
      | .ok logs => .ok (toBlock, logs)
      | .error _ =>
          if range ≤ minBlockRange then
            .error "Persistent RPC failure even with min_range"
          else
            fetchTurns env nextBlock minBlockRange turns (max (range / 2) minBlockRange)

/-- The retry loop.  The range shrinks on every turn, so it never needs more
turns than the range has blocks. -/
def fetchLogs (env : PollEnv) (nextBlock minBlockRange range : UInt64) :
    Except String (UInt64 × List RawLog) :=
  fetchTurns env nextBlock minBlockRange (range.toNat + 1) range

private theorem fetchTurns_enough (env : PollEnv) (nextBlock minBlockRange : UInt64)
    (turns more : Nat) (range : UInt64) (enough : range.toNat < turns) (larger : turns ≤ more) :
    fetchTurns env nextBlock minBlockRange turns range =
      fetchTurns env nextBlock minBlockRange more range := by
  induction turns generalizing more range with
  | zero => exact absurd enough (Nat.not_lt_zero _)
  | succ turns inductionHypothesis =>
      cases more with
      | zero => exact absurd larger (Nat.not_succ_le_zero _)
      | succ more =>
          simp only [fetchTurns]
          cases env.getLogs nextBlock (nextBlock + range - 1) with
          | ok logs => rfl
          | error cause =>
              dsimp only
              by_cases smallest : range ≤ minBlockRange
              · rw [if_pos smallest, if_pos smallest]
              · rw [if_neg smallest, if_neg smallest]
                have shorter := halved_lt range minBlockRange smallest
                exact inductionHypothesis more _ (by omega) (Nat.le_of_succ_le_succ larger)

/-- The loop without its turns: it ends only by an answer or at the smallest
range. -/
theorem fetchLogs_eq (env : PollEnv) (nextBlock minBlockRange range : UInt64) :
    fetchLogs env nextBlock minBlockRange range =
      match env.getLogs nextBlock (nextBlock + range - 1) with
      | .ok logs => .ok (nextBlock + range - 1, logs)
      | .error _ =>
          if range ≤ minBlockRange then
            .error "Persistent RPC failure even with min_range"
          else
            fetchLogs env nextBlock minBlockRange (max (range / 2) minBlockRange) := by
  conv_lhs => rw [fetchLogs, fetchTurns]
  cases env.getLogs nextBlock (nextBlock + range - 1) with
  | ok logs => rfl
  | error cause =>
      dsimp only
      by_cases smallest : range ≤ minBlockRange
      · rw [if_pos smallest, if_pos smallest]
      · rw [if_neg smallest, if_neg smallest]
        have shorter := halved_lt range minBlockRange smallest
        exact (fetchTurns_enough env nextBlock minBlockRange _ _ _
          (Nat.lt_succ_self _) shorter).symm

/-- The time of the batch: that of its last block, or the system clock. -/
def batchTimestampMs (env : PollEnv) (toBlock : UInt64) : UInt64 :=
  match env.blockTimestamp toBlock with
  | .ok seconds => seconds * 1000
  | .error _ => env.systemClockMs

/-- The loop over the logs of a batch: the signals pushed before it ended,
and the exception that ended it early. -/
def pushLogs (env : PollEnv) (chainId timestampMs : UInt64) : Nat -> List RawLog ->
    List Signal × Option String
  | _, [] => ([], none)
  | position, raw :: rest =>
      match normalize raw chainId timestampMs (env.scratch position) with
      | .error message => ([], some message)
      | .ok signal =>
          let stamped := { signal with
            signalMeta := { signal.signalMeta
              with internalIngressTimeMs := env.steadyClockMs position } }
          let others := pushLogs env chainId timestampMs (position + 1) rest
          (stamped :: others.1, others.2)

/-- The batch that a call asks for once the head is known, `none` when the
cursor is past the head. -/
def fetchBatch (source : EventSource) (env : PollEnv) :
    Option (Except String (UInt64 × List RawLog)) :=
  if source.cachedChainHead < source.nextBlock then
    none
  else
    let distance := source.cachedChainHead - source.nextBlock + 1
    let range := max (min source.config.maxBlockRange distance) source.config.minBlockRange
    some (fetchLogs env source.nextBlock source.config.minBlockRange range)

/-- Push a batch, and move the cursor behind it unless a log was rejected. -/
def pushBatch (source : EventSource) (env : PollEnv) (toBlock : UInt64)
    (logs : List RawLog) : PollResult :=
  let batch := pushLogs env source.chainId (batchTimestampMs env toBlock) 0 logs
  match batch.2 with
  | some message => ⟨source, batch.1, .threw message⟩
  | none =>
      ⟨{ source with nextBlock := toBlock + 1 }, batch.1,
        .completed source.nextBlock toBlock (toBlock + 1 ≤ source.cachedChainHead)⟩

/-- The part of `poll_once` after the head is known. -/
def pollRange (source : EventSource) (env : PollEnv) : PollResult :=
  match source.fetchBatch env with
  | none => ⟨source, [], .idle⟩
  | some (.error message) => ⟨source, [], .threw message⟩
  | some (.ok (toBlock, logs)) => source.pushBatch env toBlock logs

/-- The head as the source caches it, cut at the end of a backtest. -/
def clampHead (config : EventSourceConfig) (head : UInt64) : UInt64 :=
  if config.backtestEndBlock != 0 then min head config.backtestEndBlock else head

/-- A cold start jumps to the head in live mode and stays in a backtest. -/
def leaveColdStart (source : EventSource) : EventSource :=
  { source with
    nextBlock := if source.config.backtestEndBlock == 0 then source.cachedChainHead
      else source.nextBlock
    coldStart := false }

/-- The first part of `poll_once`: the source with a fresh head, and whether
a cold start ends the call here. -/
def refreshHead (source : EventSource) (env : PollEnv) : Except String (EventSource × Bool) :=
  if source.cachedChainHead = 0 || source.cachedChainHead < source.nextBlock then
    match env.latestBlock with
    | .error cause => .error ("latestBlock failed: " ++ cause)
    | .ok head =>
        let refreshed := { source with cachedChainHead := clampHead source.config head }
        if source.coldStart then .ok (refreshed.leaveColdStart, true) else .ok (refreshed, false)
  else
    .ok (source, false)

def pollOnce (source : EventSource) (env : PollEnv) : PollResult :=
  match source.refreshHead env with
  | .error message => ⟨source, [], .threw message⟩
  | .ok (refreshed, true) => ⟨refreshed, [], .idle⟩
  | .ok (refreshed, false) => refreshed.pollRange env

/-- The test at the head of the loop of `run`. -/
def isExhausted (source : EventSource) : Bool :=
  source.config.backtestEndBlock != 0 && decide (source.config.backtestEndBlock < source.nextBlock)

/-! ## One poll -/

/-- A fetched range starts at the cursor, has at least one block and at most
the blocks asked for, and its logs are the node's answer for it. -/
theorem fetchLogs_ok {env : PollEnv} {nextBlock range toBlock : UInt64} {logs : List RawLog}
    (fetched : fetchLogs env nextBlock 1 range = .ok (toBlock, logs)) (positive : 1 ≤ range.toNat)
    (fits : nextBlock.toNat + range.toNat ≤ 2 ^ 64) :
    nextBlock.toNat ≤ toBlock.toNat ∧ toBlock.toNat < nextBlock.toNat + range.toNat ∧
      env.getLogs nextBlock toBlock = .ok logs := by
  induction range using WellFounded.induction (measure UInt64.toNat).wf with
  | _ range inductionHypothesis =>
      have last : (nextBlock + range - 1).toNat = nextBlock.toNat + range.toNat - 1 := by
        rw [UInt64.toNat_sub, UInt64.toNat_add]
        have one : (1 : UInt64).toNat = 1 := rfl
        omega
      rw [fetchLogs_eq] at fetched
      cases answer : env.getLogs nextBlock (nextBlock + range - 1) with
      | ok found =>
          rw [answer] at fetched
          cases fetched
          exact ⟨by omega, by omega, answer⟩
      | error cause =>
          rw [answer] at fetched
          dsimp only at fetched
          by_cases smallest : range ≤ 1
          · rw [if_pos smallest] at fetched
            cases fetched
          · rw [if_neg smallest] at fetched
            have shorter := halved_lt range 1 smallest
            have least : 1 ≤ (max (range / 2) 1).toNat := by
              rw [UInt64.toNat_max]
              exact Nat.le_max_right _ _
            have smaller := inductionHypothesis (max (range / 2) 1) shorter fetched least (by omega)
            exact ⟨smaller.1, by omega, smaller.2.2⟩

/-- What holds of a source at every head of its loop, with the smallest range
that both programs use and heads below the largest block number. -/
structure Sound (source : EventSource) : Prop where
  minBlockRange : source.config.minBlockRange = 1
  headBelow : source.cachedChainHead.toNat < 2 ^ 64 - 1
  headWithin : source.config.backtestEndBlock ≠ 0 ->
    source.cachedChainHead ≤ source.config.backtestEndBlock
  coldHead : source.coldStart = true -> source.cachedChainHead = 0

theorem create_sound (config : EventSourceConfig) (chainId : UInt64)
    (smallest : config.minBlockRange = 1) : (create config chainId).Sound where
  minBlockRange := smallest
  headBelow := by
    change (0 : UInt64).toNat < 2 ^ 64 - 1
    decide
  headWithin := fun _ => UInt64.zero_le
  coldHead := fun _ => rfl

/-- The node reports heads below the largest block number. -/
def HeadsBelow (env : PollEnv) : Prop :=
  forall head, env.latestBlock = .ok head -> head.toNat < 2 ^ 64 - 1

private theorem clampHead_le (config : EventSourceConfig) (head : UInt64) :
    (clampHead config head).toNat ≤ head.toNat ∧
      (config.backtestEndBlock ≠ 0 -> clampHead config head ≤ config.backtestEndBlock) := by
  unfold clampHead
  by_cases live : config.backtestEndBlock = 0
  · rw [if_neg (by simp [live])]
    exact ⟨Nat.le_refl _, fun backtest => absurd live backtest⟩
  · rw [if_pos (by simp [live]), UInt64.le_iff_toNat_le, UInt64.toNat_min]
    exact ⟨Nat.min_le_left _ _, fun _ => Nat.min_le_right _ _⟩

theorem clampHead_le_head (config : EventSourceConfig) (head : UInt64) :
    clampHead config head ≤ head :=
  UInt64.le_iff_toNat_le.mpr (clampHead_le config head).1

/-- The three ways in which the head can be refreshed without an exception. -/
theorem refreshHead_cases {source refreshed : EventSource} {env : PollEnv} {stop : Bool}
    (result : source.refreshHead env = .ok (refreshed, stop)) (sound : source.Sound) :
    (stop = false ∧ source.coldStart = false ∧ refreshed = source) ∨
      Exists fun head => env.latestBlock = .ok head ∧
        ((stop = false ∧ source.coldStart = false ∧
            refreshed = { source with cachedChainHead := clampHead source.config head }) ∨
          (stop = true ∧ source.coldStart = true ∧
            refreshed = { source
              with cachedChainHead := clampHead source.config head }.leaveColdStart)) := by
  unfold refreshHead at result
  by_cases asked : (source.cachedChainHead = 0 || source.cachedChainHead < source.nextBlock) = true
  · rw [if_pos asked] at result
    cases answer : env.latestBlock with
    | error cause =>
        rw [answer] at result
        cases result
    | ok head =>
        rw [answer] at result
        refine Or.inr ⟨head, rfl, ?_⟩
        cases cold : source.coldStart with
        | true =>
            simp only [cold, if_true, Except.ok.injEq, Prod.mk.injEq] at result
            exact Or.inr ⟨result.2.symm, rfl, by rw [← result.1]⟩
        | false =>
            simp only [cold, Bool.false_eq_true, if_false, Except.ok.injEq, Prod.mk.injEq] at result
            exact Or.inl ⟨result.2.symm, rfl, by rw [← result.1]⟩
  · rw [if_neg asked] at result
    cases result
    refine Or.inl ⟨rfl, ?_, rfl⟩
    cases cold : source.coldStart with
    | false => rfl
    | true => exact False.elim (asked (by simp [sound.coldHead cold]))

theorem refreshHead_error {source : EventSource} {env : PollEnv} {message : String}
    (result : source.refreshHead env = .error message) : Exists fun cause =>
    env.latestBlock = .error cause := by
  unfold refreshHead at result
  cases answer : env.latestBlock with
  | error cause => exact ⟨cause, rfl⟩
  | ok head =>
      rw [answer] at result
      dsimp only at result
      repeat' split at result
      all_goals cases result

/-- Without a cold start only the head can change. -/
theorem refreshHead_warm {source refreshed : EventSource} {env : PollEnv} (sound : source.Sound)
    (result : source.refreshHead env = .ok (refreshed, false)) :
    source.coldStart = false ∧
      refreshed = { source with cachedChainHead := refreshed.cachedChainHead } := by
  rcases refreshHead_cases result sound with ⟨_, warm, rfl⟩
    | ⟨head, answer, ⟨_, warm, rfl⟩ | ⟨impossible, _, _⟩⟩
  · exact ⟨warm, rfl⟩
  · exact ⟨warm, rfl⟩
  · cases impossible

/-- Refreshing the head keeps the source sound. -/
theorem Sound.refreshHead {source refreshed : EventSource} {env : PollEnv} {stop : Bool}
    (sound : source.Sound) (heads : HeadsBelow env)
    (result : source.refreshHead env = .ok (refreshed, stop)) : refreshed.Sound := by
  rcases refreshHead_cases result sound with ⟨_, _, rfl⟩
    | ⟨head, answer, ⟨_, warm, rfl⟩ | ⟨_, _, rfl⟩⟩
  · exact sound
  · have bounds := clampHead_le source.config head
    exact ⟨sound.minBlockRange, Nat.lt_of_le_of_lt bounds.1 (heads head answer), bounds.2,
      fun cold => absurd cold (by simp [warm])⟩
  · have bounds := clampHead_le source.config head
    exact ⟨sound.minBlockRange, Nat.lt_of_le_of_lt bounds.1 (heads head answer), bounds.2,
      fun cold => by cases cold⟩

/-- A batch that is fetched reaches from the cursor at most to the cached
head, and is no longer than the configuration allows. -/
theorem fetchBatch_ok {source : EventSource} {env : PollEnv} {toBlock : UInt64} {logs : List RawLog}
    (sound : source.Sound) (fetched : source.fetchBatch env = some (.ok (toBlock, logs))) :
    source.nextBlock ≤ toBlock ∧ toBlock ≤ source.cachedChainHead ∧
      toBlock.toNat + 1 - source.nextBlock.toNat ≤ max source.config.maxBlockRange.toNat 1 ∧
      env.getLogs source.nextBlock toBlock = .ok logs := by
  unfold fetchBatch at fetched
  by_cases past : source.cachedChainHead < source.nextBlock
  · rw [if_pos past] at fetched
    cases fetched
  · rw [if_neg past] at fetched
    have reached : source.nextBlock.toNat ≤ source.cachedChainHead.toNat :=
      UInt64.le_iff_toNat_le.mp (UInt64.not_lt.mp past)
    have below := sound.headBelow
    have distance : (source.cachedChainHead - source.nextBlock + 1).toNat =
        source.cachedChainHead.toNat - source.nextBlock.toNat + 1 := by
      rw [UInt64.toNat_add, UInt64.toNat_sub_of_le _ _ (UInt64.not_lt.mp past)]
      have one : (1 : UInt64).toNat = 1 := rfl
      omega
    have asked : (max (min source.config.maxBlockRange
          (source.cachedChainHead - source.nextBlock + 1)) 1).toNat =
        max (min source.config.maxBlockRange.toNat
          (source.cachedChainHead.toNat - source.nextBlock.toNat + 1)) 1 := by
      rw [UInt64.toNat_max, UInt64.toNat_min, distance]
      rfl
    rw [sound.minBlockRange] at fetched
    have range := fetchLogs_ok (Option.some.inj fetched) (by omega) (by omega)
    rw [UInt64.le_iff_toNat_le, UInt64.le_iff_toNat_le]
    exact ⟨range.1, by omega, by omega, range.2.2⟩

/-- Everything one call can do: fail to read the head, leave a cold start,
find nothing to do, fail to fetch, or push a batch. -/
theorem pollOnce_cases (source : EventSource) (env : PollEnv) :
    (Exists fun message => source.refreshHead env = .error message ∧
        source.pollOnce env = ⟨source, [], .threw message⟩) ∨
      (Exists fun refreshed => source.refreshHead env = .ok (refreshed, true) ∧
        source.pollOnce env = ⟨refreshed, [], .idle⟩) ∨
      Exists fun refreshed => source.refreshHead env = .ok (refreshed, false) ∧
        ((refreshed.fetchBatch env = none ∧ source.pollOnce env = ⟨refreshed, [], .idle⟩) ∨
          (Exists fun message => refreshed.fetchBatch env = some (.error message) ∧
            source.pollOnce env = ⟨refreshed, [], .threw message⟩) ∨
          Exists fun toBlock => Exists fun logs =>
          refreshed.fetchBatch env = some (.ok (toBlock, logs)) ∧
            source.pollOnce env = refreshed.pushBatch env toBlock logs) := by
  unfold pollOnce
  rcases source.refreshHead env with message | ⟨refreshed, stop⟩
  · exact Or.inl ⟨message, rfl, rfl⟩
  · cases stop with
    | true => exact Or.inr (Or.inl ⟨refreshed, rfl, rfl⟩)
    | false =>
        refine Or.inr (Or.inr ⟨refreshed, rfl, ?_⟩)
        dsimp only [pollRange]
        rcases refreshed.fetchBatch env with _ | message | ⟨toBlock, logs⟩
        · exact Or.inl ⟨rfl, rfl⟩
        · exact Or.inr (Or.inl ⟨message, rfl, rfl⟩)
        · exact Or.inr (Or.inr ⟨toBlock, logs, rfl, rfl⟩)

/-- What one call does to the cursor.  It stays, possibly ending the cold
start of a backtest; it jumps to the head on a live cold start; or it moves
behind a completed range. -/
inductive CursorMove (source : EventSource) (env : PollEnv) (result : PollResult) : Prop where
  | stays (unfinished : result.outcome.range? = none)
      (unmoved : result.source.nextBlock = source.nextBlock)
      (staysWarm : source.coldStart = false -> result.source.coldStart = false)
      (staysCold : source.coldStart = true -> source.config.backtestEndBlock = 0 ->
        result.source.coldStart = true ∧ Exists fun cause => env.latestBlock = .error cause)
  | jumps (head : UInt64) (answer : env.latestBlock = .ok head) (idle : result.outcome = .idle)
      (cold : source.coldStart = true) (live : source.config.backtestEndBlock = 0)
      (moved : result.source.nextBlock = head) (warm : result.source.coldStart = false)
  | advances (toBlock : UInt64) (behind : Bool) (warm : source.coldStart = false)
      (staysWarm : result.source.coldStart = false)
      (completed : result.outcome = .completed source.nextBlock toBlock behind)
      (nonempty : source.nextBlock ≤ toBlock) (known : toBlock ≤ result.source.cachedChainHead)
      (short : toBlock.toNat + 1 - source.nextBlock.toNat ≤ max source.config.maxBlockRange.toNat 1)
      (moved : result.source.nextBlock.toNat = toBlock.toNat + 1)

private theorem leaveColdStart_move {source : EventSource} {env : PollEnv} {head : UInt64}
    (answer : env.latestBlock = .ok head) (cold : source.coldStart = true) :
    CursorMove source env
      ⟨{ source with cachedChainHead := clampHead source.config head }.leaveColdStart,
        [], .idle⟩ := by
  by_cases live : source.config.backtestEndBlock = 0
  · refine .jumps head answer rfl cold live ?_ rfl
    simp [leaveColdStart, clampHead, live]
  · refine .stays rfl ?_ (fun _ => rfl) (fun _ isLive => absurd isLive live)
    simp [leaveColdStart, live]

/-- A sound source stays sound, keeps its configuration, and moves its cursor
in one of the three ways. -/
theorem pollOnce_cursor {source : EventSource} {env : PollEnv} (sound : source.Sound)
    (heads : HeadsBelow env) :
    (source.pollOnce env).source.Sound ∧ (source.pollOnce env).source.config = source.config ∧
      CursorMove source env (source.pollOnce env) := by
  rcases pollOnce_cases source env with
    ⟨message, failed, result⟩ | ⟨refreshed, head, result⟩ | ⟨refreshed, head, batch⟩
  · rw [result]
    exact ⟨sound, rfl, .stays rfl rfl id fun cold _ => ⟨cold, refreshHead_error failed⟩⟩
  · have stillSound := sound.refreshHead heads head
    rw [result]
    rcases refreshHead_cases head sound with ⟨impossible, _⟩
      | ⟨answered, answer, ⟨impossible, _⟩ | ⟨_, cold, rfl⟩⟩
    · cases impossible
    · cases impossible
    · exact ⟨stillSound, rfl, leaveColdStart_move answer cold⟩
  · have stillSound := sound.refreshHead heads head
    rcases refreshHead_warm sound head with ⟨warm, onlyHead⟩
    have sameNext : refreshed.nextBlock = source.nextBlock := by rw [onlyHead]
    have sameConfig : refreshed.config = source.config := by rw [onlyHead]
    have stillWarm : refreshed.coldStart = false := by
      rw [onlyHead]
      exact warm
    have noColdStart : source.coldStart = true -> source.config.backtestEndBlock = 0 ->
        refreshed.coldStart = true ∧ Exists fun cause => env.latestBlock = .error cause :=
      fun cold => absurd cold (by simp [warm])
    rcases batch with ⟨_, result⟩ | ⟨message, _, result⟩ | ⟨toBlock, logs, fetched, result⟩
    · rw [result]
      exact ⟨stillSound, sameConfig, .stays rfl sameNext (fun _ => stillWarm) noColdStart⟩
    · rw [result]
      exact ⟨stillSound, sameConfig, .stays rfl sameNext (fun _ => stillWarm) noColdStart⟩
    · rw [result]
      unfold pushBatch
      dsimp only
      rcases (pushLogs env refreshed.chainId (batchTimestampMs env toBlock) 0 logs).2
        with _ | message
      · rcases fetchBatch_ok stillSound fetched with ⟨nonempty, known, short, _⟩
        rw [sameNext] at nonempty short
        rw [sameConfig] at short
        have next : (toBlock + 1).toNat = toBlock.toNat + 1 := by
          have bound := stillSound.headBelow
          have order := UInt64.le_iff_toNat_le.mp known
          rw [UInt64.toNat_add]
          have one : (1 : UInt64).toNat = 1 := rfl
          omega
        refine ⟨⟨stillSound.minBlockRange, stillSound.headBelow, stillSound.headWithin,
          stillSound.coldHead⟩,
          sameConfig, .advances toBlock _ warm stillWarm
            (by rw [sameNext]) nonempty known short next⟩
      · exact ⟨stillSound, sameConfig, .stays rfl sameNext (fun _ => stillWarm) noColdStart⟩

/-! ## The loop -/

end EventSource

/-- One turn of the loop of `run`. -/
structure PollStep where
  before : EventSource
  env : PollEnv

def PollStep.result (step : PollStep) : PollResult :=
  step.before.pollOnce step.env

/-- The polls made so far and the source they left. -/
structure SourceRun where
  steps : List PollStep
  final : EventSource

namespace SourceRun

/-- The block ranges of the polls that completed. -/
def ranges (run : SourceRun) : List (Nat × Nat) :=
  run.steps.filterMap fun step => step.result.outcome.range?

/-- The signals pushed to the ring buffer, in order. -/
def pushed (run : SourceRun) : List Signal :=
  run.steps.flatMap fun step => step.result.pushed

end SourceRun

namespace EventSource

/-- The loop of `run` against a sequence of answers.  It ends before the
answers do when the range of a backtest is exhausted. -/
def run : EventSource -> List PollEnv -> SourceRun
  | source, [] => ⟨[], source⟩
  | source, env :: rest =>
      if source.isExhausted then
        ⟨[], source⟩
      else
        let others := run (source.pollOnce env).source rest
        ⟨⟨source, env⟩ :: others.steps, others.final⟩

/-- One more answer is one more poll, unless the loop has ended. -/
theorem run_snoc {source : EventSource} {envs : List PollEnv} (env : PollEnv)
    (all : (source.run envs).steps.length = envs.length)
    (goes : (source.run envs).final.isExhausted = false) :
    source.run (envs ++ [env]) =
      ⟨(source.run envs).steps ++ [⟨(source.run envs).final, env⟩],
        ((source.run envs).final.pollOnce env).source⟩ := by
  induction envs generalizing source with
  | nil =>
      have here : source.isExhausted = false := goes
      simp [run, here]
  | cons first rest inductionHypothesis =>
      cases ended : source.isExhausted with
      | true => simp [run, ended] at all
      | false =>
          simp only [run, ended, Bool.false_eq_true, if_false, List.length_cons,
            Nat.add_right_cancel_iff] at all goes
          simp only [List.cons_append, run, ended, Bool.false_eq_true, if_false,
            inductionHypothesis all goes]

private theorem pushLogs_not_poisonPill (env : PollEnv) (chainId timestampMs : UInt64)
    (position : Nat) (logs : List RawLog) (signal : Signal)
    (member : signal ∈ (pushLogs env chainId timestampMs position logs).1) :
    signal.isPoisonPill = false := by
  induction logs generalizing position with
  | nil => exact (List.not_mem_nil member).elim
  | cons raw rest inductionHypothesis =>
      unfold pushLogs at member
      cases decoded : normalize raw chainId timestampMs (env.scratch position) with
      | error message =>
          rw [decoded] at member
          exact (List.not_mem_nil member).elim
      | ok first =>
          rw [decoded] at member
          rcases List.mem_cons.mp member with same | later
          · have ordinary : first.isPoisonPill = false := normalize_not_poisonPill decoded
            rw [same]
            exact ordinary
          · exact inductionHypothesis (position + 1) later

/-- The source never pushes a stop command. -/
theorem pollOnce_not_poisonPill {source : EventSource} {env : PollEnv} {signal : Signal}
    (member : signal ∈ (source.pollOnce env).pushed) : signal.isPoisonPill = false := by
  have nothing : forall {result : PollResult}, source.pollOnce env = result -> result.pushed = [] ->
      signal.isPoisonPill = false := by
    intro result same none
    rw [same, none] at member
    exact (List.not_mem_nil member).elim
  rcases pollOnce_cases source env with
    ⟨message, _, result⟩ | ⟨refreshed, _, result⟩ |
      ⟨refreshed, _, ⟨_, result⟩ | ⟨message, _, result⟩ | ⟨toBlock, logs, _, result⟩⟩
  · exact nothing result rfl
  · exact nothing result rfl
  · exact nothing result rfl
  · exact nothing result rfl
  · rw [result] at member
    unfold pushBatch at member
    dsimp only at member
    split at member
    · exact pushLogs_not_poisonPill _ _ _ _ _ signal member
    · exact pushLogs_not_poisonPill _ _ _ _ _ signal member

end EventSource

end Events
end RiskSentinel
