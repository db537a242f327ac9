import Mathlib.Data.List.Nodup
import Mathlib.Data.List.TakeWhile
import RiskSentinel.Events.Coverage

namespace RiskSentinel
namespace Events

open Foundation Risk

/-!
# Handing logs over at most once

A poll pushes the logs of its batch one by one and moves the cursor only
after the last.  When `normalize` rejects a log in the middle, the logs before
it are in the ring buffer already, and the retry of the range pushes them
again.  A failure of the node, in contrast, ends the poll before the first
push.

The hand-over is therefore at most once exactly as long as no batch has an
accepted log before a rejected one.
-/

/-- The logs of each block, by block number. -/
abbrev ChainLogs := Nat -> List RawLog

/-- The node answers every range with the logs of its blocks. -/
def PollEnv.AnswersFrom (env : PollEnv) (chain : ChainLogs) : Prop :=
  forall fromBlock toBlock logs, env.getLogs fromBlock toBlock = .ok logs ->
    logs = (intervalPoints (fromBlock.toNat, toBlock.toNat)).flatMap chain

/-- The places of a block's logs on the chain. -/
def logOrigins (chain : ChainLogs) (block : Nat) : List (Nat × Nat) :=
  (List.range (chain block).length).map (Prod.mk block)

/-- The batch that a poll fetched, if it came so far. -/
def PollStep.batch? (step : PollStep) : Option (UInt64 × List RawLog) :=
  match step.before.refreshHead step.env with
  | .ok (refreshed, false) =>
      match refreshed.fetchBatch step.env with
      | some (.ok batch) => some batch
      | _ => none
  | _ => none

/-- The places of the logs that a poll handed over: as many from the
beginning of its batch as it pushed signals. -/
def PollStep.origins (chain : ChainLogs) (step : PollStep) : List (Nat × Nat) :=
  match step.batch? with
  | none => []
  | some (toBlock, _) =>
      ((intervalPoints (step.before.nextBlock.toNat, toBlock.toNat)).flatMap
        (logOrigins chain)).take step.result.pushed.length

def SourceRun.origins (chain : ChainLogs) (run : SourceRun) : List (Nat × Nat) :=
  run.steps.flatMap (PollStep.origins chain)

/-- The signal is what `normalize` makes of the log, which has this position in
the batch, with the time of the batch and that of the push. -/
def PollStep.Makes (step : PollStep) (position : Nat) (raw : RawLog)
    (signal : Signal) : Prop :=
  Exists fun toBlock => Exists fun logs => Exists fun decoded =>
    step.batch? = some (toBlock, logs) ∧ logs[position]? = some raw ∧
      normalize raw step.before.chainId (EventSource.batchTimestampMs step.env toBlock)
        (step.env.scratch position) = .ok decoded ∧
      signal = { decoded with signalMeta := { decoded.signalMeta with
        internalIngressTimeMs := step.env.steadyClockMs position } }

/-- Each signal that is pushed is made of the log of its batch with the same
position. -/
def PollStep.PushesInOrder (step : PollStep) : Prop :=
  forall position signal, step.result.pushed[position]? = some signal ->
    Exists fun raw => step.Makes position raw signal

/-- Each signal that is pushed is made of the log that the chain has at the
place with the same position. -/
def PollStep.HandsOver (chain : ChainLogs) (step : PollStep) : Prop :=
  forall position signal, step.result.pushed[position]? = some signal ->
    Exists fun place => Exists fun raw => (step.origins chain)[position]? = some place ∧
      (chain place.1)[place.2]? = some raw ∧ step.Makes position raw signal

/-- A poll that throws has pushed nothing. -/
def PollStep.ThrowsClean (step : PollStep) : Prop :=
  forall message, step.result.outcome = .threw message -> step.result.pushed = []

/-- No log of the batch is rejected behind one that is accepted. -/
def PollStep.NoLateRejection (step : PollStep) : Prop :=
  forall toBlock first rest, step.batch? = some (toBlock, first :: rest) ->
    isNormalizable first = true ->
    forall raw, raw ∈ rest -> isNormalizable raw = true

namespace EventSource

/-- The loop pushes the signals of the leading logs that are accepted, and
throws exactly if that is not all of them. -/
theorem pushLogs_spec (env : PollEnv) (chainId timestampMs : UInt64) (position : Nat)
    (logs : List RawLog) :
    (pushLogs env chainId timestampMs position logs).1.length =
      (logs.takeWhile isNormalizable).length ∧
      ((pushLogs env chainId timestampMs position logs).2 = none ↔
        logs.all isNormalizable = true) := by
  induction logs generalizing position with
  | nil => simp [pushLogs]
  | cons raw rest inductionHypothesis =>
      have accepted := normalize_isOk raw chainId timestampMs (env.scratch position)
      cases decoded : normalize raw chainId timestampMs (env.scratch position) with
      | error message =>
          rw [decoded] at accepted
          have rejected : isNormalizable raw = false := accepted.symm
          simp [pushLogs, decoded, rejected]
      | ok signal =>
          rw [decoded] at accepted
          have isAccepted : isNormalizable raw = true := accepted.symm
          simp [pushLogs, decoded, isAccepted, inductionHypothesis]

/-- What the loop pushes at a position is made of the log at this position. -/
private theorem pushLogs_getElem? (env : PollEnv) (chainId timestampMs : UInt64)
    (offset position : Nat) (logs : List RawLog) {signal : Signal}
    (pushed : (pushLogs env chainId timestampMs offset logs).1[position]? = some signal) :
    Exists fun raw => Exists fun decoded => logs[position]? = some raw ∧
      normalize raw chainId timestampMs (env.scratch (offset + position)) = .ok decoded ∧
      signal = { decoded with signalMeta := { decoded.signalMeta with
        internalIngressTimeMs := env.steadyClockMs (offset + position) } } := by
  induction logs generalizing offset position with
  | nil => cases pushed
  | cons raw rest inductionHypothesis =>
      cases decoded : normalize raw chainId timestampMs (env.scratch offset) with
      | error message =>
          simp only [pushLogs, decoded] at pushed
          cases pushed
      | ok first =>
          simp only [pushLogs, decoded] at pushed
          cases position with
          | zero =>
              cases Option.some.inj pushed
              exact ⟨raw, first, rfl, decoded, rfl⟩
          | succ position =>
              rw [List.getElem?_cons_succ] at pushed
              rcases inductionHypothesis (offset + 1) position pushed with
                ⟨later, made, listed, accepted, same⟩
              rw [Nat.add_right_comm] at accepted same
              exact ⟨later, made, listed, accepted, same⟩

/-- A poll pushes exactly what the loop over its batch pushes. -/
theorem pollOnce_pushed (step : PollStep) :
    match step.batch? with
    | none => step.result.pushed = [] ∧ step.result.outcome.range? = none
    | some (toBlock, logs) => Exists fun refreshed =>
        step.before.refreshHead step.env = .ok (refreshed, false) ∧
          refreshed.fetchBatch step.env = some (.ok (toBlock, logs)) ∧
          step.result = refreshed.pushBatch step.env toBlock logs := by
  unfold PollStep.batch? PollStep.result
  rcases pollOnce_cases step.before step.env with
    ⟨message, failed, result⟩ | ⟨refreshed, head, result⟩ | ⟨refreshed, head, batch⟩
  · rw [failed, result]
    exact ⟨rfl, rfl⟩
  · rw [head, result]
    exact ⟨rfl, rfl⟩
  · rw [head]
    rcases batch with ⟨fetched, result⟩ | ⟨message, fetched, result⟩
      | ⟨toBlock, logs, fetched, result⟩
    · dsimp only
      rw [fetched, result]
      exact ⟨rfl, rfl⟩
    · dsimp only
      rw [fetched, result]
      exact ⟨rfl, rfl⟩
    · dsimp only
      rw [fetched]
      exact ⟨refreshed, rfl, fetched, result⟩

/-- Refreshing the head keeps the chain. -/
private theorem chainId_refreshHead {source refreshed : EventSource} {env : PollEnv} {stop : Bool}
    (result : source.refreshHead env = .ok (refreshed, stop)) :
    refreshed.chainId = source.chainId := by
  unfold refreshHead at result
  repeat' split at result
  all_goals
    cases result
    try rfl

/-- A poll pushes the signals of its batch in order. -/
theorem pollOnce_inOrder (step : PollStep) : step.PushesInOrder := by
  intro position signal listed
  have pushed := pollOnce_pushed step
  cases batch : step.batch? with
  | none =>
      rw [batch] at pushed
      rw [pushed.1] at listed
      cases listed
  | some fetched =>
      rcases fetched with ⟨toBlock, logs⟩
      rw [batch] at pushed
      rcases pushed with ⟨refreshed, head, _, result⟩
      have loop : step.result.pushed = (pushLogs step.env step.before.chainId
          (batchTimestampMs step.env toBlock) 0 logs).1 := by
        rw [result, pushBatch, chainId_refreshHead head]
        split
        · rfl
        · rfl
      rw [loop] at listed
      rcases pushLogs_getElem? _ _ _ 0 position logs listed
        with ⟨raw, decoded, here, accepted, same⟩
      rw [Nat.zero_add] at accepted same
      exact ⟨raw, toBlock, logs, decoded, batch, here, accepted, same⟩

/-- A batch is pushed up to its first rejected log.  It completes if there
is none and throws otherwise. -/
theorem pushBatch_spec (source : EventSource) (env : PollEnv) (toBlock : UInt64)
    (logs : List RawLog) :
    (source.pushBatch env toBlock logs).pushed.length = (logs.takeWhile isNormalizable).length ∧
      ((logs.all isNormalizable = true ∧ Exists fun behind =>
          (source.pushBatch env toBlock logs).outcome =
            .completed source.nextBlock toBlock behind) ∨
        (logs.all isNormalizable = false ∧ Exists fun message =>
          (source.pushBatch env toBlock logs).outcome = .threw message)) := by
  have spec := pushLogs_spec env source.chainId (batchTimestampMs env toBlock) 0 logs
  unfold pushBatch
  dsimp only
  cases ended : (pushLogs env source.chainId (batchTimestampMs env toBlock) 0 logs).2 with
  | none => exact ⟨spec.1, Or.inl ⟨spec.2.mp ended, _, rfl⟩⟩
  | some message =>
      refine ⟨spec.1, Or.inr ⟨?_, message, rfl⟩⟩
      rw [Bool.eq_false_iff]
      intro all
      rw [spec.2.mpr all] at ended
      cases ended

/-- A poll throws with signals already pushed exactly when its batch has an
accepted log before a rejected one. -/
theorem throwsClean_iff (step : PollStep) : step.ThrowsClean ↔ step.NoLateRejection := by
  have pushed := pollOnce_pushed step
  unfold PollStep.ThrowsClean PollStep.NoLateRejection
  rcases batch : step.batch? with _ | ⟨toBlock, logs⟩
  · rw [batch] at pushed
    exact ⟨fun _ _ _ _ impossible => (Option.some_ne_none _ impossible.symm).elim,
      fun _ _ _ => pushed.1⟩
  · rw [batch] at pushed
    rcases pushed with ⟨refreshed, _, _, result⟩
    have spec := pushBatch_spec refreshed step.env toBlock logs
    rw [← result] at spec
    constructor
    · intro clean last first rest same accepted raw member
      cases same
      rcases spec.2 with ⟨all, _⟩ | ⟨_, message, threw⟩
      · exact List.all_eq_true.mp all raw (List.mem_cons_of_mem _ member)
      · have length := spec.1
        rw [clean message threw, List.takeWhile_cons_of_pos accepted] at length
        cases length
    · intro noLate message threw
      rcases spec.2 with ⟨_, behind, completed⟩ | ⟨someRejected, _, _⟩
      · rw [completed] at threw
        cases threw
      · cases logs with
        | nil => cases someRejected
        | cons first rest =>
            have firstRejected : isNormalizable first = false := by
              rw [Bool.eq_false_iff]
              intro accepted
              have all : (first :: rest).all isNormalizable = true := by
                rw [List.all_cons, accepted, Bool.true_and]
                exact List.all_eq_true.mpr (noLate toBlock first rest rfl accepted)
              rw [all] at someRejected
              cases someRejected
            have length := spec.1
            rw [List.takeWhile_cons_of_neg (by rw [firstRejected]; decide)] at length
            exact List.length_eq_zero_iff.mp length

/-- As long as no log is rejected late, a poll hands over all logs of its
completed range, or none. -/
theorem origins_eq {chain : ChainLogs} {step : PollStep} (sound : step.before.Sound)
    (heads : HeadsBelow step.env) (answers : step.env.AnswersFrom chain)
    (noLate : step.NoLateRejection) :
    step.origins chain =
      (step.result.outcome.range?.toList.flatMap intervalPoints).flatMap (logOrigins chain) := by
  have clean := (throwsClean_iff step).mpr noLate
  have pushed := pollOnce_pushed step
  unfold PollStep.origins
  rcases batch : step.batch? with _ | ⟨toBlock, logs⟩
  · rw [batch] at pushed
    rw [pushed.2]
    rfl
  · rw [batch] at pushed
    rcases pushed with ⟨refreshed, head, fetched, result⟩
    have sameNext : refreshed.nextBlock = step.before.nextBlock := by
      rw [(refreshHead_warm sound head).2]
    have answered := (fetchBatch_ok (sound.refreshHead heads head) fetched).2.2.2
    rw [sameNext] at answered
    have spec := pushBatch_spec refreshed step.env toBlock logs
    rw [← result] at spec
    dsimp only
    rcases spec.2 with ⟨all, behind, completed⟩ | ⟨_, message, threw⟩
    · have everything : step.result.pushed.length = ((intervalPoints
          (step.before.nextBlock.toNat, toBlock.toNat)).flatMap (logOrigins chain)).length := by
        rw [spec.1, List.takeWhile_eq_self_iff.mpr (List.all_eq_true.mp all),
          answers _ _ _ answered]
        simp [logOrigins, List.length_flatMap]
      rw [everything, List.take_length, completed, sameNext]
      simp [PollOutcome.range?]
    · rw [threw, clean message threw]
      rfl

/-- At the places of the blocks stand their logs. -/
private theorem logs_at_origins (chain : ChainLogs) (blocks : List Nat) :
    (blocks.flatMap (logOrigins chain)).map (fun place => (chain place.1)[place.2]?) =
      (blocks.flatMap chain).map some := by
  rw [List.map_flatMap, List.map_flatMap]
  congr 1
  funext block
  rw [logOrigins, List.map_map]
  apply List.ext_getElem?
  intro index
  rw [List.getElem?_map, List.getElem?_map]
  cases found : (chain block)[index]? with
  | none =>
      have past := List.getElem?_eq_none_iff.mp found
      rw [List.getElem?_eq_none (by rw [List.length_range]; exact past)]
      rfl
  | some raw =>
      rw [List.getElem?_range (List.getElem?_eq_some_iff.mp found).1]
      exact congrArg some found

/-- When the node answers with the logs of the chain, the places of a poll are
those of the logs that it has pushed. -/
theorem pollOnce_handsOver {chain : ChainLogs} {step : PollStep} (sound : step.before.Sound)
    (heads : HeadsBelow step.env) (answers : step.env.AnswersFrom chain) :
    step.HandsOver chain := by
  intro position signal listed
  rcases pollOnce_inOrder step position signal listed with ⟨raw, made⟩
  rcases made with ⟨toBlock, logs, decoded, batch, here, accepted, same⟩
  have pushed := pollOnce_pushed step
  rw [batch] at pushed
  rcases pushed with ⟨refreshed, head, fetched, _⟩
  have answered := (fetchBatch_ok (sound.refreshHead heads head) fetched).2.2.2
  have sameNext : refreshed.nextBlock = step.before.nextBlock := by
    rw [(refreshHead_warm sound head).2]
  rw [sameNext] at answered
  have places := congrArg (fun found => found[position]?) (logs_at_origins chain
    (intervalPoints (step.before.nextBlock.toNat, toBlock.toNat)))
  rw [← answers _ _ _ answered, List.getElem?_map, List.getElem?_map, here] at places
  rcases Option.map_eq_some_iff.mp places with ⟨place, found, stands⟩
  refine ⟨place, raw, ?_, stands, toBlock, logs, decoded, batch, here, accepted, same⟩
  rw [PollStep.origins, batch]
  dsimp only
  rw [List.getElem?_take_of_lt (List.getElem?_eq_some_iff.mp listed).1]
  exact found

private theorem flatMap_steps {chain : ChainLogs} (steps : List PollStep)
    (each : forall step, step ∈ steps -> step.origins chain =
      (step.result.outcome.range?.toList.flatMap intervalPoints).flatMap (logOrigins chain)) :
    steps.flatMap (PollStep.origins chain) =
      ((steps.filterMap fun step => step.result.outcome.range?).flatMap intervalPoints).flatMap
        (logOrigins chain) := by
  induction steps with
  | nil => rfl
  | cons step rest inductionHypothesis =>
      rw [List.flatMap_cons, each step List.mem_cons_self,
        inductionHypothesis fun other member => each other (List.mem_cons_of_mem _ member)]
      cases range : step.result.outcome.range? <;> simp [range]

/-- The logs of different blocks, and different logs of one block, have
different places. -/
private theorem nodup_origins (chain : ChainLogs) (blocks : List Nat) (distinct : blocks.Nodup) :
    (blocks.flatMap (logOrigins chain)).Nodup := by
  rw [List.nodup_flatMap]
  constructor
  · intro block _
    exact List.nodup_range.map (fun _ _ same => (Prod.mk.inj same).2)
  · apply distinct.imp
    intro earlier later different place left right
    rcases List.mem_map.mp left with ⟨_, _, rfl⟩
    rcases List.mem_map.mp right with ⟨_, _, same⟩
    exact different (Prod.mk.inj same).1.symm

private theorem origins_nodup (config : EventSourceConfig) (chainId : UInt64) (chain : ChainLogs)
    (envs : List PollEnv) (smallest : config.minBlockRange = 1)
    (heads : forall env, env ∈ envs -> HeadsBelow env)
    (answers : forall env, env ∈ envs -> env.AnswersFrom chain)
    (noLate : forall step, step ∈ ((create config chainId).run envs).steps ->
      step.NoLateRejection) :
    (((create config chainId).run envs).origins chain).Nodup := by
  have steps := (run_steps_sound (create config chainId) envs
    (create_sound config chainId smallest) heads).1
  have whole : ((create config chainId).run envs).origins chain =
      (((create config chainId).run envs).ranges.flatMap intervalPoints).flatMap
        (logOrigins chain) := by
    apply flatMap_steps
    intro step member
    rcases steps step member with ⟨sound, answered, _⟩
    exact origins_eq sound (heads step.env answered) (answers step.env answered)
      (noLate step member)
  rw [whole]
  apply nodup_origins
  -- The blocks of the completed ranges are consecutive, so none occurs twice.
  have covered := create_chain config chainId envs smallest heads
  cases begins : origin config envs with
  | none =>
      rw [begins] at covered
      rw [covered]
      exact List.nodup_nil
  | some block =>
      rw [begins] at covered
      rw [covered.points_eq]
      exact List.nodup_range'

/-- A poll pushes the signals of the logs of its batch in order, and throws
without having pushed anything exactly when the batch has no rejected log
behind an accepted one.  Each signal comes from the place with its position.
If no poll of a run has such a log, no place is handed over twice. -/
theorem handed_over_at_most_once_iff_no_late_rejection (config : EventSourceConfig)
    (chainId : UInt64) (chain : ChainLogs) (envs : List PollEnv)
    (answers : forall env, env ∈ envs -> env.AnswersFrom chain) :
    let run := (create config chainId).run envs
    (forall step, step ∈ run.steps ->
      step.PushesInOrder ∧ (step.ThrowsClean ↔ step.NoLateRejection)) ∧
      (config.minBlockRange = 1 -> (forall env, env ∈ envs -> HeadsBelow env) ->
        (forall step, step ∈ run.steps -> step.HandsOver chain) ∧
        (((run.origins chain).Nodup ∧ forall step, step ∈ run.steps -> step.ThrowsClean) ↔
          forall step, step ∈ run.steps -> step.NoLateRejection)) := by
  intro run
  refine ⟨fun step _ => ⟨pollOnce_inOrder step, throwsClean_iff step⟩, fun smallest heads =>
    ⟨fun step member => ?_, ⟨?_, ?_⟩⟩⟩
  · have sound := create_sound config chainId smallest
    rcases (run_steps_sound (create config chainId) envs sound heads).1 step member with
      ⟨before, answered, _⟩
    exact pollOnce_handsOver before (heads step.env answered) (answers step.env answered)
  · intro atMostOnce step member
    exact (throwsClean_iff step).mp (atMostOnce.2 step member)
  · intro noLate
    exact ⟨origins_nodup config chainId chain envs smallest heads answers noLate,
      fun step member => (throwsClean_iff step).mpr (noLate step member)⟩

/-- A well-formed transfer log. -/
def transferLog : RawLog where
  address := "0x00000000000000000000000000000000000000aa"
  topics := ["0xddf252ad1be2c89b69c2b068fc378daa952ba7f163c4a11628f55a4df523b3ef"]
  data := "0x"
  blockNumber := "0x1"
  transactionHash := "0x00000000000000000000000000000000000000000000000000000000000000bb"
  logIndex := "0x0"
  transactionIndex := "0x0"

/-- A log whose index is missing. -/
def indexlessLog : RawLog :=
  { transferLog with logIndex := "0x" }

/-- A node at block 1, which holds the given logs. -/
def nodeAtOne (logs : List RawLog) : PollEnv where
  latestBlock := .ok 1
  getLogs := fun fromBlock toBlock =>
    .ok ((intervalPoints (fromBlock.toNat, toBlock.toNat)).flatMap fun block => if block = 1
      then logs else [])
  blockTimestamp := fun _ => .ok 1700000000
  systemClockMs := 0
  steadyClockMs := fun _ => 0
  scratch := fun _ => Bytes.zeros 32

theorem nodeAtOne_answersFrom (logs : List RawLog) :
    (nodeAtOne logs).AnswersFrom fun block => if block = 1 then logs else [] := by
  intro fromBlock toBlock answer same
  exact (Except.ok.inj same).symm

/-- Two polls of a block that holds two good logs: the first hands both over
and the second finds nothing to do. -/
theorem handed_over_at_most_once_for_good_logs :
    (((create { startBlock := 1 } 1).run
        [nodeAtOne [transferLog, transferLog], nodeAtOne [transferLog, transferLog]]).origins
      fun block => if block = 1 then [transferLog, transferLog] else []) = [(1, 0), (1, 1)] ∧
    (((create { startBlock := 1 } 1).run
        [nodeAtOne [transferLog, transferLog], nodeAtOne [transferLog, transferLog]]).origins
      fun block => if block = 1 then [transferLog, transferLog] else []).Nodup := by
  refine ⟨by decide +kernel, ?_⟩
  refine (((handed_over_at_most_once_iff_no_late_rejection
    { startBlock := 1 } 1 _ _ ?_).2 rfl ?_).2.mpr ?_).1
  · intro env member
    have same : env = nodeAtOne [transferLog, transferLog] := by simpa using member
    rw [same]
    exact nodeAtOne_answersFrom _
  · intro env member head answer
    have same : env = nodeAtOne [transferLog, transferLog] := by simpa using member
    rw [same] at answer
    cases answer
    decide
  · intro step member
    have noThrow : ((create { startBlock := 1 } 1).run
        [nodeAtOne [transferLog, transferLog], nodeAtOne [transferLog, transferLog]]).steps.all
          (fun step => match step.result.outcome with | .threw _ => false | _ => true) = true := by
      decide +kernel
    apply (throwsClean_iff step).mp
    intro message threw
    have impossible := List.all_eq_true.mp noThrow step member
    rw [threw] at impossible
    cases impossible

/-- With a malformed log behind a good one every retry hands the good one
over again. -/
theorem retry_hands_over_again :
    (nodeAtOne [transferLog, indexlessLog]).AnswersFrom
        (fun block => if block = 1 then [transferLog, indexlessLog] else []) ∧
      ¬ (((create { startBlock := 1 } 1).run
          [nodeAtOne [transferLog, indexlessLog], nodeAtOne [transferLog, indexlessLog]]).origins
        fun block => if block = 1 then [transferLog, indexlessLog] else []).Nodup ∧
      (Exists fun message => ((create { startBlock := 1 } 1).pollOnce
        (nodeAtOne [transferLog, indexlessLog])).outcome = .threw message) ∧
      ((create { startBlock := 1 } 1).pollOnce
        (nodeAtOne [transferLog, indexlessLog])).pushed.length = 1 := by
  refine ⟨nodeAtOne_answersFrom _,
    by decide +kernel, ⟨"invalid hex uint64", by decide +kernel⟩, by decide +kernel⟩

end EventSource

end Events
end RiskSentinel
