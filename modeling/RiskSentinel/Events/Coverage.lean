import RiskSentinel.Events.EventSource
import RiskSentinel.Foundation.Intervals

namespace RiskSentinel
namespace Events

open Foundation

/-!
# Every block is fetched once

The completed ranges of any run form a chain that begins where the source
starts and ends at its cursor.  Nothing is assumed about the node except that
its heads are below the largest block number: they may go back, and every
call may fail.
-/

namespace EventSource

/-- The first head that the node reports. -/
def firstHead : List PollEnv -> Option UInt64
  | [] => none
  | env :: rest =>
      match env.latestBlock with
      | .ok head => some head
      | .error _ => firstHead rest

/-- The block at which the ranges begin: the configured one, or on a live
cold start the head read then. -/
def origin (config : EventSourceConfig) (envs : List PollEnv) : Option UInt64 :=
  if config.startBlock == 0 && config.backtestEndBlock == 0 then firstHead envs
    else some config.startBlock

/-- The cursor has its place: no cold start will move it any more. -/
def Placed (source : EventSource) : Prop :=
  source.coldStart = false ∨ source.config.backtestEndBlock ≠ 0

/-- A poll that throws leaves the cursor where it was.  One that completes a
range has taken it from the cursor on, not empty, not past the head it knows or
the end of a backtest, and not longer than the configuration allows. -/
structure PollSound (step : PollStep) : Prop where
  threw : forall message, step.result.outcome = .threw message ->
    step.result.source.nextBlock = step.before.nextBlock
  completed : forall fromBlock toBlock behind,
    step.result.outcome = .completed fromBlock toBlock behind ->
    fromBlock = step.before.nextBlock ∧ fromBlock ≤ toBlock ∧
    toBlock ≤ step.result.source.cachedChainHead ∧
      (step.before.config.backtestEndBlock ≠ 0 -> toBlock ≤ step.before.config.backtestEndBlock) ∧
      toBlock.toNat + 1 - fromBlock.toNat ≤ max step.before.config.maxBlockRange.toNat 1

theorem pollSound_of_sound {source : EventSource} {env : PollEnv} (sound : source.Sound)
    (heads : HeadsBelow env) : PollSound ⟨source, env⟩ := by
  rcases pollOnce_cursor sound heads with ⟨after, sameConfig, move⟩
  constructor
  · intro message threw
    cases move with
    | stays unfinished unmoved staysWarm staysCold => exact unmoved
    | jumps head answer idle cold live moved warm => exact absurd (threw.symm.trans idle) (by simp)
    | advances toBlock behind warm staysWarm completed nonempty known short moved =>
        exact absurd (threw.symm.trans completed) (by simp)
  · intro fromBlock toBlock behind completed
    change (source.pollOnce env).outcome = _ at completed
    cases move with
    | stays unfinished unmoved staysWarm staysCold =>
        simp [completed, PollOutcome.range?] at unfinished
    | jumps head answer idle cold live moved warm =>
        exact absurd (completed.symm.trans idle) (by simp)
    | advances reached more warm staysWarm finished nonempty known short moved =>
        have same := completed.symm.trans finished
        simp only [PollOutcome.completed.injEq] at same
        rcases same with ⟨rfl, rfl, _⟩
        refine ⟨rfl, nonempty, known, fun backtest => ?_, short⟩
        have within := after.headWithin (by rw [sameConfig]; exact backtest)
        rw [sameConfig] at within
        exact UInt64.le_trans known within

/-- Every poll of a run starts from a sound source with the run's
configuration. -/
theorem run_steps_sound (source : EventSource) (envs : List PollEnv) (sound : source.Sound)
    (heads : forall env, env ∈ envs -> HeadsBelow env) :
    (forall step, step ∈ (source.run envs).steps ->
        step.before.Sound ∧ step.env ∈ envs ∧ step.before.config = source.config) ∧
      (source.run envs).final.config = source.config := by
  induction envs generalizing source with
  | nil => exact ⟨fun _ member => (List.not_mem_nil member).elim, rfl⟩
  | cons env rest inductionHypothesis =>
      rw [run]
      by_cases exhausted : source.isExhausted = true
      · rw [if_pos exhausted]
        exact ⟨fun _ member => (List.not_mem_nil member).elim, rfl⟩
      · rw [if_neg exhausted]
        rcases pollOnce_cursor sound (heads env List.mem_cons_self) with ⟨after, sameConfig, _⟩
        have others := inductionHypothesis (source.pollOnce env).source after
          (fun later member => heads later (List.mem_cons_of_mem _ member))
        rw [sameConfig] at others
        refine ⟨fun step member => ?_, others.2⟩
        rcases List.mem_cons.mp member with same | later
        · rw [same]
          exact ⟨sound, List.mem_cons_self, rfl⟩
        · rcases others.1 step later with ⟨stepSound, answered, config⟩
          exact ⟨stepSound, List.mem_cons_of_mem _ answered, config⟩

/-- From a placed cursor the completed ranges form a chain to the final
cursor. -/
theorem run_chain (source : EventSource) (envs : List PollEnv) (sound : source.Sound)
    (placed : source.Placed) (heads : forall env, env ∈ envs -> HeadsBelow env) :
    ChainFrom source.nextBlock.toNat (source.run envs).ranges
      (source.run envs).final.nextBlock.toNat := by
  induction envs generalizing source with
  | nil => rfl
  | cons env rest inductionHypothesis =>
      rw [run]
      by_cases exhausted : source.isExhausted = true
      · rw [if_pos exhausted]
        rfl
      · rw [if_neg exhausted]
        rcases pollOnce_cursor sound (heads env List.mem_cons_self) with ⟨after, sameConfig, move⟩
        have others : (source.pollOnce env).source.Placed -> ChainFrom _ _ _ := fun stillPlaced =>
          inductionHypothesis (source.pollOnce env).source after stillPlaced
            (fun later member => heads later (List.mem_cons_of_mem _ member))
        cases move with
        | stays unfinished unmoved staysWarm staysCold =>
            have chain := others (placed.imp staysWarm (by rw [sameConfig]; exact id))
            rw [unmoved] at chain
            simpa only [SourceRun.ranges, List.filterMap_cons, PollStep.result, unfinished]
              using chain
        | jumps head answer idle cold live moved warm =>
            rcases placed with warmBefore | backtest
            · exact absurd cold (by simp [warmBefore])
            · exact absurd live backtest
        | advances toBlock behind warm staysWarm completed nonempty known short moved =>
            have chain := others (Or.inl staysWarm)
            rw [moved] at chain
            simp only [SourceRun.ranges, List.filterMap_cons, PollStep.result, completed,
              PollOutcome.range?]
            exact ⟨rfl, UInt64.le_iff_toNat_le.mp nonempty, chain⟩

/-- A live cold start pushes the beginning of the chain to the first head
that the node reports. -/
theorem run_chain_coldStart (source : EventSource) (envs : List PollEnv) (sound : source.Sound)
    (cold : source.coldStart = true) (live : source.config.backtestEndBlock = 0)
    (heads : forall env, env ∈ envs -> HeadsBelow env) :
    match firstHead envs with
    | none => (source.run envs).ranges = []
    | some head => ChainFrom head.toNat (source.run envs).ranges
        (source.run envs).final.nextBlock.toNat := by
  induction envs generalizing source with
  | nil => rfl
  | cons env rest inductionHypothesis =>
      have running : source.isExhausted = false := by simp [isExhausted, live]
      have laterHeads : forall later, later ∈ rest -> HeadsBelow later :=
        fun later member => heads later (List.mem_cons_of_mem _ member)
      rw [run, if_neg (by simp [running])]
      rcases pollOnce_cursor sound (heads env List.mem_cons_self) with ⟨after, sameConfig, move⟩
      cases move with
      | stays unfinished unmoved staysWarm staysCold =>
          rcases staysCold cold live with ⟨stillCold, cause, failed⟩
          have others := inductionHypothesis (source.pollOnce env).source after stillCold
            (by rw [sameConfig]; exact live) laterHeads
          simpa only [firstHead, failed, SourceRun.ranges, List.filterMap_cons, PollStep.result,
            unfinished] using others
      | jumps head answer idle _ _ moved warm =>
          have chain := run_chain (source.pollOnce env).source rest after (Or.inl warm) laterHeads
          rw [moved] at chain
          simpa only [firstHead, answer, SourceRun.ranges, List.filterMap_cons,
            PollStep.result, idle,
            PollOutcome.range?] using chain
      | advances toBlock behind warm staysWarm completed nonempty known short moved =>
          exact absurd cold (by simp [warm])

/-- The chain of a new source begins at its origin. -/
theorem create_chain (config : EventSourceConfig) (chainId : UInt64) (envs : List PollEnv)
    (smallest : config.minBlockRange = 1) (heads : forall env, env ∈ envs -> HeadsBelow env) :
    match origin config envs with
    | none => ((create config chainId).run envs).ranges = []
    | some block => ChainFrom block.toNat ((create config chainId).run envs).ranges
        ((create config chainId).run envs).final.nextBlock.toNat := by
  have sound := create_sound config chainId smallest
  unfold origin
  by_cases jumping : (config.startBlock == 0 && config.backtestEndBlock == 0) = true
  · rw [if_pos jumping]
    rw [Bool.and_eq_true, beq_iff_eq, beq_iff_eq] at jumping
    exact run_chain_coldStart (create config chainId) envs sound
      (by simp [create, jumping.1]) jumping.2 heads
  · rw [if_neg jumping]
    rw [Bool.and_eq_true, beq_iff_eq, beq_iff_eq, not_and_or] at jumping
    refine run_chain (create config chainId) envs sound ?_ heads
    rcases jumping with started | backtest
    · exact Or.inl (by simp [create, started])
    · exact Or.inr backtest

private theorem ranges_below {source : EventSource} {envs : List PollEnv} {last : UInt64}
    (sound : source.Sound) (heads : forall env, env ∈ envs -> HeadsBelow env)
    (backtest : source.config.backtestEndBlock = last) (positive : last ≠ 0)
    (interval : Nat × Nat) (member : interval ∈ (source.run envs).ranges) :
    interval.2 ≤ last.toNat := by
  rcases List.mem_filterMap.mp member with ⟨step, listed, range⟩
  rcases (run_steps_sound source envs sound heads).1 step listed
    with ⟨stepSound, answered, sameConfig⟩
  have pollSound := pollSound_of_sound stepSound (heads step.env answered)
  cases outcome : step.result.outcome with
  | threw message => simp [outcome, PollOutcome.range?] at range
  | idle => simp [outcome, PollOutcome.range?] at range
  | completed fromBlock toBlock behind =>
      rw [outcome] at range
      cases range
      have within := (pollSound.completed fromBlock toBlock behind outcome).2.2.2.1
      rw [sameConfig, backtest] at within
      exact UInt64.le_iff_toNat_le.mp (within positive)

/-- Gap-free coverage.  The completed ranges of every run form a chain from
the starting block to the cursor; each lies within the head cached for it and
within the allowed length; a poll that throws does not move the cursor; and a
backtest is exhausted only when its whole range, and nothing else, has been
completed. -/
theorem completed_ranges_cover_without_gap (config : EventSourceConfig) (chainId : UInt64)
    (smallest : config.minBlockRange = 1) (envs : List PollEnv)
    (heads : forall env, env ∈ envs -> HeadsBelow env) :
    let run := (create config chainId).run envs
    (match origin config envs with
      | none => run.ranges = []
      | some block => ChainFrom block.toNat run.ranges run.final.nextBlock.toNat ∧
          run.ranges.flatMap intervalPoints =
            List.range' block.toNat (run.final.nextBlock.toNat - block.toNat)) ∧
      (forall step, step ∈ run.steps -> PollSound step ∧ step.before.config = config) ∧
      (config.startBlock < config.backtestEndBlock -> run.final.isExhausted = true ->
        ChainFrom config.startBlock.toNat run.ranges (config.backtestEndBlock.toNat + 1) ∧
          run.ranges.flatMap intervalPoints = List.range' config.startBlock.toNat
            (config.backtestEndBlock.toNat + 1 - config.startBlock.toNat)) := by
  intro run
  have sound := create_sound config chainId smallest
  have chain := create_chain config chainId envs smallest heads
  refine ⟨?_, fun step member => ?_, fun ordered exhausted => ?_⟩
  · cases begins : origin config envs with
    | none =>
        rw [begins] at chain
        exact chain
    | some block =>
        rw [begins] at chain
        exact ⟨chain, chain.points_eq⟩
  · rcases (run_steps_sound (create config chainId) envs sound heads).1 step member with
      ⟨stepSound, answered, sameConfig⟩
    exact ⟨pollSound_of_sound stepSound (heads step.env answered), sameConfig⟩
  · have positive : config.backtestEndBlock ≠ 0 := by
      intro zero
      rw [zero] at ordered
      exact UInt64.not_lt_zero ordered
    have begins : origin config envs = some config.startBlock := if_neg (by simp [positive])
    rw [begins] at chain
    have order := UInt64.lt_iff_toNat_lt.mp ordered
    have atMost : run.final.nextBlock.toNat ≤ config.backtestEndBlock.toNat + 1 :=
      chain.stop_le (by omega) (ranges_below sound heads rfl positive)
    have past : config.backtestEndBlock < run.final.nextBlock := by
      have sameConfig := (run_steps_sound (create config chainId) envs sound heads).2
      rw [isExhausted, sameConfig] at exhausted
      exact of_decide_eq_true (Bool.and_eq_true_iff.mp exhausted).2
    have atLeast := UInt64.lt_iff_toNat_lt.mp past
    have stops : run.final.nextBlock.toNat = config.backtestEndBlock.toNat + 1 := by omega
    have whole : ChainFrom config.startBlock.toNat run.ranges (config.backtestEndBlock.toNat + 1) :=
      stops ▸ chain
    exact ⟨whole, whole.points_eq⟩

/-- A node at block 10 that answers every call with no logs. -/
def quietNode : PollEnv where
  latestBlock := .ok 10
  getLogs := fun _ _ => .ok []
  blockTimestamp := fun _ => .ok 1700000000
  systemClockMs := 0
  steadyClockMs := fun _ => 0
  scratch := fun _ => Bytes.zeros 32

/-- A backtest over three blocks, two at a time, is exhausted after its
second poll. -/
theorem completed_ranges_cover_five_to_seven :
    let config : EventSourceConfig := { startBlock := 5, backtestEndBlock := 7, maxBlockRange := 2 }
    ((create config 1).run [quietNode, quietNode, quietNode]).ranges.flatMap intervalPoints =
      [5, 6, 7] := by
  intro config
  have heads : forall env, env ∈ [quietNode, quietNode, quietNode] -> HeadsBelow env := by
    intro env member head answer
    have same : env = quietNode := by simpa using member
    rw [same] at answer
    cases answer
    decide
  have exhausted : ((create config 1).run [quietNode, quietNode, quietNode]).final.isExhausted =
      true := by
    decide +kernel
  exact ((completed_ranges_cover_without_gap config 1 rfl _ heads).2.2 (by decide) exhausted).2

end EventSource

end Events
end RiskSentinel
