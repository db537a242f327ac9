import RiskSentinel.Events.EventSource

namespace RiskSentinel
namespace Events

open Foundation

/-!
# Whether a range can be exhausted

A source with an end block leaves its loop when its cursor is behind that
block.  The cursor is a machine word, so it never comes behind the largest
one; and block 0 as the end means that there is no end.  For any other end
block every poll of a node that has it and answers brings the source closer.

The heads that other nodes told before do not matter: the source cuts them at
its end block.
-/

namespace EventSource

/-- The cursor can come behind the end block. -/
def Exhaustible (config : EventSourceConfig) : Prop :=
  config.backtestEndBlock ≠ 0 ∧ config.backtestEndBlock.toNat < 2 ^ 64 - 1

variable {source : EventSource}

/-- No other range is ever exhausted. -/
theorem not_isExhausted (endless : ¬ Exhaustible source.config) : source.isExhausted = false := by
  unfold isExhausted
  by_cases live : source.config.backtestEndBlock = 0
  · rw [live]
    rfl
  · have last : 2 ^ 64 - 1 ≤ source.config.backtestEndBlock.toNat :=
      Nat.not_lt.mp fun small => endless ⟨live, small⟩
    have bound := source.nextBlock.toNat_lt
    rw [Bool.and_eq_false_iff]
    refine Or.inr (decide_eq_false fun behind => ?_)
    have order := UInt64.lt_iff_toNat_lt.mp behind
    omega

private theorem refreshHead_config {refreshed : EventSource} {env : PollEnv} {stop : Bool}
    (result : source.refreshHead env = .ok (refreshed, stop)) :
    refreshed.config = source.config := by
  unfold refreshHead at result
  repeat' split at result
  all_goals
    cases result
    try rfl

/-- The configuration never changes. -/
theorem pollOnce_config (source : EventSource) (env : PollEnv) :
    (source.pollOnce env).source.config = source.config := by
  rcases pollOnce_cases source env with
    ⟨message, failed, result⟩ | ⟨refreshed, head, result⟩ | ⟨refreshed, head, batch⟩
  · rw [result]
  · rw [result]
    exact refreshHead_config head
  · have same := refreshHead_config head
    rcases batch with ⟨_, result⟩ | ⟨message, _, result⟩ | ⟨toBlock, logs, _, result⟩
    · rw [result]
      exact same
    · rw [result]
      exact same
    · rw [result, pushBatch]
      split
      · exact same
      · exact same

private theorem Sound.refreshHead_exhaustible {refreshed : EventSource}
    {env : PollEnv} {stop : Bool} (sound : source.Sound) (exhaustible : Exhaustible source.config)
    (result : source.refreshHead env = .ok (refreshed, stop)) : refreshed.Sound := by
  have cut : forall head, (clampHead source.config head).toNat < 2 ^ 64 - 1 ∧
      clampHead source.config head ≤ source.config.backtestEndBlock := by
    intro head
    have small := exhaustible.2
    rw [clampHead, if_pos (by simp [exhaustible.1]), UInt64.le_iff_toNat_le, UInt64.toNat_min]
    omega
  rcases refreshHead_cases result sound with ⟨_, _, rfl⟩ | ⟨head, _, ⟨_, warm, rfl⟩ | ⟨_, _, rfl⟩⟩
  · exact sound
  · exact ⟨sound.minBlockRange, (cut head).1, fun _ => (cut head).2,
      fun cold => absurd cold (by simp [warm])⟩
  · exact ⟨sound.minBlockRange, (cut head).1, fun _ => (cut head).2, fun cold => by cases cold⟩

/-- A source with an exhaustible range stays sound, whatever heads it is
told. -/
theorem Sound.pollOnce (sound : source.Sound) (exhaustible : Exhaustible source.config)
    (env : PollEnv) : (source.pollOnce env).source.Sound := by
  rcases pollOnce_cases source env with
    ⟨message, failed, result⟩ | ⟨refreshed, head, result⟩ | ⟨refreshed, head, batch⟩
  · rw [result]
    exact sound
  · rw [result]
    exact sound.refreshHead_exhaustible exhaustible head
  · have after := sound.refreshHead_exhaustible exhaustible head
    rcases batch with ⟨_, result⟩ | ⟨message, _, result⟩ | ⟨toBlock, logs, _, result⟩
    · rw [result]
      exact after
    · rw [result]
      exact after
    · rw [result, pushBatch]
      split
      · exact after
      · exact ⟨after.minBlockRange, after.headBelow, after.headWithin, after.coldHead⟩

theorem run_config (source : EventSource) (envs : List PollEnv) :
    (source.run envs).final.config = source.config := by
  induction envs generalizing source with
  | nil => rfl
  | cons env rest inductionHypothesis =>
      rw [run]
      split
      · rfl
      · exact (inductionHypothesis _).trans (pollOnce_config source env)

theorem Sound.run (sound : source.Sound) (exhaustible : Exhaustible source.config)
    (envs : List PollEnv) : (source.run envs).final.Sound := by
  induction envs generalizing source with
  | nil => exact sound
  | cons env rest inductionHypothesis =>
      rw [EventSource.run]
      split
      · exact sound
      · exact inductionHypothesis (sound.pollOnce exhaustible env)
          (by rw [pollOnce_config]; exact exhaustible)

/-- A node at a block that answers every question and has no logs. -/
def emptyNode (head : UInt64) : PollEnv where
  latestBlock := .ok head
  getLogs := fun _ _ => .ok []
  blockTimestamp := fun _ => .ok 0
  systemClockMs := 0
  steadyClockMs := fun _ => 0
  scratch := fun _ => Bytes.zeros 32

/-- The blocks that are left, and the cold start. -/
def remaining (source : EventSource) : Nat :=
  2 * (source.config.backtestEndBlock.toNat + 1 - source.nextBlock.toNat) + source.coldStart.toNat

/-- Asked for the head, the source either ends its cold start or has something
to fetch. -/
private theorem refreshHead_empty (backtest : source.config.backtestEndBlock ≠ 0)
    (more : source.nextBlock ≤ source.config.backtestEndBlock) :
    Exists fun refreshed => Exists fun stop =>
      source.refreshHead (emptyNode source.config.backtestEndBlock) = .ok (refreshed, stop) ∧
        (stop = false -> refreshed.nextBlock ≤ refreshed.cachedChainHead) := by
  have cut : clampHead source.config source.config.backtestEndBlock =
      source.config.backtestEndBlock := by
    rw [clampHead, if_pos (by simp [backtest])]
    rw [← UInt64.toNat_inj, UInt64.toNat_min, Nat.min_self]
  unfold refreshHead emptyNode
  by_cases asked : (source.cachedChainHead = 0 || source.cachedChainHead < source.nextBlock) = true
  · rw [if_pos asked]
    dsimp only
    rw [cut]
    split
    · exact ⟨_, true, rfl, fun impossible => by cases impossible⟩
    · exact ⟨_, false, rfl, fun _ => more⟩
  · rw [if_neg asked]
    refine ⟨source, false, rfl, fun _ => ?_⟩
    simp only [Bool.or_eq_true, decide_eq_true_eq, not_or, UInt64.not_lt] at asked
    exact asked.2

/-- A poll of such a node pushes nothing, and less is left. -/
theorem pollOnce_empty (sound : source.Sound) (exhaustible : Exhaustible source.config)
    (more : source.isExhausted = false) :
    (source.pollOnce (emptyNode source.config.backtestEndBlock)).pushed = [] ∧
      (source.pollOnce (emptyNode source.config.backtestEndBlock)).source.remaining <
        source.remaining := by
  have within : source.nextBlock ≤ source.config.backtestEndBlock := by
    rw [isExhausted, Bool.and_eq_false_iff] at more
    rcases more with live | behind
    · exact absurd (by simpa using live) exhaustible.1
    · exact UInt64.not_lt.mp (of_decide_eq_false behind)
  have order := UInt64.le_iff_toNat_le.mp within
  have heads : HeadsBelow (emptyNode source.config.backtestEndBlock) := by
    intro head answer
    cases answer
    exact exhaustible.2
  rcases refreshHead_empty exhaustible.1 within with ⟨refreshed, stop, result, reached⟩
  rcases refreshHead_cases result sound with ⟨here, warm, same⟩
    | ⟨head, _, ⟨here, warm, same⟩ | ⟨here, cold, same⟩⟩
  case inr.inr =>
    -- The cold start ends.
    subst here
    have poll : source.pollOnce
        (emptyNode source.config.backtestEndBlock) = ⟨refreshed, [], .idle⟩ := by
      rw [EventSource.pollOnce, result]
    rw [poll]
    refine ⟨rfl, ?_⟩
    rw [same, remaining, remaining, cold]
    simp [leaveColdStart, exhaustible.1]
  all_goals
    -- A range is fetched and completed.
    subst here
    have unmoved : refreshed.nextBlock = source.nextBlock := by rw [same]
    have sameConfig : refreshed.config = source.config := by rw [same]
    have stillWarm : refreshed.coldStart = false := by rw [same]; exact warm
    have stillSound := sound.refreshHead heads result
    have ahead := UInt64.not_lt.mpr (reached rfl)
    rcases fetched : refreshed.fetchBatch (emptyNode source.config.backtestEndBlock) with _
      | message | ⟨toBlock, logs⟩
    · rw [fetchBatch, if_neg ahead] at fetched
      cases fetched
    · rw [fetchBatch, if_neg ahead] at fetched
      dsimp only at fetched
      rw [fetchLogs_eq] at fetched
      cases fetched
    · have range := fetchBatch_ok stillSound fetched
      have none : logs = [] := by
        have answer := range.2.2.2
        cases answer
        rfl
      have poll : source.pollOnce (emptyNode source.config.backtestEndBlock) =
          refreshed.pushBatch (emptyNode source.config.backtestEndBlock) toBlock [] := by
        rw [EventSource.pollOnce, result]
        dsimp only [pollRange]
        rw [fetched, none]
      rw [poll, pushBatch]
      refine ⟨rfl, ?_⟩
      have starts := UInt64.le_iff_toNat_le.mp range.1
      have ends := UInt64.le_iff_toNat_le.mp range.2.1
      have bound := stillSound.headBelow
      have next : (toBlock + 1).toNat = toBlock.toNat + 1 := by
        rw [UInt64.toNat_add]
        have one : (1 : UInt64).toNat = 1 := rfl
        omega
      rw [unmoved] at starts
      change 2 * (refreshed.config.backtestEndBlock.toNat + 1 - (toBlock + 1).toNat) +
        refreshed.coldStart.toNat < source.remaining
      rw [remaining, sameConfig, next, stillWarm, warm]
      simp only [Bool.toNat_false]
      omega

end EventSource

end Events
end RiskSentinel
