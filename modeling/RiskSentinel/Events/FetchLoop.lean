import Mathlib.Data.List.Nodup
import RiskSentinel.Events.EventSource

namespace RiskSentinel
namespace Events

open Foundation

/-!
# The attempts of one poll

`fetchLogs` says what the retry loop returns.  Here every attempt of the loop
is recorded, and the node may answer each of them as it likes: its answers are
a function of the position of the attempt, so that every pattern of failures is
one of these functions.  The configured bounds are arbitrary; either may be
zero, and the smallest range may be larger than the largest.

The range of an attempt is the larger of half the last range and the
configured minimum.  An attempt that fails with a larger range is followed by
one with a smaller range, and below the minimum there is none.
-/

structure FetchAttempt where
  range : UInt64
  fromBlock : UInt64
  toBlock : UInt64
  answer : Except String (List RawLog)

/-- The attempts of the loop, in order, and how it ended. -/
structure FetchRun where
  attempts : List FetchAttempt
  outcome : Except String (UInt64 × List RawLog)

/-- What the node answers to the attempt at a position. -/
abbrev FetchAnswers := Nat -> UInt64 -> UInt64 -> Except String (List RawLog)

namespace EventSource

/-- The attempt with a range. -/
def fetchAttempt (answers : FetchAnswers) (nextBlock : UInt64) (position : Nat) (range : UInt64) :
    FetchAttempt where
  range := range
  fromBlock := nextBlock
  toBlock := nextBlock + range - 1
  answer := answers position nextBlock (nextBlock + range - 1)

/-- The loop around `getLogs`. -/
def fetchRun (answers : FetchAnswers) (nextBlock minBlockRange : UInt64) (position : Nat)
    (range : UInt64) : FetchRun :=
  let attempt := fetchAttempt answers nextBlock position range
  match attempt.answer with
  | .ok logs => ⟨[attempt], .ok (attempt.toBlock, logs)⟩
  | .error _ =>
      if smallest : range ≤ minBlockRange then
        ⟨[attempt], .error "Persistent RPC failure even with min_range"⟩
      else
        let later := fetchRun answers nextBlock minBlockRange (position + 1)
          (max (range / 2) minBlockRange)
        ⟨attempt :: later.attempts, later.outcome⟩
termination_by range.toNat
decreasing_by exact halved_lt range minBlockRange smallest

section Attempts

variable {answers : FetchAnswers} {nextBlock minBlockRange : UInt64}

private theorem fetchRun_answered {position : Nat} {range : UInt64} {logs : List RawLog}
    (answered : (fetchAttempt answers nextBlock position range).answer = .ok logs) :
    fetchRun answers nextBlock minBlockRange position range =
      ⟨[fetchAttempt answers nextBlock position range],
        .ok ((fetchAttempt answers nextBlock position range).toBlock, logs)⟩ := by
  rw [fetchRun]
  simp only [answered]

private theorem fetchRun_gaveUp {position : Nat} {range : UInt64} {cause : String}
    (failed : (fetchAttempt answers nextBlock position range).answer = .error cause)
    (smallest : range ≤ minBlockRange) :
    fetchRun answers nextBlock minBlockRange position range =
      ⟨[fetchAttempt answers nextBlock position range],
        .error "Persistent RPC failure even with min_range"⟩ := by
  rw [fetchRun]
  simp only [failed, dif_pos smallest]

private theorem fetchRun_retried {position : Nat} {range : UInt64} {cause : String}
    (failed : (fetchAttempt answers nextBlock position range).answer = .error cause)
    (larger : minBlockRange < range) :
    fetchRun answers nextBlock minBlockRange position range =
      ⟨fetchAttempt answers nextBlock position range ::
          (fetchRun answers nextBlock minBlockRange (position + 1)
            (max (range / 2) minBlockRange)).attempts,
        (fetchRun answers nextBlock minBlockRange (position + 1)
          (max (range / 2) minBlockRange)).outcome⟩ := by
  rw [fetchRun]
  simp only [failed, dif_neg (UInt64.not_le.mpr larger)]

/-- What holds of the two last turns of the loop, and of a turn that is retried
because it holds of the turns behind it, holds of every run. -/
theorem fetchRun_induction {motive : Nat -> UInt64 -> FetchRun -> Prop}
    (answered : forall position range logs,
      (fetchAttempt answers nextBlock position range).answer = .ok logs ->
      motive position range ⟨[fetchAttempt answers nextBlock position range],
        .ok ((fetchAttempt answers nextBlock position range).toBlock, logs)⟩)
    (gaveUp : forall position range cause,
      (fetchAttempt answers nextBlock position range).answer = .error cause ->
      range ≤ minBlockRange -> motive position range
        ⟨[fetchAttempt answers nextBlock position range],
          .error "Persistent RPC failure even with min_range"⟩)
    (retried : forall position range cause later,
      (fetchAttempt answers nextBlock position range).answer = .error cause ->
      minBlockRange < range ->
      max (range / 2) minBlockRange < range ->
      motive (position + 1) (max (range / 2) minBlockRange) later ->
      motive position range
        ⟨fetchAttempt answers nextBlock position range :: later.attempts, later.outcome⟩)
    (position : Nat) (range : UInt64) :
    motive position range (fetchRun answers nextBlock minBlockRange position range) := by
  induction range using WellFounded.induction (measure UInt64.toNat).wf generalizing position with
  | _ range inductionHypothesis =>
      cases answer : (fetchAttempt answers nextBlock position range).answer with
      | ok logs =>
          rw [fetchRun_answered answer]
          exact answered position range logs answer
      | error cause =>
          by_cases smallest : range ≤ minBlockRange
          · rw [fetchRun_gaveUp answer smallest]
            exact gaveUp position range cause answer smallest
          · have larger := UInt64.not_le.mp smallest
            have shorter := halved_lt range minBlockRange smallest
            rw [fetchRun_retried answer larger]
            exact retried position range cause _ answer larger (UInt64.lt_iff_toNat_lt.mpr shorter)
              (inductionHypothesis _ shorter (position + 1))

/-- The ranges go down, from the first one to not less than the minimum. -/
theorem attempts_decreasing (position : Nat) (range : UInt64) :
    (fetchRun answers nextBlock minBlockRange position range).attempts.Pairwise
        (fun earlier later => later.range < earlier.range) ∧
      forall attempt, attempt ∈
        (fetchRun answers nextBlock minBlockRange position range).attempts ->
        attempt.range ≤ range ∧ (minBlockRange ≤ range -> minBlockRange ≤ attempt.range) := by
  have single : forall position range, [fetchAttempt answers nextBlock position range].Pairwise
        (fun earlier later => later.range < earlier.range) ∧
      forall attempt, attempt ∈ [fetchAttempt answers nextBlock position range] ->
        attempt.range ≤ range ∧ (minBlockRange ≤ range -> minBlockRange ≤ attempt.range) := by
    intro position range
    refine ⟨List.pairwise_singleton _ _, fun attempt member => ?_⟩
    rw [List.mem_singleton.mp member]
    exact ⟨UInt64.le_refl range, fun least => least⟩
  refine fetchRun_induction (motive := fun _ range run =>
    (run.attempts.Pairwise fun earlier later => later.range < earlier.range) ∧
      forall attempt, attempt ∈ run.attempts ->
        attempt.range ≤ range ∧
        (minBlockRange ≤ range -> minBlockRange ≤ attempt.range)) ?_ ?_ ?_ position range
  · intro position range logs _
    exact single position range
  · intro position range cause _ _
    exact single position range
  · intro position range cause later _ _ shorter behind
    have below : forall attempt, attempt ∈ later.attempts -> attempt.range < range := by
      intro attempt member
      exact UInt64.lt_of_le_of_lt (behind.2 attempt member).1 shorter
    have least : minBlockRange ≤ max (range / 2) minBlockRange := by
      rw [UInt64.le_iff_toNat_le, UInt64.toNat_max]
      exact Nat.le_max_right _ _
    refine ⟨List.pairwise_cons.mpr ⟨below, behind.1⟩, fun attempt member => ?_⟩
    rcases List.mem_cons.mp member with rfl | deeper
    · exact (single position range).2 _ List.mem_cons_self
    · exact ⟨UInt64.le_of_lt (below attempt deeper), fun _ => (behind.2 attempt deeper).2 least⟩

/-- Every attempt asks for the blocks from the cursor on, and gets the answer
for its position. -/
theorem attempt_eq {index : Nat} {attempt : FetchAttempt} (position : Nat) (range : UInt64)
    (found : (fetchRun answers nextBlock minBlockRange position range).attempts[index]? =
      some attempt) :
    attempt = fetchAttempt answers nextBlock (position + index) attempt.range := by
  have single : forall position range index,
      [fetchAttempt answers nextBlock position range][index]? = some attempt ->
      attempt = fetchAttempt answers nextBlock (position + index) attempt.range := by
    intro position range index here
    cases index with
    | zero =>
        rw [← Option.some.inj here]
        rfl
    | succ index => cases here
  revert index
  refine fetchRun_induction (motive := fun position _ run => forall {index : Nat},
    run.attempts[index]? = some attempt ->
      attempt = fetchAttempt answers nextBlock
        (position + index) attempt.range) ?_ ?_ ?_ position range
  · intro position range logs _ index found
    exact single position range index found
  · intro position range cause _ _ index found
    exact single position range index found
  · intro position range cause later _ _ _ behind index found
    cases index with
    | zero => exact single position range 0 found
    | succ index =>
        have deeper := behind found
        rw [Nat.add_right_comm] at deeper
        exact deeper

/-- How the last attempt ended the loop. -/
def EndsWith (minBlockRange : UInt64) (last : FetchAttempt) :
    Except String (UInt64 × List RawLog) -> Prop
  | .ok (toBlock, logs) => last.toBlock = toBlock ∧ last.answer = .ok logs
  | .error message => message = "Persistent RPC failure even with min_range" ∧
      last.answer.isOk = false ∧ last.range ≤ minBlockRange

private theorem isOk_of_error {Value : Type} {result : Except String Value} {cause : String}
    (failed : result = .error cause) : result.isOk = false := by
  rw [failed]
  rfl

/-- All attempts before the last have failed with a range above the minimum.
The last is answered, or it has failed with a range that is not above it. -/
theorem attempts_end (position : Nat) (range : UInt64) :
    Exists fun before => Exists fun last =>
      (fetchRun answers nextBlock minBlockRange position range).attempts = before ++ [last] ∧
        (forall attempt, attempt ∈ before -> attempt.answer.isOk = false ∧
          minBlockRange < attempt.range) ∧
        EndsWith minBlockRange last
          (fetchRun answers nextBlock minBlockRange position range).outcome := by
  refine fetchRun_induction (motive := fun _ _ run => Exists fun before => Exists fun last =>
    run.attempts = before ++ [last] ∧
      (forall attempt, attempt ∈ before -> attempt.answer.isOk = false ∧
        minBlockRange < attempt.range) ∧
      EndsWith minBlockRange last run.outcome) ?_ ?_ ?_ position range
  · intro position range logs answered
    exact ⟨[], _, rfl, fun _ impossible => absurd impossible List.not_mem_nil, rfl, answered⟩
  · intro position range cause failed smallest
    exact ⟨[], _, rfl, fun _ impossible => absurd impossible List.not_mem_nil, rfl,
      isOk_of_error failed, smallest⟩
  · rintro position range cause later failed larger _ ⟨before, last, split, each, ends⟩
    refine ⟨fetchAttempt answers nextBlock position range :: before, last, ?_, ?_, ends⟩
    · rw [split, List.cons_append]
    · exact List.forall_mem_cons.mpr ⟨⟨isOk_of_error failed, larger⟩, each⟩

/-- Every attempt but the last has at most half the range of the one before
it. -/
theorem length_attempts (position : Nat) (range : UInt64) {bits : Nat}
    (small : range.toNat < 2 ^ bits) :
    (fetchRun answers nextBlock minBlockRange position range).attempts.length ≤ bits + 1 := by
  suffices both : (range ≤ minBlockRange ->
        (fetchRun answers nextBlock minBlockRange position range).attempts.length = 1) ∧
      forall bits, range.toNat < 2 ^ bits ->
        (fetchRun answers nextBlock minBlockRange position range).attempts.length ≤ bits +
          1 from both.2 bits small
  refine fetchRun_induction
    (motive := fun _ range run => (range ≤ minBlockRange -> run.attempts.length = 1) ∧
    forall bits, range.toNat < 2 ^ bits -> run.attempts.length ≤ bits + 1) ?_ ?_ ?_ position range
  · intro position range logs _
    exact ⟨fun _ => rfl, fun bits _ => Nat.le_add_left 1 bits⟩
  · intro position range cause _ _
    exact ⟨fun _ => rfl, fun bits _ => Nat.le_add_left 1 bits⟩
  · intro position range cause later _ larger _ behind
    refine ⟨fun smallest => absurd larger (UInt64.not_lt.mpr smallest), fun bits small => ?_⟩
    rw [List.length_cons]
    have positive := UInt64.lt_iff_toNat_lt.mp larger
    have half : (range / 2).toNat = range.toNat / 2 := UInt64.toNat_div range 2
    cases bits with
    | zero => omega
    | succ bits =>
        rw [Nat.pow_succ] at small
        by_cases halved : minBlockRange ≤ range / 2
        · have next : (max (range / 2) minBlockRange).toNat = range.toNat / 2 := by
            rw [UInt64.toNat_max, half]
            rw [UInt64.le_iff_toNat_le, half] at halved
            exact Nat.max_eq_left halved
          have deeper := behind.2 bits (by rw [next]; omega)
          omega
        · -- The next attempt has the smallest range, so it is the last.
          have next : max (range / 2) minBlockRange ≤ minBlockRange := by
            rw [UInt64.le_iff_toNat_le, UInt64.toNat_max]
            rw [UInt64.le_iff_toNat_le] at halved
            omega
          rw [behind.1 next]
          omega

/-! ## The node's answers as a function of the range -/

/-- The loop of a poll gives what the recorded loop gives. -/
theorem outcome_fetchRun (env : PollEnv) (position : Nat) (range : UInt64) :
    (fetchRun (fun _ => env.getLogs) nextBlock minBlockRange position range).outcome =
      fetchLogs env nextBlock minBlockRange range := by
  refine fetchRun_induction (motive := fun _ range run =>
    run.outcome = fetchLogs env nextBlock minBlockRange range) ?_ ?_ ?_ position range
  · intro position range logs answered
    change env.getLogs nextBlock (nextBlock + range - 1) = .ok logs at answered
    rw [fetchLogs_eq, answered]
    rfl
  · intro position range cause failed smallest
    change env.getLogs nextBlock (nextBlock + range - 1) = .error cause at failed
    rw [fetchLogs_eq, failed]
    exact (if_pos smallest).symm
  · intro position range cause later failed larger _ behind
    change env.getLogs nextBlock (nextBlock + range - 1) = .error cause at failed
    rw [fetchLogs_eq, failed]
    exact behind.trans (if_neg (UInt64.not_le.mpr larger)).symm

/-- A node that answers each attempt of a run as it was answered makes the
same run. -/
theorem fetchRun_of_answers (getLogs : UInt64 -> UInt64 -> Except String (List RawLog))
    (position other : Nat) (range : UInt64)
    (same : forall attempt,
      attempt ∈ (fetchRun answers nextBlock minBlockRange position range).attempts ->
      getLogs attempt.fromBlock attempt.toBlock = attempt.answer) :
    fetchRun (fun _ => getLogs) nextBlock minBlockRange other range =
      fetchRun answers nextBlock minBlockRange position range := by
  have attempts : forall position other range,
      getLogs nextBlock (nextBlock + range - 1) =
        (fetchAttempt answers nextBlock position range).answer ->
      fetchAttempt (fun _ => getLogs) nextBlock other range =
        fetchAttempt answers nextBlock position range := by
    intro position other range here
    simp only [fetchAttempt] at here ⊢
    rw [here]
  revert same other
  refine fetchRun_induction (motive := fun _ range run => forall other,
    (forall attempt, attempt ∈ run.attempts ->
      getLogs attempt.fromBlock attempt.toBlock = attempt.answer) ->
      fetchRun (fun _ => getLogs) nextBlock minBlockRange other range = run) ?_ ?_ ?_ position range
  · intro position range logs answered other same
    have here := attempts position other range (same _ List.mem_cons_self)
    rw [← here] at answered ⊢
    exact fetchRun_answered answered
  · intro position range cause failed smallest other same
    have here := attempts position other range (same _ List.mem_cons_self)
    rw [← here] at failed ⊢
    exact fetchRun_gaveUp failed smallest
  · intro position range cause later failed larger _ behind other same
    have here := attempts position other range (same _ List.mem_cons_self)
    have rest := behind (other + 1) fun attempt member =>
      same attempt (List.mem_cons_of_mem _ member)
    rw [← here] at failed ⊢
    rw [fetchRun_retried failed larger, rest]

/-- The attempts of a run ask for different last blocks. -/
private theorem eq_of_toBlock {position : Nat} {range : UInt64} {left right : FetchAttempt}
    (first : left ∈ (fetchRun answers nextBlock minBlockRange position range).attempts)
    (second : right ∈ (fetchRun answers nextBlock minBlockRange position range).attempts)
    (same : left.toBlock = right.toBlock) : left = right := by
  have toBlock : forall attempt,
      attempt ∈ (fetchRun answers nextBlock minBlockRange position range).attempts ->
      attempt.toBlock = nextBlock + attempt.range - 1 := by
    intro attempt member
    rcases List.mem_iff_getElem?.mp member with ⟨index, found⟩
    exact congrArg FetchAttempt.toBlock (attempt_eq position range found)
  have ranges : left.range = right.range := by
    rw [toBlock left first, toBlock right second, UInt64.sub_left_inj, UInt64.add_right_inj] at same
    exact same
  have distinct : ((fetchRun answers nextBlock minBlockRange position range).attempts.map
      FetchAttempt.range).Nodup := by
    apply List.pairwise_map.mpr
    apply (attempts_decreasing position range).1.imp
    intro earlier later below equal
    rw [equal] at below
    exact UInt64.lt_irrefl _ below
  exact List.inj_on_of_nodup_map distinct first second ranges

/-- The ranges of a run are all different, so its answers are a function of
the last block asked for. -/
theorem exists_getLogs (position : Nat) (range : UInt64) :
    Exists fun getLogs : UInt64 -> UInt64 -> Except String (List RawLog) =>
      forall attempt, attempt ∈
        (fetchRun answers nextBlock minBlockRange position range).attempts ->
        getLogs attempt.fromBlock attempt.toBlock = attempt.answer := by
  refine ⟨fun _ toBlock =>
    (((fetchRun answers nextBlock minBlockRange position range).attempts.find? fun attempt =>
    decide (attempt.toBlock = toBlock)).map FetchAttempt.answer).getD (.error ""), ?_⟩
  intro attempt member
  cases found : (fetchRun answers nextBlock minBlockRange position range).attempts.find? fun other =>
      decide (other.toBlock = attempt.toBlock) with
  | none =>
      have missing := List.find?_eq_none.mp found attempt member
      exact absurd rfl (of_decide_eq_false (Bool.eq_false_iff.mpr missing))
  | some other =>
      have same : other.toBlock = attempt.toBlock := by
        have accepted := List.find?_some found
        exact of_decide_eq_true accepted
      have chosen := eq_of_toBlock (List.mem_of_find?_eq_some found) member same
      simp only [found, chosen, Option.map_some, Option.getD_some]

end Attempts

/-! ## The loop of a poll -/

/-- The number of blocks from the cursor to the head. -/
def distance (source : EventSource) : UInt64 :=
  source.cachedChainHead - source.nextBlock + 1

/-- The range of the first attempt. -/
def batchRange (source : EventSource) : UInt64 :=
  max (min source.config.maxBlockRange source.distance) source.config.minBlockRange

/-- The loop as a poll enters it. -/
def fetchAttempts (source : EventSource) (answers : FetchAnswers) : FetchRun :=
  fetchRun answers source.nextBlock source.config.minBlockRange 0 source.batchRange

/-- A poll behind the head goes by the outcome of this run. -/
theorem fetchBatch_eq {source : EventSource} (behind : source.nextBlock ≤ source.cachedChainHead)
    (env : PollEnv) :
    source.fetchBatch env = some (source.fetchAttempts fun _ => env.getLogs).outcome := by
  unfold fetchBatch
  rw [if_neg (UInt64.not_lt.mpr behind), fetchAttempts, outcome_fetchRun]
  rfl

/-- The arithmetic of an attempt is that of numbers, and the attempt stays
within the head. -/
structure Unwrapped (source : EventSource) (attempt : FetchAttempt) : Prop where
  sum : (source.nextBlock + attempt.range).toNat = source.nextBlock.toNat + attempt.range.toNat
  last : attempt.toBlock.toNat + 1 = source.nextBlock.toNat + attempt.range.toNat
  inside : attempt.toBlock ≤ source.cachedChainHead

private theorem distance_toNat {source : EventSource}
    (behind : source.nextBlock ≤ source.cachedChainHead)
    (below : source.cachedChainHead.toNat < 2 ^ 64 - 1) :
    source.distance.toNat = source.cachedChainHead.toNat - source.nextBlock.toNat + 1 := by
  have order := UInt64.le_iff_toNat_le.mp behind
  rw [distance, UInt64.toNat_add, UInt64.toNat_sub_of_le _ _ behind]
  exact Nat.mod_eq_of_lt (by change _ + 1 < 2 ^ 64; omega)

private theorem unwrapped_of_attempt {source : EventSource}
    (behind : source.nextBlock ≤ source.cachedChainHead)
    (smallest : source.config.minBlockRange = 1) (below : source.cachedChainHead.toNat < 2 ^ 64 - 1)
    {answers : FetchAnswers} {attempt : FetchAttempt}
    (member : attempt ∈ (source.fetchAttempts answers).attempts) :
    source.Unwrapped attempt := by
  rcases List.mem_iff_getElem?.mp member with ⟨index, found⟩
  have order := UInt64.le_iff_toNat_le.mp behind
  have distance := distance_toNat behind below
  have one : (1 : UInt64).toNat = 1 := rfl
  have first : source.batchRange.toNat ≤ source.distance.toNat ∧ 1 ≤ source.batchRange.toNat := by
    rw [batchRange, smallest, UInt64.toNat_max, UInt64.toNat_min, one]
    omega
  have bounds := (attempts_decreasing 0 source.batchRange).2 attempt member
  have atMost := UInt64.le_iff_toNat_le.mp bounds.1
  have atLeast := bounds.2 (by rw [smallest, UInt64.le_iff_toNat_le]; exact first.2)
  rw [smallest, UInt64.le_iff_toNat_le, one] at atLeast
  have sum : (source.nextBlock + attempt.range).toNat = source.nextBlock.toNat +
      attempt.range.toNat := by
    rw [UInt64.toNat_add]
    exact Nat.mod_eq_of_lt (by omega)
  have last : attempt.toBlock.toNat + 1 = source.nextBlock.toNat + attempt.range.toNat := by
    have asked : attempt.toBlock = source.nextBlock + attempt.range - 1 :=
      congrArg FetchAttempt.toBlock (attempt_eq 0 source.batchRange found)
    rw [asked, UInt64.toNat_sub_of_le _ _ (by rw [UInt64.le_iff_toNat_le, sum]; omega), sum, one]
    omega
  refine ⟨sum, last, ?_⟩
  rw [UInt64.le_iff_toNat_le]
  omega

/-- The loop of a poll behind the head, for all bounds and all answers of the
node.  It makes at most 65 attempts, with smaller and smaller ranges from the
cursor on.  It stops at the first answer, and without one only after an attempt
with at most the smallest range.  A poll whose node gives these answers has
this outcome, and there is such a node.  With a smallest range of one and a
head below the largest number nothing wraps around, and no attempt goes beyond
the head. -/
theorem fetch_loop_ends (source : EventSource) (behind : source.nextBlock ≤ source.cachedChainHead)
    (answers : FetchAnswers) :
    (source.fetchAttempts answers).attempts.length ≤ 65 ∧
    (source.fetchAttempts answers).attempts.Pairwise
    (fun earlier later => later.range < earlier.range) ∧
    (forall (index : Nat) (attempt : FetchAttempt),
      (source.fetchAttempts answers).attempts[index]? = some attempt ->
      attempt = fetchAttempt answers source.nextBlock index attempt.range) ∧
    (Exists fun before => Exists fun last =>
      (source.fetchAttempts answers).attempts = before ++ [last] ∧
        (forall attempt, attempt ∈ before -> attempt.answer.isOk = false) ∧
        EndsWith source.config.minBlockRange last (source.fetchAttempts answers).outcome) ∧
    (forall env : PollEnv,
      (forall attempt, attempt ∈ (source.fetchAttempts answers).attempts ->
        env.getLogs attempt.fromBlock attempt.toBlock = attempt.answer) ->
      source.fetchBatch env = some (source.fetchAttempts answers).outcome) ∧
    (Exists fun getLogs : UInt64 -> UInt64 -> Except String (List RawLog) =>
      forall attempt, attempt ∈ (source.fetchAttempts answers).attempts ->
        getLogs attempt.fromBlock attempt.toBlock = attempt.answer) ∧
    (source.config.minBlockRange = 1 -> source.cachedChainHead.toNat < 2 ^ 64 - 1 ->
      source.distance.toNat = source.cachedChainHead.toNat - source.nextBlock.toNat + 1 ∧
        forall attempt, attempt ∈ (source.fetchAttempts answers).attempts ->
        source.Unwrapped attempt) := by
  refine ⟨length_attempts 0 source.batchRange source.batchRange.toNat_lt,
    (attempts_decreasing 0 source.batchRange).1,
    fun index attempt found => ?_, ?_, fun env same => ?_, exists_getLogs 0 source.batchRange,
    fun smallest below => ?_⟩
  · have here : attempt = fetchAttempt answers source.nextBlock (0 + index) attempt.range :=
      attempt_eq 0 source.batchRange found
    rw [Nat.zero_add] at here
    exact here
  · rcases attempts_end 0 source.batchRange with ⟨before, last, split, failed, ends⟩
    exact ⟨before, last, split, fun attempt member => (failed attempt member).1, ends⟩
  · have replayed : (source.fetchAttempts fun _ => env.getLogs) = source.fetchAttempts answers :=
      fetchRun_of_answers env.getLogs 0 0 source.batchRange same
    rw [← replayed]
    exact fetchBatch_eq behind env
  · exact ⟨distance_toNat behind below,
      fun attempt member => unwrapped_of_attempt behind smallest below member⟩

/-- A node that fails the first two attempts and answers the third. -/
private def failsTwice : FetchAnswers
  | 0, _, _ => .error "timeout"
  | 1, _, _ => .error "timeout"
  | _, _, _ => .ok []

private def elevenBehind : EventSource where
  config := { maxBlockRange := 4 }
  chainId := 1
  nextBlock := 10
  coldStart := false
  cachedChainHead := 20

theorem fetch_loop_ends_failsTwice :
    ((elevenBehind.fetchAttempts failsTwice).attempts.length ≤ 65 ∧
      elevenBehind.distance.toNat = 11) ∧
    forall attempt, attempt ∈ (elevenBehind.fetchAttempts failsTwice).attempts ->
    attempt.toBlock ≤ 20 := by
  have ends := fetch_loop_ends elevenBehind (by decide) failsTwice
  have unwrapped := ends.2.2.2.2.2.2 rfl (by decide)
  exact ⟨⟨ends.1, unwrapped.1⟩, fun attempt member => (unwrapped.2 attempt member).inside⟩

end EventSource

end Events
end RiskSentinel
