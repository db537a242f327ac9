import RiskSentinel.Events.Batching

namespace RiskSentinel
namespace Events

open Foundation Risk

/-!
# Visits to a growing chain

A visit is one poll at a node of which the head is known, even if the node
does not tell it.  Where the heads of the visits never go back, the head that
the source has cached is never above that of the node, so every range that is
fetched is one that the node knows.

Two things follow for a run of visits, of which any may fail.  If the logs that
the node returns for ranges it knows encode the logs of one chain, the signals
pushed are those of the chain's blocks in order.  And with the visits that are
answered, the cursor moves by the largest range each time, up to the head; one
of them may be short, at the end of what the source had cached.
-/

/-- A poll, and the head of the node during it. -/
structure Visit where
  env : PollEnv
  head : UInt64
  reports : forall answer, env.latestBlock = .ok answer -> answer = head

namespace Visit

/-- The logs for ranges up to the head encode those of the chain. -/
def Encodes (visit : Visit) (chain : Nat -> List EvmLog) : Prop :=
  forall fromBlock toBlock logs, toBlock ≤ visit.head ->
    visit.env.getLogs fromBlock toBlock = .ok logs ->
    List.Forall₂ (fun raw log => raw.Encodes log ∧ raw.removed = false) logs
      ((intervalPoints (fromBlock.toNat, toBlock.toNat)).flatMap chain)

/-- The node answers everything that a source can ask. -/
structure Answered (visit : Visit) : Prop where
  latestBlock : visit.env.latestBlock = .ok visit.head
  getLogs : forall fromBlock toBlock, fromBlock ≤ toBlock -> toBlock ≤ visit.head ->
    Exists fun logs => visit.env.getLogs fromBlock toBlock = .ok logs ∧
    logs.all isNormalizable = true

end Visit

/-- The heads never go back. -/
def Growing (visits : List Visit) : Prop :=
  visits.Pairwise fun earlier later => earlier.head ≤ later.head

namespace EventSource

/-- The head that a poll without a cold start works with, when the node tells
its own. -/
def refreshedHead (source : EventSource) (head : UInt64) : UInt64 :=
  if source.cachedChainHead = 0 || source.cachedChainHead < source.nextBlock
    then clampHead source.config head
  else source.cachedChainHead

/-- Refreshing keeps the cached head or takes the one that the node told. -/
private theorem cachedHead_refreshHead {source refreshed : EventSource}
    {env : PollEnv} {stop : Bool} (result : source.refreshHead env = .ok (refreshed, stop)) :
    refreshed.cachedChainHead = source.cachedChainHead ∨
      Exists fun head => env.latestBlock = .ok head ∧
      refreshed.cachedChainHead = clampHead source.config head := by
  unfold refreshHead at result
  by_cases asked : (source.cachedChainHead = 0 || source.cachedChainHead < source.nextBlock) = true
  · rw [if_pos asked] at result
    cases answer : env.latestBlock with
    | error cause =>
        rw [answer] at result
        cases result
    | ok head =>
        rw [answer] at result
        refine Or.inr ⟨head, rfl, ?_⟩
        cases cold : source.coldStart with
        | true =>
            simp only [cold, if_true, Except.ok.injEq, Prod.mk.injEq] at result
            rw [← result.1]
            rfl
        | false =>
            simp only [cold, Bool.false_eq_true, if_false, Except.ok.injEq, Prod.mk.injEq] at result
            rw [← result.1]
  · rw [if_neg asked] at result
    cases result
    exact Or.inl rfl

/-- A poll does not touch the cached head in any other way. -/
theorem cachedHead_pollOnce (source : EventSource) (env : PollEnv) :
    (source.pollOnce env).source.cachedChainHead = source.cachedChainHead ∨
      Exists fun head => env.latestBlock = .ok head ∧
        (source.pollOnce env).source.cachedChainHead = clampHead source.config head := by
  rcases pollOnce_cases source env with
    ⟨message, failed, result⟩ | ⟨refreshed, head, result⟩ | ⟨refreshed, head, batch⟩
  · rw [result]
    exact Or.inl rfl
  · rw [result]
    exact cachedHead_refreshHead head
  · have refreshes := cachedHead_refreshHead head
    rcases batch with ⟨_, result⟩ | ⟨message, _, result⟩ | ⟨toBlock, logs, _, result⟩
    · rw [result]
      exact refreshes
    · rw [result]
      exact refreshes
    · rw [result, pushBatch]
      rcases (pushLogs env refreshed.chainId (batchTimestampMs env toBlock) 0 logs).2
          with _ | message <;>
        exact refreshes

/-- A poll keeps the chain of its source. -/
theorem chainId_pollOnce (source : EventSource) (env : PollEnv) (sound : source.Sound) :
    (source.pollOnce env).source.chainId = source.chainId := by
  rcases pollOnce_cases source env with
    ⟨message, _, result⟩ | ⟨refreshed, head, result⟩ | ⟨refreshed, head, batch⟩
  · rw [result]
  · rw [result]
    rcases refreshHead_cases head sound with ⟨_, _, rfl⟩ | ⟨_, _, ⟨_, _, rfl⟩ | ⟨_, _, rfl⟩⟩ <;> rfl
  · have sameChain : refreshed.chainId = source.chainId := by
      rw [(refreshHead_warm sound head).2]
    rcases batch with ⟨_, result⟩ | ⟨message, _, result⟩ | ⟨toBlock, logs, _, result⟩
    · rw [result, sameChain]
    · rw [result, sameChain]
    · rw [result, pushBatch]
      rcases (pushLogs env refreshed.chainId (batchTimestampMs env toBlock) 0 logs).2
          with _ | message <;>
        exact sameChain

/-- What the source has cached, the node knows. -/
def KnownTo (source : EventSource) (visits : List Visit) : Prop :=
  forall visit, visit ∈ visits -> source.cachedChainHead ≤ visit.head

theorem KnownTo.pollOnce {source : EventSource} {visit : Visit} {later : List Visit}
    (known : source.KnownTo (visit :: later)) (growing : Growing (visit :: later)) :
    (source.pollOnce visit.env).source.KnownTo later := by
  intro next member
  rcases cachedHead_pollOnce source visit.env with kept | ⟨head, answer, taken⟩
  · rw [kept]
    exact known next (List.mem_cons_of_mem _ member)
  · rw [taken, visit.reports head answer]
    exact UInt64.le_trans (clampHead_le_head _ _) ((List.pairwise_cons.mp growing).1 next member)

/-! ## The signals -/

private theorem pushLogs_of_encodes (env : PollEnv) (chainId timestampMs : UInt64) (position : Nat)
    {raws : List RawLog} {logs : List EvmLog}
    (encodes : List.Forall₂ (fun raw log => raw.Encodes log ∧ raw.removed = false) raws logs) :
    (pushLogs env chainId timestampMs position raws).2 = none ∧
      (pushLogs env chainId timestampMs position raws).1.map untimed =
        logs.map fun log => log.signal chainId 0 false := by
  induction encodes generalizing position with
  | nil => exact ⟨rfl, rfl⟩
  | cons encoded _ inductionHypothesis =>
      have others := inductionHypothesis (position + 1)
      have here := normalize_encodes encoded.1 chainId timestampMs (env.scratch position)
      rw [encoded.2] at here
      simp only [pushLogs, here, List.map_cons, others.2]
      exact ⟨others.1, rfl⟩

/-- A visit pushes the logs of the range it completes, and nothing if it
completes none. -/
private theorem pushed_visit {source : EventSource} {visit : Visit} {chain : Nat -> List EvmLog}
    (sound : source.Sound) (heads : HeadsBelow visit.env)
    (known : source.cachedChainHead ≤ visit.head) (encodes : visit.Encodes chain) :
    (source.pollOnce visit.env).pushed.map untimed =
      ((source.pollOnce visit.env).outcome.range?.toList.flatMap intervalPoints).flatMap fun block =>
        (chain block).map fun log => log.signal source.chainId 0 false := by
  rcases pollOnce_cases source visit.env with
    ⟨message, failed, result⟩ | ⟨refreshed, head, result⟩ | ⟨refreshed, head, batch⟩
  · rw [result]
    rfl
  · rw [result]
    rfl
  · have onlyHead := (refreshHead_warm sound head).2
    have sameNext : refreshed.nextBlock = source.nextBlock := by rw [onlyHead]
    have sameChain : refreshed.chainId = source.chainId := by rw [onlyHead]
    have below : refreshed.cachedChainHead ≤ visit.head := by
      rcases cachedHead_refreshHead head with kept | ⟨answer, told, taken⟩
      · rw [kept]
        exact known
      · rw [taken, visit.reports answer told]
        exact clampHead_le_head _ _
    rcases batch with ⟨_, result⟩ | ⟨message, _, result⟩ | ⟨toBlock, logs, fetched, result⟩
    · rw [result]
      rfl
    · rw [result]
      rfl
    · rcases fetchBatch_ok (sound.refreshHead heads head) fetched with ⟨_, within, _, answered⟩
      have written := encodes _ toBlock logs (UInt64.le_trans within below) answered
      rcases pushLogs_of_encodes visit.env refreshed.chainId
        (batchTimestampMs visit.env toBlock) 0 written with ⟨finished, signals⟩
      rw [result, pushBatch]
      simp only [finished, PollOutcome.range?, Option.toList_some, List.flatMap_singleton]
      rw [signals, sameChain, sameNext, List.map_flatMap]

/-- A run of visits pushes the logs of the ranges it completes. -/
theorem pushed_visits {chain : Nat -> List EvmLog} (source : EventSource) (visits : List Visit)
    (sound : source.Sound) (heads : forall visit, visit ∈ visits -> HeadsBelow visit.env)
    (encodes : forall visit, visit ∈ visits -> visit.Encodes chain) (growing : Growing visits)
    (known : source.KnownTo visits) :
    (source.run (visits.map Visit.env)).pushed.map untimed =
      ((source.run (visits.map Visit.env)).ranges.flatMap intervalPoints).flatMap fun block =>
        (chain block).map fun log => log.signal source.chainId 0 false := by
  induction visits generalizing source with
  | nil => rfl
  | cons visit rest inductionHypothesis =>
      rw [List.map_cons, run]
      by_cases exhausted : source.isExhausted = true
      · rw [if_pos exhausted]
        rfl
      · rw [if_neg exhausted]
        have here := heads visit List.mem_cons_self
        have others := inductionHypothesis (source.pollOnce visit.env).source
          (pollOnce_cursor sound here).1
          (fun later member => heads later (List.mem_cons_of_mem _ member))
          (fun later member => encodes later (List.mem_cons_of_mem _ member))
            (List.pairwise_cons.mp growing).2
          (known.pollOnce growing)
        rw [chainId_pollOnce source visit.env sound] at others
        have first := pushed_visit sound here (known visit List.mem_cons_self)
          (encodes visit List.mem_cons_self)
        simp only [SourceRun.pushed, SourceRun.ranges, List.flatMap_cons, List.map_append,
          List.filterMap_cons,
          PollStep.result] at others first ⊢
        rw [first, others]
        cases (source.pollOnce visit.env).outcome.range? <;> simp

/-! ## The progress -/

/-- The most blocks that a batch can have. -/
def batchLimit (config : EventSourceConfig) : Nat :=
  max config.maxBlockRange.toNat 1

private theorem refreshedHead_le {source : EventSource} {head : UInt64}
    (known : source.cachedChainHead ≤ head) : source.refreshedHead head ≤ head := by
  unfold refreshedHead
  split
  · exact clampHead_le_head _ _
  · exact known

private theorem refreshHead_answered {source : EventSource} {env : PollEnv} {head : UInt64}
    (warm : source.coldStart = false) (answer : env.latestBlock = .ok head) :
    source.refreshHead env = .ok
      ({ source with cachedChainHead := source.refreshedHead head }, false) := by
  unfold refreshHead refreshedHead
  by_cases asked : (source.cachedChainHead = 0 || source.cachedChainHead < source.nextBlock) = true
  · rw [if_pos asked, if_pos asked, answer]
    simp [warm]
  · rw [if_neg asked, if_neg asked]

/-- A warm source that is answered completes the largest range it may ask for,
if there is any. -/
theorem pollOnce_answered {source : EventSource} {visit : Visit} (sound : source.Sound)
    (warm : source.coldStart = false) (heads : HeadsBelow visit.env)
    (known : source.cachedChainHead ≤ visit.head) (answered : visit.Answered) :
    (source.pollOnce visit.env).source.cachedChainHead = source.refreshedHead visit.head ∧
      (source.pollOnce visit.env).source.nextBlock.toNat =
        min (source.nextBlock.toNat + batchLimit source.config)
          (max source.nextBlock.toNat ((source.refreshedHead visit.head).toNat + 1)) := by
  have refreshes := refreshHead_answered warm answered.latestBlock
  have below := refreshedHead_le known
  have stillSound := sound.refreshHead heads refreshes
  unfold pollOnce
  rw [refreshes]
  dsimp only
  unfold pollRange fetchBatch
  generalize source.refreshedHead visit.head = head at *
  by_cases past : head < source.nextBlock
  · rw [if_pos past]
    have order := UInt64.lt_iff_toNat_lt.mp past
    refine ⟨rfl, ?_⟩
    change source.nextBlock.toNat = _
    omega
  · rw [if_neg past]
    dsimp only
    have order := UInt64.le_iff_toNat_le.mp (UInt64.not_lt.mp past)
    have bounded : head.toNat < 2 ^ 64 - 1 := stillSound.headBelow
    have one : (1 : UInt64).toNat = 1 := rfl
    have distance : (head - source.nextBlock + 1).toNat = head.toNat -
        source.nextBlock.toNat + 1 := by
      rw [UInt64.toNat_add, UInt64.toNat_sub_of_le _ _ (UInt64.not_lt.mp past)]
      omega
    have size : (max (min source.config.maxBlockRange (head - source.nextBlock + 1)) 1).toNat =
        min (batchLimit source.config) (head.toNat - source.nextBlock.toNat + 1) := by
      rw [UInt64.toNat_max, UInt64.toNat_min, distance, one, batchLimit]
      omega
    rw [sound.minBlockRange, fetchLogs_eq]
    generalize max (min source.config.maxBlockRange (head - source.nextBlock + 1)) 1 = range at *
    have positive : 0 < batchLimit source.config :=
      Nat.lt_of_lt_of_le Nat.one_pos (Nat.le_max_right _ _)
    have last : (source.nextBlock + range - 1).toNat = source.nextBlock.toNat +
        range.toNat - 1 := by
      rw [UInt64.toNat_sub, UInt64.toNat_add]
      omega
    rcases answered.getLogs source.nextBlock (source.nextBlock + range - 1)
      (UInt64.le_iff_toNat_le.mpr (by omega))
      (UInt64.le_trans (UInt64.le_iff_toNat_le.mpr (by omega)) below) with ⟨logs, found, accepted⟩
    rw [found]
    dsimp only
    have finished := (pushLogs_spec visit.env source.chainId
      (batchTimestampMs visit.env (source.nextBlock + range - 1)) 0 logs).2.mpr accepted
    rw [pushBatch]
    simp only [finished]
    refine ⟨trivial, ?_⟩
    rw [UInt64.toNat_add, last]
    omega

/-- What is known of the cursor after any visit: it does not go back, and the
source stays warm. -/
private theorem cursor_le {source : EventSource} {env : PollEnv} (sound : source.Sound)
    (warm : source.coldStart = false) (heads : HeadsBelow env) :
    source.nextBlock.toNat ≤ (source.pollOnce env).source.nextBlock.toNat ∧
      (source.pollOnce env).source.coldStart = false := by
  rcases pollOnce_cursor sound heads with ⟨_, _, move⟩
  cases move with
  | stays unfinished unmoved staysWarm staysCold =>
      exact ⟨Nat.le_of_eq (by rw [unmoved]), staysWarm warm⟩
  | jumps head answer idle cold live moved stillWarm => exact absurd cold (by simp [warm])
  | advances toBlock behind _ staysWarm completed nonempty known short moved =>
      have order := UInt64.le_iff_toNat_le.mp nonempty
      exact ⟨by omega, staysWarm⟩

/-- The cached head will not make a batch end before the target. -/
def Fresh (source : EventSource) (target : UInt64) : Prop :=
  target ≤ source.cachedChainHead ∨ source.cachedChainHead = 0 ∨
    source.cachedChainHead < source.nextBlock

private theorem Fresh.pollOnce {source : EventSource} {visit : Visit} {target : UInt64}
    (fresh : source.Fresh target) (reached : target ≤ clampHead source.config visit.head)
    (forwards : source.nextBlock.toNat ≤ (source.pollOnce visit.env).source.nextBlock.toNat) :
    (source.pollOnce visit.env).source.Fresh target := by
  rcases cachedHead_pollOnce source visit.env with kept | ⟨head, answer, taken⟩
  · unfold Fresh at fresh ⊢
    rw [kept]
    refine fresh.imp_right (Or.imp_right fun before => ?_)
    exact UInt64.lt_iff_toNat_lt.mpr
      (Nat.lt_of_lt_of_le (UInt64.lt_iff_toNat_lt.mp before) forwards)
  · refine Or.inl ?_
    rw [taken, visit.reports head answer]
    exact reached

/-- The head of a fresh source reaches the target at the next answer. -/
private theorem Fresh.le_refreshedHead {source : EventSource} {head target : UInt64}
    (fresh : source.Fresh target) (reached : target ≤ clampHead source.config head) :
    target ≤ source.refreshedHead head := by
  unfold refreshedHead
  by_cases asked : (source.cachedChainHead = 0 || source.cachedChainHead < source.nextBlock) = true
  · rw [if_pos asked]
    exact reached
  · rw [if_neg asked]
    rcases fresh with there | zero | past
    · exact there
    · exact absurd (by simp [zero]) asked
    · exact absurd (by simp [past]) asked

private theorem cursor_of_exhausted {source : EventSource} {target : UInt64}
    (within : source.config.backtestEndBlock ≠ 0 -> target ≤ source.config.backtestEndBlock)
    (exhausted : source.isExhausted = true) : target.toNat + 1 ≤ source.nextBlock.toNat := by
  rw [isExhausted, Bool.and_eq_true, bne_iff_ne, decide_eq_true_eq] at exhausted
  have order := UInt64.le_iff_toNat_le.mp (within exhausted.1)
  have past := UInt64.lt_iff_toNat_lt.mp exhausted.2
  omega

/-- The visits that are answered drive the cursor to the target.  One of them
is lost unless the source is fresh. -/
theorem cursor_of_visits (answeredIn : Visit -> Bool) (target : UInt64) (source : EventSource)
    (visits : List Visit) (sound : source.Sound) (warm : source.coldStart = false)
    (heads : forall visit, visit ∈ visits -> HeadsBelow visit.env)
    (answered : forall visit, visit ∈ visits -> answeredIn visit = true -> visit.Answered)
    (growing : Growing visits) (known : source.KnownTo visits)
    (reached : forall visit, visit ∈ visits -> target ≤ clampHead source.config visit.head)
    (within : source.config.backtestEndBlock ≠ 0 -> target ≤ source.config.backtestEndBlock) :
    source.nextBlock.toNat ≤ (source.run (visits.map Visit.env)).final.nextBlock.toNat ∧
      (source.Fresh target -> min (target.toNat + 1)
          (source.nextBlock.toNat + visits.countP answeredIn * batchLimit source.config) ≤
        (source.run (visits.map Visit.env)).final.nextBlock.toNat) ∧
      min (target.toNat + 1)
          (source.nextBlock.toNat + (visits.countP answeredIn - 1) * batchLimit source.config) ≤
        (source.run (visits.map Visit.env)).final.nextBlock.toNat := by
  induction visits generalizing source with
  | nil =>
      simp only [List.countP_nil, Nat.zero_sub, Nat.zero_mul, Nat.add_zero]
      exact ⟨Nat.le_refl _, fun _ => Nat.min_le_right _ _, Nat.min_le_right _ _⟩
  | cons visit rest inductionHypothesis =>
      rw [List.map_cons, run]
      by_cases exhausted : source.isExhausted = true
      · rw [if_pos exhausted]
        have past := cursor_of_exhausted within exhausted
        exact ⟨Nat.le_refl _, fun _ => Nat.le_trans (Nat.min_le_left _ _) past,
          Nat.le_trans (Nat.min_le_left _ _) past⟩
      · rw [if_neg exhausted]
        have here := heads visit List.mem_cons_self
        have reachedHere := reached visit List.mem_cons_self
        rcases pollOnce_cursor sound here with ⟨after, sameConfig, _⟩
        rcases cursor_le sound warm here with ⟨forwards, stillWarm⟩
        rcases inductionHypothesis (source.pollOnce visit.env).source after stillWarm
          (fun later member => heads later (List.mem_cons_of_mem _ member))
          (fun later member => answered later (List.mem_cons_of_mem _ member))
            (List.pairwise_cons.mp growing).2
          (known.pollOnce growing)
          (by
            rw [sameConfig]
            exact fun later member => reached later (List.mem_cons_of_mem _ member))
          (by
            rw [sameConfig]
            exact within) with ⟨later, whenFresh, whenNot⟩
        rw [sameConfig] at whenFresh whenNot
        dsimp only
        generalize ((source.pollOnce visit.env).source.run
          (rest.map Visit.env)).final.nextBlock.toNat = stop at *
        have staysFresh := fun fresh : source.Fresh target => fresh.pollOnce reachedHere forwards
        rw [List.countP_cons]
        cases marked : answeredIn visit with
        | false =>
            simp only [Bool.false_eq_true, if_false, Nat.add_zero]
            refine ⟨Nat.le_trans forwards later, fun fresh => ?_, ?_⟩
            · have enough := whenFresh (staysFresh fresh)
              omega
            · omega
        | true =>
            rcases pollOnce_answered sound warm here (known visit List.mem_cons_self)
              (answered visit List.mem_cons_self marked) with ⟨cached, moved⟩
            simp only [if_true, Nat.add_sub_cancel, Nat.succ_mul]
            refine ⟨Nat.le_trans forwards later, fun fresh => ?_, ?_⟩
            · have far := UInt64.le_iff_toNat_le.mp (fresh.le_refreshedHead reachedHere)
              have enough := whenFresh (staysFresh fresh)
              omega
            · by_cases short : source.nextBlock.toNat + batchLimit source.config ≤
                (source.pollOnce visit.env).source.nextBlock.toNat
              · -- A batch of full size is worth one answer.
                rcases Nat.eq_zero_or_pos (rest.countP answeredIn) with none | some
                · rw [none, Nat.zero_mul]
                  omega
                · have split : rest.countP answeredIn = rest.countP answeredIn - 1 + 1 := by omega
                  rw [split, Nat.succ_mul]
                  omega
              · -- A shorter one ends at the cached head, so the source is fresh now.
                have ended : (source.pollOnce visit.env).source.Fresh target := by
                  refine Or.inr (Or.inr (UInt64.lt_iff_toNat_lt.mpr ?_))
                  rw [cached]
                  omega
                have enough := whenFresh ended
                omega

private theorem clampHead_mono (config : EventSourceConfig) {low high : UInt64}
    (order : low ≤ high) : clampHead config low ≤ clampHead config high := by
  unfold clampHead
  split
  · rw [UInt64.le_iff_toNat_le, UInt64.toNat_min, UInt64.toNat_min]
    exact min_le_min_right _ (UInt64.le_iff_toNat_le.mp order)
  · exact order

/-- The visits that are answered drive the cursor to the target as soon as
their heads have reached it.  Nothing is asked of the other visits.  A lower
head that one of them has told can cost one answer. -/
theorem cursor_of_answers (answeredIn : Visit -> Bool) (target : UInt64) (source : EventSource)
    (visits : List Visit) (sound : source.Sound) (warm : source.coldStart = false)
    (heads : forall visit, visit ∈ visits -> HeadsBelow visit.env)
    (answered : forall visit, visit ∈ visits -> answeredIn visit = true -> visit.Answered)
    (growing : Growing visits) (known : source.KnownTo visits)
    (reached : forall visit, visit ∈ visits -> answeredIn visit = true ->
      target ≤ clampHead source.config visit.head)
    (within : source.config.backtestEndBlock ≠ 0 -> target ≤ source.config.backtestEndBlock) :
    source.nextBlock.toNat ≤ (source.run (visits.map Visit.env)).final.nextBlock.toNat ∧
      min (target.toNat + 1)
          (source.nextBlock.toNat + (visits.countP answeredIn - 1) * batchLimit source.config) ≤
        (source.run (visits.map Visit.env)).final.nextBlock.toNat := by
  induction visits generalizing source with
  | nil =>
      rw [List.countP_nil, Nat.zero_sub, Nat.zero_mul]
      exact ⟨Nat.le_refl _, Nat.min_le_right _ _⟩
  | cons visit rest inductionHypothesis =>
      cases marked : answeredIn visit with
      | true =>
          -- From here on all heads have reached the target.
          have reachedHere := reached visit List.mem_cons_self marked
          have allReached : forall later, later ∈ visit :: rest ->
              target ≤ clampHead source.config later.head := by
            intro later member
            rcases List.mem_cons.mp member with rfl | behind
            · exact reachedHere
            · exact UInt64.le_trans reachedHere
                (clampHead_mono _ ((List.pairwise_cons.mp growing).1 later behind))
          have moved := cursor_of_visits answeredIn target source (visit :: rest) sound warm heads
            answered growing known allReached within
          exact ⟨moved.1, moved.2.2⟩
      | false =>
          rw [List.map_cons, run]
          by_cases exhausted : source.isExhausted = true
          · rw [if_pos exhausted]
            exact ⟨Nat.le_refl _, Nat.le_trans (Nat.min_le_left _ _)
              (cursor_of_exhausted within exhausted)⟩
          · rw [if_neg exhausted]
            have here := heads visit List.mem_cons_self
            rcases pollOnce_cursor sound here with ⟨after, sameConfig, _⟩
            rcases cursor_le sound warm here with ⟨forwards, stillWarm⟩
            have others := inductionHypothesis (source.pollOnce visit.env).source after stillWarm
              (fun later member => heads later (List.mem_cons_of_mem _ member))
              (fun later member => answered later (List.mem_cons_of_mem _ member))
              (List.pairwise_cons.mp growing).2 (known.pollOnce growing)
              (by
                rw [sameConfig]
                exact fun later member => reached later (List.mem_cons_of_mem _ member))
              (by
                rw [sameConfig]
                exact within)
            rw [sameConfig] at others
            rw [List.countP_cons, marked, if_neg Bool.false_ne_true, Nat.add_zero]
            dsimp only
            refine ⟨Nat.le_trans forwards others.1, Nat.le_trans ?_ others.2⟩
            exact min_le_min_left _ (Nat.add_le_add_right forwards _)

/-! ## The end of a backtest -/

/-- A cursor with an end block does not go further than behind it. -/
private theorem cursor_within (source : EventSource) (envs : List PollEnv) (sound : source.Sound)
    (heads : forall env, env ∈ envs -> HeadsBelow env)
    (backtest : source.config.backtestEndBlock ≠ 0) :
    (source.run envs).final.nextBlock.toNat ≤ max source.nextBlock.toNat
    (source.config.backtestEndBlock.toNat + 1) := by
  induction envs generalizing source with
  | nil => exact Nat.le_max_left _ _
  | cons env rest inductionHypothesis =>
      rw [run]
      by_cases exhausted : source.isExhausted = true
      · rw [if_pos exhausted]
        exact Nat.le_max_left _ _
      · rw [if_neg exhausted]
        rcases pollOnce_cursor sound (heads env List.mem_cons_self) with ⟨after, sameConfig, move⟩
        have later := inductionHypothesis (source.pollOnce env).source after
          (fun other member => heads other (List.mem_cons_of_mem _ member))
            (by rw [sameConfig]; exact backtest)
        rw [sameConfig] at later
        refine Nat.le_trans later (Nat.max_le.mpr ⟨?_, Nat.le_max_right _ _⟩)
        cases move with
        | stays unfinished unmoved staysWarm staysCold =>
            rw [unmoved]
            exact Nat.le_max_left _ _
        | jumps head answer idle cold live moved warm => exact absurd live backtest
        | advances toBlock behind warm staysWarm completed nonempty known short moved =>
            have within := after.headWithin (by rw [sameConfig]; exact backtest)
            rw [sameConfig] at within
            have below := UInt64.le_iff_toNat_le.mp (UInt64.le_trans known within)
            rw [moved]
            exact Nat.le_trans (Nat.succ_le_succ below) (Nat.le_max_right _ _)

/-- A run that has exhausted its range has gone through the blocks up to the
end block, or through none when it began behind it. -/
theorem span_of_exhausted (source : EventSource) (envs : List PollEnv) (sound : source.Sound)
    (heads : forall env, env ∈ envs -> HeadsBelow env)
    (exhausted : (source.run envs).final.isExhausted = true) :
    (source.run envs).final.nextBlock.toNat - source.nextBlock.toNat =
      source.config.backtestEndBlock.toNat + 1 - source.nextBlock.toNat := by
  have sameConfig := (run_steps_sound source envs sound heads).2
  rw [isExhausted, sameConfig, Bool.and_eq_true, bne_iff_ne, decide_eq_true_eq] at exhausted
  have below := cursor_within source envs sound heads exhausted.1
  have past := UInt64.lt_iff_toNat_lt.mp exhausted.2
  omega

end EventSource

end Events
end RiskSentinel
