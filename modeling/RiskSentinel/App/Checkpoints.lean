import RiskSentinel.Events.Coverage
import RiskSentinel.Foundation.Table

namespace RiskSentinel
namespace App

open Foundation Events

/-!
# Restarting a live process

At startup the program reads the block stored for its chain in the table of
checkpoints and starts the event source there.  A chain without a row gets one
with block 0, and for the source block 0 means that there is no checkpoint: it
jumps to the head.

The store can also replace a stored block, but nothing in the program asks it
to.  What one process has completed is therefore not known to the next ones,
and whether blocks are skipped between them depends on how far the head has
moved in the meantime.  A process that completes nothing changes neither.
-/

/-- The part of the database that the store uses: the table of checkpoints,
once it has been created. -/
structure Database where
  checkpoints : Option (Table String Int64)

namespace DbCheckpointStore

/-- Create the table if it does not exist. -/
def ensureSchema (database : Database) : Table String Int64 :=
  database.checkpoints.getD Table.empty

/-- The stored block of a chain.  A chain without a row gets one with block
0. -/
def getOrInitCheckpoint (table : Table String Int64) (chain : String) :
    Table String Int64 × UInt64 :=
  match table.find? chain with
  | some stored => (table, stored.toUInt64)
  | none => (table.assign chain 0, 0)

def upsertCheckpoint (table : Table String Int64) (chain : String) (lastBlock : UInt64) :
    Table String Int64 :=
  table.assign chain lastBlock.toInt64

/-- A block that is stored is found again. -/
theorem getOrInitCheckpoint_upsertCheckpoint (table : Table String Int64) (chain : String)
    (lastBlock : UInt64) :
    getOrInitCheckpoint (upsertCheckpoint table chain lastBlock) chain =
      (upsertCheckpoint table chain lastBlock, lastBlock) := by
  have found : (upsertCheckpoint table chain lastBlock).find? chain = some lastBlock.toInt64 := by
    rw [upsertCheckpoint, Table.find?_assign, if_pos rfl]
  rw [getOrInitCheckpoint, found]
  simp

end DbCheckpointStore

/-- The block stored for a chain, 0 if there is none. -/
def Database.storedBlock (database : Database) (chain : String) : UInt64 :=
  (database.checkpoints.bind fun table => table.find? chain).elim 0 Int64.toUInt64

/-- The configuration of the source as `main` prepares it. -/
def liveConfig : EventSourceConfig :=
  { maxBlockRange := 1000 }

/-- The end of `init_db_`, with the connection open: the database it leaves
and the configuration with the block to start at. -/
def initDb (database : Database) (chain : String) : Database × EventSourceConfig :=
  let table := DbCheckpointStore.ensureSchema database
  let loaded := DbCheckpointStore.getOrInitCheckpoint table chain
  (⟨some loaded.1⟩, { liveConfig with startBlock := loaded.2 })

/-- One process: the database it leaves and the polls of its source, up to the
point where it was stopped.  A poll that was interrupted counts as one whose
calls failed. -/
def launch (database : Database) (chain : String) (chainId : UInt64) (envs : List PollEnv) :
    Database × SourceRun :=
  let started := initDb database chain
  (started.1, (EventSource.create started.2 chainId).run envs)

/-- Processes one after another, each on the database that the one before it
left. -/
def launches (chain : String) (chainId : UInt64) : Database -> List (List PollEnv) -> List SourceRun
  | _, [] => []
  | database, envs :: rest =>
      let first := launch database chain chainId envs
      first.2 :: launches chain chainId first.1 rest

/-! ## The stored block never changes -/

theorem initDb_storedBlock (database : Database) (chain : String) :
    (initDb database chain).1.storedBlock chain = database.storedBlock chain ∧
      (initDb database chain).2 = { liveConfig with startBlock := database.storedBlock chain } := by
  have start : database.checkpoints.bind (fun table => table.find? chain) =
      (DbCheckpointStore.ensureSchema database).find? chain := by
    unfold DbCheckpointStore.ensureSchema
    cases database.checkpoints <;> rfl
  unfold initDb Database.storedBlock
  rw [start]
  unfold DbCheckpointStore.getOrInitCheckpoint
  cases found : (DbCheckpointStore.ensureSchema database).find? chain with
  | some stored =>
      simp only [found]
      refine ⟨?_, rfl⟩
      change ((DbCheckpointStore.ensureSchema database).find? chain).elim 0 Int64.toUInt64 = _
      rw [found]
  | none =>
      simp only [found]
      refine ⟨?_, rfl⟩
      change (((DbCheckpointStore.ensureSchema database).assign chain 0).find? chain).elim 0
        Int64.toUInt64 = _
      rw [Table.find?_assign, if_pos rfl]
      rfl

/-- The run of every process starts at the same stored block. -/
def runFrom (stored : UInt64) (chainId : UInt64) (envs : List PollEnv) : SourceRun :=
  (EventSource.create { liveConfig with startBlock := stored } chainId).run envs

theorem launches_eq_map (chain : String) (chainId : UInt64) (database : Database)
    (sessions : List (List PollEnv)) :
    launches chain chainId database sessions = sessions.map
      (runFrom (database.storedBlock chain) chainId) := by
  induction sessions generalizing database with
  | nil => rfl
  | cons envs rest inductionHypothesis =>
      have started := initDb_storedBlock database chain
      have others := inductionHypothesis (initDb database chain).1
      rw [started.1] at others
      rw [List.map_cons, launches]
      refine congrArg₂ List.cons ?_ others
      rw [launch, runFrom, started.2]

/-! ## Where a run begins -/

end App

namespace Events

/-- The first block of the range that a poll asks for. -/
def PollStep.request? (step : PollStep) : Option UInt64 :=
  match step.before.refreshHead step.env with
  | .ok (refreshed, false) => (refreshed.fetchBatch step.env).map fun _ => refreshed.nextBlock
  | _ => none

/-- The first block of the first range that a run asks for. -/
def SourceRun.firstRequest? (run : SourceRun) : Option UInt64 :=
  run.steps.findSome? PollStep.request?

/-- The first head that the node reports, if another poll follows. -/
def startHead? : List PollEnv -> Option UInt64
  | [] => none
  | env :: rest =>
      match env.latestBlock with
      | .ok head => if rest.isEmpty then none else some head
      | .error _ => startHead? rest

namespace EventSource

theorem run_cons_live (source : EventSource) (env : PollEnv) (rest : List PollEnv)
    (live : source.config.backtestEndBlock = 0) :
    (source.run (env :: rest)).steps = ⟨source, env⟩ ::
    ((source.pollOnce env).source.run rest).steps := by
  have running : ¬ source.isExhausted = true := by
    rw [isExhausted, live]
    simp
  rw [run, if_neg running]

private theorem firstRequest?_cons (source : EventSource) (env : PollEnv) (rest : List PollEnv)
    (live : source.config.backtestEndBlock = 0) :
    (source.run (env :: rest)).firstRequest? =
      (PollStep.request? ⟨source, env⟩).or
      ((source.pollOnce env).source.run rest).firstRequest? := by
  rw [SourceRun.firstRequest?, run_cons_live source env rest live, List.findSome?_cons]
  cases PollStep.request? ⟨source, env⟩ <;> rfl

/-- Without a cold start a poll asks for the block at the cursor, or for none
and leaves the cursor where it is. -/
private theorem request?_warm {source : EventSource} (env : PollEnv) (sound : source.Sound)
    (warm : source.coldStart = false) :
    PollStep.request? ⟨source, env⟩ = some source.nextBlock ∨
      (PollStep.request? ⟨source, env⟩ = none ∧
        (source.pollOnce env).source.nextBlock = source.nextBlock ∧
        (source.pollOnce env).source.coldStart = false) := by
  unfold PollStep.request?
  rcases pollOnce_cases source env with
    ⟨message, failed, result⟩ | ⟨refreshed, head, result⟩ | ⟨refreshed, head, batch⟩
  · rw [failed, result]
    exact Or.inr ⟨rfl, rfl, warm⟩
  · rcases refreshHead_cases head sound with ⟨impossible, _⟩
      | ⟨answered, _, ⟨impossible, _⟩ | ⟨_, cold, _⟩⟩
    · cases impossible
    · cases impossible
    · rw [warm] at cold
      cases cold
  · have onlyHead := (refreshHead_warm sound head).2
    have sameNext : refreshed.nextBlock = source.nextBlock := by rw [onlyHead]
    have stillWarm : refreshed.coldStart = false := by
      rw [onlyHead]
      exact warm
    simp only [head]
    rcases batch with ⟨fetched, result⟩ | ⟨message, fetched, _⟩ | ⟨toBlock, logs, fetched, _⟩
    · rw [fetched, result]
      exact Or.inr ⟨rfl, sameNext, stillWarm⟩
    · rw [fetched]
      exact Or.inl (congrArg some sameNext)
    · rw [fetched]
      exact Or.inl (congrArg some sameNext)

/-- A source whose cursor is at the head it knows asks for that block. -/
private theorem request?_atHead {source : EventSource} (env : PollEnv)
    (atHead : source.cachedChainHead = source.nextBlock) (positive : source.nextBlock ≠ 0) :
    PollStep.request? ⟨source, env⟩ = some source.nextBlock := by
  have known : ¬ (source.cachedChainHead = 0 || source.cachedChainHead < source.nextBlock) =
      true := by
    rw [atHead]
    simp [positive]
  have kept : source.refreshHead env = .ok (source, false) := by
    rw [refreshHead, if_neg known]
  rw [PollStep.request?]
  simp only [kept]
  rw [fetchBatch, if_neg (by rw [atHead]; exact UInt64.lt_irrefl _)]
  rfl

/-- A source that is not at a cold start first asks for the block at its
cursor. -/
theorem firstRequest?_warm (source : EventSource) (envs : List PollEnv) (sound : source.Sound)
    (heads : forall env, env ∈ envs -> HeadsBelow env) (live : source.config.backtestEndBlock = 0)
    (warm : source.coldStart = false) (first : UInt64)
    (requested : (source.run envs).firstRequest? = some first) : first = source.nextBlock := by
  induction envs generalizing source with
  | nil => cases requested
  | cons env rest inductionHypothesis =>
      rw [firstRequest?_cons source env rest live] at requested
      rcases request?_warm env sound warm with asked | ⟨quiet, unmoved, stillWarm⟩
      · rw [asked] at requested
        exact (Option.some.inj requested).symm
      · rw [quiet, Option.none_or] at requested
        have after := pollOnce_cursor sound (heads env List.mem_cons_self)
        rw [← unmoved]
        exact inductionHypothesis (source.pollOnce env).source after.1
          (fun other member => heads other (List.mem_cons_of_mem _ member))
            (by rw [after.2.1]; exact live)
          stillWarm requested

/-- A source at a live cold start first asks for the first head it reads. -/
theorem firstRequest?_cold (source : EventSource) (envs : List PollEnv) (sound : source.Sound)
    (heads : forall env, env ∈ envs -> HeadsBelow env) (live : source.config.backtestEndBlock = 0)
    (cold : source.coldStart = true) :
    (forall first, (source.run envs).firstRequest? = some first -> startHead? envs = some first) ∧
      (forall head, startHead? envs = some head -> head ≠ 0 ->
        (source.run envs).firstRequest? = some head) := by
  induction envs generalizing source with
  | nil => exact ⟨fun _ impossible => (by cases impossible),
      fun _ impossible => by cases impossible⟩
  | cons env rest inductionHypothesis =>
      have later : forall other, other ∈ rest -> HeadsBelow other :=
        fun other member => heads other (List.mem_cons_of_mem _ member)
      have asked : (source.cachedChainHead = 0 || source.cachedChainHead < source.nextBlock) =
          true := by
        rw [sound.coldHead cold]
        rfl
      rw [firstRequest?_cons source env rest live, startHead?]
      cases answer : env.latestBlock with
      | error cause =>
          have failed : source.refreshHead env = .error ("latestBlock failed: " ++ cause) := by
            rw [refreshHead, if_pos asked, answer]
          have unchanged : (source.pollOnce env).source = source := by
            rw [pollOnce, failed]
          have quiet : PollStep.request? ⟨source, env⟩ = none := by
            rw [PollStep.request?, failed]
          rw [quiet, Option.none_or, unchanged]
          exact inductionHypothesis source sound later live cold
      | ok head =>
          have jumped : source.refreshHead env =
              .ok ({ source with cachedChainHead := head, nextBlock := head, coldStart := false },
                true) := by
            rw [refreshHead, if_pos asked, answer]
            simp only [cold, if_true, clampHead, live, bne_self_eq_false, Bool.false_eq_true,
              if_false, leaveColdStart,
              beq_self_eq_true]
          have moved : (source.pollOnce env).source =
              { source with cachedChainHead := head, nextBlock := head, coldStart := false } := by
            rw [pollOnce, jumped]
          have quiet : PollStep.request? ⟨source, env⟩ = none := by
            rw [PollStep.request?, jumped]
          have after := (pollOnce_cursor sound (heads env List.mem_cons_self)).1
          rw [moved] at after
          rw [quiet, Option.none_or, moved]
          cases rest with
          | nil => exact ⟨fun _ impossible => (by cases impossible),
              fun _ impossible => by cases impossible⟩
          | cons next others =>
              refine ⟨fun first requested => ?_, fun reported isHead positive => ?_⟩
              · have same := firstRequest?_warm _ _ after later live rfl first requested
                exact congrArg some same.symm
              · cases isHead
                refine (firstRequest?_cons { source with cachedChainHead := head, nextBlock := head,
                                                         coldStart := false } next others live).trans ?_
                rw [request?_atHead next rfl positive]
                rfl

end EventSource

end Events

namespace App

open Foundation Events

/-! ## Between two processes -/

/-- The last block of the last range that any of the processes completed. -/
def lastCompleted? (runs : List SourceRun) : Option Nat :=
  (runs.flatMap SourceRun.ranges).getLast?.map Prod.snd

/-- The next process begins at or before the block after the last one that was
completed, be it by the process before it or by an earlier one. -/
def NoSkip (earlier : List SourceRun) (next : SourceRun) : Prop :=
  forall last, lastCompleted? earlier = some last ->
    forall first, next.firstRequest? = some first ->
    first.toNat ≤ last + 1

/-- The first head that the next process reads, and then polls on, is not
beyond the block after the last completed one. -/
def HeadNotPast (earlier : List SourceRun) (next : SourceRun) : Prop :=
  forall last, lastCompleted? earlier = some last ->
    forall head, startHead? (next.steps.map PollStep.env) = some head -> head.toNat ≤ last + 1

/-- What holds between every process and those before it. -/
def AtEachRestart (relation : List SourceRun -> SourceRun -> Prop) (runs : List SourceRun) : Prop :=
  forall earlier next, earlier ++ [next] <+: runs -> relation earlier next

private theorem sound_runFrom (stored chainId : UInt64) :
    (EventSource.create { liveConfig with startBlock := stored } chainId).Sound :=
  EventSource.create_sound _ chainId rfl

/-- A live source polls on every answer. -/
private theorem envs_runFrom (source : EventSource) (envs : List PollEnv) (sound : source.Sound)
    (heads : forall env, env ∈ envs -> EventSource.HeadsBelow env)
    (live : source.config.backtestEndBlock = 0) :
    (source.run envs).steps.map PollStep.env = envs := by
  induction envs generalizing source with
  | nil => rfl
  | cons env rest inductionHypothesis =>
      have after := EventSource.pollOnce_cursor sound (heads env List.mem_cons_self)
      rw [EventSource.run_cons_live source env rest live, List.map_cons,
        inductionHypothesis (source.pollOnce env).source after.1
          (fun other member => heads other (List.mem_cons_of_mem _ member))
            (by rw [after.2.1]; exact live)]

/-- Processes are compared by their polls. -/
private theorem atEachRestart_map (relation : List SourceRun -> SourceRun -> Prop)
    (run : List PollEnv -> SourceRun) (sessions : List (List PollEnv)) :
    AtEachRestart relation (sessions.map run) ↔
      forall earlier next, earlier ++ [next] <+: sessions ->
        relation (earlier.map run) (run next) := by
  constructor
  · intro each earlier next begins
    apply each
    have mapped := begins.map run
    rw [List.map_append] at mapped
    exact mapped
  · rintro each earlier next ⟨behind, whole⟩
    rcases List.map_eq_append_iff.mp whole.symm with ⟨started, _, rfl, same, _⟩
    rcases List.map_eq_append_iff.mp same with ⟨before, last, rfl, rfl, single⟩
    rcases List.map_eq_singleton_iff.mp single with ⟨envs, rfl, rfl⟩
    exact each before envs (List.prefix_append _ _)

private theorem noSkip_of_stored {stored chainId : UInt64} (nonzero : stored ≠ 0)
    {earlier : List (List PollEnv)} {next : List PollEnv}
    (earlierHeads : forall envs, envs ∈ earlier -> forall env, env ∈ envs ->
      EventSource.HeadsBelow env)
    (nextHeads : forall env, env ∈ next -> EventSource.HeadsBelow env) :
    NoSkip (earlier.map (runFrom stored chainId)) (runFrom stored chainId next) := by
  have warm : (EventSource.create { liveConfig with startBlock := stored } chainId).coldStart =
    false :=
    beq_eq_false_iff_ne.mpr nonzero
  intro last completed first requested
  have begins := EventSource.firstRequest?_warm _ next
    (sound_runFrom stored chainId) nextHeads rfl warm first requested
  rcases Option.map_eq_some_iff.mp completed with ⟨interval, isLast, rfl⟩
  -- The process that completed it began at the same block.
  rcases List.mem_flatMap.mp (List.mem_of_getLast? isLast) with ⟨run, listed, member⟩
  rcases List.mem_map.mp listed with ⟨envs, inside, rfl⟩
  have chain := EventSource.run_chain _ envs (sound_runFrom stored chainId) (Or.inl warm)
    (earlierHeads envs inside)
  have bound : stored.toNat ≤ interval.2 := chain.le_of_mem member
  rw [begins]
  exact Nat.le_succ_of_le bound

private theorem noSkip_iff_of_unset {chainId : UInt64} (earlier : List SourceRun)
    {next : List PollEnv} (nextHeads : forall env, env ∈ next -> EventSource.HeadsBelow env) :
    NoSkip earlier (runFrom 0 chainId next) ↔ HeadNotPast earlier (runFrom 0 chainId next) := by
  have begins := EventSource.firstRequest?_cold _ next (sound_runFrom 0 chainId) nextHeads rfl rfl
  have answers := envs_runFrom _ next (sound_runFrom 0 chainId) nextHeads rfl
  unfold NoSkip HeadNotPast
  apply forall_congr'
  intro last
  apply imp_congr_right
  intro _
  rw [show (runFrom 0 chainId next).steps.map PollStep.env = next from answers]
  constructor
  · intro early head isHead
    by_cases zero : head = 0
    · rw [zero]
      exact Nat.zero_le _
    · exact early head (begins.2 head isHead zero)
  · intro near first requested
    exact near first (begins.1 first requested)

/-- Whatever the processes do and wherever they are stopped, no block is
skipped between them exactly when the chain had a stored block from the start,
or each process first reads a head that is at most one past what was completed
last before it. -/
theorem no_block_skipped_iff (database : Database) (chain : String) (chainId : UInt64)
    (sessions : List (List PollEnv))
    (heads : forall envs, envs ∈ sessions -> forall env, env ∈ envs -> EventSource.HeadsBelow env) :
    AtEachRestart NoSkip (launches chain chainId database sessions) ↔
      database.storedBlock chain ≠ 0 ∨
        AtEachRestart HeadNotPast (launches chain chainId database sessions) := by
  rw [launches_eq_map, atEachRestart_map, atEachRestart_map]
  have headsOf : forall {earlier next}, earlier ++ [next] <+: sessions ->
      forall env, env ∈ next -> EventSource.HeadsBelow env := fun begins =>
    heads _ (begins.subset (List.mem_append_right _ (List.mem_singleton.mpr rfl)))
  by_cases unset : database.storedBlock chain = 0
  · rw [unset]
    constructor
    · intro each
      apply Or.inr
      intro earlier next begins
      exact (noSkip_iff_of_unset _ (headsOf begins)).mp (each earlier next begins)
    · rintro (nonzero | each) earlier next begins
      · exact absurd rfl nonzero
      · exact (noSkip_iff_of_unset _ (headsOf begins)).mpr (each earlier next begins)
  · constructor
    · intro _
      exact Or.inl unset
    · intro _ earlier next begins
      refine noSkip_of_stored unset (fun envs member => heads envs ?_) (headsOf begins)
      exact begins.subset (List.mem_append_left _ member)

/-- A node at the given block without logs. -/
private def nodeAt (head : UInt64) : PollEnv where
  latestBlock := .ok head
  getLogs := fun _ _ => .ok []
  blockTimestamp := fun _ => .ok 1700000000
  systemClockMs := 0
  steadyClockMs := fun _ => 0
  scratch := fun _ => Bytes.zeros 32

private theorem atEachRestart_nil (relation : List SourceRun -> SourceRun -> Prop) :
    AtEachRestart relation [] := by
  intro earlier next begins
  have none := List.prefix_nil.mp begins
  exact absurd none (List.append_ne_nil_of_right_ne_nil _ (List.cons_ne_nil _ _))

private theorem atEachRestart_concat {relation : List SourceRun -> SourceRun -> Prop}
    (runs : List SourceRun) {last : SourceRun} (before : AtEachRestart relation runs)
    (atLast : relation runs last) : AtEachRestart relation (runs ++ [last]) := by
  intro earlier next begins
  rcases List.prefix_concat_iff.mp begins with whole | shorter
  · rcases List.append_inj' whole rfl with ⟨rfl, single⟩
    cases single
    exact atLast
  · exact before earlier next shorter

/-- The first process completes block 10 and is stopped, the second one is
stopped before it has read anything, and the third one finds the head at block
11. -/
theorem restart_at_the_next_block :
    (launches "ethereum" 1 ⟨none⟩
      [[nodeAt 10, nodeAt 10], [], [nodeAt 11, nodeAt 11]]).map SourceRun.ranges =
        [[(10, 10)], [], [(11, 11)]] ∧
      AtEachRestart NoSkip
        (launches "ethereum" 1 ⟨none⟩ [[nodeAt 10, nodeAt 10], [], [nodeAt 11, nodeAt 11]]) := by
  refine ⟨by decide +kernel, (no_block_skipped_iff _ _ _ _ ?_).mpr (Or.inr ?_)⟩
  · intro envs member env listed head answered
    simp only [List.mem_cons, List.not_mem_nil, or_false] at member
    rcases member with rfl | rfl | rfl
    · simp only [List.mem_cons, List.not_mem_nil, or_false, or_self] at listed
      rw [listed] at answered
      cases answered
      decide
    · cases listed
    · simp only [List.mem_cons, List.not_mem_nil, or_false, or_self] at listed
      rw [listed] at answered
      cases answered
      decide
  · refine atEachRestart_concat [_, _] (atEachRestart_concat [_]
      (atEachRestart_concat [] (atEachRestart_nil _) ?_) ?_) ?_
    · intro last completed
      cases completed
    · intro last _ head isHead
      cases isHead
    · intro last completed head isHead
      have isTen : some 10 = some last := Eq.trans (by decide +kernel) completed
      have isEleven : some (11 : UInt64) = some head := Eq.trans (by decide +kernel) isHead
      cases isTen
      cases isEleven
      decide

/-- The first process completes block 10 and is stopped; while it is down the
chain moves on to block 20, and the blocks between are never asked for. -/
theorem restart_skips_blocks :
    (launches "ethereum" 1 ⟨none⟩
      [[nodeAt 10, nodeAt 10], [nodeAt 20, nodeAt 20]]).map SourceRun.ranges =
        [[(10, 10)], [(20, 20)]] ∧
      ¬ AtEachRestart NoSkip
        (launches "ethereum" 1 ⟨none⟩ [[nodeAt 10, nodeAt 10], [nodeAt 20, nodeAt 20]]) := by
  refine ⟨by decide +kernel, fun each => ?_⟩
  have early := each [_] _ (List.prefix_refl _) 10 (by decide +kernel) 20 (by decide +kernel)
  exact absurd early (by decide)

end App

end RiskSentinel
