import RiskSentinel.App.Checkpoints
import RiskSentinel.App.Gauges
import RiskSentinel.Chains.LedgerRuns
import RiskSentinel.Risk.TimeBlind

namespace RiskSentinel
namespace App

open Foundation Events Risk Pipeline Chains Rpc

/-!
# What the live program says about the chain

The live program is put together here: the block stored in the database, a
source that polls nodes, the three threads, the rules and the dispatcher.  The
nodes are honest about one ledger and fail as they like.

What has been dispatched so far is always the beginning of what the rules
raise on the ledger between the first block and the cursor, however the
threads interleave, whatever timeouts expire, and also while the program is
stopped.  It is all of it when nothing is under way.
-/

/-- The poll that an action makes, if it makes one. -/
def AppAction.polls : AppAction -> List PollEnv
  | .worker action => action.polls
  | _ => []

variable {Number : Type} [One Number] {text : JsonText Number} {ledger : Ledger}

namespace AppState

/-- The alerts that have been offered to the channels. -/
def offered (state : AppState) : List Alert :=
  (AlertDispatcher.unsuppressed state.threads.history.records).map Delivery.alert

/-- What the rules raise on the logs from the first block up to the cursor, but
for the times. -/
def due (state : AppState) (tables : RuleTables) (ledger : Ledger) (first : Option UInt64) :
    List Alert :=
  RiskEngine.sequentialAlerts tables.registerRules (first.elim [] fun block =>
    ledger.signals block.toNat (state.threads.cursor.nextBlock.toNat - block.toNat))

/-- No signal and no alert is on its way between the threads. -/
structure Idle (state : AppState) : Prop where
  pending : state.threads.pending = []
  ring : state.threads.signalsInRing = []
  undispatched : state.threads.undispatched = []
  held : state.threads.held = []
  queue : state.threads.queue = []

/-- How many signals and alerts are on their way. -/
def underWay (state : AppState) : Nat :=
  state.threads.pending.length + state.threads.signalsInRing.length +
    state.threads.undispatched.length + state.threads.held.length + state.threads.queue.length

theorem idle_of_underWay {state : AppState} (nothing : state.underWay = 0) : state.Idle := by
  simp only [underWay, Nat.add_eq_zero_iff, List.length_eq_zero_iff] at nothing
  rcases nothing with ⟨⟨⟨⟨pending, ring⟩, undispatched⟩, held⟩, queue⟩
  exact ⟨pending, ring, undispatched, held, queue⟩

/-! ## One state -/

private theorem polls_of_step (state : AppState) (action : AppAction) (next : AppState)
    (taken : state.step action = some next) :
    next.threads.history.polls = state.threads.history.polls ++ action.polls := by
  cases action with
  | worker action =>
      rcases Option.map_eq_some_iff.mp taken with ⟨threads, moved, rfl⟩
      exact Threads.polls_of_workerStep moved
  | main =>
      have unmoved : next.threads.history = state.threads.history := by
        cases move_of_mainStep taken with
        | pillPushed here threads pushed =>
            rw [(Threads.tryPushPill_eq_some pushed).2]
        | stopRequested | sourceStopped | waits | engineAwaited | engineStopped
            | dispatcherStopped | sourceJoined
        | engineJoined | dispatcherJoined => rfl
      rw [unmoved]
      exact (List.append_nil _).symm
  | deadline =>
      simp only [AppState.step, deadlineStep] at taken
      split at taken
      · cases taken
        exact (List.append_nil _).symm
      · cases taken
        exact (List.append_nil _).symm
      · cases taken

section OneState

variable {source : EventSource} {engine : RiskEngine} {dispatcher : AlertDispatcher}
    {state : AppState}

/-- What has been dispatched is the beginning of what the engine raises on all
that the source has handed over. -/
private theorem Settled.dispatched_begins (settled : state.Settled source engine dispatcher) :
    state.threads.history.dispatched <+:
        RiskEngine.sequentialAlerts engine.rules (source.run state.threads.history.polls).pushed ∧
      (state.Idle -> state.threads.history.dispatched =
        RiskEngine.sequentialAlerts engine.rules
          (source.run state.threads.history.polls).pushed) := by
  have consistent := settled.consistent
  have dispatched := consistent.dispatched
  rw [RiskEngine.processAll_alerts] at dispatched
  constructor
  · have begins : state.threads.history.evaluated <+:
        (source.run state.threads.history.polls).pushed := by
      rw [consistent.pushed, consistent.evaluated, List.append_assoc]
      exact List.prefix_append _ _
    refine List.IsPrefix.trans ?_ (RiskEngine.sequentialAlerts_prefix engine.rules begins)
    rw [dispatched]
    exact List.prefix_append _ _
  · intro idle
    rw [consistent.pushed, consistent.evaluated, idle.pending, idle.ring, List.append_nil,
      List.append_nil,
      dispatched, idle.undispatched, List.append_nil]

/-- Every alert that was delivered has an offered one with its key, and the
offered ones stand in the order of dispatch. -/
private theorem Settled.offered_of_dispatched
    (settled : state.Settled source engine dispatcher)
    (fresh : dispatcher.deduplicator.FiredOnly []) :
    state.offered.Sublist state.threads.history.dispatched ∧
      (state.Idle -> forall alert, alert ∈ state.threads.history.dispatched ->
        Exists fun sent => sent ∈ state.offered ∧ buildKey sent = buildKey alert) := by
  have consistent := settled.consistent
  have decided := AlertDispatcher.map_timed_unsuppressed dispatcher state.threads.history.deliveries
  rw [consistent.delivered] at decided
  have offered : state.offered = (dispatcher.deduplicator.letThrough
      (state.threads.history.deliveries.map Delivery.timed)).map TimedAlert.alert := by
    rw [← decided, List.map_map]
    rfl
  have deliveries : (state.threads.history.deliveries.map Delivery.timed).map TimedAlert.alert =
      state.threads.history.deliveries.map Delivery.alert := by
    rw [List.map_map]
    rfl
  constructor
  · have kept := (dispatcher.deduplicator.letThrough_sublist
      (state.threads.history.deliveries.map Delivery.timed)).map TimedAlert.alert
    rw [← offered, deliveries] at kept
    rw [consistent.taken, List.append_assoc]
    exact kept.trans (List.sublist_append_left _ _)
  · intro idle alert dispatched
    rw [consistent.taken, idle.held, idle.queue, List.append_nil, List.append_nil, ← deliveries]
      at dispatched
    rcases List.mem_map.mp dispatched with ⟨item, member, rfl⟩
    rcases AlertDeduplicator.key_of_letThrough fresh _ member with impossible | ⟨sent, passed, same⟩
    · cases impossible
    · exact ⟨sent.alert, offered ▸ List.mem_map_of_mem passed, same⟩

end OneState

/-! ## Every run -/

private theorem fresh_appDispatcher (config : DeduplicatorConfig) (channels : List String) :
    (MeteredApp.appDispatcher config channels).deduplicator.FiredOnly [] := by
  rw [MeteredApp.appDispatcher_keeps AlertDispatcher.deduplicator fun _ _ => rfl]
  exact fun _ _ => rfl

/-- The program as it starts its threads, with what it has read from the
database and from a node. -/
def launched (database : Database) (chain : String) (tables : RuleTables)
    (config : DeduplicatorConfig) (channels : List String) (capacity : Nat)
    (chainId : UInt64) : AppState :=
  start capacity (.create (initDb database chain).2 chainId) (.ofRules tables.registerRules)
    (MeteredApp.appDispatcher config channels)

end AppState

/-- A run of the live program whose polls meet nodes that are honest about the
ledger.  The node that tells the chain at the start is one of them. -/
structure LedgerRun (text : JsonText Number) (ledger : Ledger) where
  database : Database
  chain : String
  tables : RuleTables
  config : DeduplicatorConfig
  channels : List String
  capacity : Nat
  startup : NodeVisit text ledger
  chainId : UInt64
  started : EvmAdapter.chainId (rpcCall text startup.endpoint) = .ok chainId
  visits : List (NodeVisit text ledger)
  growing : NodeVisit.Growing visits
  actions : List AppAction
  met : actions.flatMap AppAction.polls = visits.map fun visit => visit.toVisit.env
  final : AppState
  ran : runActions AppState.step
    (AppState.launched database chain tables config channels capacity chainId) actions = some final

namespace LedgerRun

variable (run : LedgerRun text ledger)

/-- The block at which the source begins. -/
def origin : Option UInt64 :=
  EventSource.origin (initDb run.database run.chain).2
    (run.visits.map fun visit => visit.toVisit.env)

/-- What the rules raise on the ledger up to the cursor. -/
def due : List Alert :=
  run.final.due run.tables ledger run.origin

private theorem settled :
    run.final.Settled (.create (initDb run.database run.chain).2 run.chainId)
      (.ofRules run.tables.registerRules)
        (MeteredApp.appDispatcher run.config run.channels) ∧
      run.final.threads.history.polls = run.visits.map fun visit => visit.toVisit.env := by
  constructor
  · exact invariant_of_run AppState.step
      (fun state => state.Settled (.create (initDb run.database run.chain).2 run.chainId)
        (.ofRules run.tables.registerRules) (MeteredApp.appDispatcher run.config run.channels))
      (fun _ _ _ settled taken => settled.step taken) (AppState.start_settled run.capacity) run.ran
  · exact (log_of_run AppState.step
      (fun state => state.threads.history.polls) AppAction.polls AppState.polls_of_step
      run.ran).trans run.met

/-- The alerts dispatched so far begin those that are due, and are all of them
when nothing is under way. -/
theorem dispatched_begins :
    run.final.threads.history.dispatched.map Alert.untimed <+: run.due ∧
      (run.final.Idle -> run.final.threads.history.dispatched.map Alert.untimed = run.due) := by
  have facts := run.settled
  rw [chainId_of_honest run.startup.honest run.started] at facts
  have raised := facts.1.dispatched_begins
  have cursor := facts.1.consistent.cursor
  rw [facts.2] at raised cursor
  have smallest : (initDb run.database run.chain).2.minBlockRange = 1 := rfl
  have pushed := pushed_run smallest run.growing
  -- What is due is what the engine raises on the signals, but for the times.
  have due : run.due = (RiskEngine.sequentialAlerts run.tables.registerRules
      (NodeVisit.run (initDb run.database run.chain).2 ledger.chainId run.visits).pushed).map
        Alert.untimed := by
    rw [← RiskEngine.sequentialAlerts_untimed, LedgerRun.due, LedgerRun.origin,
      AppState.due, ← cursor]
    cases begins : EventSource.origin (initDb run.database run.chain).2
        (run.visits.map fun visit => visit.toVisit.env) with
    | none | some block =>
        rw [begins] at pushed
        rw [pushed]
        rfl
  rw [RiskEngine.ofRules_rules] at raised
  rw [due]
  exact ⟨raised.1.map Alert.untimed, fun idle => congrArg (List.map Alert.untimed) (raised.2 idle)⟩

/-- What is offered has been dispatched, and when nothing is under way every
key that was dispatched has been offered. -/
theorem offered_of_dispatched :
    run.final.offered.Sublist run.final.threads.history.dispatched ∧
      (run.final.Idle -> forall alert,
        alert ∈ run.final.threads.history.dispatched.map Alert.untimed ->
        Exists fun sent => sent ∈ run.final.offered ∧ buildKey sent = buildKey alert) := by
  have offered := run.settled.1.offered_of_dispatched
    (AppState.fresh_appDispatcher run.config run.channels)
  refine ⟨offered.1, fun idle alert listed => ?_⟩
  rcases List.mem_map.mp listed with ⟨timed, member, rfl⟩
  exact offered.2 idle timed member

/-- In every state of every run whose polls meet nodes that are honest about
the ledger: the alerts dispatched are the beginning of those that are due, and
the alerts offered to the channels are among them and in their order.  When
nothing is under way, all that are due have been dispatched, and every one of
their keys has been offered. -/
theorem alerts_of_ledger :
    run.final.threads.history.dispatched.map Alert.untimed <+: run.due ∧
      (run.final.offered.map Alert.untimed).Sublist run.due ∧
      (run.final.Idle -> run.final.threads.history.dispatched.map Alert.untimed = run.due ∧
        forall alert, alert ∈ run.due ->
          Exists fun sent => sent ∈ run.final.offered ∧ buildKey sent = buildKey alert) := by
  have dispatched := run.dispatched_begins
  have offered := run.offered_of_dispatched
  refine ⟨dispatched.1, (offered.1.map Alert.untimed).trans dispatched.1.sublist, fun idle => ?_⟩
  have complete := dispatched.2 idle
  exact ⟨complete, fun alert listed => offered.2 idle alert (complete ▸ listed)⟩

/-- A program that begins at a stored block.  When enough of its polls have
been answered by nodes at or past the target, whatever happened to the others,
and nothing is under way, the rules have been applied to all blocks up to the
target: their alerts have been dispatched before any others, and every key has
been offered.  One answer more than the blocks need is asked for, because an
earlier poll may have left a lower head behind. -/
theorem alerts_up_to_target (stored : run.database.storedBlock run.chain ≠ 0) (target : UInt64)
    (answeredIn : NodeVisit text ledger -> Bool)
    (reached : forall visit, visit ∈ run.visits -> answeredIn visit = true -> target ≤ visit.head)
    (answered : forall visit, visit ∈ run.visits -> answeredIn visit = true ->
      Responsive text visit.head visit.endpoint)
    (enough : target.toNat + 1 ≤ (run.database.storedBlock run.chain).toNat +
      (run.visits.countP answeredIn - 1) * 1000)
    (idle : run.final.Idle) :
    let due := RiskEngine.sequentialAlerts run.tables.registerRules
      (ledger.signals (run.database.storedBlock run.chain).toNat
        (target.toNat + 1 - (run.database.storedBlock run.chain).toNat))
    due <+: run.final.threads.history.dispatched.map Alert.untimed ∧
      forall alert, alert ∈ due -> Exists fun sent => sent ∈ run.final.offered ∧
      buildKey sent = buildKey alert := by
  have config := (initDb_storedBlock run.database run.chain).2
  have begins : run.origin = some (run.database.storedBlock run.chain) := by
    rw [origin, config]
    exact if_neg (by simp [stored])
  have facts := run.settled
  rw [chainId_of_honest run.startup.honest run.started] at facts
  have cursor := facts.1.consistent.cursor
  have smallest : (initDb run.database run.chain).2.minBlockRange = 1 := rfl
  have far : target.toNat + 1 ≤
      (NodeVisit.run (initDb run.database run.chain).2 ledger.chainId
        run.visits).final.nextBlock.toNat := by
    apply cursor_past_target smallest run.growing _ target answeredIn reached _ answered _
    · rw [config]
      exact stored
    · rw [config]
      exact fun impossible => (impossible rfl).elim
    · rw [config]
      exact enough
  have prefixed : RiskEngine.sequentialAlerts run.tables.registerRules (ledger.signals
      (run.database.storedBlock run.chain).toNat
          (target.toNat + 1 - (run.database.storedBlock run.chain).toNat)) <+:
        run.final.threads.history.dispatched.map Alert.untimed := by
    rw [run.dispatched_begins.2 idle, due, begins]
    apply RiskEngine.sequentialAlerts_prefix
    apply Ledger.signals_prefix
    rw [← cursor, facts.2]
    exact Nat.sub_le_sub_right far _
  exact ⟨prefixed, fun alert listed => run.offered_of_dispatched.2 idle alert
    (prefixed.subset listed)⟩

/-! ## A stored block -/

/-- The next process is to begin at block 5. -/
def storedFive : Database :=
  ⟨some (DbCheckpointStore.upsertCheckpoint Table.empty "ethereum" 5)⟩

/-- One customer watches the contract that is paused. -/
def watchesPauses : RuleTables :=
  { RuleTables.empty with
    governanceRulesByContract := Table.empty.assign ⟨1, bytesToHex (Bytes.ofNat 20 0xaa)⟩
      [⟨1, 1, bytesToHex (Bytes.ofNat 20 0xaa), true, none⟩] }

/-- One batch is fetched and goes through all threads. -/
def onceThrough : List AppAction :=
  [.worker .dispatcherStart, .worker .sourceCheck, .worker (.sourcePoll atSeven.toVisit.env),
    .worker .sourcePush,
    .worker .sourcePush, .worker .engineCheck, .worker .engineRead, .worker .engineDispatch,
    .worker .engineDispatch, .worker .dispatcherTake,
    .worker (.dispatcherDeliver 1800000000000 fun _ => .sent)]

/-- The process that begins there, with any rules. -/
abbrev fromStoredFive (tables : RuleTables) : AppState :=
  AppState.launched storedFive "ethereum" tables .production ["console"] 65536 1

/-- A run of it that polls nodes which serve the ledger. -/
def ofPolls {tables : RuleTables} {actions : List AppAction} {final : AppState}
    (visits : List (NodeVisit compactText onePause)) (growing : NodeVisit.Growing visits)
    (met : actions.flatMap AppAction.polls = visits.map fun visit => visit.toVisit.env)
    (ran : runActions AppState.step (fromStoredFive tables) actions = some final) :
    LedgerRun compactText onePause where
  database := storedFive
  chain := "ethereum"
  tables := tables
  config := .production
  channels := ["console"]
  capacity := 65536
  startup := atSeven
  chainId := 1
  started := chainId_serve compactText onePause 7
  visits := visits
  growing := growing
  actions := actions
  met := met
  final := final
  ran := ran

/-- A run of it in which one poll is made. -/
def ofOnePoll {tables : RuleTables} {actions : List AppAction} {final : AppState}
    (met : actions.flatMap AppAction.polls = [atSeven.toVisit.env])
    (ran : runActions AppState.step (fromStoredFive tables) actions = some final) :
    LedgerRun compactText onePause :=
  ofPolls [atSeven] (List.pairwise_singleton _ _) met ran

theorem origin_ofOnePoll {tables : RuleTables} {actions : List AppAction} {final : AppState}
    (met : actions.flatMap AppAction.polls = [atSeven.toVisit.env])
    (ran : runActions AppState.step (fromStoredFive tables) actions = some final) :
    (ofOnePoll met ran).origin = some 5 :=
  rfl

theorem onceThrough_runs :
    Exists fun final => runActions AppState.step
      (fromStoredFive watchesPauses) onceThrough = some final ∧
      final.threads.history.dispatched.length = 1 ∧ final.threads.cursor.nextBlock = 8 ∧
      final.Idle := by
  have shape : (runActions AppState.step (fromStoredFive watchesPauses) onceThrough).map
      (fun final =>
      (final.threads.history.dispatched.length, final.threads.cursor.nextBlock, final.underWay)) =
        some (1, 8, 0) := by
    rw [onceThrough, atSeven, NodeVisit.env_served]
    decide +kernel
  rcases Option.map_eq_some_iff.mp shape with ⟨final, ran, facts⟩
  simp only [Prod.mk.injEq] at facts
  exact ⟨final, ran, facts.1, facts.2.1, AppState.idle_of_underWay facts.2.2⟩

/-- The one alert there is has been dispatched. -/
theorem alerts_of_onePause :
    Exists fun run : LedgerRun compactText onePause => run.tables = watchesPauses ∧
      run.final.threads.history.dispatched.length = 1 ∧
      run.final.threads.history.dispatched.map Alert.untimed = run.due := by
  rcases onceThrough_runs with ⟨final, ran, one, _, idle⟩
  exact ⟨ofOnePoll rfl ran, rfl, one, ((alerts_of_ledger (ofOnePoll rfl ran)).2.2 idle).1⟩

/-- The batch goes through all threads, and a second poll finds nothing
new. -/
private def polledTwice : List AppAction :=
  onceThrough ++
    [.worker .sourceCheck, .worker (.sourcePoll atSeven.toVisit.env), .worker .sourcePush]

private theorem polledTwice_runs :
    Exists fun final =>
      runActions AppState.step (fromStoredFive watchesPauses) polledTwice = some final ∧
        final.Idle := by
  have shape : (runActions AppState.step (fromStoredFive watchesPauses) polledTwice).map
      AppState.underWay = some 0 := by
    rw [polledTwice, onceThrough, atSeven, NodeVisit.env_served]
    decide +kernel
  rcases Option.map_eq_some_iff.mp shape with ⟨final, ran, nothing⟩
  exact ⟨final, ran, AppState.idle_of_underWay nothing⟩

/-- Two polls that are answered are enough for the blocks up to 7. -/
theorem alerts_up_to_seven :
    Exists fun run : LedgerRun compactText onePause =>
      RiskEngine.sequentialAlerts watchesPauses.registerRules (onePause.signals 5 3) <+:
        run.final.threads.history.dispatched.map Alert.untimed ∧
      (RiskEngine.sequentialAlerts watchesPauses.registerRules
        (onePause.signals 5 3)).length = 1 := by
  rcases polledTwice_runs with ⟨final, ran, idle⟩
  have growing : NodeVisit.Growing [atSeven, atSeven] := List.pairwise_pair.mpr (by decide)
  have isServed : forall visit, visit ∈ [atSeven, atSeven] -> visit = atSeven := by
    intro visit listed
    simpa using listed
  have reached : forall visit, visit ∈ [atSeven, atSeven] -> true = true -> 7 ≤ visit.head := by
    intro visit listed _
    rw [isServed visit listed]
    decide
  have answered : forall visit, visit ∈ [atSeven, atSeven] -> true = true ->
      Responsive compactText visit.head visit.endpoint := by
    intro visit listed _
    rw [isServed visit listed]
    exact responsive_serve compactText onePause 7
  have stored : storedFive.storedBlock "ethereum" ≠ 0 := by decide
  have enough : (7 : UInt64).toNat + 1 ≤
      (storedFive.storedBlock "ethereum").toNat + (2 - 1) * 1000 := by decide
  have facts := alerts_up_to_target (ofPolls [atSeven, atSeven] growing rfl ran) stored 7
    (fun _ => true) reached answered enough idle
  exact ⟨ofPolls [atSeven, atSeven] growing rfl ran, facts.1, by decide +kernel⟩

end LedgerRun

end App
end RiskSentinel
