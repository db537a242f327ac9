import RiskSentinel.App.Shutdown
import RiskSentinel.Health.HealthChecks
import RiskSentinel.Rpc.JsonRpcClient

namespace RiskSentinel
namespace Health

open Foundation Events Risk Pipeline App Rpc

/-!
# The readiness endpoint over runs

Each of the three threads records its heartbeat when it enters the body of its
loop and nowhere else.  In between the source polls the node and pushes a whole
batch, the engine evaluates one signal, and the dispatcher waits for a second
at most or delivers one alert.

The server answers in a thread of its own.  The other threads go on while it
reads one value after another, so an evaluation is a sequence of states of one
run, in the order of its readings.  The endpoint answers 200 exactly when every
thread had entered its loop recently enough before its heartbeat was read, and
the database and the node have answered.
-/

/-! ## The heartbeats -/

inductive Worker where
  | eventSource
  | riskEngine
  | dispatcher
deriving DecidableEq, Repr

/-- The program with the steady clock and its heartbeats.  The history of the
passes is not part of the program. -/
structure TimedApp where
  app : AppState
  clockMs : UInt64
  beats : Worker -> Heartbeat
  passes : Worker -> List UInt64

inductive TimedAction where
  | app (action : AppAction)
  | tick (nowMs : UInt64)

/-- The thread that enters the body of its loop in a step.  The dispatcher does
so whenever it comes to its wait, also after a wait that ended with nothing. -/
def entered (action : AppAction) (after : AppState) : Option Worker :=
  match action with
  | .worker .sourceCheck =>
      match after.threads.sourceAt with
      | .polling => some .eventSource
      | _ => none
  | .worker .engineCheck =>
      match after.threads.engineAt with
      | .reading => some .riskEngine
      | _ => none
  | .worker .dispatcherStart | .worker .dispatcherTake | .worker (.dispatcherDeliver _ _) =>
      match after.threads.dispatcherAt with
      | .waiting => some .dispatcher
      | _ => none
  | _ => none

namespace TimedApp

def start (capacity : Nat) (source : EventSource) (engine : RiskEngine)
    (dispatcher : AlertDispatcher) (clockMs : UInt64) : TimedApp where
  app := .start capacity source engine dispatcher
  clockMs := clockMs
  beats _ := {}
  passes _ := []

/-- `Heartbeat::record`. -/
def record (state : TimedApp) (worker : Worker) : TimedApp :=
  { state with
    beats := fun other => if other = worker then { lastMs := state.clockMs } else state.beats other
    passes := fun other => if other = worker then state.clockMs :: state.passes other
      else state.passes other }

/-- The steady clock does not go back. -/
def step (state : TimedApp) : TimedAction -> Option TimedApp
  | .app action =>
      (state.app.step action).map fun app =>
        match entered action app with
        | some worker => { state with app := app }.record worker
        | none => { state with app := app }
  | .tick nowMs => if state.clockMs ≤ nowMs then some { state with clockMs := nowMs } else none

/-- The heartbeat of a thread is the time of its last pass, zero before the
first, and the passes are in the order of the clock. -/
structure Invariant (state : TimedApp) : Prop where
  last : forall worker, (state.beats worker).lastMs = (state.passes worker).headD 0
  ordered : forall worker, (state.clockMs :: state.passes worker).Pairwise
    (fun later earlier => earlier ≤ later)

variable {state next : TimedApp}

private theorem start_invariant (capacity : Nat) (source : EventSource) (engine : RiskEngine)
    (dispatcher : AlertDispatcher) (clockMs : UInt64) :
    (start capacity source engine dispatcher clockMs).Invariant where
  last _ := rfl
  ordered _ := List.pairwise_singleton _ _

private theorem Invariant.record (invariant : state.Invariant) (worker : Worker) :
    (state.record worker).Invariant where
  last other := by
    simp only [TimedApp.record]
    by_cases here : other = worker
    · rw [if_pos here, if_pos here]
      rfl
    · rw [if_neg here, if_neg here]
      exact invariant.last other
  ordered other := by
    have before := invariant.ordered other
    simp only [TimedApp.record]
    by_cases here : other = worker
    · rw [if_pos here, List.pairwise_cons]
      refine ⟨fun time listed => ?_, before⟩
      rcases List.mem_cons.mp listed with rfl | earlier
      · exact UInt64.le_refl _
      · exact (List.pairwise_cons.mp before).1 time earlier
    · rw [if_neg here]
      exact before

private theorem Invariant.step {action : TimedAction} (invariant : state.Invariant)
    (taken : state.step action = some next) : next.Invariant := by
  cases action with
  | app action =>
      rcases Option.map_eq_some_iff.mp taken with ⟨app, moved, rfl⟩
      have same : ({ state with app := app } : TimedApp).Invariant :=
        ⟨invariant.last, invariant.ordered⟩
      cases entered action app with
      | none => exact same
      | some worker => exact same.record worker
  | tick nowMs =>
      simp only [TimedApp.step] at taken
      split at taken
      · rename_i forward
        cases taken
        refine ⟨invariant.last, fun worker => ?_⟩
        have before := List.pairwise_cons.mp (invariant.ordered worker)
        exact List.pairwise_cons.mpr
          ⟨fun time listed => UInt64.le_trans (before.1 time listed) forward, before.2⟩
      · cases taken

/-- The later state comes after the earlier one in some run. -/
def Precedes (earlier later : TimedApp) : Prop :=
  Exists fun actions => runActions step earlier actions = some later

theorem Precedes.refl (state : TimedApp) : state.Precedes state :=
  ⟨[], rfl⟩

theorem Precedes.trans {first second third : TimedApp} (earlier : first.Precedes second)
    (later : second.Precedes third) : first.Precedes third := by
  rcases earlier with ⟨before, reached⟩
  rcases later with ⟨behind, goesOn⟩
  refine ⟨before ++ behind, ?_⟩
  rw [runActions_append, reached, Option.bind_some, goesOn]

instance : Trans Precedes Precedes Precedes where
  trans := Precedes.trans

/-- A pass is not forgotten. -/
private theorem passes_of_step {action : TimedAction} (taken : state.step action = some next)
    {worker : Worker} {time : UInt64} (passed : time ∈ state.passes worker) :
    time ∈ next.passes worker := by
  cases action with
  | app action =>
      rcases Option.map_eq_some_iff.mp taken with ⟨app, moved, rfl⟩
      cases entered action app with
      | none => exact passed
      | some other =>
          simp only [record]
          split
          · exact List.mem_cons_of_mem _ passed
          · exact passed
  | tick nowMs =>
      simp only [step] at taken
      split at taken
      · cases taken
        exact passed
      · cases taken

theorem Precedes.passes {later : TimedApp} (order : state.Precedes later)
    {worker : Worker} {time : UInt64} (passed : time ∈ state.passes worker) :
    time ∈ later.passes worker := by
  rcases order with ⟨actions, ran⟩
  exact invariant_of_run step (fun reached => time ∈ reached.passes worker)
    (fun _ _ _ before taken => passes_of_step taken before) passed ran

/-- A heartbeat satisfies a bound from below exactly when some pass does. -/
theorem Invariant.beat_iff (invariant : state.Invariant) (worker : Worker) (bound : Nat) :
    ((state.beats worker).lastMs ≠ 0 ∧ bound ≤ (state.beats worker).lastMs.toNat) ↔
      Exists fun time => time ∈ state.passes worker ∧ time ≠ 0 ∧ bound ≤ time.toNat := by
  rw [invariant.last worker]
  have ordered := (List.pairwise_cons.mp (invariant.ordered worker)).2
  cases passed : state.passes worker with
  | nil =>
      constructor
      · rintro ⟨impossible, _⟩
        exact absurd rfl impossible
      · rintro ⟨time, impossible, _⟩
        cases impossible
  | cons last earlier =>
      rw [passed] at ordered
      constructor
      · rintro ⟨recorded, late⟩
        exact ⟨last, List.mem_cons_self, recorded, late⟩
      · rintro ⟨time, listed, recorded, late⟩
        have below : time ≤ last := by
          rcases List.mem_cons.mp listed with rfl | before
          · exact UInt64.le_refl _
          · exact (List.pairwise_cons.mp ordered).1 time before
        have order := UInt64.le_iff_toNat_le.mp below
        refine ⟨?_, Nat.le_trans late order⟩
        rintro (rfl : last = 0)
        exact recorded (UInt64.le_antisymm below UInt64.zero_le)

end TimedApp

/-! ## The endpoint -/

structure HttpResponse where
  status : Nat
  body : String
  contentType : String
deriving DecidableEq, Repr

section Endpoint

variable {Number : Type}

def checkJson (result : CheckResult) : JsonTree Number :=
  .object [("detail", .text result.detail), ("ok", .boolean result.ok)]

/-- The members of the payload in the order of its objects. -/
def ReadinessReport.payload (report : ReadinessReport) : JsonTree Number :=
  .object [("checks", .object (JsonTree.ofEntries checkJson report.checks.entries)),
    ("ready", .boolean report.ready)]

/-- What `/readyz` answers. -/
def readyz (text : JsonText Number) (report : ReadinessReport) : HttpResponse where
  status := if report.ready then 200 else 503
  body := text.dump report.payload
  contentType := "application/json"

private theorem canonical_checkJson (result : CheckResult) :
    (checkJson result : JsonTree Number).Canonical := by
  apply JsonTree.Canonical.object
  · change List.Pairwise (· < ·) ["detail", "ok"]
    decide
  · intro member listed
    simp only [List.mem_cons, List.not_mem_nil, or_false] at listed
    rcases listed with rfl | rfl
    · exact .text _
    · exact .boolean _

theorem canonical_payload (report : ReadinessReport) :
    (report.payload : JsonTree Number).Canonical := by
  apply JsonTree.Canonical.object
  · change List.Pairwise (· < ·) ["checks", "ready"]
    decide
  · intro member listed
    simp only [List.mem_cons, List.not_mem_nil, or_false] at listed
    rcases listed with rfl | rfl
    · exact JsonTree.canonical_ofEntries checkJson canonical_checkJson _
    · exact .boolean _

/-- The body can be read back: it says whether the report is ready, and has
every check of it under its name. -/
theorem parse_readyz (text : JsonText Number) (report : ReadinessReport) :
    Exists fun reply => text.parse (readyz text report).body = .ok reply ∧
      reply.find? "ready" = some (.boolean report.ready) ∧
      forall name, (reply.find? "checks").bind (JsonTree.find? name) =
        (report.checks.find? name).map checkJson := by
  refine ⟨report.payload, text.parse_dump _ (canonical_payload report), rfl, fun name => ?_⟩
  exact JsonTree.lookup_ofEntries checkJson _ report.checks.keys_nodup name

end Endpoint

/-! ## An evaluation during a run -/

section Runs

variable {capacity : Nat} {source : EventSource} {engine : RiskEngine}
    {dispatcher : AlertDispatcher} {startMs : UInt64}

/-- The states in which the readings of one evaluation are made: that of the
clock, and those of the heartbeats for the first and for the second of the two
checks. -/
structure Evaluation (capacity : Nat) (source : EventSource) (engine : RiskEngine)
    (dispatcher : AlertDispatcher) (startMs : UInt64) where
  clock : TimedApp
  alive : Worker -> TimedApp
  recorded : Worker -> TimedApp
  inOrder : List.IsChain TimedApp.Precedes [.start capacity source engine dispatcher startMs, clock,
    alive .eventSource, alive .riskEngine, alive .dispatcher,
    recorded .eventSource, recorded .riskEngine, recorded .dispatcher]

namespace Evaluation

variable (evaluation : Evaluation capacity source engine dispatcher startMs)

/-- Each thread's heartbeat as it is read in these states. -/
def beatsAt (states : Worker -> TimedApp) : Heartbeats where
  eventSource := some ((states .eventSource).beats .eventSource)
  riskEngine := some ((states .riskEngine).beats .riskEngine)
  dispatcher := some ((states .dispatcher).beats .dispatcher)

/-- The inputs that `init_modules_` wires up: a client without metrics has no
last success. -/
def inputs {Number : Type} (dbAnswers : Bool) (client : JsonRpcClient Number) (nowS : UInt64) :
    HealthCheckInputs where
  steadyNowMs := evaluation.clock.clockMs
  alive := beatsAt evaluation.alive
  dbProbe := some dbAnswers
  rpcLastSuccessUnixS := some ((client.metrics.map RpcMetrics.lastSuccess).getD 0)
  systemNowS := nowS
  recorded := beatsAt evaluation.recorded

/-- The thread entered its loop before its heartbeat was read, and not longer
than the limit before the clock was read. -/
def PassedRecently (config : HealthChecksConfig) (worker : Worker) : Prop :=
  Exists fun time => time ∈ (evaluation.alive worker).passes worker ∧ time ≠ 0 ∧
    evaluation.clock.clockMs.toNat ≤ time.toNat + config.heartbeatMaxAgeMs.toNat

private theorem sorted :
    List.Pairwise TimedApp.Precedes [.start capacity source engine dispatcher startMs,
    evaluation.clock, evaluation.alive .eventSource, evaluation.alive .riskEngine,
    evaluation.alive .dispatcher, evaluation.recorded .eventSource, evaluation.recorded .riskEngine,
    evaluation.recorded .dispatcher] :=
  List.isChain_iff_pairwise.mp evaluation.inOrder

private theorem invariant_of_started {state : TimedApp}
    (reached : TimedApp.Precedes (.start capacity source engine dispatcher startMs) state) :
    state.Invariant := by
  rcases reached with ⟨actions, ran⟩
  exact invariant_of_run TimedApp.step TimedApp.Invariant
    (fun _ _ _ before taken => before.step taken)
    (TimedApp.start_invariant capacity source engine dispatcher startMs) ran

private theorem alive_invariant (worker : Worker) : (evaluation.alive worker).Invariant := by
  have first := (List.pairwise_cons.mp evaluation.sorted).1
  cases worker <;> exact invariant_of_started (first _ (by simp))

private theorem recorded_invariant (worker : Worker) : (evaluation.recorded worker).Invariant := by
  have first := (List.pairwise_cons.mp evaluation.sorted).1
  cases worker <;> exact invariant_of_started (first _ (by simp))

/-- The second reading of a heartbeat is later than the first. -/
private theorem alive_precedes_recorded (worker : Worker) :
    (evaluation.alive worker).Precedes (evaluation.recorded worker) := by
  have sorted := evaluation.sorted
  simp only [List.pairwise_cons, List.mem_cons, List.not_mem_nil, or_false, forall_eq_or_imp,
    forall_eq] at sorted
  cases worker
  · exact sorted.2.2.1.2.2.1
  · exact sorted.2.2.2.1.2.2.1
  · exact sorted.2.2.2.2.1.2.2

/-- Below the largest limit, a heartbeat is fresh exactly when the thread has
passed recently. -/
private theorem fresh_iff_passed {config : HealthChecksConfig}
    (bounded : config.heartbeatMaxAgeMs ≠ 0xFFFFFFFFFFFFFFFF) (worker : Worker) :
    Fresh config evaluation.clock.clockMs (some ((evaluation.alive worker).beats worker)) ↔
      evaluation.PassedRecently config worker := by
  have passed := (evaluation.alive_invariant worker).beat_iff worker
    (evaluation.clock.clockMs.toNat - config.heartbeatMaxAgeMs.toNat)
  simp only [Nat.sub_le_iff_le_add] at passed
  rw [PassedRecently, ← passed]
  constructor
  · rintro ⟨beat, same, young⟩
    cases same
    by_cases recorded : ((evaluation.alive worker).beats worker).lastMs = 0
    · rw [Heartbeat.ageMs, if_pos recorded] at young
      have largest : config.heartbeatMaxAgeMs ≤ 0xFFFFFFFFFFFFFFFF := by
        have fits := config.heartbeatMaxAgeMs.toNat_lt
        exact UInt64.le_iff_toNat_le.mpr (Nat.le_of_lt_succ fits)
      exact absurd (UInt64.le_antisymm largest young) bounded
    · exact ⟨recorded, (Heartbeat.ageMs_le_iff recorded _ _).mp young⟩
  · rintro ⟨recorded, young⟩
    exact ⟨_, rfl, (Heartbeat.ageMs_le_iff recorded _ _).mpr young⟩

/-- What has been found fresh is found recorded later. -/
private theorem recorded_of_passed {config : HealthChecksConfig} {worker : Worker}
    (passed : evaluation.PassedRecently config worker) :
    Recorded (some ((evaluation.recorded worker).beats worker)) := by
  rcases passed with ⟨time, listed, nonzero, _⟩
  have later := (evaluation.alive_precedes_recorded worker).passes listed
  have beat := ((evaluation.recorded_invariant worker).beat_iff worker 0).mpr
    ⟨time, later, nonzero, Nat.zero_le _⟩
  exact ⟨_, rfl, beat.1⟩

private theorem forall_threads (states : Worker -> TimedApp) (property : Option Heartbeat -> Prop) :
    (forall thread, thread ∈ (beatsAt states).threads -> property thread.1) ↔
      forall worker, property (some ((states worker).beats worker)) := by
  simp only [Heartbeats.threads, beatsAt, List.mem_cons, List.not_mem_nil, or_false,
    forall_eq_or_imp, forall_eq]
  constructor
  · rintro ⟨first, second, third⟩ worker
    cases worker
    · exact first
    · exact second
    · exact third
  · intro every
    exact ⟨every .eventSource, every .riskEngine, every .dispatcher⟩

/-- `/readyz` during any run of the program, after any calls to the node, with
any limit but the largest: it answers 200 exactly when every thread has entered
its loop recently, the database answered, and the last successful call was
recent or there was none.  Otherwise it answers 503.  The body says the same
and gives every check. -/
theorem readyz_of_run {Number : Type} [One Number] (text : JsonText Number)
    (config : HealthChecksConfig) (bounded : config.heartbeatMaxAgeMs ≠ 0xFFFFFFFFFFFFFFFF)
    (dbAnswers : Bool) (calls : List (JsonRpcClient.Call Number)) (nowS : UInt64) :
    let inputs := evaluation.inputs dbAnswers
      (JsonRpcClient.callAll ⟨text, some .register⟩ calls) nowS
    let response := readyz text (evaluateReadiness inputs config)
    (response.status = 200 ↔
      (forall worker, evaluation.PassedRecently config worker) ∧ dbAnswers = true ∧
        (JsonRpcClient.lastSuccessOf text 0 calls = 0 ∨
          nowS.toNat - (JsonRpcClient.lastSuccessOf text 0 calls).toNat <
            config.rpcMaxSilenceMs.toNat / 1000)) ∧
      (response.status ≠ 200 -> response.status = 503) ∧
      Exists fun reply => text.parse response.body = .ok reply ∧
        reply.find? "ready" = some (.boolean (response.status == 200)) ∧
        forall name, (reply.find? "checks").bind (JsonTree.find? name) =
          (checkOf inputs config name).map checkJson := by
  intro inputs response
  have last : inputs.rpcLastSuccessUnixS = some (JsonRpcClient.lastSuccessOf text 0 calls) := by
    rcases JsonRpcClient.metrics_of_calls text .register calls with ⟨metrics, reached, gauge, _⟩
    simp only [inputs, Evaluation.inputs, reached, Option.map_some, Option.getD_some, gauge]
    rfl
  have status : response.status = 200 ↔ (evaluateReadiness inputs config).ready = true := by
    change (if (evaluateReadiness inputs config).ready = true then 200 else 503) = 200 ↔ _
    split
    · rename_i ready
      exact iff_of_true rfl ready
    · rename_i unready
      exact iff_of_false (by decide) unready
  refine ⟨?_, ?_, ?_⟩
  · have threads := forall_threads evaluation.alive (Fresh config inputs.steadyNowMs)
    have again := forall_threads evaluation.recorded Recorded
    rw [status, ready_iff, last]
    simp only [Heard, Option.some.injEq, forall_eq']
    constructor
    · rintro ⟨fresh, answered, heard, _⟩
      refine ⟨fun worker => (evaluation.fresh_iff_passed bounded worker).mp
        (threads.mp fresh worker), ?_, heard⟩
      exact Option.some.inj answered
    · rintro ⟨passed, answered, heard⟩
      refine ⟨threads.mpr fun worker => (evaluation.fresh_iff_passed bounded worker).mpr
        (passed worker),
        congrArg some answered, heard, again.mpr fun worker =>
        evaluation.recorded_of_passed (passed worker)⟩
  · intro unready
    change (if (evaluateReadiness inputs config).ready = true then 200 else 503) = 503
    rw [if_neg (mt status.mpr unready)]
  · rcases parse_readyz text (evaluateReadiness inputs config) with ⟨reply, parsed, ready, checks⟩
    refine ⟨reply, parsed, ?_, fun name => ?_⟩
    · rw [ready]
      congr 2
      cases found : (evaluateReadiness inputs config).ready with
      | true => exact (beq_iff_eq.mpr (status.mpr found)).symm
      | false =>
          refine (beq_eq_false_iff_ne.mpr fun ok => ?_).symm
          rw [status.mp ok] at found
          cases found
    · rw [checks, find?_checks]

end Evaluation

/-- An evaluation in which the other threads stand still. -/
def Evaluation.atOnce (state : TimedApp)
    (reached : (TimedApp.start capacity source engine dispatcher startMs).Precedes state) :
    Evaluation capacity source engine dispatcher startMs where
  clock := state
  alive _ := state
  recorded _ := state
  inOrder := by simp [reached, TimedApp.Precedes.refl]

end Runs

/-- All threads begin, and the source turns to the node. -/
def firstPoll : List TimedAction :=
  [.app (.worker .dispatcherStart), .app (.worker .engineCheck), .app (.worker .sourceCheck)]

private abbrev LiveEvaluation : Type :=
  Evaluation 65536 (.create { startBlock := 1 } 1) (.ofRules RuleTables.empty.registerRules)
    { channels := ["console"], deduplicator := .create .production } 1000

private def liveReadyz (evaluation : LiveEvaluation) : HttpResponse :=
  readyz (JsonText.compact Numerals.unsigned)
    (evaluateReadiness (evaluation.inputs true
      (JsonRpcClient.callAll ⟨JsonText.compact Numerals.unsigned, some .register⟩ []) 0) {})

/-- The program is ready when its first poll begins, and not six seconds later,
although the client gives the node ten seconds to answer. -/
theorem slow_poll_unready :
    Exists fun early : LiveEvaluation => Exists fun late : LiveEvaluation =>
      (liveReadyz early).status = 200 ∧ (liveReadyz late).status = 503 ∧
        early.clock.Precedes late.clock ∧ late.clock.app = early.clock.app := by
  refine ⟨.atOnce _ ⟨firstPoll, rfl⟩, .atOnce _ ⟨firstPoll ++ [.tick 7000], rfl⟩, ?_, ?_,
    ⟨[.tick 7000], rfl⟩, rfl⟩
  · refine (Evaluation.readyz_of_run _ _ {} (by decide) true [] 0).1.mpr
      ⟨fun worker => ⟨1000, ?_, ?_, ?_⟩, rfl, Or.inl rfl⟩
    · cases worker <;> exact List.mem_singleton_self _
    · decide
    · decide
  · have found := Evaluation.readyz_of_run
      (.atOnce _ ⟨firstPoll ++ [.tick 7000], rfl⟩ : LiveEvaluation)
      (JsonText.compact Numerals.unsigned) {} (by decide) true [] 0
    refine found.2.1 (mt found.1.mp ?_)
    rintro ⟨passed, _⟩
    rcases passed .eventSource with ⟨time, listed, _, young⟩
    cases List.mem_singleton.mp listed
    revert young
    decide

end Health
end RiskSentinel
