import RiskSentinel.Events.EventSource
import RiskSentinel.Risk.AlertDispatcher
import RiskSentinel.Risk.RiskEngine

namespace RiskSentinel
namespace Backtest

open Foundation Events Risk

/-!
# The report of a backtest

A backtest replays a block range through the event source, the rules and the
dispatcher, and writes the alerts that pass the deduplicator to a file, one
line each.  The deduplicator compares readings of the system clock at the
moment of dispatch.  These say how fast the replay goes and nothing about the
replayed chain.

The report does not depend on them exactly when the rules never raise two
alerts with one key.  As soon as a key comes back, a replay within its window
drops the repetition and a slow enough one keeps it.
-/

/-- The part of the configuration file that decides what is replayed. -/
structure BacktestConfig where
  startBlock : UInt64 := 0
  endBlock : UInt64 := 0
  maxBlockRange : UInt64 := 1000
  tables : RuleTables

/-! ## The file channel -/

inductive JsonValue where
  | number (value : UInt64)
  | text (value : String)
deriving DecidableEq, Repr

/-- The ordered fields of one line of the report. -/
abbrev JsonLine := List (String × JsonValue)

structure FileAlertChannel where
  lines : List JsonLine := []
  alertCount : Nat := 0
deriving DecidableEq, Repr

namespace FileAlertChannel

/-- The object that `send` writes.  Optional fields are left out when the
alert does not have them. -/
def payload (index : Nat) (alert : Alert) : JsonLine :=
  [("alert_index", .number (UInt64.ofNat index)), ("customer_id", .number alert.customerId),
    ("rule_type", .text alert.ruleType), ("message", .text alert.message),
    ("timestamp_ms", .number alert.timestampMs)] ++
    (alert.chainId.map fun chainId => ("chain_id", JsonValue.number chainId)).toList ++
    (alert.tokenAddress.map fun token => ("token_address", JsonValue.text token)).toList ++
    (alert.amountDecimal.map fun amount => ("amount_decimal", JsonValue.text amount)).toList

/-- A successful write.  A failed one is logged and leaves the count. -/
def send (channel : FileAlertChannel) (alert : Alert) (written : Bool) : FileAlertChannel :=
  if written then
    { lines := channel.lines ++ [payload (channel.alertCount + 1) alert]
      alertCount := channel.alertCount + 1 }
  else channel

/-- The channel after writing the alerts in order. -/
def sendAll (channel : FileAlertChannel) (alerts : List Alert) : FileAlertChannel :=
  alerts.foldl (fun file alert => file.send alert true) channel

/-- Every alert is one line, and the count is the number of lines. -/
theorem sendAll_counts (channel : FileAlertChannel) (alerts : List Alert) :
    (channel.sendAll alerts).lines.length = channel.lines.length + alerts.length ∧
      (channel.sendAll alerts).alertCount = channel.alertCount + alerts.length := by
  induction alerts generalizing channel with
  | nil => exact ⟨rfl, rfl⟩
  | cons alert rest inductionHypothesis =>
      have others := inductionHypothesis (channel.send alert true)
      rw [List.length_cons]
      constructor
      · apply others.1.trans
        simp only [send, if_true, List.length_append, List.length_singleton]
        omega
      · apply others.2.trans
        simp only [send, if_true]
        omega

end FileAlertChannel

/-! ## The pipeline, one component after another -/

/-- The source that `BacktestApp::run` constructs. -/
def BacktestConfig.eventSource (config : BacktestConfig) (chainId : UInt64) : EventSource :=
  .create { startBlock := config.startBlock
            maxBlockRange := config.maxBlockRange
            backtestEndBlock := config.endBlock } chainId

def BacktestConfig.riskEngine (config : BacktestConfig) : RiskEngine :=
  .ofRules config.tables.registerNonemptyRules

/-- The dispatcher with the production windows and the file as its only
channel. -/
def backtestDispatcher : AlertDispatcher :=
  AlertDispatcher.addChannel { channels := [], deduplicator := .create .production } "file" false

/-- An alert taken at a clock reading.  The file channel does not throw. -/
def fileDelivery (alert : Alert) (nowMs : UInt64) : Delivery where
  alert := alert
  nowMs := nowMs
  outcome := fun _ => .sent

/-- The alerts that the rules raise over the replayed range. -/
def replayedAlerts (config : BacktestConfig) (chainId : UInt64)
    (envs : List PollEnv) : List Alert :=
  (config.riskEngine.processAll ((config.eventSource chainId).run envs).pushed).2

/-- The alerts that reach the file channel when the dispatcher takes them at
the given clock readings. -/
def reportedAlerts (alerts : List Alert) (readings : List UInt64) : List Alert :=
  (AlertDispatcher.unsuppressed
    (backtestDispatcher.handleAll (List.zipWith fileDelivery alerts readings)).2).map Delivery.alert

/-- The lines of the report. -/
def backtestReport (config : BacktestConfig) (chainId : UInt64) (envs : List PollEnv)
    (readings : List UInt64) : List JsonLine :=
  (FileAlertChannel.sendAll {} (reportedAlerts (replayedAlerts config chainId envs) readings)).lines

/-- Which alerts are reported is decided by the deduplicator. -/
theorem reportedAlerts_eq_letThrough (alerts : List Alert) (readings : List UInt64) :
    reportedAlerts alerts readings =
      ((AlertDeduplicator.create .production).letThrough
        (List.zipWith TimedAlert.mk alerts readings)).map TimedAlert.alert := by
  have decided := AlertDispatcher.map_timed_unsuppressed backtestDispatcher
    (List.zipWith fileDelivery alerts readings)
  have timed : (List.zipWith fileDelivery alerts readings).map Delivery.timed =
      List.zipWith TimedAlert.mk alerts readings := List.map_zipWith
  rw [timed] at decided
  change _ = List.map _ (AlertDeduplicator.letThrough backtestDispatcher.deduplicator _)
  rw [← decided, List.map_map]
  rfl

/-- One reading for each alert, from a clock that does not go back. -/
structure ReplayClock (alerts : List Alert) (readings : List UInt64) : Prop where
  assigned : readings.length = alerts.length
  nondecreasing : readings.Pairwise (· ≤ ·)

/-! ## The report through the throttle -/

theorem map_alert_zipWith {alerts : List Alert} {readings : List UInt64}
    (assigned : readings.length = alerts.length) :
    (List.zipWith fileDelivery alerts readings).map Delivery.alert = alerts := by
  calc
    _ = (List.zip alerts readings).map Prod.fst := by
      rw [List.map_zipWith, List.map_zip_eq_zipWith]
      rfl
    _ = alerts := List.map_fst_zip (Nat.le_of_eq assigned.symm)

theorem map_nowMs_zipWith {alerts : List Alert} {readings : List UInt64}
    (assigned : readings.length = alerts.length) :
    (List.zipWith fileDelivery alerts readings).map Delivery.nowMs = readings := by
  calc
    _ = (List.zip alerts readings).map Prod.snd := by
      rw [List.map_zipWith, List.map_zip_eq_zipWith]
      rfl
    _ = readings := List.map_snd_zip (Nat.le_of_eq assigned)

/-- With a replay clock the file receives what the throttle admits. -/
theorem reportedAlerts_eq_passing {alerts : List Alert} {readings : List UInt64}
    (clock : ReplayClock alerts readings) :
    reportedAlerts alerts readings =
      (Throttle.passing (AlertDispatcher.request .production) (fun _ => none)
        (List.zipWith fileDelivery alerts readings)).map Delivery.alert := by
  have monotone : Throttle.Monotone (AlertDispatcher.request .production)
      (List.zipWith fileDelivery alerts readings) := by
    have nondecreasing := clock.nondecreasing
    rw [← map_nowMs_zipWith clock.assigned, List.pairwise_map] at nondecreasing
    exact nondecreasing.imp fun order => UInt64.le_iff_toNat_le.mp order
  rw [reportedAlerts, (AlertDispatcher.handleAll_remembers .production _ backtestDispatcher rfl 0 _
    (AlertDeduplicator.remembers_new .production 0) (fun _ _ => Nat.zero_le _) monotone).1]

/-- No two alerts have the same key. -/
def KeysDistinct (alerts : List Alert) : Prop :=
  alerts.Pairwise fun earlier later => buildKey earlier ≠ buildKey later

private theorem deliveries_distinct {alerts : List Alert} {readings : List UInt64}
    (assigned : readings.length = alerts.length) (distinct : KeysDistinct alerts) :
    (List.zipWith fileDelivery alerts readings).Pairwise fun first second =>
      (AlertDispatcher.request .production first).key ≠
        (AlertDispatcher.request .production second).key := by
  rw [KeysDistinct, ← map_alert_zipWith assigned, List.pairwise_map] at distinct
  exact distinct

/-- Alerts with different keys are all reported, at any speed. -/
theorem reportedAlerts_of_keysDistinct {alerts : List Alert} {readings : List UInt64}
    (clock : ReplayClock alerts readings) (distinct : KeysDistinct alerts) :
    reportedAlerts alerts readings = alerts := by
  rw [reportedAlerts_eq_passing clock,
    Throttle.passing_of_fresh _ _ _ (deliveries_distinct clock.assigned distinct)
    (fun _ _ => rfl), map_alert_zipWith clock.assigned]

/-! ## Two speeds -/

/-- The longest of the production windows, one hour. -/
theorem production_windowMs_bounds (ruleType : String) :
    0 < (DeduplicatorConfig.production.windowMs ruleType).toNat ∧
      (DeduplicatorConfig.production.windowMs ruleType).toNat ≤ 3600000 := by
  unfold DeduplicatorConfig.windowMs
  cases found : DeduplicatorConfig.production.perRuleWindowMs.find? ruleType with
  | none => decide
  | some window =>
      have entries : forall entry, entry ∈ DeduplicatorConfig.production.perRuleWindowMs.entries ->
          0 < entry.2.toNat ∧ entry.2.toNat ≤ 3600000 := by
        decide
      exact entries (ruleType, window) (Table.mem_of_find? found)

/-- Alerts that are all taken at one reading. -/
def takenAt (reading : UInt64) (alerts : List Alert) : List Delivery :=
  alerts.map fun alert => fileDelivery alert reading

/-- The readings of a replay that takes some alerts at once and pauses for an
hour before the others. -/
def pausedReadings (before later : List Alert) : List UInt64 :=
  List.replicate before.length 0 ++ List.replicate later.length 3600000

theorem replayClock_pausedReadings (before later : List Alert) :
    ReplayClock (before ++ later) (pausedReadings before later) where
  assigned := by simp [pausedReadings]
  nondecreasing := by
    refine List.pairwise_append.mpr ⟨List.pairwise_replicate.mpr (Or.inr (UInt64.le_refl _)),
      List.pairwise_replicate.mpr (Or.inr (UInt64.le_refl _)),
      fun early inFirst late inSecond => ?_⟩
    rw [List.eq_of_mem_replicate inFirst, List.eq_of_mem_replicate inSecond]
    decide

theorem zipWith_pausedReadings (before later : List Alert) :
    List.zipWith fileDelivery (before ++ later) (pausedReadings before later) =
      takenAt 0 before ++ takenAt 3600000 later := by
  have constant : forall (reading : UInt64) (alerts : List Alert),
      List.zipWith fileDelivery alerts
        (List.replicate alerts.length reading) = takenAt reading alerts := by
    intro reading alerts
    induction alerts with
    | nil => rfl
    | cons alert rest inductionHypothesis =>
        rw [List.length_cons, List.replicate_succ, List.zipWith_cons_cons, inductionHypothesis]
        rfl
  rw [pausedReadings, List.zipWith_append (by simp), constant, constant]

/-- After an instant replay a repeated key is blocked at once and passes an
hour later. -/
private theorem blocked_after_takenAt (before : List Alert) {earlier alert : Alert}
    (member : earlier ∈ before) (same : buildKey earlier = buildKey alert) (reading : UInt64) :
    Throttle.blocked (Throttle.after (AlertDispatcher.request .production) (fun _ => none)
      (takenAt 0 before))
        (AlertDispatcher.request .production (fileDelivery alert reading)) = true ↔
      reading.toNat < (DeduplicatorConfig.production.windowMs alert.ruleType).toNat := by
  have monotone : Throttle.Monotone (AlertDispatcher.request .production) (takenAt 0 before) := by
    rw [Throttle.Monotone, takenAt, List.pairwise_map]
    exact List.pairwise_of_forall fun _ _ => Nat.le_refl _
  have atZero : forall delivery, delivery ∈ takenAt 0 before -> delivery.nowMs = 0 := by
    intro delivery taken
    rcases List.mem_map.mp taken with ⟨other, _, rfl⟩
    rfl
  rw [Throttle.blocked_after_iff _ _ monotone]
  constructor
  · rintro ⟨passed, admitted, _, near⟩
    have fired := atZero passed (Throttle.mem_of_mem_passing _ admitted)
    change reading.toNat < passed.nowMs.toNat +
      (DeduplicatorConfig.production.windowMs alert.ruleType).toNat at near
    rw [fired] at near
    simpa using near
  · intro near
    have listed : fileDelivery earlier 0 ∈ takenAt 0 before :=
      List.mem_map.mpr ⟨earlier, member, rfl⟩
    rcases Throttle.exists_passing_of_mem
      (AlertDispatcher.request .production) _ monotone listed with ⟨passed, admitted, key⟩
    refine ⟨passed, admitted, key.trans same, ?_⟩
    exact Nat.lt_of_lt_of_le near (Nat.le_add_left _ _)

/-- How many alerts pass when the last repetition of a key, and everything
behind it, is taken at a given reading. -/
private theorem length_passing_takenAt {before later : List Alert} {earlier alert : Alert}
    (member : earlier ∈ before) (same : buildKey earlier = buildKey alert)
    (distinct : KeysDistinct later)
    (fresh : forall other, other ∈ later -> forall first, first ∈ before ++ [alert] ->
      buildKey first ≠ buildKey other) (reading : UInt64) :
    (Throttle.passing (AlertDispatcher.request .production) (fun _ => none)
        (takenAt 0 before ++ takenAt reading (alert :: later))).length =
      (Throttle.passing (AlertDispatcher.request .production) (fun _ => none)
          (takenAt 0 before)).length +
        (if reading.toNat < (DeduplicatorConfig.production.windowMs alert.ruleType).toNat
          then 0 else 1) +
        later.length := by
  have laterDistinct : (takenAt reading later).Pairwise fun first second =>
      (AlertDispatcher.request .production first).key ≠
        (AlertDispatcher.request .production second).key := by
    rw [takenAt, List.pairwise_map]
    exact distinct
  have counted := Throttle.length_passing_of_fresh_tail (AlertDispatcher.request .production)
    (takenAt 0 before) (fileDelivery alert reading) (takenAt reading later) laterDistinct ?_
  · simp only [blocked_after_takenAt before member same] at counted
    rw [takenAt, takenAt, List.length_map] at counted
    exact counted
  · intro other inLater first inFront
    rcases List.mem_map.mp inLater with ⟨otherAlert, otherMember, rfl⟩
    rcases List.mem_append.mp inFront with inBefore | isAlert
    · rcases List.mem_map.mp inBefore with ⟨firstAlert, firstMember, rfl⟩
      exact fresh otherAlert otherMember firstAlert (List.mem_append_left _ firstMember)
    · rw [List.mem_singleton.mp isAlert]
      exact fresh otherAlert otherMember alert (List.mem_append_right _ List.mem_cons_self)

/-- A repeated key makes an instant replay report one alert less than a
replay that pauses before its last repetition. -/
theorem exists_differing_replays {alerts : List Alert} (repeated : ¬ KeysDistinct alerts) :
    Exists fun instant => Exists fun paused => ReplayClock alerts instant ∧
    ReplayClock alerts paused ∧
      (reportedAlerts alerts paused).length = (reportedAlerts alerts instant).length + 1 := by
  rcases Throttle.exists_last_repeat buildKey alerts repeated with
    ⟨before, alert, later, rfl, ⟨earlier, member, same⟩, distinct, fresh⟩
  have instantClock := replayClock_pausedReadings (before ++ alert :: later) []
  have instantRun := zipWith_pausedReadings (before ++ alert :: later) []
  have oneMoment : takenAt 0 (before ++ alert :: later) ++ takenAt 3600000 [] =
      takenAt 0 before ++ takenAt 0 (alert :: later) := by
    simp [takenAt]
  rw [List.append_nil] at instantClock instantRun
  have pausedClock := replayClock_pausedReadings before (alert :: later)
  have bounds := production_windowMs_bounds alert.ruleType
  have instantCount := length_passing_takenAt member same distinct fresh 0
  have pausedCount := length_passing_takenAt member same distinct fresh 3600000
  rw [if_pos (by simpa using bounds.1)] at instantCount
  rw [if_neg (by simpa using bounds.2)] at pausedCount
  refine ⟨_, _, instantClock, pausedClock, ?_⟩
  rw [reportedAlerts_eq_passing instantClock, reportedAlerts_eq_passing pausedClock,
    List.length_map, List.length_map,
    instantRun, oneMoment, zipWith_pausedReadings, instantCount, pausedCount]
  omega

/-- For every configuration and every behaviour of the node: all replays
write the same report if and only if no two alerts of the rules have the
same key. -/
theorem report_independent_of_clock_iff_keys_distinct (config : BacktestConfig) (chainId : UInt64)
    (envs : List PollEnv) :
    (forall first second, ReplayClock (replayedAlerts config chainId envs) first ->
        ReplayClock (replayedAlerts config chainId envs) second ->
        backtestReport config chainId envs first = backtestReport config chainId envs second) ↔
      KeysDistinct (replayedAlerts config chainId envs) := by
  constructor
  · intro independent
    by_contra repeated
    rcases exists_differing_replays repeated
      with ⟨instant, paused, instantClock, pausedClock, longer⟩
    have sameLength := congrArg List.length (independent instant paused instantClock pausedClock)
    unfold backtestReport at sameLength
    rw [(FileAlertChannel.sendAll_counts _ _).1, (FileAlertChannel.sendAll_counts _ _).1]
      at sameLength
    omega
  · intro distinct first second firstClock secondClock
    rw [backtestReport, backtestReport, reportedAlerts_of_keysDistinct firstClock distinct,
      reportedAlerts_of_keysDistinct secondClock distinct]

/-- Customer 1 watches the administration of one contract over 601 blocks. -/
def watchedContract : BacktestConfig where
  startBlock := 1
  endBlock := 601
  maxBlockRange := 600
  tables :=
    { RuleTables.empty with
      governanceRulesByContract := Table.empty.assign ⟨1, bytesToHex (Bytes.ofNat 20 0xaa)⟩
        [⟨1, 1, bytesToHex (Bytes.ofNat 20 0xaa), true, none⟩] }

def pausedLog (blockNumber : String) : RawLog where
  address := "0x00000000000000000000000000000000000000aa"
  topics := ["0x62e78cea01bee320cd4e420270b5ea74000d11b0c9f74754ebdbfc544b05a258"]
  data := "0x"
  blockNumber := blockNumber
  transactionHash := "0x00000000000000000000000000000000000000000000000000000000000000bb"
  logIndex := "0x0"
  transactionIndex := "0x0"

/-- The contract is paused in the first block and in the last, two hours
later. -/
def pausedTwice : PollEnv where
  latestBlock := .ok 1000
  getLogs := fun fromBlock toBlock =>
    .ok ((if fromBlock ≤ 1 ∧ 1 ≤ toBlock then [pausedLog "0x1"] else []) ++
      (if fromBlock ≤ 601 ∧ 601 ≤ toBlock then [pausedLog "0x259"] else []))
  blockTimestamp := fun block => .ok (1700000000 + 12 * block)
  systemClockMs := 0
  steadyClockMs := fun _ => 0
  scratch := fun _ => Bytes.zeros 32

/-- Replayed within a second the two pauses make one line, replayed at the
speed of the chain they make two. -/
theorem replay_speed_changes_report :
    ((watchedContract.eventSource 1).run [pausedTwice, pausedTwice]).final.isExhausted = true ∧
      (backtestReport watchedContract 1 [pausedTwice, pausedTwice]
        [1800000000000, 1800000001000]).length = 1 ∧
      (backtestReport watchedContract 1 [pausedTwice, pausedTwice]
        [1800000000000, 1800007200000]).length = 2 ∧
      ¬ forall first second,
      ReplayClock (replayedAlerts watchedContract 1 [pausedTwice, pausedTwice]) first ->
        ReplayClock (replayedAlerts watchedContract 1 [pausedTwice, pausedTwice]) second ->
        backtestReport watchedContract 1 [pausedTwice, pausedTwice] first =
          backtestReport watchedContract 1 [pausedTwice, pausedTwice] second := by
  have counted : (replayedAlerts watchedContract 1 [pausedTwice, pausedTwice]).length = 2 := by
    decide +kernel
  have fast : (backtestReport watchedContract 1 [pausedTwice, pausedTwice]
      [1800000000000, 1800000001000]).length = 1 := by
    decide +kernel
  have slow : (backtestReport watchedContract 1 [pausedTwice, pausedTwice]
      [1800000000000, 1800007200000]).length = 2 := by
    decide +kernel
  refine ⟨by decide +kernel, fast, slow, fun independent => ?_⟩
  have same := independent [1800000000000, 1800000001000] [1800000000000, 1800007200000]
    ⟨counted.symm, by decide⟩ ⟨counted.symm, by decide⟩
  rw [same, slow] at fast
  cases fast

end Backtest
end RiskSentinel
