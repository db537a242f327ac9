import RiskSentinel.Foundation.Table
import RiskSentinel.Foundation.Text
import RiskSentinel.Foundation.Throttle
import RiskSentinel.Risk.Signal

namespace RiskSentinel
namespace Risk

open Foundation

/-!
# Suppressing repeated alerts

The deduplicator keeps the time at which each alert key was last let through.
Every so often it throws away entries older than the longest window.  Both
the test and the clean-up are written with unsigned subtraction and guard
against a clock that went back.

The main result of this module is that the object is a throttle: under a
nondecreasing clock its decisions are those of the memory that never forgets,
whatever the clean-up interval is.
-/

structure DeduplicatorConfig where
  defaultWindowMs : UInt64 := 60000
  perRuleWindowMs : Table String UInt64 := Table.empty
  cleanupEveryNAlerts : Nat := 100

/-- The window of a rule, or the default one. -/
def DeduplicatorConfig.windowMs (config : DeduplicatorConfig) (ruleType : String) : UInt64 :=
  match config.perRuleWindowMs.find? ruleType with
  | some window => window
  | none => config.defaultWindowMs

/-- The longest window, computed once when the object is constructed. -/
def DeduplicatorConfig.longestWindowMs (config : DeduplicatorConfig) : UInt64 :=
  config.perRuleWindowMs.entries.foldl
    (fun longest entry => max longest entry.2) config.defaultWindowMs

/-- The configuration that both programs construct. -/
def DeduplicatorConfig.production : DeduplicatorConfig where
  defaultWindowMs := 60000
  perRuleWindowMs :=
    ⟨[("large_transfer", 60000), ("governance", 3600000), ("mint_burn", 60000),
      ("approval", 300000),
      ("bridge_transfer", 60000), ("oracle_update", 300000)], by decide⟩
  cleanupEveryNAlerts := 100

private theorem le_max_window (left right : UInt64) : left ≤ max left right ∧
    right ≤ max left right := by
  change left ≤ (if left ≤ right then right else left) ∧
    right ≤ (if left ≤ right then right else left)
  by_cases order : left ≤ right
  · rw [if_pos order]
    exact ⟨order, UInt64.le_refl _⟩
  · rw [if_neg order]
    exact ⟨UInt64.le_refl _, UInt64.le_of_lt (UInt64.not_le.mp order)⟩

private theorem le_foldl_max (entries : List (String × UInt64)) (start : UInt64) :
    start ≤ entries.foldl (fun longest entry => max longest entry.2) start ∧
      forall entry, entry ∈ entries ->
        entry.2 ≤ entries.foldl (fun longest entry => max longest entry.2) start := by
  induction entries generalizing start with
  | nil => exact ⟨UInt64.le_refl _, fun _ member => by cases member⟩
  | cons head rest inductionHypothesis =>
      have bounds := inductionHypothesis (max start head.2)
      refine ⟨UInt64.le_trans (le_max_window start head.2).1 bounds.1, fun entry member => ?_⟩
      rcases List.mem_cons.mp member with same | later
      · rw [same]
        exact UInt64.le_trans (le_max_window start head.2).2 bounds.1
      · exact bounds.2 entry later

/-- No rule has a window longer than the longest one. -/
theorem DeduplicatorConfig.windowMs_le (config : DeduplicatorConfig) (ruleType : String) :
    config.windowMs ruleType ≤ config.longestWindowMs := by
  have bounds := le_foldl_max config.perRuleWindowMs.entries config.defaultWindowMs
  unfold windowMs
  cases found : config.perRuleWindowMs.find? ruleType with
  | none => exact bounds.1
  | some window => exact bounds.2 (ruleType, window) (Table.mem_of_find? found)

/-- The chain's part of a key, a dash for an alert without one. -/
def chainText (alert : Alert) : String :=
  match alert.chainId with
  | some chainId => Nat.repr chainId.toNat
  | none => "-"

/-- The text under which an alert is remembered: customer, rule type, chain
and token, with a bar between them. -/
def buildKey (alert : Alert) : String :=
  Nat.repr alert.customerId.toNat ++ "|" ++ alert.ruleType ++ "|" ++ chainText alert ++ "|" ++
    alert.tokenAddress.getD ""

/-! ## What a key says about its alert -/

private theorem bar_not_mem_repr (value : Nat) : '|' ∉ (Nat.repr value).toList :=
  not_mem_repr value rfl

private theorem repr_toNat_inj {left right : UInt64}
    (same : Nat.repr left.toNat = Nat.repr right.toNat) : left = right :=
  UInt64.toNat_inj.mp (repr_inj same)

private theorem bar_not_mem_chainText (alert : Alert) : '|' ∉ (chainText alert).toList := by
  unfold chainText
  cases alert.chainId with
  | none => decide
  | some chainId => exact bar_not_mem_repr chainId.toNat

private theorem chainText_inj {left right : Alert} (same : chainText left = chainText right) :
    left.chainId = right.chainId := by
  have notDash : forall value : Nat, Nat.repr value ≠ "-" := by
    intro value dash
    have member : '-' ∈ Nat.toDigits 10 value := by
      rw [← Nat.toList_repr, dash]
      decide
    exact absurd (Nat.isDigit_of_mem_toDigits (by decide) (by decide) member) (by decide)
  unfold chainText at same
  cases leftChain : left.chainId with
  | none =>
      cases rightChain : right.chainId with
      | none => rfl
      | some chainId => exact False.elim (notDash _ (by simpa [leftChain, rightChain] using same.symm))
  | some chainId =>
      cases rightChain : right.chainId with
      | none => exact False.elim (notDash _ (by simpa [leftChain, rightChain] using same))
      | some other =>
          have chains : chainId = other :=
            repr_toNat_inj (by simpa [leftChain, rightChain] using same)
          rw [chains]

private theorem toList_buildKey (alert : Alert) :
    (buildKey alert).toList = (Nat.repr alert.customerId.toNat).toList ++ '|' ::
      (alert.ruleType.toList ++ '|' :: ((chainText alert).toList ++ '|' ::
        (alert.tokenAddress.getD "").toList)) := by
  simp [buildKey, String.toList_append]

/-- Keys of different customers differ, whatever the other parts hold. -/
theorem customerId_of_buildKey {left right : Alert} (same : buildKey left = buildKey right) :
    left.customerId = right.customerId := by
  have texts := congrArg String.toList same
  rw [toList_buildKey, toList_buildKey] at texts
  have parts := split_at_separator (bar_not_mem_repr _) (bar_not_mem_repr _) texts
  exact repr_toNat_inj (String.toList_inj.mp parts.1)

/-- The parts of an alert that its key is meant to identify. -/
structure SameSubject (left right : Alert) : Prop where
  customerId : left.customerId = right.customerId
  ruleType : left.ruleType = right.ruleType
  chainId : left.chainId = right.chainId
  tokenAddress : left.tokenAddress = right.tokenAddress

theorem SameSubject.buildKey_eq {left right : Alert} (same : SameSubject left right) :
    buildKey left = buildKey right := by
  rw [buildKey, buildKey, chainText, chainText, same.customerId, same.ruleType, same.chainId,
    same.tokenAddress]

/-- A rule type without the separator, and a token address: what the six
rules put into every alert. -/
structure Alert.Unambiguous (alert : Alert) : Prop where
  ruleType : '|' ∉ alert.ruleType.toList
  tokenAddress : alert.tokenAddress.isSome = true

/-- The parts of an alert as its key spells them: a missing token address
reads as the empty text. -/
structure SameKeyParts (left right : Alert) : Prop where
  customerId : left.customerId = right.customerId
  ruleType : left.ruleType = right.ruleType
  chainId : left.chainId = right.chainId
  tokenAddress : left.tokenAddress.getD "" = right.tokenAddress.getD ""

/-- Where the rule types do not hold the separator, a key determines its
parts. -/
theorem sameKeyParts_iff_buildKey {left right : Alert} (leftClear : '|' ∉ left.ruleType.toList)
    (rightClear : '|' ∉ right.ruleType.toList) : SameKeyParts left right ↔
    buildKey left = buildKey right := by
  constructor
  · intro same
    rw [buildKey, buildKey, chainText, chainText, same.customerId, same.ruleType, same.chainId,
      same.tokenAddress]
  · intro same
    have texts := congrArg String.toList same
    rw [toList_buildKey, toList_buildKey] at texts
    have afterCustomer := split_at_separator (bar_not_mem_repr _) (bar_not_mem_repr _) texts
    have afterRule := split_at_separator leftClear rightClear afterCustomer.2
    have afterChain := split_at_separator (bar_not_mem_chainText left)
      (bar_not_mem_chainText right) afterRule.2
    exact ⟨customerId_of_buildKey same, String.toList_inj.mp afterRule.1,
      chainText_inj (String.toList_inj.mp afterChain.1), String.toList_inj.mp afterChain.2⟩

/-- Unambiguous alerts have one key only if they have one subject. -/
theorem sameSubject_of_buildKey {left right : Alert} (leftClear : left.Unambiguous)
    (rightClear : right.Unambiguous) (same : buildKey left = buildKey right) :
    SameSubject left right := by
  have parts := (sameKeyParts_iff_buildKey leftClear.ruleType rightClear.ruleType).mpr same
  refine ⟨parts.customerId, parts.ruleType, parts.chainId, ?_⟩
  rcases Option.isSome_iff_exists.mp leftClear.tokenAddress with ⟨leftToken, leftFound⟩
  rcases Option.isSome_iff_exists.mp rightClear.tokenAddress with ⟨rightToken, rightFound⟩
  have tokens : leftToken = rightToken := by
    simpa [leftFound, rightFound] using parts.tokenAddress
  rw [leftFound, rightFound, tokens]

structure AlertDeduplicator where
  config : DeduplicatorConfig
  lastFiredMs : Table String UInt64
  alertsProcessedSinceCleanup : Nat
  maxConfiguredWindowMs : UInt64
  windows_le : forall ruleType, config.windowMs ruleType ≤ maxConfiguredWindowMs

namespace AlertDeduplicator

/-- The constructor. -/
def create (config : DeduplicatorConfig) : AlertDeduplicator where
  config := config
  lastFiredMs := Table.empty
  alertsProcessedSinceCleanup := 0
  maxConfiguredWindowMs := config.longestWindowMs
  windows_le := config.windowMs_le

/-- The test of `should_suppress`: the key was let through less than a window
ago, or at a time the clock has since left again. -/
def isRecent (dedup : AlertDeduplicator) (alert : Alert) (nowMs : UInt64) : Bool :=
  match dedup.lastFiredMs.find? (buildKey alert) with
  | none => false
  | some stored => nowMs < stored || nowMs - stored < dedup.config.windowMs alert.ruleType

/-- Entries older than the longest window are removed; an entry from the
clock's future has no age and stays. -/
def cleanupStaleEntries (dedup : AlertDeduplicator) (nowMs : UInt64) : AlertDeduplicator :=
  { dedup with
    lastFiredMs := dedup.lastFiredMs.eraseIf fun _ stored =>
      if nowMs < stored then false else decide (dedup.maxConfiguredWindowMs < nowMs - stored) }

def trackedKeysCount (dedup : AlertDeduplicator) : Nat :=
  dedup.lastFiredMs.size

/-- An alert that is not suppressed becomes the last firing of its key. -/
def recordFired (dedup : AlertDeduplicator) (alert : Alert) (nowMs : UInt64) : AlertDeduplicator :=
  if dedup.isRecent alert nowMs then dedup
  else { dedup with lastFiredMs := dedup.lastFiredMs.assign (buildKey alert) nowMs }

/-- Count the alert and clean up when the count is reached. -/
def countProcessed (dedup : AlertDeduplicator) (nowMs : UInt64) : AlertDeduplicator :=
  if dedup.config.cleanupEveryNAlerts ≤ dedup.alertsProcessedSinceCleanup + 1 then
    { dedup.cleanupStaleEntries nowMs with alertsProcessedSinceCleanup := 0 }
  else
    { dedup with alertsProcessedSinceCleanup := dedup.alertsProcessedSinceCleanup + 1 }

def shouldSuppress (dedup : AlertDeduplicator) (alert : Alert) (nowMs : UInt64) :
    AlertDeduplicator × Bool :=
  ((dedup.recordFired alert nowMs).countProcessed nowMs, dedup.isRecent alert nowMs)

end AlertDeduplicator

/-- An alert with the clock reading at which the dispatcher took it. -/
structure TimedAlert where
  alert : Alert
  nowMs : UInt64
deriving DecidableEq

namespace AlertDeduplicator

/-- The alerts of a sequence that are not suppressed. -/
def letThrough : AlertDeduplicator -> List TimedAlert -> List TimedAlert
  | _, [] => []
  | dedup, item :: rest =>
      let decided := dedup.shouldSuppress item.alert item.nowMs
      if decided.2 then letThrough decided.1 rest else item :: letThrough decided.1 rest

/-! ## The deduplicator is a throttle -/

/-- The stored times as numbers. -/
def memory (dedup : AlertDeduplicator) (key : String) : Option Nat :=
  (dedup.lastFiredMs.find? key).map UInt64.toNat

end AlertDeduplicator

/-- What an alert asks of the throttle. -/
def DeduplicatorConfig.request (config : DeduplicatorConfig) (item : TimedAlert) :
    Request String where
  key := buildKey item.alert
  now := item.nowMs.toNat
  window := (config.windowMs item.alert.ruleType).toNat

namespace AlertDeduplicator

/-- The stored times are those of the full memory, up to entries that no
window can see any more. -/
def Remembers (dedup : AlertDeduplicator) (clock : Nat) (full : String -> Option Nat) : Prop :=
  Throttle.Prunes dedup.maxConfiguredWindowMs.toNat clock dedup.memory full

theorem remembers_new (config : DeduplicatorConfig) (clock : Nat) :
    Remembers (create config) clock (fun _ => none) :=
  Throttle.Prunes.refl _ _ _

/-- The guarded unsigned test is the comparison of the unbounded sum. -/
private theorem recent_iff (now stored window : UInt64) :
    (now < stored || now - stored < window) = decide (now.toNat < stored.toNat + window.toNat) := by
  rw [Bool.eq_iff_iff, Bool.or_eq_true, decide_eq_true_eq, decide_eq_true_eq, decide_eq_true_eq,
    UInt64.lt_iff_toNat_lt, UInt64.lt_iff_toNat_lt]
  by_cases back : now.toNat < stored.toNat
  · omega
  · rw [UInt64.toNat_sub_of_le now stored (UInt64.le_iff_toNat_le.mpr (Nat.le_of_not_lt back))]
    omega

theorem stale_iff (now stored longest : UInt64) :
    (if now < stored then false else decide (longest < now - stored)) =
      decide (stored.toNat + longest.toNat < now.toNat) := by
  by_cases back : now < stored
  · have later : now.toNat < stored.toNat := back
    rw [if_pos back, eq_comm, decide_eq_false_iff_not]
    omega
  · rw [if_neg back, decide_eq_decide, UInt64.lt_iff_toNat_lt,
      UInt64.toNat_sub_of_le now stored (UInt64.not_lt.mp back)]
    have order : stored.toNat ≤ now.toNat := UInt64.le_iff_toNat_le.mp (UInt64.not_lt.mp back)
    omega

theorem isRecent_eq (dedup : AlertDeduplicator) (item : TimedAlert) :
    dedup.isRecent item.alert item.nowMs = Throttle.blocked dedup.memory
      (dedup.config.request item) := by
  unfold isRecent Throttle.blocked memory DeduplicatorConfig.request
  cases dedup.lastFiredMs.find? (buildKey item.alert) with
  | none => rfl
  | some stored => exact recent_iff item.nowMs stored _

private theorem memory_recordFired (dedup : AlertDeduplicator) (item : TimedAlert) :
    (dedup.recordFired item.alert item.nowMs).memory =
      Throttle.recordFiring dedup.memory (dedup.config.request item) := by
  unfold recordFired Throttle.recordFiring
  rw [isRecent_eq]
  by_cases recent : Throttle.blocked dedup.memory (dedup.config.request item) = true
  · rw [if_pos recent, if_pos recent]
  · rw [if_neg recent, if_neg recent]
    funext key
    unfold memory DeduplicatorConfig.request
    rw [Table.find?_assign]
    by_cases same : key = buildKey item.alert
    · rw [if_pos same, if_pos same]
      rfl
    · rw [if_neg same, if_neg same]

private theorem memory_cleanup (dedup : AlertDeduplicator) (nowMs : UInt64) :
    (dedup.cleanupStaleEntries nowMs).memory = fun key => (dedup.memory key).filter fun fired =>
      !decide (fired + dedup.maxConfiguredWindowMs.toNat < nowMs.toNat) := by
  funext key
  unfold memory cleanupStaleEntries
  rw [Table.find?_eraseIf]
  cases dedup.lastFiredMs.find? key with
  | none => rfl
  | some stored =>
      simp only [Option.filter, stale_iff, Option.map_some]
      split <;> rfl

@[simp] theorem shouldSuppress_config (dedup : AlertDeduplicator) (alert : Alert) (nowMs : UInt64) :
    (dedup.shouldSuppress alert nowMs).1.config = dedup.config := by
  unfold shouldSuppress countProcessed recordFired cleanupStaleEntries
  split <;> split <;> rfl

/-- Cleaning up never changes what can still be seen. -/
theorem Remembers.cleanupStaleEntries {dedup : AlertDeduplicator} {clock : Nat}
    {full : String -> Option Nat} (remembers : dedup.Remembers clock full) (nowMs : UInt64)
    (reached : clock ≤ nowMs.toNat) :
    (dedup.cleanupStaleEntries nowMs).Remembers nowMs.toNat full := by
  change Throttle.Prunes _ _ (dedup.cleanupStaleEntries nowMs).memory full
  rw [memory_cleanup]
  exact Throttle.Prunes.drop (Throttle.Prunes.mono remembers reached)

private theorem Remembers.countProcessed {dedup : AlertDeduplicator} {nowMs : UInt64}
    {full : String -> Option Nat} (remembers : dedup.Remembers nowMs.toNat full) :
    (dedup.countProcessed nowMs).Remembers nowMs.toNat full := by
  unfold AlertDeduplicator.countProcessed
  by_cases reached : dedup.config.cleanupEveryNAlerts ≤ dedup.alertsProcessedSinceCleanup + 1
  · rw [if_pos reached]
    exact remembers.cleanupStaleEntries nowMs (Nat.le_refl _)
  · rw [if_neg reached]
    exact remembers

/-- One alert: the decision is the throttle's, and the memories stay
related. -/
theorem Remembers.shouldSuppress {dedup : AlertDeduplicator} {clock : Nat}
    {full : String -> Option Nat} (remembers : dedup.Remembers clock full) (item : TimedAlert)
    (reached : clock ≤ item.nowMs.toNat) :
    (dedup.shouldSuppress item.alert item.nowMs).2 = Throttle.blocked full
    (dedup.config.request item) ∧
      (dedup.shouldSuppress item.alert item.nowMs).1.Remembers item.nowMs.toNat
        (Throttle.recordFiring full (dedup.config.request item)) := by
  have within : (dedup.config.request item).window ≤ dedup.maxConfiguredWindowMs.toNat :=
    UInt64.le_iff_toNat_le.mp (dedup.windows_le item.alert.ruleType)
  refine ⟨?_, ?_⟩
  · change dedup.isRecent item.alert item.nowMs = _
    rw [isRecent_eq]
    exact Throttle.Prunes.blocked_eq remembers _ reached within
  · have recorded : (dedup.recordFired item.alert item.nowMs).Remembers item.nowMs.toNat
        (Throttle.recordFiring full (dedup.config.request item)) := by
      have sameHorizon : (dedup.recordFired item.alert item.nowMs).maxConfiguredWindowMs =
          dedup.maxConfiguredWindowMs := by
        unfold recordFired
        split <;> rfl
      unfold Remembers
      rw [sameHorizon, memory_recordFired]
      exact Throttle.Prunes.record remembers _ reached within
    exact recorded.countProcessed

private theorem letThrough_remembers (config : DeduplicatorConfig) (items : List TimedAlert)
    (dedup : AlertDeduplicator) (same : dedup.config = config) (clock : Nat)
    (full : String -> Option Nat) (remembers : dedup.Remembers clock full)
    (reached : forall item, item ∈ items -> clock ≤ item.nowMs.toNat)
    (monotone : Throttle.Monotone config.request items) :
    dedup.letThrough items = Throttle.passing config.request full items := by
  induction items generalizing dedup clock full with
  | nil => rfl
  | cons item rest inductionHypothesis =>
      have tail := List.pairwise_cons.mp monotone
      have decided := remembers.shouldSuppress item (reached item List.mem_cons_self)
      rw [same] at decided
      have others := inductionHypothesis (dedup.shouldSuppress item.alert item.nowMs).1
        ((shouldSuppress_config dedup _ _).trans same) _ _ decided.2 tail.1 tail.2
      simp only [letThrough, Throttle.passing, decided.1, others]

/-- Under a nondecreasing clock a new deduplicator lets through exactly what
the throttle admits: the clean-up is not observable. -/
theorem letThrough_eq_passing (config : DeduplicatorConfig) (items : List TimedAlert)
    (monotone : Throttle.Monotone config.request items) :
    letThrough (create config) items = Throttle.passing config.request (fun _ => none) items :=
  letThrough_remembers config items (create config) rfl 0 _ (remembers_new config 0)
    (fun _ _ => Nat.zero_le _) monotone

end AlertDeduplicator

end Risk
end RiskSentinel
