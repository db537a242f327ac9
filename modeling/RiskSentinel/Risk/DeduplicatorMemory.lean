import Mathlib.Data.List.Perm.Subperm
import RiskSentinel.Risk.AlertDeduplicator

namespace RiskSentinel
namespace Risk

open Foundation

/-!
# How much the deduplicator remembers

The table of last firings has no limit of its own.  It is kept small by the
cleanup behind every so many alerts, which drops what is older than the longest
window.  Between two cleanups every alert that is let through may add a key.

So the table never holds more keys than there were alerts let through since
the last cleanup, and alerts let through within the longest window before it.
Nothing is assumed about the clock; a firing from the clock's future counts as
recent.
-/

namespace AlertDeduplicator

/-- The deduplicator behind a sequence of alerts. -/
def processed (dedup : AlertDeduplicator) (items : List TimedAlert) : AlertDeduplicator :=
  items.foldl (fun state item => (state.shouldSuppress item.alert item.nowMs).1) dedup

theorem processed_append (dedup : AlertDeduplicator) (earlier later : List TimedAlert) :
    dedup.processed (earlier ++ later) = (dedup.processed earlier).processed later :=
  List.foldl_append

theorem letThrough_append (dedup : AlertDeduplicator) (earlier later : List TimedAlert) :
    dedup.letThrough (earlier ++ later) = dedup.letThrough earlier ++
      (dedup.processed earlier).letThrough later := by
  induction earlier generalizing dedup with
  | nil => rfl
  | cons item rest inductionHypothesis =>
      rw [List.cons_append, letThrough, letThrough, inductionHypothesis]
      split
      · rfl
      · rfl

/-- The distance between two cleanups. -/
def cleanupInterval (config : DeduplicatorConfig) : Nat :=
  max config.cleanupEveryNAlerts 1

/-- The clock reading of the last of some alerts. -/
def lastReading (items : List TimedAlert) : Nat :=
  items.getLast?.elim 0 fun item => item.nowMs.toNat

/-- At the last of the given alerts, a firing is no older than the longest
window. -/
def stillRecent (config : DeduplicatorConfig) (items : List TimedAlert)
    (fired : TimedAlert) : Bool :=
  decide (lastReading items ≤ fired.nowMs.toNat + config.longestWindowMs.toNat)

/-- What may be in the table, given the alerts up to the last cleanup and those
behind it. -/
def remembered (config : DeduplicatorConfig) (cleaned since : List TimedAlert) : List TimedAlert :=
  ((create config).letThrough cleaned).filter (stillRecent config cleaned) ++
    ((create config).processed cleaned).letThrough since

/-- What holds of the deduplicator behind these alerts. -/
structure Accounts (config : DeduplicatorConfig) (cleaned since : List TimedAlert) : Prop where
  sameConfig : ((create config).processed (cleaned ++ since)).config = config
  horizon : ((create config).processed (cleaned ++ since)).maxConfiguredWindowMs =
    config.longestWindowMs
  counted : ((create config).processed (cleaned ++ since)).alertsProcessedSinceCleanup =
    since.length
  whole : cleanupInterval config ∣ cleaned.length
  few : since.length < cleanupInterval config
  listed : forall key stored,
    ((create config).processed (cleaned ++ since)).lastFiredMs.find? key = some stored ->
    Exists fun item => item ∈ remembered config cleaned since ∧ buildKey item.alert = key ∧
    item.nowMs = stored

private theorem accounts_new (config : DeduplicatorConfig) : Accounts config [] [] where
  sameConfig := rfl
  horizon := rfl
  counted := rfl
  whole := Nat.dvd_zero _
  few := Nat.lt_of_lt_of_le Nat.zero_lt_one (Nat.le_max_right _ _)
  listed := fun key stored impossible => by cases impossible

section Step

variable (dedup : AlertDeduplicator) (item : TimedAlert)

private theorem recordFired_frame :
    (dedup.recordFired item.alert item.nowMs).config = dedup.config ∧
      (dedup.recordFired item.alert item.nowMs).maxConfiguredWindowMs =
        dedup.maxConfiguredWindowMs ∧
      (dedup.recordFired item.alert item.nowMs).alertsProcessedSinceCleanup =
        dedup.alertsProcessedSinceCleanup := by
  unfold recordFired
  split
  · exact ⟨rfl, rfl, rfl⟩
  · exact ⟨rfl, rfl, rfl⟩

variable {dedup}

/-- A firing that is stored now was stored before or is that of an alert that
is let through. -/
private theorem find?_recordFired {key : String} {stored : UInt64}
    (found : (dedup.recordFired item.alert item.nowMs).lastFiredMs.find? key = some stored) :
    dedup.lastFiredMs.find? key = some stored ∨
      (item ∈ dedup.letThrough [item] ∧ buildKey item.alert = key ∧ item.nowMs = stored) := by
  unfold recordFired at found
  cases recent : dedup.isRecent item.alert item.nowMs with
  | true =>
      rw [recent, if_pos rfl] at found
      exact Or.inl found
  | false =>
      rw [recent, if_neg Bool.false_ne_true, Table.find?_assign] at found
      have passes : (dedup.shouldSuppress item.alert item.nowMs).2 = false := recent
      have passed : dedup.letThrough [item] = [item] := by
        rw [letThrough, letThrough, passes]
        rfl
      split at found
      · rename_i same
        exact Or.inr ⟨by rw [passed]; exact List.mem_singleton_self item, same.symm,
          Option.some.inj found⟩
      · exact Or.inl found

end Step

/-- One more alert, with a cleanup or without. -/
private theorem Accounts.next {config : DeduplicatorConfig} {cleaned since : List TimedAlert}
    (accounts : Accounts config cleaned since) (item : TimedAlert) :
    Exists fun cleanedThen => Exists fun sinceThen =>
      cleanedThen ++ sinceThen = cleaned ++ since ++ [item] ∧
      Accounts config cleanedThen sinceThen := by
  have frame := recordFired_frame ((create config).processed (cleaned ++ since)) item
  have behind : (create config).processed (cleaned ++ since ++ [item]) =
      (((create config).processed
        (cleaned ++ since)).recordFired item.alert item.nowMs).countProcessed item.nowMs := by
    rw [processed_append]
    rfl
  have reached : (((create config).processed (cleaned ++ since)).recordFired item.alert
      item.nowMs).config.cleanupEveryNAlerts ≤
        (((create config).processed (cleaned ++ since)).recordFired item.alert
        item.nowMs).alertsProcessedSinceCleanup + 1 ↔
          config.cleanupEveryNAlerts ≤ since.length + 1 := by
    rw [frame.1, frame.2.2, accounts.sameConfig, accounts.counted]
  -- Whatever is stored behind the alert, before the cleanup.
  have listed : forall key stored,
      (((create config).processed
          (cleaned ++ since)).recordFired item.alert item.nowMs).lastFiredMs.find? key =
        some stored -> Exists fun fired => fired ∈ remembered config cleaned (since ++ [item]) ∧
          buildKey fired.alert = key ∧ fired.nowMs = stored := by
    intro key stored found
    have passed := letThrough_append ((create config).processed cleaned) since [item]
    rw [← processed_append] at passed
    unfold remembered
    rw [passed]
    rcases find?_recordFired item found with before | ⟨fires, same, time⟩
    · rcases accounts.listed key stored before with ⟨fired, member, facts⟩
      refine ⟨fired, ?_, facts⟩
      rcases List.mem_append.mp member with old | new
      · exact List.mem_append_left _ old
      · exact List.mem_append_right _ (List.mem_append_left _ new)
    · exact ⟨item, List.mem_append_right _ (List.mem_append_right _ fires), same, time⟩
  by_cases due : config.cleanupEveryNAlerts ≤ since.length + 1
  · refine ⟨cleaned ++ since ++ [item], [], List.append_nil _, ?_⟩
    have cleansUp : (create config).processed (cleaned ++ since ++ [item]) =
        { (((create config).processed
          (cleaned ++ since)).recordFired item.alert item.nowMs).cleanupStaleEntries
          item.nowMs with alertsProcessedSinceCleanup := 0 } := by
      rw [behind]
      exact if_pos (reached.mpr due)
    have few := accounts.few
    have whole : (cleaned ++ since ++ [item]).length = cleaned.length + cleanupInterval config := by
      rw [List.length_append, List.length_append, List.length_singleton]
      unfold cleanupInterval at few ⊢
      omega
    refine ⟨?_, ?_, ?_, ?_, Nat.lt_of_lt_of_le Nat.zero_lt_one (Nat.le_max_right _ _), ?_⟩
    · rw [List.append_nil, cleansUp]
      exact frame.1.trans accounts.sameConfig
    · rw [List.append_nil, cleansUp]
      exact frame.2.1.trans accounts.horizon
    · rw [List.append_nil, cleansUp]
      rfl
    · rw [whole]
      exact Nat.dvd_add accounts.whole (Nat.dvd_refl _)
    · intro key stored found
      rw [List.append_nil, cleansUp] at found
      change (((((create config).processed (cleaned ++ since)).recordFired item.alert
        item.nowMs).lastFiredMs).eraseIf _).find? key = some stored at found
      rw [Table.find?_eraseIf] at found
      cases kept : (((create config).processed (cleaned ++ since)).recordFired item.alert
          item.nowMs).lastFiredMs.find? key with
      | none =>
          rw [kept] at found
          cases found
      | some fired =>
          rw [kept, frame.2.1, accounts.horizon] at found
          simp only [Option.filter, stale_iff] at found
          split at found
          · rename_i recent
            cases found
            rcases listed key stored kept with ⟨sent, member, same, time⟩
            refine ⟨sent, ?_, same, time⟩
            have passed := letThrough_append (create config) cleaned (since ++ [item])
            unfold remembered
            refine List.mem_append_left _ (List.mem_filter.mpr ⟨?_, ?_⟩)
            · rw [List.append_assoc, passed]
              rcases List.mem_append.mp member with old | new
              · exact List.mem_append_left _ (List.mem_filter.mp old).1
              · exact List.mem_append_right _ new
            · rw [stillRecent, lastReading, List.getLast?_append, time]
              simp only [Bool.not_eq_true', decide_eq_false_iff_not, Nat.not_lt] at recent
              exact decide_eq_true recent
          · cases found
  · refine ⟨cleaned, since ++ [item], (List.append_assoc _ _ _).symm, ?_⟩
    have counts : (create config).processed (cleaned ++ since ++ [item]) =
        { ((create config).processed (cleaned ++ since)).recordFired item.alert item.nowMs with
          alertsProcessedSinceCleanup :=
            (((create config).processed (cleaned ++ since)).recordFired item.alert
            item.nowMs).alertsProcessedSinceCleanup + 1 } := by
      rw [behind]
      exact if_neg fun impossible => due (reached.mp impossible)
    refine ⟨?_, ?_, ?_, accounts.whole, ?_, ?_⟩
    · rw [← List.append_assoc, counts]
      exact frame.1.trans accounts.sameConfig
    · rw [← List.append_assoc, counts]
      exact frame.2.1.trans accounts.horizon
    · rw [← List.append_assoc, counts, List.length_append, List.length_singleton]
      exact congrArg (· + 1) (frame.2.2.trans accounts.counted)
    · rw [List.length_append, List.length_singleton, cleanupInterval]
      omega
    · intro key stored found
      rw [← List.append_assoc, counts] at found
      exact listed key stored found

private theorem accounts_of_run (config : DeduplicatorConfig) (items : List TimedAlert) :
    Exists fun cleaned => Exists fun since => cleaned ++ since = items ∧
    Accounts config cleaned since := by
  induction items using List.reverseRecOn with
  | nil => exact ⟨[], [], rfl, accounts_new config⟩
  | append_singleton items item inductionHypothesis =>
      rcases inductionHypothesis with ⟨cleaned, since, rfl, accounts⟩
      exact accounts.next item

/-- The table behind any sequence of alerts, at any readings of the clock.  Up
to the last cleanup a whole number of intervals has gone by.  The table holds
no more keys than there were alerts let through behind the cleanup, of which
there are fewer than an interval, and alerts let through no longer than the
longest window before it. -/
theorem trackedKeysCount_le (config : DeduplicatorConfig) (items : List TimedAlert) :
    let cleaned := items.take (items.length / cleanupInterval config * cleanupInterval config)
    let since := items.drop (items.length / cleanupInterval config * cleanupInterval config)
    since.length < cleanupInterval config ∧
      ((create config).processed items).trackedKeysCount ≤
        ((create config).letThrough cleaned).countP (stillRecent config cleaned) +
          (((create config).processed cleaned).letThrough since).length := by
  rcases accounts_of_run config items with ⟨cleaned, since, rfl, accounts⟩
  rcases accounts.whole with ⟨turns, whole⟩
  have few := accounts.few
  have place : (cleaned ++ since).length / cleanupInterval config * cleanupInterval config =
      cleaned.length := by
    rw [List.length_append, whole, Nat.mul_add_div (Nat.zero_lt_of_lt few),
      Nat.div_eq_of_lt few, Nat.add_zero,
      Nat.mul_comm]
  dsimp only
  rw [place, List.take_left, List.drop_left]
  refine ⟨few, ?_⟩
  -- Different keys come from different firings.
  have keys : (((create config).processed (cleaned ++ since)).lastFiredMs.entries.map Prod.fst) ⊆
      (remembered config cleaned since).map fun item => buildKey item.alert := by
    intro key member
    rcases List.mem_map.mp member with ⟨⟨found, stored⟩, listed, rfl⟩
    rcases accounts.listed found stored (Table.find?_of_mem listed) with ⟨item, passed, same, _⟩
    exact List.mem_map.mpr ⟨item, passed, same⟩
  have bound := (List.subperm_of_subset
    ((create config).processed (cleaned ++ since)).lastFiredMs.keys_nodup keys).length_le
  rw [List.length_map, List.length_map, remembered, List.length_append,
    ← List.countP_eq_length_filter] at bound
  exact bound

end AlertDeduplicator

end Risk
end RiskSentinel
