import Mathlib.Data.List.Induction
import RiskSentinel.Risk.Rules

namespace RiskSentinel
namespace Risk

open Foundation
open Events

/-!
# The oracle rule over whole runs

The rule keeps one observation for each feed, as raw bytes, and compares the
low halves of two of them with fixed-width arithmetic.  This module states
what it is for in terms of whole numbers: a feed is the sequence of its
accepted answers, each answer is compared with the one before it, and the
change is a quotient of natural numbers.  The rule is shown to be that, after
every sequence of signals.

The quotient is rounded down before it is compared with a threshold.  The last
section determines exactly which changes the rounding hides.
-/

namespace OracleUpdateRule

/-! ## Answers as numbers -/

/-- The signed value of a 256-bit word. -/
def int256 (word : Bytes 32) : Int :=
  if beNat word.bytes < 2 ^ 255 then (beNat word.bytes : Int)
    else (beNat word.bytes : Int) - 2 ^ 256

/-- The price that an accepted answer reports. -/
def price (event : OracleUpdateEvent) : Nat :=
  (int256 event.currentAnswer).toNat

/-- The relative change from one price to the next in basis points, rounded
down. -/
def changeBps (previous current : Nat) : Nat :=
  ((current : Int) - (previous : Int)).natAbs * 10000 / previous

private theorem beNat_split (word : Bytes 32) :
    beNat word.bytes = beNat (word.bytes.take 24) * 2 ^ 64 + beNat (word.bytes.drop 24) ∧
      beNat (word.bytes.drop 24) < 2 ^ 64 := by
  have width : (word.bytes.drop 24).length = 8 := by
    rw [List.length_drop, word.size_eq]
  have below := beNat_lt (word.bytes.drop 24)
  have whole := beNat_append (word.bytes.take 24) (word.bytes.drop 24)
  rw [List.take_append_drop, width] at whole
  rw [width] at below
  exact ⟨whole, below⟩

private theorem int256_small_iff (word : Bytes 32) :
    (0 ≤ int256 word ∧ int256 word < 2 ^ 64) ↔ beNat word.bytes < 2 ^ 64 := by
  have below := beNat_lt word.bytes
  rw [word.size_eq] at below
  unfold int256
  by_cases positive : beNat word.bytes < 2 ^ 255
  · rw [if_pos positive]
    omega
  · rw [if_neg positive]
    omega

/-- The two guards of the rule accept exactly the answers that are not
negative and fit into 64 bits. -/
theorem isAccepted_iff (answer : Bytes 32) :
    isAccepted answer = true ↔ 0 ≤ int256 answer ∧ int256 answer < 2 ^ 64 := by
  have split := beNat_split answer
  rw [int256_small_iff]
  unfold isAccepted
  rw [Bool.and_eq_true, beq_iff_eq, List.all_eq_true]
  constructor
  · rintro ⟨_, zeros⟩
    have high : beNat (answer.bytes.take 24) = 0 :=
      (beNat_eq_zero_iff _).mpr fun byte member => beq_iff_eq.mp (zeros byte member)
    rw [high] at split
    omega
  · intro small
    have high : beNat (answer.bytes.take 24) = 0 := by omega
    have zeros := (beNat_eq_zero_iff _).mp high
    refine ⟨?_, fun byte member => beq_iff_eq.mpr (zeros byte member)⟩
    cases bytes : answer.bytes with
    | nil => rfl
    | cons first rest =>
        have firstZero : first = 0 := zeros first (by rw [bytes]; exact List.mem_cons_self)
        rw [firstZero, List.getD_cons_zero]
        exact UInt8.zero_and

/-- Of an accepted answer the low 64 bits are the whole price. -/
theorem toNat_lowUint64 (event : OracleUpdateEvent)
    (accepted : isAccepted event.currentAnswer = true) :
    (lowUint64 event.currentAnswer).toNat = price event := by
  have small := (int256_small_iff _).mp ((isAccepted_iff _).mp accepted)
  have split := beNat_split event.currentAnswer
  have whole : price event = beNat (event.currentAnswer.bytes.drop 24) := by
    unfold price int256
    rw [if_pos (by omega)]
    omega
  have slice : (event.currentAnswer.slice 24 8 (by decide)).bytes =
      event.currentAnswer.bytes.drop 24 := by
    change (event.currentAnswer.bytes.drop 24).take 8 = _
    apply List.take_of_length_le
    rw [List.length_drop, event.currentAnswer.size_eq]
  have folded := toNat_foldl_shiftInByte 0 (event.currentAnswer.bytes.drop 24) (by
    change 0 * _ + _ < _
    omega)
  unfold lowUint64
  rw [slice, whole]
  apply folded.trans
  change 0 * _ + _ = _
  omega

/-! ## The arithmetic of one comparison -/

/-- The product as the source computes it, in a signed 128-bit type. -/
def widenedProduct (diff : UInt64) : BitVec 128 :=
  BitVec.ofNat 128 diff.toNat * 10000#128

/-- The quotient as the source computes it before it is clamped. -/
def widenedQuotient (diff previous : UInt64) : BitVec 128 :=
  (widenedProduct diff).sdiv (BitVec.ofNat 128 previous.toNat)

private theorem toNat_widenedProduct (diff : UInt64) :
    (widenedProduct diff).toNat = diff.toNat * 10000 := by
  have bound : diff.toNat < 2 ^ 64 := diff.toNat_lt
  unfold widenedProduct
  rw [BitVec.toNat_mul, BitVec.toNat_ofNat, BitVec.toNat_ofNat,
    Nat.mod_eq_of_lt (by omega : diff.toNat < 2 ^ 128),
    Nat.mod_eq_of_lt (by decide : 10000 < 2 ^ 128)]
  exact Nat.mod_eq_of_lt (by omega)

private theorem toInt_of_small (value : BitVec 128) (small : value.toNat < 2 ^ 127) :
    value.toInt = value.toNat := by
  apply BitVec.toInt_eq_toNat_of_lt
  omega

/-- Neither the product nor the quotient leaves the signed 128-bit type. -/
theorem widened_exact (diff previous : UInt64) :
    (widenedProduct diff).toInt = (diff.toNat : Int) * 10000 ∧
      (widenedQuotient diff previous).toInt =
        ((diff.toNat * 10000 / previous.toNat : Nat) : Int) := by
  have bound : diff.toNat < 2 ^ 64 := diff.toNat_lt
  have divisor : previous.toNat < 2 ^ 64 := previous.toNat_lt
  have product := toNat_widenedProduct diff
  have divisorValue : (BitVec.ofNat 128 previous.toNat).toNat = previous.toNat := by
    rw [BitVec.toNat_ofNat]
    exact Nat.mod_eq_of_lt (by omega)
  have productPositive : (widenedProduct diff).msb = false := by
    rw [BitVec.msb_eq_false_iff_two_mul_lt, product]
    omega
  have divisorPositive : (BitVec.ofNat 128 previous.toNat).msb = false := by
    rw [BitVec.msb_eq_false_iff_two_mul_lt, divisorValue]
    omega
  have quotient : (widenedQuotient diff previous).toNat = diff.toNat * 10000 / previous.toNat := by
    unfold widenedQuotient
    rw [BitVec.sdiv_eq, productPositive, divisorPositive]
    simp only [BitVec.udiv_eq, BitVec.toNat_udiv]
    rw [product, divisorValue]
  have quotientSmall : diff.toNat * 10000 / previous.toNat ≤ diff.toNat * 10000 :=
    Nat.div_le_self _ _
  refine ⟨?_, ?_⟩
  · rw [toInt_of_small _ (by omega), product]
    norm_cast
  · rw [toInt_of_small _ (by omega), quotient]

/-- The computed change is the quotient of the whole numbers, clamped. -/
theorem toNat_deltaBps (previous current : UInt64) :
    (deltaBps previous current).toNat = min (changeBps previous.toNat current.toNat)
    (2 ^ 64 - 1) := by
  have diff : (if previous < current then current - previous else previous - current).toNat =
      ((current.toNat : Int) - (previous.toNat : Int)).natAbs := by
    by_cases rises : previous < current
    · have order : previous.toNat < current.toNat := rises
      rw [if_pos rises, UInt64.toNat_sub_of_le _ _ (UInt64.le_of_lt rises)]
      omega
    · have order : current.toNat ≤ previous.toNat := UInt64.not_lt.mp rises
      rw [if_neg rises, UInt64.toNat_sub_of_le _ _ (UInt64.not_lt.mp rises)]
      omega
  unfold deltaBps
  simp only [diff]
  change (if 2 ^ 64 - 1 < changeBps previous.toNat current.toNat then _
    else UInt64.ofNat (changeBps previous.toNat current.toNat)).toNat = _
  by_cases large : 2 ^ 64 - 1 < changeBps previous.toNat current.toNat
  · rw [if_pos large, Nat.min_eq_right (Nat.le_of_lt large)]
    rfl
  · have fits : changeBps previous.toNat current.toNat < 2 ^ 64 := by omega
    rw [if_neg large, Nat.min_eq_left (Nat.le_of_not_lt large), UInt64.toNat_ofNat_of_lt' fits]

/-! ## Runs -/

/-- The rule as it is constructed, before it has seen a signal. -/
def create (configsByFeed : Table OracleFeedKey (List OracleRuleConfig)) : OracleUpdateRule where
  configsByFeed := configsByFeed

/-- The rule after a sequence of signals. -/
def afterAll (rule : OracleUpdateRule) (signals : List Signal) : OracleUpdateRule :=
  signals.foldl (fun reached signal => (reached.evaluate signal).1) rule

/-- The oracle event a signal carries. -/
def update? (signal : Signal) : Option OracleUpdateEvent :=
  match signal.type, signal.payload with
  | .oracleUpdate, .oracleUpdate event => some event
  | _, _ => none

/-- The oracle event of a signal, if its answer is neither negative nor too
large to be compared. -/
def observed? (signal : Signal) : Option OracleUpdateEvent :=
  (update? signal).filter fun event =>
    decide (0 ≤ int256 event.currentAnswer ∧ int256 event.currentAnswer < 2 ^ 64)

/-- The last accepted observation of a feed. -/
def lastObserved (signals : List Signal) (feed : OracleFeedKey) : Option OracleUpdateEvent :=
  (signals.filterMap observed?).reverse.find? fun event => decide (feedKey event = feed)

/-- The signal is about the feed. -/
def concerns (feed : OracleFeedKey) (signal : Signal) : Bool :=
  (update? signal).any fun event => decide (feedKey event = feed)

/-- The alert that reports a change to one customer. -/
def changeAlert (config : OracleRuleConfig) (event : OracleUpdateEvent) (change : Nat)
    (timestampMs : UInt64) : Alert where
  customerId := config.customerId
  ruleType := "oracle_update"
  message := "Oracle spike on " ++ config.feedLabel ++ ": " ++
    formatPctFromBps (UInt64.ofNat (min change (2 ^ 64 - 1))) ++ "% change"
  timestampMs := timestampMs
  amountDecimal := some (Nat.repr (price event))
  tokenAddress := some (aggregatorToHex event.aggregatorAddress)
  chainId := some event.chainId

/-- What is expected of the rule when a signal follows others: an accepted
observation is compared with the one before it in its feed, and each enabled
configuration of the feed, in the order of the table, reports a change above
its threshold. -/
def expectedAlerts (configsByFeed : Table OracleFeedKey (List OracleRuleConfig))
    (earlier : List Signal) (signal : Signal) : List Alert :=
  match observed? signal with
  | none => []
  | some event =>
      match lastObserved earlier (feedKey event) with
      | none => []
      | some previous =>
          ((configsByFeed.find? (feedKey event)).getD []).filterMap fun config =>
            if config.enabled = true ∧ 0 < price previous ∧
                config.spikeThresholdBps.toNat < changeBps (price previous) (price event) then
              some (changeAlert config event (changeBps (price previous) (price event))
                signal.signalMeta.timestampMs)
            else none

private theorem observed?_eq_some_iff {signal : Signal} {event : OracleUpdateEvent} :
    observed? signal = some event ↔ update? signal = some event ∧
    isAccepted event.currentAnswer = true := by
  unfold observed?
  rw [Option.filter_eq_some_iff, decide_eq_true_eq, isAccepted_iff]

private theorem update?_eq_some_iff {signal : Signal} {event : OracleUpdateEvent} :
    update? signal = some event ↔ signal.type = .oracleUpdate ∧
    signal.payload = .oracleUpdate event := by
  unfold update?
  cases type : signal.type <;> cases payload : signal.payload <;> simp

private theorem evaluate_of_update?_none (rule : OracleUpdateRule) {signal : Signal}
    (none : update? signal = none) : rule.evaluate signal = (rule, []) := by
  unfold update? at none
  unfold evaluate
  cases type : signal.type <;> cases payload : signal.payload <;> simp_all

/-- Everything a signal can do to the rule. -/
theorem evaluate_cases (rule : OracleUpdateRule) (signal : Signal) :
    (rule.evaluate signal = (rule, []) ∧
      forall event, observed? signal = some event ->
      rule.configsByFeed.find? (feedKey event) = none) ∨
    Exists fun event => Exists fun bucket => observed? signal = some event ∧
      rule.configsByFeed.find? (feedKey event) = some bucket ∧
      rule.evaluate signal =
        ({ rule with lastByFeed := rule.lastByFeed.assign (feedKey event) (observation event) },
          compareWithLast (rule.lastByFeed.find?
            (feedKey event)) bucket event signal.signalMeta.timestampMs) := by
  cases update : update? signal with
  | none =>
      refine Or.inl ⟨evaluate_of_update?_none rule update, fun event observed => ?_⟩
      rw [(observed?_eq_some_iff.mp observed).1] at update
      cases update
  | some event =>
      rcases update?_eq_some_iff.mp update with ⟨type, payload⟩
      have result := rule.evaluate_oracleUpdate type payload
      cases configured : rule.configsByFeed.find? (feedKey event) with
      | none =>
          rw [configured] at result
          refine Or.inl ⟨result, fun other observed => ?_⟩
          rw [(observed?_eq_some_iff.mp observed).1] at update
          cases update
          exact configured
      | some bucket =>
          rw [configured] at result
          by_cases accepted : isAccepted event.currentAnswer = true
          · exact Or.inr ⟨event, bucket, observed?_eq_some_iff.mpr ⟨update, accepted⟩, configured,
              result.trans (if_pos accepted)⟩
          · refine Or.inl ⟨result.trans (if_neg accepted), fun other observed => ?_⟩
            rcases observed?_eq_some_iff.mp observed with ⟨same, acceptedOther⟩
            rw [update] at same
            cases same
            exact absurd acceptedOther accepted

theorem evaluate_configsByFeed (rule : OracleUpdateRule) (signal : Signal) :
    (rule.evaluate signal).1.configsByFeed = rule.configsByFeed := by
  rcases evaluate_cases rule signal with ⟨unchanged, _⟩ | ⟨event, bucket, _, _, result⟩
  · rw [unchanged]
  · rw [result]

theorem afterAll_snoc (rule : OracleUpdateRule) (signals : List Signal) (signal : Signal) :
    rule.afterAll (signals ++ [signal]) = ((rule.afterAll signals).evaluate signal).1 := by
  rw [afterAll, afterAll, List.foldl_append]
  rfl

theorem afterAll_configsByFeed (rule : OracleUpdateRule) (signals : List Signal) :
    (rule.afterAll signals).configsByFeed = rule.configsByFeed := by
  induction signals using List.reverseRecOn with
  | nil => rfl
  | append_singleton earlier signal inductionHypothesis =>
      rw [afterAll_snoc, evaluate_configsByFeed]
      exact inductionHypothesis

theorem lastObserved_snoc_none (signals : List Signal) {signal : Signal} (feed : OracleFeedKey)
    (observed : observed? signal = none) :
    lastObserved (signals ++ [signal]) feed = lastObserved signals feed := by
  unfold lastObserved
  rw [List.filterMap_append, List.filterMap_cons_none observed, List.filterMap_nil, List.append_nil]

theorem lastObserved_snoc_some (signals : List Signal) {signal : Signal} {event : OracleUpdateEvent}
    (feed : OracleFeedKey) (observed : observed? signal = some event) :
    lastObserved (signals ++ [signal]) feed =
      if feedKey event = feed then some event else lastObserved signals feed := by
  unfold lastObserved
  rw [List.filterMap_append, List.filterMap_cons_some observed, List.filterMap_nil,
    List.reverse_append,
    List.reverse_singleton, List.singleton_append, List.find?_cons]
  by_cases same : feedKey event = feed
  · rw [if_pos same, decide_eq_true same]
  · rw [if_neg same, decide_eq_false same]

/-- The table of the rule holds the last accepted observation of each
configured feed, and nothing else. -/
theorem lastByFeed_afterAll (configsByFeed : Table OracleFeedKey (List OracleRuleConfig))
    (signals : List Signal) (feed : OracleFeedKey) :
    ((create configsByFeed).afterAll signals).lastByFeed.find? feed =
      if configsByFeed.contains feed = true
        then (lastObserved signals feed).map observation else none := by
  induction signals using List.reverseRecOn with
  | nil => cases configsByFeed.contains feed <;> rfl
  | append_singleton earlier signal inductionHypothesis =>
      have configs := afterAll_configsByFeed (create configsByFeed) earlier
      rw [afterAll_snoc]
      rcases evaluate_cases ((create configsByFeed).afterAll earlier) signal with
        ⟨unchanged, unconfigured⟩ | ⟨event, bucket, observed, configured, result⟩
      · rw [unchanged, inductionHypothesis]
        by_cases known : configsByFeed.contains feed = true
        · rw [if_pos known, if_pos known]
          cases observed : observed? signal with
          | none => rw [lastObserved_snoc_none earlier feed observed]
          | some event =>
              have absent := unconfigured event observed
              rw [configs] at absent
              have different : feedKey event ≠ feed := by
                intro same
                rw [same] at absent
                change configsByFeed.find? feed = none at absent
                rw [Table.contains, absent] at known
                cases known
              rw [lastObserved_snoc_some earlier feed observed, if_neg different]
        · rw [if_neg known, if_neg known]
      · rw [result, lastObserved_snoc_some earlier feed observed, Table.find?_assign]
        by_cases same : feed = feedKey event
        · have known : configsByFeed.contains feed = true := by
            rw [configs] at configured
            change configsByFeed.find? (feedKey event) = some bucket at configured
            rw [same, Table.contains, configured]
            rfl
          rw [if_pos same, if_pos known, if_pos same.symm]
          rfl
        · have different : feedKey event ≠ feed := fun other => same other.symm
          rw [if_neg same, inductionHypothesis, if_neg different]

private theorem accepted_of_lastObserved {signals : List Signal} {feed : OracleFeedKey}
    {event : OracleUpdateEvent} (found : lastObserved signals feed = some event) :
    isAccepted event.currentAnswer = true := by
  unfold lastObserved at found
  have member := List.mem_reverse.mp (List.mem_of_find?_eq_some found)
  rcases List.mem_filterMap.mp member with ⟨signal, _, observed⟩
  exact (observed?_eq_some_iff.mp observed).2

private theorem alert_eq_changeAlert (config : OracleRuleConfig)
    (previous event : OracleUpdateEvent) (timestampMs : UInt64)
    (acceptedPrevious : isAccepted previous.currentAnswer = true)
    (accepted : isAccepted event.currentAnswer = true) :
    alert config event (deltaBps (lowUint64 previous.currentAnswer)
        (lowUint64 event.currentAnswer)) timestampMs =
      changeAlert config event (changeBps (price previous) (price event)) timestampMs := by
  have change := toNat_deltaBps (lowUint64 previous.currentAnswer) (lowUint64 event.currentAnswer)
  rw [toNat_lowUint64 previous acceptedPrevious, toNat_lowUint64 event accepted] at change
  unfold alert changeAlert
  rw [← change, UInt64.ofNat_toNat, toNat_lowUint64 event accepted]

/-- A comparison of two accepted observations. -/
private theorem compareWithLast_observation (previous event : OracleUpdateEvent)
    (bucket : List OracleRuleConfig) (timestampMs : UInt64)
    (acceptedPrevious : isAccepted previous.currentAnswer = true)
    (accepted : isAccepted event.currentAnswer = true) :
    compareWithLast (some (observation previous)) bucket event timestampMs =
      bucket.filterMap fun config =>
      if config.enabled = true ∧ 0 < price previous ∧
          config.spikeThresholdBps.toNat < changeBps (price previous) (price event) then
        some (changeAlert config event (changeBps (price previous) (price event)) timestampMs)
      else none := by
  have baseline := toNat_lowUint64 previous acceptedPrevious
  change (if lowUint64 previous.currentAnswer == 0 then [] else _) = _
  by_cases zero : lowUint64 previous.currentAnswer = 0
  · have free : price previous = 0 := by
      rw [← baseline, zero]
      rfl
    rw [if_pos (beq_iff_eq.mpr zero), free]
    simp
  · have positive : 0 < price previous := by
      apply Nat.pos_of_ne_zero
      intro free
      exact zero (UInt64.toNat_inj.mp (baseline.trans free))
    rw [if_neg (by rw [beq_iff_eq]; exact zero), spikeAlerts_eq]
    congr 1
    funext config
    change (if _ ∧ _ < deltaBps (lowUint64 previous.currentAnswer) _ then
      some (alert config event (deltaBps (lowUint64 previous.currentAnswer) _) timestampMs)
        else none) = _
    have change := toNat_deltaBps (lowUint64 previous.currentAnswer) (lowUint64 event.currentAnswer)
    rw [baseline, toNat_lowUint64 event accepted] at change
    have threshold : config.spikeThresholdBps.toNat < 2 ^ 32 := config.spikeThresholdBps.toNat_lt
    have sameVerdict : config.spikeThresholdBps.toUInt64 <
          deltaBps (lowUint64 previous.currentAnswer) (lowUint64 event.currentAnswer) ↔
        config.spikeThresholdBps.toNat < changeBps (price previous) (price event) := by
      rw [UInt64.lt_iff_toNat_lt, change, UInt32.toNat_toUInt64]
      omega
    simp only [sameVerdict, positive, true_and]
    rw [alert_eq_changeAlert config previous event timestampMs acceptedPrevious accepted]

/-- In the state reached by any signals, the rule answers the next one as
expected. -/
theorem evaluate_afterAll (configsByFeed : Table OracleFeedKey (List OracleRuleConfig))
    (earlier : List Signal) (signal : Signal) :
    (((create configsByFeed).afterAll earlier).evaluate signal).2 =
      expectedAlerts configsByFeed earlier signal := by
  have configs : ((create configsByFeed).afterAll earlier).configsByFeed = configsByFeed :=
    afterAll_configsByFeed _ _
  unfold expectedAlerts
  rcases evaluate_cases ((create configsByFeed).afterAll earlier) signal with
    ⟨unchanged, unconfigured⟩ | ⟨event, bucket, observed, configured, result⟩
  · rw [unchanged]
    cases observed : observed? signal with
    | none => rfl
    | some event =>
        have absent := unconfigured event observed
        rw [configs] at absent
        simp only [absent]
        cases lastObserved earlier (feedKey event) <;> rfl
  · rw [configs] at configured
    have known : configsByFeed.contains (feedKey event) = true := by
      rw [Table.contains, configured]
      rfl
    rw [result, observed, lastByFeed_afterAll, if_pos known]
    simp only [configured]
    cases last : lastObserved earlier (feedKey event) with
    | none => rfl
    | some previous =>
        exact compareWithLast_observation previous event bucket _ (accepted_of_lastObserved last)
          (observed?_eq_some_iff.mp observed).2

/-- Leaving out the signals that are not about a feed changes neither its
last observation nor what is expected of its next one. -/
private theorem lastObserved_filter (signals : List Signal) (feed : OracleFeedKey) :
    lastObserved (signals.filter (concerns feed)) feed = lastObserved signals feed := by
  induction signals using List.reverseRecOn with
  | nil => rfl
  | append_singleton earlier signal inductionHypothesis =>
      rw [List.filter_append]
      cases observed : observed? signal with
      | none =>
          rw [lastObserved_snoc_none earlier feed observed]
          by_cases about : concerns feed signal = true
          · rw [List.filter_cons_of_pos about, List.filter_nil,
              lastObserved_snoc_none _ feed observed,
              inductionHypothesis]
          · rw [List.filter_cons_of_neg about, List.filter_nil, List.append_nil,
              inductionHypothesis]
      | some event =>
          have about : concerns feed signal = decide (feedKey event = feed) := by
            rw [concerns, (observed?_eq_some_iff.mp observed).1]
            rfl
          rw [lastObserved_snoc_some earlier feed observed]
          by_cases same : feedKey event = feed
          · rw [List.filter_cons_of_pos (about.trans (decide_eq_true same)), List.filter_nil,
              lastObserved_snoc_some _ feed observed, if_pos same, if_pos same]
          · have aside : ¬ concerns feed signal = true := by
              rw [about, decide_eq_true_eq]
              exact same
            rw [List.filter_cons_of_neg aside, List.filter_nil, List.append_nil,
              inductionHypothesis, if_neg same]

/-- The rule over whole runs.  After any signals, the alerts of the next one
are those of the comparison of consecutive accepted observations; the table
holds the last accepted observation of each configured feed and nothing else;
the signals of other feeds could have been left out; and the arithmetic in
between never leaves its integer type. -/
theorem evaluate_over_runs (configsByFeed : Table OracleFeedKey (List OracleRuleConfig))
    (earlier : List Signal) (signal : Signal) :
    (((create configsByFeed).afterAll earlier).evaluate signal).2 =
      expectedAlerts configsByFeed earlier signal ∧
    (forall feed, ((create configsByFeed).afterAll earlier).lastByFeed.find? feed =
      if configsByFeed.contains feed = true
        then (lastObserved earlier feed).map observation else none) ∧
    (forall feed, concerns feed signal = true ->
      (((create configsByFeed).afterAll earlier).evaluate signal).2 =
        (((create configsByFeed).afterAll (earlier.filter (concerns feed))).evaluate signal).2) ∧
    (forall diff previous : UInt64, (widenedProduct diff).toInt = (diff.toNat : Int) * 10000 ∧
      (widenedQuotient diff previous).toInt =
        ((diff.toNat * 10000 / previous.toNat : Nat) : Int)) := by
  refine ⟨evaluate_afterAll configsByFeed earlier signal,
    lastByFeed_afterAll configsByFeed earlier, ?_,
    widened_exact⟩
  intro feed about
  rw [evaluate_afterAll, evaluate_afterAll]
  unfold expectedAlerts
  cases observed : observed? signal with
  | none => rfl
  | some event =>
      have update := (observed?_eq_some_iff.mp observed).1
      have sameFeed : feedKey event = feed := by
        rw [concerns, update] at about
        simpa using about
      simp only [sameFeed, lastObserved_filter]

/-! ## What the rounding hides -/

/-- The rule with one configuration for a feed in place of all of them. -/
def onlyConfig (rule : OracleUpdateRule) (feed : OracleFeedKey) (config : OracleRuleConfig) :
    OracleUpdateRule :=
  { rule with configsByFeed := rule.configsByFeed.assign feed [config] }

private theorem evaluate_observed (rule : OracleUpdateRule) {signal : Signal}
    {previous event : OracleUpdateEvent} {bucket : List OracleRuleConfig}
    (observed : observed? signal = some event)
    (configured : rule.configsByFeed.find? (feedKey event) = some bucket)
    (stored : rule.lastByFeed.find? (feedKey event) = some (observation previous))
    (acceptedPrevious : isAccepted previous.currentAnswer = true) :
    (rule.evaluate signal).2 = bucket.filterMap fun config =>
      if config.enabled = true ∧ 0 < price previous ∧
          config.spikeThresholdBps.toNat < changeBps (price previous) (price event) then
        some (changeAlert config event
          (changeBps (price previous) (price event)) signal.signalMeta.timestampMs)
      else none := by
  rcases evaluate_cases rule signal with ⟨_, unconfigured⟩
    | ⟨other, found, sameEvent, sameBucket, result⟩
  · rw [unconfigured event observed] at configured
    cases configured
  · rw [observed] at sameEvent
    cases sameEvent
    rw [configured] at sameBucket
    cases sameBucket
    rw [result, stored]
    exact compareWithLast_observation previous event bucket _ acceptedPrevious
      (observed?_eq_some_iff.mp observed).2

/-- Rounding down to whole basis points raises the bar by less than one of
them. -/
private theorem threshold_lt_changeBps_iff (threshold previous current : Nat)
    (positive : 0 < previous) :
    threshold < changeBps previous current ↔
      (threshold + 1) * previous ≤ ((current : Int) - (previous : Int)).natAbs * 10000 :=
  Nat.le_div_iff_mul_le positive

/-- Two consecutive accepted observations of a configured feed: the alerts are
those of its configurations one by one, and an enabled configuration raises
one for every change above its threshold exactly when the change does not lie
strictly between the threshold and the next basis point. -/
theorem reports_every_excess_iff (configsByFeed : Table OracleFeedKey (List OracleRuleConfig))
    (earlier : List Signal) (signal : Signal) (previous event : OracleUpdateEvent)
    (bucket : List OracleRuleConfig) (config : OracleRuleConfig)
    (observed : observed? signal = some event)
    (last : lastObserved earlier (feedKey event) = some previous) (positive : 0 < price previous)
    (configured : configsByFeed.find? (feedKey event) = some bucket)
    (enabled : config.enabled = true) :
    (((create configsByFeed).afterAll earlier).evaluate signal).2 = (bucket.flatMap fun member =>
      ((((create configsByFeed).afterAll earlier).onlyConfig
        (feedKey event) member).evaluate signal).2) ∧
    ((((((create configsByFeed).afterAll earlier).onlyConfig
      (feedKey event) config).evaluate signal).2 ≠ [] ↔
        config.spikeThresholdBps.toNat * price previous <
          ((price event : Int) - (price previous : Int)).natAbs * 10000) ↔
      ¬ (config.spikeThresholdBps.toNat * price previous <
            ((price event : Int) - (price previous : Int)).natAbs * 10000 ∧
          ((price event : Int) - (price previous : Int)).natAbs * 10000 <
            (config.spikeThresholdBps.toNat + 1) * price previous)) := by
  have accepted := accepted_of_lastObserved last
  have stored : ((create configsByFeed).afterAll earlier).lastByFeed.find? (feedKey event) =
      some (observation previous) := by
    rw [lastByFeed_afterAll, last, Table.contains, configured]
    rfl
  have whole := evaluate_observed ((create configsByFeed).afterAll earlier) observed
    (by rw [afterAll_configsByFeed]; exact configured) stored accepted
  have single := fun member => evaluate_observed
    (((create configsByFeed).afterAll earlier).onlyConfig (feedKey event) member) observed
    ((Table.find?_assign _ _ _ _).trans (if_pos rfl)) stored accepted
  refine ⟨?_, ?_⟩
  · rw [whole, List.filterMap_eq_flatMap_toList]
    congr 1
    funext member
    rw [single, List.filterMap_eq_flatMap_toList, List.flatMap_singleton]
  · rw [single]
    have verdict := threshold_lt_changeBps_iff config.spikeThresholdBps.toNat (price previous)
      (price event) positive
    have nonempty : ([config].filterMap fun member =>
        if member.enabled = true ∧ 0 < price previous ∧
            member.spikeThresholdBps.toNat < changeBps (price previous) (price event) then
          some (changeAlert member event
            (changeBps (price previous) (price event)) signal.signalMeta.timestampMs)
        else none) ≠ [] ↔ (config.spikeThresholdBps.toNat + 1) * price previous ≤
          ((price event : Int) - (price previous : Int)).natAbs * 10000 := by
      rw [← verdict]
      by_cases above : config.spikeThresholdBps.toNat < changeBps (price previous) (price event)
      · simp [enabled, positive, above]
      · simp [above]
    rw [nonempty, Nat.add_mul, Nat.one_mul]
    omega

private def sampleUpdate (answer : Nat) : OracleUpdateEvent where
  chainId := 1
  aggregatorAddress := Bytes.zeros 20
  currentAnswer := Bytes.ofNat 32 answer
  roundId := Bytes.zeros 32
  updatedAt := 0

private def sampleSignal (answer : Nat) : Signal where
  type := .oracleUpdate
  payload := .oracleUpdate (sampleUpdate answer)

private def fivePercent : OracleRuleConfig where
  customerId := 1
  chainId := 1
  aggregatorAddress := Bytes.zeros 20
  feedLabel := "ETH/USD"
  spikeThresholdBps := 500
  decimals := 8
  enabled := true

private def sampleConfigs : Table OracleFeedKey (List OracleRuleConfig) :=
  Table.empty.assign ⟨1, Bytes.zeros 20⟩ [fivePercent]

/-- From 100000 to 106000 the price rises by six percent, and the rule says
so. -/
theorem six_percent_reported :
    (((create sampleConfigs).afterAll [sampleSignal 100000]).evaluate (sampleSignal 106000)).2 ≠
      [] ∧
      ((((((create sampleConfigs).afterAll [sampleSignal 100000]).onlyConfig
        (feedKey (sampleUpdate 106000))
          fivePercent).evaluate (sampleSignal 106000)).2 ≠ [] ↔
        fivePercent.spikeThresholdBps.toNat * price (sampleUpdate 100000) <
          ((price (sampleUpdate 106000) : Int) - (price (sampleUpdate 100000) : Int)).natAbs *
            10000)) := by
  refine ⟨by decide +kernel, ?_⟩
  apply (reports_every_excess_iff sampleConfigs [sampleSignal 100000] (sampleSignal 106000)
    (sampleUpdate 100000)
    (sampleUpdate 106000) [fivePercent] fivePercent (by decide +kernel) (by decide +kernel)
      (by decide +kernel)
    (by decide +kernel) rfl).2.mpr
  decide +kernel

/-- From 100000 to 105005 the price rises by more than five percent, but by
less than one further basis point, and nothing is reported. -/
theorem excess_hidden_by_rounding :
    observed? (sampleSignal 105005) = some (sampleUpdate 105005) ∧
      lastObserved [sampleSignal 100000]
        (feedKey (sampleUpdate 105005)) = some (sampleUpdate 100000) ∧
      sampleConfigs.find? (feedKey (sampleUpdate 105005)) = some [fivePercent] ∧
      price (sampleUpdate 100000) = 100000 ∧ price (sampleUpdate 105005) = 105005 ∧
      ¬ ((((create sampleConfigs).afterAll [sampleSignal 100000]).evaluate
        (sampleSignal 105005)).2 ≠ [] ↔
        fivePercent.spikeThresholdBps.toNat * 100000 <
          ((105005 : Int) - (100000 : Int)).natAbs * 10000) := by
  decide +kernel

end OracleUpdateRule

end Risk
end RiskSentinel
