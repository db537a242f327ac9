import RiskSentinel.Risk.AlertDeduplicator
import RiskSentinel.Risk.Emission

namespace RiskSentinel
namespace Risk

open Foundation Events

/-!
# Which governance alerts silence each other

The governance rule writes the kind of an action into the message of its
alert and nowhere else.  The deduplicator does not read messages: its key is
the customer, the rule type, the chain and the contract.  Rule and
deduplicator together therefore suppress an alert because of an earlier
action of any kind on the same contract.  A role that was granted silences
the upgrade that follows it within the window.
-/

/-- A governance alert on its way through the dispatcher, with the event that
it reports. -/
structure GovernanceAlert where
  event : GovernanceEvent
  alert : Alert
  nowMs : UInt64
deriving DecidableEq

def GovernanceAlert.timed (item : GovernanceAlert) : TimedAlert where
  alert := item.alert
  nowMs := item.nowMs

namespace GovernanceRule

/-- The alerts for a signal, each with the event it reports. -/
def raised (rule : GovernanceRule) (signal : Signal) : List (GovernanceEvent × Alert) :=
  match signal.payload with
  | .governance event => (rule.evaluate signal).map fun alert => (event, alert)
  | _ => []

/-- Nothing else is raised. -/
theorem map_raised (rule : GovernanceRule) (signal : Signal) :
    (rule.raised signal).map Prod.snd = rule.evaluate signal := by
  unfold raised
  cases payload : signal.payload with
  | governance event => simp
  | _ => simp [evaluate, payload]

/-- The alerts of a sequence of signals, taken by the dispatcher at the given
clock readings. -/
def dispatched (rule : GovernanceRule) (signals : List Signal) (times : List UInt64) :
    List GovernanceAlert :=
  List.zipWith (fun made nowMs => ⟨made.1, made.2, nowMs⟩) (signals.flatMap rule.raised) times

/-- An alert names the event's contract and its chain. -/
structure Reports (item : GovernanceAlert) : Prop where
  ruleType : item.alert.ruleType = "governance"
  chainId : item.alert.chainId = some item.event.chainId
  tokenAddress : item.alert.tokenAddress = some (bytesToHex item.event.contractAddress)

theorem reports_of_mem_dispatched {rule : GovernanceRule} {signals : List Signal}
    {times : List UInt64} {item : GovernanceAlert} (member : item ∈ rule.dispatched signals times) :
    Reports item := by
  rcases List.mem_iff_getElem.mp member with ⟨index, inside, rfl⟩
  rw [dispatched, List.length_zipWith] at inside
  simp only [dispatched, List.getElem_zipWith]
  have listed := List.getElem_mem (l := signals.flatMap rule.raised)
    (Nat.lt_of_lt_of_le inside (Nat.min_le_left _ _))
  rcases List.mem_flatMap.mp listed with ⟨signal, _, made⟩
  generalize (signals.flatMap rule.raised)[index] = pair at made
  unfold raised at made
  cases payload : signal.payload with
  | governance event =>
      rw [payload] at made
      rcases List.mem_map.mp made with ⟨alert, emitted, rfl⟩
      have kind : Emitted signal (.governance rule) alert := emitted_of_mem_evaluate emitted
      cases kind with
      | governance type same found listed enabled =>
          rw [payload] at same
          cases same
          exact ⟨rfl, rfl, rfl⟩
  | _ =>
      rw [payload] at made
      cases made

end GovernanceRule

namespace AlertDeduplicator

/-- Each alert with the answer of `should_suppress`. -/
def verdicts : AlertDeduplicator -> List GovernanceAlert -> List (GovernanceAlert × Bool)
  | _, [] => []
  | dedup, item :: rest =>
      let decided := dedup.shouldSuppress item.alert item.nowMs
      (item, decided.2) :: verdicts decided.1 rest

private theorem verdicts_remembers (config : DeduplicatorConfig) (items : List GovernanceAlert)
    (dedup : AlertDeduplicator) (same : dedup.config = config) (clock : Nat)
    (full : String -> Option Nat) (remembers : dedup.Remembers clock full)
    (reached : forall item, item ∈ items -> clock ≤ item.nowMs.toNat)
    (monotone : Throttle.Monotone (fun item : GovernanceAlert => config.request item.timed) items) :
    dedup.verdicts items = Throttle.decisions
      (fun item => config.request item.timed) full items := by
  induction items generalizing dedup clock full with
  | nil => rfl
  | cons item rest inductionHypothesis =>
      have tail := List.pairwise_cons.mp monotone
      have decided := remembers.shouldSuppress item.timed (reached item List.mem_cons_self)
      rw [same] at decided
      have others := inductionHypothesis _
        ((shouldSuppress_config dedup _ _).trans same) _ _ decided.2 tail.1 tail.2
      rw [verdicts, Throttle.decisions, ← decided.1, ← others]
      rfl

/-- The clock of the dispatcher does not go back. -/
private theorem monotone_dispatched (config : DeduplicatorConfig) (rule : GovernanceRule)
    (signals : List Signal) (times : List UInt64) (nondecreasing : times.Pairwise (· ≤ ·)) :
    Throttle.Monotone (fun item : GovernanceAlert => config.request item.timed)
      (rule.dispatched signals times) := by
  have readings : ((rule.dispatched signals times).map GovernanceAlert.nowMs).Pairwise (· ≤ ·) := by
    refine List.Pairwise.sublist ?_ nondecreasing
    rw [GovernanceRule.dispatched, List.map_zipWith]
    generalize signals.flatMap rule.raised = made
    induction made generalizing times with
    | nil => exact List.nil_sublist _
    | cons first rest inductionHypothesis =>
        cases times with
        | nil => exact List.Sublist.slnil
        | cons time later =>
            exact (inductionHypothesis later (List.pairwise_cons.mp nondecreasing).2).cons_cons time
  rw [List.pairwise_map] at readings
  apply readings.imp
  intro earlier later order
  exact UInt64.le_iff_toNat_le.mp order

end AlertDeduplicator

/-- The two alerts are for one customer and report events of one contract. -/
structure SameContract (left right : GovernanceAlert) : Prop where
  customerId : left.alert.customerId = right.alert.customerId
  chainId : left.event.chainId = right.event.chainId
  contractAddress : left.event.contractAddress = right.event.contractAddress

/-- A governance alert is suppressed only after an alert for the same
customer and contract was let through within the window.  The kind of the
action plays no part. -/
theorem suppressed_only_after_same_contract (rule : GovernanceRule) (config : DeduplicatorConfig)
    (signals : List Signal) (times : List UInt64) (nondecreasing : times.Pairwise (· ≤ ·))
    (before later : List (GovernanceAlert × Bool)) (item : GovernanceAlert)
    (split : (AlertDeduplicator.create config).verdicts (rule.dispatched signals times) =
      before ++ (item, true) :: later) :
    Exists fun earlier : GovernanceAlert => (earlier, false) ∈ before ∧ SameContract earlier item ∧
      item.nowMs.toNat - earlier.nowMs.toNat < (config.windowMs "governance").toNat := by
  have monotone := AlertDeduplicator.monotone_dispatched config rule signals times nondecreasing
  rw [AlertDeduplicator.verdicts_remembers config _ (.create config) rfl 0 _
    (AlertDeduplicator.remembers_new config 0) (fun _ _ => Nat.zero_le _) monotone] at split
  rcases Throttle.decisions_split _ _ _ before later item true split
    with ⟨earlierItems, rest, items, rfl, blocked⟩
  have reports : forall other, other ∈ earlierItems ++ item :: rest ->
      GovernanceRule.Reports other := by
    intro other member
    rw [← items] at member
    exact GovernanceRule.reports_of_mem_dispatched member
  rw [items] at monotone
  have parts := List.pairwise_append.mp monotone
  rcases (Throttle.blocked_after_iff _ earlierItems parts.1 _).mp blocked.symm
    with ⟨earlier, passed, key, recent⟩
  have member := Throttle.mem_of_mem_passing _ passed
  have first := reports earlier (List.mem_append_left _ member)
  have second := reports item (List.mem_append_right _ List.mem_cons_self)
  have clear : forall other, GovernanceRule.Reports other -> '|' ∉ other.alert.ruleType.toList := by
    intro other reported
    rw [reported.ruleType]
    decide
  have same := (sameKeyParts_iff_buildKey (clear _ first) (clear _ second)).mpr key
  refine ⟨earlier, (Throttle.mem_passing_iff_decisions _ _ _ _).mp passed,
    ⟨same.customerId, ?_, ?_⟩, ?_⟩
  · apply Option.some.inj
    rw [← first.chainId, ← second.chainId, same.chainId]
  · apply bytesToHex_inj
    have texts := same.tokenAddress
    rw [first.tokenAddress, second.tokenAddress] at texts
    exact texts
  · have order : earlier.nowMs.toNat ≤ item.nowMs.toNat :=
      parts.2.2 earlier member item List.mem_cons_self
    change item.nowMs.toNat < earlier.nowMs.toNat + (config.windowMs item.alert.ruleType).toNat
      at recent
    rw [second.ruleType] at recent
    omega

/-! A role is granted on a watched contract, then its implementation is
replaced. -/

private def watchedContract : Bytes 20 := Bytes.ofNat 20 7

private def watchingRule : GovernanceRule where
  configMap := Table.empty.pushBack ⟨1, bytesToHex watchedContract⟩
    { customerId := 1, chainId := 1, contractAddress := bytesToHex watchedContract, enabled := true
      actionFilter := none }

private def governanceSignal (action : GovernanceAction) : Signal where
  type := .governance
  payload := .governance ⟨action, 1, watchedContract⟩

private def governanceAlert (action : GovernanceAction) (nowMs : UInt64) : GovernanceAlert where
  event := ⟨action, 1, watchedContract⟩
  alert := {
    customerId := 1
    ruleType := "governance"
    message := "Governance action '" ++ actionToString action ++ "' detected on contract " ++
      bytesToHex watchedContract
    tokenAddress := some (bytesToHex watchedContract)
    chainId := some 1 }
  nowMs := nowMs

private theorem upgrade_verdicts :
    (AlertDeduplicator.create .production).verdicts
        (watchingRule.dispatched [governanceSignal .roleGranted, governanceSignal .upgraded]
          [0, 60000]) =
      [(governanceAlert .roleGranted 0, false)] ++ (governanceAlert .upgraded 60000, true) ::
      [] := by
  decide +kernel

theorem upgrade_suppressed_after_role :
    Exists fun earlier : GovernanceAlert =>
    (earlier, false) ∈ [(governanceAlert .roleGranted 0, false)] ∧
      SameContract earlier (governanceAlert .upgraded 60000) ∧
      (60000 : UInt64).toNat - earlier.nowMs.toNat <
        (DeduplicatorConfig.production.windowMs "governance").toNat :=
  suppressed_only_after_same_contract watchingRule .production _ [0, 60000] (by decide) _
    [] _ upgrade_verdicts

/-- The upgrade is suppressed although no upgrade was reported before it. -/
theorem role_silences_upgrade :
    (AlertDeduplicator.create .production).verdicts
        (watchingRule.dispatched [governanceSignal .roleGranted, governanceSignal .upgraded]
          [0, 60000]) =
      [(governanceAlert .roleGranted 0, false)] ++ (governanceAlert .upgraded 60000, true) :: [] ∧
      ¬ Exists fun earlier : GovernanceAlert =>
      (earlier, false) ∈ [(governanceAlert .roleGranted 0, false)] ∧
        earlier.event.action = (governanceAlert .upgraded 60000).event.action := by
  refine ⟨upgrade_verdicts, ?_⟩
  rintro ⟨earlier, member, sameAction⟩
  rcases List.mem_singleton.mp member with ⟨⟩
  cases sameAction

end Risk
end RiskSentinel
