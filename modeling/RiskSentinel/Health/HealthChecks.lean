import RiskSentinel.Foundation.JsonTree
import RiskSentinel.Foundation.Table

namespace RiskSentinel
namespace Health

open Foundation

/-!
# The readiness checks

`evaluate_readiness` makes four checks and is ready when all of them are: every
thread has passed its loop head recently, the database answers, the node has
answered recently or was never asked, and every thread has passed its loop head
at all.  A check that fails says why.

The clocks, the heartbeats and the probes are read during the evaluation, and
the threads go on meanwhile; a `HealthCheckInputs` holds what was read.  The
heartbeats are read twice.
-/

/-- The time of the last pass through the loop head on the steady clock, zero
before the first. -/
structure Heartbeat where
  lastMs : UInt64 := 0
deriving DecidableEq, Repr

namespace Heartbeat

/-- A heartbeat that was never recorded is as old as can be; one from after the
reading of the clock is fresh. -/
def ageMs (beat : Heartbeat) (nowMs : UInt64) : UInt64 :=
  if beat.lastMs = 0 then 0xFFFFFFFFFFFFFFFF
  else if nowMs < beat.lastMs then 0
  else nowMs - beat.lastMs

/-- A recorded heartbeat is not too old when the clock has not gone further
than the limit since. -/
theorem ageMs_le_iff {beat : Heartbeat} (recorded : beat.lastMs ≠ 0) (nowMs limit : UInt64) :
    beat.ageMs nowMs ≤ limit ↔ nowMs.toNat ≤ beat.lastMs.toNat + limit.toNat := by
  unfold ageMs
  rw [if_neg recorded]
  by_cases early : nowMs < beat.lastMs
  · rw [if_pos early]
    have order := UInt64.lt_iff_toNat_lt.mp early
    exact iff_of_true UInt64.zero_le (by omega)
  · rw [if_neg early]
    have order := UInt64.not_lt.mp early
    rw [UInt64.le_iff_toNat_le, UInt64.toNat_sub_of_le _ _ order]
    have lower := UInt64.le_iff_toNat_le.mp order
    omega

end Heartbeat

structure CheckResult where
  ok : Bool
  detail : String
deriving DecidableEq, Repr

structure HealthChecksConfig where
  heartbeatMaxAgeMs : UInt64 := 5000
  rpcMaxSilenceMs : UInt64 := 120000

/-- The heartbeats as one check reads them.  A thread may have none. -/
structure Heartbeats where
  eventSource : Option Heartbeat
  riskEngine : Option Heartbeat
  dispatcher : Option Heartbeat

/-- The threads in the order in which they are checked. -/
def Heartbeats.threads (beats : Heartbeats) : List (Option Heartbeat × String) :=
  [(beats.eventSource, "event_source"), (beats.riskEngine, "risk_engine"),
    (beats.dispatcher, "dispatcher")]

/-- What one evaluation reads.  The two functions may be missing. -/
structure HealthCheckInputs where
  steadyNowMs : UInt64
  alive : Heartbeats
  dbProbe : Option Bool
  rpcLastSuccessUnixS : Option UInt64
  systemNowS : UInt64
  recorded : Heartbeats

/-- Remove one blank at the end. -/
def popBlank (detail : String) : String :=
  if detail.toList.getLast? = some ' ' then String.ofList detail.toList.dropLast else detail

/-- The loop that both checks of the heartbeats have: the complaint about a
thread is added behind its name. -/
def checkThreads (complaint : Option Heartbeat -> Option String) :
    CheckResult -> List (Option Heartbeat × String) -> CheckResult
  | result, [] => { result with detail := popBlank result.detail }
  | result, (beat, name) :: rest =>
      match complaint beat with
      | none => checkThreads complaint result rest
      | some text => checkThreads complaint
          { ok := false, detail := result.detail ++ name ++ text } rest

def staleComplaint (config : HealthChecksConfig) (nowMs : UInt64) :
    Option Heartbeat -> Option String
  | none => some " heartbeat missing; "
  | some beat =>
      if config.heartbeatMaxAgeMs < beat.ageMs nowMs then
        some (" stale (" ++ Nat.repr (beat.ageMs nowMs).toNat ++ "ms); ")
      else none

def unrecordedComplaint : Option Heartbeat -> Option String
  | none => some " not yet recorded; "
  | some beat => if beat.lastMs = 0 then some " not yet recorded; " else none

def threadsAlive (inputs : HealthCheckInputs) (config : HealthChecksConfig) : CheckResult :=
  checkThreads (staleComplaint config inputs.steadyNowMs)
    { ok := true, detail := "" } inputs.alive.threads

def dbConnected (inputs : HealthCheckInputs) : CheckResult :=
  if inputs.dbProbe.getD false then { ok := true, detail := "" }
    else { ok := false, detail := "DB probe failed" }

/-- The seconds since the last success, none on a clock that has gone back. -/
def silenceS (nowS lastS : UInt64) : UInt64 :=
  if lastS ≤ nowS then nowS - lastS else 0

def rpcRecent (inputs : HealthCheckInputs) (config : HealthChecksConfig) : CheckResult :=
  match inputs.rpcLastSuccessUnixS with
  | none => { ok := true, detail := "" }
  | some lastS =>
      if lastS = 0 then { ok := true, detail := "no RPC calls yet" }
      else if config.rpcMaxSilenceMs / 1000 ≤ silenceS inputs.systemNowS lastS then
        { ok := false
          detail := "last RPC success " ++ Nat.repr
            (silenceS inputs.systemNowS lastS).toNat ++ "s ago" }
      else { ok := true, detail := "" }

def heartbeatsRecorded (inputs : HealthCheckInputs) : CheckResult :=
  checkThreads unrecordedComplaint { ok := true, detail := "" } inputs.recorded.threads

structure ReadinessReport where
  ready : Bool
  checks : Table String CheckResult

/-- One check is entered, and takes back the readiness if it failed. -/
def ReadinessReport.enter (report : ReadinessReport) (name : String) (result : CheckResult) :
    ReadinessReport where
  ready := report.ready && result.ok
  checks := report.checks.assign name result

def evaluateReadiness (inputs : HealthCheckInputs) (config : HealthChecksConfig) :
    ReadinessReport :=
  ((((ReadinessReport.mk true Table.empty).enter "threads_alive" (threadsAlive inputs config)).enter
    "db_connected" (dbConnected inputs)).enter "rpc_recent" (rpcRecent inputs config)).enter
    "heartbeats_recorded" (heartbeatsRecorded inputs)

/-! ## What the checks find -/

private theorem popBlank_empty : popBlank "" = "" := rfl

/-- A detail with a name in it is not emptied. -/
private theorem popBlank_nonempty {detail : String} (long : 2 ≤ detail.toList.length) :
    popBlank detail ≠ "" := by
  intro empty
  have none : (popBlank detail).toList = [] := by
    rw [empty]
    rfl
  unfold popBlank at none
  split at none
  · rw [String.toList_ofList] at none
    have size := congrArg List.length none
    rw [List.length_dropLast, List.length_nil] at size
    omega
  · rw [none] at long
    cases long

/-- The loop succeeds when there is nothing to complain about, and has an empty
detail exactly then. -/
private theorem checkThreads_ok (complaint : Option Heartbeat -> Option String)
    (threads : List (Option Heartbeat × String))
    (named : forall thread, thread ∈ threads -> 2 ≤ thread.2.toList.length) (result : CheckResult)
    (consistent : result.ok = true -> result.detail = "")
    (explained : result.ok = false -> 2 ≤ result.detail.toList.length) :
    ((checkThreads complaint result threads).ok = true ↔
        result.ok = true ∧ forall thread, thread ∈ threads -> complaint thread.1 = none) ∧
      ((checkThreads complaint result threads).ok = true ↔
        (checkThreads complaint result threads).detail = "") := by
  induction threads generalizing result with
  | nil =>
      unfold checkThreads
      refine ⟨by simp, ⟨fun passed => ?_, fun empty => ?_⟩⟩
      · dsimp only at passed ⊢
        rw [consistent passed, popBlank_empty]
      · dsimp only at empty ⊢
        cases failed : result.ok with
        | true => rfl
        | false => exact absurd empty (popBlank_nonempty (explained failed))
  | cons thread rest inductionHypothesis =>
      rcases thread with ⟨beat, name⟩
      have others : forall other, other ∈ rest -> 2 ≤ other.2.toList.length :=
        fun other member => named other (List.mem_cons_of_mem _ member)
      unfold checkThreads
      cases complains : complaint beat with
      | none =>
          have later := inductionHypothesis others result consistent explained
          rw [List.forall_mem_cons]
          simp only [complains, true_and]
          exact later
      | some text =>
          have long := named (beat, name) List.mem_cons_self
          have later := inductionHypothesis others
            { ok := false, detail := result.detail ++ name ++ text }
            (fun impossible => by cases impossible)
            (fun _ => by
              simp only [String.toList_append, List.length_append]
              dsimp only at long
              omega)
          refine ⟨?_, later.2⟩
          rw [later.1, List.forall_mem_cons]
          simp [complains]

private theorem threads_named (beats : Heartbeats) (thread : Option Heartbeat × String)
    (member : thread ∈ beats.threads) : 2 ≤ thread.2.toList.length := by
  simp only [Heartbeats.threads, List.mem_cons, List.not_mem_nil, or_false] at member
  rcases member with rfl | rfl | rfl <;>
    · dsimp only
      decide

private theorem checkThreads_beats (complaint : Option Heartbeat -> Option String)
    (beats : Heartbeats) :
    ((checkThreads complaint { ok := true, detail := "" } beats.threads).ok = true ↔
        forall thread, thread ∈ beats.threads -> complaint thread.1 = none) ∧
      ((checkThreads complaint { ok := true, detail := "" } beats.threads).ok = true ↔
        (checkThreads complaint { ok := true, detail := "" } beats.threads).detail = "") := by
  have found := checkThreads_ok complaint beats.threads (threads_named beats)
    { ok := true, detail := "" }
    (fun _ => rfl) (fun impossible => by cases impossible)
  exact ⟨found.1.trans (and_iff_right rfl), found.2⟩

/-- The thread has a heartbeat that is not older than the limit. -/
def Fresh (config : HealthChecksConfig) (nowMs : UInt64) (beat : Option Heartbeat) : Prop :=
  Exists fun found => beat = some found ∧ found.ageMs nowMs ≤ config.heartbeatMaxAgeMs

def Recorded (beat : Option Heartbeat) : Prop :=
  Exists fun found => beat = some found ∧ found.lastMs ≠ 0

private theorem fresh_iff (config : HealthChecksConfig) (nowMs : UInt64) (beat : Option Heartbeat) :
    staleComplaint config nowMs beat = none ↔ Fresh config nowMs beat := by
  unfold Fresh staleComplaint
  cases beat with
  | none => simp
  | some beat => simp

private theorem recorded_iff (beat : Option Heartbeat) : unrecordedComplaint beat = none ↔
    Recorded beat := by
  unfold Recorded unrecordedComplaint
  cases beat with
  | none => simp
  | some beat => simp

/-- The node has not been asked, or its last success is less than the allowed
silence ago. -/
def Heard (config : HealthChecksConfig) (nowS : UInt64) (lastS : Option UInt64) : Prop :=
  forall last, lastS = some last -> last = 0 ∨
    nowS.toNat - last.toNat < config.rpcMaxSilenceMs.toNat / 1000

private theorem silenceS_toNat (nowS lastS : UInt64) :
    (silenceS nowS lastS).toNat = nowS.toNat - lastS.toNat := by
  unfold silenceS
  split
  · rename_i order
    exact UInt64.toNat_sub_of_le _ _ order
  · rename_i order
    have early := UInt64.lt_iff_toNat_lt.mp (UInt64.not_le.mp order)
    exact (Nat.sub_eq_zero_of_le (Nat.le_of_lt early)).symm

private theorem rpcRecent_ok (inputs : HealthCheckInputs) (config : HealthChecksConfig) :
    (rpcRecent inputs config).ok = true ↔
    Heard config inputs.systemNowS inputs.rpcLastSuccessUnixS := by
  unfold rpcRecent Heard
  cases inputs.rpcLastSuccessUnixS with
  | none => simp
  | some lastS =>
      by_cases never : lastS = 0
      · simp [never]
      · have limit : config.rpcMaxSilenceMs / 1000 ≤ silenceS inputs.systemNowS lastS ↔
            config.rpcMaxSilenceMs.toNat / 1000 ≤ inputs.systemNowS.toNat - lastS.toNat := by
          rw [UInt64.le_iff_toNat_le, silenceS_toNat, UInt64.toNat_div]
          rfl
        by_cases silent : config.rpcMaxSilenceMs / 1000 ≤ silenceS inputs.systemNowS lastS
        · simp [never, silent, limit.mp silent]
        · have heard := Nat.lt_of_not_le (mt limit.mpr silent)
          simp [never, silent, heard]

/-- The report is ready when every thread is fresh at the first reading and has
been recorded at the second, the database answered, and the node was heard. -/
theorem ready_iff (inputs : HealthCheckInputs) (config : HealthChecksConfig) :
    (evaluateReadiness inputs config).ready = true ↔
      (forall thread, thread ∈ inputs.alive.threads -> Fresh config inputs.steadyNowMs thread.1) ∧
        inputs.dbProbe = some true ∧ Heard config inputs.systemNowS inputs.rpcLastSuccessUnixS ∧
        forall thread, thread ∈ inputs.recorded.threads -> Recorded thread.1 := by
  have alive := (checkThreads_beats (staleComplaint config inputs.steadyNowMs) inputs.alive).1
  have recorded := (checkThreads_beats unrecordedComplaint inputs.recorded).1
  have probe : (dbConnected inputs).ok = true ↔ inputs.dbProbe = some true := by
    unfold dbConnected
    rcases inputs.dbProbe with _ | _ | _ <;> simp
  simp only [evaluateReadiness, ReadinessReport.enter, Bool.true_and, Bool.and_eq_true]
  rw [rpcRecent_ok, probe, threadsAlive, alive, heartbeatsRecorded, recorded, and_assoc, and_assoc]
  simp only [fresh_iff, recorded_iff]

/-- The four checks by name. -/
def checkOf (inputs : HealthCheckInputs) (config : HealthChecksConfig) (name : String) :
    Option CheckResult :=
  if name = "threads_alive" then some (threadsAlive inputs config)
  else if name = "db_connected" then some (dbConnected inputs)
  else if name = "rpc_recent" then some (rpcRecent inputs config)
  else if name = "heartbeats_recorded" then some (heartbeatsRecorded inputs)
  else none

theorem find?_checks (inputs : HealthCheckInputs) (config : HealthChecksConfig) (name : String) :
    (evaluateReadiness inputs config).checks.find? name = checkOf inputs config name := by
  simp only [evaluateReadiness, ReadinessReport.enter, Table.find?_assign,
    Table.find?_empty, checkOf]
  split
  · rename_i here
    subst here
    rfl
  · split
    · rename_i here
      subst here
      rfl
    · split
      · rename_i here
        subst here
        rfl
      · split
        · rename_i here
          subst here
          rfl
        · rfl

/-- A check that fails says why; one that succeeds says nothing, but for the
node that was never asked. -/
theorem detail_of_check {inputs : HealthCheckInputs} {config : HealthChecksConfig} {name : String}
    {result : CheckResult}
    (found : (evaluateReadiness inputs config).checks.find? name = some result) :
    (result.ok = false -> result.detail ≠ "") ∧
      (result.ok = true -> result.detail = "" ∨
        (name = "rpc_recent" ∧ inputs.rpcLastSuccessUnixS = some 0 ∧
          result.detail = "no RPC calls yet")) := by
  have ofThreads : forall (complaint : Option Heartbeat -> Option String) (beats : Heartbeats),
      ((checkThreads complaint { ok := true, detail := "" } beats.threads).ok = false ->
        (checkThreads complaint { ok := true, detail := "" } beats.threads).detail ≠ "") ∧
      ((checkThreads complaint { ok := true, detail := "" } beats.threads).ok = true ->
        (checkThreads complaint { ok := true, detail := "" } beats.threads).detail = "") := by
    intro complaint beats
    have found := (checkThreads_beats complaint beats).2
    exact ⟨fun failed empty => absurd (found.mpr empty) (by rw [failed]; exact Bool.false_ne_true),
      found.mp⟩
  rw [find?_checks, checkOf] at found
  split at found
  · cases found
    exact ⟨(ofThreads _ _).1, fun passed => Or.inl ((ofThreads _ _).2 passed)⟩
  split at found
  · cases found
    unfold dbConnected
    split
    · exact ⟨fun impossible => (by cases impossible), fun _ => Or.inl rfl⟩
    · exact ⟨fun _ => (by decide), fun impossible => by cases impossible⟩
  split at found
  · rename_i here
    cases found
    unfold rpcRecent
    cases last : inputs.rpcLastSuccessUnixS with
    | none => exact ⟨fun impossible => (by cases impossible), fun _ => Or.inl rfl⟩
    | some lastS =>
        dsimp only
        split
        · rename_i never
          exact ⟨fun impossible => (by cases impossible),
            fun _ => Or.inr ⟨here, by rw [never], rfl⟩⟩
        · split
          · refine ⟨fun _ empty => ?_, fun impossible => by cases impossible⟩
            have letters := congrArg String.toList empty
            simp [String.toList_append] at letters
          · exact ⟨fun impossible => (by cases impossible), fun _ => Or.inl rfl⟩
  split at found
  · cases found
    exact ⟨(ofThreads _ _).1, fun passed => Or.inl ((ofThreads _ _).2 passed)⟩
  · cases found

end Health
end RiskSentinel
