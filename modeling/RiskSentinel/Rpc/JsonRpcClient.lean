import RiskSentinel.App.DeliveryCounters
import RiskSentinel.Foundation.JsonTree

namespace RiskSentinel
namespace Rpc

open Foundation Risk

/-!
# The JSON-RPC client

`JsonRpcClient::call` posts one request and returns the whole reply when the
exchange succeeds, the status is 200, the body is JSON, and the reply has a
result and no error.  The transfer library and the JSON library are not part of
the program: an endpoint says how an exchange ends for each request body, and a
`JsonText` reads and writes bodies.

The client counts its calls by method and outcome and keeps the time of its
last success, from which the readiness check later tells whether the node is
silent.  A body that is not JSON is an exception that no counter counts.
-/

/-- How one exchange ends. -/
inductive Exchange where
  | noHandle
  | failed (reason : String)
  | answered (httpCode : Nat) (response : String)
deriving DecidableEq, Repr

/-- How the exchange ends for each request body. -/
abbrev Endpoint := String -> Exchange

/-- The methods and the outcomes for which the constructor registers
counters. -/
def methods : List String :=
  ["eth_getLogs", "eth_blockNumber", "eth_getBlockByNumber", "eth_chainId"]

def statuses : List String :=
  ["success", "error"]

def counterKey (method status : String) : String :=
  method ++ ":" ++ status

/-- The metrics of a client: its counters, and the gauge of its last success in
Unix seconds, which begins at zero. -/
structure RpcMetrics where
  counters : Table String Nat := Table.empty
  lastSuccess : UInt64 := 0

/-- What the constructor registers. -/
def RpcMetrics.register : RpcMetrics where
  counters := (methods.flatMap fun method => statuses.map (counterKey method)).foldl
    (fun counters key => counters.assign key 0) Table.empty

/-- A client without metrics has no counters. -/
structure JsonRpcClient (Number : Type) where
  text : JsonText Number
  metrics : Option RpcMetrics

namespace JsonRpcClient

variable {Number : Type} [One Number]

/-- The members of the request in the order of its object. -/
def request (method : String) (params : JsonTree Number) : JsonTree Number :=
  .object [("id", .number 1), ("jsonrpc", .text "2.0"), ("method", .text method),
    ("params", params)]

/-- An exception of `call`, and whether the error counter counts it. -/
structure Failure where
  message : String
  counted : Bool := true
deriving DecidableEq, Repr

/-- What the client makes of the end of an exchange. -/
def readReply (text : JsonText Number) : Exchange -> Except Failure (JsonTree Number)
  | .noHandle => .error { message := "curl_easy_init failed" }
  | .failed reason => .error { message := "curl_easy_perform failed: " ++ reason }
  | .answered httpCode response =>
      if httpCode ≠ 200 then
        .error { message := "JSON-RPC HTTP error: " ++ toString httpCode ++
          ", response=" ++ response }
      else
        match text.parse response with
        | .error cause =>
            .error { message := "JSON parse failed: " ++ cause ++ ", response=" ++ response
                     counted := false }
        | .ok json =>
            match json.find? "error" with
            | some error => .error { message := "JSON-RPC error: " ++ text.dump error }
            | none =>
                if json.contains "result" then .ok json
                else .error { message := "JSON-RPC response missing result field: " ++ text.dump json }

/-- A counter is looked up by method and outcome, and incremented when it has
been registered. -/
def count (metrics : RpcMetrics) (method status : String) : RpcMetrics :=
  { metrics with counters := increment metrics.counters (counterKey method status) }

/-- What is written to the metrics, given the system clock in seconds. -/
def account (metrics : RpcMetrics) (method : String) (nowS : UInt64) :
    Except Failure (JsonTree Number) -> RpcMetrics
  | .error failure => if failure.counted then count metrics method "error" else metrics
  | .ok _ => { count metrics method "success" with lastSuccess := nowS }

/-- The outcome of a call. -/
def exchange (text : JsonText Number) (endpoint : Endpoint) (method : String)
    (params : JsonTree Number) : Except Failure (JsonTree Number) :=
  readReply text (endpoint (text.dump (request method params)))

def call (client : JsonRpcClient Number) (endpoint : Endpoint) (nowS : UInt64) (method : String)
    (params : JsonTree Number) : JsonRpcClient Number × Except String (JsonTree Number) :=
  let outcome := exchange client.text endpoint method params
  ({ client with metrics := client.metrics.map fun metrics => account metrics method nowS outcome },
    outcome.mapError Failure.message)

/-! ## The counters over a run -/

/-- One call with everything it depends on. -/
structure Call (Number : Type) where
  method : String
  params : JsonTree Number
  endpoint : Endpoint
  nowS : UInt64

def Call.outcome (text : JsonText Number) (item : Call Number) : Except Failure (JsonTree Number) :=
  exchange text item.endpoint item.method item.params

def callAll (client : JsonRpcClient Number) (calls : List (Call Number)) : JsonRpcClient Number :=
  calls.foldl (fun client item =>
    (client.call item.endpoint item.nowS item.method item.params).1) client

/-- The call returned, or threw and was counted, or threw because the body was
not JSON. -/
def Call.succeeded (text : JsonText Number) (item : Call Number) : Bool :=
  (item.outcome text).isOk

def Call.failed (text : JsonText Number) (item : Call Number) : Bool :=
  match item.outcome text with
  | .error failure => failure.counted
  | .ok _ => false

def Call.unreadable (text : JsonText Number) (item : Call Number) : Bool :=
  match item.endpoint (text.dump (request item.method item.params)) with
  | .answered httpCode response => httpCode == 200 && !(text.parse response).isOk
  | _ => false

private theorem counterKey_inj {left right status : String}
    (same : counterKey left status = counterKey right status) : left = right := by
  have lists := congrArg String.toList same
  simp only [counterKey, String.toList_append, List.append_assoc] at lists
  exact String.toList_inj.mp (List.append_cancel_right lists)

/-- A key ends with its outcome. -/
private theorem counterKey_ne (left right : String) :
    counterKey left "error" ≠ counterKey right "success" := by
  intro same
  have last := congrArg (fun key => key.toList.getLast?) same
  simp [counterKey] at last

private theorem find?_count (metrics : RpcMetrics) (method status label : String)
    (known : status ∈ statuses) (wanted : String) (listed : wanted ∈ statuses) :
    (count metrics method status).counters.find? (counterKey label wanted) =
      (metrics.counters.find? (counterKey label wanted)).map
        (· + if method = label ∧ status = wanted then 1 else 0) := by
  change (increment metrics.counters (counterKey method status)).find? (counterKey label wanted) = _
  rw [App.find?_increment]
  by_cases same : counterKey label wanted = counterKey method status
  · have outcome : status = wanted := by
      simp only [statuses, List.mem_cons, List.not_mem_nil, or_false] at known listed
      rcases known with rfl | rfl <;> rcases listed with rfl | rfl
      · rfl
      · exact absurd same (counterKey_ne _ _)
      · exact absurd same.symm (counterKey_ne _ _)
      · rfl
    subst outcome
    rw [if_pos same, if_pos ⟨(counterKey_inj same).symm, rfl⟩, same]
  · rw [if_neg same, if_neg (by rintro ⟨rfl, rfl⟩; exact same rfl)]
    cases metrics.counters.find? (counterKey label wanted) <;> rfl

/-- What one call adds to the counters of a method. -/
private theorem find?_account (text : JsonText Number) (metrics : RpcMetrics) (item : Call Number)
    (label : String) :
    (account metrics item.method item.nowS (item.outcome text)).counters.find?
    (counterKey label "success") =
        (metrics.counters.find? (counterKey label "success")).map
          (· + if item.method = label ∧ item.succeeded text = true then 1 else 0) ∧
      (account metrics item.method item.nowS (item.outcome text)).counters.find?
      (counterKey label "error") =
        (metrics.counters.find? (counterKey label "error")).map
          (· + if item.method = label ∧ item.failed text = true then 1 else 0) := by
  unfold Call.succeeded Call.failed
  cases outcome : item.outcome text with
  | ok json =>
      have success := find?_count metrics item.method "success" label (by decide)
      constructor
      · simpa [account, Except.isOk, Except.toBool] using success "success" (by decide)
      · simpa [account, Except.isOk, Except.toBool] using success "error" (by decide)
  | error failure =>
      cases counted : failure.counted with
      | true =>
          have error := find?_count metrics item.method "error" label (by decide)
          constructor
          · simpa [account, counted, Except.isOk, Except.toBool] using error "success" (by decide)
          · simpa [account, counted, Except.isOk, Except.toBool] using error "error" (by decide)
      | false => simp [account, counted, Except.isOk, Except.toBool]

/-- The calls of a method that end in some way. -/
def ofMethod (label : String) (ends : Call Number -> Bool) (calls : List (Call Number)) : Nat :=
  calls.countP fun item => decide (item.method = label) && ends item

omit [One Number] in
private theorem ofMethod_cons (label : String) (ends : Call Number -> Bool) (item : Call Number)
    (calls : List (Call Number)) :
    ofMethod label ends (item :: calls) =
      (if item.method = label ∧ ends item = true then 1 else 0) + ofMethod label ends calls := by
  rw [ofMethod, ofMethod, List.countP_cons, Nat.add_comm]
  simp

private theorem callAll_cons (text : JsonText Number) (metrics : RpcMetrics) (item : Call Number)
    (calls : List (Call Number)) :
    callAll ⟨text, some metrics⟩ (item :: calls) =
      callAll ⟨text, some (account metrics item.method item.nowS (item.outcome text))⟩ calls := rfl

/-- The clock of the last success, or what the gauge showed before. -/
def lastSuccessOf (text : JsonText Number) (shown : UInt64) (calls : List (Call Number)) : UInt64 :=
  calls.foldl (fun shown item => if item.succeeded text then item.nowS else shown) shown

private theorem lastSuccess_account (text : JsonText Number) (metrics : RpcMetrics)
    (item : Call Number) :
    (account metrics item.method item.nowS (item.outcome text)).lastSuccess =
      if item.succeeded text then item.nowS else metrics.lastSuccess := by
  unfold Call.succeeded
  cases outcome : item.outcome text with
  | ok json => rfl
  | error failure =>
      cases counted : failure.counted <;> simp [account, counted, count, Except.isOk, Except.toBool]

/-- What the calls leave in the metrics. -/
theorem metrics_of_calls (text : JsonText Number) (metrics : RpcMetrics)
    (calls : List (Call Number)) :
    Exists fun after => (callAll ⟨text, some metrics⟩ calls).metrics = some after ∧
      after.lastSuccess = lastSuccessOf text metrics.lastSuccess calls ∧
      forall label, after.counters.find? (counterKey label "success") =
          (metrics.counters.find? (counterKey label "success")).map
          (· + ofMethod label (Call.succeeded text) calls) ∧
        after.counters.find? (counterKey label "error") =
          (metrics.counters.find? (counterKey label "error")).map
          (· + ofMethod label (Call.failed text) calls) := by
  induction calls generalizing metrics with
  | nil =>
      refine ⟨metrics, rfl, rfl, fun label => ⟨?_, ?_⟩⟩
      · simp [ofMethod]
      · simp [ofMethod]
  | cons item rest inductionHypothesis =>
      rcases inductionHypothesis (account metrics item.method item.nowS (item.outcome text)) with
        ⟨after, reached, gauge, counted⟩
      refine ⟨after, (congrArg _ (callAll_cons text metrics item rest)).trans reached, ?_,
        fun label => ?_⟩
      · rw [gauge, lastSuccess_account]
        rfl
      · have here := find?_account text metrics item label
        rw [(counted label).1, (counted label).2, here.1, here.2, ofMethod_cons,
          ofMethod_cons, Option.map_map,
          Option.map_map]
        constructor
        · congr 1
          funext value
          simp [Nat.add_assoc]
        · congr 1
          funext value
          simp [Nat.add_assoc]

/-- A call ends in exactly one of the three ways. -/
private theorem one_ending (text : JsonText Number) (item : Call Number) :
    (item.succeeded text).toNat + (item.failed text).toNat + (item.unreadable text).toNat = 1 := by
  unfold Call.succeeded Call.failed Call.unreadable Call.outcome exchange
  cases item.endpoint (text.dump (request item.method item.params)) with
  | noHandle => rfl
  | failed reason => rfl
  | answered httpCode response =>
      by_cases good : httpCode = 200
      · subst good
        simp only [readReply, ne_eq, not_true, if_false]
        cases text.parse response with
        | error cause => rfl
        | ok json =>
            dsimp only
            cases json.find? "error" with
            | some error => rfl
            | none => cases json.contains "result" <;> rfl
      · simp [readReply, good, Except.isOk, Except.toBool]

private theorem ofMethod_endings (text : JsonText Number) (label : String)
    (calls : List (Call Number)) :
    ofMethod label (Call.succeeded text) calls + ofMethod label (Call.failed text) calls +
      ofMethod label (Call.unreadable text) calls = ofMethod label (fun _ => true) calls := by
  induction calls with
  | nil => rfl
  | cons item rest inductionHypothesis =>
      have one := one_ending text item
      rw [ofMethod_cons, ofMethod_cons, ofMethod_cons, ofMethod_cons]
      by_cases same : item.method = label
      · simp only [same, true_and, if_true]
        revert one
        cases item.succeeded text <;> cases item.failed text <;> cases item.unreadable text <;>
          simp only [Bool.toNat_true, Bool.toNat_false, Bool.false_eq_true, if_true,
            if_false] <;> omega
      · simp only [same, false_and, if_false]
        omega

private theorem find?_register {label status : String} (known : label ∈ methods)
    (listed : status ∈ statuses) :
    RpcMetrics.register.counters.find? (counterKey label status) = some 0 := by
  simp only [methods, statuses, List.mem_cons, List.not_mem_nil, or_false] at known listed
  rcases known with rfl | rfl | rfl | rfl <;> rcases listed with rfl | rfl <;> decide

/-- The counters of a client with metrics, after any calls with any endpoints:
for each of its methods they count the successes and the failures, and every
call that is in neither had a body that is not JSON.  The gauge shows the time
of the last success. -/
theorem counters_of_calls (text : JsonText Number) (calls : List (Call Number)) :
    Exists fun metrics => (callAll ⟨text, some .register⟩ calls).metrics = some metrics ∧
      metrics.lastSuccess = lastSuccessOf text 0 calls ∧
      forall label, label ∈ methods -> Exists fun successes => Exists fun failures =>
        metrics.counters.find? (counterKey label "success") = some successes ∧
        metrics.counters.find? (counterKey label "error") = some failures ∧
        successes = ofMethod label (Call.succeeded text) calls ∧
        successes + failures + ofMethod label (Call.unreadable text) calls = ofMethod label
          (fun _ => true) calls := by
  rcases metrics_of_calls text .register calls with ⟨metrics, reached, gauge, counted⟩
  refine ⟨metrics, reached, gauge, fun label known => ?_⟩
  refine ⟨ofMethod label (Call.succeeded text) calls,
    ofMethod label (Call.failed text) calls, ?_, ?_, rfl,
    ofMethod_endings text label calls⟩
  · rw [(counted label).1, find?_register known (by decide), Option.map_some, Nat.zero_add]
  · rw [(counted label).2, find?_register known (by decide), Option.map_some, Nat.zero_add]

end JsonRpcClient

end Rpc
end RiskSentinel
