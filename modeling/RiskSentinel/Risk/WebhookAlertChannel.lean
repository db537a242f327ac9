import RiskSentinel.Foundation.Json
import RiskSentinel.Foundation.Table
import RiskSentinel.Foundation.Text
import RiskSentinel.Risk.Signal

namespace RiskSentinel
namespace Risk

open Foundation

/-!
# The webhook channel

An alert goes to the endpoints of its own customer.  The body is built once,
the clock is read once, and every endpoint for which there is a handle gets
one request with this body and this reading.  A failure at one endpoint is
logged and the loop goes on.

The keyed hash and the JSON library are parameters.  A request is signed when the secret of its
endpoint is not empty; what is signed is the reading, a dot and the body, and
these two can be read off the signed text.
-/

structure WebhookEndpoint where
  url : String
  hmacSecret : String
deriving DecidableEq, Repr

structure WebhookAlertChannel where
  customerWebhooks : Table UInt64 (List WebhookEndpoint)

/-- What the transfer library does for one endpoint: there is no handle, the
transfer fails, or a response arrives with a status. -/
inductive HttpAttempt where
  | noHandle
  | transportError
  | response (httpCode : Int)
deriving DecidableEq, Repr

/-- A header line is its name, a colon, a blank and its value. -/
structure HttpRequest where
  url : String
  headers : List (String × String)
  body : String
deriving DecidableEq, Repr

/-! ## The body -/

/-- Assign an optional member when it is there. -/
def assignPresent (key : String) (value : Option Json.Scalar) (object : Json.Object) :
    Json.Object :=
  match value with
  | some present => Json.assign key present object
  | none => object

@[simp] theorem lookup_assignPresent (key other : String) (value : Option Json.Scalar)
    (object : Json.Object) :
    (assignPresent key value object).lookup other =
      if other = key then value.or (object.lookup other) else object.lookup other := by
  cases value with
  | none =>
      by_cases same : other = key
      · simp [assignPresent, same]
      · simp [assignPresent, same]
  | some present => simp [assignPresent]

theorem Json.Sorted.assignPresent {object : Json.Object} (sorted : Json.Sorted object)
    (key : String) {value : Option Json.Scalar}
    (fits : forall present, value = some present -> present.Fits) :
    Json.Sorted (Risk.assignPresent key value object) := by
  cases value with
  | none => exact sorted
  | some present => exact sorted.assign key (fits present rfl)

namespace WebhookAlertChannel

variable (json : Json.Library Json.Sorted)

/-- The object keeps its keys in order, whatever the order of assignment. -/
def payload (alert : Alert) : Json.Object :=
  let required := Json.assign "timestamp_ms" (.number alert.timestampMs.toNat)
    (Json.assign "message" (.text alert.message)
      (Json.assign "rule_type" (.text alert.ruleType)
        (Json.assign "customer_id" (.number alert.customerId.toNat) [])))
  assignPresent "amount_decimal" (alert.amountDecimal.map .text)
    (assignPresent "token_address" (alert.tokenAddress.map .text)
      (assignPresent "chain_id" (alert.chainId.map fun chainId => .number chainId.toNat) required))

/-- `payload.dump()`. -/
def body (alert : Alert) : String :=
  String.ofList (json.dump (payload alert))

theorem sorted_payload (alert : Alert) : Json.Sorted (payload alert) := by
  have number : forall value : UInt64, (Json.Scalar.number value.toNat).Fits :=
    fun value => value.toNat_lt
  have text : forall value : String, (Json.Scalar.text value).Fits := fun _ => trivial
  have required : Json.Sorted (Json.assign "timestamp_ms" (.number alert.timestampMs.toNat)
      (Json.assign "message" (.text alert.message)
        (Json.assign "rule_type" (.text alert.ruleType)
          (Json.assign "customer_id" (.number alert.customerId.toNat) [])))) :=
    (((Json.sorted_empty.assign "customer_id" (number _)).assign "rule_type" (text _)).assign
      "message" (text _)).assign "timestamp_ms" (number _)
  apply Json.Sorted.assignPresent
  · apply Json.Sorted.assignPresent
    · apply Json.Sorted.assignPresent required
      intro present found
      rcases Option.map_eq_some_iff.mp found with ⟨chainId, _, rfl⟩
      exact number chainId
    · intro present found
      rcases Option.map_eq_some_iff.mp found with ⟨token, _, rfl⟩
      trivial
  · intro present found
    rcases Option.map_eq_some_iff.mp found with ⟨amount, _, rfl⟩
    trivial

/-- The seven fields of the payload agree. -/
structure SamePayload (left right : Alert) : Prop where
  customerId : left.customerId = right.customerId
  ruleType : left.ruleType = right.ruleType
  message : left.message = right.message
  timestampMs : left.timestampMs = right.timestampMs
  chainId : left.chainId = right.chainId
  tokenAddress : left.tokenAddress = right.tokenAddress
  amountDecimal : left.amountDecimal = right.amountDecimal

/-- Every field is a member of the payload, and an absent one is not. -/
private theorem lookup_payload (alert : Alert) :
    (payload alert).lookup "customer_id" = some (.number alert.customerId.toNat) ∧
      (payload alert).lookup "rule_type" = some (.text alert.ruleType) ∧
      (payload alert).lookup "message" = some (.text alert.message) ∧
      (payload alert).lookup "timestamp_ms" = some (.number alert.timestampMs.toNat) ∧
      (payload alert).lookup "chain_id" = alert.chainId.map (fun chainId => .number chainId.toNat) ∧
      (payload alert).lookup "token_address" = alert.tokenAddress.map .text ∧
      (payload alert).lookup "amount_decimal" = alert.amountDecimal.map .text := by
  refine ⟨?_, ?_, ?_, ?_, ?_, ?_, ?_⟩ <;>
    simp only [payload, lookup_assignPresent, Json.lookup_assign, String.reduceEq,
      if_false, if_true,
      List.lookup_nil, Option.or_none]

private theorem number_injective : Function.Injective fun value : UInt64 =>
    Json.Scalar.number value.toNat := by
  intro left right same
  exact UInt64.toNat_inj.mp (Json.Scalar.number.inj same)

private theorem text_injective : Function.Injective Json.Scalar.text := by
  intro left right same
  exact Json.Scalar.text.inj same

private theorem samePayload_of_payload {left right : Alert} (same : payload left = payload right) :
    SamePayload left right := by
  have first := lookup_payload left
  rw [same] at first
  rcases first with ⟨customerId, ruleType, message, timestampMs, chainId,
    tokenAddress, amountDecimal⟩
  have second := lookup_payload right
  rw [customerId, ruleType, message, timestampMs, chainId, tokenAddress, amountDecimal] at second
  exact
    { customerId := number_injective (Option.some.inj second.1)
      ruleType := text_injective (Option.some.inj second.2.1)
      message := text_injective (Option.some.inj second.2.2.1)
      timestampMs := number_injective (Option.some.inj second.2.2.2.1)
      chainId := Option.map_injective number_injective second.2.2.2.2.1
      tokenAddress := Option.map_injective text_injective second.2.2.2.2.2.1
      amountDecimal := Option.map_injective text_injective second.2.2.2.2.2.2 }

/-- Two alerts have one body exactly when no field of the payload tells them
apart. -/
theorem body_eq_iff (left right : Alert) :
    body json left = body json right ↔ SamePayload left right := by
  constructor
  · intro same
    exact samePayload_of_payload (json.dump_injective (sorted_payload left) (sorted_payload right)
      (String.ofList_injective same))
  · intro same
    simp only [body, payload, same.customerId, same.ruleType, same.message, same.timestampMs,
      same.chainId, same.tokenAddress, same.amountDecimal]

example : body (Json.compact _)
    { customerId := 42, ruleType := "governance", message := "role \"admin\"\n", timestampMs := 7
      chainId := some 1 } =
    "\x7b\"chain_id\":1,\"customer_id\":42,\"message\":\"role \\\"admin\\\"\\n\"," ++
      "\"rule_type\":\"governance\",\"timestamp_ms\":7\x7d" := by
  decide +kernel

/-! ## The signed text -/

/-- The reading of the clock in milliseconds, in decimal. -/
def timestampText (clockMs : Int) : String :=
  clockMs.repr

def signingString (timestamp body : String) : String :=
  timestamp ++ "." ++ body

/-- The reading and the body are determined by the signed text. -/
theorem signingString_inj {left right : Int} {leftBody rightBody : String}
    (same : signingString (timestampText left) leftBody = signingString
      (timestampText right) rightBody) :
    timestampText left = timestampText right ∧ leftBody = rightBody := by
  have clean : forall clockMs, '.' ∉ (timestampText clockMs).toList := fun clockMs =>
    not_mem_int_repr clockMs rfl (by decide)
  have shape : forall timestamp text, (signingString timestamp text).toList =
      timestamp.toList ++ '.' :: text.toList := fun timestamp text => by
    simp [signingString]
  have texts := congrArg String.toList same
  rw [shape, shape] at texts
  have parts := split_at_separator (clean left) (clean right) texts
  exact ⟨String.toList_inj.mp parts.1, String.toList_inj.mp parts.2⟩

/-! ## The loop over the endpoints -/

section Send

variable (hmac : String -> String -> String)

/-- Empty for an endpoint without a secret. -/
def signature (secret timestamp body : String) : String :=
  if secret = "" then "" else "sha256=" ++ hmac secret (signingString timestamp body)

def headers (timestamp signature : String) : List (String × String) :=
  [("Content-Type", "application/json"), ("X-Risk-Sentinel-Timestamp", timestamp)] ++
    if signature = "" then [] else [("X-Risk-Sentinel-Signature", signature)]

def request (timestamp body : String) (endpoint : WebhookEndpoint) : HttpRequest where
  url := endpoint.url
  headers := headers timestamp (signature hmac endpoint.hmacSecret timestamp body)
  body := body

/-- The requests that are performed, each with the position of its endpoint.
Without a handle the loop continues with the next endpoint; how a request
ends is only logged. -/
def postAll (timestamp body : String) (attempts : Nat -> HttpAttempt) :
    List (WebhookEndpoint × Nat) -> List (Nat × HttpRequest)
  | [] => []
  | (endpoint, position) :: rest =>
      match attempts position with
      | .noHandle => postAll timestamp body attempts rest
      | .transportError | .response _ =>
          (position, request hmac timestamp body endpoint) :: postAll timestamp body attempts rest

def send (channel : WebhookAlertChannel) (alert : Alert) (clockMs : Int)
    (attempts : Nat -> HttpAttempt) : List (Nat × HttpRequest) :=
  match channel.customerWebhooks.find? alert.customerId with
  | none => []
  | some endpoints =>
      if endpoints.isEmpty then []
      else postAll hmac (timestampText clockMs) (body json alert) attempts endpoints.zipIdx

/-- The endpoints of a customer. -/
def endpointsOf (channel : WebhookAlertChannel) (customerId : UInt64) : List WebhookEndpoint :=
  (channel.customerWebhooks.find? customerId).getD []

/-- The early return makes no difference to what is posted. -/
theorem send_eq_postAll (channel : WebhookAlertChannel) (alert : Alert) (clockMs : Int)
    (attempts : Nat -> HttpAttempt) :
    channel.send json hmac alert clockMs attempts =
      postAll hmac (timestampText clockMs) (body json alert) attempts
        (channel.endpointsOf alert.customerId).zipIdx := by
  unfold send endpointsOf
  cases channel.customerWebhooks.find? alert.customerId with
  | none => rfl
  | some endpoints =>
      cases endpoints with
      | nil => rfl
      | cons endpoint rest => rfl

theorem postAll_eq (timestamp body : String) (attempts : Nat -> HttpAttempt)
    (endpoints : List (WebhookEndpoint × Nat)) :
    postAll hmac timestamp body attempts endpoints =
      (endpoints.filter fun entry => decide (attempts entry.2 ≠ .noHandle)).map
        fun entry => (entry.2, request hmac timestamp body entry.1) := by
  induction endpoints with
  | nil => rfl
  | cons entry rest inductionHypothesis =>
      rcases entry with ⟨endpoint, position⟩
      cases ended : attempts position <;> simp [postAll, ended, inductionHypothesis]

/-- The signature is there exactly when there is a secret: an attached one
starts with `sha256=` and so is not empty. -/
theorem lookup_signature_headers (timestamp body secret : String) :
    (headers timestamp (signature hmac secret timestamp body)).lookup "X-Risk-Sentinel-Signature" =
      if secret = "" then none
        else some ("sha256=" ++ hmac secret (signingString timestamp body)) := by
  by_cases unsigned : secret = ""
  · simp [headers, signature, unsigned]
  · have marked : ¬ "sha256=" ++ hmac secret (signingString timestamp body) = "" := by
      simp
    simp [headers, signature, unsigned, marked]
    rfl

end Send

/-- For every endpoint table, alert and behaviour of the endpoints.  The
requests go to the endpoints of the alert's customer, one to each for which
there is a handle, in the order of the table.  They all carry the one body
and the one reading.  A request is signed exactly when its endpoint has a
secret.  The signed text determines the reading and the body, and the body
determines the seven fields of the alert. -/
theorem webhook_routes_and_signs (json : Json.Library Json.Sorted)
    (hmac : String -> String -> String) (channel : WebhookAlertChannel) (alert : Alert)
    (clockMs : Int) (attempts : Nat -> HttpAttempt) :
    (channel.send json hmac alert clockMs attempts).map Prod.fst =
        (List.range (channel.endpointsOf alert.customerId).length).filter
          (fun position => decide (attempts position ≠ .noHandle)) ∧
    (forall position posted,
      (position, posted) ∈ channel.send json hmac alert clockMs attempts ->
      Exists fun endpoint =>
        (channel.endpointsOf alert.customerId)[position]? = some endpoint ∧
        posted.url = endpoint.url ∧ posted.body = body json alert ∧
        posted.headers.lookup "X-Risk-Sentinel-Timestamp" = some (timestampText clockMs) ∧
        posted.headers.lookup "X-Risk-Sentinel-Signature" =
          if endpoint.hmacSecret = "" then none
          else some ("sha256=" ++ hmac endpoint.hmacSecret
            (signingString (timestampText clockMs) (body json alert)))) ∧
    (forall (otherClock : Int) (text otherText : String),
      signingString (timestampText clockMs) text =
          signingString (timestampText otherClock) otherText ->
        timestampText clockMs = timestampText otherClock ∧ text = otherText) ∧
    forall other, body json alert = body json other ↔ SamePayload alert other := by
  refine ⟨?_, ?_, fun otherClock text otherText same => signingString_inj same,
    fun other => body_eq_iff json alert other⟩
  · rw [send_eq_postAll, postAll_eq, List.map_map, List.range_eq_range', ← List.zipIdx_map_snd,
      List.filter_map]
    rfl
  · intro position posted member
    rw [send_eq_postAll, postAll_eq, List.mem_map] at member
    rcases member with ⟨⟨endpoint, index⟩, kept, made⟩
    cases made
    have listed := List.mem_zipIdx_iff_getElem?.mp (List.mem_of_mem_filter kept)
    exact ⟨endpoint, listed, rfl, rfl, rfl, lookup_signature_headers hmac _ _ _⟩

end WebhookAlertChannel

end Risk
end RiskSentinel
