import RiskSentinel.Foundation.Json
import RiskSentinel.Foundation.Table
import RiskSentinel.Risk.AlertDispatcher
import RiskSentinel.Risk.WebhookAlertChannel

namespace RiskSentinel
namespace Risk

open Foundation

/-!
# The Telegram channel

The channel posts one message for each alert to the chat of the operator.  The
text of the message is made by the formatter, which looks up the customer's
key and the token's symbol.  All failures of the transfer are logged and the
call returns; only the serialisation of the message throws.
-/

structure TokenKey where
  chainId : UInt64
  tokenAddress : String
deriving DecidableEq

/-- The maps that the channel was given; a null pointer finds nothing. -/
structure AlertNames where
  customerMap : Option (Table UInt64 String)
  tokenMap : Option (Table TokenKey String)

namespace AlertNames

def customer? (names : AlertNames) (customerId : UInt64) : Option String :=
  names.customerMap.bind fun customers => customers.find? customerId

def token? (names : AlertNames) (key : TokenKey) : Option String :=
  names.tokenMap.bind fun tokens => tokens.find? key

end AlertNames

/-! ## The text -/

namespace AlertFormatter

/-- The lines that three of the rule types share behind their type. -/
def chainLine (alert : Alert) : String :=
  match alert.chainId with
  | some chainId => "Chain ID: " ++ Nat.repr chainId.toNat ++ "\n"
  | none => ""

/-- A line for an optional field that is neither absent nor empty. -/
def fieldLine (label : String) (value : Option String) (shown : String -> String) : String :=
  match value with
  | some text => if text = "" then "" else label ++ shown text ++ "\n"
  | none => ""

/-- The symbol of the alert's token, if it is known on the alert's chain. -/
def symbol? (names : AlertNames) (alert : Alert) (token : String) : Option String :=
  alert.chainId.bind fun chainId => names.token? ⟨chainId, token⟩

/-- The symbol with the contract behind it, or the contract alone. -/
def symbolOrContract (names : AlertNames) (alert : Alert) (token : String) : String :=
  match symbol? names alert token with
  | some symbol => symbol ++ " (" ++ token ++ ")"
  | none => token

/-- The branch of approvals, mints and burns, and bridge transfers. -/
def amountAndToken (names : AlertNames) (kind : String) (alert : Alert) : String :=
  "Type: " ++ kind ++ "\n" ++ "Message: " ++ alert.message ++ "\n" ++ chainLine alert ++
    fieldLine "Amount: " alert.amountDecimal id ++
    fieldLine "Token: " alert.tokenAddress (symbolOrContract names alert)

/-- The branch of large transfers and of every unknown type.  The token's
line is there whenever there is an amount, even without a token. -/
def plain (names : AlertNames) (alert : Alert) : String :=
  "Message: " ++ alert.message ++ "\n" ++
    fieldLine "Amount: " alert.amountDecimal fun amount =>
      amount ++ "\n" ++ "Token: " ++
        match alert.tokenAddress with
        | some token => if token = "" then "" else (symbol? names alert token).getD token
        | none => ""

def details (names : AlertNames) (alert : Alert) : String :=
  if alert.ruleType = "governance" then
    "Type: Governance\n" ++ "Message: " ++ alert.message ++ "\n"
  else if alert.ruleType = "approval" then amountAndToken names "Approval" alert
  else if alert.ruleType = "mint_burn" then amountAndToken names "Mint/Burn" alert
  else if alert.ruleType = "bridge_transfer" then amountAndToken names "Bridge Transfer" alert
  else if alert.ruleType = "oracle_update" then
    "Type: Oracle Update\n" ++ "Message: " ++ alert.message ++ "\n" ++ chainLine alert ++
      fieldLine "Current value: " alert.amountDecimal id ++
        fieldLine "Aggregator: " alert.tokenAddress id
  else plain names alert

def formatTelegram (names : AlertNames) (alert : Alert) : String :=
  "[Risk Sentinel Alert]\n" ++
    "Customer: " ++ (names.customer? alert.customerId).getD
      (Nat.repr alert.customerId.toNat) ++ "\n" ++
    details names alert ++ "Time: " ++ Nat.repr alert.timestampMs.toNat

/-- The names agree on the symbols of the alert's chain. -/
def SameSymbols (left right : AlertNames) (alert : Alert) : Prop :=
  forall token, symbol? left alert token = symbol? right alert token

private theorem amountAndToken_congr {left right : AlertNames} {alert : Alert}
    (tokens : SameSymbols left right alert) (kind : String) :
    amountAndToken left kind alert = amountAndToken right kind alert := by
  have shown : symbolOrContract left alert = symbolOrContract right alert := by
    funext token
    rw [symbolOrContract, symbolOrContract, tokens]
  rw [amountAndToken, amountAndToken, shown]

private theorem plain_congr {left right : AlertNames} {alert : Alert}
    (tokens : SameSymbols left right alert) : plain left alert = plain right alert := by
  unfold plain
  cases alert.tokenAddress with
  | none => rfl
  | some token => simp only [tokens token]

/-- The text depends on no other customer's key and on no other chain's
tokens. -/
theorem formatTelegram_congr {left right : AlertNames} {alert : Alert}
    (customer : left.customer? alert.customerId = right.customer? alert.customerId)
    (tokens : SameSymbols left right alert) :
    formatTelegram left alert = formatTelegram right alert := by
  have same : details left alert = details right alert := by
    unfold details
    simp only [amountAndToken_congr tokens, plain_congr tokens]
  unfold formatTelegram
  rw [customer, same]

end AlertFormatter

/-! ## The call -/

structure TelegramAlertChannel where
  botToken : String
  chatId : String
  names : AlertNames

/-- What happens during one call: the exits of the source, in its order. -/
inductive TelegramAttempt where
  | noHandle
  | serialisationThrows
  | transportError
  | noResponseCode
  | response (httpCode : Int)
deriving DecidableEq, Repr

/-- The status codes that both channels take for success. -/
def successCode (httpCode : Int) : Bool :=
  decide (200 ≤ httpCode ∧ httpCode < 300)

namespace TelegramAlertChannel

variable (json : Json.Library Json.Sorted)

def request (channel : TelegramAlertChannel) (alert : Alert) : HttpRequest where
  url := "https://api.telegram.org/bot" ++ channel.botToken ++ "/sendMessage"
  headers := [("Content-Type", "application/json")]
  body := String.ofList (json.dump
    (Json.assign "text" (.text (AlertFormatter.formatTelegram channel.names alert))
      (Json.assign "chat_id" (.text channel.chatId) [])))

/-- The request that is performed, if any, and how the call ends. -/
def send (channel : TelegramAlertChannel) (alert : Alert) (attempt : TelegramAttempt) :
    Option HttpRequest × SendOutcome :=
  match attempt with
  | .noHandle => (none, .sent)
  | .serialisationThrows => (none, .standardException)
  | .transportError | .noResponseCode | .response _ => (some (channel.request json alert), .sent)

/-- The chat has received the message. -/
def delivers : TelegramAttempt -> Bool
  | .response httpCode => successCode httpCode
  | .noHandle | .serialisationThrows | .transportError | .noResponseCode => false

/-- The call returns as if it had delivered. -/
def failsSilently : TelegramAttempt -> Bool
  | .noHandle | .transportError | .noResponseCode => true
  | .response httpCode => !successCode httpCode
  | .serialisationThrows => false

/-- The call returns normally exactly when it has delivered or failed
silently. -/
theorem send_outcome (channel : TelegramAlertChannel) (alert : Alert) (attempt : TelegramAttempt) :
    (channel.send json alert attempt).2 = .sent ↔ delivers attempt = true ∨
    failsSilently attempt = true := by
  cases attempt with
  | response httpCode => cases code : successCode httpCode <;> simp [send, delivers, failsSilently, code]
  | noHandle => simp [send, delivers, failsSilently]
  | serialisationThrows => simp [send, delivers, failsSilently]
  | transportError => simp [send, delivers, failsSilently]
  | noResponseCode => simp [send, delivers, failsSilently]

theorem delivers_not_silent (attempt : TelegramAttempt) (delivered : delivers attempt = true) :
    failsSilently attempt = false := by
  cases attempt <;> simp_all [delivers, failsSilently]

end TelegramAlertChannel

end Risk
end RiskSentinel
