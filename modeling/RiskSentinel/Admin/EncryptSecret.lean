import RiskSentinel.Chains.HexQuantities
import RiskSentinel.Security.Crypto

namespace RiskSentinel
namespace Admin

open Foundation Events Chains Security

/-!
# The command that provisions a webhook

`sentinel admin encrypt-secret` takes a customer, an address and perhaps a
secret, encrypts the secret under the master key and prints an `INSERT`
statement to be run by hand.  The address goes into the statement as it is.

The environment of a run is the name of the program, the variable with the
master key and what the random generator writes, with nothing where it fails.
-/

/-- An argument of a process is a C string.  The system bounds its length far
below `2^31`. -/
structure Argument where
  text : String
  bytes : forall c, c ∈ text.toList -> 0 < c.toNat ∧ c.toNat < 256
  short : text.length < 2 ^ 31

namespace Argument

/-- The value of an option that was not given. -/
def empty : Argument where
  text := ""
  bytes := fun _ impossible => absurd impossible List.not_mem_nil
  short := by decide

theorem isByteText (argument : Argument) : IsByteText argument.text :=
  fun c member => (argument.bytes c member).2

end Argument

structure CommandEnv where
  prog : String
  masterKey : Option String
  randomSecret : Option (Bytes 32)
  nonce : Option (Bytes 12)

structure CommandResult where
  exitCode : Nat
  out : String
  err : String
deriving DecidableEq, Repr

/-! ## The options -/

/-- `std::stoull` to the base 10.  What stands behind the digits is ignored,
and a minus sign negates modulo the width. -/
def stoull (text : String) : Except String UInt64 :=
  let signed := takeSign (text.toList.dropWhile isBlank)
  let digits := signed.2.takeWhile Char.isDigit
  let value := Nat.ofDigitChars 10 digits 0
  if digits = [] then .error "stoull"
  else if 2 ^ 64 ≤ value then .error "stoull"
  else if signed.1 then .ok (0 - UInt64.ofNat value)
  else .ok (UInt64.ofNat value)

structure Options where
  customerId : UInt64 := 0
  hasCustomerId : Bool := false
  url : Argument := Argument.empty
  secretPlaintext : Argument := Argument.empty

def usage (prog : String) : String :=
  "Usage: " ++ prog ++
    " admin encrypt-secret --customer-id <uint64> --url <url> [--secret <plaintext>]\n" ++ "\n" ++
    "  Reads SENTINEL_SECRET_MASTER_KEY from env.\n" ++
    "  If --secret is omitted, a random 64-char hex secret is generated.\n"

/-- The loop over the arguments behind the name of the command.  An option
needs a value behind it; the last one given counts. -/
def readArguments (prog : String) : Options -> List Argument -> Except String Options
  | options, [] => .ok options
  | _, [arg] => .error ("Error: unknown argument '" ++ arg.text ++ "'\n" ++ usage prog)
  | options, arg :: value :: rest =>
      if arg.text = "--customer-id" then
        match stoull value.text with
        | .ok customerId => readArguments prog
            { options with customerId, hasCustomerId := true } rest
        | .error _ => .error "Error: --customer-id must be a valid uint64\n"
      else if arg.text = "--url" then readArguments prog { options with url := value } rest
      else if arg.text = "--secret"
        then readArguments prog { options with secretPlaintext := value } rest
      else .error ("Error: unknown argument '" ++ arg.text ++ "'\n" ++ usage prog)

/-! ## The report -/

def bytesToHex (data : List UInt8) : String :=
  String.ofList (data.flatMap hexPair)

/-- What stands before the statement.  The dash of the title is three bytes. -/
def reportHead (customerId : UInt64) (url secret : String) : String :=
  "\n=== Risk Sentinel \u00e2\u0080\u0094 webhook secret provisioned ===\n" ++
    "\n" ++
    "Customer ID: " ++ Nat.repr customerId.toNat ++ "\n" ++
    "URL:         " ++ url ++ "\n" ++
    "\n" ++
    "Plaintext secret (share with customer ONCE, never store):\n" ++
    "    " ++ secret ++ "\n" ++
    "\n" ++
    "SQL to run:\n"

def insertStatement (customerId : UInt64) (url : String) (ciphertext nonce : List UInt8) : String :=
  "    INSERT INTO customer_webhook_channels\n" ++
    "        (customer_id, url, hmac_secret_encrypted, hmac_secret_nonce, enabled)\n" ++
    "    VALUES (\n" ++
    "        " ++ Nat.repr customerId.toNat ++ ",\n" ++
    "        '" ++ url ++ "',\n" ++
    "        decode('" ++ bytesToHex ciphertext ++ "', 'hex'),\n" ++
    "        decode('" ++ bytesToHex nonce ++ "', 'hex'),\n" ++
    "        true\n" ++
    "    );\n"

def report (customerId : UInt64) (url secret : String) (ciphertext nonce : List UInt8) : String :=
  reportHead customerId url secret ++ insertStatement customerId url ciphertext nonce ++ "\n"

/-! ## The command -/

/-- An exit code and a text for the error stream. -/
structure CommandFailure where
  exitCode : Nat
  err : String

def generateRandomHex64 (randomSecret : Option (Bytes 32)) : Except String String :=
  match randomSecret with
  | none => .error "RAND_bytes failed"
  | some buf => .ok (bytesToHex buf.bytes)

/-- The secret to store: the one that was given, or a random one. -/
def chooseSecret (env : CommandEnv) (secretPlaintext : String) : Except CommandFailure String :=
  if secretPlaintext = "" then
    (generateRandomHex64 env.randomSecret).mapError fun e =>
      ⟨3, "Error: failed to generate random secret: " ++ e ++ "\n"⟩
  else .ok secretPlaintext

def readMasterKey (masterKey : Option String) : Except CommandFailure (Bytes 32) :=
  match masterKey with
  | none => .error ⟨2, "Error: SENTINEL_SECRET_MASTER_KEY is not set or empty\n"⟩
  | some text =>
      if text = "" then .error ⟨2, "Error: SENTINEL_SECRET_MASTER_KEY is not set or empty\n"⟩
      else (parseMasterKeyHex text).mapError fun e =>
        ⟨2, "Error: invalid SENTINEL_SECRET_MASTER_KEY: " ++ e ++ "\n"⟩

/-- The body of the command up to its output. -/
def encryptSecret (aes : AesGcm) (env : CommandEnv) (arguments : List Argument) :
    Except CommandFailure String := do
  let options ← (readArguments env.prog {} arguments).mapError fun err => ⟨1, err⟩
  if !options.hasCustomerId || options.url.text = "" then throw ⟨1, usage env.prog⟩
  let masterKey ← readMasterKey env.masterKey
  let secret ← chooseSecret env options.secretPlaintext.text
  match env.nonce with
  | none => throw ⟨3, "Error: RAND_bytes failed for nonce generation\n"⟩
  | some nonce =>
      let ciphertext ← (aesGcmEncrypt aes masterKey.bytes nonce.bytes secret).mapError fun e =>
        ⟨3, "Error: encryption failed: " ++ e ++ "\n"⟩
      return report options.customerId options.url.text secret ciphertext nonce.bytes

def encryptSecretCommand (aes : AesGcm) (env : CommandEnv) (arguments : List Argument) :
    CommandResult :=
  match encryptSecret aes env arguments with
  | .ok out => ⟨0, out, ""⟩
  | .error failure => ⟨failure.exitCode, "", failure.err⟩

/-- With a customer, an address, a secret and a master key, and when no call
fails, the command prints its report. -/
theorem encryptSecretCommand_ok {aes : AesGcm} {env : CommandEnv} {arguments : List Argument}
    {options : Options} {masterKeyText : String} {masterKey : Bytes 32} {nonce : Bytes 12}
    {ciphertext : List UInt8} (accepted : readArguments env.prog {} arguments = .ok options)
    (customerGiven : options.hasCustomerId = true) (urlGiven : options.url.text ≠ "")
    (secretGiven : options.secretPlaintext.text ≠ "") (keySet : env.masterKey = some masterKeyText)
    (keyRead : parseMasterKeyHex masterKeyText = .ok masterKey) (drawn : env.nonce = some nonce)
    (encrypted : aesGcmEncrypt aes masterKey.bytes nonce.bytes options.secretPlaintext.text =
      .ok ciphertext) :
    encryptSecretCommand aes env arguments =
      ⟨0, report options.customerId options.url.text options.secretPlaintext.text ciphertext
        nonce.bytes, ""⟩ := by
  have keyGiven : masterKeyText ≠ "" := by
    rintro rfl
    cases keyRead
  have key : readMasterKey env.masterKey = .ok masterKey := by
    rw [keySet]
    simp only [readMasterKey, if_neg keyGiven, keyRead]
    rfl
  have secret : chooseSecret env options.secretPlaintext.text = .ok options.secretPlaintext.text :=
    if_neg secretGiven
  have body : encryptSecret aes env arguments =
      .ok (report options.customerId options.url.text options.secretPlaintext.text ciphertext
        nonce.bytes) := by
    simp only [encryptSecret, accepted, Except.mapError, bind, Except.bind, customerGiven,
      urlGiven, key, secret,
      drawn, encrypted, Bool.not_true, decide_false, Bool.or_self, Bool.false_eq_true, if_false]
    rfl
  rw [encryptSecretCommand, body]

end Admin
end RiskSentinel
