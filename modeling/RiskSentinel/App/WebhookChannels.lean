import RiskSentinel.Foundation.Loading
import RiskSentinel.Foundation.Sql
import RiskSentinel.Risk.WebhookAlertChannel
import RiskSentinel.Security.Crypto

namespace RiskSentinel
namespace App

open Foundation Events Risk Security

/-!
# Webhook channels in the database

The table `customer_webhook_channels` with its constraints, the statement that
inserts a row, and the loader that reads the enabled rows at the start of the
program.  The columns that nobody but the database reads are left out.

A row with a secret that cannot be decoded or decrypted is skipped, and the
loop goes on.  A row without a secret gives an unsigned endpoint.
-/

/-! ## The table -/

structure ChannelRow where
  customerId : UInt64
  url : String
  hmacSecretEncrypted : Option (List UInt8)
  hmacSecretNonce : Option (List UInt8)
  enabled : Bool
deriving DecidableEq, Repr

/-- The customers and their channels.  The identifiers come from a sequence of
the type `BIGINT`. -/
structure ChannelTable where
  customers : List UInt64
  rows : List ChannelRow
  fits : forall id, id ∈ customers -> id.toNat < 2 ^ 63
  references : forall row, row ∈ rows -> row.customerId ∈ customers
  unique : rows.Pairwise fun earlier later =>
    ¬ (earlier.customerId = later.customerId ∧ earlier.url = later.url)
  paired : forall row, row ∈ rows -> row.hmacSecretEncrypted.isSome = row.hmacSecretNonce.isSome

namespace ChannelTable

/-- A row that violates a constraint is refused. -/
def insert (table : ChannelTable) (row : ChannelRow) : Option ChannelTable :=
  if accepted : row.customerId ∈ table.customers ∧
      (forall other, other ∈ table.rows ->
        ¬ (other.customerId = row.customerId ∧ other.url = row.url)) ∧
      row.hmacSecretEncrypted.isSome = row.hmacSecretNonce.isSome then
    some { table with
      rows := table.rows ++ [row]
      references := fun other member => (List.mem_append.mp member).elim
        (table.references other) fun last =>
        List.mem_singleton.mp last ▸ accepted.1
      unique := List.pairwise_append.mpr
        ⟨table.unique, List.pairwise_singleton _ _, fun other member _ same =>
        List.mem_singleton.mp same ▸ accepted.2.1 other member⟩
      paired := fun other member => (List.mem_append.mp member).elim
        (table.paired other) fun last =>
        List.mem_singleton.mp last ▸ accepted.2.2 }
  else none

theorem insert_of_fresh {table : ChannelTable} {row : ChannelRow}
    (customer : row.customerId ∈ table.customers)
    (fresh : forall other, other ∈ table.rows ->
    ¬ (other.customerId = row.customerId ∧ other.url = row.url))
    (paired : row.hmacSecretEncrypted.isSome = row.hmacSecretNonce.isSome) :
    Exists fun after => table.insert row = some after ∧ after.rows = table.rows ++ [row] :=
  ⟨_, dif_pos ⟨customer, fresh, paired⟩, rfl⟩

theorem rows_insert {table after : ChannelTable} {row : ChannelRow}
    (inserted : table.insert row = some after) : after.rows = table.rows ++ [row] := by
  unfold insert at inserted
  split_ifs at inserted
  cases inserted
  rfl

end ChannelTable

/-! ## The statement -/

/-- The value of a byte column. -/
def bytesColumn : Option Sql.Constant -> Option (Option (List UInt8))
  | none => some none
  | some (.bytes content) => some (some content)
  | some _ => none

/-- The value of the column `enabled`, with its default. -/
def booleanColumn : Option Sql.Constant -> Option Bool
  | none => some true
  | some (.boolean value) => some value
  | some _ => none

/-- The row of an insertion.  Every column is one of the table's, and none is
given twice. -/
def channelRow (insertion : Sql.Insertion) : Option ChannelRow :=
  let columns := insertion.assignments.map Prod.fst
  if insertion.table = "customer_webhook_channels" ∧ columns.Nodup ∧
      columns.all ["customer_id", "url", "hmac_secret_encrypted", "hmac_secret_nonce",
        "enabled"].contains = true then
    match insertion.assignments.lookup "customer_id", insertion.assignments.lookup "url" with
    | some (.number id), some (.text url) => do
        let hmacSecretEncrypted ← bytesColumn (insertion.assignments.lookup "hmac_secret_encrypted")
        let hmacSecretNonce ← bytesColumn (insertion.assignments.lookup "hmac_secret_nonce")
        let enabled ← booleanColumn (insertion.assignments.lookup "enabled")
        if id < 2 ^ 63 then
          return ⟨UInt64.ofNat id, String.ofList url, hmacSecretEncrypted, hmacSecretNonce, enabled⟩
        else none
    | _, _ => none
  else none

/-- Running one statement. -/
def ChannelTable.execute (table : ChannelTable) (statement : String) : Option ChannelTable := do
  let insertion ← Sql.parseInsertion statement.toList
  let row ← channelRow insertion
  table.insert row

/-! ## The loader -/

/-- A row of the query, with the byte columns as their text. -/
structure WebhookChannelRow where
  customerId : UInt64
  url : String
  hmacSecretEncrypted : Option String
  hmacSecretNonce : Option String
deriving DecidableEq, Repr

def queryRow (row : ChannelRow) : WebhookChannelRow where
  customerId := row.customerId
  url := row.url
  hmacSecretEncrypted := row.hmacSecretEncrypted.map fun bytes =>
    String.ofList (Sql.byteaText bytes)
  hmacSecretNonce := row.hmacSecretNonce.map fun bytes => String.ofList (Sql.byteaText bytes)

/-- The enabled rows.  The query asks for no order. -/
def ChannelTable.enabledRows (table : ChannelTable) : List WebhookChannelRow :=
  (table.rows.filter ChannelRow.enabled).map queryRow

def parsePgBytea (s : String) : Except String (List UInt8) :=
  if s.toList.take 2 ≠ ['\\', 'x'] then .error "unexpected BYTEA format (expected \\x prefix)"
  else nibblePairs "invalid hex nibble in BYTEA: " (s.toList.drop 2)

/-- The body of the loop of `load_webhook_channels_`. -/
def readWebhookChannelRow (aes : AesGcm) (masterKey : Bytes 32) (row : WebhookChannelRow) :
    Except String (UInt64 × WebhookEndpoint) :=
  match row.hmacSecretEncrypted, row.hmacSecretNonce with
  | some encRaw, some nonceRaw => do
      let encBytes ← parsePgBytea encRaw
      let nonceBytes ← parsePgBytea nonceRaw
      let hmacSecret ← aesGcmDecrypt aes masterKey.bytes nonceBytes encBytes
      return (row.customerId, ⟨row.url, hmacSecret⟩)
  | _, _ => .ok (row.customerId, ⟨row.url, ""⟩)

/-- Without a master key, or with a malformed one, nothing is loaded. -/
def loadWebhookChannels (aes : AesGcm) (masterKeyEnv : Option String)
    (rows : List WebhookChannelRow) : Table UInt64 (List WebhookEndpoint) :=
  match masterKeyEnv with
  | none => Table.empty
  | some text =>
      if text = "" then Table.empty
      else
        match parseMasterKeyHex text with
        | .error _ => Table.empty
        | .ok masterKey => loadSkippingFailures
            (readWebhookChannelRow aes masterKey) Table.pushEntry Table.empty rows

/-! ## What is loaded -/

/-- The database and the program write the same digits. -/
theorem hexText_eq (bytes : List UInt8) : Sql.hexText bytes = bytes.flatMap hexPair := by
  have digit : forall {value : UInt8}, value.toNat < 16 -> Sql.hexDigit value = hexDigit value := by
    intro value small
    have table : forall value : Fin 16,
        Sql.hexDigit (UInt8.ofNat value.val) = hexDigit (UInt8.ofNat value.val) := by
      decide
    have here := table ⟨value.toNat, small⟩
    rw [UInt8.ofNat_toNat] at here
    exact here
  apply List.flatMap_congr
  intro byte _
  rw [digit (nibbles byte).1, digit (nibbles byte).2.1]
  rfl

theorem parsePgBytea_byteaText (bytes : List UInt8) :
    parsePgBytea (String.ofList (Sql.byteaText bytes)) = .ok bytes := by
  have shape : (String.ofList (Sql.byteaText bytes)).toList =
      '\\' :: 'x' :: bytes.flatMap hexPair := by
    rw [String.toList_ofList, Sql.byteaText, hexText_eq]
  rw [parsePgBytea, shape]
  exact nibblePairs_hexPair _ bytes

/-- A row gives an endpoint for its own customer and address. -/
theorem readWebhookChannelRow_ok {aes : AesGcm} {masterKey : Bytes 32} {row : WebhookChannelRow}
    {entry : UInt64 × WebhookEndpoint}
    (read : readWebhookChannelRow aes masterKey row = .ok entry) :
    entry.1 = row.customerId ∧ entry.2.url = row.url := by
  unfold readWebhookChannelRow at read
  split at read
  · rename_i encRaw nonceRaw _ _
    cases enc : parsePgBytea encRaw with
    | error message => simp [enc, bind, Except.bind] at read
    | ok encBytes =>
        cases nonce : parsePgBytea nonceRaw with
        | error message => simp [enc, nonce, bind, Except.bind] at read
        | ok nonceBytes =>
            cases secret : aesGcmDecrypt aes masterKey.bytes nonceBytes encBytes with
            | error message => simp [enc, nonce, secret, bind, Except.bind] at read
            | ok hmacSecret =>
                simp only [enc, nonce, secret, bind, Except.bind, pure, Except.pure,
                  Except.ok.injEq] at read
                rw [← read]
                exact ⟨rfl, rfl⟩
  · cases read
    exact ⟨rfl, rfl⟩

/-- The endpoint that a row gives for a customer and an address. -/
def endpointFor (aes : AesGcm) (masterKey : Bytes 32) (customerId : UInt64) (url : String)
    (row : WebhookChannelRow) : Option WebhookEndpoint :=
  if row.customerId = customerId ∧ row.url = url then
    ((readWebhookChannelRow aes masterKey row).toOption).map Prod.snd
  else none

private theorem filter_valuesAt (aes : AesGcm) (masterKey : Bytes 32)
    (rows : List WebhookChannelRow) (customerId : UInt64) (url : String) :
    (Table.valuesAt (loadedEntries (readWebhookChannelRow aes masterKey) rows) customerId).filter
        (fun endpoint => decide (endpoint.url = url)) =
      rows.filterMap (endpointFor aes masterKey customerId url) := by
  induction rows with
  | nil => rfl
  | cons row rest inductionHypothesis =>
      cases read : readWebhookChannelRow aes masterKey row with
      | error message =>
          have none : endpointFor aes masterKey customerId url row = none := by
            simp [endpointFor, read, Except.toOption]
          rw [loadedEntries_cons_error _ read, List.filterMap_cons_none none]
          exact inductionHypothesis
      | ok entry =>
          have own := readWebhookChannelRow_ok read
          rw [loadedEntries_cons_ok _ read]
          by_cases same : row.customerId = customerId ∧ row.url = url
          · have some : endpointFor aes masterKey customerId url row = some entry.2 := by
              simp [endpointFor, read, same, Except.toOption]
            rw [List.filterMap_cons_some some, ← inductionHypothesis]
            simp [Table.valuesAt, own, same]
          · have none : endpointFor aes masterKey customerId url row = none := by
              simp only [endpointFor, if_neg same]
            rw [List.filterMap_cons_none none, ← inductionHypothesis]
            rw [not_and] at same
            by_cases customer : row.customerId = customerId
            · simp [Table.valuesAt, own, customer, same customer]
            · simp [Table.valuesAt, own, customer]

theorem loadWebhookChannels_eq (aes : AesGcm) {masterKeyText : String} {masterKey : Bytes 32}
    (keyRead : parseMasterKeyHex masterKeyText = .ok masterKey) (rows : List WebhookChannelRow) :
    loadWebhookChannels aes (some masterKeyText) rows =
      Table.empty.pushBackAll (loadedEntries (readWebhookChannelRow aes masterKey) rows) := by
  have keyGiven : masterKeyText ≠ "" := by
    rintro rfl
    cases keyRead
  simp only [loadWebhookChannels, if_neg keyGiven, keyRead, loadSkippingFailures_eq]
  rfl

/-- The endpoints of a customer with an address, row by row. -/
theorem filter_endpointsOf (aes : AesGcm) {masterKeyText : String} {masterKey : Bytes 32}
    (keyRead : parseMasterKeyHex masterKeyText = .ok masterKey) (rows : List WebhookChannelRow)
    (customerId : UInt64) (url : String) :
    ((WebhookAlertChannel.mk
      (loadWebhookChannels aes (some masterKeyText) rows)).endpointsOf customerId).filter
        (fun endpoint => decide (endpoint.url = url)) =
      rows.filterMap (endpointFor aes masterKey customerId url) := by
  rw [WebhookAlertChannel.endpointsOf, loadWebhookChannels_eq aes keyRead,
    Table.getD_find?_pushBackAll_empty]
  exact filter_valuesAt aes masterKey rows customerId url

end App
end RiskSentinel
