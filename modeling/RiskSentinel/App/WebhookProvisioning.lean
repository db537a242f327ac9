import RiskSentinel.Admin.EncryptSecret
import RiskSentinel.App.WebhookChannels

namespace RiskSentinel
namespace App

open Foundation Events Risk Security Admin

/-!
# From the provisioning command to the loader

The command writes a row as text, the database reads the text, and the loader
reads the row.  The numbers and the digits in the text cannot be mistaken for
anything else.  The address can: the command does not double its quotes, so
the literal that begins with an address ends at the address's first single
quote.
-/

/-- The statement is accepted.  Whatever the order of the rows, the loader then
has exactly one endpoint for the customer with the address, and it has the
secret. -/
def LoadsBack (aes : AesGcm) (masterKeyText : String) (table : ChannelTable) (customerId : UInt64)
    (url secret : String) (statement : String) : Prop :=
  Exists fun after => table.execute statement = some after ∧
    forall rows : List WebhookChannelRow, rows.Perm after.enabledRows ->
      ((WebhookAlertChannel.mk
        (loadWebhookChannels aes (some masterKeyText) rows)).endpointsOf customerId).filter
        (fun endpoint => decide (endpoint.url = url)) = [⟨url, secret⟩]

/-! ## The parts of the statement -/

/-- Up to the number of the customer. -/
def frontText : String :=
  "    INSERT INTO customer_webhook_channels\n" ++
    "        (customer_id, url, hmac_secret_encrypted, hmac_secret_nonce, enabled)\n" ++
    "    VALUES (\n" ++
    "        "

/-- From the number to the address. -/
def urlText : String :=
  ",\n" ++ "        '"

/-- From the address to the ciphertext. -/
def ciphertextText : String :=
  "',\n" ++ "        decode('"

/-- From the ciphertext to the nonce. -/
def nonceText : String :=
  "', 'hex'),\n" ++ "        decode('"

/-- Behind the nonce. -/
def backText : String :=
  "', 'hex'),\n" ++ "        true\n" ++ "    );\n"

/-- The statement with its parts grouped. -/
theorem toList_insertStatement (customerId : UInt64) (url : String)
    (ciphertext nonce : List UInt8) :
    (insertStatement customerId url ciphertext nonce).toList =
      frontText.toList ++ (Nat.toDigits 10 customerId.toNat ++ (urlText.toList ++ (url.toList ++
        (ciphertextText.toList ++ (Sql.hexText ciphertext ++ (nonceText.toList ++
          (Sql.hexText nonce ++ backText.toList))))))) := by
  have grouped : insertStatement customerId url ciphertext nonce =
      frontText ++ (Nat.repr customerId.toNat ++ (urlText ++ (url ++ (ciphertextText ++
        (Admin.bytesToHex ciphertext ++
          (nonceText ++ (Admin.bytesToHex nonce ++ backText))))))) := by
    unfold insertStatement frontText urlText ciphertextText nonceText backText
    simp only [String.append_assoc]
  rw [grouped]
  simp only [String.toList_append, Admin.bytesToHex, String.toList_ofList, hexText_eq,
    Nat.toList_repr]

def frontTokens : List Sql.Token :=
  [.word "insert", .word "into", .word "customer_webhook_channels", .symbol '(',
    .word "customer_id", .symbol ',',
    .word "url", .symbol ',', .word "hmac_secret_encrypted", .symbol ',',
    .word "hmac_secret_nonce", .symbol ',', .word "enabled", .symbol ')',
    .word "values", .symbol '(']

private theorem scans_front : Sql.Scans .between frontText.toList frontTokens .between := by
  unfold Sql.Scans
  decide +kernel

private theorem scans_url (value : Nat) :
    Sql.Scans (.number value) urlText.toList [.number value, .symbol ','] (.text []) := by
  rfl

private theorem scans_ciphertext (content : List Char) :
    Sql.Scans (.text content) ciphertextText.toList
      [.text content, .symbol ',', .word "decode", .symbol '('] (.text []) := by
  rfl

private theorem scans_nonce (content : List Char) :
    Sql.Scans (.text content) nonceText.toList
      [.text content, .symbol ',', .text ['h', 'e', 'x'], .symbol ')', .symbol ',',
        .word "decode", .symbol '(']
      (.text []) := by
  rfl

private theorem scans_back (content : List Char) :
    Sql.Scans (.text content) backText.toList
      [.text content, .symbol ',', .text ['h', 'e', 'x'], .symbol ')', .symbol ',',
        .word "true", .symbol ')',
        .symbol ';'] .between := by
  rfl

/-- The part in front of the address, up to its opening quote. -/
private theorem scans_address (id : Nat) (address : List Char) :
    Sql.run .between (frontText.toList ++ (Nat.toDigits 10 id ++ (urlText.toList ++ address))) =
      (Sql.run (.text []) address).map fun later =>
        (frontTokens ++ ([.number id, .symbol ','] ++ later.1), later.2) := by
  rw [scans_front.run_append, (Sql.scans_numeral id).run_append,
    (scans_url id).run_append, Option.map_map,
    Option.map_map]
  rfl

/-- The columns of the statement get the constants behind its front. -/
private theorem readInsertion_front (rest : List Sql.Token) :
    Sql.readInsertion (frontTokens ++ rest) =
      (Sql.readConstants ["customer_id", "url", "hmac_secret_encrypted", "hmac_secret_nonce",
        "enabled"] rest).bind
        fun result => if result.2 = [] ∨ result.2 = [.symbol ';'] then
          some ⟨"customer_webhook_channels", result.1⟩ else none := by
  rfl

/-! ## An address without quotes -/

/-- The row that the statement is meant to insert. -/
def provisionedRow (customerId : UInt64) (url : String) (ciphertext nonce : List UInt8) :
    ChannelRow :=
  ⟨customerId, url, some ciphertext, some nonce, true⟩

/-- The tokens behind the front of the statement. -/
def rowTokens (id : Nat) (url ciphertext nonce : List Char) : List Sql.Token :=
  [.number id, .symbol ',', .text url, .symbol ',',
    .word "decode", .symbol '(', .text ciphertext, .symbol ',', .text ['h', 'e', 'x'],
    .symbol ')', .symbol ',', .word "decode", .symbol '(', .text nonce, .symbol ',',
    .text ['h', 'e', 'x'], .symbol ')', .symbol ',', .word "true", .symbol ')', .symbol ';']

private theorem tokens_insertStatement {customerId : UInt64} {url : String}
    {ciphertext nonce : List UInt8} (clean : '\'' ∉ url.toList) :
    Sql.tokens (insertStatement customerId url ciphertext nonce).toList =
      some (frontTokens ++
        rowTokens customerId.toNat url.toList (Sql.hexText ciphertext) (Sql.hexText nonce)) := by
  have digits : forall bytes, Sql.Scans (.text []) (Sql.hexText bytes) []
      (.text (Sql.hexText bytes)) :=
    fun bytes => Sql.scans_content [] (Sql.quote_not_mem_hexText bytes)
  have address := Sql.scans_content [] clean
  have last := (digits nonce).append (scans_back _)
  have middle := (digits ciphertext).append ((scans_nonce _).append last)
  have values := (scans_url customerId.toNat).append
    (address.append ((scans_ciphertext _).append middle))
  have whole := scans_front.append ((Sql.scans_numeral customerId.toNat).append values)
  rw [toList_insertStatement, whole.tokens]
  rfl

private theorem readConstant_decode (bytes : List UInt8) (rest : List Sql.Token) :
    Sql.readConstant (.word "decode" :: .symbol '(' :: .text (Sql.hexText bytes) :: .symbol ',' ::
        .text ['h', 'e', 'x'] :: .symbol ')' :: rest) = some (.bytes bytes, rest) := by
  have decoded : Sql.readDecode (.symbol '(' :: .text (Sql.hexText bytes) :: .symbol ',' ::
      .text ['h', 'e', 'x'] :: .symbol ')' :: rest) = some (.bytes bytes, rest) := by
    simp only [Sql.readDecode, if_true, Sql.decodeHex_hexText, Option.map_some]
  exact decoded

/-- The insertion that the statement spells. -/
theorem parseInsertion_clean {customerId : UInt64} {url : String} {ciphertext nonce : List UInt8}
    (clean : '\'' ∉ url.toList) :
    Sql.parseInsertion (insertStatement customerId url ciphertext nonce).toList =
      some ⟨"customer_webhook_channels",
        [("customer_id", .number customerId.toNat), ("url", .text url.toList),
        ("hmac_secret_encrypted", .bytes ciphertext), ("hmac_secret_nonce", .bytes nonce),
        ("enabled", .boolean true)]⟩ := by
  rw [Sql.parseInsertion, tokens_insertStatement clean, Option.bind_some,
    readInsertion_front, rowTokens,
    Sql.readConstants_comma rfl, Sql.readConstants_comma rfl,
    Sql.readConstants_comma (readConstant_decode ciphertext _),
    Sql.readConstants_comma (readConstant_decode nonce _)]
  rfl

theorem execute_clean {table : ChannelTable} {customerId : UInt64} {url : String}
    {ciphertext nonce : List UInt8} (clean : '\'' ∉ url.toList)
    (customer : customerId ∈ table.customers) :
    table.execute (insertStatement customerId url ciphertext nonce) =
      table.insert (provisionedRow customerId url ciphertext nonce) := by
  have row : channelRow ⟨"customer_webhook_channels", [("customer_id", .number customerId.toNat),
      ("url", .text url.toList), ("hmac_secret_encrypted", .bytes ciphertext),
      ("hmac_secret_nonce", .bytes nonce), ("enabled", .boolean true)]⟩ =
        some (provisionedRow customerId url ciphertext nonce) := by
    have fits : customerId.toNat < 9223372036854775808 := table.fits customerId customer
    simp [channelRow, List.lookup_cons, bytesColumn, booleanColumn, fits, provisionedRow]
  simp only [ChannelTable.execute, parseInsertion_clean clean, row, Option.bind_eq_bind,
    Option.bind_some]

/-! ## An address with a quote -/

private theorem lookup_url {id : Nat} {content : List Char} {more : List Sql.Token}
    {insertion : Sql.Insertion}
    (read : Sql.readInsertion
    (frontTokens ++ ([.number id, .symbol ','] ++ .text content :: more)) =
      some insertion) :
    insertion.assignments.lookup "url" = some (.text content) := by
  have first : Sql.readConstant ([.number id, .symbol ','] ++ .text content :: more) =
      some (.number id, .symbol ',' :: .text content :: more) := rfl
  have second : Sql.readConstant (.text content :: more) = some (.text content, more) := rfl
  rw [readInsertion_front, Sql.readConstants_comma first] at read
  rcases Option.bind_eq_some_iff.mp read with ⟨result, found, ended⟩
  rcases Option.map_eq_some_iff.mp found with ⟨⟨assignments, rest⟩, others, rfl⟩
  rcases Sql.readConstants_head second others with ⟨later, rfl⟩
  split_ifs at ended
  cases ended
  rfl

/-- The address that is stored is the content of the literal. -/
private theorem url_channelRow {insertion : Sql.Insertion} {row : ChannelRow} {content : List Char}
    (stored : channelRow insertion = some row)
    (given : insertion.assignments.lookup "url" = some (.text content)) :
    row.url = String.ofList content := by
  unfold channelRow at stored
  simp only [given] at stored
  split_ifs at stored
  cases customer : insertion.assignments.lookup "customer_id" with
  | none => simp [customer] at stored
  | some constant =>
      cases constant with
      | number id =>
          simp only [customer, Option.bind_eq_bind, Option.bind_eq_some_iff] at stored
          rcases stored with ⟨_, _, _, _, _, _, last⟩
          split_ifs at last
          cases last
          rfl
      | text content => simp [customer] at stored
      | bytes content => simp [customer] at stored
      | boolean value => simp [customer] at stored

/-- Whatever the statement inserts has another address. -/
theorem url_of_execute {table after : ChannelTable} {customerId : UInt64} {url : String}
    {ciphertext nonce : List UInt8} (dirty : '\'' ∈ url.toList) (nonempty : ciphertext ≠ [])
    (executed : table.execute (insertStatement customerId url ciphertext nonce) = some after) :
    Exists fun row => after.rows = table.rows ++ [row] ∧ row.url ≠ url := by
  unfold ChannelTable.execute at executed
  rcases Option.bind_eq_some_iff.mp executed with ⟨insertion, parsed, more⟩
  rcases Option.bind_eq_some_iff.mp more with ⟨row, stored, inserted⟩
  refine ⟨row, ChannelTable.rows_insert inserted, ?_⟩
  rcases Option.bind_eq_some_iff.mp parsed with ⟨tokens, scanned, read⟩
  rcases Option.bind_eq_some_iff.mp scanned with ⟨⟨done, behind⟩, ran, finished⟩
  rcases Option.map_eq_some_iff.mp finished with ⟨last, _, rfl⟩
  rw [toList_insertStatement, scans_address] at ran
  rcases Option.map_eq_some_iff.mp ran with ⟨⟨later, mode⟩, address, same⟩
  cases same
  cases ciphertext with
  | nil => exact absurd rfl nonempty
  | cons byte bytes =>
      have digit := Sql.hexDigit_facts (nibbles byte).1
      have split : url.toList ++
          (ciphertextText.toList ++ (Sql.hexText (byte :: bytes) ++ (nonceText.toList ++
          (Sql.hexText nonce ++ backText.toList)))) =
        url.toList ++ '\'' :: (",\n        decode(".toList ++ '\'' :: Sql.hexDigit (byte >>> 4) ::
          (Sql.hexDigit (byte &&& 15) :: Sql.hexText bytes ++ (nonceText.toList ++
            (Sql.hexText nonce ++ backText.toList)))) := by
        rfl
      rw [split] at address
      rcases Sql.undoubled_content_ne dirty
        (by decide) rfl rfl rfl rfl digit.2.2.2 digit.2.1 address with
        ⟨content, others, ended, different⟩
      rw [ended, List.append_assoc, List.append_assoc, List.cons_append] at read
      rw [url_channelRow stored (lookup_url read)]
      intro equal
      apply different
      rw [← equal, String.toList_ofList]

/-! ## The way back -/

/-- The loader reads the row that was meant to be inserted. -/
private theorem endpointFor_provisionedRow {aes : AesGcm} {masterKey : Bytes 32} {nonce : Bytes 12}
    {customerId : UInt64} {url secret : String} {ciphertext : List UInt8}
    (opened : aesGcmDecrypt aes masterKey.bytes nonce.bytes ciphertext = .ok secret) :
    endpointFor aes masterKey customerId url
        (queryRow (provisionedRow customerId url ciphertext nonce.bytes)) =
      some ⟨url, secret⟩ := by
  simp only [endpointFor, readWebhookChannelRow, queryRow, provisionedRow, Option.map_some,
    parsePgBytea_byteaText,
    bind, Except.bind, opened, and_self, if_true]
  rfl

/-- The other rows give no endpoint for the customer with the address. -/
private theorem filterMap_otherRows {aes : AesGcm} {masterKey : Bytes 32}
    {customerId : UInt64} {url : String} {rows : List ChannelRow}
    (others : forall row, row ∈ rows -> ¬ (row.customerId = customerId ∧ row.url = url)) :
    ((rows.filter ChannelRow.enabled).map queryRow).filterMap
    (endpointFor aes masterKey customerId url) = [] := by
  apply List.filterMap_eq_nil_iff.mpr
  intro row member
  rcases List.mem_map.mp member with ⟨stored, listed, rfl⟩
  exact if_neg (others stored (List.mem_filter.mp listed).1)

theorem loadsBack_clean {aes : AesGcm} {masterKeyText : String} {masterKey : Bytes 32}
    {nonce : Bytes 12} {table : ChannelTable} {customerId : UInt64} {url secret : String}
    {ciphertext : List UInt8} (keyRead : parseMasterKeyHex masterKeyText = .ok masterKey)
    (opened : aesGcmDecrypt aes masterKey.bytes nonce.bytes ciphertext = .ok secret)
    (customer : customerId ∈ table.customers)
    (fresh : forall row, row ∈ table.rows -> ¬ (row.customerId = customerId ∧ row.url = url))
    (clean : '\'' ∉ url.toList) :
    LoadsBack aes masterKeyText table customerId url secret
      (insertStatement customerId url ciphertext nonce.bytes) := by
  have inserted : Exists fun after =>
      table.insert (provisionedRow customerId url ciphertext nonce.bytes) = some after ∧
        after.rows = table.rows ++ [provisionedRow customerId url ciphertext nonce.bytes] :=
    ChannelTable.insert_of_fresh customer fresh rfl
  rcases inserted with ⟨after, accepted, listed⟩
  refine ⟨after, (execute_clean clean customer).trans accepted, fun rows order => ?_⟩
  rw [filter_endpointsOf aes keyRead]
  have all : after.enabledRows.filterMap
      (endpointFor aes masterKey customerId url) = [⟨url, secret⟩] := by
    have last :
        ([provisionedRow customerId url ciphertext nonce.bytes].filter ChannelRow.enabled).map
          queryRow = [queryRow (provisionedRow customerId url ciphertext nonce.bytes)] := rfl
    rw [ChannelTable.enabledRows, listed, List.filter_append, List.map_append,
      List.filterMap_append,
      filterMap_otherRows fresh, last, List.filterMap_cons_some (endpointFor_provisionedRow opened)]
    rfl
  have same := order.filterMap (endpointFor aes masterKey customerId url)
  rw [all] at same
  exact List.perm_singleton.mp same

theorem not_loadsBack_dirty {aes : AesGcm} {masterKeyText : String} {masterKey : Bytes 32}
    {table : ChannelTable} {customerId : UInt64} {url secret : String}
    {ciphertext nonce : List UInt8} (keyRead : parseMasterKeyHex masterKeyText = .ok masterKey)
    (nonempty : ciphertext ≠ [])
    (fresh : forall row, row ∈ table.rows -> ¬ (row.customerId = customerId ∧ row.url = url))
    (dirty : '\'' ∈ url.toList) :
    ¬ LoadsBack aes masterKeyText table customerId url secret
      (insertStatement customerId url ciphertext nonce) := by
  rintro ⟨after, executed, loaded⟩
  rcases url_of_execute dirty nonempty executed with ⟨row, listed, different⟩
  have others : forall other, other ∈ after.rows ->
      ¬ (other.customerId = customerId ∧ other.url = url) := by
    intro other member
    rw [listed] at member
    rcases List.mem_append.mp member with earlier | last
    · exact fresh other earlier
    · rw [List.mem_singleton.mp last]
      exact fun same => different same.2
  have nothing := loaded after.enabledRows (List.Perm.refl _)
  rw [filter_endpointsOf aes keyRead, ChannelTable.enabledRows, filterMap_otherRows others]
    at nothing
  cases nothing

/-- For every customer in the table, address without a row and secret, every
master key and every nonce: the command prints its statement, and the statement
brings the secret back to the loader exactly when the address contains no
single quote. -/
theorem provisioned_loads_back_iff (aes : AesGcm) (inverse : aes.Inverse) (env : CommandEnv)
    (arguments : List Argument) (options : Options) (commandKeyText loaderKeyText : String)
    (masterKey : Bytes 32) (nonce : Bytes 12) (table : ChannelTable)
    (accepted : readArguments env.prog {} arguments = .ok options)
    (customerGiven : options.hasCustomerId = true) (urlGiven : options.url.text ≠ "")
    (secretGiven : options.secretPlaintext.text ≠ "") (keySet : env.masterKey = some commandKeyText)
    (keyRead : parseMasterKeyHex commandKeyText = .ok masterKey)
    (sameKey : parseMasterKeyHex loaderKeyText = .ok masterKey) (drawn : env.nonce = some nonce)
    (customer : options.customerId ∈ table.customers) (fresh : forall row, row ∈ table.rows ->
      ¬ (row.customerId = options.customerId ∧ row.url = options.url.text)) :
    Exists fun ciphertext =>
      encryptSecretCommand aes env arguments =
        ⟨0, reportHead options.customerId options.url.text options.secretPlaintext.text ++
          insertStatement options.customerId options.url.text ciphertext nonce.bytes ++ "\n", ""⟩ ∧
      (LoadsBack aes loaderKeyText table options.customerId options.url.text options.secretPlaintext.text
          (insertStatement options.customerId options.url.text ciphertext nonce.bytes) ↔
        '\'' ∉ options.url.text.toList) := by
  rcases aesGcmDecrypt_sealed inverse masterKey nonce options.secretPlaintext.isByteText
      options.secretPlaintext.short with ⟨ciphertext, encrypted, tagged, opened⟩
  have nonempty : ciphertext ≠ [] := by
    rintro rfl
    cases tagged
  refine ⟨ciphertext,
    encryptSecretCommand_ok accepted customerGiven urlGiven secretGiven keySet keyRead drawn
      encrypted, fun loaded dirty => not_loadsBack_dirty sameKey nonempty fresh dirty loaded,
    loadsBack_clean sameKey opened customer fresh⟩

/-! ## A run of the command -/

private def sampleKey : Bytes 32 :=
  ⟨(List.range 32).map UInt8.ofNat, by decide⟩

private def sampleKeyText : String :=
  "000102030405060708090a0b0c0d0e0f101112131415161718191a1b1c1d1e1f"

private def sampleNonce : Bytes 12 :=
  ⟨(List.range 12).map UInt8.ofNat, by decide⟩

private def sampleCiphertext : List UInt8 :=
  [51, 109, 166, 104, 160, 134, 176, 126, 249]

private def sampleTag : Bytes 16 :=
  ⟨[28, 65, 41, 204, 56, 147, 244, 206, 218, 19, 12, 198, 234, 224, 226, 18], rfl⟩

/-- The values of AES-256-GCM for the secret of the run, and the identity
elsewhere. -/
private def sampleAes : AesGcm where
  encrypt key nonce message _ :=
    if key = sampleKey ∧ nonce = sampleNonce ∧ message = bytesOf "topsecret"
      then .ok (sampleCiphertext, sampleTag)
    else .ok (message, Bytes.zeros 16)
  decrypt key nonce ciphertext _ tag :=
    if key = sampleKey ∧ nonce = sampleNonce ∧ ciphertext = sampleCiphertext ∧ tag = sampleTag then
      .ok (bytesOf "topsecret")
    else .ok ciphertext

private theorem sampleAes_inverse : sampleAes.Inverse where
  inverts key nonce message _ := by
    by_cases sample : key = sampleKey ∧ nonce = sampleNonce ∧ message = bytesOf "topsecret"
    · rcases sample with ⟨rfl, rfl, rfl⟩
      refine ⟨sampleCiphertext, sampleTag, ?_, by decide, ?_⟩ <;> simp only [sampleAes,
        and_self, if_true]
    · have otherTag : Bytes.zeros 16 ≠ sampleTag := by decide
      refine ⟨message, Bytes.zeros 16, ?_, rfl, ?_⟩
      · simp only [sampleAes, if_neg sample]
      · simp only [sampleAes, otherTag, and_false, if_false]

private def sampleEnv : CommandEnv where
  prog := "sentinel"
  masterKey := some sampleKeyText
  randomSecret := none
  nonce := some sampleNonce

private def sampleArgument (text : String)
    (bytes : (text.toList.all fun c => decide (0 < c.toNat ∧ c.toNat < 256)) =
      true := by decide +kernel)
    (short : text.length < 2 ^ 31 := by decide +kernel) : Argument where
  text := text
  bytes := fun c member => of_decide_eq_true (List.all_eq_true.mp bytes c member)
  short := short

private def sampleUrl : Argument :=
  sampleArgument "https://hooks.acme.com/risk-sentinel"

private def quotedUrl : Argument :=
  sampleArgument "https://hooks.acme.com/o'hara"

private def sampleSecret : Argument :=
  sampleArgument "topsecret"

private def sampleArguments (url : Argument) : List Argument :=
  [sampleArgument "--customer-id", sampleArgument "42", sampleArgument "--url", url,
    sampleArgument "--secret",
    sampleSecret]

private def sampleTable : ChannelTable where
  customers := [42]
  rows := []
  fits := fun _ member => List.mem_singleton.mp member ▸ by decide
  references := fun _ impossible => absurd impossible List.not_mem_nil
  unique := List.Pairwise.nil
  paired := fun _ impossible => absurd impossible List.not_mem_nil

theorem provisioned_loads_back_iff_hooks :
    Exists fun ciphertext =>
      encryptSecretCommand sampleAes sampleEnv (sampleArguments sampleUrl) =
        ⟨0, reportHead 42 sampleUrl.text sampleSecret.text ++
          insertStatement 42 sampleUrl.text ciphertext sampleNonce.bytes ++ "\n", ""⟩ ∧
      (LoadsBack sampleAes sampleKeyText sampleTable 42 sampleUrl.text sampleSecret.text
          (insertStatement 42 sampleUrl.text ciphertext sampleNonce.bytes) ↔
        '\'' ∉ sampleUrl.text.toList) :=
  provisioned_loads_back_iff sampleAes sampleAes_inverse sampleEnv (sampleArguments sampleUrl)
    ⟨42, true, sampleUrl,
      sampleSecret⟩ sampleKeyText sampleKeyText sampleKey sampleNonce sampleTable
    rfl rfl (by decide) (by decide) rfl (by decide +kernel)
      (by decide +kernel) rfl List.mem_cons_self
    (fun _ impossible => absurd impossible List.not_mem_nil)

/-- A quote is allowed in the path of an address. -/
theorem quoted_url_refused :
    encryptSecretCommand sampleAes sampleEnv (sampleArguments quotedUrl) =
      ⟨0, reportHead 42 quotedUrl.text sampleSecret.text ++
        insertStatement 42 quotedUrl.text
          (sampleCiphertext ++ sampleTag.bytes) sampleNonce.bytes ++ "\n", ""⟩ ∧
    ¬ LoadsBack sampleAes sampleKeyText sampleTable 42 quotedUrl.text sampleSecret.text
      (insertStatement 42 quotedUrl.text
        (sampleCiphertext ++ sampleTag.bytes) sampleNonce.bytes) := by
  have accepted : readArguments sampleEnv.prog {} (sampleArguments quotedUrl) =
      .ok ⟨42, true, quotedUrl, sampleSecret⟩ := rfl
  have encrypted : aesGcmEncrypt sampleAes sampleKey.bytes sampleNonce.bytes sampleSecret.text =
      .ok (sampleCiphertext ++ sampleTag.bytes) := by
    decide +kernel
  have keyRead : parseMasterKeyHex sampleKeyText = .ok sampleKey := by
    decide +kernel
  have printed := encryptSecretCommand_ok accepted rfl (by decide)
    (by decide) rfl keyRead rfl encrypted
  refine ⟨printed, ?_⟩
  rintro ⟨after, executed, _⟩
  -- The literal ends behind `o`, and `hara` runs into the second quote.
  have refused : forall rest,
      Sql.run (.text []) (quotedUrl.text.toList ++ (ciphertextText.toList ++ rest)) = none := by
    intro rest
    rfl
  have unread : Sql.parseInsertion
      (insertStatement 42 quotedUrl.text
        (sampleCiphertext ++ sampleTag.bytes) sampleNonce.bytes).toList = none := by
    rw [toList_insertStatement, Sql.parseInsertion, Sql.tokens, scans_address, refused]
    rfl
  rw [ChannelTable.execute, unread] at executed
  cases executed

end App
end RiskSentinel
