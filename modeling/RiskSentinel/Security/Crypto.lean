import RiskSentinel.Events.Hex

namespace RiskSentinel
namespace Security

open Foundation Events

/-!
# Secrets at rest

A secret is stored as its ciphertext with the authentication tag behind it.
The cipher is a parameter: what its calls give for a key, a nonce, the input
and the number of bytes that they are told the input has.  That number is an
`int`, so the length of a secret passes through a cast.  A call that fails has
a text, and the program puts its own in front.

The only thing assumed of the cipher is that it inverts itself where its input
has a length that fits into an `int`.
-/

/-! ## Strings and bytes -/

/-- Every character stands for a byte. -/
def IsByteText (text : String) : Prop :=
  forall c, c ∈ text.toList -> c.toNat < 256

def bytesOf (text : String) : List UInt8 :=
  text.toList.map fun c => UInt8.ofNat c.toNat

def textOf (bytes : List UInt8) : String :=
  String.ofList (bytes.map fun byte => Char.ofNat byte.toNat)

theorem length_bytesOf (text : String) : (bytesOf text).length = text.length := by
  rw [bytesOf, List.length_map, String.length_toList]

theorem textOf_bytesOf {text : String} (each : IsByteText text) : textOf (bytesOf text) = text := by
  apply String.toList_injective
  rw [textOf, bytesOf, String.toList_ofList, List.map_map]
  conv_rhs => rw [← List.map_id text.toList]
  apply List.map_congr_left
  intro c member
  change Char.ofNat (c.toNat % 256) = c
  rw [Nat.mod_eq_of_lt (each c member), Char.ofNat_toNat]

/-! ## Sealing and opening -/

/-- `static_cast<int>` of a size. -/
def toInt (size : Nat) : Int :=
  Int.bmod size (2 ^ 32)

theorem toInt_of_lt {size : Nat} (small : size < 2 ^ 31) : toInt size = size := by
  unfold toInt
  rw [Int.bmod_eq_of_le] <;> omega

/-- The calls of the cipher.  An error is the text of the call that failed. -/
structure AesGcm where
  encrypt : Bytes 32 -> Bytes 12 -> List UInt8 -> Int -> Except String (List UInt8 × Bytes 16)
  decrypt : Bytes 32 -> Bytes 12 -> List UInt8 -> Int -> Bytes 16 -> Except String (List UInt8)

/-- What was encrypted is decrypted with the same key and nonce. -/
structure AesGcm.Inverse (aes : AesGcm) : Prop where
  inverts : forall (key : Bytes 32) (nonce : Bytes 12) (message : List UInt8),
    message.length < 2 ^ 31 ->
    Exists fun ciphertext => Exists fun tag =>
      aes.encrypt key nonce message message.length = .ok (ciphertext, tag) ∧
        ciphertext.length = message.length ∧
        aes.decrypt key nonce ciphertext ciphertext.length tag = .ok message

def tagLen : Nat := 16

/-- The ciphertext with the tag behind it. -/
def aesGcmEncrypt (aes : AesGcm) (masterKey nonce : List UInt8) (plaintext : String) :
    Except String (List UInt8) :=
  if keySize : masterKey.length = 32 then
    if nonceSize : nonce.length = 12 then
      match aes.encrypt ⟨masterKey, keySize⟩ ⟨nonce, nonceSize⟩ (bytesOf plaintext)
        (toInt plaintext.length) with
      | .error failure => .error ("aes_gcm_encrypt: " ++ failure)
      | .ok (ciphertext, tag) => .ok (ciphertext ++ tag.bytes)
    else .error "aes_gcm_encrypt: nonce must be 12 bytes"
  else .error "aes_gcm_encrypt: master_key must be 32 bytes"

def aesGcmDecrypt (aes : AesGcm) (masterKey nonce ciphertext : List UInt8) : Except String String :=
  if keySize : masterKey.length = 32 then
    if nonceSize : nonce.length = 12 then
      if tagged : tagLen ≤ ciphertext.length then
        let encLen := ciphertext.length - tagLen
        let tag : Bytes 16 := ⟨ciphertext.drop encLen, by
          rw [List.length_drop]
          exact Nat.sub_sub_self tagged⟩
        match aes.decrypt ⟨masterKey, keySize⟩ ⟨nonce, nonceSize⟩ (ciphertext.take encLen)
          (toInt encLen) tag with
        | .error failure => .error ("aes_gcm_decrypt: " ++ failure)
        | .ok plaintext => .ok (textOf plaintext)
      else .error "aes_gcm_decrypt: ciphertext too short (< 16 bytes)"
    else .error "aes_gcm_decrypt: nonce must be 12 bytes"
  else .error "aes_gcm_decrypt: master_key must be 32 bytes"

/-- A sealed secret opens under the key and the nonce it was sealed with. -/
theorem aesGcmDecrypt_sealed {aes : AesGcm} (inverse : aes.Inverse) (key : Bytes 32)
    (nonce : Bytes 12) {plaintext : String} (each : IsByteText plaintext)
    (short : plaintext.length < 2 ^ 31) :
    Exists fun stored => aesGcmEncrypt aes key.bytes nonce.bytes plaintext = .ok stored ∧
      tagLen ≤ stored.length ∧ aesGcmDecrypt aes key.bytes nonce.bytes stored = .ok plaintext := by
  have fits : (bytesOf plaintext).length < 2 ^ 31 := by
    rw [length_bytesOf]
    exact short
  rcases inverse.inverts key nonce (bytesOf plaintext) fits
    with ⟨ciphertext, tag, encrypted, size, decrypted⟩
  have total : (ciphertext ++ tag.bytes).length = ciphertext.length + tagLen := by
    rw [List.length_append, tag.size_eq, tagLen]
  refine ⟨ciphertext ++ tag.bytes, ?_, ?_, ?_⟩
  · rw [length_bytesOf] at encrypted
    simp only [aesGcmEncrypt, key.size_eq, nonce.size_eq, dif_pos, toInt_of_lt short, encrypted]
  · rw [total]
    exact Nat.le_add_left _ _
  · have encLen : (ciphertext ++ tag.bytes).length - tagLen = ciphertext.length := by
      rw [total, Nat.add_sub_cancel]
    have back : aes.decrypt key nonce ciphertext (toInt ciphertext.length) tag = .ok
        (bytesOf plaintext) := by
      rw [toInt_of_lt (by rw [size]; exact fits)]
      exact decrypted
    have enough : tagLen ≤ (ciphertext ++ tag.bytes).length := by
      rw [total]
      exact Nat.le_add_left _ _
    simp only [aesGcmDecrypt, key.size_eq, nonce.size_eq, dif_pos, enough, encLen,
      List.take_left, List.drop_left,
      back, textOf_bytesOf each]

/-! ## Digits -/

/-- The digit reader that the parsers of keys and columns repeat, each with its
own text for other characters. -/
def nibble (message : String) (c : Char) : Except String UInt8 :=
  (hexNibble c).mapError fun _ => message ++ "'" ++ String.singleton c ++ "'"

/-- Two digits for each byte; a digit that is left over is ignored. -/
def nibblePairs (message : String) : List Char -> Except String (List UInt8)
  | high :: low :: rest => do
      let upper ← nibble message high
      let lower ← nibble message low
      let decoded ← nibblePairs message rest
      return ((upper <<< 4) ||| lower) :: decoded
  | _ => .ok []

theorem nibblePairs_hexPair (message : String) (bytes : List UInt8) :
    nibblePairs message (bytes.flatMap hexPair) = .ok bytes := by
  induction bytes with
  | nil => rfl
  | cons byte rest inductionHypothesis =>
      rcases nibbles byte with ⟨highSmall, lowSmall, joined⟩
      have read : forall {value : UInt8}, value.toNat < 16 ->
          nibble message (hexDigit value) = .ok value := by
        intro value small
        rw [nibble, hexNibble_digit value small]
        rfl
      change nibblePairs message
        (hexDigit (byte >>> 4) :: hexDigit (byte &&& 15) :: rest.flatMap hexPair) = _
      rw [nibblePairs, read highSmall, read lowSmall, inductionHypothesis]
      exact congrArg (fun first => Except.ok (first :: rest)) joined

def parseMasterKeyHex (hex : String) : Except String (Bytes 32) :=
  if hex.length ≠ 64 then
    .error ("parse_master_key_hex: must be exactly 64 hex characters, got " ++ Nat.repr hex.length)
  else do
    let key ← nibblePairs "parse_master_key_hex: invalid hex character " hex.toList
    return (Bytes.zeros 32).overwrite key

end Security
end RiskSentinel
