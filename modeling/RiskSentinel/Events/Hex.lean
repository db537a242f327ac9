import RiskSentinel.Foundation.Bytes

namespace RiskSentinel
namespace Events

open Foundation

/-!
# Hexadecimal text

The decoders of `events/utils/hex.hpp`.  A `String` stands for a
`std::string`, one character for each byte of it.  A thrown
`std::runtime_error` is the error of an `Except`, with the source's text.

`parseHexBytes` writes into a buffer it is given.  The old contents are an
argument here, because a short text leaves its tail as it was, and one of the
callers hands over a buffer that was never initialised.
-/

/-- The value of one hexadecimal digit of either case. -/
def hexNibble (c : Char) : Except String UInt8 :=
  if '0' ≤ c ∧ c ≤ '9' then
    .ok (UInt8.ofNat (c.toNat - '0'.toNat))
  else if 'a' ≤ c ∧ c ≤ 'f' then
    .ok (UInt8.ofNat (c.toNat - 'a'.toNat + 10))
  else if 'A' ≤ c ∧ c ≤ 'F' then
    .ok (UInt8.ofNat (c.toNat - 'A'.toNat + 10))
  else
    .error "invalid hex character"

/-- The marker test shared by the decoders. -/
def hasHexMarker (hex : String) : Bool :=
  hex.toList.take 2 == ['0', 'x']

/-- One digit of a quantity.  The shift drops the bits above the 64th. -/
def shiftInNibble (value : UInt64) (c : Char) : Except String UInt64 := do
  let nibble ← hexNibble c
  return (value <<< 4) ||| nibble.toUInt64

def parseHexUint64 (hex : String) : Except String UInt64 :=
  if hex.length < 3 || !hasHexMarker hex then
    .error "invalid hex uint64"
  else
    (hex.toList.drop 2).foldlM shiftInNibble 0

/-- Decode `count` bytes, two digits each.  The caller never asks for more
bytes than there are digit pairs. -/
def decodePairs : List Char -> Nat -> Except String (List UInt8)
  | _, 0 => .ok []
  | high :: low :: rest, count + 1 => do
      let upper ← hexNibble high
      let lower ← hexNibble low
      let decoded ← decodePairs rest count
      return ((upper <<< 4) ||| lower) :: decoded
  | _, _ + 1 => .ok []

def parseHexBytes {n : Nat} (hex : String) (out : Bytes n) : Except String (Bytes n) :=
  if hex.length < 2 || !hasHexMarker hex then
    .error "invalid hex bytes"
  else if (hex.length - 2) % 2 != 0 then
    .error "hex string has odd length"
  else do
    let decoded ← decodePairs (hex.toList.drop 2) (min ((hex.length - 2) / 2) n)
    return out.overwrite decoded

/-- The digit loop of `validateHex`. -/
def checkDigits : List Char -> Except String Unit
  | [] => .ok ()
  | c :: rest => do
      let _ ← hexNibble c
      checkDigits rest

def validateHex (hex : String) : Except String Unit :=
  if hex.length < 2 || !hasHexMarker hex then
    .error "Expected 0x-prefixed hex string"
  else if (hex.length - 2) % 2 != 0 then
    .error "Hex string has odd length"
  else
    checkDigits (hex.toList.drop 2)

/-! ## Text written by the program -/

/-- The lowercase digit of a value below sixteen. -/
def hexDigit (value : UInt8) : Char :=
  if value < 10 then Char.ofNat ('0'.toNat + value.toNat)
  else Char.ofNat ('a'.toNat + (value.toNat - 10))

/-- The conversion `%02x` of one byte. -/
def hexPair (byte : UInt8) : List Char :=
  [hexDigit (byte >>> 4), hexDigit (byte &&& 15)]

/-- `0x` and two lowercase digits for each byte: the formatting loop that
every rule repeats for the address it looks up or reports. -/
def bytesToHex {n : Nat} (source : Bytes n) : String :=
  "0x" ++ String.ofList (source.bytes.flatMap hexPair)

/-! ## Decoding inverts the encoding -/

private theorem hexNibble_hexDigit : forall value : Fin 16,
    hexNibble (hexDigit (UInt8.ofNat value.val)) = .ok (UInt8.ofNat value.val) := by
  decide

theorem hexNibble_digit (value : UInt8) (small : value.toNat < 16) :
    hexNibble (hexDigit value) = .ok value := by
  simpa using hexNibble_hexDigit ⟨value.toNat, small⟩

private theorem toNat_toLower (c : Char) :
    c.toLower.toNat = if 65 ≤ c.toNat ∧ c.toNat ≤ 90 then c.toNat + 32 else c.toNat := by
  by_cases upper : 65 ≤ c.toNat ∧ c.toNat ≤ 90
  · have folded : c.val ≥ 'A'.val ∧ c.val ≤ 'Z'.val := upper
    have small : c.val.toNat ≤ 90 := upper.2
    rw [if_pos upper]
    have shifted : c.toLower.val = c.val + ('a'.val - 'A'.val) := by
      delta Char.toLower
      rw [dif_pos folded]
    change c.toLower.val.toNat = c.val.toNat + 32
    rw [shifted, UInt32.toNat_add]
    change (c.val.toNat + 32) % 2 ^ 32 = c.val.toNat + 32
    omega
  · have kept : ¬ (c.val ≥ 'A'.val ∧ c.val ≤ 'Z'.val) := upper
    rw [if_neg upper]
    delta Char.toLower
    rw [dif_neg kept]

private theorem hexNibble_eq (c : Char) :
    hexNibble c =
      if 48 ≤ c.toNat ∧ c.toNat ≤ 57 then .ok (UInt8.ofNat (c.toNat - 48))
      else if 97 ≤ c.toNat ∧ c.toNat ≤ 102 then .ok (UInt8.ofNat (c.toNat - 97 + 10))
      else if 65 ≤ c.toNat ∧ c.toNat ≤ 70 then .ok (UInt8.ofNat (c.toNat - 65 + 10))
      else .error "invalid hex character" := rfl

/-- Folding to lower case does not change the value of a digit. -/
theorem hexNibble_toLower (c : Char) : hexNibble c.toLower = hexNibble c := by
  rw [hexNibble_eq, hexNibble_eq, toNat_toLower]
  by_cases upper : 65 ≤ c.toNat ∧ c.toNat ≤ 90
  · rw [if_pos upper]
    by_cases letter : c.toNat ≤ 70
    · have shifted : c.toNat + 32 - 97 = c.toNat - 65 := by omega
      rw [if_neg (by omega), if_pos (by omega), if_neg (by omega), if_neg (by omega),
        if_pos (by omega), shifted]
    · rw [if_neg (by omega), if_neg (by omega), if_neg (by omega), if_neg (by omega),
        if_neg (by omega), if_neg (by omega)]
  · rw [if_neg upper]

/-- `text` is `0x` followed by the digits of `bytes`, in letters of either
case. -/
def SpellsBytes (text : String) (bytes : List UInt8) : Prop :=
  Exists fun digits : List Char =>
    text.toList = '0' :: 'x' :: digits ∧ digits.map Char.toLower = bytes.flatMap hexPair

private theorem nibble_of_lower {c : Char} {value : UInt8} (small : value.toNat < 16)
    (same : c.toLower = hexDigit value) : hexNibble c = .ok value := by
  rw [← hexNibble_toLower, same, hexNibble_digit value small]

theorem length_flatMap_hexPair (bytes : List UInt8) :
    (bytes.flatMap hexPair).length = 2 * bytes.length := by
  induction bytes with
  | nil => rfl
  | cons byte rest inductionHypothesis =>
      rw [List.flatMap_cons, List.length_append, inductionHypothesis, List.length_cons]
      change 2 + 2 * rest.length = 2 * (rest.length + 1)
      omega

/-- The first byte of a spelled string is two digits of the text. -/
private theorem digits_cons {digits : List Char} {byte : UInt8} {rest : List UInt8}
    (same : digits.map Char.toLower = (byte :: rest).flatMap hexPair) :
    Exists fun high => Exists fun low => Exists fun tail =>
      digits = high :: low :: tail ∧ hexNibble high = .ok (byte >>> 4) ∧
        hexNibble low = .ok (byte &&& 15) ∧ tail.map Char.toLower = rest.flatMap hexPair := by
  rw [List.flatMap_cons, hexPair, List.cons_append, List.cons_append, List.nil_append,
    List.map_eq_cons_iff] at same
  rcases same with ⟨high, others, first, highSame, same⟩
  rcases List.map_eq_cons_iff.mp same with ⟨low, tail, second, lowSame, tailSame⟩
  have parts := nibbles byte
  exact ⟨high, low, tail, by rw [first, second], nibble_of_lower parts.1 highSame,
    nibble_of_lower parts.2.1 lowSame, tailSame⟩

private theorem decodePairs_zero (digits : List Char) : decodePairs digits 0 = .ok [] := by
  unfold decodePairs
  rfl

private theorem decodePairs_digits (bytes : List UInt8) (digits : List Char) (count : Nat)
    (same : digits.map Char.toLower = bytes.flatMap hexPair) (available : count ≤ bytes.length) :
    decodePairs digits count = .ok (bytes.take count) := by
  induction bytes generalizing digits count with
  | nil =>
      cases count with
      | zero => exact decodePairs_zero digits
      | succ count => cases available
  | cons byte rest inductionHypothesis =>
      cases count with
      | zero => exact decodePairs_zero digits
      | succ count =>
          rcases digits_cons same with ⟨high, low, tail, shape, upper, lower, tailSame⟩
          have decodedTail := inductionHypothesis tail count tailSame
            (Nat.le_of_succ_le_succ available)
          subst shape
          simp only [decodePairs, upper, lower, decodedTail, bind, Except.bind, pure, Except.pure,
            (nibbles byte).2.2, List.take_succ_cons]

private theorem checkDigits_digits (bytes : List UInt8) (digits : List Char)
    (same : digits.map Char.toLower = bytes.flatMap hexPair) : checkDigits digits = .ok () := by
  induction bytes generalizing digits with
  | nil =>
      cases digits with
      | nil => rfl
      | cons c rest => cases same
  | cons byte rest inductionHypothesis =>
      rcases digits_cons same with ⟨high, low, tail, shape, upper, lower, tailSame⟩
      subst shape
      simp only [checkDigits, upper, lower, bind, Except.bind]
      exact inductionHypothesis tail tailSame

private theorem SpellsBytes.shape {text : String} {bytes : List UInt8}
    (spells : SpellsBytes text bytes) :
    text.length = 2 * bytes.length + 2 ∧ hasHexMarker text = true ∧
      (text.toList.drop 2).map Char.toLower = bytes.flatMap hexPair := by
  rcases spells with ⟨digits, written, same⟩
  have counted : digits.length = 2 * bytes.length := by
    rw [← length_flatMap_hexPair, ← same, List.length_map]
  refine ⟨?_, ?_, ?_⟩
  · rw [← String.length_toList, written, List.length_cons, List.length_cons, counted]
  · simp [hasHexMarker, written]
  · rw [written]
    exact same

theorem SpellsBytes.length_eq {text : String} {bytes : List UInt8}
    (spells : SpellsBytes text bytes) : text.length = 2 * bytes.length + 2 :=
  spells.shape.1

/-- Decoding the text of `bytes` writes them to the front of the buffer. -/
theorem parseHexBytes_spells {n : Nat} {text : String} {bytes : List UInt8} (out : Bytes n)
    (spells : SpellsBytes text bytes) :
    parseHexBytes text out = .ok (out.overwrite (bytes.take n)) := by
  rcases spells.shape with ⟨size, marker, digits⟩
  have cut : min ((2 * bytes.length + 2 - 2) / 2) n = min bytes.length n := by omega
  have decoded := decodePairs_digits bytes _ (min bytes.length n) digits (Nat.min_le_left _ _)
  have taken : bytes.take (min bytes.length n) = bytes.take n := by
    rw [Nat.min_comm, ← List.take_take, List.take_length]
  rw [parseHexBytes, size, marker, cut, decoded, taken]
  simp [bind, Except.bind, pure, Except.pure]

/-- A field of exactly the buffer's width is decoded in full. -/
theorem parseHexBytes_exact {n : Nat} {text : String} (out source : Bytes n)
    (spells : SpellsBytes text source.bytes) : parseHexBytes text out = .ok source := by
  rw [parseHexBytes_spells out spells, List.take_of_length_le (Nat.le_of_eq source.size_eq),
    Bytes.overwrite_full]

theorem validateHex_spells {text : String} {bytes : List UInt8} (spells : SpellsBytes text bytes) :
    validateHex text = .ok () := by
  rcases spells.shape with ⟨size, marker, digits⟩
  rw [validateHex, size, marker]
  simpa using checkDigits_digits bytes _ digits

private theorem toLower_hexDigit : forall value : Fin 16,
    (hexDigit (UInt8.ofNat value.val)).toLower = hexDigit (UInt8.ofNat value.val) := by
  decide

private theorem hexPair_lower (byte : UInt8) : (hexPair byte).map Char.toLower = hexPair byte := by
  have parts := nibbles byte
  have upper := toLower_hexDigit ⟨(byte >>> 4).toNat, parts.1⟩
  have lower := toLower_hexDigit ⟨(byte &&& 15).toNat, parts.2.1⟩
  simp only [UInt8.ofNat_toNat] at upper lower
  simp only [hexPair, List.map_cons, List.map_nil, upper, lower]

theorem toList_bytesToHex {n : Nat} (source : Bytes n) :
    (bytesToHex source).toList = '0' :: 'x' :: source.bytes.flatMap hexPair := by
  simp [bytesToHex]

/-- The text the program writes for an address spells its bytes. -/
theorem bytesToHex_spells {n : Nat} (source : Bytes n) :
    SpellsBytes (bytesToHex source) source.bytes := by
  refine ⟨_, toList_bytesToHex source, ?_⟩
  rw [List.map_flatMap]
  simp only [hexPair_lower]

/-- Different byte strings are written differently. -/
theorem bytesToHex_inj {n : Nat} {left right : Bytes n}
    (same : bytesToHex left = bytesToHex right) : left = right := by
  have fromLeft := parseHexBytes_exact (Bytes.zeros n) left (bytesToHex_spells left)
  have fromRight := parseHexBytes_exact (Bytes.zeros n) right (bytesToHex_spells right)
  rw [same, fromRight] at fromLeft
  exact (Except.ok.inj fromLeft).symm

/-! ## Quantities -/

/-- `text` is `0x` followed by the digits of `value` without leading zeros,
in letters of either case. -/
def SpellsQuantity (text : String) (value : Nat) : Prop :=
  Exists fun digits : List Char =>
    text.toList = '0' :: 'x' :: digits ∧ digits.map Char.toLower = Nat.toDigits 16 value

private theorem hexNibble_digitChar (c : Char) (value : Nat) (small : value < 16)
    (same : c.toLower = value.digitChar) : hexNibble c = .ok (UInt8.ofNat value) := by
  have table : forall digit : Fin 16, hexNibble digit.val.digitChar = .ok
      (UInt8.ofNat digit.val) := by
    decide
  rw [← hexNibble_toLower, same]
  exact table ⟨value, small⟩

private theorem shiftInNibble_digit (value digit : Nat) (c : Char) (small : digit < 16)
    (same : c.toLower = digit.digitChar) (fits : 16 * value + digit < 2 ^ 64) :
    shiftInNibble (UInt64.ofNat value) c = .ok (UInt64.ofNat (16 * value + digit)) := by
  simp only [shiftInNibble, hexNibble_digitChar c digit small same, bind, Except.bind, pure,
    Except.pure, Except.ok.injEq]
  apply UInt64.toNat_inj.mp
  have valueFits : value % 2 ^ 64 = value := Nat.mod_eq_of_lt (by omega)
  have shifted : value <<< 4 % 2 ^ 64 = value <<< 4 := by
    rw [Nat.shiftLeft_eq]
    exact Nat.mod_eq_of_lt (by omega)
  simp only [UInt64.toNat_or, UInt64.toNat_shiftLeft, UInt64.toNat_ofNat', UInt8.toNat_toUInt64,
    UInt8.toNat_ofNat']
  rw [valueFits, Nat.mod_eq_of_lt (show digit < 2 ^ 8 by omega), Nat.mod_eq_of_lt fits]
  change value <<< 4 % 2 ^ 64 ||| digit = 16 * value + digit
  rw [shifted, ← Nat.shiftLeft_add_eq_or_of_lt small, Nat.shiftLeft_eq]
  omega

private theorem foldlM_quantity (value : Nat) (digits : List Char) (fits : value < 2 ^ 64)
    (same : digits.map Char.toLower = Nat.toDigits 16 value) :
    digits.foldlM shiftInNibble 0 = .ok (UInt64.ofNat value) := by
  induction value using Nat.strongRecOn generalizing digits with
  | ind value inductionHypothesis =>
      by_cases single : value < 16
      · rw [Nat.toDigits_of_lt_base single, List.map_eq_singleton_iff] at same
        rcases same with ⟨c, shape, lower⟩
        have step := shiftInNibble_digit 0 value c single lower (by omega)
        rw [shape, List.foldlM_cons]
        simp only [List.foldlM_nil, bind_pure]
        simpa using step
      · rw [Nat.toDigits_of_base_le (by decide) (Nat.le_of_not_lt single), List.map_eq_append_iff]
          at same
        rcases same with ⟨front, back, shape, frontSame, backSame⟩
        rcases List.map_eq_singleton_iff.mp backSame with ⟨c, backShape, lower⟩
        have smaller := inductionHypothesis (value / 16) (by omega) front (by omega) frontSame
        have step := shiftInNibble_digit (value / 16) (value % 16) c (by omega) lower (by omega)
        rw [shape, backShape, List.foldlM_append, smaller]
        have rebuilt : 16 * (value / 16) + value % 16 = value := Nat.div_add_mod value 16
        rw [rebuilt] at step
        simp only [List.foldlM_cons, List.foldlM_nil, bind_pure]
        exact step

/-- `text` is `0x` followed by the digits of `value`, in letters of either
case and possibly behind leading zeros. -/
def SpellsNumber (text : String) (value : Nat) : Prop :=
  Exists fun digits : List Char => Exists fun padding : Nat =>
    text.toList = '0' :: 'x' :: digits ∧
      digits.map Char.toLower = List.replicate padding '0' ++ Nat.toDigits 16 value

theorem SpellsQuantity.spellsNumber {text : String} {value : Nat}
    (spells : SpellsQuantity text value) : SpellsNumber text value := by
  rcases spells with ⟨digits, written, same⟩
  exact ⟨digits, 0, written, by rw [same, List.replicate_zero, List.nil_append]⟩

private theorem foldlM_padded (padding value : Nat) (digits : List Char) (fits : value < 2 ^ 64)
    (same : digits.map Char.toLower = List.replicate padding '0' ++ Nat.toDigits 16 value) :
    digits.foldlM shiftInNibble 0 = .ok (UInt64.ofNat value) := by
  induction padding generalizing digits with
  | zero => exact foldlM_quantity value digits fits same
  | succ padding inductionHypothesis =>
      rw [List.replicate_succ, List.cons_append] at same
      rcases List.map_eq_cons_iff.mp same with ⟨c, rest, shape, lower, others⟩
      have step := shiftInNibble_digit 0 0 c (by decide) lower (by decide)
      have remaining := inductionHypothesis rest others
      have start : shiftInNibble 0 c = .ok 0 := step
      rw [shape, List.foldlM_cons, start]
      exact remaining

/-- A number of 64 bits is read back, whatever zeros stand before it. -/
theorem parseHexUint64_number {text : String} {value : UInt64}
    (spells : SpellsNumber text value.toNat) : parseHexUint64 text = .ok value := by
  rcases spells with ⟨digits, padding, written, same⟩
  have nonempty : digits ≠ [] := by
    intro isNil
    rw [isNil, List.map_nil, eq_comm, List.append_eq_nil_iff] at same
    exact Nat.toDigits_ne_nil same.2
  have positive : 0 < digits.length := List.length_pos_iff.mpr nonempty
  have size : text.length = digits.length + 2 := by
    rw [← String.length_toList, written, List.length_cons, List.length_cons]
  have marker : hasHexMarker text = true := by simp [hasHexMarker, written]
  have long : ¬ digits.length + 2 < 3 := by omega
  rw [parseHexUint64, size, marker, written]
  simpa [long] using foldlM_padded padding value.toNat digits value.toNat_lt same

/-! ## Accepted text -/

private theorem hexNibble_small {c : Char} {value : UInt8} (read : hexNibble c = .ok value) :
    c.toNat < 128 := by
  rw [hexNibble_eq] at read
  by_cases small : c.toNat < 128
  · exact small
  · rw [if_neg (by omega), if_neg (by omega), if_neg (by omega)] at read
    cases read

/-- A digit that is read is, in lower case, the digit of its value. -/
private theorem lower_of_hexNibble {c : Char} {value : UInt8} (read : hexNibble c = .ok value) :
    c.toLower = hexDigit value ∧ value.toNat < 16 := by
  have table : forall code : Fin 128, (hexNibble (Char.ofNat code.val)).toOption.all (fun digit =>
      decide ((Char.ofNat code.val).toLower = hexDigit digit ∧ digit.toNat < 16)) = true := by
    decide +kernel
  have found := table ⟨c.toNat, hexNibble_small read⟩
  simp only [Char.ofNat_toNat, read] at found
  exact of_decide_eq_true found

private theorem hexPair_join {upper lower : UInt8} (upperSmall : upper.toNat < 16)
    (lowerSmall : lower.toNat < 16) :
    hexPair ((upper <<< 4) ||| lower) = [hexDigit upper, hexDigit lower] := by
  have table : forall high low : Fin 16,
      hexPair (((UInt8.ofNat high.val) <<< 4) ||| (UInt8.ofNat low.val)) =
        [hexDigit (UInt8.ofNat high.val), hexDigit (UInt8.ofNat low.val)] := by
    decide +kernel
  simpa using table ⟨upper.toNat, upperSmall⟩ ⟨lower.toNat, lowerSmall⟩

private theorem digits_of_decodePairs (count : Nat) (digits : List Char) (bytes : List UInt8)
    (size : digits.length = 2 * count) (decoded : decodePairs digits count = .ok bytes) :
    digits.map Char.toLower = bytes.flatMap hexPair ∧ bytes.length = count := by
  induction count generalizing digits bytes with
  | zero =>
      rw [decodePairs_zero] at decoded
      cases decoded
      rw [List.eq_nil_of_length_eq_zero size]
      exact ⟨rfl, rfl⟩
  | succ count inductionHypothesis =>
      match digits, size with
      | high :: low :: rest, size =>
          unfold decodePairs at decoded
          cases upperRead : hexNibble high with
          | error cause =>
              rw [upperRead] at decoded
              cases decoded
          | ok upper =>
              cases lowerRead : hexNibble low with
              | error cause =>
                  rw [upperRead, lowerRead] at decoded
                  cases decoded
              | ok lower =>
                  cases others : decodePairs rest count with
                  | error cause =>
                      rw [upperRead, lowerRead, others] at decoded
                      cases decoded
                  | ok tail =>
                      rw [upperRead, lowerRead, others] at decoded
                      cases decoded
                      have following := inductionHypothesis rest tail
                        (by simp only [List.length_cons] at size; omega) others
                      rcases lower_of_hexNibble upperRead with ⟨upperSame, upperSmall⟩
                      rcases lower_of_hexNibble lowerRead with ⟨lowerSame, lowerSmall⟩
                      refine ⟨?_, by rw [List.length_cons, following.2]⟩
                      rw [List.map_cons, List.map_cons, following.1, upperSame, lowerSame,
                        List.flatMap_cons,
                        hexPair_join upperSmall lowerSmall]
                      rfl

/-- A field that is accepted at exactly its width spells what was decoded. -/
theorem spells_of_parseHexBytes {n : Nat} {text : String} {out source : Bytes n}
    (size : text.length = 2 * n + 2) (decoded : parseHexBytes text out = .ok source) :
    SpellsBytes text source.bytes := by
  unfold parseHexBytes at decoded
  by_cases marked : (text.length < 2 || !hasHexMarker text) = true
  · rw [if_pos marked] at decoded
    cases decoded
  · rw [if_neg marked] at decoded
    by_cases odd : ((text.length - 2) % 2 != 0) = true
    · rw [if_pos odd] at decoded
      cases decoded
    · rw [if_neg odd] at decoded
      have digitCount : (text.toList.drop 2).length = 2 * n := by
        rw [List.length_drop, String.length_toList, size]
        omega
      have count : min ((text.length - 2) / 2) n = n := by
        rw [size]
        omega
      rw [count] at decoded
      cases pairs : decodePairs (text.toList.drop 2) n with
      | error cause =>
          rw [pairs] at decoded
          cases decoded
      | ok bytes =>
          rw [pairs] at decoded
          cases decoded
          have read := digits_of_decodePairs n _ bytes digitCount pairs
          have marker : text.toList.take 2 = ['0', 'x'] := by
            simpa [hasHexMarker, size] using marked
          refine ⟨text.toList.drop 2, ?_, ?_⟩
          · rw [← List.take_append_drop 2 text.toList, marker]
            simp
          · rw [read.1, Bytes.overwrite_full out ⟨bytes, read.2⟩]

/-- In lower case the text of a byte string is what the program would write
for it. -/
theorem SpellsBytes.lower_eq {n : Nat} {text : String} {source : Bytes n}
    (spells : SpellsBytes text source.bytes) :
    text.toList.map Char.toLower = (bytesToHex source).toList := by
  rcases spells with ⟨digits, written, same⟩
  rw [written, List.map_cons, List.map_cons, same, toList_bytesToHex]
  rfl

/-! ## Addresses in configuration -/

/-- The fold to lower case that the rule loaders apply to an address. -/
def lower (text : String) : String :=
  String.ofList (text.toList.map Char.toLower)

theorem SpellsBytes.lower_text {n : Nat} {text : String} {source : Bytes n}
    (spells : SpellsBytes text source.bytes) : lower text = bytesToHex source := by
  rw [lower, spells.lower_eq, String.ofList_toList]

/-- `0x` and forty hexadecimal digits of either case. -/
def IsHexAddress (text : String) : Prop :=
  text.length = 42 ∧ hasHexMarker text = true ∧ forall c, c ∈ text.toList.drop 2 ->
    ('0' ≤ c ∧ c ≤ '9') ∨ ('a' ≤ c ∧ c ≤ 'f') ∨ ('A' ≤ c ∧ c ≤ 'F')

instance (text : String) : Decidable (IsHexAddress text) :=
  decidable_of_iff (text.length = 42 ∧ hasHexMarker text = true ∧ (text.toList.drop 2).all (fun c =>
      decide (('0' ≤ c ∧ c ≤ '9') ∨ ('a' ≤ c ∧ c ≤ 'f') ∨ ('A' ≤ c ∧ c ≤ 'F'))) = true)
    (by simp only [IsHexAddress, List.all_eq_true, decide_eq_true_eq])

private theorem hexNibble_of_digit {c : Char}
    (digit : ('0' ≤ c ∧ c ≤ '9') ∨ ('a' ≤ c ∧ c ≤ 'f') ∨ ('A' ≤ c ∧ c ≤ 'F')) :
    Exists fun value => hexNibble c = .ok value := by
  unfold hexNibble
  by_cases decimal : '0' ≤ c ∧ c ≤ '9'
  · exact ⟨_, if_pos decimal⟩
  · rw [if_neg decimal]
    by_cases small : 'a' ≤ c ∧ c ≤ 'f'
    · exact ⟨_, if_pos small⟩
    · rw [if_neg small]
      exact ⟨_, if_pos ((digit.resolve_left decimal).resolve_left small)⟩

private theorem decodePairs_of_digits (count : Nat) (digits : List Char)
    (size : digits.length = 2 * count)
    (each : forall c, c ∈ digits -> Exists fun value => hexNibble c = .ok value) :
    Exists fun bytes => decodePairs digits count = .ok bytes := by
  induction count generalizing digits with
  | zero => exact ⟨[], decodePairs_zero digits⟩
  | succ count inductionHypothesis =>
      match digits, size with
      | high :: low :: rest, size =>
          rcases each high List.mem_cons_self with ⟨upper, upperRead⟩
          rcases each low (List.mem_cons_of_mem _ List.mem_cons_self) with ⟨under, underRead⟩
          rcases inductionHypothesis rest (by simp only [List.length_cons] at size; omega)
            (fun c member => each c (List.mem_cons_of_mem _ (List.mem_cons_of_mem _ member)))
              with ⟨tail, others⟩
          refine ⟨((upper <<< 4) ||| under) :: tail, ?_⟩
          simp only [decodePairs, upperRead, underRead, others, bind, Except.bind,
            pure, Except.pure]

/-- Text of which every digit is read spells as many bytes as it has pairs of
digits. -/
private theorem spells_of_digits {n : Nat} {text : String} (size : text.length = 2 * n + 2)
    (marker : hasHexMarker text = true)
    (each : forall c, c ∈ text.toList.drop 2 -> Exists fun value => hexNibble c = .ok value) :
    Exists fun source : Bytes n => SpellsBytes text source.bytes := by
  have digitCount : (text.toList.drop 2).length = 2 * n := by
    rw [List.length_drop, String.length_toList, size]
    omega
  rcases decodePairs_of_digits n _ digitCount each with ⟨bytes, decoded⟩
  rcases digits_of_decodePairs n _ bytes digitCount decoded with ⟨same, counted⟩
  refine ⟨⟨bytes, counted⟩, text.toList.drop 2, ?_, same⟩
  have front : text.toList.take 2 = ['0', 'x'] := beq_iff_eq.mp marker
  rw [← List.take_append_drop 2 text.toList, front]
  simp

/-- An address of the expected form spells twenty bytes. -/
theorem IsHexAddress.spells {text : String} (address : IsHexAddress text) :
    Exists fun source : Bytes 20 => SpellsBytes text source.bytes := by
  rcases address with ⟨size, marker, each⟩
  exact spells_of_digits size marker fun c member => hexNibble_of_digit (each c member)

private theorem hexNibble_of_checkDigits {digits : List Char}
    (passed : checkDigits digits = .ok ()) :
    forall c, c ∈ digits -> Exists fun value => hexNibble c = .ok value := by
  induction digits with
  | nil =>
      intro c member
      cases member
  | cons first rest inductionHypothesis =>
      intro c member
      cases read : hexNibble first with
      | error cause =>
          simp only [checkDigits, read, bind, Except.bind] at passed
          cases passed
      | ok value =>
          simp only [checkDigits, read, bind, Except.bind] at passed
          rcases List.mem_cons.mp member with rfl | later
          · exact ⟨value, read⟩
          · exact inductionHypothesis passed c later

/-- Text that passes the validation at its width spells bytes. -/
theorem spells_of_validateHex {n : Nat} {text : String} (size : text.length = 2 * n + 2)
    (passed : validateHex text = .ok ()) : Exists fun source : Bytes n =>
    SpellsBytes text source.bytes := by
  unfold validateHex at passed
  by_cases marked : (text.length < 2 || !hasHexMarker text) = true
  · rw [if_pos marked] at passed
    cases passed
  · rw [if_neg marked] at passed
    by_cases odd : ((text.length - 2) % 2 != 0) = true
    · rw [if_pos odd] at passed
      cases passed
    · rw [if_neg odd] at passed
      have marker : hasHexMarker text = true := by
        simpa [size] using marked
      exact spells_of_digits size marker (hexNibble_of_checkDigits passed)

theorem lower_lower (text : String) : lower (lower text) = lower text := by
  have again : forall c : Char, c.toLower.toLower = c.toLower := by
    intro c
    apply Char.toNat_inj.mp
    rw [toNat_toLower, toNat_toLower]
    by_cases upper : 65 ≤ c.toNat ∧ c.toNat ≤ 90
    · rw [if_pos upper, if_neg (by omega)]
    · rw [if_neg upper, if_neg upper]
  simp only [lower, String.toList_ofList, List.map_map, Function.comp_def, again]

end Events
end RiskSentinel
