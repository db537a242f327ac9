import Mathlib.Data.List.TakeWhile
import RiskSentinel.Events.Normalize

namespace RiskSentinel
namespace Chains

open Foundation Events Risk

/-!
# Two readers of hexadecimal quantities

Block numbers, times and indices arrive as `0x` and hexadecimal digits.  The
normalizer reads them with `parse_hex_uint64`, which shifts digit after digit
into 64 bits and does not notice the ones that fall out.  The chain adapters
read them with `parseHexU64`, which hands everything behind the marker to
`std::stoull`.  That function does notice an overflow, but it skips blanks,
takes a sign and a second marker, and stops at the first character that is no
digit.

The two are wrong on different texts.  Both are exact, and they agree, on a
text exactly when it is neither a number above 64 bits nor one of those that
only `stoull` can read.
-/

/-! ## What a text should mean -/

def isHexDigit (c : Char) : Bool :=
  (hexNibble c).isOk

/-- The value of a digit, and nothing for other characters. -/
def hexDigitValue (c : Char) : Nat :=
  match hexNibble c with
  | .ok nibble => nibble.toNat
  | .error _ => 0

/-- The number that digits spell behind a number that was read before them. -/
def hexValue (digits : List Char) (start : Nat) : Nat :=
  digits.foldl (fun value c => 16 * value + hexDigitValue c) start

/-- The text is `0x` and one or more digits that spell the number. -/
def SpellsHex (text : String) (value : Nat) : Prop :=
  Exists fun digits => text.toList = '0' :: 'x' :: digits ∧ digits ≠ [] ∧
    digits.all isHexDigit = true ∧
    hexValue digits 0 = value

/-- A reader returns the number that the text spells and throws on every
other text. -/
def ParsesExactly (parser : String -> Except String UInt64) (text : String) : Prop :=
  forall value : UInt64, parser text = .ok value ↔ SpellsHex text value.toNat

/-! ## `std::stoull` to the base 16 -/

/-- The characters that `isspace` accepts in the default locale. -/
def isBlank (c : Char) : Bool :=
  [' ', '\t', '\n', '\x0b', '\x0c', '\r'].contains c

/-- An optional sign. -/
def takeSign : List Char -> Bool × List Char
  | '+' :: rest => (false, rest)
  | '-' :: rest => (true, rest)
  | rest => (false, rest)

/-- The optional marker belongs to the number only when a digit follows. -/
def dropMarker : List Char -> List Char
  | '0' :: 'x' :: c :: rest => if isHexDigit c then c :: rest else '0' :: 'x' :: c :: rest
  | '0' :: 'X' :: c :: rest => if isHexDigit c then c :: rest else '0' :: 'X' :: c :: rest
  | rest => rest

/-- The digits that `stoull` reads. -/
def stoullDigits (text : List Char) : List Char :=
  (dropMarker (takeSign (text.dropWhile isBlank)).2).takeWhile isHexDigit

/-- No digits are an `invalid_argument`, too large a number is an
`out_of_range`; both carry the name of the function.  A minus sign negates
modulo the width. -/
def stoull (text : List Char) : Except String UInt64 :=
  let digits := stoullDigits text
  if digits = [] then .error "stoull"
  else if 2 ^ 64 ≤ hexValue digits 0 then .error "stoull"
  else if (takeSign (text.dropWhile isBlank)).1 then .ok (0 - UInt64.ofNat (hexValue digits 0))
  else .ok (UInt64.ofNat (hexValue digits 0))

/-- The reader of the Ethereum and Arbitrum adapters. -/
def parseHexU64 (hex : String) : Except String UInt64 :=
  if hex.length < 3 || !hasHexMarker hex then
    .error ("Expected 0x-prefixed hex string, got: " ++ hex)
  else
    stoull (hex.toList.drop 2)

/-! ## Shifting digits into 64 bits -/

private theorem hexNibble_lt {c : Char} {nibble : UInt8} (read : hexNibble c = .ok nibble) :
    nibble.toNat < 16 := by
  unfold hexNibble at read
  split at read
  · rename_i range
    cases read
    have upper : c.toNat ≤ 57 := range.2
    simp only [UInt8.toNat_ofNat']
    change (c.toNat - 48) % 256 < 16
    omega
  · split at read
    · rename_i range
      cases read
      have upper : c.toNat ≤ 102 := range.2
      simp only [UInt8.toNat_ofNat']
      change (c.toNat - 97 + 10) % 256 < 16
      omega
    · split at read
      · rename_i range
        cases read
        have upper : c.toNat ≤ 70 := range.2
        simp only [UInt8.toNat_ofNat']
        change (c.toNat - 65 + 10) % 256 < 16
        omega
      · cases read

/-- One digit, whether or not something falls out on the left. -/
private theorem shiftInNibble_wraps (start : Nat) {c : Char} (digit : isHexDigit c = true) :
    shiftInNibble (UInt64.ofNat start) c = .ok (UInt64.ofNat (16 * start + hexDigitValue c)) := by
  unfold isHexDigit at digit
  unfold shiftInNibble hexDigitValue
  cases read : hexNibble c with
  | error message =>
      rw [read] at digit
      cases digit
  | ok nibble =>
      have small := hexNibble_lt read
      simp only [bind, Except.bind, pure, Except.pure, Except.ok.injEq]
      apply UInt64.toNat_inj.mp
      simp only [UInt64.toNat_or, UInt64.toNat_shiftLeft, UInt64.toNat_ofNat', UInt8.toNat_toUInt64]
      change (start % 2 ^ 64) <<< 4 % 2 ^ 64 ||| nibble.toNat = _
      -- The four low bits of the shifted number are free for the digit.
      have low : (start % 2 ^ 64) <<< 4 % 2 ^ 64 = (start % 2 ^ 60) <<< 4 := by
        rw [Nat.shiftLeft_eq, Nat.shiftLeft_eq]
        omega
      rw [low, ← Nat.shiftLeft_add_eq_or_of_lt small, Nat.shiftLeft_eq]
      omega

private theorem foldlM_shiftInNibble (digits : List Char) (start : Nat) :
    (digits.all isHexDigit = true ->
      digits.foldlM shiftInNibble (UInt64.ofNat start) = .ok
        (UInt64.ofNat (hexValue digits start))) ∧
      (digits.all isHexDigit = false ->
        forall value, digits.foldlM shiftInNibble (UInt64.ofNat start) ≠ .ok value) := by
  induction digits generalizing start with
  | nil => exact ⟨fun _ => rfl, fun impossible => by cases impossible⟩
  | cons c rest inductionHypothesis =>
      rw [List.all_cons, List.foldlM_cons]
      cases digit : isHexDigit c with
      | true =>
          have others := inductionHypothesis (16 * start + hexDigitValue c)
          rw [shiftInNibble_wraps start digit, Bool.true_and]
          exact others
      | false =>
          refine ⟨fun impossible => (by cases impossible), fun _ value accepted => ?_⟩
          rcases bind_eq_ok.mp accepted with ⟨shifted, step, _⟩
          unfold isHexDigit at digit
          unfold shiftInNibble at step
          rcases bind_eq_ok.mp step with ⟨nibble, read, _⟩
          rw [read] at digit
          cases digit

/-! ## Reading with `stoull` -/

private theorem stoull_eq_ok_iff (text : List Char) :
    (Exists fun value => stoull text = .ok value) ↔
      stoullDigits text ≠ [] ∧ hexValue (stoullDigits text) 0 < 2 ^ 64 := by
  unfold stoull
  dsimp only
  by_cases empty : stoullDigits text = []
  · rw [if_pos empty]
    constructor
    · rintro ⟨value, impossible⟩
      cases impossible
    · intro both
      exact absurd empty both.1
  · rw [if_neg empty]
    by_cases large : 2 ^ 64 ≤ hexValue (stoullDigits text) 0
    · rw [if_pos large]
      constructor
      · rintro ⟨value, impossible⟩
        cases impossible
      · intro both
        exact absurd both.2 (Nat.not_lt.mpr large)
    · rw [if_neg large]
      refine ⟨fun _ => ⟨empty, Nat.lt_of_not_le large⟩, fun _ => ?_⟩
      split
      · exact ⟨_, rfl⟩
      · exact ⟨_, rfl⟩

private theorem isBlank_of_digit {c : Char} (digit : isHexDigit c = true) : isBlank c = false := by
  apply Bool.eq_false_iff.mpr
  intro blank
  have none : [' ', '\t', '\n', '\x0b', '\x0c', '\r'].all (fun other => !isHexDigit other) = true :=
    by decide
  have outside := List.all_eq_true.mp none c (List.contains_iff_mem.mp blank)
  rw [digit] at outside
  cases outside

private theorem takeSign_digits {rest : List Char} (digits : rest.all isHexDigit = true) :
    takeSign rest = (false, rest) := by
  unfold takeSign
  split
  · cases digits
  · cases digits
  · rfl

private theorem dropMarker_digits {rest : List Char} (digits : rest.all isHexDigit = true) :
    dropMarker rest = rest := by
  unfold dropMarker
  split
  · cases digits
  · cases digits
  · rfl

/-- Where there are only digits, `stoull` reads all of them. -/
private theorem stoull_digits {rest : List Char} (digits : rest.all isHexDigit = true)
    (nonempty : rest ≠ []) :
    stoull rest =
      if 2 ^ 64 ≤ hexValue rest 0 then .error "stoull"
        else .ok (UInt64.ofNat (hexValue rest 0)) := by
  have noBlank : rest.dropWhile isBlank = rest := by
    cases rest with
    | nil => rfl
    | cons c others =>
        rw [List.all_cons, Bool.and_eq_true] at digits
        rw [List.dropWhile_cons, isBlank_of_digit digits.1]
        rfl
  have all : stoullDigits rest = rest := by
    unfold stoullDigits
    rw [noBlank, takeSign_digits digits, dropMarker_digits digits]
    apply List.takeWhile_eq_self_iff.mpr
    exact List.all_eq_true.mp digits
  unfold stoull
  dsimp only
  rw [all, noBlank, takeSign_digits digits, if_neg nonempty]
  rfl

/-! ## Where the readers are exact -/

/-- The text is `0x` and digits of a number above 64 bits. -/
def Overflows (text : String) : Prop :=
  Exists fun digits => text.toList = '0' :: 'x' :: digits ∧ digits.all isHexDigit = true ∧
    2 ^ 64 ≤ hexValue digits 0

/-- Not only digits follow the marker, and yet `stoull` finds a number of at
most 64 bits behind blanks, a sign or a second marker, or before other
characters. -/
def ReadsLeniently (text : String) : Prop :=
  Exists fun rest => text.toList = '0' :: 'x' :: rest ∧ rest.all isHexDigit = false ∧
    stoullDigits rest ≠ [] ∧ hexValue (stoullDigits rest) 0 < 2 ^ 64

/-- The two readers accept the same texts with the same values. -/
def Agree (text : String) : Prop :=
  forall value, parseHexUint64 text = .ok value ↔ parseHexU64 text = .ok value

private theorem marked_or_rejected (text : String) :
    (Exists fun rest => text.toList = '0' :: 'x' :: rest ∧ rest ≠ [] ∧
      (text.length < 3 || !hasHexMarker text) = false) ∨
      ((text.length < 3 || !hasHexMarker text) = true ∧
        forall rest, text.toList = '0' :: 'x' :: rest -> rest = []) := by
  cases test : (text.length < 3 || !hasHexMarker text) with
  | true =>
      refine Or.inr ⟨rfl, fun rest written => ?_⟩
      have marker : hasHexMarker text = true := by simp [hasHexMarker, written]
      have size : text.length = rest.length + 2 := by
        rw [← String.length_toList, written, List.length_cons, List.length_cons]
      simp only [size, marker, Bool.not_true, Bool.or_false, decide_eq_true_eq] at test
      exact List.length_eq_zero_iff.mp (by omega)
  | false =>
      simp only [Bool.or_eq_false_iff, decide_eq_false_iff_not, Bool.not_eq_false'] at test
      have front : text.toList.take 2 = ['0', 'x'] := beq_iff_eq.mp test.2
      have written : text.toList = '0' :: 'x' :: text.toList.drop 2 := by
        rw [← List.take_append_drop 2 text.toList, front]
        simp
      refine Or.inl ⟨text.toList.drop 2, written, ?_, rfl⟩
      apply List.ne_nil_of_length_pos
      rw [List.length_drop, String.length_toList]
      omega

private theorem spellsHex_iff {text : String} {rest : List Char}
    (written : text.toList = '0' :: 'x' :: rest) (nonempty : rest ≠ []) (value : Nat) :
    SpellsHex text value ↔ rest.all isHexDigit = true ∧ hexValue rest 0 = value := by
  constructor
  · rintro ⟨digits, other, _, all, spelled⟩
    rw [written] at other
    cases other
    exact ⟨all, spelled⟩
  · rintro ⟨all, spelled⟩
    exact ⟨rest, written, nonempty, all, spelled⟩

private theorem ofNat_eq_iff {number : Nat} (fits : number < 2 ^ 64) (value : UInt64) :
    UInt64.ofNat number = value ↔ number = value.toNat := by
  constructor
  · rintro rfl
    rw [UInt64.toNat_ofNat']
    exact (Nat.mod_eq_of_lt fits).symm
  · rintro rfl
    exact UInt64.ofNat_toNat

section Marked

variable {text : String} {rest : List Char} (written : text.toList = '0' :: 'x' :: rest)
    (nonempty : rest ≠ [])
  (passes : (text.length < 3 || !hasHexMarker text) = false)

include written passes

private theorem parseHexUint64_marked : parseHexUint64 text = rest.foldlM shiftInNibble
    (UInt64.ofNat 0) := by
  unfold parseHexUint64
  rw [passes, written]
  rfl

private theorem parseHexU64_marked : parseHexU64 text = stoull rest := by
  unfold parseHexU64
  rw [passes, written]
  rfl

include nonempty

private theorem parseHexUint64_exact_marked : ParsesExactly parseHexUint64 text ↔
    ¬ Overflows text := by
  have parsed := parseHexUint64_marked written passes
  have shifted := foldlM_shiftInNibble rest 0
  cases all : rest.all isHexDigit with
  | false =>
      refine iff_of_true (fun value => ?_) ?_
      · rw [parsed, spellsHex_iff written nonempty, all]
        exact iff_of_false (shifted.2 all value) (fun both => by cases both.1)
      · rintro ⟨digits, other, digitsOnly, _⟩
        rw [written] at other
        cases other
        rw [all] at digitsOnly
        cases digitsOnly
  | true =>
      rw [shifted.1 all] at parsed
      by_cases large : 2 ^ 64 ≤ hexValue rest 0
      · -- The reader returns what is left of the number.
        refine iff_of_false (fun exactly => ?_) (fun fits => fits ⟨rest, written, all, large⟩)
        have spelled := ((spellsHex_iff written nonempty _).mp ((exactly _).mp parsed)).2
        rw [spelled] at large
        exact absurd (UInt64.toNat_lt _) (Nat.not_lt.mpr large)
      · refine iff_of_true (fun value => ?_) ?_
        · rw [parsed, spellsHex_iff written nonempty, all, Except.ok.injEq,
            ofNat_eq_iff (Nat.lt_of_not_le large)]
          exact (and_iff_right rfl).symm
        · rintro ⟨digits, other, _, overflow⟩
          rw [written] at other
          cases other
          exact large overflow

private theorem parseHexU64_exact_marked : ParsesExactly parseHexU64 text ↔
    ¬ ReadsLeniently text := by
  have parsed := parseHexU64_marked written passes
  cases all : rest.all isHexDigit with
  | false =>
      have never : forall value : UInt64, ¬ SpellsHex text value.toNat := by
        intro value spelled
        have digitsOnly := ((spellsHex_iff written nonempty _).mp spelled).1
        rw [all] at digitsOnly
        cases digitsOnly
      have lenient : ReadsLeniently text ↔ Exists fun value => stoull rest = .ok value := by
        rw [stoull_eq_ok_iff]
        constructor
        · rintro ⟨other, same, _, found⟩
          rw [written] at same
          cases same
          exact found
        · intro found
          exact ⟨rest, written, all, found⟩
      rw [lenient]
      constructor
      · rintro exactly ⟨value, accepted⟩
        exact never value ((exactly value).mp (parsed.trans accepted))
      · intro rejects value
        exact iff_of_false (fun accepted => rejects ⟨value, parsed.symm.trans accepted⟩)
          (never value)
  | true =>
      rw [stoull_digits all nonempty] at parsed
      refine iff_of_true (fun value => ?_) ?_
      · rw [parsed, spellsHex_iff written nonempty, all]
        by_cases large : 2 ^ 64 ≤ hexValue rest 0
        · rw [if_pos large]
          refine iff_of_false (fun impossible => by cases impossible) (fun both => ?_)
          rw [both.2] at large
          exact absurd value.toNat_lt (Nat.not_lt.mpr large)
        · rw [if_neg large, Except.ok.injEq, ofNat_eq_iff (Nat.lt_of_not_le large)]
          exact (and_iff_right rfl).symm
      · rintro ⟨other, same, notOnly, _⟩
        rw [written] at same
        cases same
        rw [all] at notOnly
        cases notOnly

end Marked

section Unmarked

variable {text : String} (bare : forall rest, text.toList = '0' :: 'x' :: rest -> rest = [])

include bare

private theorem not_spellsHex_of_bare (value : Nat) : ¬ SpellsHex text value := by
  rintro ⟨digits, written, nonempty, _⟩
  exact nonempty (bare digits written)

private theorem not_overflows_of_bare : ¬ Overflows text := by
  rintro ⟨digits, written, _, large⟩
  rw [bare digits written] at large
  exact absurd large (by decide)

private theorem not_readsLeniently_of_bare : ¬ ReadsLeniently text := by
  rintro ⟨rest, written, notOnly, _⟩
  rw [bare rest written] at notOnly
  cases notOnly

end Unmarked

theorem parseHexUint64_exact_iff (text : String) : ParsesExactly parseHexUint64 text ↔
    ¬ Overflows text := by
  rcases marked_or_rejected text with ⟨rest, written, nonempty, passes⟩ | ⟨rejected, bare⟩
  · exact parseHexUint64_exact_marked written nonempty passes
  · refine iff_of_true (fun value => ?_) (not_overflows_of_bare bare)
    refine iff_of_false (fun accepted => ?_) (not_spellsHex_of_bare bare _)
    unfold parseHexUint64 at accepted
    rw [rejected] at accepted
    cases accepted

theorem parseHexU64_exact_iff (text : String) : ParsesExactly parseHexU64 text ↔
    ¬ ReadsLeniently text := by
  rcases marked_or_rejected text with ⟨rest, written, nonempty, passes⟩ | ⟨rejected, bare⟩
  · exact parseHexU64_exact_marked written nonempty passes
  · refine iff_of_true (fun value => ?_) (not_readsLeniently_of_bare bare)
    refine iff_of_false (fun accepted => ?_) (not_spellsHex_of_bare bare _)
    unfold parseHexU64 at accepted
    rw [rejected] at accepted
    cases accepted

/-- The readers are never wrong on the same text. -/
private theorem not_both_wrong {text : String} (overflows : Overflows text) :
    ¬ ReadsLeniently text := by
  rcases overflows with ⟨digits, written, all, _⟩
  rintro ⟨rest, same, notOnly, _⟩
  rw [written] at same
  cases same
  rw [all] at notOnly
  cases notOnly

theorem agree_iff (text : String) : Agree text ↔ ¬ Overflows text ∧ ¬ ReadsLeniently text := by
  constructor
  · intro agree
    have together : ParsesExactly parseHexUint64 text ↔ ParsesExactly parseHexU64 text := by
      apply forall_congr'
      intro value
      rw [agree value]
    rw [parseHexUint64_exact_iff, parseHexU64_exact_iff, not_iff_not] at together
    have neither : ¬ Overflows text := fun overflows =>
      not_both_wrong overflows (together.mp overflows)
    exact ⟨neither, fun lenient => neither (together.mpr lenient)⟩
  · rintro ⟨fits, strict⟩ value
    exact ((parseHexUint64_exact_iff text).mpr fits value).trans
      ((parseHexU64_exact_iff text).mpr strict value).symm

/-- The check on the indices is made on what the reader returned. -/
private theorem indices_le_of_normalize {raw : RawLog} {chainId blockTimestamp : UInt64}
    {scratch : Bytes 32} {signal : Signal}
    (normalized : Events.normalize raw chainId blockTimestamp scratch = .ok signal) :
    Exists fun txIndex => Exists fun logIndex =>
      parseHexUint64 raw.transactionIndex = .ok txIndex ∧
      parseHexUint64 raw.logIndex = .ok logIndex ∧
        txIndex ≤ 0xFFFFFFFF ∧ logIndex ≤ 0xFFFFFFFF := by
  unfold Events.normalize at normalized
  rcases bind_eq_ok.mp normalized with ⟨_, _, normalized⟩
  rcases bind_eq_ok.mp normalized with ⟨_, _, normalized⟩
  rcases bind_eq_ok.mp normalized with ⟨evm, decoded, _⟩
  unfold decodeEvmLog at decoded
  rcases bind_eq_ok.mp decoded with ⟨txIndex, txRead, decoded⟩
  rcases bind_eq_ok.mp decoded with ⟨logIndex, logRead, decoded⟩
  by_cases outOfRange : (0xFFFFFFFF < txIndex || 0xFFFFFFFF < logIndex) = true
  · rw [if_pos outOfRange] at decoded
    cases decoded
  · simp only [Bool.or_eq_true, decide_eq_true_eq, not_or, UInt64.not_lt] at outOfRange
    exact ⟨txIndex, logIndex, txRead, logRead, outOfRange.1, outOfRange.2⟩

/-- A small number is not above 64 bits. -/
private theorem fits_of_small {text : String} {value : Nat} (spelled : SpellsHex text value)
    (small : value ≤ 2 ^ 32 - 1) : ¬ Overflows text := by
  rintro ⟨others, written, _, large⟩
  rcases spelled with ⟨digits, spelling, _, _, same⟩
  rw [spelling] at written
  cases written
  omega

/-- Both readers are exact on a text exactly when it is neither too large nor
readable by `stoull` alone, and exactly then they agree.  An accepted log has
two indices of at most 32 bits exactly when neither of them is too large. -/
theorem quantities_exact_iff (text : String) :
    ((ParsesExactly parseHexUint64 text ∧ ParsesExactly parseHexU64 text) ↔
      ¬ Overflows text ∧ ¬ ReadsLeniently text) ∧
    (Agree text ↔ ¬ Overflows text ∧ ¬ ReadsLeniently text) ∧
    forall (raw : RawLog) (chainId blockTimestamp : UInt64) (scratch : Bytes 32) (signal : Signal),
      Events.normalize raw chainId blockTimestamp scratch = .ok signal ->
      (((Exists fun txIndex => SpellsHex raw.transactionIndex txIndex ∧ txIndex ≤ 2 ^ 32 - 1) ∧
        Exists fun logIndex => SpellsHex raw.logIndex logIndex ∧ logIndex ≤ 2 ^ 32 - 1) ↔
          ¬ Overflows raw.transactionIndex ∧ ¬ Overflows raw.logIndex) := by
  refine ⟨and_congr (parseHexUint64_exact_iff text) (parseHexU64_exact_iff text),
    agree_iff text, ?_⟩
  intro raw chainId blockTimestamp scratch signal normalized
  constructor
  · rintro ⟨⟨txIndex, txSpelled, txSmall⟩, logIndex, logSpelled, logSmall⟩
    exact ⟨fits_of_small txSpelled txSmall, fits_of_small logSpelled logSmall⟩
  · rintro ⟨txFits, logFits⟩
    rcases indices_le_of_normalize normalized
      with ⟨txIndex, logIndex, txRead, logRead, txSmall, logSmall⟩
    have txSpelled := ((parseHexUint64_exact_iff raw.transactionIndex).mpr txFits txIndex).mp txRead
    have logSpelled := ((parseHexUint64_exact_iff raw.logIndex).mpr logFits logIndex).mp logRead
    exact ⟨⟨txIndex.toNat, txSpelled, UInt64.le_iff_toNat_le.mp txSmall⟩,
      ⟨logIndex.toNat, logSpelled, UInt64.le_iff_toNat_le.mp logSmall⟩⟩

/-- A log whose transaction index is one above 64 bits. -/
private def hugeIndexLog : RawLog where
  address := bytesToHex (Bytes.ofNat 20 7)
  topics := [bytesToHex topicTransfer]
  data := "0x"
  blockNumber := "0x5"
  transactionHash := bytesToHex (Bytes.ofNat 32 3)
  logIndex := "0x0"
  transactionIndex := "0x10000000000000000"

/-- `2^64` reads as 0 in a log and passes the check on its index; `-1` reads
as the largest number in an adapter. -/
theorem quantities_misread :
    parseHexUint64 "0x10000000000000000" = .ok 0 ∧
      ¬ ParsesExactly parseHexUint64 "0x10000000000000000" ∧ ¬ Agree "0x10000000000000000" ∧
      (Events.normalize hugeIndexLog 1 0 (Bytes.zeros 32)).isOk = true ∧
      parseHexU64 "0x-1" = .ok 0xFFFFFFFFFFFFFFFF ∧
      ¬ ParsesExactly parseHexU64 "0x-1" ∧ ¬ Agree "0x-1" := by
  have overflows : Overflows "0x10000000000000000" :=
    ⟨"10000000000000000".toList, by decide, by decide, by decide⟩
  have lenient : ReadsLeniently "0x-1" := ⟨['-', '1'], by decide, by decide, by decide, by decide⟩
  refine ⟨rfl, ?_, ?_, by decide +kernel, rfl, ?_, ?_⟩
  · intro exactly
    exact (parseHexUint64_exact_iff _).mp exactly overflows
  · intro agree
    exact ((agree_iff _).mp agree).1 overflows
  · intro exactly
    exact (parseHexU64_exact_iff _).mp exactly lenient
  · intro agree
    exact ((agree_iff _).mp agree).2 lenient

end Chains
end RiskSentinel
