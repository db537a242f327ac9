import RiskSentinel.Events.Decimal
import RiskSentinel.Foundation.Text

namespace RiskSentinel
namespace Events

open Foundation

/-!
# The two conversions of an amount

`Decimal` says what each loop computes.  Here the conversions are put side by
side: which texts `decimal_to_be_256` accepts, that no 32-bit register of its
loop wraps around on any text, and that the two conversions are inverse to
each other on amounts and numerals.
-/

/-! ## The registers of the loop -/

/-- The 32-bit values of one pass of `result = result * 10 + digit`, each with
the value that it would have without a bound. -/
def passRegisters : List UInt8 -> UInt32 -> List (UInt32 × Nat)
  | [], _ => []
  | byte :: rest, carry =>
      let incoming := (mulTenAdd rest carry).2
      passRegisters rest carry ++
        [(byte.toUInt32 * 10, byte.toNat * 10),
          (byte.toUInt32 * 10 + incoming, byte.toNat * 10 + incoming.toNat)]

/-- Those of a whole call, up to its end or its exception. -/
def decimalRegisters (result : Bytes 32) : List Char -> List (UInt32 × Nat)
  | [] => []
  | c :: rest =>
      if c < '0' || '9' < c then []
      else
        let digit := UInt32.ofNat (c.toNat - '0'.toNat)
        (digit, c.toNat - '0'.toNat) :: passRegisters result.bytes digit ++
          match appendDigit result c with
          | .ok longer => decimalRegisters longer rest
          | .error _ => []

/-- The register holds the value without a bound. -/
def Exact (register : UInt32 × Nat) : Prop :=
  register.1.toNat = register.2

private theorem passRegisters_exact (bytes : List UInt8) (carry : UInt32)
    (small : carry.toNat < 10) :
    forall register, register ∈ passRegisters bytes carry -> Exact register := by
  induction bytes with
  | nil =>
      intro register member
      cases member
  | cons byte rest inductionHypothesis =>
      have incoming := (mulTenAdd_spec rest carry small).2
      have below : byte.toNat < 256 := byte.toNat_lt
      have product : (byte.toUInt32 * 10).toNat = byte.toNat * 10 := by
        rw [UInt32.toNat_mul, UInt8.toNat_toUInt32]
        exact Nat.mod_eq_of_lt (by change byte.toNat * 10 < 2 ^ 32; omega)
      intro register member
      rw [passRegisters, List.mem_append] at member
      rcases member with earlier | here
      · exact inductionHypothesis register earlier
      · simp only [List.mem_cons, List.not_mem_nil, or_false] at here
        rcases here with rfl | rfl
        · exact product
        · change (byte.toUInt32 * 10 + _).toNat = _
          rw [UInt32.toNat_add, product]
          exact Nat.mod_eq_of_lt (by omega)

/-- No register wraps around, whatever the text is. -/
theorem decimalRegisters_exact (result : Bytes 32) (text : List Char) :
    forall register, register ∈ decimalRegisters result text -> Exact register := by
  induction text generalizing result with
  | nil =>
      intro register member
      cases member
  | cons c rest inductionHypothesis =>
      intro register member
      rw [decimalRegisters] at member
      by_cases outside : (c < '0' || '9' < c) = true
      · rw [if_pos outside] at member
        cases member
      · rw [if_neg outside] at member
        rcases digit_exact outside with ⟨small, read⟩
        rcases List.mem_append.mp member with here | later
        · rcases List.mem_cons.mp here with rfl | pass
          · exact read
          · exact passRegisters_exact result.bytes _ (by rw [read]; exact small) register pass
        · cases appended : appendDigit result c with
          | error message =>
              rw [appended] at later
              cases later
          | ok longer =>
              rw [appended] at later
              exact inductionHypothesis longer register later

/-! ## Accepted texts -/

private theorem digit_of_appendDigit {result longer : Bytes 32} {c : Char}
    (appended : appendDigit result c = .ok longer) : '0' ≤ c ∧ c ≤ '9' := by
  unfold appendDigit at appended
  by_cases outside : (c < '0' || '9' < c) = true
  · rw [if_pos outside] at appended
    cases appended
  · exact inside_iff.mp outside

private theorem digits_of_foldlM {text : List Char} {result final : Bytes 32}
    (converted : text.foldlM appendDigit result = .ok final) : forall c, c ∈ text ->
    '0' ≤ c ∧ c ≤ '9' := by
  induction text generalizing result with
  | nil =>
      intro c member
      cases member
  | cons first rest inductionHypothesis =>
      rw [List.foldlM_cons] at converted
      cases step : appendDigit result first with
      | error message =>
          rw [step] at converted
          cases converted
      | ok longer =>
          rw [step] at converted
          exact List.forall_mem_cons.mpr ⟨digit_of_appendDigit step, inductionHypothesis converted⟩

private theorem beNat_lt_of_width (value : Bytes 32) : beNat value.bytes < 2 ^ 256 := by
  have bound := beNat_lt value.bytes
  rw [value.size_eq] at bound
  exact Nat.lt_of_lt_of_eq bound (by decide)

/-- Exactly the digits of a number below `2 ^ 256` are accepted. -/
theorem isThreshold_of_accepted {text : String} {value : Bytes 32}
    (accepted : decimalToBe256 text = .ok value) : IsThreshold text := by
  refine ⟨digits_of_foldlM accepted, ?_⟩
  rw [← decimalToBe256_value accepted]
  exact beNat_lt_of_width value

/-- The result is the amount that the text denotes, and nothing else. -/
theorem decimalToBe256_eq_ok_iff (text : String) (value : Bytes 32) :
    decimalToBe256 text = .ok value ↔
      IsThreshold text ∧ beNat value.bytes = Nat.ofDigitChars 10 text.toList 0 := by
  constructor
  · intro accepted
    exact ⟨isThreshold_of_accepted accepted, decimalToBe256_value accepted⟩
  · rintro ⟨threshold, same⟩
    rcases threshold.accepted with ⟨other, accepted⟩
    rw [accepted, Bytes.eq_of_bytes (beNat_inj (other.size_eq.trans value.size_eq.symm)
      ((decimalToBe256_value accepted).trans same.symm))]

theorem decimalToBe256_throws_iff (text : String) :
    (Exists fun message => decimalToBe256 text = .error message) ↔ ¬ IsThreshold text := by
  constructor
  · rintro ⟨message, rejected⟩ threshold
    rcases threshold.accepted with ⟨value, accepted⟩
    rw [accepted] at rejected
    cases rejected
  · intro other
    cases result : decimalToBe256 text with
    | error message => exact ⟨message, rfl⟩
    | ok value => exact absurd (isThreshold_of_accepted result) other

/-! ## There and back -/

/-- The text of an amount is its numeral. -/
theorem toList_uint256BeToDecimal (value : Bytes 32) :
    (uint256BeToDecimal value.bytes).toList = Nat.toDigits 10 (beNat value.bytes) := by
  rw [uint256BeToDecimal_eq, List.take_of_length_le (Nat.le_of_eq value.size_eq), Nat.toList_repr]

private theorem isThreshold_uint256BeToDecimal (value : Bytes 32) :
    IsThreshold (uint256BeToDecimal value.bytes) := by
  constructor
  · rw [toList_uint256BeToDecimal]
    intro c member
    have digit := (isNumeral_toDigits (beNat value.bytes)).2.1 c member
    simp only [Char.isDigit, Bool.and_eq_true, decide_eq_true_eq] at digit
    exact digit
  · rw [toList_uint256BeToDecimal, Nat.ofDigitChars_ten_toDigits]
    exact beNat_lt_of_width value

theorem decimalToBe256_uint256BeToDecimal (value : Bytes 32) :
    decimalToBe256 (uint256BeToDecimal value.bytes) = .ok value := by
  apply (decimalToBe256_eq_ok_iff _ value).mpr
  refine ⟨isThreshold_uint256BeToDecimal value, ?_⟩
  rw [toList_uint256BeToDecimal, Nat.ofDigitChars_ten_toDigits]

theorem uint256BeToDecimal_of_accepted {text : String} {value : Bytes 32}
    (numeral : IsNumeral text.toList) (accepted : decimalToBe256 text = .ok value) :
    uint256BeToDecimal value.bytes = text := by
  apply String.toList_inj.mp
  rw [toList_uint256BeToDecimal, decimalToBe256_value accepted]
  exact numeral.toDigits

/-- For every text and all amounts of 32 bytes: a text is converted exactly
when it consists of digits and its number fits, to that number, without a
register wrapping around; the other conversion ends in the numeral of the
number; the two undo each other; and the comparison is that of the numbers. -/
theorem decimal_codec (text : String) (value other : Bytes 32) :
    (decimalToBe256 text = .ok value ↔
      IsThreshold text ∧ beNat value.bytes = Nat.ofDigitChars 10 text.toList 0) ∧
    ((Exists fun message => decimalToBe256 text = .error message) ↔ ¬ IsThreshold text) ∧
    (forall register, register ∈ decimalRegisters (Bytes.zeros 32) text.toList -> Exact register) ∧
    (IsNumeral (uint256BeToDecimal value.bytes).toList ∧
      Nat.ofDigitChars 10 (uint256BeToDecimal value.bytes).toList 0 = beNat value.bytes) ∧
    decimalToBe256 (uint256BeToDecimal value.bytes) = .ok value ∧
    (IsNumeral text.toList -> decimalToBe256 text = .ok value ->
      uint256BeToDecimal value.bytes = text) ∧
    (greaterBe256 value.bytes other.bytes = true ↔ beNat other.bytes < beNat value.bytes) := by
  refine ⟨decimalToBe256_eq_ok_iff text value, decimalToBe256_throws_iff text,
    decimalRegisters_exact _ _, ⟨?_, ?_⟩, decimalToBe256_uint256BeToDecimal value,
    uint256BeToDecimal_of_accepted, ?_⟩
  · rw [toList_uint256BeToDecimal]
    exact isNumeral_toDigits _
  · rw [toList_uint256BeToDecimal, Nat.ofDigitChars_ten_toDigits]
  · rw [greaterBe256_eq _ _ (Nat.le_of_eq value.size_eq.symm) (Nat.le_of_eq other.size_eq.symm),
      List.take_of_length_le (Nat.le_of_eq value.size_eq),
      List.take_of_length_le (Nat.le_of_eq other.size_eq), decide_eq_true_eq]

end Events
end RiskSentinel
