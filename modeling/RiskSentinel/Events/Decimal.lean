import RiskSentinel.Foundation.Bytes

namespace RiskSentinel
namespace Events

open Foundation

/-!
# 256-bit amounts

The second half of `events/utils/hex.hpp`: comparison of two 32-byte
big-endian amounts and their conversion to and from decimal text.  The loops
work on 32-bit registers, one byte at a time; the theorems below say what
they compute as numbers.
-/

/-- Strictly greater, compared byte by byte from the left. -/
def greaterBe256 (lhs rhs : List UInt8) : Bool :=
  memcmp (lhs.take 32) (rhs.take 32) == .gt

/-- One pass of the long division by ten, from the most significant byte
down.  The second component is the remainder that leaves on the right. -/
def divTen : List UInt8 -> UInt32 -> List UInt8 × UInt32
  | [], remainder => ([], remainder)
  | byte :: rest, remainder =>
      let num := (remainder <<< 8) ||| byte.toUInt32
      let tail := divTen rest (num % 10)
      ((num / 10).toUInt8 :: tail.1, tail.2)

/-- One pass of `result = result * 10 + digit`, from the least significant
byte up.  The second component is the carry that leaves on the left. -/
def mulTenAdd : List UInt8 -> UInt32 -> List UInt8 × UInt32
  | [], carry => ([], carry)
  | byte :: rest, carry =>
      let tail := mulTenAdd rest carry
      let val := byte.toUInt32 * 10 + tail.2
      ((val &&& 0xFF).toUInt8 :: tail.1, val >>> 8)

/-! ## What one pass computes -/

private theorem divTen_head (byte : UInt8) (remainder : UInt32) (small : remainder.toNat < 10) :
    ((remainder <<< 8) ||| byte.toUInt32).toNat = 256 * remainder.toNat + byte.toNat := by
  have digit : byte.toNat < 2 ^ 8 := byte.toNat_lt
  have shifted : remainder.toNat <<< 8 % 2 ^ 32 = remainder.toNat <<< 8 := by
    rw [Nat.shiftLeft_eq]
    exact Nat.mod_eq_of_lt (by omega)
  rw [UInt32.toNat_or, UInt32.toNat_shiftLeft, UInt8.toNat_toUInt32]
  change remainder.toNat <<< 8 % 2 ^ 32 ||| byte.toNat = _
  rw [shifted, ← Nat.shiftLeft_add_eq_or_of_lt digit, Nat.shiftLeft_eq]
  omega

theorem length_divTen (bytes : List UInt8) (remainder : UInt32) :
    (divTen bytes remainder).1.length = bytes.length := by
  induction bytes generalizing remainder with
  | nil => rfl
  | cons byte rest inductionHypothesis =>
      simp only [divTen, List.length_cons, inductionHypothesis]

/-- The pass divides the number, with the incoming remainder in front of it. -/
theorem divTen_spec (bytes : List UInt8) (remainder : UInt32) (small : remainder.toNat < 10) :
    10 * beNat (divTen bytes remainder).1 + (divTen bytes remainder).2.toNat =
        remainder.toNat * 256 ^ bytes.length + beNat bytes ∧
      (divTen bytes remainder).2.toNat < 10 := by
  induction bytes generalizing remainder with
  | nil => simpa [divTen] using small
  | cons byte rest inductionHypothesis =>
      have digit : byte.toNat < 2 ^ 8 := byte.toNat_lt
      simp only [divTen, beNat_cons, List.length_cons, length_divTen]
      have head := divTen_head byte remainder small
      generalize (remainder <<< 8) ||| byte.toUInt32 = num at head
      have low : (num % 10).toNat = num.toNat % 10 := by simp
      have high : (num / 10).toUInt8.toNat = num.toNat / 10 := by
        rw [UInt32.toNat_toUInt8, UInt32.toNat_div]
        change num.toNat / 10 % 2 ^ 8 = num.toNat / 10
        omega
      have tail := inductionHypothesis (num % 10) (by rw [low]; omega)
      refine ⟨?_, tail.2⟩
      rw [high, Nat.mul_add, Nat.add_assoc, tail.1, low]
      have split : num.toNat = 10 * (num.toNat / 10) + num.toNat % 10 := (Nat.div_add_mod _ _).symm
      calc
        10 * (num.toNat / 10 * 256 ^ rest.length) +
          (num.toNat % 10 * 256 ^ rest.length + beNat rest) =
            (10 * (num.toNat / 10) + num.toNat % 10) * 256 ^ rest.length + beNat rest := by ring
        _ = (256 * remainder.toNat + byte.toNat) * 256 ^ rest.length + beNat rest := by
          rw [← split, head]
        _ = remainder.toNat * 256 ^
          (rest.length + 1) + (byte.toNat * 256 ^ rest.length + beNat rest) := by
          ring

theorem length_mulTenAdd (bytes : List UInt8) (carry : UInt32) :
    (mulTenAdd bytes carry).1.length = bytes.length := by
  induction bytes with
  | nil => rfl
  | cons byte rest inductionHypothesis =>
      simp only [mulTenAdd, List.length_cons, inductionHypothesis]

/-- The pass multiplies by ten and adds the digit; what does not fit into
the bytes is the carry, which stays a single digit throughout. -/
theorem mulTenAdd_spec (bytes : List UInt8) (carry : UInt32) (small : carry.toNat < 10) :
    (mulTenAdd bytes carry).2.toNat * 256 ^ bytes.length + beNat (mulTenAdd bytes carry).1 =
        10 * beNat bytes + carry.toNat ∧
      (mulTenAdd bytes carry).2.toNat < 10 := by
  induction bytes with
  | nil => simpa [mulTenAdd] using small
  | cons byte rest inductionHypothesis =>
      rcases inductionHypothesis with ⟨tailValue, tailSmall⟩
      have digit : byte.toNat < 2 ^ 8 := byte.toNat_lt
      simp only [mulTenAdd, beNat_cons, List.length_cons, length_mulTenAdd]
      generalize (mulTenAdd rest carry).2 = c at tailValue tailSmall
      have value : (byte.toUInt32 * 10 + c).toNat = 10 * byte.toNat + c.toNat := by
        rw [UInt32.toNat_add, UInt32.toNat_mul, UInt8.toNat_toUInt32]
        change (byte.toNat * 10 % 2 ^ 32 + c.toNat) % 2 ^ 32 = 10 * byte.toNat + c.toNat
        omega
      generalize byte.toUInt32 * 10 + c = val at value
      have low : (val &&& 0xFF).toUInt8.toNat = val.toNat % 256 := by
        rw [UInt32.toNat_toUInt8, UInt32.toNat_and]
        change (val.toNat &&& (2 ^ 8 - 1)) % 2 ^ 8 = val.toNat % 256
        rw [Nat.and_two_pow_sub_one_eq_mod, Nat.mod_mod]
      have high : (val >>> 8).toNat = val.toNat / 256 := by
        rw [UInt32.toNat_shiftRight]
        change val.toNat >>> 8 = val.toNat / 256
        rw [Nat.shiftRight_eq_div_pow]
      rw [low, high]
      refine ⟨?_, by omega⟩
      have split : val.toNat = 256 * (val.toNat / 256) + val.toNat % 256 :=
        (Nat.div_add_mod _ _).symm
      calc
        val.toNat / 256 * 256 ^ (rest.length + 1) +
            (val.toNat % 256 * 256 ^ rest.length + beNat (mulTenAdd rest carry).1) =
            (256 * (val.toNat / 256) + val.toNat % 256) * 256 ^ rest.length +
              beNat (mulTenAdd rest carry).1 := by ring
        _ = 10 * byte.toNat * 256 ^ rest.length +
              (c.toNat * 256 ^ rest.length + beNat (mulTenAdd rest carry).1) := by
                rw [← split, value]; ring
        _ = 10 * (byte.toNat * 256 ^ rest.length + beNat rest) + carry.toNat := by
          rw [tailValue]; ring

/-! ## Decimal text of an amount -/

/-- The digit loop.  It runs at least once and stops when a pass has left
only zero bytes. -/
def decimalLoop (buffer : List UInt8) (result : List Char) : List Char :=
  let pass := divTen buffer 0
  let longer := result ++ [Char.ofNat ('0'.toNat + pass.2.toNat)]
  if pass.1.all (· == 0) then longer else decimalLoop pass.1 longer
termination_by beNat buffer
decreasing_by
  -- A quotient that is not zero is smaller than the number divided.
  rename_i notZero
  have spec := (divTen_spec buffer 0 (by decide)).1
  have quotient : beNat (divTen buffer 0).1 ≠ 0 := by
    intro zero
    exact notZero (List.all_eq_true.mpr fun byte member =>
      beq_iff_eq.mpr ((beNat_eq_zero_iff _).mp zero byte member))
  simp only [UInt32.toNat_zero, Nat.zero_mul, Nat.zero_add] at spec
  omega

/-- The decimal text of the first 32 bytes. -/
def uint256BeToDecimal (data : List UInt8) : String :=
  let buffer := data.take 32
  if buffer.all (· == 0) then "0" else String.ofList (decimalLoop buffer []).reverse

private theorem all_zero_iff (bytes : List UInt8) : bytes.all (· == 0) = true ↔
    beNat bytes = 0 := by
  rw [beNat_eq_zero_iff, List.all_eq_true]
  simp only [beq_iff_eq]

private theorem digitChar_eq (digit : Nat) (small : digit < 10) :
    Char.ofNat ('0'.toNat + digit) = digit.digitChar := by
  have table : forall value : Fin 10, Char.ofNat ('0'.toNat + value.val) = value.val.digitChar := by
    decide
  exact table ⟨digit, small⟩

private theorem decimalLoop_eq (buffer : List UInt8) (result : List Char) :
    decimalLoop buffer result = result ++ (Nat.toDigits 10 (beNat buffer)).reverse := by
  induction buffer, result using decimalLoop.induct with
  | case1 buffer result pass finished =>
      -- The last pass: the number itself was a single digit.
      have spec := divTen_spec buffer 0 (by decide)
      have zero := (all_zero_iff _).mp finished
      simp only [pass, UInt32.toNat_zero, Nat.zero_mul, Nat.zero_add] at spec zero
      rw [zero, Nat.mul_zero, Nat.zero_add] at spec
      rw [decimalLoop, if_pos finished, ← spec.1, Nat.toDigits_of_lt_base spec.2,
        digitChar_eq _ spec.2, List.reverse_singleton]
  | case2 buffer result pass longer more inductionHypothesis =>
      have spec := divTen_spec buffer 0 (by decide)
      have nonzero : beNat (divTen buffer 0).1 ≠ 0 := fun zero => more ((all_zero_iff _).mpr zero)
      simp only [UInt32.toNat_zero, Nat.zero_mul, Nat.zero_add] at spec
      rw [decimalLoop, if_neg more, inductionHypothesis, ← spec.1,
        ← Nat.toDigits_append_toDigits (by decide) (Nat.pos_of_ne_zero nonzero) spec.2,
        Nat.toDigits_of_lt_base spec.2, List.reverse_append, List.reverse_singleton,
        ← List.append_assoc]
      simp only [longer, pass, digitChar_eq _ spec.2]

/-- The loop ends, and it writes the number in decimal without leading
zeros. -/
theorem uint256BeToDecimal_eq (data : List UInt8) :
    uint256BeToDecimal data = Nat.repr (beNat (data.take 32)) := by
  unfold uint256BeToDecimal
  by_cases zero : (data.take 32).all (· == 0) = true
  · rw [if_pos zero, (all_zero_iff _).mp zero]
    rfl
  · rw [if_neg zero, decimalLoop_eq, List.nil_append, List.reverse_reverse,
      Nat.repr_eq_ofList_toDigits]

/-! ## Amounts read from decimal text -/

/-- One character of the conversion. -/
def appendDigit (result : Bytes 32) (c : Char) : Except String (Bytes 32) :=
  if c < '0' || '9' < c then
    .error "invalid decimal digit"
  else
    let pass := mulTenAdd result.bytes (UInt32.ofNat (c.toNat - '0'.toNat))
    if 0 < pass.2 then
      .error "decimal string too large for 256-bit int"
    else
      .ok ⟨pass.1, by rw [length_mulTenAdd, result.size_eq]⟩

def decimalToBe256 (decimal : String) : Except String (Bytes 32) :=
  decimal.toList.foldlM appendDigit (Bytes.zeros 32)

/-- The test that a digit passes. -/
theorem inside_iff {c : Char} : ¬ (c < '0' || '9' < c) = true ↔ '0' ≤ c ∧ c ≤ '9' := by
  rw [Bool.or_eq_true, decide_eq_true_eq, decide_eq_true_eq, not_or, Char.not_lt, Char.not_lt]

/-- The register that gets a digit holds its value. -/
theorem digit_exact {c : Char} (inside : ¬ (c < '0' || '9' < c) = true) :
    c.toNat - '0'.toNat < 10 ∧
    (UInt32.ofNat (c.toNat - '0'.toNat)).toNat = c.toNat - '0'.toNat := by
  have upper : c.toNat ≤ 57 := (inside_iff.mp inside).2
  have small : c.toNat - '0'.toNat < 10 := by
    change c.toNat - 48 < 10
    omega
  refine ⟨small, ?_⟩
  rw [UInt32.toNat_ofNat']
  exact Nat.mod_eq_of_lt (by omega)

private theorem appendDigit_value {result longer : Bytes 32} {c : Char}
    (appended : appendDigit result c = .ok longer) :
    beNat longer.bytes = 10 * beNat result.bytes + (c.toNat - '0'.toNat) := by
  unfold appendDigit at appended
  by_cases outside : (c < '0' || '9' < c) = true
  · rw [if_pos outside] at appended
    cases appended
  · rw [if_neg outside] at appended
    have digit : c.toNat - 48 < 10 := (digit_exact outside).1
    have read : (UInt32.ofNat (c.toNat - 48)).toNat = c.toNat - 48 := (digit_exact outside).2
    have spec := (mulTenAdd_spec result.bytes (UInt32.ofNat (c.toNat - 48))
      (by rw [read]; exact digit)).1
    by_cases overflow : 0 < (mulTenAdd result.bytes (UInt32.ofNat (c.toNat - 48))).2
    · simp only [Char.reduceToNat, overflow, if_true] at appended
      cases appended
    · have noCarry : (mulTenAdd result.bytes (UInt32.ofNat (c.toNat - 48))).2.toNat = 0 :=
        Nat.eq_zero_of_not_pos overflow
      simp only [Char.reduceToNat, overflow, if_false, Except.ok.injEq] at appended
      rw [noCarry, Nat.zero_mul, Nat.zero_add, read] at spec
      rw [← appended]
      exact spec

private theorem foldlM_appendDigit (digits : List Char) (result final : Bytes 32)
    (converted : digits.foldlM appendDigit result = .ok final) :
    beNat final.bytes = Nat.ofDigitChars 10 digits (beNat result.bytes) := by
  induction digits generalizing result with
  | nil =>
      cases converted
      rfl
  | cons c rest inductionHypothesis =>
      rw [List.foldlM_cons] at converted
      cases step : appendDigit result c with
      | error message =>
          rw [step] at converted
          cases converted
      | ok longer =>
          rw [step] at converted
          rw [inductionHypothesis longer converted, Nat.ofDigitChars_cons, appendDigit_value step]

/-- An accepted decimal text is stored as the number it denotes. -/
theorem decimalToBe256_value {decimal : String} {value : Bytes 32}
    (accepted : decimalToBe256 decimal = .ok value) :
    beNat value.bytes = Nat.ofDigitChars 10 decimal.toList 0 := by
  have converted := foldlM_appendDigit decimal.toList (Bytes.zeros 32) value accepted
  rw [converted, (beNat_eq_zero_iff _).mpr]
  intro byte member
  exact List.eq_of_mem_replicate member

private theorem le_ofDigitChars (digits : List Char) (value : Nat) :
    value ≤ Nat.ofDigitChars 10 digits value := by
  induction digits generalizing value with
  | nil => exact Nat.le_refl value
  | cons c rest inductionHypothesis =>
      rw [Nat.ofDigitChars_cons]
      exact Nat.le_trans (by omega) (inductionHypothesis _)

private theorem appendDigit_ok {result : Bytes 32} {c : Char} (digit : '0' ≤ c ∧ c ≤ '9')
    (fits : 10 * beNat result.bytes + (c.toNat - '0'.toNat) < 2 ^ 256) :
    Exists fun longer => appendDigit result c = .ok longer := by
  have inside : ¬ (c < '0' || '9' < c) = true := inside_iff.mpr digit
  have small : c.toNat - 48 < 10 := (digit_exact inside).1
  have read : (UInt32.ofNat (c.toNat - 48)).toNat = c.toNat - 48 := (digit_exact inside).2
  have spec := (mulTenAdd_spec result.bytes (UInt32.ofNat (c.toNat - 48))
    (by rw [read]; exact small)).1
  have noCarry : ¬ 0 < (mulTenAdd result.bytes (UInt32.ofNat (c.toNat - 48))).2 := by
    intro carried
    have positive : 1 ≤ (mulTenAdd result.bytes (UInt32.ofNat (c.toNat - 48))).2.toNat := carried
    have scaled := Nat.mul_le_mul_right (256 ^ result.bytes.length) positive
    rw [read] at spec
    have size : (256 : Nat) ^ result.bytes.length = 2 ^ 256 := by
      rw [result.size_eq]
      decide
    rw [size] at spec scaled
    simp only [Char.reduceToNat] at fits
    omega
  refine ⟨⟨(mulTenAdd result.bytes (UInt32.ofNat (c.toNat - '0'.toNat))).1,
    by rw [length_mulTenAdd, result.size_eq]⟩, ?_⟩
  unfold appendDigit
  rw [if_neg inside]
  exact if_neg noCarry

/-- A string of digits that denotes a number below `2 ^ 256`. -/
def IsThreshold (text : String) : Prop :=
  (forall c, c ∈ text.toList -> '0' ≤ c ∧ c ≤ '9') ∧ Nat.ofDigitChars 10 text.toList 0 < 2 ^ 256

instance (text : String) : Decidable (IsThreshold text) :=
  decidable_of_iff (text.toList.all (fun c => decide ('0' ≤ c ∧ c ≤ '9')) = true ∧
      Nat.ofDigitChars 10 text.toList 0 < 2 ^ 256)
    (by simp only [IsThreshold, List.all_eq_true, decide_eq_true_eq])

private theorem foldlM_appendDigit_ok (digits : List Char) (result : Bytes 32)
    (each : forall c, c ∈ digits -> '0' ≤ c ∧ c ≤ '9')
    (fits : Nat.ofDigitChars 10 digits (beNat result.bytes) < 2 ^ 256) :
    Exists fun final => digits.foldlM appendDigit result = .ok final := by
  induction digits generalizing result with
  | nil => exact ⟨result, rfl⟩
  | cons c rest inductionHypothesis =>
      rw [Nat.ofDigitChars_cons] at fits
      rcases appendDigit_ok (each c List.mem_cons_self)
        (Nat.lt_of_le_of_lt (le_ofDigitChars rest _) fits) with ⟨longer, step⟩
      rw [← appendDigit_value step] at fits
      rcases inductionHypothesis longer
        (fun other member => each other (List.mem_cons_of_mem _ member)) fits with ⟨final, done⟩
      refine ⟨final, ?_⟩
      rw [List.foldlM_cons, step]
      exact done

/-- Every threshold of the expected form is accepted. -/
theorem IsThreshold.accepted {text : String} (threshold : IsThreshold text) :
    Exists fun value => decimalToBe256 text = .ok value := by
  apply foldlM_appendDigit_ok text.toList (Bytes.zeros 32) threshold.1
  have zero : beNat (Bytes.zeros 32).bytes = 0 :=
    (beNat_eq_zero_iff _).mpr fun byte member => List.eq_of_mem_replicate member
  rw [zero]
  exact threshold.2

/-! ## Comparison -/

/-- The comparison of two 32-byte amounts is the comparison of numbers. -/
theorem greaterBe256_eq (lhs rhs : List UInt8) (left : 32 ≤ lhs.length) (right : 32 ≤ rhs.length) :
    greaterBe256 lhs rhs = decide (beNat (rhs.take 32) < beNat (lhs.take 32)) := by
  have sameLength : (lhs.take 32).length = (rhs.take 32).length := by
    rw [List.length_take, List.length_take, Nat.min_eq_left left, Nat.min_eq_left right]
  rw [greaterBe256, memcmp_eq_compare _ _ sameLength, Bool.eq_iff_iff, beq_iff_eq,
    Nat.compare_eq_gt, decide_eq_true_eq]

end Events
end RiskSentinel
