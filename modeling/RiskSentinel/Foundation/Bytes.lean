import Mathlib.Data.List.Basic
import Mathlib.Data.Nat.Basic
import Mathlib.Tactic.Ring

namespace RiskSentinel
namespace Foundation

/-!
# Fixed-width byte strings and the numbers they spell

A value of `Bytes n` carries the proof of its own width, so a function that
reads the last twenty bytes of a word never has to ask whether they exist.
Writing past the end is impossible: `overwrite` keeps the width and cuts what
does not fit.

The second half relates byte strings to natural numbers, most significant
byte first, and shows that comparing equally long byte strings from the left
is comparing these numbers.
-/

/-- A byte string of width `n`. -/
structure Bytes (n : Nat) where
  bytes : List UInt8
  size_eq : bytes.length = n
deriving DecidableEq

namespace Bytes

variable {n : Nat}

theorem eq_of_bytes {left right : Bytes n} (same : left.bytes = right.bytes) : left = right := by
  cases left
  cases right
  cases same
  rfl

/-- The all-zero byte string. -/
def zeros (n : Nat) : Bytes n :=
  ⟨List.replicate n 0, List.length_replicate⟩

/-- The low bytes of a number, most significant first. -/
def ofNat (n value : Nat) : Bytes n :=
  ⟨(List.range n).reverse.map fun position => UInt8.ofNat (value / 256 ^ position), by simp⟩

/-- Replace the leading bytes and keep the rest.  Bytes that do not fit
into the width are dropped. -/
def overwrite (out : Bytes n) (written : List UInt8) : Bytes n :=
  ⟨(written ++ out.bytes.drop written.length).take n, by
    simp only [List.length_take, List.length_append, List.length_drop, out.size_eq]
    omega⟩

/-- The `width` bytes that begin at `start`. -/
def slice (source : Bytes n) (start width : Nat) (fits : start + width ≤ n) : Bytes width :=
  ⟨(source.bytes.drop start).take width, by
    simp only [List.length_take, List.length_drop, source.size_eq]
    omega⟩

/-- A full-width write leaves nothing of the old contents. -/
theorem overwrite_full (out source : Bytes n) : out.overwrite source.bytes = source := by
  apply eq_of_bytes
  have nothingLeft : out.bytes.drop source.bytes.length = [] := by
    apply List.drop_eq_nil_of_le
    rw [out.size_eq, source.size_eq]
  simp only [overwrite, nothingLeft, List.append_nil]
  exact List.take_of_length_le (Nat.le_of_eq source.size_eq)

/-- What was written can be read back, up to the buffer's end. -/
theorem take_overwrite (out : Bytes n) (written : List UInt8) (width : Nat)
    (inside : width ≤ n) (available : width ≤ written.length) :
    (out.overwrite written).bytes.take width = written.take width := by
  simp only [overwrite, List.take_take, Nat.min_eq_left inside]
  exact List.take_append_of_le_length available

/-- Every byte is zero. -/
def isZero (source : Bytes n) : Bool :=
  source.bytes.all (· == 0)

end Bytes

/-! ## The two halves of a byte -/

theorem nibbles (byte : UInt8) :
    (byte >>> 4).toNat < 16 ∧ (byte &&& 15).toNat < 16 ∧
    ((byte >>> 4) <<< 4) ||| (byte &&& 15) = byte := by
  have table : forall value : Fin 256,
      ((UInt8.ofNat value.val) >>> 4).toNat < 16 ∧ ((UInt8.ofNat value.val) &&& 15).toNat < 16 ∧
        (((UInt8.ofNat value.val) >>> 4) <<< 4) ||| ((UInt8.ofNat value.val) &&& 15) =
          UInt8.ofNat value.val := by
    decide +kernel
  simpa using table ⟨byte.toNat, byte.toNat_lt⟩

/-! ## Numbers, most significant byte first -/

/-- The number a byte string spells in base 256. -/
def beNat : List UInt8 -> Nat
  | [] => 0
  | byte :: rest => byte.toNat * 256 ^ rest.length + beNat rest

@[simp] theorem beNat_nil : beNat [] = 0 := rfl

theorem beNat_cons (byte : UInt8) (rest : List UInt8) :
    beNat (byte :: rest) = byte.toNat * 256 ^ rest.length + beNat rest := rfl

theorem beNat_lt (bytes : List UInt8) : beNat bytes < 256 ^ bytes.length := by
  induction bytes with
  | nil => exact Nat.zero_lt_one
  | cons byte rest inductionHypothesis =>
      have digit : byte.toNat + 1 ≤ 256 := byte.toNat_lt
      calc
        beNat (byte :: rest) < byte.toNat * 256 ^ rest.length + 256 ^ rest.length :=
          Nat.add_lt_add_left inductionHypothesis _
        _ = (byte.toNat + 1) * 256 ^ rest.length := by ring
        _ ≤ 256 * 256 ^ rest.length := Nat.mul_le_mul_right _ digit
        _ = 256 ^ (byte :: rest).length := by rw [List.length_cons, Nat.pow_succ, Nat.mul_comm]

/-- Only the all-zero string spells zero. -/
theorem beNat_eq_zero_iff (bytes : List UInt8) :
    beNat bytes = 0 ↔ forall byte, byte ∈ bytes -> byte = 0 := by
  induction bytes with
  | nil => simp
  | cons byte rest inductionHypothesis =>
      have weight : 256 ^ rest.length ≠ 0 := Nat.ne_of_gt (Nat.pow_pos (by decide))
      rw [beNat_cons, Nat.add_eq_zero_iff, Nat.mul_eq_zero, inductionHypothesis]
      simp only [List.mem_cons, forall_eq_or_imp, weight, or_false]
      exact and_congr_left' (by rw [← UInt8.toNat_inj]; rfl)

/-- Only the string of full bytes spells the largest number of its length. -/
theorem beNat_eq_max_iff (bytes : List UInt8) :
    beNat bytes = 256 ^ bytes.length - 1 ↔ forall byte, byte ∈ bytes -> byte = 0xFF := by
  induction bytes with
  | nil => simp
  | cons byte rest inductionHypothesis =>
      have small : byte.toNat ≤ 255 := Nat.le_of_lt_succ byte.toNat_lt
      have below := beNat_lt rest
      have full : byte = 0xFF ↔ byte.toNat = 255 := by
        rw [← UInt8.toNat_inj]
        rfl
      rw [beNat_cons, List.length_cons, Nat.pow_succ, List.forall_mem_cons,
        ← inductionHypothesis, full]
      constructor
      · intro largest
        by_cases top : byte.toNat = 255
        · rw [top] at largest
          exact ⟨top, by omega⟩
        · have bound : byte.toNat * 256 ^ rest.length ≤ 254 * 256 ^ rest.length :=
            Nat.mul_le_mul_right _ (by omega)
          omega
      · rintro ⟨top, tail⟩
        rw [top]
        omega

theorem beNat_append (left right : List UInt8) :
    beNat (left ++ right) = beNat left * 256 ^ right.length + beNat right := by
  induction left with
  | nil => simp
  | cons byte rest inductionHypothesis =>
      rw [List.cons_append, beNat_cons, beNat_cons, inductionHypothesis,
        List.length_append, Nat.pow_add]
      ring

/-- Append one byte to a 64-bit accumulator. -/
def shiftInByte (value : UInt64) (byte : UInt8) : UInt64 :=
  (value <<< 8) ||| byte.toUInt64

theorem toNat_shiftInByte (value : UInt64) (byte : UInt8)
    (fits : value.toNat * 256 + byte.toNat < 2 ^ 64) :
    (shiftInByte value byte).toNat = value.toNat * 256 + byte.toNat := by
  have shifted : value.toNat <<< 8 % 2 ^ 64 = value.toNat <<< 8 := by
    rw [Nat.shiftLeft_eq]
    exact Nat.mod_eq_of_lt (Nat.lt_of_le_of_lt (Nat.le_add_right _ _) fits)
  simp only [shiftInByte, UInt64.toNat_or, UInt64.toNat_shiftLeft, UInt8.toNat_toUInt64]
  change value.toNat <<< 8 % 2 ^ 64 ||| byte.toNat = _
  rw [shifted, ← Nat.shiftLeft_add_eq_or_of_lt byte.toNat_lt, Nat.shiftLeft_eq]

/-- Shifting in byte after byte loses nothing that fits into the
accumulator. -/
theorem toNat_foldl_shiftInByte (value : UInt64) (bytes : List UInt8)
    (fits : value.toNat * 256 ^ bytes.length + beNat bytes < 2 ^ 64) :
    (bytes.foldl shiftInByte value).toNat = value.toNat * 256 ^ bytes.length + beNat bytes := by
  induction bytes generalizing value with
  | nil => simp
  | cons byte rest inductionHypothesis =>
      have regroup : value.toNat * 256 ^ (byte :: rest).length + beNat (byte :: rest) =
          (value.toNat * 256 + byte.toNat) * 256 ^ rest.length + beNat rest := by
        rw [beNat_cons, List.length_cons, Nat.pow_succ]
        ring
      rw [regroup] at fits ⊢
      have weight : 1 ≤ 256 ^ rest.length := Nat.pow_pos (by decide)
      have bound : value.toNat * 256 + byte.toNat ≤ (value.toNat * 256 + byte.toNat) *
          256 ^ rest.length :=
        Nat.le_mul_of_pos_right _ weight
      have step := toNat_shiftInByte value byte (by omega)
      rw [List.foldl_cons, inductionHypothesis (shiftInByte value byte) (by rw [step]; exact fits),
        step]

/-! ## Comparison from the left -/

/-- The three-way comparison of two byte strings, byte by byte from the
left, as the C library's `memcmp` makes it on its sign. -/
def memcmp : List UInt8 -> List UInt8 -> Ordering
  | left :: lefts, right :: rights =>
      if left < right then .lt else if right < left then .gt else memcmp lefts rights
  | _, _ => .eq

private theorem beNat_lt_of_head {left right : UInt8} {lefts rights : List UInt8}
    (sameLength : lefts.length = rights.length) (smaller : left < right) :
    beNat (left :: lefts) < beNat (right :: rights) := by
  have digits : left.toNat + 1 ≤ right.toNat := smaller
  calc
    beNat (left :: lefts) < left.toNat * 256 ^ lefts.length + 256 ^ lefts.length :=
      Nat.add_lt_add_left (beNat_lt lefts) _
    _ = (left.toNat + 1) * 256 ^ lefts.length := by ring
    _ ≤ right.toNat * 256 ^ lefts.length := Nat.mul_le_mul_right _ digits
    _ ≤ beNat (right :: rights) := by
      rw [beNat_cons, ← sameLength]
      exact Nat.le_add_right _ _

/-- Equally long byte strings that spell one number are equal. -/
theorem beNat_inj {lefts rights : List UInt8} (sameLength : lefts.length = rights.length)
    (same : beNat lefts = beNat rights) : lefts = rights := by
  induction lefts generalizing rights with
  | nil => exact (List.length_eq_zero_iff.mp sameLength.symm).symm
  | cons left lefts inductionHypothesis =>
      cases rights with
      | nil => cases sameLength
      | cons right rights =>
          have tails : lefts.length = rights.length := Nat.succ.inj sameLength
          have heads : left = right := by
            apply UInt8.le_antisymm
            · exact UInt8.not_lt.mp fun larger =>
                Nat.ne_of_gt (beNat_lt_of_head tails.symm larger) same
            · exact UInt8.not_lt.mp fun smaller =>
                Nat.ne_of_lt (beNat_lt_of_head tails smaller) same
          rw [beNat_cons, beNat_cons, heads, tails] at same
          rw [heads, inductionHypothesis tails (Nat.add_left_cancel same)]

/-- On strings of one length the byte-wise comparison is the numeric one. -/
theorem memcmp_eq_compare (lefts rights : List UInt8) (sameLength : lefts.length = rights.length) :
    memcmp lefts rights = compare (beNat lefts) (beNat rights) := by
  induction lefts generalizing rights with
  | nil =>
      cases rights with
      | nil => rfl
      | cons right rights => cases sameLength
  | cons left lefts inductionHypothesis =>
      cases rights with
      | nil => cases sameLength
      | cons right rights =>
          have tails : lefts.length = rights.length := Nat.succ.inj sameLength
          unfold memcmp
          by_cases smaller : left < right
          · rw [if_pos smaller]
            exact (Nat.compare_eq_lt.mpr (beNat_lt_of_head tails smaller)).symm
          · by_cases larger : right < left
            · rw [if_neg smaller, if_pos larger]
              exact (Nat.compare_eq_gt.mpr (beNat_lt_of_head tails.symm larger)).symm
            · have same : left = right :=
                UInt8.le_antisymm (UInt8.not_lt.mp larger) (UInt8.not_lt.mp smaller)
              subst same
              rw [if_neg smaller, if_neg larger, inductionHypothesis rights tails,
                beNat_cons, beNat_cons, tails]
              rcases Nat.lt_trichotomy (beNat lefts) (beNat rights) with less | equal | more
              · rw [Nat.compare_eq_lt.mpr less, Nat.compare_eq_lt.mpr (Nat.add_lt_add_left less _)]
              · rw [equal]
                simp
              · rw [Nat.compare_eq_gt.mpr more, Nat.compare_eq_gt.mpr (Nat.add_lt_add_left more _)]

end Foundation
end RiskSentinel
