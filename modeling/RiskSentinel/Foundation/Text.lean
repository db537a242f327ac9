import Mathlib.Data.List.Basic

namespace RiskSentinel
namespace Foundation

/-!
# Separators, numerals and lines

Text that is put together from parts can be taken apart again where a part
does not contain the character that ends it.  Decimal numerals contain digits
and at most a sign in front, so any other character separates them from what
follows; a number has one numeral without zeros in front.  A file of lines is
such a text with a line break behind each line.
-/

/-- The first occurrence of a separator splits a text in one way. -/
theorem split_at_separator {separator : Char} {left right leftRest rightRest : List Char}
    (leftClean : separator ∉ left) (rightClean : separator ∉ right)
    (same : left ++ separator :: leftRest = right ++ separator :: rightRest) :
    left = right ∧ leftRest = rightRest := by
  induction left generalizing right with
  | nil =>
      cases right with
      | nil => exact ⟨rfl, List.tail_eq_of_cons_eq same⟩
      | cons c rest => exact False.elim (rightClean (List.head_eq_of_cons_eq same ▸ List.mem_cons_self))
  | cons c rest inductionHypothesis =>
      cases right with
      | nil => exact False.elim (leftClean (List.head_eq_of_cons_eq same ▸ List.mem_cons_self))
      | cons d others =>
          have heads : c = d := List.head_eq_of_cons_eq same
          have tails := inductionHypothesis
            (fun member => leftClean (List.mem_cons_of_mem _ member))
            (fun member => rightClean (List.mem_cons_of_mem _ member))
              (List.tail_eq_of_cons_eq same)
          exact ⟨by rw [heads, tails.1], tails.2⟩

/-! ## Numerals -/

theorem not_mem_repr {c : Char} (value : Nat) (noDigit : c.isDigit = false) :
    c ∉ (Nat.repr value).toList := by
  intro member
  rw [Nat.toList_repr] at member
  have digit := Nat.isDigit_of_mem_toDigits (by decide) (by decide) member
  rw [noDigit] at digit
  cases digit

theorem repr_inj {left right : Nat} (same : Nat.repr left = Nat.repr right) : left = right := by
  have digits : Nat.toDigits 10 left = Nat.toDigits 10 right := by
    rw [← Nat.toList_repr, ← Nat.toList_repr, same]
  have values := congrArg (fun text => Nat.ofDigitChars 10 text 0) digits
  simp only [Nat.ofDigitChars_ten_toDigits] at values
  exact values

/-- A signed numeral has digits and perhaps a minus sign. -/
theorem not_mem_int_repr {c : Char} (value : Int) (noDigit : c.isDigit = false) (noSign : c ≠ '-') :
    c ∉ value.repr.toList := by
  cases value with
  | ofNat value => exact not_mem_repr value noDigit
  | negSucc value =>
      change c ∉ ("-" ++ Nat.repr (value + 1)).toList
      rw [String.toList_append, List.mem_append, not_or]
      exact ⟨fun member => noSign (List.mem_singleton.mp member), not_mem_repr (value + 1) noDigit⟩

/-- The decimal numeral of a number: without zeros in front, and not empty. -/
def IsNumeral (digits : List Char) : Prop :=
  digits ≠ [] ∧ (forall c, c ∈ digits -> c.isDigit = true) ∧
    (digits.head? = some '0' -> digits = ['0'])

instance (digits : List Char) : Decidable (IsNumeral digits) :=
  inferInstanceAs (Decidable (_ ∧ _ ∧ _))

private theorem digitChar_of_isDigit {c : Char} (digit : c.isDigit = true) :
    c.toNat - '0'.toNat < 10 ∧ (c.toNat - '0'.toNat).digitChar = c := by
  have range : 48 ≤ c.toNat ∧ c.toNat ≤ 57 := by
    simp only [Char.isDigit, Bool.and_eq_true, decide_eq_true_eq] at digit
    exact digit
  have small : c.toNat - '0'.toNat < 10 := by
    change c.toNat - 48 < 10
    omega
  have table : forall value : Fin 10, value.val.digitChar = Char.ofNat (48 + value.val) := by decide
  refine ⟨small, (table ⟨_, small⟩).trans ?_⟩
  have whole : 48 + (c.toNat - '0'.toNat) = c.toNat := by
    change 48 + (c.toNat - 48) = c.toNat
    omega
  rw [whole, Char.ofNat_toNat]

/-- Digits behind a positive number. -/
private theorem toDigits_append_digits {digits : List Char}
    (each : forall c, c ∈ digits -> c.isDigit = true) {value : Nat} (positive : 0 < value) :
    Nat.toDigits 10 (Nat.ofDigitChars 10 digits value) = Nat.toDigits 10 value ++ digits := by
  induction digits generalizing value with
  | nil => simp
  | cons c rest inductionHypothesis =>
      rcases digitChar_of_isDigit (each c List.mem_cons_self) with ⟨small, same⟩
      rw [Nat.ofDigitChars_cons,
        inductionHypothesis (fun other member => each other (List.mem_cons_of_mem _ member))
          (by omega),
        ← Nat.toDigits_append_toDigits (by decide) positive small,
        Nat.toDigits_of_lt_base small, same, List.append_assoc, List.singleton_append]

/-- A numeral is the numeral of the number it denotes. -/
theorem IsNumeral.toDigits {digits : List Char} (numeral : IsNumeral digits) :
    Nat.toDigits 10 (Nat.ofDigitChars 10 digits 0) = digits := by
  rcases numeral with ⟨nonempty, each, noZero⟩
  cases digits with
  | nil => exact absurd rfl nonempty
  | cons c rest =>
      by_cases zero : c = '0'
      · rw [noZero (by rw [zero]; rfl)]
        rfl
      · rcases digitChar_of_isDigit (each c List.mem_cons_self) with ⟨small, same⟩
        have positive : 0 < c.toNat - '0'.toNat := by
          apply Nat.pos_of_ne_zero
          intro none
          rw [none] at same
          exact zero same.symm
        rw [Nat.ofDigitChars_cons, Nat.mul_zero, Nat.zero_add,
          toDigits_append_digits
            (fun other member => each other (List.mem_cons_of_mem _ member)) positive,
          Nat.toDigits_of_lt_base small, same, List.singleton_append]

private theorem head?_toDigits (value : Nat) (zero : (Nat.toDigits 10 value).head? = some '0') :
    value = 0 := by
  induction value using Nat.strongRecOn with
  | ind value inductionHypothesis =>
      by_cases small : value < 10
      · rw [Nat.toDigits_of_lt_base small] at zero
        have table : forall digit : Fin 10, digit.val.digitChar = '0' -> digit.val = 0 := by decide
        exact table ⟨value, small⟩ (Option.some.inj zero)
      · rw [Nat.toDigits_of_base_le (by decide) (Nat.le_of_not_lt small),
          List.head?_append_of_ne_nil _ Nat.toDigits_ne_nil] at zero
        have shorter := inductionHypothesis (value / 10) (by omega) zero
        omega

theorem isNumeral_toDigits (value : Nat) : IsNumeral (Nat.toDigits 10 value) := by
  refine ⟨Nat.toDigits_ne_nil, fun c member => Nat.isDigit_of_mem_toDigits (by decide)
    (by decide) member,
    fun zero => ?_⟩
  rw [head?_toDigits value zero]
  rfl

/-! ## Lines -/

/-- Each line with a line break behind it. -/
def joinLines (lines : List (List Char)) : List Char :=
  lines.flatMap fun line => line ++ ['\n']

/-- The complete lines of a text, and what stands behind the last of them. -/
def readLines : List Char -> List (List Char) × List Char
  | [] => ([], [])
  | c :: rest =>
      if c = '\n' then ([] :: (readLines rest).1, (readLines rest).2)
      else
        match (readLines rest).1 with
        | [] => ([], c :: (readLines rest).2)
        | first :: others => ((c :: first) :: others, (readLines rest).2)

private theorem readLines_line (line rest : List Char) (clean : '\n' ∉ line) :
    readLines (line ++ '\n' :: rest) = (line :: (readLines rest).1, (readLines rest).2) := by
  induction line with
  | nil => simp [readLines]
  | cons c others inductionHypothesis =>
      have different : ¬ c = '\n' := fun same => clean (same ▸ List.mem_cons_self)
      have read := inductionHypothesis fun member => clean (List.mem_cons_of_mem _ member)
      rw [List.cons_append, readLines, if_neg different, read]

private theorem readLines_tail (tail : List Char) (clean : '\n' ∉ tail) :
    readLines tail = ([], tail) := by
  induction tail with
  | nil => rfl
  | cons c others inductionHypothesis =>
      have different : ¬ c = '\n' := fun same => clean (same ▸ List.mem_cons_self)
      have read := inductionHypothesis fun member => clean (List.mem_cons_of_mem _ member)
      rw [readLines, if_neg different, read]

/-- Lines without line breaks, and a piece of a line behind them, are read
back as they were written. -/
theorem readLines_joinLines (lines : List (List Char)) (tail : List Char)
    (clean : forall line, line ∈ lines -> '\n' ∉ line) (cleanTail : '\n' ∉ tail) :
    readLines (joinLines lines ++ tail) = (lines, tail) := by
  induction lines with
  | nil => exact readLines_tail tail cleanTail
  | cons line others inductionHypothesis =>
      have split : joinLines (line :: others) ++ tail = line ++ '\n' ::
          (joinLines others ++ tail) := by
        simp [joinLines]
      rw [split, readLines_line _ _ (clean line List.mem_cons_self),
        inductionHypothesis fun other member => clean other (List.mem_cons_of_mem _ member)]

end Foundation
end RiskSentinel
