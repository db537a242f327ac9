import Mathlib.Data.List.Basic

namespace RiskSentinel
namespace Foundation
namespace Json

/-!
# Flat JSON objects as text

An object here is a list of members whose values are unsigned integers and
strings.  `dump` writes it in the compact form: no blanks, and inside a string
only quotation marks, backslashes and control characters are escaped.  `read`
reads this form back.  A string is read one character at a time, with the
position inside an escape sequence as the state of the reader.

Reading inverts writing, so different objects have different texts; and the
text of an object has no line break, whatever its strings contain.
-/

/-- The values of members. -/
inductive Scalar where
  | number (value : Nat)
  | text (value : String)
deriving DecidableEq, Repr

/-- The members in the order in which they are written. -/
abbrev Object := List (String × Scalar)

/-! ## Writing -/

/-- One character inside a string. -/
def escapeChar (c : Char) : List Char :=
  if c = '"' then ['\\', '"']
  else if c = '\\' then ['\\', '\\']
  else if c.toNat = 8 then ['\\', 'b']
  else if c.toNat = 12 then ['\\', 'f']
  else if c = '\n' then ['\\', 'n']
  else if c = '\r' then ['\\', 'r']
  else if c = '\t' then ['\\', 't']
  else if c.toNat < 32
    then ['\\', 'u', '0', '0', (c.toNat / 16).digitChar, (c.toNat % 16).digitChar]
  else [c]

/-- The characters up to and including the closing quotation mark. -/
def closeString (text : List Char) : List Char :=
  text.flatMap escapeChar ++ ['"']

def dumpText (text : String) : List Char :=
  '"' :: closeString text.toList

def Scalar.dump : Scalar -> List Char
  | .number value => Nat.toDigits 10 value
  | .text value => dumpText value

def dumpMember (entry : String × Scalar) : List Char :=
  dumpText entry.1 ++ ':' :: entry.2.dump

/-- The members with commas between them and the closing brace. -/
def dumpMembers : Object -> List Char
  | [] => ['}']
  | [entry] => dumpMember entry ++ ['}']
  | entry :: others => dumpMember entry ++ ',' :: dumpMembers others

def dump (object : Object) : List Char :=
  '{' :: dumpMembers object

/-! ## Reading -/

/-- Where the reader stands inside a string. -/
inductive Place where
  | plain
  | escape
  | unicode (digits value : Nat)

def hexValue (c : Char) : Option Nat :=
  if '0' ≤ c ∧ c ≤ '9' then some (c.toNat - 48)
  else if 'a' ≤ c ∧ c ≤ 'f' then some (c.toNat - 87)
  else if 'A' ≤ c ∧ c ≤ 'F' then some (c.toNat - 55)
  else none

/-- The character that a backslash and a letter stand for. -/
def unescape (c : Char) : Option Char :=
  if c = '"' ∨ c = '\\' ∨ c = '/' then some c
  else if c = 'b' then some (Char.ofNat 8)
  else if c = 'f' then some (Char.ofNat 12)
  else if c = 'n' then some '\n'
  else if c = 'r' then some '\r'
  else if c = 't' then some '\t'
  else none

/-- Put a character in front of what is read behind it. -/
def push (c : Char) (later : Option (List Char × List Char)) : Option (List Char × List Char) :=
  later.map fun found => (c :: found.1, found.2)

/-- The characters of a string and what follows its closing mark. -/
def readChars : Place -> List Char -> Option (List Char × List Char)
  | _, [] => none
  | .plain, c :: rest =>
      if c = '"' then some ([], rest)
      else if c = '\\' then readChars .escape rest
      else if c.toNat < 32 then none
      else push c (readChars .plain rest)
  | .escape, c :: rest =>
      if c = 'u' then readChars (.unicode 0 0) rest
      else
        match unescape c with
        | some meant => push meant (readChars .plain rest)
        | none => none
  | .unicode digits value, c :: rest =>
      match hexValue c with
      | none => none
      | some digit =>
          if digits < 3 then readChars (.unicode (digits + 1) (16 * value + digit)) rest
          else push (Char.ofNat (16 * value + digit)) (readChars .plain rest)

def readScalar : List Char -> Option (Scalar × List Char)
  | '"' :: rest => (readChars .plain rest).map fun found => (.text (String.ofList found.1), found.2)
  | text =>
      if text.takeWhile Char.isDigit = [] then none
      else some (.number (Nat.ofDigitChars 10 (text.takeWhile Char.isDigit) 0),
        text.dropWhile Char.isDigit)

def readMember (text : List Char) : Option ((String × Scalar) × List Char) :=
  match readScalar text with
  | some (.text key, ':' :: rest) => (readScalar rest).map fun found => ((key, found.1), found.2)
  | _ => none

/-- The members and the closing brace.  The first argument bounds their
number. -/
def readMembers : Nat -> List Char -> Option Object
  | 0, _ => none
  | bound + 1, text =>
      match readMember text with
      | some (entry, ['}']) => some [entry]
      | some (entry, ',' :: rest) => (readMembers bound rest).map (entry :: ·)
      | _ => none

def read (text : List Char) : Option Object :=
  match text with
  | ['{', '}'] => some []
  | '{' :: rest => readMembers rest.length rest
  | _ => none

/-! ## Reading inverts writing -/

private theorem hexValue_digitChar : forall value : Fin 16,
    hexValue value.val.digitChar = some value.val := by
  decide

private theorem readChars_unicode (value : Nat) (small : value < 32) (rest : List Char) :
    readChars .escape ('u' :: '0' :: '0' :: (value / 16).digitChar ::
        (value % 16).digitChar :: rest) =
      push (Char.ofNat value) (readChars .plain rest) := by
  have high := hexValue_digitChar ⟨value / 16, by omega⟩
  have low := hexValue_digitChar ⟨value % 16, by omega⟩
  have zero : hexValue '0' = some 0 := by decide
  have joined : 16 * (value / 16) + value % 16 = value := by omega
  simp [readChars, zero, high, low, joined]

/-- An escaped character is read as the character itself. -/
theorem readChars_escapeChar (c : Char) (rest : List Char) :
    readChars .plain (escapeChar c ++ rest) = push c (readChars .plain rest) := by
  unfold escapeChar
  split_ifs with quote backslash backspace formFeed newline carriageReturn tab control
  · subst quote
    rfl
  · subst backslash
    rfl
  · rw [← Char.ofNat_toNat c, backspace]
    rfl
  · rw [← Char.ofNat_toNat c, formFeed]
    rfl
  · subst newline
    rfl
  · subst carriageReturn
    rfl
  · subst tab
    rfl
  · have read := readChars_unicode c.toNat control rest
    rw [Char.ofNat_toNat] at read
    exact read
  · simp [readChars, quote, backslash, control]

theorem readChars_closeString (text rest : List Char) :
    readChars .plain (closeString text ++ rest) = some (text, rest) := by
  induction text with
  | nil => rfl
  | cons c others inductionHypothesis =>
      have split : closeString
          (c :: others) ++ rest = escapeChar c ++ (closeString others ++ rest) := by
        simp [closeString]
      rw [split, readChars_escapeChar, inductionHypothesis]
      rfl

/-- The text does not go on with a digit. -/
def EndsNumber (rest : List Char) : Prop :=
  forall c, rest.head? = some c -> c.isDigit = false

private theorem takeWhile_digits {digits rest : List Char}
    (each : forall c, c ∈ digits -> c.isDigit = true) (ends : EndsNumber rest) :
    (digits ++ rest).takeWhile Char.isDigit = digits ∧
      (digits ++ rest).dropWhile Char.isDigit = rest := by
  rw [List.takeWhile_append_of_pos each, List.dropWhile_append_of_pos each]
  cases rest with
  | nil => simp
  | cons c others =>
      have stops : ¬ c.isDigit = true := by
        simp [ends c rfl]
      rw [List.takeWhile_cons_of_neg stops, List.dropWhile_cons_of_neg stops, List.append_nil]
      exact ⟨rfl, rfl⟩

theorem readScalar_dump (value : Scalar) (rest : List Char) (ends : EndsNumber rest) :
    readScalar (value.dump ++ rest) = some (value, rest) := by
  cases value with
  | text value =>
      change (readChars .plain (closeString value.toList ++ rest)).map _ = _
      rw [readChars_closeString]
      simp
  | number value =>
      have digits : forall c, c ∈ Nat.toDigits 10 value -> c.isDigit = true := fun c member =>
        Nat.isDigit_of_mem_toDigits (by decide) (by decide) member
      have cut := takeWhile_digits digits ends
      have nonempty : Nat.toDigits 10 value ≠ [] := Nat.toDigits_ne_nil
      rw [Scalar.dump]
      unfold readScalar
      split
      · rename_i tail shape
        -- A digit is not a quotation mark.
        cases front : Nat.toDigits 10 value with
        | nil => exact absurd front nonempty
        | cons c others =>
            rw [front, List.cons_append, List.cons.injEq] at shape
            have digit := digits c (by rw [front]; exact List.mem_cons_self)
            rw [shape.1] at digit
            cases digit
      · rw [cut.1, cut.2, if_neg nonempty, Nat.ofDigitChars_ten_toDigits]

theorem readMember_dump (entry : String × Scalar) (rest : List Char) (ends : EndsNumber rest) :
    readMember (dumpMember entry ++ rest) = some (entry, rest) := by
  have colon : EndsNumber (':' :: (entry.2.dump ++ rest)) := by
    intro c found
    cases found
    rfl
  have key := readScalar_dump (.text entry.1) _ colon
  have split : dumpMember entry ++ rest = (Scalar.text entry.1).dump ++ ':' ::
      (entry.2.dump ++ rest) := by
    simp [dumpMember, Scalar.dump]
  rw [readMember, split, key]
  simp only [readScalar_dump entry.2 rest ends, Option.map_some]

private theorem readMembers_dump (entry : String × Scalar) (others : Object) (bound : Nat)
    (enough : others.length < bound) :
    readMembers bound (dumpMembers (entry :: others)) = some (entry :: others) := by
  induction others generalizing entry bound with
  | nil =>
      cases bound with
      | zero => cases enough
      | succ bound =>
          have closes : EndsNumber ['}'] := by
            intro c found
            cases found
            rfl
          rw [dumpMembers, readMembers, readMember_dump entry _ closes]
          rfl
  | cons next rest inductionHypothesis =>
      cases bound with
      | zero => cases enough
      | succ bound =>
          have comma : EndsNumber (',' :: dumpMembers (next :: rest)) := by
            intro c found
            cases found
            rfl
          rw [dumpMembers, readMembers, readMember_dump entry _ comma]
          · simp only [inductionHypothesis next bound (Nat.lt_of_succ_lt_succ enough),
              Option.map_some]
          · simp

private theorem length_le_dumpMembers (object : Object) :
    object.length ≤ (dumpMembers object).length := by
  induction object with
  | nil => exact Nat.zero_le _
  | cons entry others inductionHypothesis =>
      cases others with
      | nil =>
          rw [dumpMembers, List.length_append]
          exact Nat.le_add_left _ _
      | cons next rest =>
          have written : (dumpMembers (entry :: next :: rest)).length =
              (dumpMember entry).length + ((dumpMembers (next :: rest)).length + 1) := by
            rw [dumpMembers, List.length_append, List.length_cons]
            simp
          rw [written, List.length_cons]
          omega

private theorem dumpMembers_starts (entry : String × Scalar) (others : Object) :
    Exists fun tail => dumpMembers (entry :: others) = '"' :: tail := by
  cases others with
  | nil => exact ⟨_, rfl⟩
  | cons next rest => exact ⟨_, rfl⟩

theorem read_dump (object : Object) : read (dump object) = some object := by
  cases object with
  | nil => rfl
  | cons entry others =>
      rcases dumpMembers_starts entry others with ⟨tail, starts⟩
      have enough : others.length < (dumpMembers (entry :: others)).length :=
        length_le_dumpMembers (entry :: others)
      have members := readMembers_dump entry others _ enough
      rw [dump]
      rw [starts] at members ⊢
      exact members

/-! ## One line -/

private theorem newline_not_mem_escapeChar (c : Char) : '\n' ∉ escapeChar c := by
  have digits : forall value : Fin 16, '\n' ≠ value.val.digitChar := by decide
  unfold escapeChar
  split_ifs with quote backslash backspace formFeed newline carriageReturn tab control
  · decide
  · decide
  · decide
  · decide
  · decide
  · decide
  · decide
  · have high := digits ⟨c.toNat / 16, by omega⟩
    have low := digits ⟨c.toNat % 16, by omega⟩
    simp [high, low]
  · simpa using Ne.symm newline

private theorem newline_not_mem_dumpText (text : String) : '\n' ∉ dumpText text := by
  simp [dumpText, closeString, newline_not_mem_escapeChar]

private theorem newline_not_mem_scalar (value : Scalar) : '\n' ∉ value.dump := by
  cases value with
  | text value => exact newline_not_mem_dumpText value
  | number value =>
      intro member
      have digit := Nat.isDigit_of_mem_toDigits (by decide) (by decide) member
      cases digit

private theorem newline_not_mem_members (object : Object) : '\n' ∉ dumpMembers object := by
  have one : forall entry, '\n' ∉ dumpMember entry := fun entry => by
    simp [dumpMember, newline_not_mem_dumpText, newline_not_mem_scalar]
  induction object with
  | nil => decide
  | cons entry others inductionHypothesis =>
      cases others with
      | nil => simp [dumpMembers, one]
      | cons next rest => simp [dumpMembers, one, inductionHypothesis]

/-- The text of an object is one line. -/
theorem newline_not_mem_dump (object : Object) : '\n' ∉ dump object := by
  simp [dump, newline_not_mem_members]

/-! ## Libraries -/

/-- Numbers have 64 bits. -/
def Scalar.Fits : Scalar -> Prop
  | .number value => value < UInt64.size
  | .text _ => True

/-- An object that keeps the order in which its members were assigned. -/
structure Distinct (object : Object) : Prop where
  keys : (object.map Prod.fst).Nodup
  fits : forall entry, entry ∈ object -> entry.2.Fits

/-- An object that keeps its members in the order of their keys. -/
structure Sorted (object : Object) : Prop where
  keys : (object.map Prod.fst).Pairwise (· < ·)
  fits : forall entry, entry ∈ object -> entry.2.Fits

/-- A reader and a writer of which two things are known: an object that is
written is read back, and it is written on one line. -/
structure Library (IsObject : Object -> Prop) where
  dump : Object -> List Char
  read : List Char -> Option Object
  read_dump : forall object, IsObject object -> read (dump object) = some object
  oneLine : forall object, IsObject object -> '\n' ∉ dump object

variable {IsObject : Object -> Prop}

theorem Library.dump_injective (library : Library IsObject) {left right : Object}
    (isLeft : IsObject left) (isRight : IsObject right)
    (same : library.dump left = library.dump right) : left = right := by
  have fromLeft := library.read_dump left isLeft
  rw [same, library.read_dump right isRight] at fromLeft
  exact (Option.some.inj fromLeft).symm

/-- The compact form is such a library. -/
def compact (IsObject : Object -> Prop) : Library IsObject where
  dump := dump
  read := read
  read_dump object _ := read_dump object
  oneLine object _ := newline_not_mem_dump object

/-! ## Members by key -/

section Members

variable {Value : Type}

/-- Assign a member of an object whose keys are kept in order. -/
def assign (key : String) (value : Value) : List (String × Value) -> List (String × Value)
  | [] => [(key, value)]
  | entry :: others =>
      if key = entry.1 then (key, value) :: others
      else if key < entry.1 then (key, value) :: entry :: others
      else entry :: assign key value others

theorem mem_assign {key : String} {value : Value} {members : List (String × Value)}
    {entry : String × Value} (listed : entry ∈ assign key value members) :
    entry = (key, value) ∨ entry ∈ members := by
  induction members with
  | nil => exact Or.inl (List.mem_singleton.mp listed)
  | cons first others inductionHypothesis =>
      unfold assign at listed
      split at listed
      · exact (List.mem_cons.mp listed).imp_right (List.mem_cons_of_mem _)
      · split at listed
        · exact List.mem_cons.mp listed
        · rcases List.mem_cons.mp listed with same | later
          · exact Or.inr (same ▸ List.mem_cons_self)
          · exact (inductionHypothesis later).imp_right (List.mem_cons_of_mem _)

/-- The keys stay in order. -/
theorem ordered_assign {key : String} {value : Value} {members : List (String × Value)}
    (ordered : (members.map Prod.fst).Pairwise (· < ·)) :
    ((assign key value members).map Prod.fst).Pairwise (· < ·) := by
  induction members with
  | nil => exact List.pairwise_singleton _ _
  | cons first others inductionHypothesis =>
      rw [List.map_cons, List.pairwise_cons] at ordered
      unfold assign
      by_cases here : key = first.1
      · rw [if_pos here, List.map_cons, List.pairwise_cons]
        exact ⟨here ▸ ordered.1, ordered.2⟩
      · rw [if_neg here]
        by_cases before : key < first.1
        · rw [if_pos before, List.map_cons, List.map_cons, List.pairwise_cons, List.pairwise_cons]
          refine ⟨fun other listed => ?_, ordered⟩
          rcases List.mem_cons.mp listed with same | later
          · exact same ▸ before
          · exact String.lt_trans before (ordered.1 other later)
        · rw [if_neg before, List.map_cons, List.pairwise_cons]
          refine ⟨fun other listed => ?_, inductionHypothesis ordered.2⟩
          rcases List.mem_map.mp listed with ⟨entry, assigned, rfl⟩
          rcases mem_assign assigned with rfl | old
          · -- The order is linear, so the entry's key is below the new one.
            apply Decidable.not_not.mp
            intro above
            exact here (String.le_antisymm (String.not_lt.mp above) (String.not_lt.mp before))
          · exact ordered.1 _ (List.mem_map_of_mem old)

@[simp] theorem lookup_assign (key other : String) (value : Value)
    (members : List (String × Value)) :
    (assign key value members).lookup other =
      if other = key then some value else members.lookup other := by
  induction members with
  | nil =>
      by_cases same : other = key
      · simp [assign, same]
      · simp [assign, same]
  | cons entry others inductionHypothesis =>
      unfold assign
      by_cases here : key = entry.1
      · rw [if_pos here, List.lookup_cons, List.lookup_cons, ← here]
        by_cases same : other = key
        · simp [same]
        · simp [same, beq_eq_false_iff_ne.mpr same]
      · rw [if_neg here]
        by_cases before : key < entry.1
        · rw [if_pos before, List.lookup_cons]
          by_cases same : other = key
          · simp [same]
          · simp [same, beq_eq_false_iff_ne.mpr same]
        · rw [if_neg before, List.lookup_cons, inductionHypothesis, List.lookup_cons]
          by_cases first : other = entry.1
          · simp [first, Ne.symm here]
          · simp [beq_eq_false_iff_ne.mpr first]

end Members

/-- Assigning a member keeps an object sorted. -/
theorem Sorted.assign {object : Object} (sorted : Sorted object) (key : String) {value : Scalar}
    (fits : value.Fits) : Sorted (Json.assign key value object) where
  keys := ordered_assign sorted.keys
  fits entry member := by
    rcases mem_assign member with rfl | kept
    · exact fits
    · exact sorted.fits entry kept

theorem sorted_empty : Sorted [] where
  keys := List.Pairwise.nil
  fits _ impossible := by cases impossible

end Json
end Foundation
end RiskSentinel
