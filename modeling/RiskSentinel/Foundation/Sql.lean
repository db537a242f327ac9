import RiskSentinel.Foundation.Bytes
import RiskSentinel.Foundation.Text

namespace RiskSentinel
namespace Foundation
namespace Sql

/-!
# Reading an insertion of constants

The part of SQL in which one row of constants is inserted: words, numbers,
standard string literals, the punctuation of lists, and `decode` of hexadecimal
digits.  A text that uses anything else of the language has no reading here.

The text is read one character after another.  The mode of the reader is what
it knows of an unfinished token.  In a standard literal only the quote is
special: two quotes stand for one, a backslash for itself, and a closing quote
is followed by more of the same literal when the blanks behind it contain a
line break and another quote follows.
-/

inductive Token where
  | word (letters : String)
  | number (value : Nat)
  | text (content : List Char)
  | symbol (c : Char)
deriving DecidableEq, Repr

/-- Between two tokens, or inside one of them.  A literal is open in `text`.
In `quote` its last character was a quote, which may be the first of two; in
`gap` it is closed and followed by blanks, with or without a line break. -/
inductive Mode where
  | between
  | word (letters : List Char)
  | number (value : Nat)
  | text (content : List Char)
  | quote (content : List Char)
  | gap (content : List Char) (lineBreak : Bool)
deriving DecidableEq, Repr

def isBlank (c : Char) : Bool :=
  [' ', '\t', '\n', '\r', '\x0b', '\x0c'].contains c

def isLineBreak (c : Char) : Bool :=
  ['\n', '\r'].contains c

def isWordStart (c : Char) : Bool :=
  c.isAlpha || c == '_' || decide (128 ≤ c.toNat)

/-- The first character of a token. -/
def start (c : Char) : Option (List Token × Mode) :=
  if isBlank c then some ([], .between)
  else if ['(', ')', ',', ';'].contains c then some ([.symbol c], .between)
  else if c = '\'' then some ([], .text [])
  else if c.isDigit then some ([], .number (c.toNat - '0'.toNat))
  else if isWordStart c then some ([], .word [c.toLower])
  else none

/-- A token ends where a character cannot continue it. -/
def startBehind (token : Token) (c : Char) : Option (List Token × Mode) :=
  (start c).map fun result => (token :: result.1, result.2)

/-- What one character does: the tokens that it completes, and the mode behind
it. -/
def step : Mode -> Char -> Option (List Token × Mode)
  | .between, c => start c
  | .word letters, c =>
      if isWordStart c || c.isDigit || c == '$' then some ([], .word (letters ++ [c.toLower]))
      else if c = '\'' then none
      else startBehind (.word (String.ofList letters)) c
  | .number value, c =>
      if c.isDigit then some ([], .number (10 * value + (c.toNat - '0'.toNat)))
      else if isWordStart c then none
      else startBehind (.number value) c
  | .text content, c => some ([], if c = '\'' then .quote content else .text (content ++ [c]))
  | .quote content, c =>
      if c = '\'' then some ([], .text (content ++ [c]))
      else if isBlank c then some ([], .gap content (isLineBreak c))
      else startBehind (.text content) c
  | .gap content lineBreak, c =>
      if isBlank c then some ([], .gap content (lineBreak || isLineBreak c))
      else if c = '\'' && lineBreak then some ([], .text content)
      else startBehind (.text content) c

/-- The tokens that a text completes, and the mode behind it. -/
def run : Mode -> List Char -> Option (List Token × Mode)
  | mode, [] => some ([], mode)
  | mode, c :: rest =>
      (step mode c).bind fun first => (run first.2 rest).map fun later =>
      (first.1 ++ later.1, later.2)

/-- The end of a text ends a token, but not an open literal. -/
def finish : Mode -> Option (List Token)
  | .between => some []
  | .word letters => some [.word (String.ofList letters)]
  | .number value => some [.number value]
  | .text _ => none
  | .quote content => some [.text content]
  | .gap content _ => some [.text content]

/-- The tokens of a text. -/
def tokens (text : List Char) : Option (List Token) :=
  (run .between text).bind fun result => (finish result.2).map fun last => result.1 ++ last

/-! ## Insertions -/

/-- The value of a hexadecimal digit. -/
def hexDigitValue (c : Char) : Option UInt8 :=
  if '0' ≤ c ∧ c ≤ '9' then some (UInt8.ofNat (c.toNat - '0'.toNat))
  else if 'a' ≤ c ∧ c ≤ 'f' then some (UInt8.ofNat (c.toNat - 'a'.toNat + 10))
  else if 'A' ≤ c ∧ c ≤ 'F' then some (UInt8.ofNat (c.toNat - 'A'.toNat + 10))
  else none

/-- What `decode` skips between two bytes. -/
def isHexBlank (c : Char) : Bool :=
  [' ', '\t', '\n', '\r'].contains c

/-- `decode` of the format `hex`. -/
def decodeHex : List Char -> Option (List UInt8)
  | [] => some []
  | [c] => if isHexBlank c then some [] else none
  | c :: d :: rest =>
      if isHexBlank c then decodeHex (d :: rest)
      else do
        let high ← hexDigitValue c
        let low ← hexDigitValue d
        let bytes ← decodeHex rest
        return ((high <<< 4) ||| low) :: bytes

inductive Constant where
  | number (value : Nat)
  | text (content : List Char)
  | bytes (content : List UInt8)
  | boolean (value : Bool)
deriving DecidableEq, Repr

/-- One row for a table. -/
structure Insertion where
  table : String
  assignments : List (String × Constant)
deriving DecidableEq, Repr

/-- The expected token in front. -/
def expect (token : Token) : List Token -> Option (List Token)
  | [] => none
  | head :: rest => if head = token then some rest else none

def readName : List Token -> Option (String × List Token)
  | .word letters :: rest => some (letters, rest)
  | _ => none

/-- Names with commas between them, up to the closing parenthesis. -/
def readColumns : List Token -> Option (List String × List Token)
  | .word name :: .symbol ')' :: rest => some ([name], rest)
  | .word name :: .symbol ',' :: rest => (readColumns rest).map fun columns =>
      (name :: columns.1, columns.2)
  | _ => none

/-- The arguments of `decode`. -/
def readDecode : List Token -> Option (Constant × List Token)
  | .symbol '(' :: .text digits :: .symbol ',' :: .text format :: .symbol ')' :: rest =>
      if format = ['h', 'e', 'x'] then (decodeHex digits).map fun bytes =>
      (.bytes bytes, rest) else none
  | _ => none

def readConstant : List Token -> Option (Constant × List Token)
  | .number value :: rest => some (.number value, rest)
  | .text content :: rest => some (.text content, rest)
  | .word letters :: rest =>
      if letters = "true" then some (.boolean true, rest)
      else if letters = "false" then some (.boolean false, rest)
      else if letters = "decode" then readDecode rest
      else none
  | _ => none

/-- A constant for each column, with commas between them, up to the closing
parenthesis. -/
def readConstants : List String -> List Token -> Option (List (String × Constant) × List Token)
  | [], _ => none
  | [column], tokens => do
      let (constant, tokens) ← readConstant tokens
      let tokens ← expect (.symbol ')') tokens
      return ([(column, constant)], tokens)
  | column :: columns, tokens => do
      let (constant, tokens) ← readConstant tokens
      let tokens ← expect (.symbol ',') tokens
      let (others, tokens) ← readConstants columns tokens
      return ((column, constant) :: others, tokens)

/-- The tokens of one statement. -/
def readInsertion (tokens : List Token) : Option Insertion := do
  let tokens ← expect (.word "insert") tokens
  let tokens ← expect (.word "into") tokens
  let (table, tokens) ← readName tokens
  let tokens ← expect (.symbol '(') tokens
  let (columns, tokens) ← readColumns tokens
  let tokens ← expect (.word "values") tokens
  let tokens ← expect (.symbol '(') tokens
  let (assignments, tokens) ← readConstants columns tokens
  if tokens = [] ∨ tokens = [.symbol ';'] then return { table, assignments } else none

def parseInsertion (text : List Char) : Option Insertion :=
  (tokens text).bind readInsertion

/-- A constant with a comma behind it. -/
theorem readConstants_comma {column next : String} {columns : List String}
    {tokens behind : List Token} {constant : Constant}
    (read : readConstant tokens = some (constant, .symbol ',' :: behind)) :
    readConstants (column :: next :: columns) tokens =
      (readConstants (next :: columns) behind).map fun result =>
      ((column, constant) :: result.1, result.2) := by
  have comma : expect (.symbol ',') (.symbol ',' :: behind) = some behind := by
    rw [expect, if_pos rfl]
  simp only [readConstants, read, comma, Option.bind_eq_bind, Option.bind_some]
  cases readConstants (next :: columns) behind <;> rfl

/-- The first column gets the first constant. -/
theorem readConstants_head {column : String} {columns : List String}
    {tokens behind rest : List Token} {constant : Constant} {assignments : List (String × Constant)}
    (read : readConstant tokens = some (constant, behind))
    (done : readConstants (column :: columns) tokens = some (assignments, rest)) :
    Exists fun others => assignments = (column, constant) :: others := by
  cases columns with
  | nil =>
      simp only [readConstants, read, Option.bind_eq_bind, Option.bind_some] at done
      rcases Option.bind_eq_some_iff.mp done with ⟨_, _, last⟩
      cases last
      exact ⟨[], rfl⟩
  | cons next columns =>
      simp only [readConstants, read, Option.bind_eq_bind, Option.bind_some] at done
      rcases Option.bind_eq_some_iff.mp done with ⟨_, _, more⟩
      rcases Option.bind_eq_some_iff.mp more with ⟨others, _, last⟩
      cases last
      exact ⟨others.1, rfl⟩

/-! ## Parts of a text -/

/-- A part of a text completes these tokens and leaves this mode. -/
def Scans (mode : Mode) (text : List Char) (done : List Token) (behind : Mode) : Prop :=
  run mode text = some (done, behind)

theorem run_append (mode : Mode) (left right : List Char) :
    run mode (left ++ right) =
      (run mode left).bind fun first => (run first.2 right).map fun later =>
      (first.1 ++ later.1, later.2) := by
  induction left generalizing mode with
  | nil => simp [run]
  | cons c rest inductionHypothesis =>
      rw [List.cons_append, run, run]
      cases step mode c with
      | none => rfl
      | some first =>
          simp only [Option.bind_some, inductionHypothesis]
          cases run first.2 rest with
          | none => rfl
          | some middle =>
              simp only [Option.map_some, Option.bind_some, Option.map_map, List.append_assoc]
              rfl

theorem Scans.append {mode middle behind : Mode} {left right : List Char} {done more : List Token}
    (first : Scans mode left done middle) (second : Scans middle right more behind) :
    Scans mode (left ++ right) (done ++ more) behind := by
  unfold Scans at first second ⊢
  rw [run_append, first, Option.bind_some, second, Option.map_some]

/-- The text behind a part is read from the mode that the part leaves. -/
theorem Scans.run_append {mode middle : Mode} {left : List Char} {done : List Token}
    (first : Scans mode left done middle) (right : List Char) :
    run mode (left ++ right) = (run middle right).map fun later => (done ++ later.1, later.2) := by
  unfold Scans at first
  rw [Sql.run_append, first, Option.bind_some]

theorem Scans.tokens {text : List Char} {done : List Token}
    (scanned : Scans .between text done .between) : tokens text = some done := by
  unfold Scans at scanned
  simp only [Sql.tokens, scanned, Option.bind_some, finish, Option.map_some, List.append_nil]

/-- Inside a literal, characters other than the quote stand for themselves. -/
theorem scans_content (before : List Char) {content : List Char} (clean : '\'' ∉ content) :
    Scans (.text before) content [] (.text (before ++ content)) := by
  induction content generalizing before with
  | nil =>
      rw [List.append_nil]
      rfl
  | cons c rest inductionHypothesis =>
      have other : c ≠ '\'' := fun same => clean (same ▸ List.mem_cons_self)
      have first : Scans (.text before) [c] [] (.text (before ++ [c])) := by
        simp [Scans, run, step, other]
      have later := inductionHypothesis (before ++ [c]) fun member =>
        clean (List.mem_cons_of_mem c member)
      rw [List.append_assoc, List.singleton_append] at later
      exact first.append later

private theorem isBlank_of_isDigit {c : Char} (digit : c.isDigit = true) : isBlank c = false := by
  by_cases blank : isBlank c = true
  · simp only [isBlank, List.contains_iff_mem, List.mem_cons, List.not_mem_nil, or_false] at blank
    rcases blank with rfl | rfl | rfl | rfl | rfl | rfl <;> cases digit
  · exact Bool.eq_false_iff.mpr blank

private theorem start_of_isDigit {c : Char} (digit : c.isDigit = true) :
    start c = some ([], .number (c.toNat - '0'.toNat)) := by
  have noSymbol : ['(', ')', ',', ';'].contains c = false := by
    apply Bool.eq_false_iff.mpr
    intro symbol
    simp only [List.contains_iff_mem, List.mem_cons, List.not_mem_nil, or_false] at symbol
    rcases symbol with rfl | rfl | rfl | rfl <;> cases digit
  have noQuote : c ≠ '\'' := by
    rintro rfl
    cases digit
  simp only [start, isBlank_of_isDigit digit, noSymbol, noQuote, digit, Bool.false_eq_true,
    if_false, if_true]

private theorem scans_digits (value : Nat) {digits : List Char}
    (each : forall c, c ∈ digits -> c.isDigit = true) :
    Scans (.number value) digits [] (.number (Nat.ofDigitChars 10 digits value)) := by
  induction digits generalizing value with
  | nil => rfl
  | cons c rest inductionHypothesis =>
      have first : Scans (.number value) [c] [] (.number (10 * value + (c.toNat - '0'.toNat))) := by
        simp [Scans, run, step, each c List.mem_cons_self]
      rw [Nat.ofDigitChars_cons]
      exact first.append (inductionHypothesis _ fun other member => each other
        (List.mem_cons_of_mem c member))

theorem scans_numeral (value : Nat) : Scans .between (Nat.toDigits 10 value) []
    (.number value) := by
  have each : forall c, c ∈ Nat.toDigits 10 value -> c.isDigit = true :=
    fun c member => Nat.isDigit_of_mem_toDigits (by decide) (by decide) member
  have denotes : Nat.ofDigitChars 10 (Nat.toDigits 10 value) 0 = value :=
    Nat.ofDigitChars_ten_toDigits
  cases digits : Nat.toDigits 10 value with
  | nil => exact absurd digits Nat.toDigits_ne_nil
  | cons c rest =>
      rw [digits] at each denotes
      have first : Scans .between [c] [] (.number (c.toNat - '0'.toNat)) := by
        simp [Scans, run, step, start_of_isDigit (each c List.mem_cons_self)]
      have later := scans_digits (c.toNat - '0'.toNat) fun other member =>
        each other (List.mem_cons_of_mem c member)
      rw [Nat.ofDigitChars_cons, Nat.mul_zero, Nat.zero_add] at denotes
      rw [denotes] at later
      exact first.append later

/-! ## Hexadecimal digits -/

/-- The lowercase digit of a value below sixteen. -/
def hexDigit (value : UInt8) : Char :=
  ['0', '1', '2', '3', '4', '5', '6', '7', '8', '9', 'a', 'b', 'c', 'd', 'e',
    'f'].getD value.toNat '0'

/-- Two digits for each byte. -/
def hexText (bytes : List UInt8) : List Char :=
  bytes.flatMap fun byte : UInt8 => [hexDigit (byte >>> 4), hexDigit (byte &&& 15)]

/-- The output of a byte column. -/
def byteaText (bytes : List UInt8) : List Char :=
  '\\' :: 'x' :: hexText bytes

/-- A digit is read back, and it is neither a blank nor a quote. -/
theorem hexDigit_facts {value : UInt8} (small : value.toNat < 16) :
    hexDigitValue (hexDigit value) = some value ∧ isBlank (hexDigit value) = false ∧
      isHexBlank (hexDigit value) = false ∧ hexDigit value ≠ '\'' := by
  have table : forall value : Fin 16,
      hexDigitValue (hexDigit (UInt8.ofNat value.val)) = some (UInt8.ofNat value.val) ∧
      isBlank (hexDigit (UInt8.ofNat value.val)) = false ∧
      isHexBlank (hexDigit (UInt8.ofNat value.val)) = false ∧
      hexDigit (UInt8.ofNat value.val) ≠ '\'' := by
    decide
  have here := table ⟨value.toNat, small⟩
  rw [UInt8.ofNat_toNat] at here
  exact here

theorem decodeHex_hexText (bytes : List UInt8) : decodeHex (hexText bytes) = some bytes := by
  induction bytes with
  | nil => rfl
  | cons byte rest inductionHypothesis =>
      rcases nibbles byte with ⟨highSmall, lowSmall, joined⟩
      have high := hexDigit_facts highSmall
      have low := hexDigit_facts lowSmall
      change decodeHex (hexDigit (byte >>> 4) :: hexDigit (byte &&& 15) :: hexText rest) =
        some (byte :: rest)
      simp only [decodeHex, high.1, high.2.2.1, low.1, inductionHypothesis,
        Bool.false_eq_true, if_false,
        Option.bind_eq_bind, Option.bind_some, joined]
      rfl

theorem quote_not_mem_hexText (bytes : List UInt8) : '\'' ∉ hexText bytes := by
  intro member
  rcases List.mem_flatMap.mp member with ⟨byte, _, digit⟩
  rcases nibbles byte with ⟨highSmall, lowSmall, _⟩
  rcases List.mem_cons.mp digit with same | last
  · exact (hexDigit_facts highSmall).2.2.2 same.symm
  · exact (hexDigit_facts lowSmall).2.2.2 (List.mem_singleton.mp last).symm

/-! ## A literal whose quotes are not doubled -/

/-- What is known of the literal that is being read, or was read last. -/
def Mode.content? : Mode -> Option (List Char)
  | .text content => some content
  | .quote content => some content
  | .gap content _ => some content
  | _ => none

/-- The literal is still held, or it is the first token. -/
def Holds (content : List Char) (done : List Token) (behind : Mode) : Prop :=
  (done = [] ∧ behind.content? = some content) ∨ Exists fun more => done = .text content :: more

private theorem startBehind_eq {token : Token} {c : Char} {done : List Token} {behind : Mode}
    (started : startBehind token c = some (done, behind)) :
    Exists fun more => done = token :: more ∧ start c = some (more, behind) := by
  rcases Option.map_eq_some_iff.mp started with ⟨result, found, same⟩
  cases same
  exact ⟨result.1, rfl, found⟩

/-- What one character does to a literal: it is added, it is a quote, it is a
blank behind the literal, or the literal ends in front of it. -/
private theorem step_literal {mode : Mode} {content : List Char} {c : Char}
    {done : List Token} {behind : Mode} (held : mode.content? = some content)
    (stepped : step mode c = some (done, behind)) :
    (done = [] ∧ behind = .text (content ++ [c])) ∨
      (done = [] ∧ c = '\'' ∧ (behind = .quote content ∨ behind = .text content)) ∨
      (done = [] ∧ isBlank c = true ∧ Exists fun lineBreak => behind = .gap content lineBreak) ∨
      Exists fun more => done = .text content :: more := by
  cases mode with
  | between => cases held
  | word letters => cases held
  | number value => cases held
  | text before =>
      cases held
      simp only [step, Option.some.injEq, Prod.mk.injEq] at stepped
      rcases stepped with ⟨rfl, rfl⟩
      by_cases quote : c = '\''
      · exact Or.inr (Or.inl ⟨rfl, quote, Or.inl (if_pos quote)⟩)
      · exact Or.inl ⟨rfl, if_neg quote⟩
  | quote before =>
      cases held
      simp only [step] at stepped
      split_ifs at stepped with quote blank
      · cases stepped
        exact Or.inl ⟨rfl, rfl⟩
      · cases stepped
        exact Or.inr (Or.inr (Or.inl ⟨rfl, blank, _, rfl⟩))
      · rcases startBehind_eq stepped with ⟨more, split, _⟩
        exact Or.inr (Or.inr (Or.inr ⟨more, split⟩))
  | gap before lineBreak =>
      cases held
      simp only [step] at stepped
      split_ifs at stepped with blank continued
      · cases stepped
        exact Or.inr (Or.inr (Or.inl ⟨rfl, blank, _, rfl⟩))
      · cases stepped
        rw [Bool.and_eq_true, decide_eq_true_eq] at continued
        exact Or.inr (Or.inl ⟨rfl, continued.1, Or.inr rfl⟩)
      · rcases startBehind_eq stepped with ⟨more, split, _⟩
        exact Or.inr (Or.inr (Or.inr ⟨more, split⟩))

/-- One character adds at most itself. -/
private theorem step_holds {mode : Mode} {content : List Char} {c : Char}
    {done : List Token} {behind : Mode} (held : mode.content? = some content)
    (stepped : step mode c = some (done, behind)) :
    Exists fun next => next.length ≤ content.length + 1 ∧ Holds next done behind := by
  rcases step_literal held stepped with ⟨none, rfl⟩ | ⟨none, _, rfl | rfl⟩
    | ⟨none, _, _, rfl⟩ | ended
  · exact ⟨content ++ [c], by simp, Or.inl ⟨none, rfl⟩⟩
  · exact ⟨content, Nat.le_succ _, Or.inl ⟨none, rfl⟩⟩
  · exact ⟨content, Nat.le_succ _, Or.inl ⟨none, rfl⟩⟩
  · exact ⟨content, Nat.le_succ _, Or.inl ⟨none, rfl⟩⟩
  · exact ⟨content, Nat.le_succ _, Or.inr ended⟩

private theorem run_cons {mode : Mode} {c : Char} {rest : List Char}
    {done : List Token} {behind : Mode} (read : run mode (c :: rest) = some (done, behind)) :
    Exists fun first => Exists fun middle => Exists fun later =>
      step mode c = some (first, middle) ∧ run middle rest = some (later, behind) ∧
      done = first ++ later := by
  rw [run] at read
  rcases Option.bind_eq_some_iff.mp read with ⟨⟨first, middle⟩, stepped, more⟩
  rcases Option.map_eq_some_iff.mp more with ⟨⟨later, last⟩, found, same⟩
  cases same
  exact ⟨first, middle, later, stepped, found, rfl⟩

private theorem run_append_eq {mode : Mode} {left right : List Char}
    {done : List Token} {behind : Mode} (read : run mode (left ++ right) = some (done, behind)) :
    Exists fun first => Exists fun middle => Exists fun later =>
      run mode left = some (first, middle) ∧ run middle right = some (later, behind) ∧
      done = first ++ later := by
  rw [run_append] at read
  rcases Option.bind_eq_some_iff.mp read with ⟨⟨first, middle⟩, ran, more⟩
  rcases Option.map_eq_some_iff.mp more with ⟨⟨later, last⟩, found, same⟩
  cases same
  exact ⟨first, middle, later, ran, found, rfl⟩

/-- A text adds at most itself to the literal. -/
private theorem run_holds {mode : Mode} {content : List Char} {text : List Char}
    {done : List Token} {behind : Mode} (held : mode.content? = some content)
    (read : run mode text = some (done, behind)) :
    Exists fun last => last.length ≤ content.length + text.length ∧ Holds last done behind := by
  induction text generalizing mode content done with
  | nil =>
      cases read
      exact ⟨content, Nat.le_refl _, Or.inl ⟨rfl, held⟩⟩
  | cons c rest inductionHypothesis =>
      rcases run_cons read with ⟨first, middle, later, stepped, found, split⟩
      rcases step_holds held stepped with ⟨next, atMost, ⟨none, still⟩ | ⟨more, ended⟩⟩
      · rcases inductionHypothesis still found with ⟨last, short, holds⟩
        rw [none, List.nil_append] at split
        rw [split]
        refine ⟨last, ?_, holds⟩
        rw [List.length_cons]
        omega
      · refine ⟨next, ?_, Or.inr ⟨more ++ later, ?_⟩⟩
        · rw [List.length_cons]
          omega
        · rw [split, ended, List.cons_append]

/-- The first quote of a text is not part of what the text adds. -/
private theorem run_dirty {text : List Char} {done : List Token} {behind : Mode}
    (dirty : '\'' ∈ text) (read : run (.text []) text = some (done, behind)) :
    Exists fun last => last.length < text.length ∧ Holds last done behind := by
  rcases List.eq_append_cons_of_mem dirty with ⟨clean, rest, split, none⟩
  rw [split, (scans_content [] none).run_append] at read
  rcases Option.map_eq_some_iff.mp read with ⟨⟨later, last⟩, found, same⟩
  cases same
  rcases run_cons found with ⟨first, middle, others, stepped, deeper, joined⟩
  simp only [step, if_true, Option.some.injEq, Prod.mk.injEq] at stepped
  rcases stepped with ⟨rfl, rfl⟩
  rcases run_holds rfl deeper with ⟨content, short, holds⟩
  rw [joined, List.nil_append, List.nil_append]
  refine ⟨content, ?_, holds⟩
  rw [split, List.length_append, List.length_cons]
  simp only [List.nil_append] at short
  omega

/-- While the literal is held, the last character tells why the reader is behind
a quote or in a gap. -/
private theorem last_of_run {mode behind : Mode} {content text : List Char}
    (held : mode.content? = some content) (nonempty : text ≠ [])
    (read : run mode text = some ([], behind)) :
    Exists fun last => text.getLast? = some last ∧ forall before,
      (behind = .quote before -> last = '\'') ∧
        (forall lineBreak, behind = .gap before lineBreak -> isBlank last = true) := by
  rcases List.eq_nil_or_concat text with none | ⟨earlier, last, split⟩
  · exact absurd none nonempty
  · rw [List.concat_eq_append] at split
    rw [split] at read
    rcases run_append_eq read with ⟨first, middle, later, ran, found, both⟩
    rcases List.append_eq_nil_iff.mp both.symm with ⟨rfl, rfl⟩
    rcases run_holds held ran with ⟨inside, _, ⟨_, still⟩ | ⟨more, ended⟩⟩
    · rcases run_cons found with ⟨stepDone, next, rest, stepped, ended, joined⟩
      cases ended
      rw [List.append_nil] at joined
      refine ⟨last, by rw [split, List.getLast?_concat], fun before => ?_⟩
      rcases step_literal still stepped with ⟨_, rfl⟩ | ⟨_, quote, same⟩
        | ⟨_, blank, _, rfl⟩ | ⟨more, ended⟩
      · exact ⟨Mode.noConfusion, fun _ => Mode.noConfusion⟩
      · refine ⟨fun _ => quote, fun lineBreak gap => ?_⟩
        rw [gap] at same
        rcases same with impossible | impossible <;> cases impossible
      · exact ⟨Mode.noConfusion, fun _ _ => blank⟩
      · rw [ended] at joined
        cases joined
    · cases ended

/-- What closes a literal: a quote, and then neither a quote nor a blank. -/
private theorem run_closed {before middle tail : List Char} {c : Char}
    {done : List Token} {behind : Mode} (clean : '\'' ∉ middle) (noQuote : c ≠ '\'')
    (noBlank : isBlank c = false)
    (read : run (.text before) (middle ++ '\'' :: c :: tail) = some (done, behind)) :
    Exists fun more => done = .text (before ++ middle) :: more := by
  rw [(scans_content before clean).run_append] at read
  rcases Option.map_eq_some_iff.mp read with ⟨⟨later, last⟩, found, same⟩
  cases same
  rcases run_cons found with ⟨_, _, _, quoted, deeper, split⟩
  cases quoted
  rcases run_cons deeper with ⟨_, _, others, stepped, _, joined⟩
  simp only [if_true, step, if_neg noQuote, noBlank, Bool.false_eq_true, if_false] at stepped
  rcases startBehind_eq stepped with ⟨more, ended, _⟩
  rw [split, joined, ended]
  exact ⟨more ++ others, rfl⟩

/-- A text with a quote, put between two quotes as it is, is not read back.  The
literal ends inside the text or at the second quote, and is shorter than the
text; or the second quote continues it, and it ends where the next quote stands,
with a character that the text does not end with. -/
theorem undoubled_content_ne {text middle tail : List Char} {opening closing behindClosing : Char}
    {done : List Token} {behind : Mode} (dirty : '\'' ∈ text) (clean : '\'' ∉ middle)
    (opens : middle.head? = some opening) (openingBlank : isBlank opening = false)
    (closes : middle.getLast? = some closing) (closingBlank : isBlank closing = false)
    (noQuote : behindClosing ≠ '\'') (noBlank : isBlank behindClosing = false)
    (read : run (.text []) (text ++ '\'' :: (middle ++ '\'' :: behindClosing :: tail)) =
      some (done, behind)) :
    Exists fun content => Exists fun more => done = .text content :: more ∧ content ≠ text := by
  have shorter : forall {content : List Char}, content.length < text.length -> content ≠ text := by
    rintro content less rfl
    exact Nat.lt_irrefl _ less
  have nonempty : text ≠ [] := List.ne_nil_of_mem dirty
  have otherEnd : forall {before : List Char} {last : Char}, text.getLast? = some last ->
      last ≠ closing ->
      before ++ middle ≠ text := by
    intro before last ends different same
    rw [← same, List.getLast?_append, closes] at ends
    exact different (Option.some.inj ends).symm
  rcases run_append_eq read with ⟨first, mode, later, inside, found, rfl⟩
  rcases run_dirty dirty inside with ⟨content, less, ⟨rfl, held⟩ | ⟨more, ended⟩⟩
  · have opened : Mode.content? (.text []) = some [] := rfl
    rcases last_of_run opened nonempty inside with ⟨last, ends, why⟩
    rw [List.nil_append]
    rcases run_cons found with ⟨_, next, others, stepped, deeper, split⟩
    cases mode with
    | between => cases held
    | word letters => cases held
    | number value => cases held
    | text before =>
        cases held
        cases stepped
        cases middle with
        | nil => cases opens
        | cons c rest =>
            cases opens
            have noQuoteHere : opening ≠ '\'' := fun same => clean (same ▸ List.mem_cons_self)
            rcases run_cons deeper with ⟨_, _, remaining, emitted, _, joined⟩
            simp only [if_true, step, if_neg noQuoteHere, openingBlank, Bool.false_eq_true,
              if_false] at emitted
            rcases startBehind_eq emitted with ⟨more, ended, _⟩
            rw [split, joined, ended]
            exact ⟨content, more ++ remaining, rfl, shorter less⟩
    | quote before =>
        have quote := (why before).1 rfl
        simp only [step, if_true, Option.some.injEq, Prod.mk.injEq] at stepped
        rcases stepped with ⟨rfl, rfl⟩
        rcases run_closed clean noQuote noBlank deeper with ⟨more, ended⟩
        refine ⟨_, more, split.trans ended, otherEnd ends ?_⟩
        rintro rfl
        exact clean (quote ▸ List.mem_of_getLast? closes)
    | gap before lineBreak =>
        have blank := (why before).2 lineBreak rfl
        cases lineBreak with
        | false =>
            cases held
            -- Without a line break the second quote opens another literal.
            change startBehind (.text content) '\'' = _ at stepped
            rcases startBehind_eq stepped with ⟨more, ended, _⟩
            rw [split, ended]
            exact ⟨content, more ++ others, rfl, shorter less⟩
        | true =>
            cases stepped
            rcases run_closed clean noQuote noBlank deeper with ⟨more, ended⟩
            refine ⟨_, more, split.trans ended, otherEnd ends ?_⟩
            rintro rfl
            rw [closingBlank] at blank
            cases blank
  · rw [ended]
    exact ⟨content, more ++ later, rfl, shorter less⟩

end Sql
end Foundation
end RiskSentinel
