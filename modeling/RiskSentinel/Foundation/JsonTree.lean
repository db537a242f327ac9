import RiskSentinel.Foundation.Json

namespace RiskSentinel
namespace Foundation

/-!
# JSON trees as text

`Json` has flat objects; here values nest.  The numbers of a tree are left
open: `Numerals` says how they are written and read, and what a reader of
trees relies on.  The writer is compact, and `parse` inverts it.

An object is the list of its members.  In a `Canonical` tree the keys of every
object are in strictly increasing order, as a map from keys to values lists
them.  A `JsonText` is any reader and writer for which reading inverts writing
on canonical trees.
-/

/-- A way to write numbers: every numeral begins like a number, and is read
back up to its end. -/
structure Numerals (Number : Type) where
  write : Number -> List Char
  read : List Char -> Option (Number × List Char)
  starts : forall number, Exists fun c => Exists fun others =>
    write number = c :: others ∧ (c = '-' ∨ c.isDigit = true)
  read_write : forall number rest, Json.EndsNumber rest ->
    read (write number ++ rest) = some (number, rest)

inductive JsonTree (Number : Type) where
  | null
  | boolean (value : Bool)
  | number (value : Number)
  | text (value : String)
  | array (items : List (JsonTree Number))
  | object (members : List (String × JsonTree Number))

namespace JsonTree

variable {Number : Type} (numerals : Numerals Number)

/-! ## Writing -/

mutual

def dump : JsonTree Number -> List Char
  | .null => ['n', 'u', 'l', 'l']
  | .boolean true => ['t', 'r', 'u', 'e']
  | .boolean false => ['f', 'a', 'l', 's', 'e']
  | .number value => numerals.write value
  | .text value => Json.dumpText value
  | .array [] => ['[', ']']
  | .array (item :: others) => '[' :: (dump item ++ dumpItems others)
  | .object [] => ['{', '}']
  | .object ((key, value) :: others) =>
      '{' :: (Json.dumpText key ++ ':' :: (dump value ++ dumpMembers others))

/-- The items behind the first one, and the closing bracket. -/
def dumpItems : List (JsonTree Number) -> List Char
  | [] => [']']
  | item :: others => ',' :: (dump item ++ dumpItems others)

/-- The members behind the first one, and the closing brace. -/
def dumpMembers : List (String × JsonTree Number) -> List Char
  | [] => ['}']
  | (key, value) :: others =>
      ',' :: (Json.dumpText key ++ ':' :: (dump value ++ dumpMembers others))

end

/-! ## Reading -/

def readText (text : List Char) : Option (String × List Char) :=
  match text with
  | c :: rest =>
      if c = '"' then (Json.readChars .plain rest).map fun found =>
        (String.ofList found.1, found.2) else none
  | [] => none

/-- The rest of a word whose first letter has been read. -/
def readWord (letters : List Char) (meant : JsonTree Number) (text : List Char) :
    Option (JsonTree Number × List Char) :=
  if text.take letters.length = letters then some (meant, text.drop letters.length) else none

def readColon (text : List Char) : Option (List Char) :=
  if text.head? = some ':' then some text.tail else none

mutual

/-- A value and what follows it.  The first argument bounds the depth of the
calls. -/
def read : Nat -> List Char -> Option (JsonTree Number × List Char)
  | 0, _ => none
  | _ + 1, [] => none
  | bound + 1, c :: rest =>
      if c = '"' then (readText (c :: rest)).map fun found => (.text found.1, found.2)
      else if c = '[' then
        if rest.head? = some ']' then some (.array [], rest.tail)
        else (read bound rest).bind fun first =>
          (readItems bound first.2).map fun others => (.array (first.1 :: others.1), others.2)
      else if c = '{' then
        if rest.head? = some '}' then some (.object [], rest.tail)
        else (readText rest).bind fun key => (readColon key.2).bind fun behind =>
          (read bound behind).bind fun first =>
            (readMembers bound first.2).map fun others =>
            (.object ((key.1, first.1) :: others.1), others.2)
      else if c = 'n' then readWord ['u', 'l', 'l'] .null rest
      else if c = 't' then readWord ['r', 'u', 'e'] (.boolean true) rest
      else if c = 'f' then readWord ['a', 'l', 's', 'e'] (.boolean false) rest
      else (numerals.read (c :: rest)).map fun found => (.number found.1, found.2)

/-- What stands behind an item. -/
def readItems : Nat -> List Char -> Option (List (JsonTree Number) × List Char)
  | 0, _ => none
  | _ + 1, [] => none
  | bound + 1, c :: rest =>
      if c = ']' then some ([], rest)
      else if c = ',' then
        (read bound rest).bind fun next =>
          (readItems bound next.2).map fun others => (next.1 :: others.1, others.2)
      else none

/-- What stands behind a member. -/
def readMembers : Nat -> List Char -> Option (List (String × JsonTree Number) × List Char)
  | 0, _ => none
  | _ + 1, [] => none
  | bound + 1, c :: rest =>
      if c = '}' then some ([], rest)
      else if c = ',' then
        (readText rest).bind fun key => (readColon key.2).bind fun behind =>
          (read bound behind).bind fun next =>
            (readMembers bound next.2).map fun others => ((key.1, next.1) :: others.1, others.2)
      else none

end

/-- A text that is one value. -/
def parse (text : List Char) : Option (JsonTree Number) :=
  match read numerals text.length text with
  | some (tree, []) => some tree
  | _ => none

/-! ## Reading inverts writing -/

private theorem readText_dumpText (text : String) (rest : List Char) :
    readText (Json.dumpText text ++ rest) = some (text, rest) := by
  change (if '"' = '"' then (Json.readChars .plain (Json.closeString text.toList ++ rest)).map _
    else none) = _
  rw [if_pos rfl, Json.readChars_closeString]
  simp

private theorem readColon_cons (rest : List Char) : readColon (':' :: rest) = some rest := rfl

private theorem endsNumber_of_head {c : Char} {rest : List Char} (noDigit : c.isDigit = false) :
    Json.EndsNumber (c :: rest) := by
  intro other found
  cases found
  exact noDigit

private theorem endsNumber_items (items : List (JsonTree Number)) (rest : List Char) :
    Json.EndsNumber (dumpItems numerals items ++ rest) := by
  cases items with
  | nil => exact endsNumber_of_head rfl
  | cons item others => exact endsNumber_of_head rfl

private theorem endsNumber_members (members : List (String × JsonTree Number)) (rest : List Char) :
    Json.EndsNumber (dumpMembers numerals members ++ rest) := by
  cases members with
  | nil => exact endsNumber_of_head rfl
  | cons member others => exact endsNumber_of_head rfl

/-- A value does not begin with a closing bracket. -/
private theorem dump_starts (tree : JsonTree Number) :
    Exists fun c => Exists fun others => dump numerals tree = c :: others ∧ c ≠ ']' := by
  cases tree with
  | null => exact ⟨_, _, rfl, by decide⟩
  | boolean value => cases value <;> exact ⟨_, _, rfl, by decide⟩
  | number value =>
      rcases numerals.starts value with ⟨c, others, written, kind⟩
      refine ⟨c, others, by rw [dump, written], ?_⟩
      rintro rfl
      rcases kind with minus | digit
      · cases minus
      · cases digit
  | text value => exact ⟨_, _, rfl, by decide⟩
  | array items => cases items <;> exact ⟨_, _, rfl, by decide⟩
  | object members => cases members <;> exact ⟨_, _, rfl, by decide⟩

private theorem number_letter {c : Char} (kind : c = '-' ∨ c.isDigit = true) :
    c ≠ '"' ∧ c ≠ '[' ∧ c ≠ '{' ∧ c ≠ 'n' ∧ c ≠ 't' ∧ c ≠ 'f' := by
  refine ⟨?_, ?_, ?_, ?_, ?_, ?_⟩ <;> rintro rfl <;> rcases kind with minus
    | digit <;> contradiction

private theorem read_number (value : Number) (bound : Nat) (rest : List Char)
    (ends : Json.EndsNumber rest) :
    read numerals (bound + 1) (numerals.write value ++ rest) = some (.number value, rest) := by
  rcases numerals.starts value with ⟨c, others, written, kind⟩
  rcases number_letter kind with ⟨quote, bracket, brace, n, t, f⟩
  have back := numerals.read_write value rest ends
  rw [written, List.cons_append] at back ⊢
  rw [read, if_neg quote, if_neg bracket, if_neg brace, if_neg n, if_neg t, if_neg f, back]
  rfl

/-- A bound on a text that begins with a character. -/
private theorem bound_of_cons {c : Char} {rest : List Char} {bound : Nat}
    (fits : (c :: rest).length ≤ bound) :
    Exists fun smaller => bound = smaller + 1 ∧ rest.length ≤ smaller := by
  cases bound with
  | zero => cases fits
  | succ smaller => exact ⟨smaller, rfl, Nat.le_of_succ_le_succ fits⟩

private theorem length_behind {first rest : List Char} {bound : Nat}
    (fits : (first ++ rest).length ≤ bound) : rest.length ≤ bound := by
  rw [List.length_append] at fits
  exact Nat.le_trans (Nat.le_add_left _ _) fits

mutual

/-- A value is read back, whatever follows it. -/
theorem read_dump : (tree : JsonTree Number) -> (bound : Nat) -> (rest : List Char) ->
    (dump numerals tree ++ rest).length ≤ bound -> Json.EndsNumber rest ->
    read numerals bound (dump numerals tree ++ rest) = some (tree, rest)
  | .null, bound, rest, fits, _ => by
      rcases bound_of_cons fits with ⟨smaller, rfl, _⟩
      simp [dump, read, readWord]
  | .boolean value, bound, rest, fits, _ => by
      cases value <;>
        · rcases bound_of_cons fits with ⟨smaller, rfl, _⟩
          simp [dump, read, readWord]
  | .number value, bound, rest, fits, ends => by
      rcases numerals.starts value with ⟨c, others, written, _⟩
      rw [dump] at fits ⊢
      have positive : 0 < bound := by
        rw [written] at fits
        exact Nat.lt_of_lt_of_le (Nat.succ_pos _) fits
      cases bound with
      | zero => cases positive
      | succ smaller => exact read_number numerals value smaller rest ends
  | .text value, bound, rest, fits, _ => by
      rcases bound_of_cons fits with ⟨smaller, rfl, _⟩
      have back := readText_dumpText value rest
      change read numerals (smaller + 1) ('"' :: (Json.closeString value.toList ++ rest)) = _
      rw [read, if_pos rfl]
      change (readText (Json.dumpText value ++ rest)).map _ = _
      rw [back]
      rfl
  | .array [], bound, rest, fits, _ => by
      rcases bound_of_cons fits with ⟨smaller, rfl, _⟩
      simp [dump, read]
  | .array (item :: others), bound, rest, fits, _ => by
      rw [dump, List.cons_append, List.append_assoc] at fits ⊢
      rcases bound_of_cons fits with ⟨smaller, rfl, inner⟩
      rcases dump_starts numerals item with ⟨c, letters, written, opens⟩
      have shorter := length_behind inner
      have first := read_dump item smaller (dumpItems numerals others ++ rest) inner
        (endsNumber_items numerals others rest)
      have later := readItems_dumpItems others smaller rest shorter
      have head : (dump numerals item ++ (dumpItems numerals others ++ rest)).head? ≠ some ']' := by
        rw [written]
        simpa using opens
      rw [read, if_neg (by decide), if_pos rfl, if_neg head, first, Option.bind_some, later]
      rfl
  | .object [], bound, rest, fits, _ => by
      rcases bound_of_cons fits with ⟨smaller, rfl, _⟩
      simp [dump, read]
  | .object ((key, value) :: others), bound, rest, fits, _ => by
      rw [dump, List.cons_append, List.append_assoc, List.cons_append, List.append_assoc] at fits ⊢
      rcases bound_of_cons fits with ⟨smaller, rfl, inner⟩
      have behind := Nat.le_of_succ_le (length_behind inner)
      have first := read_dump value smaller (dumpMembers numerals others ++ rest) behind
        (endsNumber_members numerals others rest)
      have later := readMembers_dumpMembers others smaller rest (length_behind behind)
      rw [read, if_neg (by decide), if_neg (by decide), if_pos rfl,
        if_neg (by simp [Json.dumpText]),
        readText_dumpText, Option.bind_some, readColon_cons, Option.bind_some, first,
        Option.bind_some, later]
      rfl

theorem readItems_dumpItems : (items : List (JsonTree Number)) -> (bound : Nat) ->
    (rest : List Char) ->
    (dumpItems numerals items ++ rest).length ≤ bound ->
    readItems numerals bound (dumpItems numerals items ++ rest) = some (items, rest)
  | [], bound, rest, fits => by
      rcases bound_of_cons fits with ⟨smaller, rfl, _⟩
      simp [dumpItems, readItems]
  | item :: others, bound, rest, fits => by
      rw [dumpItems, List.cons_append, List.append_assoc] at fits ⊢
      rcases bound_of_cons fits with ⟨smaller, rfl, inner⟩
      have first := read_dump item smaller (dumpItems numerals others ++ rest) inner
        (endsNumber_items numerals others rest)
      have later := readItems_dumpItems others smaller rest (length_behind inner)
      rw [readItems, if_neg (by decide), if_pos rfl, first, Option.bind_some, later]
      rfl

theorem readMembers_dumpMembers : (members : List (String × JsonTree Number)) -> (bound : Nat) ->
    (rest : List Char) ->
    (dumpMembers numerals members ++ rest).length ≤ bound ->
    readMembers numerals bound (dumpMembers numerals members ++ rest) = some (members, rest)
  | [], bound, rest, fits => by
      rcases bound_of_cons fits with ⟨smaller, rfl, _⟩
      simp [dumpMembers, readMembers]
  | (key, value) :: others, bound, rest, fits => by
      rw [dumpMembers, List.cons_append, List.append_assoc, List.cons_append, List.append_assoc]
        at fits ⊢
      rcases bound_of_cons fits with ⟨smaller, rfl, inner⟩
      have behind := Nat.le_of_succ_le (length_behind inner)
      have first := read_dump value smaller (dumpMembers numerals others ++ rest) behind
        (endsNumber_members numerals others rest)
      have later := readMembers_dumpMembers others smaller rest (length_behind behind)
      rw [readMembers, if_neg (by decide), if_pos rfl, readText_dumpText,
        Option.bind_some, readColon_cons,
        Option.bind_some, first, Option.bind_some, later]
      rfl

end

/-- Parsing inverts writing. -/
theorem parse_dump (tree : JsonTree Number) : parse numerals (dump numerals tree) = some tree := by
  have ends : Json.EndsNumber [] := by
    intro c found
    cases found
  have back := read_dump numerals tree (dump numerals tree).length []
    (Nat.le_of_eq (by rw [List.append_nil])) ends
  rw [List.append_nil] at back
  rw [parse, back]

/-! ## Members -/

/-- The member with a key, where the value is an object. -/
def find? (key : String) : JsonTree Number -> Option (JsonTree Number)
  | .object members => members.lookup key
  | _ => none

def contains (tree : JsonTree Number) (key : String) : Bool :=
  (tree.find? key).isSome

/-- The members of an object into which the entries are assigned one after
another. -/
def ofEntries {Value : Type} (write : Value -> JsonTree Number) (entries : List (String × Value)) :
    List (String × JsonTree Number) :=
  entries.foldl (fun members entry => Json.assign entry.1 (write entry.2) members) []

private theorem lookup_foldl_assign {Value : Type} (write : Value -> JsonTree Number)
    (entries : List (String × Value)) (distinct : (entries.map Prod.fst).Nodup)
    (members : List (String × JsonTree Number)) (name : String) :
    (entries.foldl (fun members entry => Json.assign entry.1
        (write entry.2) members) members).lookup name =
      ((entries.lookup name).map write).or (members.lookup name) := by
  induction entries generalizing members with
  | nil => rfl
  | cons entry rest inductionHypothesis =>
      rw [List.map_cons, List.nodup_cons] at distinct
      rw [List.foldl_cons, inductionHypothesis distinct.2, Json.lookup_assign, List.lookup_cons]
      by_cases here : name = entry.1
      · have absent : rest.lookup name = none :=
          List.lookup_eq_none_iff.mpr fun later member =>
            bne_iff_ne.mpr fun same =>
              distinct.1 (List.mem_map.mpr ⟨later, member, same.symm.trans here⟩)
        rw [absent, if_pos here, beq_iff_eq.mpr here]
        rfl
      · rw [if_neg here, beq_eq_false_iff_ne.mpr here]

theorem lookup_ofEntries {Value : Type} (write : Value -> JsonTree Number)
    (entries : List (String × Value)) (distinct : (entries.map Prod.fst).Nodup) (name : String) :
    (ofEntries write entries).lookup name = (entries.lookup name).map write := by
  rw [ofEntries, lookup_foldl_assign write entries distinct, List.lookup_nil, Option.or_none]

/-- Every object in the tree has its keys in strictly increasing order. -/
inductive Canonical : JsonTree Number -> Prop where
  | null : Canonical .null
  | boolean (value : Bool) : Canonical (.boolean value)
  | number (value : Number) : Canonical (.number value)
  | text (value : String) : Canonical (.text value)
  | array {items : List (JsonTree Number)} (each : forall item, item ∈ items -> Canonical item) :
      Canonical (.array items)
  | object {members : List (String × JsonTree Number)}
      (ordered : (members.map Prod.fst).Pairwise (· < ·))
      (each : forall member, member ∈ members -> Canonical member.2) : Canonical (.object members)

private theorem canonical_foldl_assign {Value : Type} (write : Value -> JsonTree Number)
    (each : forall value, Canonical (write value)) (entries : List (String × Value))
    (members : List (String × JsonTree Number)) (before : Canonical (.object members)) :
    Canonical (.object (entries.foldl
      (fun members entry => Json.assign entry.1 (write entry.2) members) members)) := by
  induction entries generalizing members with
  | nil => exact before
  | cons entry rest inductionHypothesis =>
      rcases before with ⟨⟩ | ⟨⟩ | ⟨⟩ | ⟨⟩ | ⟨⟩ | ⟨ordered, old⟩
      apply inductionHypothesis
      refine .object (Json.ordered_assign ordered) fun member listed => ?_
      rcases Json.mem_assign listed with rfl | kept
      · exact each entry.2
      · exact old member kept

theorem canonical_ofEntries {Value : Type} (write : Value -> JsonTree Number)
    (each : forall value, Canonical (write value)) (entries : List (String × Value)) :
    Canonical (.object (ofEntries write entries)) :=
  canonical_foldl_assign write each entries []
    (.object List.Pairwise.nil fun _ impossible => by cases impossible)

end JsonTree

/-- A reader and a writer of trees of which one thing is known: what is written
is read back. -/
structure JsonText (Number : Type) where
  dump : JsonTree Number -> String
  parse : String -> Except String (JsonTree Number)
  parse_dump : forall tree, tree.Canonical -> parse (dump tree) = .ok tree

/-- The compact form. -/
def JsonText.compact {Number : Type} (numerals : Numerals Number) : JsonText Number where
  dump tree := String.ofList (tree.dump numerals)
  parse text :=
    match JsonTree.parse numerals text.toList with
    | some tree => .ok tree
    | none => .error "parse error"
  parse_dump tree _ := by
    simp only [String.toList_ofList, JsonTree.parse_dump]

/-- Unsigned integers in decimal digits. -/
def Numerals.unsigned : Numerals Nat where
  write := Nat.toDigits 10
  read text :=
    match Json.readScalar text with
    | some (.number value, rest) => some (value, rest)
    | _ => none
  starts value := by
    cases front : Nat.toDigits 10 value with
    | nil => exact absurd front Nat.toDigits_ne_nil
    | cons c others =>
        have member : c ∈ Nat.toDigits 10 value := by
          rw [front]
          exact List.mem_cons_self
        exact ⟨c, others, rfl, Or.inr (Nat.isDigit_of_mem_toDigits (by decide) (by decide) member)⟩
  read_write value rest ends := by
    have back := Json.readScalar_dump (.number value) rest ends
    rw [Json.Scalar.dump] at back
    rw [back]

end Foundation
end RiskSentinel
