import PropertyTax.Library.JsJson
import PropertyTax.Library.JsText

/-! JSON texts. Strings that were quoted are read back, so a text that was written from strings
is parsed to an object that holds them. -/
namespace Json

/-! ### Strings -/

def hexDigit (n : Nat) : Char := "0123456789abcdef".toList.getD n '0'

def hexValue? (c : Char) : Option Nat :=
  "0123456789abcdef".toList.findIdx? (· == c.toLower)

/-- What the letter behind a backslash stands for. -/
def escaped? : Char → Option Char
  | '"' => some '"'
  | '\\' => some '\\'
  | '/' => some '/'
  | 'b' => some (Char.ofNat 8)
  | 'f' => some (Char.ofNat 12)
  | 'n' => some '\n'
  | 'r' => some '\r'
  | 't' => some '\t'
  | _ => none

/-- One half of a character beyond the basic plane is no character. -/
def charOfUnit (unit : Nat) : Char :=
  if unit.isValidChar then Char.ofNat unit else Char.ofNat 0xFFFD

def hexUnit? (a b c d : Char) : Option Nat := do
  let a ← hexValue? a
  let b ← hexValue? b
  let c ← hexValue? c
  let d ← hexValue? d
  return ((a * 16 + b) * 16 + c) * 16 + d

/-- The rest of a string, behind its first quotation mark, and what follows it. -/
def readString : List Char → Option (List Char × List Char)
  | [] => none
  | '"' :: rest => some ([], rest)
  | '\\' :: 'u' :: a :: b :: c :: d :: rest =>
      match hexUnit? a b c d with
      | none => none
      | some unit => (readString rest).map fun read => (charOfUnit unit :: read.1, read.2)
  | '\\' :: c :: rest =>
      match escaped? c with
      | none => none
      | some c => (readString rest).map fun read => (c :: read.1, read.2)
  | c :: rest =>
      if c.toNat < 0x20 then none
      else (readString rest).map fun read => (c :: read.1, read.2)

/-- A character as `JSON.stringify` writes it in a string. -/
def escapeChar (c : Char) : List Char :=
  if c = '"' then ['\\', '"']
  else if c = '\\' then ['\\', '\\']
  else if c = Char.ofNat 8 then ['\\', 'b']
  else if c = Char.ofNat 12 then ['\\', 'f']
  else if c = '\n' then ['\\', 'n']
  else if c = '\r' then ['\\', 'r']
  else if c = '\t' then ['\\', 't']
  else if c.toNat < 0x20 then
    ['\\', 'u', '0', '0', hexDigit (c.toNat / 16), hexDigit (c.toNat % 16)]
  else [c]

/-- A quoted string. -/
def quote (text : String) : List Char := '"' :: text.toList.flatMap escapeChar ++ ['"']

/-- A hexadecimal digit reads back as its value. -/
theorem hexValue?_hexDigit : ∀ n < 16, hexValue? (hexDigit n) = some n := by decide

/-- Control characters are written with four digits. -/
theorem readString_control {c : Char} (h : c.toNat < 0x20) (rest : List Char) :
    readString ('\\' :: 'u' :: '0' :: '0' :: hexDigit (c.toNat / 16) :: hexDigit (c.toNat % 16) ::
      rest) = (readString rest).map fun read => (c :: read.1, read.2) := by
  have hHigh := hexValue?_hexDigit (c.toNat / 16) (by omega)
  have hLow := hexValue?_hexDigit (c.toNat % 16) (by omega)
  have hUnit : hexUnit? '0' '0' (hexDigit (c.toNat / 16)) (hexDigit (c.toNat % 16)) =
      some c.toNat := by
    have hZero : hexValue? '0' = some 0 := by decide
    unfold hexUnit?
    rw [hZero, hHigh, hLow]
    change some (((0 * 16 + 0) * 16 + c.toNat / 16) * 16 + c.toNat % 16) = _
    congr 1
    omega
  have hChar : charOfUnit c.toNat = c := by
    unfold charOfUnit
    rw [if_pos (show c.toNat.isValidChar from c.valid), Char.ofNat_toNat]
  rw [readString, hUnit]
  dsimp only
  rw [hChar]

/-- An escaped character reads back as the character. -/
theorem readString_escapeChar (c : Char) (rest : List Char) :
    readString (escapeChar c ++ rest) =
      (readString rest).map fun read => (c :: read.1, read.2) := by
  unfold escapeChar
  split_ifs with hQuote hBackslash hBack hFeed hLine hReturn hTab hControl
  · rw [hQuote]
    rfl
  · rw [hBackslash]
    rfl
  · rw [hBack]
    rfl
  · rw [hFeed]
    rfl
  · rw [hLine]
    rfl
  · rw [hReturn]
    rfl
  · rw [hTab]
    rfl
  · exact readString_control hControl rest
  · rw [List.singleton_append, readString, if_neg hControl]
    · exact hQuote
    · exact fun _ _ _ _ _ h _ => hBackslash h
    · exact fun _ _ h _ => hBackslash h

/-- An escaped text reads back as the text, up to the closing quote. -/
theorem readString_flatMap (text rest : List Char) :
    readString (text.flatMap escapeChar ++ '"' :: rest) = some (text, rest) := by
  induction text with
  | nil => rw [List.flatMap_nil, List.nil_append, readString]
  | cons c text ih =>
      rw [List.flatMap_cons, List.append_assoc, readString_escapeChar, ih]
      rfl

/-! ### Values -/

def isBlank (c : Char) : Bool := c = ' ' ∨ c = '\t' ∨ c = '\n' ∨ c = '\r'

def skip (text : List Char) : List Char := text.dropWhile isBlank

/-- Digits without leading zeros, and a fraction and an exponent that are not empty. -/
def numberLiteral? (token : List Char) : Option ℚ :=
  let body := if token.head? = some '-' then token.tail else token
  let (significand, _) := Js.splitAtFirst (fun c => c == 'e' || c == 'E') body
  let (whole, fraction) := Js.splitAtFirst (· == '.') significand
  if whole = [] ∨ (whole.head? = some '0' ∧ whole ≠ ['0']) ∨ fraction = some [] then none
  else (Js.decimalLiteral? body).map fun x => if token.head? = some '-' then -x else x

def isNumberChar (c : Char) : Bool := c.isDigit || "+-.eE".toList.contains c

abbrev Reader (α : Type) := List Char → Option (α × List Char)

/-- What follows a mark. -/
def expect (mark : Char) : List Char → Option (List Char)
  | [] => none
  | c :: rest => if c = mark then some rest else none

/-- The members of an object behind its brace, one at least. -/
def readMembers (value : Reader Json) : Nat → Fields → Reader Fields
  | 0, _, _ => none
  | fuel + 1, fields, text => do
      let rest ← expect '"' (skip text)
      let (name, rest) ← readString rest
      let rest ← expect ':' (skip rest)
      let (item, rest) ← value rest
      let fields := fields.set (String.ofList name) item
      match expect ',' (skip rest) with
      | some rest => readMembers value fuel fields rest
      | none => (expect '\x7d' (skip rest)).map fun rest => (fields, rest)

/-- The items of an array behind its bracket, one at least. -/
def readItems (value : Reader Json) : Nat → List Json → Reader (List Json)
  | 0, _, _ => none
  | fuel + 1, items, text => do
      let (item, rest) ← value text
      match expect ',' (skip rest) with
      | some rest => readItems value fuel (items ++ [item]) rest
      | none => (expect ']' (skip rest)).map fun rest => (items ++ [item], rest)

def readWord (text : List Char) : Option (Json × List Char) :=
  match "null".toList.isPrefixOf? text, "true".toList.isPrefixOf? text,
      "false".toList.isPrefixOf? text with
  | some rest, _, _ => some (.null, rest)
  | _, some rest, _ => some (.bool true, rest)
  | _, _, some rest => some (.bool false, rest)
  | none, none, none =>
      (numberLiteral? (text.takeWhile isNumberChar)).map fun x =>
        (.num x, text.dropWhile isNumberChar)

def readObject (value : Reader Json) (fuel : Nat) (text : List Char) :
    Option (Json × List Char) :=
  match expect '\x7d' (skip text) with
  | some rest => some (.obj [], rest)
  | none => (readMembers value fuel [] text).map fun read => (.obj read.1, read.2)

def readArray (value : Reader Json) (fuel : Nat) (text : List Char) : Option (Json × List Char) :=
  match expect ']' (skip text) with
  | some rest => some (.arr [], rest)
  | none => (readItems value fuel [] text).map fun read => (.arr read.1, read.2)

/-- A value. Every level and every member takes a character at least, so the length of the text
is fuel enough. -/
def readValue : Nat → Reader Json
  | 0, _ => none
  | fuel + 1, text =>
      match expect '\x7b' (skip text), expect '[' (skip text), expect '"' (skip text) with
      | some rest, _, _ => readObject (readValue fuel) fuel rest
      | _, some rest, _ => readArray (readValue fuel) fuel rest
      | _, _, some rest => (readString rest).map fun read => (.str (String.ofList read.1), read.2)
      | none, none, none => readWord (skip text)

/-- `JSON.parse` -/
def parse (text : String) : Option Json :=
  match readValue (text.toList.length + 1) text.toList with
  | none => none
  | some (value, rest) => if skip rest = [] then some value else none

/-! ### Objects of strings -/

def member (field : String × String) : List Char := quote field.1 ++ ':' :: quote field.2

/-- `JSON.stringify` of an object whose fields are strings. -/
def stringifyStrings (fields : List (String × String)) : String :=
  String.ofList ('\x7b' :: [','].intercalate (fields.map member) ++ ['\x7d'])

def ofStrings (fields : List (String × String)) (start : Fields) : Fields :=
  fields.foldl (fun fields field => fields.set field.1 (.str field.2)) start

section Reading
variable {value : Reader Json} {fuel : Nat}

/-- A quoted text reads back as the text. -/
theorem readString_quote (text : String) (rest : List Char) :
    readString ((quote text).tail ++ rest) = some (text.toList, rest) := by
  have hQuote : (quote text).tail ++ rest = text.toList.flatMap escapeChar ++ '"' :: rest := by
    simp [quote]
  rw [hQuote, readString_flatMap]

/-- A quoted text is read as a string value. -/
theorem readValue_quote (text : String) (rest : List Char) :
    readValue (fuel + 1) (quote text ++ rest) = some (.str text, rest) := by
  have hRead := readString_quote text rest
  change (readString ((quote text).tail ++ rest)).map _ = _
  rw [hRead, Option.map_some, String.ofList_toList]

theorem member_append (field : String × String) (rest : List Char) :
    member field ++ rest = '"' :: ((quote field.1).tail ++ ':' :: (quote field.2 ++ rest)) := by
  simp [member, quote]

theorem skip_colon (rest : List Char) : skip (':' :: rest) = ':' :: rest := rfl

theorem skip_quote (rest : List Char) : skip ('"' :: rest) = '"' :: rest := rfl

variable (hValue : ∀ text rest, value (quote text ++ rest) = some (.str text, rest))
include hValue

/-- A member before a comma is set, and reading goes on. -/
theorem readMembers_comma (field : String × String) (fields : Fields) (rest : List Char) :
    readMembers value (fuel + 1) fields (member field ++ ',' :: rest) =
      readMembers value fuel (fields.set field.1 (.str field.2)) rest := by
  have hComma : skip (',' :: rest) = ',' :: rest := rfl
  rw [member_append, readMembers, skip_quote]
  simp [expect, readString_quote, hValue, hComma, skip_colon]

/-- The member before the brace is the last one. -/
theorem readMembers_brace (field : String × String) (fields : Fields) (rest : List Char) :
    readMembers value (fuel + 1) fields (member field ++ '\x7d' :: rest) =
      some (fields.set field.1 (.str field.2), rest) := by
  have hBrace : skip ('\x7d' :: rest) = '\x7d' :: rest := rfl
  rw [member_append, readMembers, skip_quote]
  simp [expect, readString_quote, hValue, hBrace, skip_colon]

/-- Members of strings read back as the object that holds them. -/
theorem readMembers_strings {fields : List (String × String)} (hNe : fields ≠ [])
    (hFuel : fields.length ≤ fuel) (start : Fields) (rest : List Char) :
    readMembers value fuel start ([','].intercalate (fields.map member) ++ '\x7d' :: rest) =
      some (ofStrings fields start, rest) := by
  induction fields generalizing fuel start with
  | nil => exact absurd rfl hNe
  | cons field fields ih =>
      obtain ⟨fuel, rfl⟩ := Nat.exists_eq_add_of_le' (Nat.le_trans (by simp) hFuel : 1 ≤ fuel)
      cases fields with
      | nil =>
          rw [List.map_singleton, List.intercalate_singleton, readMembers_brace hValue]
          rfl
      | cons next fields =>
          rw [List.map_cons, List.map_cons, List.intercalate_cons_cons, List.append_assoc,
            List.append_assoc, List.singleton_append, readMembers_comma hValue, ← List.map_cons,
            ih (by simp) (by simpa using hFuel)]
          rfl

end Reading

/-- The written members are at least as long as there are members. -/
theorem length_le_intercalate (fields : List (String × String)) :
    fields.length ≤ ([','].intercalate (fields.map member)).length := by
  induction fields with
  | nil => exact Nat.le_refl 0
  | cons field fields ih =>
      have hMember : 1 ≤ (member field).length := by simp [member, quote]
      cases fields with
      | nil =>
          rw [List.map_singleton, List.intercalate_singleton]
          exact hMember
      | cons next fields =>
          rw [List.map_cons, List.map_cons, List.intercalate_cons_cons, List.length_append,
            List.length_append, ← List.map_cons, List.length_cons]
          simp only [List.length_singleton]
          omega

/-- An object of strings is parsed to its fields. -/
theorem parse_stringifyStrings {fields : List (String × String)} (hNe : fields ≠ []) :
    parse (stringifyStrings fields) = some (.obj (ofStrings fields [])) := by
  have hLength := length_le_intercalate fields
  have hPositive : 1 ≤ fields.length := List.length_pos_of_ne_nil hNe
  obtain ⟨body, hBody⟩ : ∃ body, [','].intercalate (fields.map member) = '"' :: body := by
    cases fields with
    | nil => exact absurd rfl hNe
    | cons field fields =>
        cases fields with
        | nil => exact ⟨_, List.intercalate_singleton⟩
        | cons next fields => exact ⟨_, List.intercalate_cons_cons⟩
  obtain ⟨fuel, hFuel⟩ : ∃ fuel,
      ('\x7b' :: [','].intercalate (fields.map member) ++ ['\x7d']).length = fuel + 1 := ⟨_, rfl⟩
  have hRead : readMembers (readValue (fuel + 1)) (fuel + 1) []
      ([','].intercalate (fields.map member) ++ ['\x7d']) = some (ofStrings fields [], []) := by
    refine readMembers_strings (fun text rest => readValue_quote text rest) hNe ?_ [] []
    simp only [List.cons_append, List.length_cons, List.length_append, List.length_nil] at hFuel
    omega
  have hObject : readValue (fuel + 1 + 1)
      ('\x7b' :: [','].intercalate (fields.map member) ++ ['\x7d']) =
        some (.obj (ofStrings fields []), []) := by
    have hOpen : readValue (fuel + 1 + 1)
        ('\x7b' :: [','].intercalate (fields.map member) ++ ['\x7d']) =
          readObject (readValue (fuel + 1)) (fuel + 1)
            ([','].intercalate (fields.map member) ++ ['\x7d']) := rfl
    have hMore :
        expect '\x7d' (skip ([','].intercalate (fields.map member) ++ ['\x7d'])) = none := by
      rw [hBody]
      rfl
    rw [hOpen, readObject, hMore]
    dsimp only
    rw [hRead]
    rfl
  unfold parse stringifyStrings
  rw [String.toList_ofList, hFuel, hObject]
  rfl

example : (parse "\x7b\"a\": [1.5e1, null], \"b\": \"\\u0041\"\x7d").isSome = true ∧
    (parse "2025-2026").isNone = true ∧ (parse "[1,]").isNone = true ∧
    (parse "007").isNone = true := by decide

end Json
