import PropertyTax.Library.JsText

/-! Percent encoding of URI components, and decoding, which fails on escapes that are not
UTF-8. Texts without escapes are decoded to themselves. -/
namespace Js

def isUnreserved (c : Char) : Bool :=
  c.isAlphanum || ['-', '_', '.', '!', '~', '*', '\'', '(', ')'].contains c

def hexDigit (n : Nat) : Char := Char.ofNat (if n < 10 then 48 + n else 55 + n)

def percentEncode (octet : Nat) : List Char := ['%', hexDigit (octet / 16), hexDigit (octet % 16)]

def encodeURIComponent (text : List Char) : List Char :=
  text.flatMap fun c =>
    if isUnreserved c then [c]
    else (String.utf8EncodeChar c).flatMap fun octet => percentEncode octet.toNat

/-- One escape, and the text after it. -/
def octet? (text : List Char) : Option (Nat × List Char) :=
  match text with
  | '%' :: high :: low :: rest => do
      let high ← digitValue? 16 high
      let low ← digitValue? 16 low
      return (16 * high + low, rest)
  | _ => none

/-- That many escapes in a row. -/
def octets? : Nat → List Char → Option (List Nat × List Char)
  | 0, text => some ([], text)
  | n + 1, text => do
      let (octet, rest) ← octet? text
      let (octets, rest) ← octets? n rest
      return (octet :: octets, rest)

/-- How many octets a character takes that begins with this one. -/
def sequenceLength? (lead : Nat) : Option Nat :=
  if lead < 0x80 then some 1
  else if lead < 0xC0 then none
  else if lead < 0xE0 then some 2
  else if lead < 0xF0 then some 3
  else if lead < 0xF8 then some 4
  else none

/-- The character that the octets stand for, in their shortest form. -/
def charOfOctets? (octets : List Nat) : Option Char :=
  match octets with
  | [] => none
  | [octet] => if octet < 0x80 then some (Char.ofNat octet) else none
  | lead :: rest =>
      let value := rest.foldl (fun value octet => value * 64 + (octet - 0x80))
        (lead % 2 ^ (6 - rest.length))
      let least := if rest.length = 1 then 0x80 else if rest.length = 2 then 0x800 else 0x10000
      if rest.all (fun octet => 0x80 ≤ octet && octet < 0xC0) && least ≤ value &&
          value.isValidChar then some (Char.ofNat value)
      else none

/-- Every step reads a character of the text at least, so that its length is fuel enough. -/
def decodeFrom : Nat → List Char → Option (List Char)
  | _, [] => some []
  | 0, _ :: _ => none
  | fuel + 1, c :: rest =>
      if c = '%' then do
        let (lead, _) ← octet? (c :: rest)
        let length ← sequenceLength? lead
        let (octets, after) ← octets? length (c :: rest)
        let decoded ← charOfOctets? octets
        return decoded :: (← decodeFrom fuel after)
      else return c :: (← decodeFrom fuel rest)

/-- `none` is a `URIError`. -/
def decodeURIComponent (text : List Char) : Option (List Char) := decodeFrom text.length text

theorem encodeURIComponent_eq_self {text : List Char} (h : ∀ c ∈ text, isUnreserved c = true) :
    encodeURIComponent text = text := by
  induction text with
  | nil => rfl
  | cons c rest ih =>
      obtain ⟨hFirst, hRest⟩ := List.forall_mem_cons.mp h
      have hTail := ih hRest
      unfold encodeURIComponent at hTail ⊢
      rw [List.flatMap_cons, hTail, if_pos hFirst]
      rfl

theorem decodeURIComponent_eq_self {text : List Char} (h : '%' ∉ text) :
    decodeURIComponent text = some text := by
  unfold decodeURIComponent
  induction text with
  | nil => rfl
  | cons c rest ih =>
      obtain ⟨hFirst, hRest⟩ := not_or.mp (mt List.mem_cons.mpr h)
      rw [List.length_cons, decodeFrom, if_neg (Ne.symm hFirst), ih hRest]
      rfl

/-- An accented letter, a lone percent sign, and an overlong form. -/
example : decodeURIComponent "caf%C3%A9".toList = some "café".toList ∧
    decodeURIComponent "%".toList = none ∧ decodeURIComponent "%C0%80".toList = none := by
  decide

end Js
