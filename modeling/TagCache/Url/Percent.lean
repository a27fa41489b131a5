import TagCache.Text.Utf8

/-!
# Percent encoding

A character that has no place in a part of a url is written byte by byte, each byte as a percent
sign and two hexadecimal digits in upper case. Which characters these are depends on the part;
controls and everything outside ASCII are among them everywhere. The percent sign itself is not,
so what is encoded already stays as it is. A reader takes a percent sign and two hexadecimal
digits for a byte, and any other percent sign for itself.
-/

namespace TagCache.Percent

/-! ## Hexadecimal digits -/

/-- The digit of a number below 16, in upper case. -/
def hexDigit (n : Nat) : Char := (Nat.digitChar n).toUpper

/-- The value of a digit. -/
def hexValue? (c : Char) : Option Nat :=
  if '0' ≤ c && c ≤ '9' then some (c.toNat - '0'.toNat)
  else if 'a' ≤ c && c ≤ 'f' then some (c.toNat - 'a'.toNat + 10)
  else if 'A' ≤ c && c ≤ 'F' then some (c.toNat - 'A'.toNat + 10)
  else none

/-! ## The characters that are encoded -/

/-- Controls and characters outside ASCII. -/
def controlSet (c : Char) : Bool := c.toNat < 0x20 || 0x7e < c.toNat

/-- The characters encoded in a fragment. -/
def fragmentSet (c : Char) : Bool :=
  controlSet c || c = ' ' || c = '"' || c = '<' || c = '>' || c = '\x60'

/-- The characters encoded in a path. -/
def pathSet (c : Char) : Bool :=
  fragmentSet c || c = '#' || c = '?' || c = '{' || c = '}'

/-- The characters encoded in a user name or a password. -/
def userinfoSet (c : Char) : Bool :=
  pathSet c || c = '/' || c = ':' || c = ';' || c = '=' || c = '@' || c = '[' || c = '\\'
    || c = ']' || c = '^' || c = '|'

/-- The characters encoded in a query. -/
def querySet (c : Char) : Bool :=
  controlSet c || c = ' ' || c = '"' || c = '#' || c = '<' || c = '>'

/-- The characters encoded in the query of a url with a special scheme. -/
def specialQuerySet (c : Char) : Bool := querySet c || c = '\x27'

/-! ## Encoding and decoding -/

/-- A byte in its encoded form. -/
def encodeByte (b : UInt8) : List Char :=
  ['%', hexDigit (b.toNat / 16), hexDigit (b.toNat % 16)]

/-- A character, encoded if it is in the set. -/
def encodeChar (set : Char → Bool) (c : Char) : List Char :=
  if set c then (String.utf8EncodeChar c).flatMap encodeByte else [c]

/-- A text with the characters of a set encoded. -/
def encode (set : Char → Bool) (cs : List Char) : List Char := cs.flatMap (encodeChar set)

/-- The bytes of a text. -/
def decode : List Char → List UInt8
  | '%' :: a :: b :: rest =>
    match hexValue? a, hexValue? b with
    | some high, some low => UInt8.ofNat (high * 16 + low) :: decode rest
    | _, _ => 0x25 :: decode (a :: b :: rest)
  | c :: rest => String.utf8EncodeChar c ++ decode rest
  | [] => []

/-- Nothing happens to a text without characters of the set. -/
theorem encode_of_clean {set : Char → Bool} {cs : List Char} (h : ∀ c ∈ cs, set c = false) :
    encode set cs = cs := by
  induction cs with
  | nil => rfl
  | cons c cs ih =>
    have hcs := ih fun d hd => h d (List.mem_cons_of_mem _ hd)
    show encodeChar set c ++ encode set cs = c :: cs
    simp [encodeChar, h c List.mem_cons_self, hcs]

example : encode pathSet ['a', ' ', 'é', '%'] = ['a', '%', '2', '0', '%', 'C', '3', '%', 'A', '9',
    '%'] := by decide +kernel
example : decode ['%', '4', '1', '%', 'z'] = [0x41, 0x25, 0x7a] := by decide +kernel

end TagCache.Percent
