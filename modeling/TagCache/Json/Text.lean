import TagCache.Json.Value

/-!
# Text of JSON values

Values are written without spaces. In strings the quote, the backslash and the characters below
U+0020 are escaped, the five with a short escape by it and the others as `\u00xx`; everything
else stands for itself. The canonical text of a value is the text of its normal form, so it does
not depend on the order of members.
-/

namespace TagCache.Json

/-- The digit of a number below 16, in lower case. -/
def hexDigit (n : Nat) : Char := Nat.digitChar n

/-- One character inside a string. -/
def escapeChar (c : Char) : List Char :=
  match c with
  | '"' => ['\\', '"']
  | '\\' => ['\\', '\\']
  | '\x08' => ['\\', 'b']
  | '\x0c' => ['\\', 'f']
  | '\n' => ['\\', 'n']
  | '\r' => ['\\', 'r']
  | '\t' => ['\\', 't']
  | c =>
    if c.toNat < 0x20 then
      ['\\', 'u', '0', '0', hexDigit (c.toNat / 16), hexDigit (c.toNat % 16)]
    else [c]

/-- A string with its quotes. -/
def stringChars (s : String) : List Char :=
  '"' :: s.toList.flatMap escapeChar ++ ['"']

mutual

/-- The text of a value, members in the order they have. -/
def chars : Json → List Char
  | null => ['n', 'u', 'l', 'l']
  | bool true => ['t', 'r', 'u', 'e']
  | bool false => ['f', 'a', 'l', 's', 'e']
  | num n => n.chars
  | str s => stringChars s
  | arr xs => '[' :: itemChars xs
  | obj ms => '{' :: memberChars ms

/-- The items of a list and its closing bracket. -/
def itemChars : List Json → List Char
  | [] => [']']
  | x :: xs => chars x ++ moreItemChars xs

/-- The items after the first. -/
def moreItemChars : List Json → List Char
  | [] => [']']
  | x :: xs => ',' :: chars x ++ moreItemChars xs

/-- The members of an object and its closing brace. -/
def memberChars : List (String × Json) → List Char
  | [] => ['}']
  | (k, v) :: ms => stringChars k ++ ':' :: chars v ++ moreMemberChars ms

/-- The members after the first. -/
def moreMemberChars : List (String × Json) → List Char
  | [] => ['}']
  | (k, v) :: ms => ',' :: stringChars k ++ ':' :: chars v ++ moreMemberChars ms

end

/-- The text of a value, members in the order they have. -/
def text (j : Json) : String := String.ofList j.chars

/-- The text of the normal form of a value. -/
def canonical (j : Json) : String := j.normalize.text

end TagCache.Json
