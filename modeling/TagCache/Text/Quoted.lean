import TagCache.Text.Hidden

/-!
# Quoted text in messages

A message shows a string between quotes. Quotes, backslashes and the common controls have short
escapes, and a character without a shape of its own is written as its code point in braces.
-/

namespace TagCache.Text

/-- A code point in hexadecimal. -/
def codePointChars (c : Char) : List Char :=
  '\\' :: 'u' :: '\x7b' :: Nat.toDigits 16 c.toNat ++ ['\x7d']

/-- One character inside quotes. -/
def quoteChar (c : Char) : List Char :=
  match c with
  | '\x00' => ['\\', '0']
  | '\t' => ['\\', 't']
  | '\n' => ['\\', 'n']
  | '\r' => ['\\', 'r']
  | '"' => ['\\', '"']
  | '\\' => ['\\', '\\']
  | c => if isHidden c then codePointChars c else [c]

/-- A string between quotes. -/
def quoted (s : String) : String :=
  String.ofList ('"' :: s.toList.flatMap quoteChar ++ ['"'])

end TagCache.Text
