import TagCache.Json.Place
import TagCache.Json.Text
import TagCache.Text.Utf8

/-!
# Reading JSON text

`Json.parse` reads one value from bytes and reports the first fault with its place. Lists and
objects nest at most 127 deep. Objects come out in normal form: members in key order, the last of
equal keys. An error names the line, counted from one, and the number of bytes of that line up to
and including the offending one; at the end of the text it is the number of bytes there are.
-/

namespace TagCache.Json

/-- What can be wrong with a text. -/
inductive Fault where
  | endInValue
  | endInObject
  | endInList
  | endInString
  | expectedValue
  | expectedWord
  | invalidNumber
  | numberOutOfRange
  | trailingCharacters
  | trailingComma
  | expectedColon
  | expectedCommaOrBrace
  | expectedCommaOrBracket
  | keyNotString
  | invalidEscape
  | endOfHexEscape
  | loneSurrogate
  | controlCharacter
  | invalidCodePoint
  | tooDeep
  deriving DecidableEq, Repr

/-- The wording of a fault. -/
def Fault.message : Fault → String
  | endInValue => "EOF while parsing a value"
  | endInObject => "EOF while parsing an object"
  | endInList => "EOF while parsing a list"
  | endInString => "EOF while parsing a string"
  | expectedValue => "expected value"
  | expectedWord => "expected ident"
  | invalidNumber => "invalid number"
  | numberOutOfRange => "number out of range"
  | trailingCharacters => "trailing characters"
  | trailingComma => "trailing comma"
  | expectedColon => "expected `:`"
  | expectedCommaOrBrace => "expected `,` or `\x7d`"
  | expectedCommaOrBracket => "expected `,` or `]`"
  | keyNotString => "key must be a string"
  | invalidEscape => "invalid escape"
  | endOfHexEscape => "unexpected end of hex escape"
  | loneSurrogate => "lone leading surrogate in hex escape"
  | controlCharacter => "control character (\\u0000-\\u001F) found while parsing a string"
  | invalidCodePoint => "invalid unicode code point"
  | tooDeep => "recursion limit exceeded"

/-- A fault and its place. -/
structure ParseError where
  fault : Fault
  place : Place
  deriving DecidableEq, Repr

/-- The wording of an error. -/
def ParseError.message (e : ParseError) : String := e.fault.message ++ e.place.suffix

/-! ## Bytes -/

/-- What is left to read, and how many bytes were read before. -/
structure Cursor where
  rest : List UInt8
  index : Nat

/-- A fault and the number of bytes up to it. -/
structure Stop where
  fault : Fault
  index : Nat

/-- A fault behind what was read. -/
def Cursor.stop (c : Cursor) (fault : Fault) : Stop := ⟨fault, c.index⟩

/-- A fault of the next byte, or of the end of the text. -/
def Cursor.stopNext (c : Cursor) (fault : Fault) : Stop :=
  ⟨fault, if c.rest.isEmpty then c.index else c.index + 1⟩

/-- Whether a byte may stand between tokens. -/
def isBlank (b : UInt8) : Bool := b = 0x20 || b = 0x0a || b = 0x0d || b = 0x09

/-- Whether a byte is a decimal digit. -/
def isDigit (b : UInt8) : Bool := 0x30 ≤ b && b ≤ 0x39

/-- Splits off the longest run of bytes with a property. -/
def Cursor.span (c : Cursor) (p : UInt8 → Bool) : List UInt8 × Cursor :=
  let run := c.rest.takeWhile p
  (run, ⟨c.rest.drop run.length, c.index + run.length⟩)

/-- The cursor behind blanks. -/
def Cursor.skipBlanks (c : Cursor) : Cursor := (c.span isBlank).2

/-- The cursor behind one byte. -/
def Cursor.skip (c : Cursor) : Cursor := ⟨c.rest.tail, c.index + 1⟩

/-! ## Numbers -/

/-- The largest significand that is kept exactly. -/
def significandLimit : Nat := Nat.pow 2 64 - 1

/-- Appends decimal digits to a significand as long as it stays within `limit`, and counts
them. -/
def appendDigits (limit : Nat) : Nat → List UInt8 → Nat × Nat
  | n, [] => (n, 0)
  | n, d :: ds =>
    let next := n * 10 + (d.toNat - 0x30)
    if limit < next then (n, 0)
    else
      let (m, count) := appendDigits limit next ds
      (m, count + 1)

/-- The float with this significand and exponent. -/
def readFloat (negative : Bool) (significand : Nat) (exponent : Int) (c : Cursor) :
    Except Stop (Json × Cursor) :=
  match Number.ofParts negative significand exponent with
  | some n => .ok (num n, c)
  | none => .error (c.stop .numberOutOfRange)

/-- What follows the `e` of a number. An exponent past 31 bits makes zero of a number that it
makes smaller, and of zero. -/
def readExponent (negative : Bool) (significand : Nat) (exponent : Int) (c : Cursor) :
    Except Stop (Json × Cursor) :=
  let (down, c) := match c.rest with
    | 0x2b :: _ => (false, c.skip)
    | 0x2d :: _ => (true, c.skip)
    | _ => (false, c)
  match c.rest with
  | [] => .error (c.stop .endInValue)
  | b :: _ =>
    if !isDigit b then .error (c.skip.stop .invalidNumber) else
    let (ds, behind) := c.span isDigit
    let (shift, count) := appendDigits (Nat.pow 2 31 - 1) 0 ds
    if count < ds.length then
      if significand ≠ 0 && !down then .error ⟨.numberOutOfRange, c.index + count + 1⟩
      else .ok (num (.float negative 0), behind)
    else readFloat negative significand (if down then exponent - shift else exponent + shift) behind

/-- What follows the integer part of a float. -/
def readScale (negative : Bool) (significand : Nat) (exponent : Int) (c : Cursor) :
    Except Stop (Json × Cursor) :=
  match c.rest with
  | 0x65 :: _ | 0x45 :: _ => readExponent negative significand exponent c.skip
  | _ => readFloat negative significand exponent c

/-- What follows the point of a number. Digits past the exact significand are dropped. -/
def readFraction (negative : Bool) (significand : Nat) (exponent : Int) (c : Cursor) :
    Except Stop (Json × Cursor) :=
  let (ds, behind) := c.span isDigit
  match ds, c.rest with
  | [], [] => .error (c.stopNext .endInValue)
  | [], _ => .error (c.stopNext .invalidNumber)
  | ds, _ =>
    let (significand, count) := appendDigits significandLimit significand ds
    readScale negative significand (exponent - count) behind

/-- A number behind its sign. -/
def readNumber (negative : Bool) (c : Cursor) : Except Stop (Json × Cursor) :=
  match c.rest with
  | [] => .error (c.stop .endInValue)
  | b :: _ =>
    if !isDigit b then .error (c.skip.stop .invalidNumber) else
    let (ds, behind) := if b = 0x30 then ([b], c.skip) else c.span isDigit
    let (significand, count) := appendDigits significandLimit 0 ds
    let dropped : Nat := ds.length - count
    match behind.rest with
    | 0x2e :: _ => readFraction negative significand dropped behind.skip
    | 0x65 :: _ | 0x45 :: _ => readExponent negative significand dropped behind.skip
    | next :: _ =>
      if b = 0x30 && isDigit next then .error (behind.stopNext .invalidNumber)
      else if 0 < dropped then readFloat negative significand dropped behind
      else .ok (num (.ofDigits negative significand), behind)
    | [] =>
      if 0 < dropped then readFloat negative significand dropped behind
      else .ok (num (.ofDigits negative significand), behind)

/-! ## Strings -/

/-- The value of a hexadecimal digit. -/
def hexValue? (b : UInt8) : Option Nat :=
  if isDigit b then some (b.toNat - 0x30)
  else if 0x61 ≤ b && b ≤ 0x66 then some (b.toNat - 0x61 + 10)
  else if 0x41 ≤ b && b ≤ 0x46 then some (b.toNat - 0x41 + 10)
  else none

/-- Four hexadecimal digits. -/
def readHex (c : Cursor) : Except Stop (Nat × Cursor) :=
  match c.rest with
  | b₁ :: b₂ :: b₃ :: b₄ :: rest =>
    let behind : Cursor := ⟨rest, c.index + 4⟩
    match hexValue? b₁, hexValue? b₂, hexValue? b₃, hexValue? b₄ with
    | some h₁, some h₂, some h₃, some h₄ => .ok (h₁ * 4096 + h₂ * 256 + h₃ * 16 + h₄, behind)
    | _, _, _, _ => .error (behind.stop .invalidEscape)
  | short => .error ⟨.endInString, c.index + short.length⟩

/-- The next byte of an escape has to be `expected`. -/
def readEscapeByte (expected : UInt8) (c : Cursor) : Except Stop (Unit × Cursor) :=
  match c.rest with
  | [] => .error (c.stop .endInString)
  | b :: _ => if b = expected then .ok ((), c.skip) else .error (c.skip.stop .endOfHexEscape)

/-- What follows `\u`: one unit, or the two halves of a pair of surrogates. -/
def readUnicodeEscape (c : Cursor) : Except Stop (List UInt8 × Cursor) := do
  let (unit, c) ← readHex c
  if 0xdc00 ≤ unit && unit ≤ 0xdfff then throw (c.stop .loneSurrogate)
  else if 0xd800 ≤ unit && unit ≤ 0xdbff then
    let ((), c) ← readEscapeByte 0x5c c
    let ((), c) ← readEscapeByte 0x75 c
    let (low, c) ← readHex c
    if low < 0xdc00 || 0xdfff < low then throw (c.stop .loneSurrogate)
    else
      let code := 0x10000 + (unit - 0xd800) * 0x400 + (low - 0xdc00)
      return (String.utf8EncodeChar (Char.ofNat code), c)
  else return (String.utf8EncodeChar (Char.ofNat unit), c)

/-- What follows a backslash. -/
def readEscape (c : Cursor) : Except Stop (List UInt8 × Cursor) :=
  match c.rest with
  | [] => .error (c.stop .endInString)
  | b :: _ =>
    match Char.ofNat b.toNat with
    | '"' => .ok ([0x22], c.skip)
    | '\\' => .ok ([0x5c], c.skip)
    | '/' => .ok ([0x2f], c.skip)
    | 'b' => .ok ([0x08], c.skip)
    | 'f' => .ok ([0x0c], c.skip)
    | 'n' => .ok ([0x0a], c.skip)
    | 'r' => .ok ([0x0d], c.skip)
    | 't' => .ok ([0x09], c.skip)
    | 'u' => readUnicodeEscape c.skip
    | _ => .error (c.skip.stop .invalidEscape)

/-- The bytes of a string up to its closing quote, which is left to read. `acc` holds the bytes
so far, last first. Each round reads a byte at least, so the number of bytes is enough fuel. -/
def readStringBytes : Nat → List UInt8 → Cursor → Except Stop (List UInt8 × Cursor)
  | 0, _, c => .error (c.stop .endInString)
  | fuel + 1, acc, c =>
    match c.rest with
    | [] => .error (c.stop .endInString)
    | b :: _ =>
      if b = 0x22 then .ok (acc.reverse, c)
      else if b = 0x5c then
        match readEscape c.skip with
        | .ok (bytes, behind) => readStringBytes fuel (bytes.reverse ++ acc) behind
        | .error stop => .error stop
      else if b < 0x20 then .error (c.skip.stop .controlCharacter)
      else readStringBytes fuel (b :: acc) c.skip

/-- The place of an ill-formed part in the bytes of a string is counted back from its closing
quote. Without escapes that is the first byte of the part; an escape is as long as the bytes that
it stands for. -/
def illFormedIndex (bytes : List UInt8) (quote : Cursor) : Nat :=
  quote.index + 1 - (bytes.length - Utf8.wellFormedLength bytes)

/-- A string behind its opening quote. -/
def readString (c : Cursor) : Except Stop (String × Cursor) := do
  let (bytes, c) ← readStringBytes (c.rest.length + 1) [] c
  match Utf8.decode? bytes with
  | some cs => return (String.ofList cs, c.skip)
  | none => throw ⟨.invalidCodePoint, illFormedIndex bytes c⟩

/-! ## Values -/

/-- The rest of a word, such as `ull` behind the first letter of `null`. -/
def readWord (value : Json) : List UInt8 → Cursor → Except Stop (Json × Cursor)
  | [], c => .ok (value, c)
  | expected :: word, c =>
    match c.rest with
    | [] => .error (c.stop .endInValue)
    | b :: _ => if b = expected then readWord value word c.skip
      else .error (c.skip.stop .expectedWord)

/-- Behind the name of a member. -/
def readColon (c : Cursor) : Except Stop (Unit × Cursor) :=
  let c := c.skipBlanks
  match c.rest with
  | 0x3a :: _ => .ok ((), c.skip)
  | [] => .error (c.stopNext .endInObject)
  | _ => .error (c.stopNext .expectedColon)

mutual

/-- A value. `depth` is one more than the number of brackets that may still be opened. -/
def readValue (fuel depth : Nat) (c : Cursor) : Except Stop (Json × Cursor) :=
  let c := c.skipBlanks
  match fuel, c.rest with
  | 0, _ | _, [] => .error (c.stopNext .endInValue)
  | fuel + 1, b :: _ =>
    match Char.ofNat b.toNat with
    | 'n' => readWord null [0x75, 0x6c, 0x6c] c.skip
    | 't' => readWord (bool true) [0x72, 0x75, 0x65] c.skip
    | 'f' => readWord (bool false) [0x61, 0x6c, 0x73, 0x65] c.skip
    | '-' => readNumber true c.skip
    | '"' => (readString c.skip).map fun (s, c) => (str s, c)
    | '[' =>
      if depth ≤ 1 then .error (c.stopNext .tooDeep)
      else (readItems fuel (depth - 1) true c.skip).map fun (xs, c) => (arr xs, c)
    | '\x7b' =>
      if depth ≤ 1 then .error (c.stopNext .tooDeep)
      else (readMembers fuel (depth - 1) true [] c.skip).map fun (ms, c) => (obj ms, c)
    | _ => if isDigit b then readNumber false c else .error (c.stopNext .expectedValue)

/-- The items of a list, up to and with its closing bracket. -/
def readItems (fuel depth : Nat) (first : Bool) (c : Cursor) : Except Stop (List Json × Cursor) :=
  let c := c.skipBlanks
  match fuel, c.rest with
  | 0, _ | _, [] => .error (c.stopNext .endInList)
  | fuel + 1, b :: _ =>
    let item (c : Cursor) : Except Stop (List Json × Cursor) := do
      let (x, c) ← readValue fuel depth c
      let (xs, c) ← readItems fuel depth false c
      return (x :: xs, c)
    if b = 0x5d then .ok ([], c.skip)
    else if first then item c
    else if b = 0x2c then
      let c := c.skip.skipBlanks
      match c.rest with
      | 0x5d :: _ => .error (c.stopNext .trailingComma)
      | [] => .error (c.stopNext .endInValue)
      | _ => item c
    else .error (c.stopNext .expectedCommaOrBracket)

/-- The members of an object, up to and with its closing brace, added to those read before. -/
def readMembers (fuel depth : Nat) (first : Bool) (before : Members) (c : Cursor) :
    Except Stop (Members × Cursor) :=
  let c := c.skipBlanks
  match fuel, c.rest with
  | 0, _ | _, [] => .error (c.stopNext .endInObject)
  | fuel + 1, b :: _ =>
    let member (c : Cursor) : Except Stop (Members × Cursor) := do
      let (key, c) ← readString c.skip
      let ((), c) ← readColon c
      let (value, c) ← readValue fuel depth c
      readMembers fuel depth false (before.insert key value) c
    if b = 0x7d then .ok (before, c.skip)
    else if first then
      if b = 0x22 then member c else .error (c.stopNext .keyNotString)
    else if b = 0x2c then
      let c := c.skip.skipBlanks
      match c.rest with
      | 0x22 :: _ => member c
      | 0x7d :: _ => .error (c.stopNext .trailingComma)
      | [] => .error (c.stopNext .endInValue)
      | _ => .error (c.stopNext .keyNotString)
    else .error (c.stopNext .expectedCommaOrBrace)

end

/-- One value and nothing behind it but blanks. -/
def readDocument (bytes : List UInt8) : Except Stop Json := do
  let (value, c) ← readValue (2 * bytes.length + 2) 128 ⟨bytes, 0⟩
  let c := c.skipBlanks
  if c.rest.isEmpty then return value else throw (c.stopNext .trailingCharacters)

/-- Reads the value that a text consists of. -/
def parse (bytes : List UInt8) : Except ParseError Json :=
  match readDocument bytes with
  | .ok value => .ok value
  | .error stop => .error ⟨stop.fault, .behind (bytes.take stop.index)⟩

/-- Reads the value that a string consists of. -/
def ofString (s : String) : Except ParseError Json := parse (Utf8.encode s.toList)

end TagCache.Json
