import TagCache.Decimal.Shortest

/-!
# JSON numbers

An integer of at most 64 bits is kept as an integer; every other number is a finite binary64
value, kept as its bits so that equality of numbers is decidable. Text is written with the
fewest digits that read back: positional for magnitudes from `10 ^ -5` up to below `10 ^ 16`,
with an exponent otherwise.
-/

namespace TagCache

open Decimal (Magnitude Numeral digitChars)

/-- A JSON number. -/
inductive Number where
  | int (value : Int)
  /-- A binary64 value: its sign and the bits below the sign. -/
  | float (negative : Bool) (magnitude : Magnitude)
  deriving DecidableEq, Repr

namespace Number

/-- Equality of values: the two zeros of binary64 are equal, an integer never equals a float. -/
def sameValue : Number → Number → Bool
  | .int a, .int b => a == b
  | .float s a, .float t b => a == b && (s == t || a == 0)
  | _, _ => false

/-! ## Reading -/

/-- Powers of ten as the nearest binary64 values. -/
def powerOfTen (k : Nat) : Magnitude := .ofNat (Nat.pow 10 k)

/-- `m * 10 ^ exponent`, one rounded operation at a time; `none` when it grows past every finite
value. A power beyond `10 ^ 308` has no binary64 value, so a smaller number is divided by
`10 ^ 308` first, at most `fuel` times. -/
def scale : Nat → Magnitude → Int → Option Magnitude
  | fuel, m, exponent =>
    if 0 ≤ exponent then
      if exponent ≤ 308 then
        let scaled := m.mul (powerOfTen exponent.toNat)
        if scaled < Decimal.infinite then some scaled else none
      else if m = 0 then some m else none
    else if -308 ≤ exponent then some (m.div (powerOfTen (-exponent).toNat))
    else match fuel with
      | 0 => some 0
      | fuel + 1 => if m = 0 then some m else scale fuel (m.div (powerOfTen 308)) (exponent + 308)

/-- The float written as an integer significand and a power of ten. Dividing a 64 bit significand
by `10 ^ 308` twice leaves zero, so four rounds are enough for any exponent. -/
def ofParts (negative : Bool) (significand : Nat) (exponent : Int) : Option Number :=
  (scale 4 (.ofNat significand) exponent).map (.float negative)

/-- The number written as an integer of at most 64 bits. A negative one outside the signed range
and `-0` are floats. -/
def ofDigits (negative : Bool) (significand : Nat) : Number :=
  if negative then
    if 0 < significand && significand ≤ Nat.pow 2 63 then .int (-significand)
    else .float true (.ofNat significand)
  else .int significand

/-! ## Writing -/

/-- The digits of an integer, after a minus sign if it is negative. -/
def intChars (n : Int) : List Char :=
  if n < 0 then '-' :: digitChars n.natAbs else digitChars n.natAbs

/-- A positive decimal: positional if the exponent of its first digit is from -5 to 15, and then
with at least one place. -/
def decimalChars (d : Numeral) : List Char :=
  let digits := digitChars d.digits
  let first := d.exponent + digits.length - 1
  if -5 ≤ first && first ≤ 15 then
    if first < 0 then
      '0' :: '.' :: List.replicate (-first - 1).toNat '0' ++ digits
    else if 0 ≤ d.exponent then
      digits ++ List.replicate d.exponent.toNat '0' ++ ['.', '0']
    else
      digits.take (first + 1).toNat ++ '.' :: digits.drop (first + 1).toNat
  else
    let sign := if first < 0 then '-' else '+'
    let places := match digits with
      | [d] => [d]
      | d :: ds => d :: '.' :: ds
      | [] => []
    places ++ 'e' :: sign :: digitChars first.natAbs

/-- The text of a number. -/
def chars : Number → List Char
  | .int n => intChars n
  | .float negative m =>
    let digits := if m = 0 then ['0', '.', '0'] else decimalChars m.shortest
    if negative then '-' :: digits else digits

example : (ofParts false 15 (-1)).map chars = some ['1', '.', '5'] := by decide +kernel
example : (ofParts false 1 16).map chars = some ['1', 'e', '+', '1', '6'] := by decide +kernel
example : (ofParts false 1 15).map chars =
    some "1000000000000000.0".toList := by decide +kernel
example : (ofParts true 25 (-10)).map chars = some "-2.5e-9".toList := by decide +kernel
example : (ofParts false 1 (-5)).map chars = some "0.00001".toList := by decide +kernel
example : ofParts false 1 309 = none := by decide +kernel

end Number

end TagCache
