import TagCache.Text.Pieces

/-!
# Punycode

A text in ASCII that stands for one in Unicode. It has the ASCII characters of that text up to its
last hyphen, and behind it numbers that say where the others are inserted, in ascending order of
their code points. A number counts places: all places of the text for one code point come before
those for the next. Its digits are letters and decimals, the lowest first, and a threshold for each
digit says whether it is the last one. The thresholds follow the size of the numbers before.

Numbers are kept within 32 bits; a text that needs larger ones stands for nothing.
-/

namespace TagCache.Punycode

/-- The value of a digit. -/
def digit? (c : Char) : Option Nat :=
  if 'a' ≤ c && c ≤ 'z' then some (c.toNat - 'a'.toNat)
  else if '0' ≤ c && c ≤ '9' then some (c.toNat - '0'.toNat + 26)
  else none

/-- The threshold of the digit with this weight class: a digit below it is the last one. -/
def threshold (bias k : Nat) : Nat :=
  if k ≤ bias then 1 else if bias + 26 ≤ k then 26 else k - bias

/-- How often a number is divided by 35 until it is at most 455, times 36, and what is left. -/
def scale (delta : Nat) : Nat × Nat :=
  if 455 < delta then
    let (k, rest) := scale (delta / 35)
    (k + 36, rest)
  else (0, delta)
termination_by delta
decreasing_by exact Nat.div_lt_self (by omega) (by decide)

/-- The bias for the number behind `delta`. `count` is the number of characters by then. -/
def adapt (delta count : Nat) (first : Bool) : Nat :=
  let delta := if first then delta / 700 else delta / 2
  let (k, rest) := scale (delta + delta / count)
  k + 36 * rest / (rest + 38)

/-- A text that is being read. -/
structure Reader where
  /-- The characters so far. -/
  text : List Char
  /-- The last code point that was inserted. -/
  codePoint : Nat
  /-- The place behind the last insertion. -/
  place : Nat
  bias : Nat
  /-- The number that is being read, as far as its digits are known. -/
  delta : Nat
  /-- The weight of its next digit. -/
  weight : Nat
  /-- What the threshold of its next digit depends on. -/
  k : Nat

/-- A reader with the ASCII characters of a text. -/
def Reader.new (basic : List Char) : Reader := ⟨basic, 0x80, 0, 72, 0, 1, 36⟩

/-- Inserts the character that a number stands for. -/
def Reader.insert? (r : Reader) (delta : Nat) : Option Reader :=
  let count := r.text.length + 1
  let codePoint := r.codePoint + (r.place + delta) / count
  let place := (r.place + delta) % count
  if codePoint.isValidChar then
    some ⟨r.text.insertIdx place (Char.ofNat codePoint), codePoint, place + 1,
      adapt delta count (r.place = 0), 0, 1, 36⟩
  else none

/-- Reads one digit. -/
def Reader.step? (r : Reader) (c : Char) : Option Reader := do
  let digit ← digit? c
  let delta := r.delta + digit * r.weight
  let threshold := threshold r.bias r.k
  let weight := r.weight * (36 - threshold)
  if Nat.pow 2 32 ≤ r.place + delta then none
  else if digit < threshold then r.insert? delta
  else if Nat.pow 2 32 ≤ weight then none
  else some { r with delta := delta, weight := weight, k := r.k + 36 }

/-- The text that numbers and ASCII characters stand for. The last number has to be complete. -/
def read? (basic digits : List Char) : Option (List Char) := do
  let r ← digits.foldlM Reader.step? (Reader.new basic)
  if r.k = 36 then some r.text else none

/-- The text that a text in lower case stands for. A hyphen has something before it. -/
def decode? (cs : List Char) : Option (List Char) :=
  match splitLast? '-' cs with
  | none => read? [] cs
  | some ([], _) => none
  | some (basic, digits) => read? basic digits

example : decode? "bcher-kva".toList = some "bücher".toList := by decide +kernel
example : decode? "1ch".toList = some "≠".toList := by decide +kernel
example : decode? "0".toList = none := by decide +kernel
example : decode? "pokxncvks".toList ≠ none := by decide +kernel

end TagCache.Punycode
