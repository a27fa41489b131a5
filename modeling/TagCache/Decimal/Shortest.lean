import TagCache.Decimal.Binary64

/-!
# The shortest decimal that reads back

Among the decimals that round to a given binary64 value, the one with the fewest digits, and of
those the nearest to the value; an exact tie takes the even digit. The search tries one digit,
then two, and so on: for each count the two neighbours of the value on the decimal grid are the
only candidates.
-/

namespace TagCache.Decimal

/-- `digits * 10 ^ exponent`. -/
structure Numeral where
  digits : Nat
  exponent : Int
  deriving DecidableEq, Repr

/-- The digits of a number in base ten, most significant first. -/
def digitChars (n : Nat) : List Char := Nat.toDigits 10 n

/-- The reals that round to a value, as a value and two ends over one denominator. -/
structure Interval where
  low : Nat
  value : Nat
  high : Nat
  den : Nat
  /-- Whether the ends themselves round to the value. -/
  closed : Bool

/-- Whether `num / den` lies in the interval. -/
def Interval.has (i : Interval) (num den : Nat) : Bool :=
  if i.closed then i.low * den ≤ num * i.den && num * i.den ≤ i.high * den
  else i.low * den < num * i.den && num * i.den < i.high * den

/-- Below a power of two the neighbours are closer by half, unless that power starts the normal
range. -/
def Magnitude.interval (bits : Magnitude) : Interval :=
  let (m, k) := bits.scaled
  let below := if m = Nat.pow 2 52 && 0 < k then 1 else 2
  { low := (4 * m - below) * Nat.pow 2 k
    value := 4 * m * Nat.pow 2 k
    high := (4 * m + 2) * Nat.pow 2 k
    den := 4 * Nat.pow 2 1074
    closed := m % 2 = 0 }

/-- The exponent of the first digit of `num / den`, both positive. -/
def firstExponent (num den : Nat) : Int :=
  if den ≤ num then
    ((digitChars (num / den)).length : Int) - 1
  else
    let places := (digitChars (den / num)).length
    if den ≤ num * Nat.pow 10 (places - 1) then -((places : Int) - 1) else -(places : Int)

/-- The best of the two grid points around the value with `count` digits, if one reads back. -/
def Interval.withDigits (i : Interval) (first : Int) (count : Nat) : Option Numeral :=
  let exponent := first - (count : Int) + 1
  -- a grid point `c` is the fraction `c * up / down`
  let up := Nat.pow 10 exponent.toNat
  let down := Nat.pow 10 (-exponent).toNat
  let c := i.value * down / (i.den * up)
  let rest := i.value * down - c * (i.den * up)
  match i.has (c * up) down, i.has ((c + 1) * up) down with
  | true, true =>
    if 2 * rest < i.den * up || (2 * rest = i.den * up && c % 2 = 0) then some ⟨c, exponent⟩
    else some ⟨c + 1, exponent⟩
  | true, false => some ⟨c, exponent⟩
  | false, true => some ⟨c + 1, exponent⟩
  | false, false => none

/-- Drops trailing zeros, at most `fuel` of them. -/
def Numeral.trim : Nat → Numeral → Numeral
  | 0, d => d
  | fuel + 1, d =>
    if d.digits % 10 = 0 && d.digits ≠ 0 then Numeral.trim fuel ⟨d.digits / 10, d.exponent + 1⟩
    else d

/-- The shortest decimal that rounds to a finite magnitude other than zero. Seventeen digits
always read back. -/
def Magnitude.shortest (bits : Magnitude) : Numeral :=
  let i := bits.interval
  let first := firstExponent i.value i.den
  match (List.range' 1 17).findSome? (i.withDigits first) with
  | some d => d.trim 18
  | none => ⟨0, 0⟩

example : (Magnitude.ofRatio 1 10).shortest = ⟨1, -1⟩ := by decide +kernel
example : (Magnitude.ofNat (2 ^ 64)).shortest = ⟨18446744073709552, 3⟩ := by decide +kernel
example : Magnitude.shortest 1 = ⟨5, -324⟩ := by decide +kernel
example : (Magnitude.ofNat (10 ^ 23)).shortest = ⟨1, 23⟩ := by decide +kernel

end TagCache.Decimal
