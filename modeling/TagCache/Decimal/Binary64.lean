/-!
# Binary64 values in exact arithmetic

A finite binary64 value is an integer times a power of two. This file reads the 64 bits of a
value that way and rounds an exact fraction back to bits, to the nearest value and with halves
going to the even neighbour. Everything is `Nat` arithmetic, so the rounding of a product or a
quotient can be evaluated and reasoned about without any hardware float.
-/

namespace TagCache.Decimal

/-- The bits of a binary64 value without its sign: exponent field above a 52 bit fraction. -/
abbrev Magnitude := Nat

/-- The bits from which on a magnitude is infinite. -/
def infinite : Magnitude := 0x7ff * Nat.pow 2 52

/-- A finite magnitude as `(m, k)`, standing for `m * 2 ^ k / 2 ^ 1074`. -/
def Magnitude.scaled (bits : Magnitude) : Nat × Nat :=
  let field := bits / Nat.pow 2 52
  let fraction := bits % Nat.pow 2 52
  if field = 0 then (fraction, 0) else (fraction + Nat.pow 2 52, field - 1)

/-- A finite magnitude as an exact fraction. -/
def Magnitude.ratio (bits : Magnitude) : Nat × Nat :=
  let (m, k) := bits.scaled
  (m * Nat.pow 2 k, Nat.pow 2 1074)

/-- `num / den` rounded to an integer, halves to the even neighbour. -/
def roundHalfEven (num den : Nat) : Nat :=
  let quotient := num / den
  let twice := 2 * (num % den)
  if twice < den then quotient
  else if den < twice then quotient + 1
  else if quotient % 2 = 0 then quotient else quotient + 1

/-- The magnitude nearest to `num / den`, or `infinite` if the fraction rounds past the largest
finite value. -/
def Magnitude.ofRatio (num den : Nat) : Magnitude :=
  if num = 0 then 0 else
    -- in units of the smallest value, a fraction of at least `2 ^ 53` of them loses low bits
    let units := num * Nat.pow 2 1074 / den
    let drop := Nat.log2 units - 52
    min infinite (drop * Nat.pow 2 52 + roundHalfEven (num * Nat.pow 2 1074) (den * Nat.pow 2 drop))

/-- The product of two finite magnitudes. -/
def Magnitude.mul (a b : Magnitude) : Magnitude :=
  let (n₁, d₁) := a.ratio
  let (n₂, d₂) := b.ratio
  .ofRatio (n₁ * n₂) (d₁ * d₂)

/-- The quotient of two finite magnitudes, the second not zero. -/
def Magnitude.div (a b : Magnitude) : Magnitude :=
  let (n₁, d₁) := a.ratio
  let (n₂, d₂) := b.ratio
  .ofRatio (n₁ * d₂) (d₁ * n₂)

/-- The magnitude of an integer. -/
def Magnitude.ofNat (n : Nat) : Magnitude := .ofRatio n 1

example : Magnitude.ofNat 1 = 0x3ff0000000000000 := by decide +kernel
example : Magnitude.ofRatio 1 10 = 0x3fb999999999999a := by decide +kernel
example : Magnitude.ofRatio 5 (10 ^ 324) = 1 := by decide +kernel
example : Magnitude.ofNat (10 ^ 309) = infinite := by decide +kernel

end TagCache.Decimal
