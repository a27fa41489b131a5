/-!
# Base64

Three bytes are written as four digits of six bits. At the end of the text, padding stands for
the digits that one or two bytes do not fill.
-/

namespace TagCache.Base64

/-- The digit of a number below 64. -/
def digit (n : Nat) : Char :=
  if n < 26 then Char.ofNat ('A'.toNat + n)
  else if n < 52 then Char.ofNat ('a'.toNat + (n - 26))
  else if n < 62 then Char.ofNat ('0'.toNat + (n - 52))
  else if n = 62 then '+'
  else '/'

/-- The text of a sequence of bytes. -/
def encode : List UInt8 → List Char
  | [] => []
  | [a] =>
    let n := a.toNat * 16
    [digit (n / 64), digit (n % 64), '=', '=']
  | [a, b] =>
    let n := (a.toNat * 256 + b.toNat) * 4
    [digit (n / 4096), digit (n / 64 % 64), digit (n % 64), '=']
  | a :: b :: c :: rest =>
    let n := (a.toNat * 256 + b.toNat) * 256 + c.toNat
    digit (n / 262144) :: digit (n / 4096 % 64) :: digit (n / 64 % 64) :: digit (n % 64)
      :: encode rest

example : encode [0x75, 0x3a] = ['d', 'T', 'o', '='] := by decide +kernel
example : encode [0x75, 0x3a, 0x70, 0xff] = ['d', 'T', 'p', 'w', '/', 'w', '=', '='] := by
  decide +kernel

end TagCache.Base64
