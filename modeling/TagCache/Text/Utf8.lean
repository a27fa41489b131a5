/-!
# Reading UTF-8

Bytes are read as a sequence of characters and of ill-formed parts. An ill-formed part is as long
as it could still have begun a character, and at least one byte, so that a reader who replaces
each part by one character loses nothing around it.
-/

namespace TagCache.Utf8

/-- A byte that continues a character. -/
def isTail (b : UInt8) : Bool := 0x80 ≤ b && b ≤ 0xbf

/-- The low six bits of a byte that continues a character. -/
def tailBits (b : UInt8) : Nat := b.toNat % 64

/-- How many bytes follow a first byte, and the range of the second. A character below U+0080 is
its own single byte; `none` for a byte that begins nothing. -/
def lead? (b : UInt8) : Option (Nat × UInt8 × UInt8) :=
  if b < 0xc2 then none
  else if b < 0xe0 then some (1, 0x80, 0xbf)
  else if b = 0xe0 then some (2, 0xa0, 0xbf)
  else if b = 0xed then some (2, 0x80, 0x9f)
  else if b < 0xf0 then some (2, 0x80, 0xbf)
  else if b = 0xf0 then some (3, 0x90, 0xbf)
  else if b < 0xf4 then some (3, 0x80, 0xbf)
  else if b = 0xf4 then some (3, 0x80, 0x8f)
  else none

/-- The characters of a sequence of bytes, with `none` for each ill-formed part. -/
def read : List UInt8 → List (Option Char)
  | [] => []
  | a :: rest =>
    if a < 0x80 then some (Char.ofNat a.toNat) :: read rest else
    match lead? a, rest with
    | none, rest => none :: read rest
    | some _, [] => [none]
    | some (more, low, high), b :: rest₁ =>
      if !(low ≤ b && b ≤ high) then none :: read (b :: rest₁) else
      match more, rest₁ with
      | 1, rest₁ => some (Char.ofNat (a.toNat % 32 * 64 + tailBits b)) :: read rest₁
      | _, [] => [none]
      | more, c :: rest₂ =>
        if !isTail c then none :: read (c :: rest₂) else
        match more, rest₂ with
        | 2, rest₂ =>
          some (Char.ofNat (a.toNat % 16 * 4096 + tailBits b * 64 + tailBits c)) :: read rest₂
        | _, [] => [none]
        | _, d :: rest₃ =>
          if !isTail d then none :: read (d :: rest₃) else
          some (Char.ofNat (a.toNat % 8 * 262144 + tailBits b * 4096 + tailBits c * 64
            + tailBits d)) :: read rest₃

/-- The characters of well-formed bytes. -/
def decode? (bytes : List UInt8) : Option (List Char) := (read bytes).mapM id

/-- The characters of any bytes, U+FFFD for each ill-formed part. -/
def decodeLossy (bytes : List UInt8) : List Char := (read bytes).map (·.getD '\ufffd')

/-- The number of bytes before the first ill-formed part. -/
def wellFormedLength (bytes : List UInt8) : Nat :=
  ((read bytes).takeWhile Option.isSome).reduceOption.foldl (fun n c => n + c.utf8Size) 0

/-- The bytes of a sequence of characters. -/
def encode (cs : List Char) : List UInt8 := cs.flatMap String.utf8EncodeChar

example : read [0xe2, 0x82, 0x41] = [none, some 'A'] := by decide +kernel
example : read [0xf0, 0x9f, 0xa6, 0x80] = [some '🦀'] := by decide +kernel
example : read [0xed, 0xa0, 0x80] = [none, none, none] := by decide +kernel

end TagCache.Utf8
