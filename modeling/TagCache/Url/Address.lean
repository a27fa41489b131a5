import TagCache.Text.Pieces
import TagCache.Url.Percent

/-!
# Internet addresses

An IPv4 address is a 32-bit word, read from up to four numbers between dots, where the last number
fills the bytes that are left. An IPv6 address is eight 16-bit pieces, read from hexadecimal groups
between colons; one double colon stands for the pieces that are missing, and the last two pieces
may be written as four decimal numbers. Addresses are written in one form only: four numbers with
dots, or eight groups with the longest run of zeros left out.
-/

namespace TagCache

/-- The number that digits of a base stand for. No digits are zero. -/
def digits? (base : Nat) (cs : List Char) : Option Nat :=
  cs.foldlM (fun n c => (Percent.hexValue? c).bind fun d =>
    if d < base then some (n * base + d) else none) 0

/-! ## Version 4 -/

namespace Ipv4

/-- A number: hexadecimal behind `0x`, octal behind another `0`, otherwise decimal. -/
def number? : List Char → Option Nat
  | [] => none
  | '0' :: 'x' :: cs => digits? 16 cs
  | '0' :: 'X' :: cs => digits? 16 cs
  | '0' :: c :: cs => digits? 8 (c :: cs)
  | cs => digits? 10 cs

/-- Whether the last part of a domain name is a number, so that the name has to be an address. -/
def endsInNumber (domain : List Char) : Bool :=
  let last := match (pieces (· = '.') domain).reverse with
    | [] :: part :: _ => part
    | part :: _ => part
    | [] => []
  (!last.isEmpty && last.all Char.isDigit) || (number? last).isSome

/-- The address that a text stands for. A dot may end it. -/
def ofChars? (cs : List Char) : Option UInt32 := do
  let parts := pieces (· = '.') cs
  let parts := if parts.getLast? = some [] then parts.dropLast else parts
  let numbers ← parts.mapM number?
  let last ← numbers.getLast?
  let front := numbers.dropLast
  let room := Nat.pow 256 (4 - front.length)
  if 3 < front.length || front.any (255 < ·) || room ≤ last then none
  else some (UInt32.ofNat (front.foldl (fun n b => n * 256 + b) 0 * room + last))

/-- The text of an address. -/
def chars (address : UInt32) : List Char :=
  let n := address.toNat
  let octet (k : Nat) : List Char := Nat.toDigits 10 (n / Nat.pow 256 k % 256)
  List.intercalate ['.'] [octet 3, octet 2, octet 1, octet 0]

example : ofChars? ['1', '2', '7', '.', '1'] = some 0x7f000001 := by decide +kernel
example : ofChars? ['0', 'x', 'f', 'f', '.', '0', '1', '0', '.'] = some 0xff000008 := by
  decide +kernel
example : chars 0x7f000001 = ['1', '2', '7', '.', '0', '.', '0', '.', '1'] := by decide +kernel

end Ipv4

/-! ## Version 6 -/

/-- An address of eight pieces. -/
structure Ipv6 where
  pieces : List UInt16
  length_pieces : pieces.length = 8
  deriving DecidableEq, Repr

namespace Ipv6

/-- The address of eight pieces. -/
def ofPieces? (ps : List UInt16) : Option Ipv6 :=
  if h : ps.length = 8 then some ⟨ps, h⟩ else none

/-- A piece: one to four hexadecimal digits. -/
def piece? (cs : List Char) : Option UInt16 :=
  if cs.isEmpty || 4 < cs.length then none else (digits? 16 cs).map UInt16.ofNat

/-- A decimal number below 256 without leading zeros. -/
def octet? : List Char → Option Nat
  | [] => none
  | ['0'] => some 0
  | '0' :: _ => none
  | cs => if cs.all Char.isDigit then (digits? 10 cs).filter (· < 256) else none

/-- Two pieces, written as four decimal numbers. -/
def dotted? (cs : List Char) : Option (List UInt16) :=
  match (TagCache.pieces (· = '.') cs).mapM octet? with
  | some [a, b, c, d] => some [UInt16.ofNat (a * 256 + b), UInt16.ofNat (c * 256 + d)]
  | _ => none

/-- The pieces of a list of groups, the last of which may be dotted. -/
def groups? (mayBeDotted : Bool) : List (List Char) → Option (List UInt16)
  | [] => some []
  | [cs] =>
    match piece? cs with
    | some p => some [p]
    | none => if mayBeDotted then dotted? cs else none
  | cs :: rest => do return (← piece? cs) :: (← groups? mayBeDotted rest)

/-- The pieces on one side of the double colon. -/
def side? (mayBeDotted : Bool) (cs : List Char) : Option (List UInt16) :=
  if cs.isEmpty then some [] else groups? mayBeDotted (TagCache.pieces (· = ':') cs)

/-- What stands before and behind the first double colon. -/
def splitGap? : List Char → Option (List Char × List Char)
  | ':' :: ':' :: rest => some ([], rest)
  | c :: rest => (splitGap? rest).map fun (front, back) => (c :: front, back)
  | [] => none

/-- The address that a text stands for. A double colon stands for at least one piece. -/
def ofChars? (cs : List Char) : Option Ipv6 :=
  match splitGap? cs with
  | none => (groups? true (TagCache.pieces (· = ':') cs)).bind ofPieces?
  | some (front, back) => do
    let front ← side? false front
    let back ← side? true back
    let missing := 8 - (front.length + back.length)
    if missing = 0 then none else ofPieces? (front ++ List.replicate missing 0 ++ back)

/-- The length of the run of zeros at the start. -/
def zeroRun (ps : List UInt16) : Nat := (ps.takeWhile (· = 0)).length

/-- The place and the length of the first of the longest runs of zeros. -/
def longestRun (ps : List UInt16) : Nat × Nat :=
  (List.range ps.length).foldl (fun best i =>
    let run := zeroRun (ps.drop i)
    if best.2 < run then (i, run) else best) (0, 0)

/-- The text of some pieces with colons between them. -/
def groupChars (ps : List UInt16) : List Char :=
  List.intercalate [':'] (ps.map fun p => Nat.toDigits 16 p.toNat)

/-- The text of an address. A single zero is written. -/
def chars (a : Ipv6) : List Char :=
  let (start, length) := longestRun a.pieces
  if length < 2 then groupChars a.pieces
  else groupChars (a.pieces.take start) ++ [':', ':'] ++ groupChars (a.pieces.drop (start + length))

example : (ofChars? ['1', ':', '0', ':', '0', ':', '2', ':', ':', '3']).map chars
    = some ['1', ':', '0', ':', '0', ':', '2', ':', ':', '3'] := by decide +kernel
example : (ofChars? [':', ':', '1', '.', '2', '.', '3', '.', '4']).map chars
    = some [':', ':', '1', '0', '2', ':', '3', '0', '4'] := by decide +kernel

end Ipv6

end TagCache
