/-!
# Places in a text

A place is a line and a column, and a message about a text ends in one. Lines count from one, so
line zero is no place at all and is not written. A message that came from elsewhere may end in a
place too; `normalizePlace` writes that place the way this library does.
-/

namespace TagCache.Json

/-- A line and a column. -/
structure Place where
  line : Nat
  column : Nat
  deriving DecidableEq, Repr

namespace Place

/-- What leads to the line. -/
def lineMark : String := " at line "

/-- What leads to the column. -/
def columnMark : String := " column "

/-- The end of a message about a place. -/
def suffix (p : Place) : String :=
  if p.line = 0 then ""
  else lineMark ++ toString p.line ++ columnMark ++ toString p.column

/-- The place behind the first bytes of a text. -/
def behind (before : List UInt8) : Place :=
  ⟨before.count 0x0a + 1, (before.reverse.takeWhile (· ≠ 0x0a)).length⟩

/-! ## Reading -/

/-- What stands before the last mark in a text, and behind it. -/
def splitLastMark? (mark : List Char) : List Char → Option (List Char × List Char)
  | [] => none
  | c :: cs =>
    match splitLastMark? mark cs with
    | some (before, behind) => some (c :: before, behind)
    | none =>
      if mark.isPrefixOf (c :: cs) then some ([], (c :: cs).drop mark.length) else none

/-- The number that a text of digits stands for, if it is one of 64 bits. -/
def readNumber? (digits : List Char) : Option Nat :=
  let n := digits.foldl (fun n d => n * 10 + (d.toNat - '0'.toNat)) 0
  if !digits.isEmpty && digits.all Char.isDigit && n < Nat.pow 2 64 then some n else none

/-- The place at the end of a message, and the message before it. -/
def splitPlace? (message : List Char) : Option (List Char × Place) := do
  let (before, rest) ← splitLastMark? lineMark.toList message
  let line := rest.takeWhile Char.isDigit
  let rest := rest.drop line.length
  if !columnMark.toList.isPrefixOf rest then none
  else return (before, ⟨← readNumber? line, ← readNumber? (rest.drop columnMark.length)⟩)

end Place

/-- The message with the place at its end, if there is one, in the form of this library. -/
def normalizePlace (message : String) : String :=
  match Place.splitPlace? message.toList with
  | some (before, place) => String.ofList before ++ place.suffix
  | none => message

example : normalizePlace "bad key at line 03 column 04" = "bad key at line 3 column 4" := by
  decide +kernel
example : normalizePlace "bad key at line 0 column 4" = "bad key" := by decide +kernel
example : normalizePlace "bad key at line 3" = "bad key at line 3" := by decide +kernel

end TagCache.Json
