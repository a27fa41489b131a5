import TagCache.Json.Value
import TagCache.Text.Pieces

/-!
# JSON pointers

A pointer names a place in a document by reference tokens: a key of an object, or the decimal
index of an item of a list. In the text of a pointer every token follows a slash; a slash inside
a token is written `~1` and a tilde `~0`. The empty pointer is the document itself.
-/

namespace TagCache.Json

namespace Pointer

/-! ## Text -/

/-- A token as it stands in a pointer. -/
def escape (token : List Char) : List Char :=
  token.flatMap fun c => if c = '~' then ['~', '0'] else if c = '/' then ['~', '1'] else [c]

/-- The token that stands in a pointer. A tilde before another character is itself. -/
def unescape : List Char → List Char
  | '~' :: '1' :: rest => '/' :: unescape rest
  | '~' :: '0' :: rest => '~' :: unescape rest
  | c :: rest => c :: unescape rest
  | [] => []

/-- The text of a pointer. -/
def ofTokens (tokens : List String) : String :=
  String.ofList (tokens.flatMap fun token => '/' :: escape token.toList)

/-- The tokens of a pointer, if it is empty or begins with a slash. -/
def tokens? (pointer : String) : Option (List String) :=
  match pointer.toList with
  | [] => some []
  | '/' :: rest => some ((pieces (· = '/') rest).map fun part => String.ofList (unescape part))
  | _ => none

/-- The index that a token names: decimal digits without a leading zero. -/
def index? (token : String) : Option Nat :=
  match token.toList with
  | ['0'] => some 0
  | c :: cs =>
    if c ≠ '0' && (c :: cs).all Char.isDigit then
      some ((c :: cs).foldl (fun n d => n * 10 + (d.toNat - '0'.toNat)) 0)
    else none
  | [] => none

end Pointer

/-! ## Places in a document -/

/-- The value at a place. -/
def at? : Json → List String → Option Json
  | j, [] => some j
  | obj ms, t :: ts => do at? (← Members.get? ms t) ts
  | arr xs, t :: ts => do at? (← xs[← Pointer.index? t]?) ts
  | _, _ :: _ => none

/-- Changes the value of the first member with this key. -/
def Members.modify? (key : String) (f : Json → Option Json) : Members → Option Members
  | [] => none
  | (k, v) :: ms =>
    if key = k then (f v).map fun v => (k, v) :: ms
    else (Members.modify? key f ms).map fun ms => (k, v) :: ms

/-- Changes the item at an index. -/
def modifyItem? (f : Json → Option Json) : Nat → List Json → Option (List Json)
  | _, [] => none
  | 0, x :: xs => (f x).map fun x => x :: xs
  | i + 1, x :: xs => (modifyItem? f i xs).map fun xs => x :: xs

/-- The document with the value at a place replaced. -/
def set? (new : Json) : List String → Json → Option Json
  | [], _ => some new
  | t :: ts, obj ms => (Members.modify? t (set? new ts) ms).map obj
  | t :: ts, arr xs => do (modifyItem? (set? new ts) (← Pointer.index? t) xs).map arr
  | _ :: _, _ => none

/-- The value that a pointer names. -/
def pointer? (j : Json) (pointer : String) : Option Json := do j.at? (← Pointer.tokens? pointer)

end TagCache.Json
