/-!
# Paths

The path of a url is a list of segments, each behind a slash, or a bare text that has no structure.
Reading segments removes the dot segments: a single dot names the place it stands in, a double dot
the place above, and both leave an empty segment if they come last. Without dot segments, reading
appends the segments as they are.

A drive letter is a letter with a colon or a bar. A double dot does not remove a segment that is
one.
-/

namespace TagCache

/-- The path of a url. -/
inductive Path where
  | rooted (segments : List (List Char))
  | bare (text : List Char)
  deriving DecidableEq, Repr

namespace Path

/-! ## Text -/

/-- The text of a list of segments. -/
def segmentChars (segments : List (List Char)) : List Char := segments.flatMap ('/' :: ·)

/-- The text of a path. -/
def chars : Path → List Char
  | rooted segments => segmentChars segments
  | bare text => text

theorem segmentChars_append (xs ys : List (List Char)) :
    segmentChars (xs ++ ys) = segmentChars xs ++ segmentChars ys := List.flatMap_append

/-- The path with an empty last segment, so that relative paths are resolved below it. -/
def asDirectory : Path → Path
  | rooted segments =>
    if segments.getLast? = some [] then rooted segments else rooted (segments ++ [[]])
  | bare text => bare text

/-! ## Dot segments -/

/-- Whether a segment names the place it stands in. -/
def isSingleDot (segment : List Char) : Bool :=
  segment.map Char.toLower ∈ [['.'], ['%', '2', 'e']]

/-- Whether a segment names the place above. -/
def isDoubleDot (segment : List Char) : Bool :=
  segment.map Char.toLower ∈ [['.', '.'], ['.', '%', '2', 'e'], ['%', '2', 'e', '.'],
    ['%', '2', 'e', '%', '2', 'e']]

/-- Whether a text is a letter with a colon or a bar. -/
def isDriveLetter : List Char → Bool
  | [c, d] => c.isAlpha && (d = ':' || d = '|')
  | _ => false

/-- Whether a segment is a drive letter, alone or before a backslash. -/
def isDrive (segment : List Char) : Bool :=
  isDriveLetter (segment.take 2) && (segment.drop 2).head?.all (· = '\\')

/-- The place above. A drive has none. -/
def up (segments : List (List Char)) : List (List Char) :=
  match segments.getLast? with
  | some segment => if isDrive segment then segments else segments.dropLast
  | none => []

/-- The place that a list of segments leads to, if `above` leads to the place above and `below` to
the place that a segment names. A dot segment at the end leads to the empty segment. -/
def follow {α : Type} (above : α → α) (below : α → List Char → α) (place : α) :
    List (List Char) → α
  | [] => place
  | [last] =>
    if isDoubleDot last then below (above place) []
    else if isSingleDot last then below place []
    else below place last
  | next :: rest =>
    if isDoubleDot next then follow above below (above place) rest
    else if isSingleDot next then follow above below place rest
    else follow above below (below place next) rest

/-- The segments with those of a relative path behind them. -/
def extend (segments rest : List (List Char)) : List (List Char) :=
  follow up (fun segments segment => segments ++ [segment]) segments rest

/-- Segments without dots are appended. -/
theorem extend_eq_append {rest : List (List Char)} (segments : List (List Char))
    (h : ∀ s ∈ rest, isSingleDot s = false ∧ isDoubleDot s = false) :
    extend segments rest = segments ++ rest := by
  unfold extend
  induction rest generalizing segments with
  | nil => simp [follow]
  | cons s rest ih =>
    have hs := h s List.mem_cons_self
    cases rest with
    | nil => simp [follow, hs]
    | cons t rest =>
      have ht := ih (segments ++ [s]) fun u hu => h u (List.mem_cons_of_mem _ hu)
      simp [follow, hs, ht]

end Path

end TagCache
