import TagCache.Text.Pieces
import TagCache.Url.Path
import TagCache.Url.Percent

/-!
# Paths of files

In the `file` scheme a drive letter at the root names a drive. It is written with a colon and takes
the place of a host. Behind it the path has segments like any other, but it does not begin with
empty ones.

A break is a tab or the end of a line. Breaks in a text are not part of the url. Yet a break parts
a drive letter with a colon from what is behind it, so that a segment at the root becomes two.
-/

namespace TagCache

/-- Whether a character is a tab or ends a line. -/
def isBreak (c : Char) : Bool := c = '\t' || c = '\n' || c = '\r'

/-- A text without breaks. -/
def unbroken (cs : List Char) : List Char := cs.filter (!isBreak ·)

/-- The drive of a file, if its path names one, and the segments below. -/
structure FilePath where
  drive : Option Char
  segments : List (List Char)
  deriving DecidableEq, Repr

namespace FilePath

/-- The path that names no place yet. -/
def root : FilePath := ⟨none, []⟩

/-- The place above. -/
def above (p : FilePath) : FilePath := { p with segments := Path.up p.segments }

/-- The place below that a segment names. -/
def below (p : FilePath) (segment : List Char) : FilePath :=
  if p ≠ root then { p with segments := p.segments ++ [unbroken segment] } else
  match segment with
  | c :: ':' :: '\n' :: rest => ⟨none, [[c, ':'], rest]⟩
  | c :: _ => if Path.isDriveLetter segment then ⟨some c, []⟩ else ⟨none, [segment]⟩
  | [] => ⟨none, [[]]⟩

/-- A segment in its encoded form. No break is left but one behind a drive letter with a colon and
before something else. -/
def readSegment (cs : List Char) : List Char :=
  match Percent.encode Percent.pathSet (unbroken cs) with
  | c :: ':' :: d :: rest =>
    if c.isAlpha && (cs.dropWhile (· ≠ ':')).tail.head?.any isBreak then
      c :: ':' :: '\n' :: d :: rest
    else c :: ':' :: d :: rest
  | segment => segment

/-- The path that the text behind its first slash stands for. -/
def ofChars (isSlash : Char → Bool) (cs : List Char) : FilePath :=
  Path.follow above below root ((pieces isSlash cs).map readSegment)

/-- The path as that of a url. -/
def toPath (p : FilePath) : Path :=
  match p.drive with
  | some c => .rooted ([c, ':'] :: p.segments)
  | none =>
    match p.segments.dropWhile (·.isEmpty) with
    | [] => .rooted [[]]
    | segments => .rooted segments

end FilePath

end TagCache
