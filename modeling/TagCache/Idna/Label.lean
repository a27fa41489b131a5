import TagCache.Idna.Composition
import TagCache.Idna.Direction
import TagCache.Idna.Joining
import TagCache.Idna.Punycode
import TagCache.Idna.Repertoire

/-!
# Labels of international names

A domain name consists of labels with dots between them. A label of a name in ASCII may stand for
one in Unicode: behind the four characters `xn--` it is encoded in Punycode. What it stands for has
to be in the one form that would be encoded, so that a label has one spelling.
-/

namespace TagCache.Idna

/-- The beginning of an encoded label. -/
def encodedMark : List Char := ['x', 'n', '-', '-']

/-- Whether a text outside ASCII is a label in the form that is encoded. -/
def isLabel (cs : List Char) : Bool :=
  cs.any (0x80 ≤ ·.toNat) && cs.all inRepertoire && isComposed cs && !cs.head?.any isMark
    && joinersFit cs && cs.length ≤ 1000

/-- The text of a label in lower case. A label that is not encoded is its own text. -/
def readLabel? (label : List Char) : Option (List Char) :=
  if !encodedMark.isPrefixOf label then some label else
  let encoded := label.drop encodedMark.length
  if 2000 < encoded.length then none else
  (Punycode.decode? encoded).filter isLabel

/-- Whether a name in ASCII and lower case is one: its labels have texts, and where text is written
from right to left, each has one direction. -/
def isName (name : List Char) : Bool :=
  match (pieces (· = '.') name).mapM readLabel? with
  | some labels => !labels.any hasRightToLeft || labels.all hasOneDirection
  | none => false

end TagCache.Idna
