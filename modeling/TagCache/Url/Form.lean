import TagCache.Text.Pieces
import TagCache.Url.Basic

/-!
# Queries of pairs

A list of pairs of texts is written as a query: an equals sign inside a pair, an ampersand between
pairs, a plus sign for a space, and all but letters, digits and four marks in encoded form. So
neither sign occurs in what is written for a text, and the pairs can be read back.
-/

namespace TagCache

namespace Form

/-- Whether a character stands for itself. -/
def isPlain (c : Char) : Bool :=
  c.isAlphanum || c = '*' || c = '-' || c = '.' || c = '_'

/-- A text as it stands in a query. -/
def encodeText (s : String) : List Char :=
  s.toList.flatMap fun c =>
    if c = ' ' then ['+'] else Percent.encodeChar (!isPlain ·) c

/-- A pair as it stands in a query. -/
def encodePair (pair : String × String) : List Char :=
  encodeText pair.1 ++ '=' :: encodeText pair.2

/-- The query of a list of pairs. -/
def encode (pairs : List (String × String)) : List Char :=
  List.intercalate ['&'] (pairs.map encodePair)

/-- The text that a part of a query stands for. -/
def decodeText (cs : List Char) : String :=
  String.ofList (Utf8.decodeLossy (Percent.decode (cs.map fun c => if c = '+' then ' ' else c)))

/-- The pair that a part of a query stands for. Without an equals sign it is all key. -/
def decodePair (cs : List Char) : String × String :=
  (decodeText (cs.takeWhile (· ≠ '=')), decodeText ((cs.dropWhile (· ≠ '=')).drop 1))

/-- The pairs of a query. Empty parts are none. -/
def decode (cs : List Char) : List (String × String) :=
  ((pieces (· = '&') cs).filter (!·.isEmpty)).map decodePair

example : decode ['a', '+', '%', '2', 'B', '=', '&', '&', 'k'] = [("a +", ""), ("k", "")] := by
  decide +kernel

end Form

namespace Url

/-- The url with pairs behind those of its query. -/
def withPairs (u : Url) (pairs : List (String × String)) : Url :=
  match pairs, u.query with
  | [], _ => u
  | pairs, none | pairs, some [] => { u with query := some (Form.encode pairs) }
  | pairs, some query => { u with query := some (query ++ '&' :: Form.encode pairs) }

/-- The pairs of the query of a url. -/
def pairs (u : Url) : List (String × String) :=
  match u.query with
  | none => []
  | some query => Form.decode query

end Url

end TagCache
