import TagCache.Json.Text

/-!
# Cache keys

A cached result is found under the name of its endpoint and the canonical text of the argument,
so arguments that differ only in the order of object members share an entry.
-/

namespace TagCache

/-- Where a result is cached. -/
structure CacheKey where
  endpoint : String
  arg : String
  deriving DecidableEq, Repr

namespace CacheKey

/-- The key of an argument. -/
def ofArg (endpoint : String) (arg : Json) : CacheKey := ⟨endpoint, arg.canonical⟩

/-- The key as text. -/
def text (k : CacheKey) : String := k.endpoint ++ "(" ++ k.arg ++ ")"

/-- Keys are ordered by endpoint, then by argument. -/
def lt (a b : CacheKey) : Bool :=
  a.endpoint < b.endpoint || (a.endpoint = b.endpoint && a.arg < b.arg)

/-- Puts a key into ascending keys, unless it is there. -/
def insertSorted (k : CacheKey) : List CacheKey → List CacheKey
  | [] => [k]
  | l :: ls => if k.lt l then k :: l :: ls else if k = l then l :: ls else l :: insertSorted k ls

/-- Keys in ascending order, each once. -/
def sorted (ks : List CacheKey) : List CacheKey := ks.foldr insertSorted []

end CacheKey

end TagCache
