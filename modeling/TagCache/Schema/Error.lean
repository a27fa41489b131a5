import TagCache.Json.Value
import TagCache.Text.Quoted

/-!
# Why a value does not decode

A decoding error names what was found and what the schema expected. Its wording is in one
function, `DecodeError.message`.
-/

namespace TagCache

/-- Why a JSON value is not one of a typed schema. -/
inductive DecodeError where
  /-- A value of another kind. -/
  | wrongType (found : Json) (expected : String)
  /-- A value of the right kind that is out of range. -/
  | wrongValue (found : Json) (expected : String)
  /-- A list or object with too few or too many parts. -/
  | wrongLength (length : Nat) (expected : String)
  | unknownVariant (name : String) (expected : List String)
  | missingField (name : String)
  /-- A value refused by the type's own reading. -/
  | refused (reason : String)
  deriving DecidableEq

namespace DecodeError

/-- A text between backquotes. -/
def ticked (s : String) : String := "`" ++ s ++ "`"

/-- A value as a message shows it: the content of a scalar, the kind of anything else. -/
def describe : Json → String
  | .null => "null"
  | .bool b => "boolean " ++ ticked (if b then "true" else "false")
  | .num (.int n) => "integer " ++ ticked (String.ofList (Number.int n).chars)
  | .num n => "floating point " ++ ticked (String.ofList n.chars)
  | .str s => "string " ++ Text.quoted s
  | .arr _ => "sequence"
  | .obj _ => "map"

/-- The names a variant may have. -/
def alternatives : List String → String
  | [] => "there are no variants"
  | [a] => "expected " ++ ticked a
  | [a, b] => "expected " ++ ticked a ++ " or " ++ ticked b
  | names => "expected one of " ++ ", ".intercalate (names.map ticked)

/-- The wording of a decoding error. -/
def message : DecodeError → String
  | wrongType found expected => "invalid type: " ++ describe found ++ ", expected " ++ expected
  | wrongValue found expected => "invalid value: " ++ describe found ++ ", expected " ++ expected
  | wrongLength length expected =>
    "invalid length " ++ toString length ++ ", expected " ++ expected
  | unknownVariant name expected =>
    "unknown variant " ++ ticked name ++ ", " ++ alternatives expected
  | missingField name => "missing field " ++ ticked name
  | refused reason => reason

end DecodeError

end TagCache
