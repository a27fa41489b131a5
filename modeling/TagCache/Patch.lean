import TagCache.Json.Pointer
import TagCache.Schema.Basic

/-!
# Reversible patches

A patch replaces values at places of a document, in order. Applying it gives the patched document
and the patch that undoes it: the old values, last replacement first. A patch that names a place
the document does not have at that moment is not applied at all.
-/

namespace TagCache

/-- Puts a value where a pointer leads. -/
structure Replacement where
  path : String
  value : Json
  deriving DecidableEq

/-- Replacements, first to last. -/
structure Patch where
  ops : List Replacement
  deriving DecidableEq

/-- Why a patch does not apply. -/
inductive PatchError where
  | pathNotFound (path : String)
  deriving DecidableEq

/-- The wording of a patch error. -/
def PatchError.message : PatchError → String
  | pathNotFound path => "no value at path \"" ++ path ++ "\""

/-- The document with one value replaced, and the value that was there. -/
def Replacement.apply? (op : Replacement) (document : Json) : Option (Json × Json) := do
  let tokens ← Json.Pointer.tokens? op.path
  let old ← document.at? tokens
  let new ← Json.set? op.value tokens document
  return (new, old)

namespace Patch

/-- The patch that does nothing. -/
def empty : Patch := ⟨[]⟩

/-- Whether a patch does nothing. -/
def isEmpty (p : Patch) : Bool := p.ops.isEmpty

/-- One replacement. -/
def replace (path : String) (value : Json) : Patch := ⟨[⟨path, value⟩]⟩

/-- Applies replacements in order and collects their inverses in reverse order. -/
def applyOps : List Replacement → Json → Except PatchError (Json × List Replacement)
  | [], document => .ok (document, [])
  | op :: ops, document =>
    match op.apply? document with
    | none => .error (.pathNotFound op.path)
    | some (document, old) => do
      let (document, inverse) ← applyOps ops document
      return (document, inverse ++ [⟨op.path, old⟩])

/-- The patched document and the patch that undoes it. -/
def apply (p : Patch) (document : Json) : Except PatchError (Json × Patch) :=
  (applyOps p.ops document).map fun (document, inverse) => (document, ⟨inverse⟩)

/-! ## As JSON -/

/-- The fields of a replacement besides its tag. -/
def replacementShape : Shape (String × Json × Unit) :=
  .field "path" .string .required <| .field "value" .any .required .done

/-- What messages call a replacement. -/
def replacementLabel : String := "struct variant PatchOp::Replace"

/-- The tag of an operation; `replace` is the only one. -/
def readTag : Json → Except DecodeError Unit
  | .str name => decodeName [("replace", ())] name
  | j => .error (.wrongType j "variant identifier")

/-- An operation is an object with a member `op`, or a list that begins with the tag. -/
def readReplacement : Json → Except DecodeError Replacement
  | .obj ms => do
    match Json.Members.get? ms "op" with
    | none => .error (.missingField "op")
    | some tag =>
      readTag tag
      ms.forM fun (name, value) => replacementShape.check name value
      let (path, value, ()) ← replacementShape.collect ms
      return ⟨path, value⟩
  | .arr [] => .error (.missingField "op")
  | .arr (tag :: xs) => do
    readTag tag
    let (path, value, ()) ←
      replacementShape.positions (replacementLabel ++ " with " ++ elements 2) 0 xs
    if 2 < xs.length then .error (.wrongLength xs.length (elements 2 ++ " in sequence"))
    else return ⟨path, value⟩
  | j => .error (.wrongType j "internally tagged enum PatchOp")

/-- An operation as an object. -/
def writeReplacement (op : Replacement) : Json :=
  .obj [("op", .str "replace"), ("path", .str op.path), ("value", op.value)]

/-- Operations under the member `ops`. -/
def schema : Schema Patch :=
  .record "struct Patch"
    (.field "ops" (.list (.own writeReplacement readReplacement)) .required .done)
    (fun (ops, ()) => ⟨ops⟩) (fun p => (p.ops, ()))

end Patch

end TagCache
