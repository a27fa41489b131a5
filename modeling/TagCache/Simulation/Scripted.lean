import TagCache.Json.Place
import TagCache.Json.Pointer
import TagCache.Portal.Registry

/-!
# Endpoints that are told what to do

A scripted endpoint reads from its argument what it does: the request it makes, the tags, why it
fails, and which patch a mutation predicts for which entries. Its results are any JSON value, and
the tags that a result names are added.
-/

namespace TagCache.Simulation

open Portal (TagKind)

/-! ## Notation of scripts -/

/-- A tag as `[kind, id, isList]`; of a collection the id does not matter. -/
def readTag? : Json → Option (Tag TagKind)
  | .arr [.str kind, .str id, .bool isList] => do
    let kind ← (TagKind.ofName kind).toOption
    return if isList then kind.collection else kind.entity id
  | _ => none

/-- The tags under `tags`; what is no tag is skipped. -/
def tagsOf (j : Json) : List (Tag TagKind) :=
  (((j.get? "tags").bind Json.arr?).getD []).filterMap readTag?

/-- A key as `[endpoint, argument]`. -/
def readKey? : Json → Option CacheKey
  | .arr [.str endpoint, arg] => some (.ofArg endpoint arg)
  | _ => none

/-- A replacement as `[path, value]`. -/
def readReplacement? : Json → Option Replacement
  | .arr [.str path, value] => some ⟨path, value⟩
  | _ => none

/-- A patch as a list of replacements. -/
def readPatch? (j : Json) : Option Patch := do
  return ⟨← (← j.arr?).mapM readReplacement?⟩

/-- The text under a key. -/
def textOf? (j : Json) (key : String) : Option String := (j.get? key).bind Json.str?

/-- The reason to fail under a key. A place that it ends in is normalized. -/
def reasonOf? (j : Json) (key : String) : Option String := (textOf? j key).map Json.normalizePlace

/-! ## Endpoints -/

/-- The request that a script describes. -/
def scriptedRequest (script : Json) : Except String Request :=
  match reasonOf? script "fail_request" with
  | some reason => .error reason
  | none => .ok {
      method := ((textOf? script "method").bind Method.ofName?).getD .get
      path := (textOf? script "path").getD "/custom"
      query := []
      body := script.get? "body" }

/-- The tags of the script, then those of the response. -/
def scriptedTags (response script : Json) : List (Tag TagKind) := tagsOf script ++ tagsOf response

/-- The patch of a script, if the document has the value that the script asks for. -/
def scriptedPatch (script document : Json) : Option Patch := do
  let patch ← readPatch? (← script.get? "patch")
  match script.get? "only_if" with
  | none => return patch
  | some (.arr [.str pointer, value]) =>
    if (← document.pointer? pointer).sameValue value then return patch else none
  | some _ => none

/-- A query that does what its argument says. -/
def customQuery : Query TagKind Json Json where
  name := "customQuery"
  argument := .any
  result := .any
  refusal script := reasonOf? script "fail_key"
  request := scriptedRequest
  provides := scriptedTags

/-- A mutation that does what its argument says. -/
def customMutation : Mutation TagKind Json Json where
  name := "customMutation"
  argument := .any
  result := .any
  request := scriptedRequest
  invalidates := scriptedTags
  prediction := some {
    targets := fun script =>
      (((script.get? "targets").bind Json.arr?).getD []).filterMap readKey?
    recipe := scriptedPatch }

/-- The endpoint with a name, of the portal or scripted. -/
def endpoint? (name : String) : Option (Endpoint TagKind) :=
  if name = customQuery.name then some (.query customQuery)
  else if name = customMutation.name then some (.mutation customMutation)
  else Portal.endpoint? name

end TagCache.Simulation
