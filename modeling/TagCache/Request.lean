import TagCache.Schema.Basic

/-!
# Requests

One call of the API, relative to its base url.
-/

namespace TagCache

/-- The method of a request. -/
inductive Method where
  | get
  | post
  | put
  | patch
  | delete
  deriving DecidableEq, Repr

namespace Method

/-- The name of a method. -/
def name : Method → String
  | get => "GET"
  | post => "POST"
  | put => "PUT"
  | patch => "PATCH"
  | delete => "DELETE"

/-- Every method. -/
def all : List Method := [get, post, put, patch, delete]

/-- The method with a name. -/
def ofName? (s : String) : Option Method := all.find? fun m => m.name = s

/-- A method is written as its name. -/
def schema : Schema Method := .variant (all.map fun m => (m.name, m)) name

end Method

/-- One call of the API. -/
structure Request where
  method : Method
  path : String
  query : List (String × String)
  body : Option Json
  deriving DecidableEq

namespace Request

/-- A request without query and body. -/
def of (method : Method) (path : String) : Request := ⟨method, path, [], none⟩

/-- A request that reads. -/
def get (path : String) : Request := .of .get path

/-- The request with a query parameter after those it has. -/
def withQuery (r : Request) (key value : String) : Request :=
  { r with query := r.query ++ [(key, value)] }

/-- The request with a body. -/
def withJson (r : Request) (body : Json) : Request := { r with body := some body }

/-- Method and path. -/
def text (r : Request) : String := r.method.name ++ " " ++ r.path

/-- A request is an object of its parts; the body may be missing. -/
def schema : Schema Request :=
  .record "struct Request"
    (.field "method" Method.schema .required <|
      .field "path" .string .required <|
      .field "query" (.list (.pair .string .string)) .required <|
      .field "body" (.option .any) .nullable .done)
    (fun (method, path, query, body, ()) => ⟨method, path, query, body⟩)
    (fun r => (r.method, r.path, r.query, r.body, ()))

end Request

end TagCache
