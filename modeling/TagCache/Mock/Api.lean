import TagCache.Request
import TagCache.Table

/-!
# A mock of the API

Answers to requests are registered per route, a method and a path. An answer can be registered
for one request or for good; the ones for one request are used up first, in order.
-/

namespace TagCache.Mock

/-- The error of a mocked call. -/
structure ApiError where
  status : Nat
  message : String
  deriving DecidableEq, Repr

/-- The wording of an error. -/
def ApiError.text (e : ApiError) : String :=
  "mock api responded with status " ++ toString e.status ++ ": " ++ e.message

/-- An answer to a request. -/
abbrev Answer := Except ApiError Json

/-- A method and a path. -/
abbrev Route := Method × String

/-- Registered answers and the requests received so far. -/
structure Api where
  /-- Answers for one request each, in order. -/
  once : Table Route (List Answer)
  /-- Answers for every request. -/
  always : Table Route Answer
  requests : List Request

namespace Api

/-- Without answers. -/
def empty : Api := ⟨.empty, .empty, []⟩

/-- Answers every request to a route with a value. -/
def respond (api : Api) (route : Route) (value : Json) : Api :=
  { api with always := api.always.insert route (.ok value) }

/-- Answers every request to a route with an error. -/
def fail (api : Api) (route : Route) (status : Nat) : Api :=
  let error : ApiError := ⟨status, route.1.name ++ " " ++ route.2 ++ " failed"⟩
  { api with always := api.always.insert route (.error error) }

/-- Answers the next request to a route that has no earlier answer of its own. -/
def respondOnce (api : Api) (route : Route) (answer : Answer) : Api :=
  { api with once := api.once.insert route ((api.once.get? route).getD [] ++ [answer]) }

/-- Notes a request. -/
def receive (api : Api) (request : Request) : Api :=
  { api with requests := api.requests ++ [request] }

/-- The answer to a request, and the answers that are left. -/
def answer (api : Api) (request : Request) : Answer × Api :=
  let route := (request.method, request.path)
  match api.once.get? route with
  | some (answer :: rest) => (answer, { api with once := api.once.insert route rest })
  | _ => match api.always.get? route with
    | some answer => (answer, api)
    | none => (.error ⟨404, "no response for " ++ request.text⟩, api)

/-- How many requests a route has received. -/
def requestCount (api : Api) (route : Route) : Nat :=
  api.requests.countP fun r => r.method = route.1 && r.path = route.2

end Api

end TagCache.Mock
