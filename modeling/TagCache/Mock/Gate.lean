import TagCache.Mock.Api

/-!
# Holding back answers

A gate before a mocked API lets no answer through while it is closed. Requests are received at
once; the answer is picked when the gate lets it through, so it can still be changed before. A
gate that nobody can open any more turns waiting requests away.
-/

namespace TagCache.Mock

/-- A mocked API behind a gate. -/
structure Gate where
  api : Api
  isOpen : Bool
  /-- Whether somebody can still open the gate. -/
  isAttended : Bool
  /-- Requests without an answer, under their numbers. -/
  waiting : List (Nat × Request)
  /-- The number of the next request. -/
  next : Nat

namespace Gate

/-- Open and attended, without requests. -/
def new : Gate := ⟨.empty, true, true, [], 0⟩

/-- Receives a request, which gets the next number. -/
def send (g : Gate) (request : Request) : Nat × Gate :=
  (g.next, { g with
    api := g.api.receive request
    waiting := g.waiting ++ [(g.next, request)]
    next := g.next + 1 })

/-- The error of a request that is turned away. -/
def wentAway : ApiError := ⟨503, "mock api went away"⟩

/-- Answers requests in order. -/
def answerAll : List (Nat × Request) → Api → List (Nat × Answer) × Api
  | [], api => ([], api)
  | (n, request) :: rest, api =>
    let (answer, api) := api.answer request
    let (answers, api) := answerAll rest api
    ((n, answer) :: answers, api)

/-- Lets through what can be let through. -/
def poll (g : Gate) : List (Nat × Answer) × Gate :=
  if g.isOpen then
    let (answers, api) := answerAll g.waiting g.api
    (answers, { g with api := api, waiting := [] })
  else if g.isAttended then ([], g)
  else (g.waiting.map fun (n, _) => (n, .error wentAway), { g with waiting := [] })

/-- Whether at least `count` requests have been received. -/
def hasReceived (g : Gate) (count : Nat) : Bool := count ≤ g.api.requests.length

end Gate

end TagCache.Mock
