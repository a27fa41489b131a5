import TagCache.Mock.Api
import TagCache.Portal.TagKind
import TagCache.Simulation.EventLog
import TagCache.Store.Subscription

/-!
# A world for stores

Stores are pure; a world is what they live in when they are tried out. It has a clock that moves
only when told to, a mocked API that answers requests at once or holds them until they are
released, and tasks that wait for results. Work that an operation causes is queued and run when
the operation is over, so every run is determined by the operations and their order.
-/

namespace TagCache.Simulation

open Mock (Answer Api ApiError)
open Portal (TagKind)

/-- Why a request of this world has no result. -/
abbrev Failure := RequestError ApiError

/-- The result of a query or a mutation, written as JSON. -/
abbrev Outcome := Except Failure Json

/-- A store and what is kept beside it. -/
structure Cell where
  store : Store TagKind ApiError
  log : EventLog (StoreEvent TagKind ApiError)
  /-- Events are read on request only. -/
  manual : Bool
  /-- The keys that have been asked for, in ascending order. -/
  named : List CacheKey

/-- Work in the queue. -/
inductive Work where
  /-- A request to be sent. -/
  | send (cell : Nat) (fetch : Fetch)
  /-- A held request that was released, with an answer or to be answered by the API. -/
  | complete (cell : Nat) (fetch : Fetch) (answer : Option Answer)
  /-- The grace period of an entry begins. -/
  | arm (cell : Nat) (key : CacheKey) (generation : Nat)
  /-- The grace period of an entry is over. -/
  | evict (cell : Nat) (key : CacheKey) (generation : Nat)

/-- The end of a grace period. -/
structure Timer where
  deadline : Nat
  cell : Nat
  key : CacheKey
  generation : Nat

/-- Who waits for the answer to a held request. -/
inductive Waiter where
  | fetch (cell : Nat) (fetch : Fetch)
  | task (id : Nat)

/-- A request that waits for its release. -/
structure Held where
  ticket : Nat
  request : Request
  waiter : Waiter

/-- A query or a mutation that has not finished. -/
inductive Task : Type 1
  | query {ρ : Type} (cell : Nat) (view : Subscription ρ)
  /-- `released` is set once the request of the mutation is released: with an answer, or to be
  answered by the API. -/
  | mutation {α ρ : Type} (cell : Nat) (m : Mutation TagKind α ρ) (arg : α)
    (pairs : List PatchPair) (request : Request) (released : Option (Option Answer))

/-- A subscription that somebody holds. -/
inductive Handle : Type 1
  | of {ρ : Type} (cell : Nat) (view : Subscription ρ)

/-- Stores and their surroundings. -/
structure World : Type 1 where
  /-- Milliseconds since the beginning. -/
  clock : Nat
  cells : List Cell
  api : Api
  /-- Whether requests are held when they arrive. -/
  holding : Bool
  nextTicket : Nat
  held : List Held
  queue : List Work
  /-- In the order of arming. -/
  timers : List Timer
  /-- In the order of their ids. -/
  tasks : List (Nat × Task)
  handles : List (Nat × Handle)
  pairs : List (Nat × PatchPair)
  /-- Requests that arrived since the last report. -/
  arrived : List (Nat × Request)
  /-- Tasks that finished since the last report. -/
  finished : List (Nat × Outcome)

namespace World

/-- A world with stores of these parameters. -/
def new (stores : List (StoreConfig × Bool)) (api : Api) (holding : Bool) : World where
  clock := 0
  cells := stores.map fun (config, manual) =>
    ⟨.new config, .new config.eventCapacity, manual, []⟩
  api := api
  holding := holding
  nextTicket := 0
  held := []
  queue := []
  timers := []
  tasks := []
  handles := []
  pairs := []
  arrived := []
  finished := []

/-- A store of the world; one without entries if there is none of that number. -/
def store (w : World) (cell : Nat) : Store TagKind ApiError :=
  match w.cells[cell]? with
  | some c => c.store
  | none => .new {}

/-- The world with one cell changed. -/
def modifyCell (w : World) (cell : Nat) (f : Cell → Cell) : World :=
  { w with cells := w.cells.modify cell f }

/-- Queues or logs an effect of a store. -/
def perform (w : World) (cell : Nat) (effect : Effect TagKind ApiError) : World :=
  match effect with
  | .emit event => w.modifyCell cell fun c => { c with log := c.log.push event }
  | .send fetch => { w with queue := w.queue ++ [.send cell fetch] }
  | .evictLater key generation => { w with queue := w.queue ++ [.arm cell key generation] }

/-- Takes up what an operation made of a store. -/
def commit (w : World) (cell : Nat)
    (result : Store TagKind ApiError × List (Effect TagKind ApiError)) : World :=
  result.2.foldl (fun w effect => w.perform cell effect)
    (w.modifyCell cell fun c => { c with store := result.1 })

/-! ## Requests -/

/-- Gives an arriving request its ticket. -/
def arrive (w : World) (request : Request) : Nat × World :=
  (w.nextTicket, { w with
    nextTicket := w.nextTicket + 1
    arrived := w.arrived ++ [(w.nextTicket, request)] })

/-- The answer of the API to a request. -/
def answer (w : World) (request : Request) : Answer × World :=
  let (answer, api) := (w.api.receive request).answer request
  (answer, { w with api := api })

/-- An answer that was given, or else that of the API. -/
def resolve (w : World) (request : Request) (given : Option Answer) : Answer × World :=
  match given with
  | some answer => (answer, w)
  | none => w.answer request

/-- Hands the answer to a request to its store. -/
def complete (w : World) (cell : Nat) (fetch : Fetch) (given : Option Answer) : World :=
  let (answer, w) := w.resolve fetch.request given
  w.commit cell ((w.store cell).completeFetch fetch.key fetch.id answer)

/-! ## The queue -/

/-- Does one piece of work. -/
def work (w : World) : Work → World
  | .send cell fetch =>
    let (ticket, w) := w.arrive fetch.request
    if w.holding then
      { w with held := w.held ++ [⟨ticket, fetch.request, .fetch cell fetch⟩] }
    else w.complete cell fetch none
  | .complete cell fetch given => w.complete cell fetch given
  | .arm cell key generation =>
    let deadline := w.clock + (w.store cell).config.keepUnused
    { w with timers := w.timers ++ [⟨deadline, cell, key, generation⟩] }
  | .evict cell key generation => w.commit cell ((w.store cell).evict key generation)

/-- Works through the queue, first come, first served. -/
def drain : Nat → World → World
  | 0, w => w
  | fuel + 1, w =>
    match w.queue with
    | [] => w
    | next :: rest => drain fuel ({ w with queue := rest }.work next)

/-! ## Tasks -/

/-- Finishes a task. -/
def finish (w : World) (id : Nat) (outcome : Outcome) : World :=
  { w with
    tasks := w.tasks.filter fun (other, _) => other ≠ id
    finished := w.finished ++ [(id, outcome)] }

/-- Ends a subscription. -/
def unsubscribe {ρ : Type} (w : World) (cell : Nat) (view : Subscription ρ)
    (hasTimer : Bool) : World :=
  w.commit cell ((w.store cell).unsubscribe view.key hasTimer)

/-- Lets a query finish if its entry has settled. -/
def pollQuery {ρ : Type} (w : World) (id cell : Nat) (view : Subscription ρ) : World :=
  match ((w.store cell).settled? view).1 with
  | none => w
  | some state =>
    let outcome := (Store.queryResult view.endpoint state).map view.result.encode
    (w.unsubscribe cell view true).finish id outcome

/-- Lets a mutation finish with the answer to its request. -/
def finishMutation {α ρ : Type} (w : World) (id cell : Nat) (m : Mutation TagKind α ρ) (arg : α)
    (pairs : List PatchPair) (answer : Answer) : World :=
  let (result, changed) := (w.store cell).endMutation m arg pairs answer
  (w.commit cell changed).finish id (result.map m.result.encode)

/-- Lets a task go on. -/
def poll (w : World) (id : Nat) : Task → World
  | .query cell view => w.pollQuery id cell view
  | .mutation _ _ _ _ _ none => w
  | .mutation cell m arg pairs request (some given) =>
    let (answer, w) := w.resolve request given
    w.finishMutation id cell m arg pairs answer

/-- Runs until nothing can go on: the queue until it is empty, then every task once, and again as
long as tasks finish. A piece of work causes at most one more, because a request that follows up
another is not followed up itself. -/
def run : Nat → World → World
  | 0, w => w
  | fuel + 1, w =>
    let w := drain (2 * w.queue.length) w
    let polled := w.tasks.foldl (fun w (id, task) => w.poll id task) w
    if polled.tasks.length < w.tasks.length then run fuel polled else polled

/-- Runs until nothing can go on. Every round but the last finishes a task. -/
def settle (w : World) : World := run (w.tasks.length + 1) w

end World

end TagCache.Simulation
