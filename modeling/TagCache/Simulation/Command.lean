import TagCache.Simulation.Scripted
import TagCache.Simulation.World

/-!
# Commands to a world

What somebody outside can do to the stores of a world and see of them. A command acts at once;
the work it causes runs when it is over, and then the world reports what can be seen.
-/

namespace TagCache.Simulation

open Mock (Answer ApiError Route)
open Portal (TagKind)

/-- Something to do. Subscriptions, tasks and patches are called by numbers. -/
inductive Action where
  | subscribe (handle : Nat) (endpoint : String) (arg : Json)
  /-- `hasTimer` says whether there is a timer to wait for the end of the grace period on. -/
  | drop (handle : Nat) (hasTimer : Bool)
  | state (handle : Nat)
  | data (handle : Nat)
  | changed (handle : Nat)
  | settled (handle : Nat)
  | next (handle : Nat)
  | refetch (handle : Nat)
  | refetchKey (key : CacheKey)
  | inspect (key : CacheKey)
  | start (task : Nat) (endpoint : String) (arg : Json)
  | cancel (task : Nat)
  | invalidate (tags : List (Tag TagKind))
  | advance (milliseconds : Nat)
  | wait
  | events
  | patch (key : CacheKey) (pair : Nat) (patch : Option Patch)
  | revert (pair : Nat)
  | hold (on : Bool)
  | release (ticket : Nat) (answer : Option Answer)
  | respond (route : Route) (value : Json)
  | fail (route : Route) (status : Nat)
  | respondOnce (route : Route) (answer : Answer)
  | requestCount (route : Route)

/-- One action, or several without a pause. -/
inductive Command where
  | one (action : Action)
  | batch (actions : List Action)

/-- An entry as the world shows it. -/
structure EntryView where
  key : CacheKey
  snapshot : Snapshot ApiError
  subscribers : Nat
  /-- In the order of their text. -/
  tags : List (Tag TagKind)

/-- What the reader of a log is told. -/
inductive Notice where
  | event (event : StoreEvent TagKind ApiError)
  | lagged (lost : Nat)

/-- The answer to an action. -/
inductive Reply where
  | done
  | flag (value : Bool)
  | count (value : Nat)
  | subscribed (key : CacheKey) (state : QueryState Json ApiError)
  | state (state : QueryState Json ApiError)
  | pending
  | data (data : Option Json)
  | entry (entry : EntryView)
  | noEntry (key : CacheKey)
  | notices (notices : List Notice)
  /-- What the recipe of a patch has seen, and the patch that undoes it. -/
  | patched (seen : Option Json) (inverse : Option Patch)
  | failed (error : Failure)
  | badArgument (error : DecodeError)
  | noSuchSubscription
  | notAQuery
  | unknownEndpoint (name : String)

/-- The answers to a command. -/
inductive Replies where
  | one (reply : Reply)
  | batch (replies : List Reply)

/-- What can be seen after a command. -/
structure Report where
  replies : Replies
  entries : List EntryView
  notices : List Notice
  requests : List (Nat × Request)
  tasks : List (Nat × Outcome)

/-- A tag as `[kind, id, isList]`. -/
def writeTag (t : Tag TagKind) : Json := .arr [.str t.kind.name, .str t.id.text, .bool t.isList]

/-- An entry as the world shows it. -/
def EntryView.of (key : CacheKey) (e : Entry TagKind ApiError) : EntryView :=
  ⟨key, e.snapshot, e.subscribers,
    e.tags.mergeSort fun a b => decide ((writeTag a).canonical ≤ (writeTag b).canonical)⟩

/-- Marks a mutation as released. -/
def Task.release (given : Option Answer) : Task → Task
  | .mutation cell m arg pairs request _ => .mutation cell m arg pairs request (some given)
  | task => task

namespace World

/-- The events that were not read yet. -/
def readEvents (w : World) (cell : Nat) : List Notice × World :=
  match w.cells[cell]? with
  | none => ([], w)
  | some c =>
    let (lost, events, log) := c.log.read
    ((if lost = 0 then [] else [.lagged lost]) ++ events.map .event,
      w.modifyCell cell fun c => { c with log := log })

/-- Remembers that a key has been asked for. -/
def name (w : World) (cell : Nat) (key : CacheKey) : World :=
  w.modifyCell cell fun c => { c with named := CacheKey.insertSorted key c.named }

/-- The entries of a store that have been asked for. -/
def entries (w : World) (cell : Nat) : List EntryView :=
  match w.cells[cell]? with
  | none => []
  | some c => c.named.filterMap fun key => (c.store.find? key).map (EntryView.of key)

/-! ## Subscriptions -/

/-- Subscribes to a query. -/
def subscribeTo {α ρ : Type} (w : World) (cell : Nat) (q : Query TagKind α ρ) (arg : α) :
    Except Failure (Subscription ρ) × World :=
  match (w.store cell).subscribe q arg with
  | .error error => (.error error, w)
  | .ok (view, changed) => (.ok view, (w.commit cell changed).name cell view.key)

/-- Puts a handle in the place of the one with its number. -/
def putHandle (w : World) (id : Nat) (handle : Handle) : World :=
  { w with handles := (id, handle) :: w.handles.filter fun (other, _) => other ≠ id }

/-- Looks at a subscription in a way that may mark versions as seen. -/
def look (w : World) (id : Nat)
    (see : {ρ : Type} → Store TagKind ApiError → Subscription ρ →
      Option (QueryState ρ ApiError) × Subscription ρ) : Reply × World :=
  match w.handles.lookup id with
  | none => (.noSuchSubscription, w)
  | some (.of cell view) =>
    let (state, view) := see (w.store cell) view
    (match state with
      | none => .pending
      | some state => .state (state.encode view.result),
      w.putHandle id (.of cell view))

/-! ## Tasks -/

/-- Adds a task in the order of ids. -/
def putTask (w : World) (id : Nat) (task : Task) : World :=
  { w with tasks := w.tasks.filter (fun (other, _) => other < id) ++ (id, task)
      :: w.tasks.filter fun (other, _) => id < other }

/-- Starts a query and runs it until it has to wait. -/
def startQuery {α ρ : Type} (w : World) (cell id : Nat) (q : Query TagKind α ρ) (arg : α) :
    World :=
  match w.subscribeTo cell q arg with
  | (.error error, w) => w.finish id (.error error)
  | (.ok view, w) => (w.putTask id (.query cell view)).pollQuery id cell view

/-- Starts a mutation and runs it until it has to wait. -/
def startMutation {α ρ : Type} (w : World) (cell id : Nat) (m : Mutation TagKind α ρ)
    (arg : α) : World :=
  match (w.store cell).beginMutation m arg with
  | .error error => w.finish id (.error error)
  | .ok (request, pairs, store) =>
    let (ticket, w) := (w.commit cell (store, [])).arrive request
    if w.holding then
      { w.putTask id (.mutation cell m arg pairs request none) with
        held := w.held ++ [⟨ticket, request, .task id⟩] }
    else
      let (answer, w) := w.answer request
      w.finishMutation id cell m arg pairs answer

/-- Gives up a task: a query ends its subscription, a mutation leaves its patches and nobody waits
for its answer. -/
def cancel (w : World) (id : Nat) : Reply × World :=
  match w.tasks.lookup id with
  | none => (.flag false, w)
  | some task =>
    let w := { w with
      tasks := w.tasks.filter fun (other, _) => other ≠ id
      held := w.held.filter fun h => match h.waiter with
        | .task other => other ≠ id
        | .fetch _ _ => true }
    (.flag true, match task with
      | .query cell view => w.unsubscribe cell view true
      | .mutation .. => w)

/-- Releases a held request. -/
def release (w : World) (ticket : Nat) (given : Option Answer) : Reply × World :=
  match w.held.find? fun h => h.ticket = ticket with
  | none => (.flag false, w)
  | some h =>
    let w := { w with held := w.held.filter fun h => h.ticket ≠ ticket }
    (.flag true, match h.waiter with
      | .fetch cell fetch => { w with queue := w.queue ++ [.complete cell fetch given] }
      | .task id => { w with
          tasks := w.tasks.map fun (other, task) =>
            (other, if other = id then Task.release given task else task) })

/-! ## Actions -/

/-- Moves the clock and ends the grace periods that are over by then, the first deadline first. -/
def advance (w : World) (milliseconds : Nat) : World :=
  let now := w.clock + milliseconds
  let due := (w.timers.filter fun t => t.deadline ≤ now).mergeSort
    fun a b => decide (a.deadline ≤ b.deadline)
  { w with
    clock := now
    timers := w.timers.filter fun t => ¬ t.deadline ≤ now
    queue := w.queue ++ due.map fun t => .evict t.cell t.key t.generation }

/-- Does an action at a store, without the work it causes. -/
def act (w : World) (cell : Nat) : Action → Reply × World
  | .subscribe id endpoint arg =>
    match endpoint? endpoint with
    | none => (.unknownEndpoint endpoint, w)
    | some (.mutation _) => (.notAQuery, w)
    | some (.query q) =>
      match q.argument.decode arg with
      | .error error => (.badArgument error, w)
      | .ok arg =>
        match w.subscribeTo cell q arg with
        | (.error error, w) => (.failed error, w)
        | (.ok view, w) =>
          (.subscribed view.key (((w.store cell).state view).encode view.result),
            w.putHandle id (.of cell view))
  | .drop id hasTimer =>
    match w.handles.lookup id with
    | none => (.flag false, w)
    | some (.of cell view) =>
      let w := { w with handles := w.handles.filter fun (other, _) => other ≠ id }
      (.flag true, w.unsubscribe cell view hasTimer)
  | .state id => w.look id fun store view => (some (store.state view), view)
  | .data id =>
    match w.handles.lookup id with
    | none => (.noSuchSubscription, w)
    | some (.of cell view) =>
      (.data (((w.store cell).state view).encode view.result).data, w)
  | .changed id => w.look id Store.changed?
  | .settled id => w.look id Store.settled?
  | .next id => w.look id Store.next?
  | .refetch id =>
    match w.handles.lookup id with
    | none => (.noSuchSubscription, w)
    | some (.of cell view) => (.done, w.commit cell ((w.store cell).refetch view.key).2)
  | .refetchKey key =>
    let (found, changed) := (w.store cell).refetch key
    (.flag found, w.commit cell changed)
  | .inspect key =>
    (match (w.store cell).find? key with
      | none => .noEntry key
      | some e => .entry (.of key e), w)
  | .start id endpoint arg =>
    match endpoint? endpoint with
    | none => (.unknownEndpoint endpoint, w)
    | some (.query q) =>
      match q.argument.decode arg with
      | .error error => (.badArgument error, w)
      | .ok arg => (.done, w.startQuery cell id q arg)
    | some (.mutation m) =>
      match m.argument.decode arg with
      | .error error => (.badArgument error, w)
      | .ok arg => (.done, w.startMutation cell id m arg)
  | .cancel id => w.cancel id
  | .invalidate tags => (.done, w.commit cell ((w.store cell).invalidateTags tags))
  | .advance milliseconds => (.done, w.advance milliseconds)
  | .wait => (.done, w)
  | .events =>
    let (notices, w) := w.readEvents cell
    (.notices notices, w)
  | .patch key id patch =>
    let store := w.store cell
    match store.patch key fun _ => patch with
    | none => (.patched (store.patchable? key) none, w)
    | some (pair, changed) =>
      (.patched (store.patchable? key) (some pair.inverse),
        { w.commit cell (changed, []) with
          pairs := (id, pair) :: w.pairs.filter fun (other, _) => other ≠ id })
  | .revert id =>
    match w.pairs.lookup id with
    | none => (.flag false, w)
    | some pair => (.flag true, w.commit cell ((w.store cell).revert pair))
  | .hold on => (.done, { w with holding := on })
  | .release ticket given => w.release ticket given
  | .respond route value => (.done, { w with api := w.api.respond route value })
  | .fail route status => (.done, { w with api := w.api.fail route status })
  | .respondOnce route answer => (.done, { w with api := w.api.respondOnce route answer })
  | .requestCount route => (.count (w.api.requestCount route), w)

/-- Does actions one after another. -/
def actAll (cell : Nat) : List Action → World → List Reply × World
  | [], w => ([], w)
  | action :: actions, w =>
    let (reply, w) := w.act cell action
    let (replies, w) := actAll cell actions w
    (reply :: replies, w)

/-- Carries out a command and reports what can be seen afterwards. -/
def step (w : World) (cell : Nat) (command : Command) : Report × World :=
  let (replies, w) : Replies × World := match command with
    | .one action =>
      let (reply, w) := w.act cell action
      (.one reply, w)
    | .batch actions =>
      let (replies, w) := actAll cell actions w
      (.batch replies, w)
  let w := w.settle
  let manual := (w.cells[cell]?).elim false (·.manual)
  let (notices, w) := if manual then ([], w) else w.readEvents cell
  (⟨replies, w.entries cell, notices, w.arrived, w.finished⟩,
    { w with arrived := [], finished := [] })

end World

end TagCache.Simulation
