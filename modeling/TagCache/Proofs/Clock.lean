import TagCache.Proofs.Views

/-!
# A store with a clock

A store asks for the eviction of an entry after the grace period, and has no clock. A scene gives it
one. What the store asks for is spawned as a task. As soon as the task gets to run it sets an alarm,
one grace period from then, and sleeps. When the alarm rings the task evicts.

Three things are taken for granted. Views are dropped only where tasks can be spawned. Tasks that
have been spawned get to run, the oldest first, before the clock moves. And alarms ring in the order
of their deadlines, those with the same deadline in the order in which they were set: not before
they are due, though perhaps later. Everything else may happen at any time, as in every run of a
store.
-/

namespace TagCache

open Store

variable {κ ε : Type}

/-- An eviction that waits for its time. -/
structure Alarm where
  key : CacheKey
  generation : Nat
  deadline : Nat
  deriving DecidableEq

/-- A store, the time, and the evictions to come. -/
structure Scene (κ ε : Type) where
  store : Store κ ε
  /-- Milliseconds since the beginning. -/
  clock : Nat
  /-- The key and the generation of each eviction that has no alarm yet, the oldest first. -/
  spawned : List (CacheKey × Nat)
  /-- In the order in which they were set. -/
  alarms : List Alarm

/-- A moment, and what the clock said. -/
structure Tick (κ ε : Type) : Type 1 extends Moment κ ε where
  clock : Nat

/-- The evictions that effects ask for. -/
def delayed (effects : List (Effect κ ε)) : List (CacheKey × Nat) :=
  effects.filterMap fun
    | .evictLater key generation => some (key, generation)
    | _ => none

/-- The action is not that of an alarm. Where a view is dropped, tasks can be spawned. -/
def Action.isOutside : Action κ ε → Bool
  | .evict _ _ => false
  | .unsubscribe _ hasTimer => hasTimer
  | _ => true

namespace Scene

def start (config : StoreConfig) : Scene κ ε := ⟨.new config, 0, [], []⟩

/-- The alarm for an eviction, if it is set now. -/
def alarm (c : Scene κ ε) (task : CacheKey × Nat) : Alarm :=
  ⟨task.1, task.2, c.clock + c.store.config.keepUnused⟩

/-- All evictions to come, with their deadlines. -/
def pending (c : Scene κ ε) : List Alarm := c.alarms ++ c.spawned.map c.alarm

/-- A task gets to run, and `rest` are left. -/
def arm (c : Scene κ ε) (task : CacheKey × Nat) (rest : List (CacheKey × Nat)) : Scene κ ε :=
  { c with spawned := rest, alarms := c.alarms ++ [c.alarm task] }

def wait (c : Scene κ ε) (ms : Nat) : Scene κ ε := { c with clock := c.clock + ms }

def withAlarms (c : Scene κ ε) (alarms : List Alarm) : Scene κ ε := { c with alarms := alarms }

variable [DecidableEq κ]

def act (c : Scene κ ε) (a : Action κ ε) : Scene κ ε :=
  { c with
    store := (c.store.act a).1
    spawned := c.spawned ++ delayed (c.store.act a).2 }

/-- The action as the next moment. -/
def tick (c : Scene κ ε) (past : List (Tick κ ε)) (a : Action κ ε) : Tick κ ε :=
  ⟨⟨past.length, c.store, a⟩, c.clock⟩

end Scene

variable [DecidableEq κ]

/-- `TimedRun config past c`: a store that was created with `config` and its clock have become the
scene `c`. -/
inductive TimedRun (config : StoreConfig) : List (Tick κ ε) → Scene κ ε → Prop where
  | init : TimedRun config [] (.start config)
  | act {past : List (Tick κ ε)} {c : Scene κ ε} (h : TimedRun config past c) (a : Action κ ε)
      (ha : a.isOutside = true) : TimedRun config (c.tick past a :: past) (c.act a)
  /-- The oldest task gets to run. -/
  | arm {past : List (Tick κ ε)} {c : Scene κ ε} {task : CacheKey × Nat}
      {rest : List (CacheKey × Nat)} (h : TimedRun config past c) (hc : c.spawned = task :: rest) :
      TimedRun config past (c.arm task rest)
  | wait {past : List (Tick κ ε)} {c : Scene κ ε} (h : TimedRun config past c)
      (hc : c.spawned = []) (ms : Nat) : TimedRun config past (c.wait ms)
  /-- The first alarm rings that is due. -/
  | ring {past : List (Tick κ ε)} {c : Scene κ ε} {a : Alarm} {front back : List Alarm}
      (h : TimedRun config past c) (hc : c.alarms = front ++ a :: back)
      (hdue : a.deadline ≤ c.clock)
      (hfront : ∀ b ∈ front, a.deadline < b.deadline)
      (hback : ∀ b ∈ back, a.deadline ≤ b.deadline) :
      TimedRun config (c.tick past (.evict a.key a.generation) :: past)
        ((c.withAlarms (front ++ back)).act (.evict a.key a.generation))

/-! ## What does not change -/

namespace Store

variable {s s' : Store κ ε} {effects : List (Effect κ ε)}

omit [DecidableEq κ] in
theorem config_join (s : Store κ ε) (key : CacheKey) (e : Entry κ ε) :
    (s.join key e).1.config = s.config := by
  unfold join
  dsimp only
  split
  · exact (proceeds_beginFetch _ key).config
  · rfl

omit [DecidableEq κ] in
theorem config_subscribe {α ρ : Type} {q : Query κ α ρ} {arg : α} {view : Subscription ρ}
    (h : s.subscribe q arg = .ok (view, s', effects)) : s'.config = s.config := by
  rcases subscribe_join h with ⟨e, _, hjoin⟩ | ⟨_, request, _, hjoin⟩
  · have hconfig := config_join s view.key e
    rw [hjoin] at hconfig
    exact hconfig
  · have hconfig := config_join (s.add view.key q.name request (rawTags q arg)) view.key
      (.new q.name request (rawTags q arg) s.created)
    rw [hjoin] at hconfig
    exact hconfig

theorem config_unsubscribe (s : Store κ ε) (key : CacheKey) (hasTimer : Bool) :
    (s.unsubscribe key hasTimer).1.config = s.config := by
  cases he : s.find? key with
  | none =>
      unfold unsubscribe
      rw [he]
  | some e =>
      rw [unsubscribe_eq he]
      split
      · rfl
      · split
        · -- evicted at once
          rfl
        · rfl

theorem config_completeFetch (s : Store κ ε) (key : CacheKey) (id : Nat)
    (answer : Except ε Json) : (s.completeFetch key id answer).1.config = s.config := by
  rcases completeFetch_cases s key id answer with
    ⟨h, _⟩ | ⟨e, _, _, _, h⟩ | ⟨e, he, hf, hsubs, _⟩
  · rw [h]
  · rw [h]
    rfl
  · obtain ⟨_, _, h⟩ := completeFetch_taken he hf hsubs answer
    rw [h]
    exact (proceeds_taken s key e (outcome e answer)).config

theorem config_act (s : Store κ ε) (a : Action κ ε) : (s.act a).1.config = s.config := by
  cases a with
  | subscribe q arg =>
      simp only [Store.act]
      cases hs : s.subscribe q arg with
      | error _ => rfl
      | ok r => exact config_subscribe hs
  | unsubscribe key hasTimer => exact config_unsubscribe s key hasTimer
  | evict key generation =>
      rcases evict_cases s key generation with h | ⟨_, _, _, _, h⟩
      · exact congrArg (fun r => r.1.config) h
      · exact congrArg (fun r => r.1.config) h
  | complete key id answer => exact config_completeFetch s key id answer
  | _ => exact (proceeds_act s (by rfl)).config

end Store

theorem config_run {config : StoreConfig} {past : List (Moment κ ε)} {s : Store κ ε}
    (h : Run config past s) : s.config = config := by
  induction h with
  | init => rfl
  | @tail _ s _ a ih => exact (config_act s a).trans ih

variable {config : StoreConfig} {past : List (Tick κ ε)} {c : Scene κ ε}

/-- Without its clock, it is a run like every other. -/
theorem TimedRun.run (h : TimedRun config past c) :
    Run config (past.map Tick.toMoment) c.store := by
  induction h with
  | init => exact .init
  | @act past c _ a _ ih =>
      have hnext := ih.tail a
      rw [List.length_map] at hnext
      exact hnext
  | arm _ _ ih => exact ih
  | wait _ _ _ ih => exact ih
  | @ring past c a _ _ _ _ _ _ _ ih =>
      have hnext := ih.tail (.evict a.key a.generation)
      rw [List.length_map] at hnext
      exact hnext

/-- What has happened has happened at an earlier time, or not later. -/
structure Ordered (past : List (Tick κ ε)) (clock : Nat) : Prop where
  times : ∀ q ∈ past, q.time < past.length
  clocks : ∀ q ∈ past, q.clock ≤ clock
  order : ∀ q ∈ past, ∀ r ∈ past, q.time ≤ r.time → q.clock ≤ r.clock
  alone : ∀ q ∈ past, ∀ r ∈ past, q.time = r.time → q = r

omit [DecidableEq κ] in
theorem Ordered.cons {clock : Nat} {m : Tick κ ε} (h : Ordered past clock)
    (htime : m.time = past.length) (hclock : m.clock = clock) : Ordered (m :: past) clock where
  times := by
    intro q hq
    rcases List.mem_cons.mp hq with rfl | hq
    · rw [htime]
      exact Nat.lt_succ_self _
    · exact Nat.lt_succ_of_lt (h.times q hq)
  clocks := by
    intro q hq
    rcases List.mem_cons.mp hq with rfl | hq
    · exact Nat.le_of_eq hclock
    · exact h.clocks q hq
  order := by
    intro q hq r hr hle
    rcases List.mem_cons.mp hr with rfl | hearlier
    · rw [hclock]
      rcases List.mem_cons.mp hq with rfl | hq
      · exact Nat.le_of_eq hclock
      · exact h.clocks q hq
    · rcases List.mem_cons.mp hq with rfl | hq
      · -- nothing in the past comes after the next moment
        have := h.times r hearlier
        omega
      · exact h.order q hq r hearlier hle
  alone := by
    intro q hq r hr heq
    rcases List.mem_cons.mp hq with rfl | hq' <;> rcases List.mem_cons.mp hr with rfl | hr'
    · rfl
    · have := h.times r hr'
      omega
    · have := h.times q hq'
      omega
    · exact h.alone q hq' r hr' heq

/-- The clock never goes back. -/
theorem TimedRun.ordered (h : TimedRun config past c) : Ordered past c.clock := by
  induction h with
  | init => exact ⟨by simp, by simp, by simp, by simp⟩
  | act _ _ _ ih => exact ih.cons rfl rfl
  | arm _ _ ih => exact ih
  | wait _ _ ms ih =>
      refine ⟨ih.times, fun q hq => ?_, ih.order, ih.alone⟩
      exact Nat.le_add_right_of_le (ih.clocks q hq)
  | ring _ _ _ _ _ ih => exact ih.cons rfl rfl

namespace Scene

/-- What is asked for now is due after the grace period. -/
theorem pending_act (c : Scene κ ε) (a : Action κ ε) :
    (c.act a).pending = c.pending ++ (delayed (c.store.act a).2).map c.alarm := by
  have halarm : (c.act a).alarm = c.alarm := by
    funext task
    unfold alarm act
    rw [config_act]
  unfold pending
  rw [halarm]
  change c.alarms ++ (c.spawned ++ delayed (c.store.act a).2).map c.alarm = _
  rw [List.map_append, List.append_assoc]

omit [DecidableEq κ] in
/-- An eviction is to come whether or not its alarm has been set. -/
theorem pending_arm {task : CacheKey × Nat} {rest : List (CacheKey × Nat)}
    (hc : c.spawned = task :: rest) :
    (c.arm task rest).pending = c.pending := by
  unfold pending
  rw [hc, List.map_cons]
  exact List.append_assoc _ _ _

omit [DecidableEq κ] in
theorem pending_wait (hc : c.spawned = []) (ms : Nat) : (c.wait ms).pending = c.pending := by
  change c.alarms ++ c.spawned.map _ = c.alarms ++ c.spawned.map _
  rw [hc]
  rfl

end Scene

omit [DecidableEq κ] in
theorem delayed_eq_nil {effects : List (Effect κ ε)} (h : ∀ x ∈ effects, x.ends = false) :
    delayed effects = [] := by
  unfold delayed
  rw [List.filterMap_eq_nil_iff]
  intro x hx
  have hends := h x hx
  cases x with
  | evictLater key generation => exact absurd hends (by simp [Effect.ends])
  | emit event => rfl
  | send fetch => rfl

end TagCache
