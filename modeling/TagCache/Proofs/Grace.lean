import TagCache.Proofs.Clock

/-!
# The grace period

An entry without subscribers is kept for a while. When the last one leaves, an alarm is set with the
generation of the entry. It is never called off. If somebody subscribes meanwhile, the generation
advances, and the alarm rings in vain.

An evicted key may be asked for again, and the new entry counts its generations from the beginning.
An alarm of the old entry would then match the new one when that reaches its generation. That there
is no such alarm is a matter of order. Of the alarms of an entry, later ones carry higher
generations, so an eviction by the last of them comes after all others have rung. `Guarded` says so:
alarms ring in the order in which they were set, every alarm is one of an entry that is there, and
the generations of a key ascend.
-/

namespace TagCache

open Store

variable {κ ε : Type} [DecidableEq κ]

/-- The entry under a key has been unused since the moment `r`: a subscriber left at `r`, none was
left then, and before the time `last` nobody has subscribed to it or left it again. -/
structure Unused (past : List (Tick κ ε)) (key : CacheKey) (x : Attendance) (r : Tick κ ε)
    (last : Nat) : Prop where
  mem : r ∈ past
  early : r.time < last
  leaves : r.action.dropped? = some key
  left : r.after.attendance key = some x
  none : x.subscribers = 0
  since : ∀ q ∈ past, r.time < q.time → q.time < last →
    q.before.attendance key = some x ∧ q.action.dropped? ≠ some key

/-- The evictions to come fit a store. -/
structure Guarded (past : List (Tick κ ε)) (s : Store κ ε) (clock keep : Nat)
    (pending : List Alarm) : Prop where
  sorted : pending.Pairwise fun a b => a.deadline ≤ b.deadline
  bound : ∀ a ∈ pending, a.deadline ≤ clock + keep
  /-- Every alarm is one of an entry that is there. -/
  live : ∀ a ∈ pending, ∃ x, s.attendance a.key = some x ∧ a.generation ≤ x.generation
  ascending : pending.Pairwise fun a b => a.key = b.key → a.generation < b.generation
  /-- Every unused entry has its alarm. -/
  unused : ∀ k x, s.attendance k = some x → x.subscribers = 0 →
    ∃ r, Unused past k x r past.length ∧ ⟨k, x.generation, r.clock + keep⟩ ∈ pending

variable {past : List (Tick κ ε)} {m : Tick κ ε} {s : Store κ ε} {key : CacheKey}
variable {x : Attendance} {r : Tick κ ε} {clock keep last : Nat} {a : Alarm} {alarms : List Alarm}

theorem Unused.later (h : Unused past key x r last) (hlast : last ≤ m.time) :
    Unused (m :: past) key x r last := by
  refine ⟨List.mem_cons_of_mem _ h.mem, h.early, h.leaves, h.left, h.none, ?_⟩
  intro q hq hlt hlt'
  rcases List.mem_cons.mp hq with rfl | hq
  · omega
  · exact h.since q hq hlt hlt'

theorem Unused.next (h : Unused past key x r past.length) (htime : m.time = past.length)
    (hx : m.before.attendance key = some x) (hdrop : m.action.dropped? ≠ some key)
    (htimes : ∀ q ∈ past, q.time < past.length) :
    Unused (m :: past) key x r (m :: past).length := by
  refine ⟨List.mem_cons_of_mem _ h.mem, Nat.lt_succ_of_lt h.early, h.leaves, h.left, h.none, ?_⟩
  intro q hq hlt _
  rcases List.mem_cons.mp hq with rfl | hq
  · exact ⟨hx, hdrop⟩
  · exact h.since q hq hlt (htimes q hq)

theorem guarded_new (config : StoreConfig) :
    Guarded ([] : List (Tick κ ε)) (.new config) clock keep [] where
  sorted := .nil
  bound := by simp
  live := by simp
  ascending := .nil
  unused := fun _ _ h => absurd h (by simp [Store.attendance])

/-! ## One moment -/

section

variable (h : Guarded past m.before clock keep alarms) (htime : m.time = past.length)
variable (htimes : ∀ q ∈ past, q.time < past.length)

include h htime htimes

/-- An entry that is not visited stays unused, and keeps its alarm. -/
theorem Guarded.stays {k : CacheKey} (hx : m.before.attendance k = some x)
    (hnone : x.subscribers = 0) (hdrop : m.action.dropped? ≠ some k) :
    ∃ r, Unused (m :: past) k x r (m :: past).length ∧
      ⟨k, x.generation, r.clock + keep⟩ ∈ alarms := by
  obtain ⟨r, hr, hmem⟩ := h.unused k x hx hnone
  exact ⟨r, hr.next htime hx hdrop htimes, hmem⟩

theorem Guarded.nobody (hatt : ∀ k, m.after.attendance k = m.before.attendance k)
    (hdrop : ∀ k, m.action.dropped? = some k → m.before.attendance k = none) :
    Guarded (m :: past) m.after clock keep alarms where
  sorted := h.sorted
  bound := h.bound
  live := by
    intro a ha
    rw [hatt]
    exact h.live a ha
  ascending := h.ascending
  unused := by
    intro k x hx hnone
    rw [hatt] at hx
    refine h.stays htime htimes hx hnone fun hk => ?_
    rw [hdrop k hk] at hx
    exact absurd hx (by simp)

/-- Who subscribes leaves the alarms behind. -/
theorem Guarded.join (hatt : ∀ k, m.after.attendance k =
      if k = key then some (m.before.joined key) else m.before.attendance k)
    (hdrop : m.action.dropped? = none) : Guarded (m :: past) m.after clock keep alarms where
  sorted := h.sorted
  bound := h.bound
  live := by
    intro a ha
    obtain ⟨x, hx, hle⟩ := h.live a ha
    rw [hatt]
    by_cases hk : a.key = key
    · refine ⟨_, if_pos hk, ?_⟩
      unfold joined
      rw [← hk, hx, Option.getD_some]
      exact Nat.le_succ_of_le hle
    · exact ⟨x, by rw [if_neg hk]; exact hx, hle⟩
  ascending := h.ascending
  unused := by
    intro k x hx hnone
    rw [hatt] at hx
    by_cases hk : k = key
    · rw [if_pos hk] at hx
      obtain rfl := Option.some.inj hx
      exact absurd hnone (Nat.succ_ne_zero _)
    · rw [if_neg hk] at hx
      exact h.stays htime htimes hx hnone (by rw [hdrop]; simp)

/-- Who leaves last sets an alarm, later and with a higher generation than all others. -/
theorem Guarded.leave (hclock : m.clock = clock) (hx : m.before.attendance key = some x)
    (hatt : ∀ k, m.after.attendance k =
      if k = key then some x.leave else m.before.attendance k)
    (hdrop : m.action.dropped? = some key) :
    Guarded (m :: past) m.after clock keep (alarms ++
      if x.leave.subscribers = 0 then [⟨key, x.leave.generation, clock + keep⟩] else []) := by
  have hnew : ∀ b ∈ (if x.leave.subscribers = 0 then
      [(⟨key, x.leave.generation, clock + keep⟩ : Alarm)] else []),
      b = ⟨key, x.leave.generation, clock + keep⟩ := by
    intro b hb
    split at hb
    · exact List.mem_singleton.mp hb
    · exact absurd hb (by simp)
  -- the earlier alarms of the entry carry generations that it has left behind
  have hfront : ∀ a ∈ alarms, a.key = key → a.generation < x.leave.generation := by
    intro a ha hk
    obtain ⟨y, hy, hle⟩ := h.live a ha
    rw [hk, hx] at hy
    obtain rfl := Option.some.inj hy
    exact Nat.lt_succ_of_le hle
  constructor
  case sorted =>
    rw [List.pairwise_append]
    refine ⟨h.sorted, ?_, fun a ha b hb => ?_⟩
    · split
      · exact List.pairwise_singleton _ _
      · exact .nil
    · rw [hnew b hb]
      exact h.bound a ha
  case bound =>
    intro a ha
    rcases List.mem_append.mp ha with ha | ha
    · exact h.bound a ha
    · rw [hnew a ha]
  case live =>
    intro a ha
    rw [hatt]
    rcases List.mem_append.mp ha with ha | ha
    · by_cases hk : a.key = key
      · exact ⟨_, if_pos hk, Nat.le_of_lt (hfront a ha hk)⟩
      · rw [if_neg hk]
        exact h.live a ha
    · rw [hnew a ha]
      exact ⟨_, if_pos rfl, Nat.le_refl _⟩
  case ascending =>
    rw [List.pairwise_append]
    refine ⟨h.ascending, ?_, fun a ha b hb hk => ?_⟩
    · split
      · exact List.pairwise_singleton _ _
      · exact .nil
    · rw [hnew b hb] at hk ⊢
      exact hfront a ha hk
  case unused =>
    intro k y hy hnone
    rw [hatt] at hy
    by_cases hk : k = key
    · rw [if_pos hk] at hy
      obtain rfl := Option.some.inj hy
      refine ⟨m, ⟨List.mem_cons_self, ?_, ?_, ?_, hnone, ?_⟩, ?_⟩
      · rw [htime]
        exact Nat.lt_succ_self _
      · rw [hdrop, hk]
      · rw [hatt, if_pos hk]
      · -- the moment is the last one so far
        intro q hq hlt _
        rcases List.mem_cons.mp hq with rfl | hq
        · exact absurd hlt (Nat.lt_irrefl _)
        · have := htimes q hq
          omega
      · rw [if_pos hnone, hclock, hk]
        exact List.mem_append_right _ (List.mem_singleton.mpr rfl)
    · rw [if_neg hk] at hy
      have hother : m.action.dropped? ≠ some k := by
        rw [hdrop]
        exact fun heq => hk (Option.some.inj heq).symm
      obtain ⟨r, hr, hmem⟩ := h.stays htime htimes hy hnone hother
      exact ⟨r, hr, List.mem_append_left _ hmem⟩

end

/-- An alarm that does not find its entry is of no use to any other. -/
theorem Guarded.skip (h : Guarded past s clock keep (a :: alarms))
    (hvain : ∀ x, s.attendance a.key = some x → x.subscribers = 0 → x.generation ≠ a.generation) :
    Guarded past s clock keep alarms where
  sorted := h.sorted.tail
  bound := fun b hb => h.bound b (List.mem_cons_of_mem _ hb)
  live := fun b hb => h.live b (List.mem_cons_of_mem _ hb)
  ascending := h.ascending.tail
  unused := by
    intro k x hx hnone
    obtain ⟨r, hr, hmem⟩ := h.unused k x hx hnone
    refine ⟨r, hr, ?_⟩
    rcases List.mem_cons.mp hmem with rfl | hmem
    · exact absurd rfl (hvain x hx hnone)
    · exact hmem

/-- An eviction leaves no alarm of its entry behind. -/
theorem Guarded.evict (h : Guarded past m.before clock keep (a :: alarms))
    (htime : m.time = past.length) (htimes : ∀ q ∈ past, q.time < past.length)
    (hx : m.before.attendance a.key = some x) (hgeneration : x.generation = a.generation)
    (hatt : ∀ k, m.after.attendance k = if k = a.key then none else m.before.attendance k)
    (hdrop : m.action.dropped? = none) : Guarded (m :: past) m.after clock keep alarms where
  sorted := h.sorted.tail
  bound := fun b hb => h.bound b (List.mem_cons_of_mem _ hb)
  live := by
    intro b hb
    obtain ⟨y, hy, hle⟩ := h.live b (List.mem_cons_of_mem _ hb)
    have hk : b.key ≠ a.key := by
      -- it would carry a generation that the entry has not reached
      intro hk
      have hlt := List.rel_of_pairwise_cons h.ascending hb hk.symm
      rw [hk, hx] at hy
      obtain rfl := Option.some.inj hy
      omega
    exact ⟨y, by rw [hatt, if_neg hk]; exact hy, hle⟩
  ascending := h.ascending.tail
  unused := by
    intro k y hy hnone
    rw [hatt] at hy
    have hk : k ≠ a.key := by
      rintro rfl
      rw [if_pos rfl] at hy
      exact absurd hy (by simp)
    rw [if_neg hk] at hy
    obtain ⟨r, hr, hmem⟩ := h.stays htime htimes hy hnone (by rw [hdrop]; simp)
    refine ⟨r, hr, ?_⟩
    rcases List.mem_cons.mp hmem with rfl | hmem
    · exact absurd rfl hk
    · exact hmem

omit [DecidableEq κ] in
/-- A key and a generation make an alarm. -/
theorem eq_of_ascending {b : Alarm}
    (h : alarms.Pairwise fun a b => a.key = b.key → a.generation < b.generation) (ha : a ∈ alarms)
    (hb : b ∈ alarms) (hkey : a.key = b.key) (hgeneration : a.generation = b.generation) :
    a = b := by
  induction h with
  | nil => exact absurd ha (by simp)
  | @cons c rest hc _ ih =>
      rcases List.mem_cons.mp ha with rfl | ha' <;> rcases List.mem_cons.mp hb with rfl | hb'
      · rfl
      · have := hc b hb' hkey
        omega
      · have := hc a ha' hkey.symm
        omega
      · exact ih ha' hb'

/-- An alarm that finds its entry is the one that was set when the last subscriber left. -/
theorem Guarded.due (h : Guarded past s clock keep alarms) (ha : a ∈ alarms)
    (hx : s.attendance a.key = some x) (hnone : x.subscribers = 0)
    (hgeneration : x.generation = a.generation) :
    ∃ r, Unused past a.key x r past.length ∧ a.deadline = r.clock + keep := by
  obtain ⟨r, hr, hmem⟩ := h.unused a.key x hx hnone
  have heq := eq_of_ascending h.ascending ha hmem rfl hgeneration.symm
  exact ⟨r, hr, congrArg Alarm.deadline heq⟩

/-- An unused entry has one alarm of its generation, and no other. -/
theorem Guarded.filter_eq (h : Guarded past s clock keep alarms) (ha : a ∈ alarms) :
    alarms.filter (fun b => b.key = a.key ∧ b.generation = a.generation) = [a] := by
  have hnodup : alarms.Nodup := by
    refine h.ascending.imp ?_
    rintro b c hbc rfl
    exact Nat.lt_irrefl _ (hbc rfl)
  refine List.perm_singleton.mp ?_
  rw [List.perm_ext_iff_of_nodup (hnodup.filter _) (List.pairwise_singleton _ a)]
  intro b
  rw [List.mem_filter, List.mem_singleton, decide_eq_true_eq]
  constructor
  · rintro ⟨hb, hkey, hgeneration⟩
    exact eq_of_ascending h.ascending hb ha hkey hgeneration
  · rintro rfl
    exact ⟨ha, rfl, rfl⟩

/-! ## Runs -/

section

variable {c : Scene κ ε} {config : StoreConfig}

/-- What is done from outside sets alarms, and evicts nothing. -/
theorem guarded_outside (h : Guarded past m.before m.clock m.before.config.keepUnused alarms)
    (htime : m.time = past.length) (htimes : ∀ q ∈ past, q.time < past.length)
    (hkeep : m.before.config.keepUnused ≠ 0) (ha : m.action.isOutside = true) :
    Guarded (m :: past) m.after m.clock m.before.config.keepUnused (alarms ++
        (delayed m.effects).map fun task =>
          ⟨task.1, task.2, m.clock + m.before.config.keepUnused⟩) ∧
      ∀ k x, m.before.attendance k = some x → m.after.attendance k ≠ none := by
  have hvisit := visits_act m.before m.action
  change m.before.Visits m.action m.effects m.after at hvisit
  generalize hfx : m.effects = effects at hvisit ⊢
  generalize hs' : m.after = s' at hvisit
  generalize hact : m.action = action at hvisit ha
  cases hvisit with
  | nobody _ hunsubscribe _ hatt hquiet =>
      subst hs'
      rw [delayed_eq_nil hquiet, List.map_nil, List.append_nil]
      refine ⟨h.nobody htime htimes hatt fun k hk => ?_, fun k x hx => ?_⟩
      · cases action with
        | unsubscribe key hasTimer =>
            rw [hact] at hk
            obtain rfl := Option.some.inj hk
            exact hunsubscribe key hasTimer rfl
        | _ => rw [hact] at hk; exact absurd hk (by simp [Action.dropped?])
      · rw [hatt, hx]
        simp
  | join _ hatt hquiet =>
      subst hs'
      rw [delayed_eq_nil hquiet, List.map_nil, List.append_nil]
      refine ⟨h.join htime htimes hatt (by rw [hact]; rfl), fun k x hx => ?_⟩
      rw [hatt]
      split
      · simp
      · rw [hx]
        simp
  | @leave key hasTimer y _ hy _ hatt =>
      subst hs'
      obtain rfl : hasTimer = true := ha
      have hleft := h.leave htime htimes rfl hy hatt (by rw [hact]; rfl)
      refine ⟨?_, fun k x hx => ?_⟩
      · by_cases hlast : y.leave.subscribers = 0
        · rw [if_pos hlast] at hleft
          rw [if_pos ⟨hlast, rfl⟩]
          exact hleft
        · rw [if_neg hlast] at hleft
          rw [if_neg fun hboth => hlast hboth.1]
          exact hleft
      · rw [hatt]
        split
        · simp
        · rw [hx]
          simp
  | gone _ _ hzero _ => exact absurd hzero hkeep
  | evict _ _ => exact absurd ha (by simp [Action.isOutside])

/-- The alarm that rings is the oldest one. If it finds its entry, its time has come. -/
theorem guarded_ring (h : Guarded past m.before clock keep (a :: alarms))
    (htime : m.time = past.length) (htimes : ∀ q ∈ past, q.time < past.length)
    (hact : m.action = .evict a.key a.generation) :
    Guarded (m :: past) m.after clock keep alarms ∧ delayed m.effects = [] ∧
      ∀ k x, m.before.attendance k = some x → m.after.attendance k = none →
        ∃ r, Unused past k x r past.length ∧ a.deadline = r.clock + keep := by
  have hvisit := visits_act m.before m.action
  change m.before.Visits m.action m.effects m.after at hvisit
  have hdrop : m.action.dropped? = none := by
    rw [hact]
    rfl
  rw [hact] at hvisit
  generalize hfx : m.effects = effects at hvisit ⊢
  generalize hs' : m.after = s' at hvisit
  cases hvisit with
  | nobody _ _ hevict hatt hquiet =>
      -- it rings in vain, so no unused entry has waited for it
      subst hs'
      have hvain : ∀ x, m.before.attendance a.key = some x → x.subscribers = 0 →
          x.generation ≠ a.generation := by
        rintro ⟨birth, subscribers, generation⟩ hx rfl rfl
        exact hevict _ birth _ rfl hx
      refine ⟨(h.skip hvain).nobody htime htimes hatt fun k hk => ?_, delayed_eq_nil hquiet, ?_⟩
      · rw [hdrop] at hk
        exact absurd hk (by simp)
      · intro k x hx hgone
        rw [hatt, hx] at hgone
        exact absurd hgone (by simp)
  | @evict _ birth _ _ hx hatt =>
      subst hs'
      refine ⟨h.evict htime htimes hx rfl hatt hdrop, rfl, fun k x hx' hgone => ?_⟩
      rw [hatt] at hgone
      by_cases hk : k = a.key
      · subst hk
        rw [hx] at hx'
        obtain rfl := Option.some.inj hx'
        exact h.due List.mem_cons_self hx rfl rfl
      · rw [if_neg hk, hx'] at hgone
        exact absurd hgone (by simp)

theorem Guarded.front_eq_nil {front back : List Alarm}
    (h : Guarded past s clock keep (front ++ a :: back))
    (hfront : ∀ b ∈ front, a.deadline < b.deadline) : front = [] := by
  cases front with
  | nil => rfl
  | cons b front =>
      have hle := List.rel_of_pairwise_cons h.sorted
        (List.mem_append_right front (List.mem_cons_self (l := back)))
      have hlt := hfront b List.mem_cons_self
      omega

/-- Whatever has been evicted had been unused for the grace period. -/
def Graced (past : List (Tick κ ε)) (keep : Nat) : Prop :=
  ∀ m ∈ past, ∀ k x, m.before.attendance k = some x → m.after.attendance k = none →
    ∃ r, Unused past k x r m.time ∧ r.clock + keep ≤ m.clock

theorem Graced.cons (h : Graced past keep) (htime : m.time = past.length)
    (htimes : ∀ q ∈ past, q.time < past.length)
    (hm : ∀ k x, m.before.attendance k = some x → m.after.attendance k = none →
      ∃ r, Unused past k x r past.length ∧ r.clock + keep ≤ m.clock) :
    Graced (m :: past) keep := by
  intro q hq k x hx hgone
  rcases List.mem_cons.mp hq with rfl | hq
  · obtain ⟨r, hr, hle⟩ := hm k x hx hgone
    rw [htime]
    exact ⟨r, hr.later (Nat.le_of_eq htime.symm), hle⟩
  · obtain ⟨r, hr, hle⟩ := h q hq k x hx hgone
    have hlt := htimes q hq
    exact ⟨r, hr.later (by omega), hle⟩

theorem guarded_run (h : TimedRun config past c) (hkeep : config.keepUnused ≠ 0) :
    Guarded past c.store c.clock config.keepUnused c.pending ∧
      Graced past config.keepUnused := by
  induction h with
  | init => exact ⟨guarded_new config, fun m hm => absurd hm (by simp)⟩
  | @act past c hr action ha ih =>
      have hconfig := config_run hr.run
      have htimes := hr.ordered.times
      rw [← hconfig] at ih hkeep ⊢
      obtain ⟨hguarded, hstay⟩ := guarded_outside (m := c.tick past action) ih.1 rfl htimes hkeep ha
      -- only alarms evict
      refine ⟨?_, ih.2.cons rfl htimes fun k x hx hgone => absurd hgone (hstay k x hx)⟩
      rw [Scene.pending_act]
      exact hguarded
  | arm _ hc ih =>
      rw [Scene.pending_arm hc]
      exact ih
  | @wait past c hr hc ms ih =>
      obtain ⟨hguarded, hgraced⟩ := ih
      rw [Scene.pending_wait hc]
      refine ⟨⟨hguarded.sorted, fun b hb => ?_, hguarded.live, hguarded.ascending,
        hguarded.unused⟩, hgraced⟩
      have := hguarded.bound b hb
      change b.deadline ≤ c.clock + ms + config.keepUnused
      omega
  | @ring past c a front back hr hc hdue hfront _ ih =>
      obtain ⟨hguarded, hgraced⟩ := ih
      have htimes := hr.ordered.times
      have hpending : c.pending = front ++ a :: (back ++ c.spawned.map c.alarm) := by
        unfold Scene.pending
        rw [hc, List.append_assoc, List.cons_append]
      rw [hpending] at hguarded
      -- alarms are set in the order of their deadlines, so the one that rings is the oldest
      obtain rfl := hguarded.front_eq_nil hfront
      obtain ⟨hnext, hnone, hevicts⟩ :=
        guarded_ring (m := c.tick past (.evict a.key a.generation)) hguarded rfl htimes rfl
      refine ⟨?_, hgraced.cons rfl htimes fun k x hx hgone => ?_⟩
      · change delayed (c.store.act (.evict a.key a.generation)).2 = [] at hnone
        rw [Scene.pending_act]
        change Guarded _ _ _ _ (_ ++ (delayed (c.store.act (.evict a.key a.generation)).2).map _)
        rw [hnone, List.map_nil, List.append_nil]
        exact hnext
      · obtain ⟨r, hr, hdeadline⟩ := hevicts k x hx hgone
        rw [hdeadline] at hdue
        exact ⟨r, hr, hdue⟩

/-- Without a grace period, every entry has a subscriber. -/
theorem used_run {past : List (Moment κ ε)} (h : Run config past s)
    (hzero : config.keepUnused = 0) :
    ∀ k x, s.attendance k = some x → 0 < x.subscribers := by
  induction h with
  | init => exact fun k x hx => absurd hx (by simp [Store.attendance])
  | @tail _ s hr a ih =>
      intro k x hx
      rcases (visits_act s a).before hx with
        ⟨_, _, _, _, _, _, _, rfl⟩ | ⟨_, _, _, hmore | hkeep⟩ | hsame
      · exact Nat.succ_pos _
      · exact hmore
      · -- who leaves last takes the entry along
        rw [config_run hr] at hkeep
        exact absurd hzero hkeep
      · exact ih k x hsame

/-- **The grace period is kept exactly.** An entry is evicted only if its last subscriber has left
at least one grace period before, and nobody has subscribed to it since: every moment of the last
grace period has found it without subscribers. In every scene every entry without subscribers has
exactly one eviction to come with its generation, one grace period after the subscriber who left
last, and that one would find the entry. No eviction is to come for a key without an entry. Without
a grace period, all entries have subscribers. -/
theorem grace_period_exact (h : TimedRun config past c) :
    (config.keepUnused ≠ 0 →
      (∀ m ∈ past, ∀ k x, m.before.attendance k = some x → m.after.attendance k = none →
        ∃ r, Unused past k x r m.time ∧ r.clock + config.keepUnused ≤ m.clock ∧
          ∀ q ∈ past, q.time ≤ m.time → m.clock < q.clock + config.keepUnused →
            ∃ e, q.before.find? k = some e ∧ e.birth = x.birth ∧ e.subscribers = 0) ∧
      (∀ k e, c.store.find? k = some e → e.subscribers = 0 →
        ∃ r, Unused past k e.attendance r past.length ∧
          c.pending.filter (fun a => a.key = k ∧ a.generation = e.generation) =
            [⟨k, e.generation, r.clock + config.keepUnused⟩] ∧
          (c.store.act (.evict k e.generation)).1.find? k = none) ∧
      ∀ a ∈ c.pending, ∃ e, c.store.find? a.key = some e) ∧
    (config.keepUnused = 0 → ∀ k e, c.store.find? k = some e → 0 < e.subscribers) := by
  refine ⟨fun hkeep => ?_, fun hzero k e he =>
    used_run h.run hzero k e.attendance (attendance_of_find? he)⟩
  obtain ⟨hguarded, hgraced⟩ := guarded_run h hkeep
  have hordered := h.ordered
  refine ⟨fun m hm k x hx hgone => ?_, fun k e he hnone => ?_, fun a ha => ?_⟩
  · obtain ⟨r, hr, hle⟩ := hgraced m hm k x hx hgone
    refine ⟨r, hr, hle, fun q hq hlast hwithin => ?_⟩
    -- the clock does not go back, so the moment comes after the last subscriber has left
    have hlt : r.time < q.time := by
      refine Nat.lt_of_not_le fun hle' => ?_
      have := hordered.order q hq r hr.mem hle'
      omega
    have hbefore : q.before.attendance k = some x := by
      rcases Nat.lt_or_eq_of_le hlast with hlt' | heq
      · exact (hr.since q hq hlt hlt').1
      · rw [hordered.alone q hq m hm heq]
        exact hx
    obtain ⟨e, he, rfl⟩ := attendance_eq_some.mp hbefore
    exact ⟨e, he, rfl, hr.none⟩
  · obtain ⟨r, hr, hmem⟩ := hguarded.unused k _ (attendance_of_find? he) hnone
    refine ⟨r, hr, hguarded.filter_eq hmem, ?_⟩
    change (c.store.evict k e.generation).1.find? k = none
    rw [evict_of_unused he hnone, find?_without, if_pos rfl]
  · obtain ⟨x, hx, _⟩ := hguarded.live a ha
    obtain ⟨e, he, _⟩ := attendance_eq_some.mp hx
    exact ⟨e, he⟩

end

/-- A subscriber leaves at 0, another at 3. The alarm for 5 rings in vain, and the one for 8 evicts
the entry. The next entry under the key reaches the generation of the first alarm at once, and waits
for its own, at 13. -/
theorem grace_period_exact_recreated :
    ∃ (past : List (Tick Portal.TagKind Unit)) (c : Scene Portal.TagKind Unit),
      TimedRun { keepUnused := 5 } past c ∧
      c.store.attendance Sample.key = some ⟨1, 0, 2⟩ ∧ c.pending = [⟨Sample.key, 2, 13⟩] ∧
      (∃ m ∈ past, m.clock = 8 ∧ m.before.attendance Sample.key = some ⟨0, 0, 4⟩ ∧
        m.after.attendance Sample.key = none ∧
        ∃ r, Unused past Sample.key ⟨0, 0, 4⟩ r m.time ∧ r.clock + 5 ≤ 8) ∧
      ∃ r, Unused past Sample.key ⟨1, 0, 2⟩ r past.length ∧
        c.pending.filter (fun a => a.key = Sample.key ∧ a.generation = 2) =
          [⟨Sample.key, 2, r.clock + 5⟩] := by
  have hrun : ∃ (past : List (Tick Portal.TagKind Unit)) (c : Scene Portal.TagKind Unit),
      TimedRun { keepUnused := 5 } past c ∧
      c.store.attendance Sample.key = some ⟨1, 0, 2⟩ ∧ c.pending = [⟨Sample.key, 2, 13⟩] ∧
      ∃ m ∈ past, m.clock = 8 ∧ m.before.attendance Sample.key = some ⟨0, 0, 4⟩ ∧
        m.after.attendance Sample.key = none := by
    let drop : Action Portal.TagKind Unit := .unsubscribe Sample.key true
    have hstart : TimedRun { keepUnused := 5 } ([] : List (Tick Portal.TagKind Unit)) _ := .init
    have hfirst := (hstart.act Sample.ask rfl).act drop rfl
    have harmed := hfirst.arm (show _ = [(Sample.key, 2)] by decide)
    have hasked := (harmed.wait rfl 3).act Sample.ask rfl
    have hboth := ((hasked.act drop rfl).arm (show _ = [(Sample.key, 4)] by decide)).wait rfl 2
    have hvain := hboth.ring (show _ = [] ++ ⟨Sample.key, 2, 5⟩ :: [⟨Sample.key, 4, 8⟩] by decide)
      (by decide) (by decide) (by decide)
    have hevicted := (hvain.wait rfl 3).ring (show _ = [] ++ ⟨Sample.key, 4, 8⟩ :: [] by decide)
      (by decide) (by decide) (by decide)
    have hlast := (hevicted.act Sample.ask rfl).act drop rfl
    exact ⟨_, _, hlast, by decide, by decide, _,
      List.mem_cons_of_mem _ (List.mem_cons_of_mem _ List.mem_cons_self), rfl, by decide, by decide⟩
  obtain ⟨past, c, h, hkept, hpending, m, hm, hclock, hbefore, hgone⟩ := hrun
  obtain ⟨hgraced, hunused, _⟩ := (grace_period_exact h).1 (by decide)
  refine ⟨past, c, h, hkept, hpending, ⟨m, hm, hclock, hbefore, hgone, ?_⟩, ?_⟩
  · obtain ⟨r, hr, hle, _⟩ := hgraced m hm Sample.key _ hbefore hgone
    rw [hclock] at hle
    exact ⟨r, hr, hle⟩
  · obtain ⟨e, he, heq⟩ := attendance_eq_some.mp hkept
    have hgeneration : e.generation = 2 := congrArg Attendance.generation heq
    obtain ⟨r, hr, hone, _⟩ := hunused Sample.key e he (congrArg Attendance.subscribers heq)
    rw [heq] at hr
    rw [hgeneration] at hone
    exact ⟨r, hr, hone⟩

end TagCache
