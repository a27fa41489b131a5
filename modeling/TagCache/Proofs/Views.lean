import TagCache.Proofs.Attendance

/-!
# Views that somebody holds

A subscription is a view of one entry: of the entry that was under its key when it began, and of no
later one. The store does not know who holds a view, it only counts. The past of a run does:
`views` lists what was opened and has not been dropped.

In an orderly run only what is held is dropped. The count of an entry is then the number of views
of its key, and an entry that somebody views is there: nobody looks at an entry that is gone.
-/

namespace TagCache

open Store

variable {κ ε : Type}

/-- The entry that somebody views: its key and its birth. -/
structure View where
  key : CacheKey
  birth : Nat
  deriving DecidableEq

/-- What a subscription views. -/
def Subscription.view {ρ : Type} (v : Subscription ρ) : View := ⟨v.key, v.birth⟩

/-- The view that is opened at the moment. -/
def Moment.opened? (m : Moment κ ε) : Option View :=
  match m.action with
  | .subscribe q arg =>
    match m.before.subscribe q arg with
    | .ok (v, _, _) => some v.view
    | .error _ => none
  | _ => none

/-- The key of the view that is dropped. -/
def Action.dropped? : Action κ ε → Option CacheKey
  | .unsubscribe key _ => some key
  | _ => none

/-- The views without one of a key. Which one does not matter: all of them view the same entry. -/
def dropView (key : CacheKey) (vs : List View) : List View := vs.eraseP fun v => v.key = key

/-- The views that are held, the latest first. -/
def views : List (Moment κ ε) → List View
  | [] => []
  | m :: past =>
    m.opened?.toList ++
      match m.action.dropped? with
      | none => views past
      | some key => dropView key (views past)

/-- Only a view that is held is dropped. -/
def Orderly (past : List (Moment κ ε)) : Prop :=
  Throughout (fun m earlier =>
    ∀ key ∈ m.action.dropped?, ∃ v ∈ views earlier, v.key = key) past

instance (past : List (Moment κ ε)) : Decidable (Orderly past) :=
  inferInstanceAs (Decidable (Throughout _ _))

/-- The number of views of a key. -/
def viewsOf (key : CacheKey) (vs : List View) : Nat := vs.countP fun v => v.key = key

theorem viewsOf_cons (key : CacheKey) (v : View) (vs : List View) :
    viewsOf key (v :: vs) = viewsOf key vs + if key = v.key then 1 else 0 := by
  unfold viewsOf
  rw [List.countP_cons]
  by_cases h : key = v.key
  · simp [h]
  · simp [h, Ne.symm h]

theorem viewsOf_pos {key : CacheKey} {vs : List View} :
    0 < viewsOf key vs ↔ ∃ v ∈ vs, v.key = key := by
  unfold viewsOf
  rw [List.countP_pos_iff]
  simp only [decide_eq_true_eq]

theorem viewsOf_dropView {key : CacheKey} {vs : List View} (h : ∃ v ∈ vs, v.key = key)
    (k : CacheKey) :
    viewsOf k vs = viewsOf k (dropView key vs) + if k = key then 1 else 0 := by
  obtain ⟨v, hv, hkey⟩ := h
  obtain ⟨w, front, back, _, hw, hsplit, hdrop⟩ :=
    List.exists_of_eraseP (p := fun v : View => v.key = key) hv (by simpa using hkey)
  have hwkey : w.key = key := by simpa using hw
  unfold dropView
  rw [hdrop, hsplit]
  unfold viewsOf
  rw [List.countP_append, List.countP_append, List.countP_cons, hwkey]
  by_cases hk : k = key
  · simp only [hk, decide_true, if_true]
    omega
  · simp only [hk, Ne.symm hk, decide_false, Bool.false_eq_true, if_false]
    omega

theorem mem_of_mem_dropView {key : CacheKey} {v : View} {vs : List View}
    (h : v ∈ dropView key vs) : v ∈ vs :=
  List.mem_of_mem_eraseP h

/-! ## Held views -/

/-- The store counts the views that are held, and every one is of the entry that is there. -/
structure Held (vs : List View) (s : Store κ ε) : Prop where
  count : ∀ k, s.subscriberCount k = viewsOf k vs
  present : ∀ v ∈ vs, ∃ a, s.attendance v.key = some a ∧ a.birth = v.birth

variable {s s' : Store κ ε} {vs : List View} {key : CacheKey}

theorem subscriberCount_eq (s : Store κ ε) (key : CacheKey) :
    s.subscriberCount key = ((s.attendance key).map Attendance.subscribers).getD 0 := by
  unfold subscriberCount attendance
  rw [Option.map_map]
  rfl

theorem held_new (config : StoreConfig) : Held [] (new config : Store κ ε) where
  count := fun _ => rfl
  present := by simp

/-- What nobody notices holds of the same views. -/
theorem Held.congr (h : Held vs s) (hatt : ∀ k, s'.attendance k = s.attendance k) :
    Held vs s' where
  count := by
    intro k
    rw [subscriberCount_eq, hatt, ← subscriberCount_eq, h.count]
  present := by
    intro v hv
    rw [hatt]
    exact h.present v hv

theorem Held.join {v : View} (h : Held vs s) (hbirth : v.birth = (s.joined v.key).birth)
    (hatt : ∀ k, s'.attendance k =
      if k = v.key then some (s.joined v.key) else s.attendance k) : Held (v :: vs) s' where
  count := by
    intro k
    have hold := h.count k
    rw [subscriberCount_eq] at hold
    rw [subscriberCount_eq, hatt, viewsOf_cons, ← hold]
    by_cases hk : k = v.key
    · rw [if_pos hk, if_pos hk, hk]
      unfold joined
      cases s.attendance v.key with
      | none => rfl
      | some a => rfl
    · rw [if_neg hk, if_neg hk]
      rfl
  present := by
    intro w hw
    rw [hatt]
    by_cases hk : w.key = v.key
    · -- an entry keeps its birth with every subscriber
      rw [if_pos hk]
      refine ⟨_, rfl, ?_⟩
      rcases List.mem_cons.mp hw with rfl | hw
      · exact hbirth.symm
      · obtain ⟨a, ha, hab⟩ := h.present w hw
        rw [hk] at ha
        unfold joined
        rw [ha]
        exact hab
    · rw [if_neg hk]
      rcases List.mem_cons.mp hw with rfl | hw
      · exact absurd rfl hk
      · exact h.present w hw

theorem Held.leave {a : Attendance} (h : Held vs s) (hheld : ∃ v ∈ vs, v.key = key)
    (ha : s.attendance key = some a)
    (hatt : ∀ k, s'.attendance k = if k = key then some a.leave else s.attendance k) :
    Held (dropView key vs) s' where
  count := by
    intro k
    have hold := h.count k
    rw [subscriberCount_eq, viewsOf_dropView hheld] at hold
    rw [subscriberCount_eq, hatt]
    by_cases hk : k = key
    · rw [if_pos hk, hk, ha] at hold
      rw [if_pos hk, hk]
      change a.subscribers = _ at hold
      change a.subscribers - 1 = _
      omega
    · rw [if_neg hk] at hold
      rw [if_neg hk]
      exact hold
  present := by
    intro w hw
    obtain ⟨b, hb, hbirth⟩ := h.present w (mem_of_mem_dropView hw)
    rw [hatt]
    by_cases hk : w.key = key
    · rw [hk, ha] at hb
      obtain rfl := Option.some.inj hb
      exact ⟨a.leave, by rw [if_pos hk], hbirth⟩
    · exact ⟨b, by rw [if_neg hk]; exact hb, hbirth⟩

/-- An entry that nobody views any more may go. -/
theorem Held.gone {vs' : List View} (h : Held vs s) (hsub : ∀ v ∈ vs', v ∈ vs)
    (hother : ∀ k, k ≠ key → viewsOf k vs' = viewsOf k vs) (hnone : viewsOf key vs' = 0)
    (hatt : ∀ k, s'.attendance k = if k = key then none else s.attendance k) : Held vs' s' where
  count := by
    intro k
    rw [subscriberCount_eq, hatt]
    by_cases hk : k = key
    · rw [if_pos hk, hk, hnone]
      rfl
    · rw [if_neg hk, ← subscriberCount_eq, h.count, hother k hk]
  present := by
    intro v hv
    have hk : v.key ≠ key := by
      intro hk
      have := viewsOf_pos.mpr ⟨v, hv, hk⟩
      omega
    rw [hatt, if_neg hk]
    exact h.present v (hsub v hv)

/-- Whoever views an entry is counted. -/
theorem Held.subscribed {v : View} (h : Held vs s) (hv : v ∈ vs) :
    0 < s.subscriberCount v.key := by
  rw [h.count]
  exact viewsOf_pos.mpr ⟨v, hv, rfl⟩

/-- A view shows the entry that is under its key. -/
theorem Held.viewed? {ρ : Type} {v : Subscription ρ} (h : Held vs s) (hv : v.view ∈ vs) :
    ∃ e, s.find? v.key = some e ∧ e.birth = v.birth ∧ s.viewed? v = some e := by
  obtain ⟨a, ha, hbirth⟩ := h.present _ hv
  obtain ⟨e, he, rfl⟩ := attendance_eq_some.mp ha
  change s.find? v.key = some e at he
  change e.birth = v.birth at hbirth
  refine ⟨e, he, hbirth, ?_⟩
  unfold Store.viewed?
  rw [he, Option.filter_some, if_pos (decide_eq_true hbirth)]

section

variable [DecidableEq κ] {past : List (Moment κ ε)}

/-- **An orderly moment keeps the count.** -/
theorem held_step {m : Moment κ ε} (h : Held (views past) m.before)
    (ho : ∀ key ∈ m.action.dropped?, ∃ v ∈ views past, v.key = key) :
    Held (views (m :: past)) m.after := by
  have hvisit := visits_act m.before m.action
  change m.before.Visits m.action m.effects m.after at hvisit
  generalize m.effects = effects at hvisit
  generalize m.after = s' at hvisit ⊢
  unfold views Moment.opened?
  generalize m.action = a at hvisit ho ⊢
  cases hvisit with
  | nobody hsubscribe hunsubscribe _ hatt _ =>
      cases a with
      | subscribe q arg =>
          obtain ⟨error, herror⟩ := hsubscribe q arg rfl
          simp only [herror, Action.dropped?]
          exact h.congr hatt
      | unsubscribe key hasTimer =>
          -- a view that is held is one of an entry
          obtain ⟨v, hv, hkey⟩ := ho key rfl
          obtain ⟨_, ha, _⟩ := h.present v hv
          rw [hkey, hunsubscribe key hasTimer rfl] at ha
          exact absurd ha (by simp)
      | _ => exact h.congr hatt
  | join hsubscribe hatt _ =>
      simp only [hsubscribe, Action.dropped?]
      exact h.join (birth_subscribe hsubscribe) hatt
  | leave ha _ hatt => exact h.leave (ho _ rfl) ha hatt
  | @gone key _ a _ ha hlast _ hatt =>
      have hheld := ho key rfl
      have hcount := h.count key
      rw [subscriberCount_eq, ha, viewsOf_dropView hheld, if_pos rfl] at hcount
      change a.subscribers = _ at hcount
      change a.subscribers - 1 = 0 at hlast
      change Held (dropView key (views past)) s'
      refine h.gone (fun v => mem_of_mem_dropView) (fun k hk => ?_) (by omega) hatt
      have hsame := viewsOf_dropView hheld k
      rw [if_neg hk] at hsame
      exact hsame.symm
  | evict ha hatt =>
      change Held (views past) s'
      refine h.gone (fun _ hv => hv) (fun _ _ => rfl) ?_ hatt
      rw [← h.count, subscriberCount_eq, ha]
      rfl

theorem held_run {config : StoreConfig} {s : Store κ ε} (h : Run config past s)
    (ho : Orderly past) : Held (views past) s := by
  induction h with
  | init => exact held_new config
  | tail _ a ih => exact held_step (ih ho.2) ho.1

/-- Somebody who holds a view sees the entry, and is counted. -/
theorem viewed?_of_held {config : StoreConfig} {s : Store κ ε} (h : Run config past s)
    (ho : Orderly past) {ρ : Type} {v : Subscription ρ} (hv : v.view ∈ views past) :
    ∃ e, s.viewed? v = some e ∧ 0 < e.subscribers := by
  have hheld := held_run h ho
  obtain ⟨e, he, _, hviewed⟩ := hheld.viewed? hv
  have hsubs := hheld.subscribed hv
  unfold subscriberCount at hsubs
  change 0 < ((s.find? v.key).map _).getD 0 at hsubs
  rw [he] at hsubs
  exact ⟨e, hviewed, hsubs⟩

end

end TagCache
