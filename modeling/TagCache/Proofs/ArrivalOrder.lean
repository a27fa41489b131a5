import Mathlib.Data.List.Nodup
import Mathlib.Logic.Equiv.Basic
import TagCache.Proofs.Requests
import TagCache.Proofs.TagIndex

/-!
# Answers in any order

Answers arrive in any order, and each is taken up without regard to those that are still to come.
Two answers for different entries share two things. One is the index, where the first may take the
last key from a tag that the second puts a key under. The other is the counter: an entry that was
hit while it waited asks for its request once more, and gets the next id.

The index is no trouble, since it is exact whatever the order, and the entries say what it holds.
The counter is: of two entries that ask once more, the one that is answered first gets the smaller
id. `Store.Renumbered` says of two stores that they differ in such ids and in nothing else. An id
is compared with other ids only, so renumbering commutes with every answer, and two answers that
change places are a renumbering of the two new requests. The rest is exchanging neighbours.
-/

namespace TagCache

open Store

variable {κ ε : Type}

/-! ## One entry -/

namespace Entry

/-- The entry with its request renumbered. -/
def renumber (σ : Equiv.Perm Nat) (e : Entry κ ε) : Entry κ ε :=
  { e with inFlight := e.inFlight.map σ }

/-- The entry is flagged, and the answer to the request `id` will be followed up by another. -/
def followsUp (e : Entry κ ε) (id : Nat) : Bool :=
  e.inFlight = some id && 0 < e.subscribers && e.refetchAfter

theorem renumber_of_fixed {σ : Equiv.Perm Nat} {e : Entry κ ε}
    (h : ∀ id, e.inFlight = some id → σ id = id) : e.renumber σ = e := by
  obtain ⟨_, _, _, _, _, _, _, inFlight, _, _, _⟩ := e
  cases inFlight with
  | none => rfl
  | some id =>
      unfold renumber
      rw [Option.map_some, h id rfl]

theorem renumber_refl (e : Entry κ ε) : e.renumber (.refl Nat) = e :=
  renumber_of_fixed fun _ _ => rfl

theorem renumber_renumber (σ τ : Equiv.Perm Nat) (e : Entry κ ε) :
    (e.renumber σ).renumber τ = e.renumber (σ.trans τ) := by
  unfold renumber
  rw [Option.map_map]
  rfl

theorem inFlight_renumber {σ : Equiv.Perm Nat} {id : Nat} (hid : σ id = id) (e : Entry κ ε) :
    (e.renumber σ).inFlight = some id ↔ e.inFlight = some id := by
  unfold renumber
  rw [Option.map_eq_some_iff]
  constructor
  · rintro ⟨i, hi, heq⟩
    rw [hi, σ.injective (heq.trans hid.symm)]
  · exact fun h => ⟨id, h, hid⟩

theorem followsUp_renumber {σ : Equiv.Perm Nat} {id : Nat} (hid : σ id = id) (e : Entry κ ε) :
    (e.renumber σ).followsUp id = e.followsUp id := by
  unfold followsUp
  rw [decide_eq_decide.mpr (inFlight_renumber hid e)]
  rfl

variable [DecidableEq κ]

/-- The entry after the answer to the request `id`. If it asks for its request once more, it does so
with `next`. -/
def completed (e : Entry κ ε) (id : Nat) (answer : Except ε Json) (next : Nat) : Entry κ ε :=
  if e.inFlight ≠ some id then e
  else if e.subscribers = 0 then Store.discard { e with inFlight := none }
  else e.answered answer next

/-- The next id is for an entry that asks once more. -/
theorem completed_congr {e : Entry κ ε} {id : Nat} (h : e.followsUp id = false)
    (answer : Except ε Json) (n m : Nat) : e.completed id answer n = e.completed id answer m := by
  unfold completed
  split
  · rfl
  · rename_i hf
    split
    · rfl
    · rename_i hsubs
      have hflag : e.refetchAfter = false := by
        simpa [followsUp, not_not.mp hf, Nat.pos_of_ne_zero hsubs] using h
      rw [answered, answered, hflag]
      rfl

/-- Whoever waits after an answer has waited before, or asks once more. -/
theorem inFlight_completed {e : Entry κ ε} {id next i : Nat} {answer : Except ε Json}
    (h : (e.completed id answer next).inFlight = some i) : e.inFlight = some i ∨ i = next := by
  unfold completed at h
  split at h
  · exact Or.inl h
  · split at h
    · exact absurd h (by simp [Store.discard, setStatus, write])
    · unfold answered at h
      split at h
      · exact Or.inr (Option.some.inj h).symm
      · rw [(settled_frame e _).2.2.1] at h
        exact absurd h (by simp)

/-- An answer that is taken up does not tell the old id from another. -/
theorem renumber_answered (σ : Equiv.Perm Nat) (e : Entry κ ε) (answer : Except ε Json)
    (next : Nat) :
    (e.answered answer next).renumber σ = (e.renumber σ).answered answer (σ next) := by
  have hforget : ∀ o, (e.renumber σ).settled o = e.settled o := by
    intro o
    cases o with
    | ok r => rfl
    | error error => rfl
  have hfree : ∀ o, (e.settled o).renumber σ = e.settled o := by
    intro o
    refine renumber_of_fixed fun id hf => ?_
    rw [(settled_frame e o).2.2.1] at hf
    exact absurd hf (by simp)
  have hsame : outcome (e.renumber σ) answer = outcome e answer := rfl
  have hflag : (e.renumber σ).refetchAfter = e.refetchAfter := rfl
  unfold answered
  rw [hsame, hflag, hforget]
  split
  · rfl
  · exact hfree _

/-- **Renumbering commutes with an answer**, if it keeps the id of the answer. -/
theorem renumber_completed {σ : Equiv.Perm Nat} {id : Nat} (hid : σ id = id) (e : Entry κ ε)
    (answer : Except ε Json) (next : Nat) :
    (e.completed id answer next).renumber σ = (e.renumber σ).completed id answer (σ next) := by
  have hsubs : (e.renumber σ).subscribers = e.subscribers := rfl
  unfold completed
  rw [hsubs]
  by_cases hf : e.inFlight = some id
  · -- it is the answer that is waited for, before the renumbering and after it
    rw [if_neg (not_not_intro hf), if_neg (not_not_intro ((inFlight_renumber hid e).mpr hf))]
    split
    · rfl
    · exact renumber_answered σ e answer next
  · rw [if_pos hf, if_pos (mt (inFlight_renumber hid e).mp hf)]

/-- The answer to an entry's request, followed up under another id. -/
theorem renumber_answer {σ : Equiv.Perm Nat} {e : Entry κ ε} {id n m : Nat}
    (hf : e.inFlight = some id) (hid : σ id = id) (hn : e.followsUp id = true → σ n = m)
    (answer : Except ε Json) :
    (e.completed id answer n).renumber σ = e.completed id answer m := by
  have hsame : e.renumber σ = e := by
    refine renumber_of_fixed fun i hi => ?_
    obtain rfl := Option.some.inj (hf.symm.trans hi)
    exact hid
  rw [renumber_completed hid, hsame]
  cases hfollows : e.followsUp id with
  | false => exact completed_congr hfollows answer _ _
  | true => rw [hn hfollows]

end Entry

/-! ## One answer -/

namespace Store

/-- An entry will follow up the answer to its request `id` by another request. -/
def followsUp (s : Store κ ε) (key : CacheKey) (id : Nat) : Bool :=
  (s.find? key).any (·.followsUp id)

/-- The two stores have the same entries, but for the ids of requests. -/
structure Renumbered (σ : Equiv.Perm Nat) (s s' : Store κ ε) : Prop where
  entries : ∀ k, s'.find? k = (s.find? k).map (·.renumber σ)
  next : s'.nextRequest = s.nextRequest
  created : s'.created = s.created
  config : s'.config = s.config

variable {s s' s'' : Store κ ε} {σ τ : Equiv.Perm Nat} {key : CacheKey} {id : Nat}

theorem Renumbered.refl (s : Store κ ε) : s.Renumbered (.refl Nat) s where
  entries := by
    intro k
    cases s.find? k with
    | none => rfl
    | some e => rw [Option.map_some, e.renumber_refl]
  next := rfl
  created := rfl
  config := rfl

theorem Renumbered.trans (h : s.Renumbered σ s') (h' : s'.Renumbered τ s'') :
    s.Renumbered (σ.trans τ) s'' where
  entries := by
    intro k
    rw [h'.entries, h.entries, Option.map_map]
    exact congrArg (fun f => (s.find? k).map f) (funext (Entry.renumber_renumber σ τ))
  next := h'.next.trans h.next
  created := h'.created.trans h.created
  config := h'.config.trans h.config

variable [DecidableEq κ]

/-- What is under a key after an answer. -/
theorem find?_completeFetch (s : Store κ ε) (key : CacheKey) (id : Nat) (answer : Except ε Json)
    (k : CacheKey) : (s.completeFetch key id answer).1.find? k =
      if k = key then (s.find? key).map (·.completed id answer s.nextRequest) else s.find? k := by
  rcases completeFetch_cases s key id answer with
    ⟨heq, hidle⟩ | ⟨e, he, hf, hsubs, heq⟩ | ⟨e, he, hf, hsubs, ha⟩
  · rw [heq]
    split
    · rename_i hk
      cases he : s.find? key with
      | none => rw [hk, he]; rfl
      | some e => rw [hk, he, Option.map_some, Entry.completed, if_pos (hidle e he)]
    · rfl
  · rw [heq, he, Option.map_some, Entry.completed, if_neg (not_not_intro hf), if_pos hsubs]
    exact find?_setEntry s key k _
  · rw [ha.find, he, Option.map_some, Entry.completed, if_neg (not_not_intro hf),
      if_neg (Nat.ne_of_gt hsubs)]

theorem completeFetch_frame (s : Store κ ε) (key : CacheKey) (id : Nat) (answer : Except ε Json) :
    (s.completeFetch key id answer).1.nextRequest = s.nextRequest + (s.followsUp key id).toNat ∧
      (s.completeFetch key id answer).1.created = s.created ∧
      (s.completeFetch key id answer).1.config = s.config := by
  unfold followsUp
  rcases completeFetch_cases s key id answer with
    ⟨heq, hidle⟩ | ⟨e, he, hf, hsubs, heq⟩ | ⟨e, he, hf, hsubs, ha⟩
  · have hnone : (s.find? key).any (·.followsUp id) = false := by
      cases he : s.find? key with
      | none => rfl
      | some e => simp [Entry.followsUp, hidle e he]
    rw [heq, hnone]
    exact ⟨rfl, rfl, rfl⟩
  · have hnone : e.followsUp id = false := by simp [Entry.followsUp, hsubs]
    rw [heq, he, Option.any_some, hnone]
    exact ⟨rfl, rfl, rfl⟩
  · have hflag : e.followsUp id = e.refetchAfter := by simp [Entry.followsUp, hf, hsubs]
    refine ⟨?_, ha.created, ha.config⟩
    rw [ha.next, he, Option.any_some, hflag]
    cases e.refetchAfter with
    | false => rfl
    | true => rfl

theorem nextRequest_completeFetch (s : Store κ ε) (key : CacheKey) (id : Nat)
    (answer : Except ε Json) :
    s.nextRequest ≤ (s.completeFetch key id answer).1.nextRequest := by
  rw [(completeFetch_frame s key id answer).1]
  exact Nat.le_add_right _ _

/-- An answer that nobody waits for now, nobody waits for after another. -/
theorem idle_completeFetch {k : CacheKey} {i : Nat}
    (hidle : ∀ e, s.find? k = some e → e.inFlight ≠ some i) (hlt : i < s.nextRequest)
    (answer : Except ε Json) {e : Entry κ ε}
    (he : (s.completeFetch key id answer).1.find? k = some e) : e.inFlight ≠ some i := by
  rw [find?_completeFetch] at he
  split at he
  · rename_i hk
    obtain ⟨e₀, he₀, rfl⟩ := Option.map_eq_some_iff.mp he
    intro hf
    rcases Entry.inFlight_completed hf with hf | hnext
    · exact hidle e₀ (hk ▸ he₀) hf
    · exact absurd hnext (Nat.ne_of_lt hlt)
  · exact hidle e he

theorem followsUp_completeFetch {k : CacheKey} (hne : k ≠ key) (id i : Nat)
    (answer : Except ε Json) :
    (s.completeFetch key id answer).1.followsUp k i = s.followsUp k i := by
  unfold followsUp
  rw [find?_completeFetch, if_neg hne]

omit [DecidableEq κ] in
theorem Renumbered.followsUp (h : s.Renumbered σ s') (hid : σ id = id) (key : CacheKey) :
    s'.followsUp key id = s.followsUp key id := by
  unfold Store.followsUp
  rw [h.entries]
  cases s.find? key with
  | none => rfl
  | some e => exact e.followsUp_renumber hid

theorem Renumbered.completeFetch (h : s.Renumbered σ s') (hid : σ id = id)
    (hnext : σ s.nextRequest = s.nextRequest) (key : CacheKey) (answer : Except ε Json) :
    (s.completeFetch key id answer).1.Renumbered σ (s'.completeFetch key id answer).1 := by
  obtain ⟨hn, hc, hf⟩ := completeFetch_frame s key id answer
  obtain ⟨hn', hc', hf'⟩ := completeFetch_frame s' key id answer
  refine ⟨fun k => ?_, ?_, ?_, ?_⟩
  · rw [find?_completeFetch, find?_completeFetch, h.entries, h.entries, h.next]
    split
    · cases s.find? key with
      | none => rfl
      | some e =>
          rw [Option.map_some, Option.map_some, Option.map_some, Option.map_some,
            Entry.renumber_completed hid, hnext]
    · rfl
  · rw [hn, hn', h.next, h.followsUp hid]
  · rw [hc, hc', h.created]
  · rw [hf, hf', h.config]

/-! ## Many answers -/

/-- The store after answers to requests. -/
def answerAll (s : Store κ ε) (answers : List (Errand × Except ε Json)) : Store κ ε :=
  answers.foldl (fun s a => (s.completeFetch a.1.key a.1.id a.2).1) s

theorem nextRequest_answerAll (s : Store κ ε) (answers : List (Errand × Except ε Json)) :
    s.nextRequest ≤ (s.answerAll answers).nextRequest := by
  induction answers generalizing s with
  | nil => exact Nat.le_refl _
  | cons r answers ih => exact Nat.le_trans (nextRequest_completeFetch s _ _ _) (ih _)

/-- Answers to older requests do not see what numbers the new ones have. -/
theorem Renumbered.answerAll (h : s.Renumbered σ s')
    {answers : List (Errand × Except ε Json)} (hids : ∀ r ∈ answers, σ r.1.id = r.1.id)
    (hnew : ∀ id, s.nextRequest ≤ id → σ id = id) :
    (s.answerAll answers).Renumbered σ (s'.answerAll answers) := by
  induction answers generalizing s s' with
  | nil => exact h
  | cons r answers ih =>
      obtain ⟨hr, hids⟩ := List.forall_mem_cons.mp hids
      refine ih (h.completeFetch hr (hnew _ (Nat.le_refl _)) r.1.key r.2) hids fun id hid => ?_
      exact hnew id (Nat.le_trans (nextRequest_completeFetch s _ _ _) hid)

end Store

variable [DecidableEq κ] {past : List (Moment κ ε)} {s : Store κ ε} {config : StoreConfig}
variable {x y : Errand}

theorem run_answerAll (h : Run config past s) (answers : List (Errand × Except ε Json)) :
    ∃ past', Run config past' (s.answerAll answers) := by
  induction answers generalizing past s with
  | nil => exact ⟨past, h⟩
  | cons r answers ih => exact ih (h.tail (.complete r.1.key r.1.id r.2))

theorem Tracks.eq_of_id {xs : List Errand} (h : Tracks past xs s) (hx : x ∈ xs) (hy : y ∈ xs)
    (hid : x.id = y.id) : x = y :=
  List.inj_on_of_nodup_map h.nodup hx hy hid

/-- A request stays underway while another is answered. -/
theorem underway_complete (h : Tracks past (underway past) s) (hx : x ∈ underway past)
    (hy : y ∈ underway past) (hne : x ≠ y) (answer : Except ε Json) :
    x ∈ underway (⟨past.length, s, .complete y.key y.id answer⟩ :: past) := by
  refine List.mem_append_left _ (List.mem_filter.mpr ⟨hx, decide_eq_true fun heq => hne ?_⟩)
  exact h.eq_of_id hx hy (Prod.mk.inj (Option.some.inj heq)).2.symm

/-! ## Two answers -/

/-- An answer that nobody waits for may come before or after another. -/
theorem answerAll_of_idle (hidle : ∀ e, s.find? x.key = some e → e.inFlight ≠ some x.id)
    (hlt : x.id < s.nextRequest) (y : Errand) (a b : Except ε Json) :
    s.answerAll [(x, a), (y, b)] = s.answerAll [(y, b), (x, a)] := by
  have hfirst : (s.completeFetch x.key x.id a).1 = s := by
    rw [completeFetch_of_idle hidle]
  have hlast : ((s.completeFetch y.key y.id b).1.completeFetch x.key x.id a).1 =
      (s.completeFetch y.key y.id b).1 := by
    rw [completeFetch_of_idle fun e => idle_completeFetch hidle hlt b]
  change ((s.completeFetch x.key x.id a).1.completeFetch y.key y.id b).1 = _
  rw [hfirst]
  exact hlast.symm

/-- Two entries take up their answers. The second may get the id after the one that the first has
got. -/
theorem find?_answerAll_two (hkeys : x.key ≠ y.key) (a b : Except ε Json) (k : CacheKey) :
    (s.answerAll [(x, a), (y, b)]).find? k =
      if k = y.key then (s.find? y.key).map (·.completed y.id b
        (s.nextRequest + (s.followsUp x.key x.id).toNat))
      else if k = x.key then (s.find? x.key).map (·.completed x.id a s.nextRequest)
      else s.find? k := by
  change ((s.completeFetch x.key x.id a).1.completeFetch y.key y.id b).1.find? k = _
  rw [find?_completeFetch, find?_completeFetch, if_neg (Ne.symm hkeys), find?_completeFetch,
    (completeFetch_frame s x.key x.id a).1]

theorem answerAll_two_frame (hkeys : x.key ≠ y.key) (a b : Except ε Json) :
    (s.answerAll [(x, a), (y, b)]).nextRequest = s.nextRequest +
        (s.followsUp x.key x.id).toNat + (s.followsUp y.key y.id).toNat ∧
      (s.answerAll [(x, a), (y, b)]).created = s.created ∧
      (s.answerAll [(x, a), (y, b)]).config = s.config := by
  obtain ⟨hnext, hcreated, hconfig⟩ := completeFetch_frame s x.key x.id a
  obtain ⟨hnext', hcreated', hconfig'⟩ :=
    completeFetch_frame (s.completeFetch x.key x.id a).1 y.key y.id b
  rw [followsUp_completeFetch (Ne.symm hkeys), hnext] at hnext'
  exact ⟨hnext', hcreated'.trans hcreated, hconfig'.trans hconfig⟩

section

omit [DecidableEq κ]

/-- The ids of the requests that two answers are followed up by, exchanged if there are two. -/
def Store.exchange (s : Store κ ε) (x y : Errand) : Equiv.Perm Nat :=
  if s.followsUp x.key x.id ∧ s.followsUp y.key y.id then
    .swap s.nextRequest (s.nextRequest + 1)
  else .refl Nat

theorem exchange_of_lt {id : Nat} (h : id < s.nextRequest) : s.exchange x y id = id := by
  unfold exchange
  split
  · exact Equiv.swap_apply_of_ne_of_ne (by omega) (by omega)
  · rfl

theorem exchange_first (hx : s.followsUp x.key x.id = true) :
    s.exchange x y s.nextRequest = s.nextRequest + (s.followsUp y.key y.id).toNat := by
  unfold exchange
  cases hy : s.followsUp y.key y.id with
  | false => rw [if_neg (by simp)]; rfl
  | true => rw [if_pos ⟨hx, rfl⟩, Equiv.swap_apply_left]; rfl

theorem exchange_second (hy : s.followsUp y.key y.id = true) :
    s.exchange x y (s.nextRequest + (s.followsUp x.key x.id).toNat) = s.nextRequest := by
  unfold exchange
  cases hx : s.followsUp x.key x.id with
  | false => rw [if_neg (by simp)]; rfl
  | true => rw [if_pos ⟨rfl, hy⟩]; exact Equiv.swap_apply_right _ _

end

/-- Two entries that wait for different answers take them up in either order, but for the ids of the
requests that follow. -/
theorem renumbered_of_waiting (hkeys : x.key ≠ y.key) {e₁ e₂ : Entry κ ε}
    (he₁ : s.find? x.key = some e₁) (hf₁ : e₁.inFlight = some x.id)
    (he₂ : s.find? y.key = some e₂) (hf₂ : e₂.inFlight = some y.id)
    (hlt : ∀ k e id, s.find? k = some e → e.inFlight = some id → id < s.nextRequest)
    (a b : Except ε Json) :
    (s.answerAll [(x, a), (y, b)]).Renumbered (s.exchange x y)
      (s.answerAll [(y, b), (x, a)]) := by
  obtain ⟨hnext, hcreated, hconfig⟩ := answerAll_two_frame (s := s) hkeys a b
  obtain ⟨hnext', hcreated', hconfig'⟩ := answerAll_two_frame (s := s) (Ne.symm hkeys) b a
  have hx : s.followsUp x.key x.id = e₁.followsUp x.id := by
    rw [Store.followsUp, he₁, Option.any_some]
  have hy : s.followsUp y.key y.id = e₂.followsUp y.id := by
    rw [Store.followsUp, he₂, Option.any_some]
  refine ⟨fun k => ?_, by omega, hcreated'.trans hcreated.symm, hconfig'.trans hconfig.symm⟩
  rw [find?_answerAll_two hkeys, find?_answerAll_two (Ne.symm hkeys), he₁, he₂]
  by_cases hkx : k = x.key
  · rw [if_pos hkx, if_neg (hkx ▸ hkeys), if_pos hkx]
    refine congrArg some (Entry.renumber_answer hf₁ ?_ ?_ a).symm
    · exact exchange_of_lt (hlt _ _ _ he₁ hf₁)
    · exact fun h => exchange_first (hx.trans h)
  · by_cases hky : k = y.key
    · rw [if_neg hkx, if_pos hky, if_pos hky]
      refine congrArg some (Entry.renumber_answer hf₂ ?_ ?_ b).symm
      · exact exchange_of_lt (hlt _ _ _ he₂ hf₂)
      · exact fun h => exchange_second (hy.trans h)
    · -- an entry that waits for none of the two
      rw [if_neg hkx, if_neg hky, if_neg hky, if_neg hkx]
      cases he : s.find? k with
      | none => rfl
      | some e =>
          rw [Option.map_some, Entry.renumber_of_fixed]
          exact fun id hf => exchange_of_lt (hlt _ _ _ he hf)

/-- **Any two answers may change places.** -/
theorem renumbered_two (h : Tracks past (underway past) s) (hx : x ∈ underway past)
    (hy : y ∈ underway past) (hne : x ≠ y) (a b : Except ε Json) :
    ∃ σ : Equiv.Perm Nat, (σ = .refl Nat ∨ σ = .swap s.nextRequest (s.nextRequest + 1) ∧
        (s.answerAll [(x, a), (y, b)]).nextRequest = s.nextRequest + 2) ∧
      (s.answerAll [(x, a), (y, b)]).Renumbered σ (s.answerAll [(y, b), (x, a)]) := by
  by_cases hwx : ∃ e, s.find? x.key = some e ∧ e.inFlight = some x.id
  · by_cases hwy : ∃ e, s.find? y.key = some e ∧ e.inFlight = some y.id
    · obtain ⟨e₁, he₁, hf₁⟩ := hwx
      obtain ⟨e₂, he₂, hf₂⟩ := hwy
      have hkeys : x.key ≠ y.key := by
        -- an entry waits for one request only, and no other has its id
        intro hkey
        obtain rfl := Option.some.inj ((hkey ▸ he₁).symm.trans he₂)
        exact hne (h.eq_of_id hx hy (Option.some.inj (hf₁.symm.trans hf₂)))
      have hlt : ∀ k e id, s.find? k = some e → e.inFlight = some id → id < s.nextRequest := by
        intro k e id he hf
        obtain ⟨z, hz, _, rfl, _⟩ := (h.inFlight_iff he).mp hf
        exact h.ids z hz
      refine ⟨s.exchange x y, ?_, renumbered_of_waiting hkeys he₁ hf₁ he₂ hf₂ hlt a b⟩
      have hnext := (answerAll_two_frame (s := s) hkeys a b).1
      unfold exchange
      split
      · rename_i hboth
        rw [hboth.1, hboth.2] at hnext
        exact Or.inr ⟨rfl, hnext⟩
      · exact Or.inl rfl
    · refine ⟨.refl Nat, Or.inl rfl, ?_⟩
      rw [answerAll_of_idle (fun e he hf => hwy ⟨e, he, hf⟩) (h.ids y hy) x b a]
      exact .refl _
  · refine ⟨.refl Nat, Or.inl rfl, ?_⟩
    rw [answerAll_of_idle (fun e he hf => hwx ⟨e, he, hf⟩) (h.ids x hx) y a b]
    exact .refl _

/-! ## Any order -/

/-- Exchanging neighbours leads from any order to any other. -/
theorem renumbered_perm {answers answers' : List (Errand × Except ε Json)}
    (hperm : answers.Perm answers') {past : List (Moment κ ε)} {s : Store κ ε}
    (h : Run config past s) (hnd : (answers.map Prod.fst).Nodup)
    (hunderway : ∀ r ∈ answers, r.1 ∈ underway past) :
    ∃ σ : Equiv.Perm Nat,
      (∀ id, σ id ≠ id → s.nextRequest ≤ id ∧ id < (s.answerAll answers).nextRequest) ∧
      (s.answerAll answers).Renumbered σ (s.answerAll answers') := by
  -- the ids that move are new ones all along, so the answers that follow do not see it
  induction hperm generalizing past s with
  | nil => exact ⟨.refl Nat, fun _ hne => absurd rfl hne, .refl _⟩
  | @cons r answers answers' _ ih =>
      obtain ⟨hr, hrest⟩ := List.forall_mem_cons.mp hunderway
      obtain ⟨hnew, hnd⟩ := List.nodup_cons.mp hnd
      have ht := tracks_run h
      obtain ⟨σ, hσ, hren⟩ := ih (h.tail (.complete r.1.key r.1.id r.2)) hnd fun q hq => by
        refine underway_complete ht (hrest q hq) hr (fun heq => hnew ?_) r.2
        exact List.mem_map.mpr ⟨q, hq, heq⟩
      refine ⟨σ, fun id hne => ?_, hren⟩
      obtain ⟨hle, hlt⟩ := hσ id hne
      exact ⟨Nat.le_trans (nextRequest_completeFetch s _ _ _) hle, hlt⟩
  | swap r q answers =>
      obtain ⟨hq, hrest⟩ := List.forall_mem_cons.mp hunderway
      obtain ⟨hr, hrest⟩ := List.forall_mem_cons.mp hrest
      have ht := tracks_run h
      have hne : q.1 ≠ r.1 := by
        rintro heq
        exact (List.nodup_cons.mp hnd).1 (heq ▸ List.mem_cons_self)
      obtain ⟨σ, hσ, hren⟩ := renumbered_two ht hq hr hne q.2 r.2
      -- what is exchanged are ids that the two answers have given out
      have hmoved : ∀ id, σ id ≠ id → s.nextRequest ≤ id ∧
          id < (s.answerAll [q, r]).nextRequest := by
        intro id hid
        rcases hσ with rfl | ⟨rfl, hnext⟩
        · exact absurd rfl hid
        · rw [hnext]
          have := Equiv.swap_apply_ne_self_iff.mp hid
          omega
      refine ⟨σ, fun id hid => ?_, hren.answerAll (fun p hp => ?_) fun id hid => ?_⟩
      · obtain ⟨hle, hlt⟩ := hmoved id hid
        exact ⟨hle, Nat.lt_of_lt_of_le hlt (nextRequest_answerAll _ answers)⟩
      · by_contra hmove
        exact absurd (ht.ids p.1 (hrest p hp)) (Nat.not_lt.mpr (hmoved _ hmove).1)
      · by_contra hmove
        exact absurd (hmoved id hmove).2 (Nat.not_lt.mpr hid)
  | @trans answers₁ answers₂ answers₃ hperm _ ih ih' =>
      obtain ⟨σ, hσ, hren⟩ := ih h hnd hunderway
      obtain ⟨τ, hτ, hren'⟩ := ih' h ((hperm.map Prod.fst).nodup_iff.mp hnd) fun r hr =>
        hunderway r (hperm.mem_iff.mpr hr)
      refine ⟨σ.trans τ, fun id hne => ?_, hren.trans hren'⟩
      by_cases hid : σ id = id
      · rw [Equiv.trans_apply, hid] at hne
        rw [← hren.next]
        exact hτ id hne
      · exact hσ id hid

/-- The index follows the entries. -/
theorem Store.Renumbered.sameIndex {past' : List (Moment κ ε)} {s' : Store κ ε}
    {σ : Equiv.Perm Nat} (hr : s.Renumbered σ s') (h : Run config past s)
    (h' : Run config past' s') : s.SameIndex s' := by
  refine (indexExact_run h).sameIndex (indexExact_run h') fun k => ?_
  rw [hr.entries, Option.map_map]
  rfl

/-- **The order of answers does not matter.** In every state of every run, any two requests that
are underway may be answered in either order, whatever the answers. The entries are the same and so
is the index, except that two entries that both ask for their request once more have exchanged the
ids of the new requests. So any number of answers may come in any order: the store that they leave
is known up to the ids that they have caused to be given out. -/
theorem answers_in_any_order (h : Run config past s) :
    (∀ x ∈ underway past, ∀ y ∈ underway past, x ≠ y → ∀ a b, ∃ σ : Equiv.Perm Nat,
      (σ = .refl Nat ∨ σ = .swap s.nextRequest (s.nextRequest + 1) ∧
        (s.answerAll [(x, a), (y, b)]).nextRequest = s.nextRequest + 2) ∧
      (s.answerAll [(x, a), (y, b)]).Renumbered σ (s.answerAll [(y, b), (x, a)]) ∧
      (s.answerAll [(x, a), (y, b)]).SameIndex (s.answerAll [(y, b), (x, a)])) ∧
    ∀ answers answers' : List (Errand × Except ε Json), answers.Perm answers' →
      (answers.map Prod.fst).Nodup → (∀ r ∈ answers, r.1 ∈ underway past) →
      ∃ σ : Equiv.Perm Nat,
        (∀ id, σ id ≠ id → s.nextRequest ≤ id ∧ id < (s.answerAll answers).nextRequest) ∧
        (s.answerAll answers).Renumbered σ (s.answerAll answers') ∧
        (s.answerAll answers).SameIndex (s.answerAll answers') := by
  have hindex : ∀ {answers answers'} {σ : Equiv.Perm Nat},
      (s.answerAll answers).Renumbered σ (s.answerAll answers') →
      (s.answerAll answers).SameIndex (s.answerAll answers') := by
    intro answers answers' σ hren
    obtain ⟨_, hrun⟩ := run_answerAll h answers
    obtain ⟨_, hrun'⟩ := run_answerAll h answers'
    exact hren.sameIndex hrun hrun'
  constructor
  · intro x hx y hy hne a b
    obtain ⟨σ, hσ, hren⟩ := renumbered_two (tracks_run h) hx hy hne a b
    exact ⟨σ, hσ, hren, hindex hren⟩
  · intro answers answers' hperm hnd hunderway
    obtain ⟨σ, hσ, hren⟩ := renumbered_perm hperm h hnd hunderway
    exact ⟨σ, hσ, hren, hindex hren⟩

/-- An entry is evicted while its request is on its way, and another is created under its key. That
one and a third are hit twice, so each waits and will ask once more. The three answers come in two
orders; the orphan's is for nobody, and the ids of the new requests are exchanged. -/
theorem answers_in_any_order_recreated :
    let other := CacheKey.ofArg "customQuery" (.str "b")
    let p := play {} [Sample.ask, .unsubscribe Sample.key true, .evict Sample.key 2, Sample.ask,
      Sample.answer 1 ["a"], .subscribe Simulation.customQuery (.str "b"),
      .complete other 2 (.ok (Sample.result ["a"])), .invalidate [Sample.tag "a"],
      .invalidate [Sample.tag "a"]]
    let orphan : Errand × Except Unit Json :=
      (⟨Sample.key, 0, some 0, 0⟩, .ok (Sample.result ["z"]))
    let first : Errand × Except Unit Json := (⟨other, 3, some 2, 7⟩, .error ())
    let last : Errand × Except Unit Json :=
      (⟨Sample.key, 4, some 1, 7⟩, .ok (Sample.result ["b"]))
    underway p.1 = [orphan.1, first.1, last.1] ∧
      (∃ σ : Equiv.Perm Nat, (σ = .refl Nat ∨ σ = .swap 5 6 ∧
          (p.2.answerAll [first, last]).nextRequest = 7) ∧
        (p.2.answerAll [first, last]).Renumbered σ (p.2.answerAll [last, first]) ∧
        (p.2.answerAll [first, last]).SameIndex (p.2.answerAll [last, first])) ∧
      (∃ σ : Equiv.Perm Nat, (∀ id, σ id ≠ id → 5 ≤ id ∧ id < 7) ∧
        (p.2.answerAll [orphan, first, last]).Renumbered σ (p.2.answerAll [last, first, orphan]) ∧
        (p.2.answerAll [orphan, first, last]).SameIndex (p.2.answerAll [last, first, orphan])) ∧
      (p.2.answerAll [first, last]).flight other = some (2, some 5) ∧
      (p.2.answerAll [last, first]).flight other = some (2, some 6) := by
  intro other p orphan first last
  have hunderway : underway p.1 = [orphan.1, first.1, last.1] := by decide
  obtain ⟨htwo, hany⟩ := answers_in_any_order (show Run {} p.1 p.2 from run_play _ _)
  have hmem : ∀ r ∈ [orphan, first, last], r.1 ∈ underway p.1 := by
    rw [hunderway]
    simp
  have hnext : p.2.nextRequest = 5 := by decide
  have hlast : (p.2.answerAll [orphan, first, last]).nextRequest = 7 := by decide
  refine ⟨hunderway, ?_, ?_, by decide, by decide⟩
  · obtain ⟨σ, hσ, hsame⟩ :=
      htwo _ (hmem first (by simp)) _ (hmem last (by simp)) (by decide) first.2 last.2
    rw [hnext] at hσ
    exact ⟨σ, hσ, hsame⟩
  · obtain ⟨σ, hσ, hsame⟩ := hany _ _ (List.reverse_perm [orphan, first, last]).symm
      (by decide) hmem
    rw [hnext, hlast] at hσ
    exact ⟨σ, hσ, hsame⟩

end TagCache
