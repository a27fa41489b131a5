import Mathlib.Logic.Relation
import TagCache.Proofs.Records

/-!
# Schemas read what they write

A schema is data, so whether its reader undoes its writer is a question about its parts: the names
of a variant have to lead back to their values, the fields of a record need names of their own, and
what is not written for a field has to be what stands for it when it is missing. A schema whose parts
fit together like this is *lawful*, and then every value is read back from what is written for it.

The reader of a record looks for its fields by name. So a JSON value may be respelled without a
change of what it is read as: members that are no fields may be put into the objects of records, at
any depth, and members may change places.
-/

namespace TagCache

open Json

/-! ## Lawful schemas -/

mutual

/-- The parts of a schema fit together. -/
def Schema.Lawful : {α : Type} → Schema α → Prop
  | _, .option s => s.Lawful ∧ ∀ a, s.encode a ≠ .null
  | _, .list s => s.Lawful
  | _, .pair s t => s.Lawful ∧ t.Lawful
  | _, .variant values name => ∀ a, values.lookup (name a) = some a
  | _, .own write read => ∀ a, read (write a) = .ok a
  | _, .record _ shape make parts => shape.Lawful ∧ ∀ a, make (parts a) = a
  | _, _ => True

/-- Every field has a name of its own, and a value that is not written stands for the field where
an object does not have it. -/
def Shape.Lawful : {τ : Type} → Shape τ → Prop
  | _, .done => True
  | _, .field name s absence rest =>
    s.Lawful ∧ name ∉ rest.names ∧ (∀ a, absence.omits a = true → absence.inObject = some a) ∧
      rest.Lawful

end

/-! ### Members and fields -/

theorem Json.Members.get?_eq_none {ms : Members} {name : String} (h : ∀ m ∈ ms, m.1 ≠ name) :
    ms.get? name = none := by
  induction ms with
  | nil => rfl
  | cons m ms ih =>
      obtain ⟨k, v⟩ := m
      rw [Members.get?_cons, if_neg (Ne.symm (h _ List.mem_cons_self))]
      exact ih fun n hn => h n (List.mem_cons_of_mem _ hn)

/-- What is found under a name is found in front, or else behind. -/
theorem Json.Members.get?_append (front back : Members) (name : String) :
    Members.get? (front ++ back) name = (front.get? name).or (back.get? name) := by
  induction front with
  | nil => rfl
  | cons m front ih =>
      obtain ⟨k, v⟩ := m
      rw [List.cons_append, Members.get?_cons, Members.get?_cons, ih]
      split <;> rfl

namespace Shape

theorem mem_names_of_mem_encode {m : String × Json} :
    ∀ {τ : Type} {shape : Shape τ} {t : τ}, m ∈ shape.encode t → m.1 ∈ shape.names
  | _, .done, _, h => nomatch h
  | _, .field name s absence rest, (a, as), h => by
    rw [Shape.encode] at h
    split at h
    · exact List.mem_cons_of_mem _ (mem_names_of_mem_encode h)
    · rcases List.mem_cons.mp h with rfl | h
      · exact List.mem_cons_self
      · exact List.mem_cons_of_mem _ (mem_names_of_mem_encode h)

/-- Fields are looked up by their names, and nothing else is. -/
theorem collect_congr {ms ns : Members} :
    ∀ {τ : Type} {shape : Shape τ}, (∀ name ∈ shape.names, ms.get? name = ns.get? name) →
      shape.collect ms = shape.collect ns
  | _, .done, _ => rfl
  | _, .field name s absence rest, h => by
    have hrest : rest.collect ms = rest.collect ns :=
      collect_congr fun other hother => h other (List.mem_cons_of_mem _ hother)
    rw [Shape.collect, Shape.collect, h name List.mem_cons_self, hrest]

theorem check_of_notMem {name : String} {v : Json} :
    ∀ {τ : Type} {shape : Shape τ}, name ∉ shape.names → shape.check name v = .ok ()
  | _, .done, _ => rfl
  | _, .field n s absence rest, h => by
    have hne : name ≠ n := fun heq => h (heq ▸ List.mem_cons_self)
    rw [Shape.check, if_neg hne]
    exact check_of_notMem fun hmem => h (List.mem_cons_of_mem _ hmem)

end Shape

/-! ### Reading what was written -/

theorem decodeNat_of_lt {limit n : Nat} (expected : String) (h : n < limit) :
    decodeNat limit expected (.int n) = .ok n := by
  have hrange : (0 : Int) ≤ n ∧ (n : Int) < limit := by omega
  simp only [Json.int, decodeNat]
  rw [if_pos (by simpa using hrange)]
  rfl

theorem decode_option_of_ne_null {α : Type} {s : Schema α} {j : Json} (h : j ≠ .null) :
    (Schema.option s).decode j = (s.decode j).map some := by
  cases j with
  | null => exact absurd rfl h
  | _ => rfl

mutual

/-- **A lawful schema reads what it writes.** -/
theorem Schema.decode_encode : {α : Type} → (s : Schema α) → s.Lawful → ∀ a,
    s.decode (s.encode a) = .ok a
  | _, .unit, _, _ => rfl
  | _, .bool, _, _ => rfl
  | _, .string, _, _ => rfl
  | _, .uint16, _, a => by
    change (decodeNat (2 ^ 16) "u16" (.int a.toNat)).map UInt16.ofNat = .ok a
    rw [decodeNat_of_lt _ a.toNat_lt]
    exact congrArg Except.ok UInt16.ofNat_toNat
  | _, .uint32, _, a => by
    change (decodeNat (2 ^ 32) "u32" (.int a.toNat)).map UInt32.ofNat = .ok a
    rw [decodeNat_of_lt _ a.toNat_lt]
    exact congrArg Except.ok UInt32.ofNat_toNat
  | _, .any, _, _ => rfl
  | _, .option s, h, a => by
    cases a with
    | none => rfl
    | some a =>
        change (Schema.option s).decode (s.encode a) = _
        rw [decode_option_of_ne_null (h.2 a), s.decode_encode h.1 a]
        rfl
  | _, .list s, h, as => by
    refine decode_list_eq_ok.mpr ⟨_, rfl, List.forall₂_map_left_iff.mpr ?_⟩
    exact List.forall₂_same.mpr fun a _ => s.decode_encode h a
  | _, .pair s t, h, (a, b) => by
    have hfirst := s.decode_encode h.1 a
    have hsecond := t.decode_encode h.2 b
    change (do
      let a ← s.decode (s.encode a)
      let b ← t.decode (t.encode b)
      Except.ok (a, b)) = Except.ok (a, b)
    rw [hfirst, hsecond]
    rfl
  | _, .variant values name, h, a => by
    change decodeName values (name a) = .ok a
    rw [decodeName, h a]
  | _, .own _ _, h, a => h a
  | _, .record _ shape _ parts, h, a =>
    decode_record_eq_ok.mpr
      ⟨shape.check_encode h.1 (parts a), parts a, shape.collect_encode h.1 (parts a), h.2 a⟩

/-- Every member that is written for a field can be read. -/
theorem Shape.check_encode : {τ : Type} → (shape : Shape τ) → shape.Lawful → ∀ t,
    ∀ m ∈ shape.encode t, shape.check m.1 m.2 = .ok ()
  | _, .done, _, _, _, h => nomatch h
  | _, .field name s absence rest, h, (a, as), m, hm => by
    obtain ⟨hs, hname, _, hlawful⟩ := h
    have hrest : m ∈ rest.encode as → (Shape.field name s absence rest).check m.1 m.2 = .ok () := by
      intro hm
      have hmem := Shape.mem_names_of_mem_encode hm
      have hne : m.1 ≠ name := fun heq => hname (heq ▸ hmem)
      rw [Shape.check, if_neg hne]
      exact rest.check_encode hlawful as m hm
    rw [Shape.encode] at hm
    split at hm
    · exact hrest hm
    · rcases List.mem_cons.mp hm with rfl | hm
      · rw [Shape.check, if_pos rfl, s.decode_encode hs a]
        rfl
      · exact hrest hm

/-- The fields that were written are found again. -/
theorem Shape.collect_encode : {τ : Type} → (shape : Shape τ) → shape.Lawful → ∀ t,
    shape.collect (shape.encode t) = .ok t
  | _, .done, _, _ => rfl
  | _, .field name s absence rest, h, (a, as) => by
    obtain ⟨hs, hname, habsence, hlawful⟩ := h
    have hrest := rest.collect_encode hlawful as
    rw [Shape.encode]
    split
    · rename_i homits
      have hmissing : Members.get? (rest.encode as) name = none := by
        refine Members.get?_eq_none fun m hm => ?_
        rintro rfl
        exact hname (Shape.mem_names_of_mem_encode hm)
      refine collect_field.mpr ⟨?_, hrest⟩
      rw [hmissing]
      exact habsence a homits
    · refine collect_field.mpr ⟨?_, ?_⟩
      · rw [Members.get?_cons, if_pos rfl]
        exact s.decode_encode hs a
      · rw [← hrest]
        refine Shape.collect_congr fun other hother => ?_
        have hne : other ≠ name := by
          rintro rfl
          exact hname hother
        rw [Members.get?_cons, if_neg hne]

end

/-! ## Other spellings of a value -/

namespace Json

/-- A member with another name than these is put into an object. -/
inductive AddsMember (names : List String) : Json → Json → Prop
  | mk (front back : Members) {name : String} (value : Json) (h : name ∉ names) :
      AddsMember names (.obj (front ++ back)) (.obj (front ++ (name, value) :: back))

/-- Two members with different names change places. -/
inductive SwapsMembers : Json → Json → Prop
  | mk (front back : Members) {m n : String × Json} (h : m.1 ≠ n.1) :
      SwapsMembers (.obj (front ++ m :: n :: back)) (.obj (front ++ n :: m :: back))

/-- The value of a member is replaced as its name allows. -/
inductive ChangesMember (change : String → Json → Json → Prop) : Json → Json → Prop
  | mk (front back : Members) {name : String} {v w : Json} (h : change name v w) :
      ChangesMember change (.obj (front ++ (name, v) :: back)) (.obj (front ++ (name, w) :: back))

/-- An item of a list is replaced. -/
inductive ChangesItem (change : Json → Json → Prop) : Json → Json → Prop
  | mk (front back : List Json) {x y : Json} (h : change x y) :
      ChangesItem change (.arr (front ++ x :: back)) (.arr (front ++ y :: back))

end Json

mutual

/-- One step to another spelling of a value: in one object that a record is read from, at the top
or inside, a member is added that is no field of the record, or two members change places. -/
def Schema.Respells : {α : Type} → Schema α → Json → Json → Prop
  | _, .option s, j, j' => s.Respells j j'
  | _, .list s, j, j' => ChangesItem s.Respells j j'
  | _, .record _ shape _ _, j, j' =>
    AddsMember shape.names j j' ∨ SwapsMembers j j' ∨ ChangesMember shape.Respells j j'
  | _, _, _, _ => False

/-- The same for the value of a member, whichever fields have its name. -/
def Shape.Respells : {τ : Type} → Shape τ → String → Json → Json → Prop
  | _, .done, _, _, _ => True
  | _, .field n s _ rest, name, v, w => (name = n → s.Respells v w) ∧ rest.Respells name v w

end

/-- A field with this name that can be read from one value is read from the other as the same. -/
def Shape.Keeps : {τ : Type} → Shape τ → String → Json → Json → Prop
  | _, .done, _, _, _ => True
  | _, .field n s _ rest, name, v, w =>
    (name = n → ∀ a, s.decode v = .ok a → s.decode w = .ok a) ∧ rest.Keeps name v w

namespace Shape

theorem check_of_keeps {name : String} {v w : Json} :
    ∀ {τ : Type} {shape : Shape τ}, shape.Keeps name v w → shape.check name v = .ok () →
      shape.check name w = .ok ()
  | _, .done, _, _ => rfl
  | _, .field n s _ rest, hkeeps, h => by
    obtain ⟨hhere, hrest⟩ := hkeeps
    rw [Shape.check] at h ⊢
    split
    · rename_i hname
      rw [if_pos hname] at h
      cases hv : s.decode v with
      | error e => rw [hv] at h; exact nomatch h
      | ok a => rw [hhere hname a hv]; rfl
    · rename_i hname
      rw [if_neg hname] at h
      exact check_of_keeps hrest h

theorem collect_of_keeps {front back : Members} {name : String} {v w : Json} :
    ∀ {τ : Type} {shape : Shape τ} {t : τ}, shape.Keeps name v w →
      shape.collect (front ++ (name, v) :: back) = .ok t →
      shape.collect (front ++ (name, w) :: back) = .ok t
  | _, .done, _, _, h => h
  | _, .field n s absence rest, (a, as), hkeeps, h => by
    obtain ⟨hhere, hrest⟩ := hkeeps
    obtain ⟨ha, has⟩ := collect_field.mp h
    refine collect_field.mpr ⟨?_, collect_of_keeps hrest has⟩
    rw [Members.get?_append, Members.get?_cons] at ha ⊢
    cases hfront : front.get? n with
    | some u =>
        -- an earlier member with the name hides this one
        rw [hfront] at ha
        exact ha
    | none =>
        rw [hfront, Option.none_or] at ha
        rw [Option.none_or]
        by_cases hname : n = name
        · rw [if_pos hname] at ha ⊢
          exact hhere hname.symm a ha
        · rw [if_neg hname] at ha ⊢
          exact ha

end Shape

section

variable {α τ : Type} {label : String} {shape : Shape τ} {make : τ → α} {parts : α → τ}
  {j j' : Json} {r : α}

theorem decode_of_addsMember (h : AddsMember shape.names j j')
    (hj : (Schema.record label shape make parts).decode j = .ok r) :
    (Schema.record label shape make parts).decode j' = .ok r := by
  obtain ⟨front, back, value, hname⟩ := h
  obtain ⟨hcheck, t, ht, hmake⟩ := decode_record_eq_ok.mp hj
  refine decode_record_eq_ok.mpr ⟨fun m hm => ?_, t, ?_, hmake⟩
  · rcases List.mem_append.mp hm with hm | hm
    · exact hcheck m (List.mem_append_left _ hm)
    · rcases List.mem_cons.mp hm with rfl | hm
      · exact Shape.check_of_notMem hname
      · exact hcheck m (List.mem_append_right _ hm)
  · rw [← ht]
    refine Shape.collect_congr fun field hfield => ?_
    rw [Members.get?_append, Members.get?_append, Members.get?_cons, if_neg]
    rintro rfl
    exact hname hfield

theorem decode_of_swapsMembers (h : SwapsMembers j j')
    (hj : (Schema.record label shape make parts).decode j = .ok r) :
    (Schema.record label shape make parts).decode j' = .ok r := by
  obtain @⟨front, back, ⟨k, v⟩, ⟨l, w⟩, hnames⟩ := h
  obtain ⟨hcheck, t, ht, hmake⟩ := decode_record_eq_ok.mp hj
  have hperm : (front ++ (l, w) :: (k, v) :: back).Perm (front ++ (k, v) :: (l, w) :: back) :=
    (List.Perm.swap _ _ back).append_left front
  refine decode_record_eq_ok.mpr ⟨fun m hm => hcheck m (hperm.subset hm), t, ?_, hmake⟩
  rw [← ht]
  refine Shape.collect_congr fun field _ => ?_
  simp only [Members.get?_append, Members.get?_cons]
  by_cases hk : field = k
  · rw [if_neg (hk ▸ hnames), if_pos hk, if_pos hk]
  · rw [if_neg hk, if_neg hk]

theorem decode_of_changesMember (h : ChangesMember shape.Keeps j j')
    (hj : (Schema.record label shape make parts).decode j = .ok r) :
    (Schema.record label shape make parts).decode j' = .ok r := by
  obtain ⟨front, back, hkeeps⟩ := h
  obtain ⟨hcheck, t, ht, hmake⟩ := decode_record_eq_ok.mp hj
  refine decode_record_eq_ok.mpr
    ⟨fun m hm => ?_, t, Shape.collect_of_keeps hkeeps ht, hmake⟩
  rcases List.mem_append.mp hm with hm | hm
  · exact hcheck m (List.mem_append_left _ hm)
  · rcases List.mem_cons.mp hm with rfl | hm
    · exact Shape.check_of_keeps hkeeps
        (hcheck _ (List.mem_append_right _ List.mem_cons_self))
    · exact hcheck m (List.mem_append_right _ (List.mem_cons_of_mem _ hm))

end

theorem decode_of_changesItem {α : Type} {s : Schema α} {change : Json → Json → Prop}
    (hchange : ∀ x y a, change x y → s.decode x = .ok a → s.decode y = .ok a) {j j' : Json}
    {as : List α} (h : ChangesItem change j j') (hj : (Schema.list s).decode j = .ok as) :
    (Schema.list s).decode j' = .ok as := by
  obtain ⟨front, back, hxy⟩ := h
  obtain ⟨_, harr, hall⟩ := decode_list_eq_ok.mp hj
  obtain rfl := Json.arr.inj harr
  refine decode_list_eq_ok.mpr ⟨_, rfl, ?_⟩
  clear harr hj
  induction front generalizing as with
  | nil =>
      obtain ⟨a, as, ha, has, rfl⟩ := List.forall₂_cons_left_iff.mp hall
      exact .cons (hchange _ _ a hxy ha) has
  | cons z front ih =>
      obtain ⟨a, as, ha, has, rfl⟩ := List.forall₂_cons_left_iff.mp hall
      exact .cons ha (ih has)

theorem Json.ChangesMember.mono {change change' : String → Json → Json → Prop} {j j' : Json}
    (h : ChangesMember change j j') (hchange : ∀ name v w, change name v w → change' name v w) :
    ChangesMember change' j j' := by
  obtain ⟨front, back, hvw⟩ := h
  exact .mk front back (hchange _ _ _ hvw)

theorem map_eq_ok {α β ε : Type} {x : Except ε α} {f : α → β} {b : β} :
    x.map f = .ok b ↔ ∃ a, x = .ok a ∧ f a = b := by
  cases x with
  | error e => simp [Except.map]
  | ok a => simp [Except.map]

/-- Only lists and objects have other spellings. -/
theorem ne_null_of_respells : ∀ {α : Type} {s : Schema α} {j j' : Json}, s.Respells j j' →
    j ≠ .null ∧ j' ≠ .null
  | _, .option s, _, _, h => ne_null_of_respells (s := s) h
  | _, .list _, _, _, h => by
    obtain ⟨_, _, _⟩ := h
    exact ⟨nofun, nofun⟩
  | _, .record _ _ _ _, _, _, h => by
    rcases h with ⟨_, _, _, _⟩ | ⟨_, _, _⟩ | ⟨_, _, _⟩ <;> exact ⟨nofun, nofun⟩

mutual

/-- **A step to another spelling does not change what a value is read as.** -/
theorem Schema.decode_respells : {α : Type} → (s : Schema α) → ∀ {j j' : Json} {a : α},
    s.Respells j j' → s.decode j = .ok a → s.decode j' = .ok a
  | _, .option s, j, j', a, h, hj => by
    obtain ⟨hnull, hnull'⟩ := ne_null_of_respells h
    rw [decode_option_of_ne_null hnull, map_eq_ok] at hj
    obtain ⟨b, hb, hab⟩ := hj
    rw [decode_option_of_ne_null hnull', map_eq_ok]
    exact ⟨b, s.decode_respells h hb, hab⟩
  | _, .list s, _, _, _, h, hj =>
    decode_of_changesItem (fun _ _ _ hxy hx => s.decode_respells hxy hx) h hj
  | _, .record _ shape _ _, _, _, _, h, hj => by
    rcases h with h | h | h
    · exact decode_of_addsMember h hj
    · exact decode_of_swapsMembers h hj
    · exact decode_of_changesMember (h.mono fun _ _ _ => shape.keeps_of_respells) hj
  | _, .unit, _, _, _, h, _ => nomatch h
  | _, .bool, _, _, _, h, _ => nomatch h
  | _, .string, _, _, _, h, _ => nomatch h
  | _, .uint16, _, _, _, h, _ => nomatch h
  | _, .uint32, _, _, _, h, _ => nomatch h
  | _, .any, _, _, _, h, _ => nomatch h
  | _, .pair _ _, _, _, _, h, _ => nomatch h
  | _, .variant _ _, _, _, _, h, _ => nomatch h
  | _, .own _ _, _, _, _, h, _ => nomatch h

theorem Shape.keeps_of_respells : {τ : Type} → (shape : Shape τ) → ∀ {name : String} {v w : Json},
    shape.Respells name v w → shape.Keeps name v w
  | _, .done, _, _, _, _ => trivial
  | _, .field _ s _ rest, _, _, _, h =>
    ⟨fun hname _ hv => s.decode_respells (h.1 hname) hv, rest.keeps_of_respells h.2⟩

end

/-- Values survive being written and read, and do not depend on how they are spelled. -/
structure Schema.Faithful {α : Type} (s : Schema α) : Prop where
  /-- Every value is read from what is written for it. -/
  read_written : ∀ a, s.decode (s.encode a) = .ok a
  /-- Every other spelling of what is read as a value is read as this value. -/
  read_respelled : ∀ j j' a, Relation.ReflTransGen s.Respells j j' → s.decode j = .ok a →
    s.decode j' = .ok a

theorem Schema.Lawful.faithful {α : Type} {s : Schema α} (h : s.Lawful) : s.Faithful where
  read_written := s.decode_encode h
  read_respelled j j' a hspell hj := by
    induction hspell with
    | refl => exact hj
    | tail _ hstep ih => exact s.decode_respells hstep ih

end TagCache
