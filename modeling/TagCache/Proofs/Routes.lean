import Mathlib.Data.List.Infix
import Mathlib.Logic.Function.Iterate
import TagCache.Url.Parser

/-!
# Where references lead

Segments with dots in them lead some levels up and from there down, wherever they begin: what goes
down and up again cancels. So a list of segments has a trail, which no longer mentions dots, and
the place it leads to is known from the trail and the place it begins at. A place lies below another
if and only if its text begins with the text of the other as a directory.

A reference that names neither scheme nor host begins at the root or at the base. It comes back
below the base if it goes down again through every level that it has left.
-/

namespace TagCache

/-! ## Going up and following -/

namespace Path

theorem up_append {ss ts : List (List Char)} (h : ts ≠ []) : up (ss ++ ts) = ss ++ up ts := by
  obtain ⟨init, last, rfl⟩ := (List.eq_nil_or_concat' ts).resolve_left h
  unfold up
  rw [← List.append_assoc, List.getLast?_concat, List.getLast?_concat]
  dsimp only
  split
  · exact List.append_assoc ..
  · rw [List.dropLast_concat, List.dropLast_concat]

theorem up_isPrefix (ss : List (List Char)) : up ss <+: ss := by
  unfold up
  split
  · split
    · exact List.prefix_rfl
    · exact List.dropLast_prefix ss
  · exact List.nil_prefix

theorem iterate_up_isPrefix (n : Nat) (ss : List (List Char)) : up^[n] ss <+: ss := by
  induction n with
  | zero => exact List.prefix_rfl
  | succ n ih =>
      rw [Function.iterate_succ_apply']
      exact (up_isPrefix _).trans ih

section

variable {α β : Type} {above : α → α} {below : α → List Char → α} {above' : β → β}
  {below' : β → List Char → β} {segments : List (List Char)}

/-- A step of a way through a segment that is not the last. -/
def pass (above : α → α) (below : α → List Char → α) (a : α) (s : List Char) : α :=
  if isDoubleDot s then above a else if isSingleDot s then a else below a s

/-- The last step of a way, which always goes down. -/
def land (above : α → α) (below : α → List Char → α) (a : α) (s : List Char) : α :=
  if isDoubleDot s then below (above a) [] else if isSingleDot s then below a [] else below a s

/-- A way passes through all segments but the last. -/
theorem follow_concat (a : α) (init : List (List Char)) (last : List Char) :
    follow above below a (init ++ [last]) =
      land above below (init.foldl (pass above below) a) last := by
  induction init generalizing a with
  | nil => rfl
  | cons s init ih =>
      have hmore : init ++ [last] ≠ [] := List.append_ne_nil_of_right_ne_nil _ (by simp)
      obtain ⟨t, rest, hrest⟩ := List.exists_cons_of_ne_nil hmore
      rw [List.cons_append, List.foldl_cons, ← ih, hrest]
      -- something is left behind `s`, so it is not read as the last segment
      simp only [follow, pass]
      split_ifs <;> rfl

/-- A view of places that goes along with every step goes along with the whole way. -/
theorem follow_hom {f : α → β} (habove : ∀ a, f (above a) = above' (f a))
    (hbelow : ∀ a s, f (below a s) = below' (f a) s) (segments : List (List Char)) (a : α) :
    f (follow above below a segments) = follow above' below' (f a) segments := by
  have hpass : ∀ a s, pass above' below' (f a) s = f (pass above below a s) := by
    intro a s
    unfold pass
    split_ifs <;> simp only [habove, hbelow]
  have hland : ∀ a s, f (land above below a s) = land above' below' (f a) s := by
    intro a s
    unfold land
    split_ifs <;> simp only [habove, hbelow]
  obtain rfl | ⟨init, last, rfl⟩ := List.eq_nil_or_concat' segments
  · rfl
  · rw [follow_concat, follow_concat, hland, List.foldl_hom f hpass]

/-- What every step keeps is kept on the whole way. -/
theorem follow_keeps {I : α → Prop} {P : List Char → Prop} (habove : ∀ a, I a → I (above a))
    (hbelow : ∀ a s, I a → P s → I (below a s)) (hempty : P []) (hsegments : ∀ s ∈ segments, P s)
    {a : α} (ha : I a) : I (follow above below a segments) := by
  obtain rfl | ⟨init, last, rfl⟩ := List.eq_nil_or_concat' segments
  · exact ha
  · rw [follow_concat]
    have hinit : I (init.foldl (pass above below) a) := by
      refine List.foldlRecOn init _ ha fun b hb s hs => ?_
      unfold pass
      split_ifs
      · exact habove b hb
      · exact hb
      · exact hbelow b s hb (hsegments s (List.mem_append_left _ hs))
    unfold land
    split_ifs
    · exact hbelow _ _ (habove _ hinit) hempty
    · exact hbelow _ _ hinit hempty
    · exact hbelow _ _ hinit (hsegments last List.mem_concat_self)

/-- The last step of a way goes down. -/
theorem follow_ends {I : α → Prop} (hbelow : ∀ a s, I (below a s)) (h : segments ≠ []) (a : α) :
    I (follow above below a segments) := by
  obtain ⟨init, last, rfl⟩ := (List.eq_nil_or_concat' segments).resolve_left h
  rw [follow_concat]
  unfold land
  split_ifs <;> exact hbelow _ _

/-- A way without double dots never goes up. -/
theorem follow_level {above₂ : α → α} (h : ∀ s ∈ segments, isDoubleDot s = false) {a : α} :
    follow above below a segments = follow above₂ below a segments := by
  obtain rfl | ⟨init, last, rfl⟩ := List.eq_nil_or_concat' segments
  · rfl
  · have hlast := h last List.mem_concat_self
    have hinit : init.foldl (pass above below) a = init.foldl (pass above₂ below) a :=
      List.foldl_ext _ _ a fun b s hs => by
        simp [pass, h s (List.mem_append_left _ hs)]
    rw [follow_concat, follow_concat, hinit]
    simp [land, hlast]

end

end Path

/-! ## Trails -/

/-- A way without dots: so many levels up, and from there down through some segments. -/
structure Trail where
  climbs : Nat
  down : List (List Char)
  deriving DecidableEq, Repr

namespace Trail

/-- One level up. The segment that was gone down last is left again, if there is one. -/
def above (t : Trail) : Trail :=
  if t.down = [] then { t with climbs := t.climbs + 1 } else { t with down := Path.up t.down }

/-- Down through a segment. -/
def below (t : Trail) (segment : List Char) : Trail := { t with down := t.down ++ [segment] }

/-- The trail of a list of segments. -/
def ofSegments (segments : List (List Char)) : Trail := Path.follow above below ⟨0, []⟩ segments

/-- The highest place on the way from a place. -/
def top (t : Trail) (place : List (List Char)) : List (List Char) := Path.up^[t.climbs] place

/-- The place that is led to from a place. -/
def lead (t : Trail) (place : List (List Char)) : List (List Char) := t.top place ++ t.down

theorem lead_above (t : Trail) (place : List (List Char)) :
    t.above.lead place = Path.up (t.lead place) := by
  unfold above
  split
  · rename_i hdown
    rw [lead, lead, top, top, hdown, List.append_nil, List.append_nil,
      Function.iterate_succ_apply']
  · rename_i hdown
    exact (Path.up_append hdown).symm

theorem lead_below (t : Trail) (segment : List Char) (place : List (List Char)) :
    (t.below segment).lead place = t.lead place ++ [segment] :=
  (List.append_assoc ..).symm

/-- **Segments lead where their trail leads.** -/
theorem extend_eq_lead (place segments : List (List Char)) :
    Path.extend place segments = (ofSegments segments).lead place := by
  have hview : (ofSegments segments).lead place =
      Path.follow Path.up (fun ss s => ss ++ [s]) ((⟨0, []⟩ : Trail).lead place) segments :=
    Path.follow_hom (f := fun t : Trail => t.lead place) (fun t => lead_above t place)
      (fun t s => lead_below t s place) segments ⟨0, []⟩
  have hstart : (⟨0, []⟩ : Trail).lead place = place := List.append_nil place
  rw [hview, hstart]
  rfl

theorem down_ne_nil {segments : List (List Char)} (h : segments ≠ []) :
    (ofSegments segments).down ≠ [] :=
  Path.follow_ends (I := fun t : Trail => t.down ≠ [])
    (fun t _ => List.append_ne_nil_of_right_ne_nil t.down (List.cons_ne_nil _ _)) h ⟨0, []⟩

/-- Without double dots no level is left. -/
theorem climbs_eq_zero {segments : List (List Char)}
    (h : ∀ s ∈ segments, Path.isDoubleDot s = false) : (ofSegments segments).climbs = 0 := by
  have hlevel : ofSegments segments = Path.follow id below ⟨0, []⟩ segments :=
    Path.follow_level h
  rw [hlevel]
  refine Path.follow_keeps (I := fun t : Trail => t.climbs = 0) (P := fun _ => True) ?_ ?_ trivial
    (fun _ _ => trivial) rfl
  · exact fun _ ht => ht
  · exact fun _ _ ht _ => ht

theorem top_isPrefix (t : Trail) (place : List (List Char)) : t.top place <+: place :=
  Path.iterate_up_isPrefix _ _

end Trail

/-! ## The texts of places -/

namespace Path

/-- No segment has a slash in it. -/
def Clear (segments : List (List Char)) : Prop := ∀ s ∈ segments, '/' ∉ s

theorem Clear.of_isPrefix {ss ts : List (List Char)} (h : Clear ts) (hstarts : ss <+: ts) :
    Clear ss := fun s hs => h s (hstarts.subset hs)

theorem Clear.append {ss ts : List (List Char)} (hs : Clear ss) (ht : Clear ts) :
    Clear (ss ++ ts) := fun s h => (List.mem_append.mp h).elim (hs s) (ht s)

theorem Clear.singleton {s : List Char} (h : '/' ∉ s) : Clear [s] := by
  intro t ht
  rwa [List.mem_singleton.mp ht]

/-- A segment ends at the first slash. -/
theorem takeWhile_segment {s rest : List Char} (hs : '/' ∉ s) (hrest : ∀ c ∈ rest.head?, c = '/') :
    (s ++ rest).takeWhile (· ≠ '/') = s := by
  have hall : ∀ c ∈ s, decide (c ≠ '/') = true := fun c hc =>
    decide_eq_true fun hslash => hs (hslash ▸ hc)
  rw [List.takeWhile_append_of_pos hall]
  cases rest with
  | nil => exact List.append_nil s
  | cons c cs => rw [hrest c rfl, List.takeWhile_cons_of_neg (by simp), List.append_nil]

theorem segment_cancel {s t rest rest' : List Char} (hs : '/' ∉ s) (ht : '/' ∉ t)
    (hrest : ∀ c ∈ rest.head?, c = '/') (hrest' : ∀ c ∈ rest'.head?, c = '/')
    (h : s ++ rest = t ++ rest') : s = t ∧ rest = rest' := by
  have hst : s = t := by
    rw [← takeWhile_segment hs hrest, h, takeWhile_segment ht hrest']
  subst hst
  exact ⟨rfl, List.append_cancel_left h⟩

theorem head?_segmentChars {ss : List (List Char)} {c : Char} (h : c ∈ (segmentChars ss).head?) :
    c = '/' := by
  cases ss with
  | nil => exact absurd h (by simp [segmentChars])
  | cons s ss => exact (Option.some.inj h).symm

/-- The text of a place begins with that of another as a directory if the place lies below. -/
theorem directory_prefix_iff {place target : List (List Char)} (hplace : Clear place)
    (htarget : Clear target) :
    segmentChars (place ++ [[]]) <+: segmentChars target ↔ place <+: target ∧ place ≠ target := by
  constructor
  · intro h
    induction place generalizing target with
    | nil =>
        refine ⟨List.nil_prefix, ?_⟩
        rintro rfl
        exact absurd (List.prefix_nil.mp h) (by simp [segmentChars])
    | cons s place ih =>
        cases target with
        | nil => exact absurd (List.prefix_nil.mp h) (by simp [segmentChars])
        | cons t target =>
            obtain ⟨tail, htail⟩ := h
            have hsame :
                s ++ (segmentChars (place ++ [[]]) ++ tail) = t ++ segmentChars target := by
              rw [← List.append_assoc]
              exact (List.cons.inj htail).2
            have hhead : ∀ c ∈ (segmentChars (place ++ [[]]) ++ tail).head?, c = '/' := by
              intro c hc
              cases place <;> exact (Option.some.inj hc).symm
            obtain ⟨rfl, hrest⟩ := segment_cancel (hplace s List.mem_cons_self)
              (htarget t List.mem_cons_self) hhead (fun _ => head?_segmentChars) hsame
            obtain ⟨hstarts, hne⟩ := ih (fun u hu => hplace u (List.mem_cons_of_mem _ hu))
              (fun u hu => htarget u (List.mem_cons_of_mem _ hu)) ⟨tail, hrest⟩
            exact ⟨List.cons_prefix_cons.mpr ⟨rfl, hstarts⟩, fun h => hne (List.cons.inj h).2⟩
  · rintro ⟨⟨rest, rfl⟩, hne⟩
    cases rest with
    | nil => exact absurd (List.append_nil place).symm hne
    | cons s rest =>
        rw [segmentChars_append, segmentChars_append, List.prefix_append_right_inj]
        exact ⟨s ++ segmentChars rest, rfl⟩

end Path

/-- The parts between separators hold none. -/
theorem pieces_clean {α : Type} {sep : α → Bool} {xs : List α} :
    ∀ part ∈ pieces sep xs, ∀ x ∈ part, sep x = false := by
  induction xs with
  | nil => simp [pieces]
  | cons x xs ih =>
      unfold pieces
      split
      · simpa using ih
      · rename_i hx
        split
        · rename_i part parts heq
          rw [heq] at ih
          simp only [List.mem_cons, forall_eq_or_imp] at ih ⊢
          exact ⟨⟨by simpa using hx, ih.1⟩, ih.2⟩
        · simpa using hx

theorem slash_notMem_encode {set : Char → Bool} {cs : List Char} (h : '/' ∉ cs) :
    '/' ∉ Percent.encode set cs := by
  have hdigit : ∀ n, n < 16 → '/' ≠ Percent.hexDigit n := by decide
  intro hmem
  obtain ⟨c, hc, hslash⟩ := List.mem_flatMap.mp hmem
  unfold Percent.encodeChar at hslash
  split at hslash
  · obtain ⟨b, _, hb⟩ := List.mem_flatMap.mp hslash
    have hlow := hdigit (b.toNat % 16) (Nat.mod_lt _ (by decide))
    have hhigh := hdigit (b.toNat / 16) (Nat.div_lt_of_lt_mul b.toNat_lt)
    simp [Percent.encodeByte, hlow, hhigh] at hb
  · exact h (List.mem_singleton.mp hslash ▸ hc)

theorem Url.clear_readSegments (scheme : Scheme) (cs : List Char) :
    Path.Clear (Url.readSegments scheme cs) := by
  intro s hs
  obtain ⟨part, hpart, rfl⟩ := List.mem_map.mp hs
  refine slash_notMem_encode fun hslash => ?_
  have hclean := pieces_clean part hpart '/' hslash
  simp [Scheme.isSlash] at hclean

theorem Url.readSegments_ne_nil (scheme : Scheme) (cs : List Char) :
    Url.readSegments scheme cs ≠ [] := by
  unfold Url.readSegments
  simpa using pieces_ne_nil cs

/-! ## References -/

theorem Trail.clear_down {segments : List (List Char)} (h : Path.Clear segments) :
    Path.Clear (Trail.ofSegments segments).down := by
  refine Path.follow_keeps (I := fun t : Trail => Path.Clear t.down) ?_ ?_ List.not_mem_nil h ?_
  · intro t ht
    unfold above
    split
    · exact ht
    · exact ht.of_isPrefix (Path.up_isPrefix _)
  · exact fun t s ht hs => ht.append (.singleton hs)
  · exact fun _ hs => absurd hs List.not_mem_nil

/-- A reference to a place on the host of a base, read into segments. -/
structure Reference where
  /-- Whether it begins at the root, and not at the base. -/
  rooted : Bool
  segments : List (List Char)
  clear : Path.Clear segments
  nonempty : segments ≠ []
  deriving DecidableEq

namespace Reference

/-- The reference with the text of a path. -/
def ofPath (scheme : Scheme) (rooted : Bool) (path : List Char) : Reference :=
  ⟨rooted, Url.readSegments scheme path, Url.clear_readSegments scheme path,
    Url.readSegments_ne_nil scheme path⟩

/-- The reference without a scheme that a text stands for, unless it names a host. -/
def ofText (scheme : Scheme) (cs : List Char) : Option Reference :=
  match (cs.takeWhile scheme.isSlash).length with
  | 0 => some (ofPath scheme false (cs.takeWhile (!Url.endsPath ·)))
  | 1 => some (ofPath scheme true ((cs.drop 1).takeWhile (!Url.endsPath ·)))
  | _ => none

/-- The reference that a text stands for next to a base with a scheme. A text that names another
scheme or a host is none. -/
def read? (scheme : Scheme) (cs : List Char) : Option Reference :=
  match Url.readScheme? (Url.trim cs) with
  | some (own, rest) => if own = scheme then ofText scheme (unbroken rest) else none
  | none => ofText scheme (unbroken (Url.trim cs))

/-- The way of a reference without its dots. -/
def trail (r : Reference) : Trail := .ofSegments r.segments

/-- Where a reference begins next to a place. -/
def start (r : Reference) (place : List (List Char)) : List (List Char) :=
  if r.rooted then [] else place

/-- The place that a reference leads to. -/
def lead (r : Reference) (place : List (List Char)) : List (List Char) :=
  r.trail.lead (r.start place)

/-- The lowest levels of a place, which a reference leaves. -/
def left (r : Reference) (place : List (List Char)) : List (List Char) :=
  place.drop (r.trail.top (r.start place)).length

/-- A reference goes down again through every level that it leaves, and further down. -/
def Returns (r : Reference) (place : List (List Char)) : Prop :=
  r.left place <+: r.trail.down ∧ r.left place ≠ r.trail.down

instance (r : Reference) (place : List (List Char)) : Decidable (r.Returns place) :=
  inferInstanceAs (Decidable (_ ∧ _))

/-- One slash begins the path at the root, and two begin a host. -/
theorem ofText_cases {scheme : Scheme} {cs : List Char} {r : Reference}
    (h : ofText scheme cs = some r) :
    ((cs.takeWhile scheme.isSlash).length = 0 ∧
      r = ofPath scheme false (cs.takeWhile (!Url.endsPath ·))) ∨
    ((cs.takeWhile scheme.isSlash).length = 1 ∧
      r = ofPath scheme true ((cs.drop 1).takeWhile (!Url.endsPath ·))) := by
  unfold ofText at h
  split at h
  · rename_i hslashes
    exact .inl ⟨hslashes, (Option.some.inj h).symm⟩
  · rename_i hslashes
    exact .inr ⟨hslashes, (Option.some.inj h).symm⟩
  · exact absurd h (by simp)

theorem ofText_eq_none {scheme : Scheme} {cs : List Char} (h : ofText scheme cs = none) :
    ∃ n, (cs.takeWhile scheme.isSlash).length = n + 2 := by
  rcases hslashes : (cs.takeWhile scheme.isSlash).length with _ | _ | n
  · exact absurd h (by simp [ofText, hslashes])
  · exact absurd h (by simp [ofText, hslashes])
  · exact ⟨n, rfl⟩

variable (r : Reference) {place : List (List Char)}

theorem top_start_isPrefix (place : List (List Char)) :
    r.trail.top (r.start place) <+: place := by
  refine (r.trail.top_isPrefix _).trans ?_
  unfold start
  split
  · exact List.nil_prefix
  · exact List.prefix_rfl

theorem top_append_left (place : List (List Char)) :
    r.trail.top (r.start place) ++ r.left place = place :=
  List.prefix_iff_eq_append.mp (r.top_start_isPrefix place)

/-- **A reference leads below a directory if and only if it returns.** -/
theorem below_iff_returns (hplace : Path.Clear place) :
    Path.segmentChars (place ++ [[]]) <+: Path.segmentChars (r.lead place) ↔ r.Returns place := by
  have hlead : Path.Clear (r.lead place) :=
    (hplace.of_isPrefix (r.top_start_isPrefix place)).append (Trail.clear_down r.clear)
  -- the place and where the reference leads to have the highest place on the way in common
  have hstarts : r.left place <+: r.trail.down ↔ place <+: r.lead place := by
    rw [← List.prefix_append_right_inj (r.trail.top (r.start place)), top_append_left]
    rfl
  have heq : r.left place = r.trail.down ↔ place = r.lead place := by
    rw [← List.append_right_inj (r.trail.top (r.start place)), top_append_left]
    rfl
  rw [Path.directory_prefix_iff hplace hlead]
  exact (and_congr hstarts (not_congr heq)).symm

variable {r}

/-- A reference that leaves nothing stays below. -/
theorem returns_of_left_eq_nil (hleft : r.left place = []) : r.Returns place := by
  rw [Returns, hleft]
  exact ⟨List.nil_prefix, (Trail.down_ne_nil r.nonempty).symm⟩

/-- Nothing is left of a place by a reference that begins there and has no double dot. -/
theorem left_of_level (hrooted : r.rooted = false)
    (hlevel : ∀ s ∈ r.segments, Path.isDoubleDot s = false) : r.left place = [] := by
  have hclimbs : r.trail.climbs = 0 := Trail.climbs_eq_zero hlevel
  simp [left, start, Trail.top, hrooted, hclimbs]

end Reference

/-! ### Names -/

/-- No character of a name has a meaning in a reference. -/
theorem plain_of_isAlphanum {c : Char} (h : c.isAlphanum = true) :
    ¬ c ≤ ' ' ∧ c ≠ ':' ∧ isBreak c = false ∧ ∀ scheme : Scheme, scheme.isSlash c = false := by
  have hrange : 48 ≤ c.toNat ∧ c.toNat ≠ 58 ∧ c.toNat ≠ 92 := by
    delta Char.isAlphanum Char.isAlpha Char.isUpper Char.isLower Char.isDigit at h
    simp [UInt32.le_iff_toNat_le] at h
    omega
  have hne : ∀ d : Char, d.toNat < 48 ∨ d.toNat = 58 ∨ d.toNat = 92 → c ≠ d := by
    rintro d hd rfl
    omega
  refine ⟨fun hle => ?_, hne ':' (by decide), ?_, fun scheme => ?_⟩
  · have hspace : c.toNat ≤ 32 := hle
    omega
  · simp [isBreak, hne]
  · simp [Scheme.isSlash, hne]

/-- What is trimmed off a text that begins with a name and a slash is behind the slash. -/
theorem Url.trim_of_name {name : List Char} (hname : ∀ c ∈ name, c.isAlphanum = true)
    (hne : name ≠ []) (rest : List Char) :
    ∃ rest', Url.trim (name ++ '/' :: rest) = name ++ '/' :: rest' := by
  obtain ⟨c, cs, rfl⟩ := List.exists_cons_of_ne_nil hne
  have hstart : ¬ (decide (c ≤ ' ')) = true := by
    simpa using (plain_of_isAlphanum (hname c List.mem_cons_self)).1
  have hback : (c :: cs ++ '/' :: rest).reverse =
      rest.reverse ++ '/' :: (c :: cs).reverse := by
    simp
  have hend : (rest.reverse ++ '/' :: (c :: cs).reverse).dropWhile (· ≤ ' ') =
      rest.reverse.dropWhile (· ≤ ' ') ++ '/' :: (c :: cs).reverse := by
    rw [List.dropWhile_append]
    split_ifs with hblank
    · rw [List.isEmpty_iff.mp hblank, List.dropWhile_cons_of_neg (by decide), List.nil_append]
    · rfl
  refine ⟨(rest.reverse.dropWhile (· ≤ ' ')).reverse, ?_⟩
  rw [Url.trim, Text.trimChars, List.cons_append,
    List.dropWhile_cons_of_neg (p := (· ≤ ' ')) hstart, ← List.cons_append, hback, hend]
  simp

/-- A text that begins with a name and a slash is a reference from the base. -/
theorem Reference.read?_of_name (scheme : Scheme) {name : List Char}
    (hname : ∀ c ∈ name, c.isAlphanum = true) (hne : name ≠ []) (rest : List Char) :
    ∃ r, Reference.read? scheme (name ++ '/' :: rest) = some r ∧ r.rooted = false := by
  obtain ⟨rest', htrim⟩ := Url.trim_of_name hname hne rest
  have hnobreak : unbroken (name ++ '/' :: rest') = name ++ '/' :: unbroken rest' := by
    have hall : name.filter (!isBreak ·) = name :=
      List.filter_eq_self.mpr fun c hc => by simp [(plain_of_isAlphanum (hname c hc)).2.2.1]
    rw [unbroken, List.filter_append, hall]
    rfl
  -- the slash stands before the first colon, and no scheme has one in it
  have hscheme : Url.readScheme? (name ++ '/' :: rest') = none := by
    have hslash : '/' ∈ unbroken ((name ++ '/' :: rest').takeWhile (· ≠ ':')) := by
      have hall : ∀ c ∈ name, decide (c ≠ ':') = true := fun c hc =>
        decide_eq_true (plain_of_isAlphanum (hname c hc)).2.1
      rw [List.takeWhile_append_of_pos hall, List.takeWhile_cons_of_pos (by decide)]
      exact List.mem_filter.mpr ⟨List.mem_append_right _ List.mem_cons_self, by decide⟩
    have hno : (unbroken ((name ++ '/' :: rest').takeWhile (· ≠ ':'))).all Url.isSchemeChar =
        false := List.all_eq_false.mpr ⟨'/', hslash, by decide⟩
    unfold Url.readScheme?
    split
    · dsimp only
      rw [hno, Bool.and_false]
      rfl
    · rfl
  have htext : Reference.read? scheme (name ++ '/' :: rest) =
      Reference.ofText scheme (name ++ '/' :: unbroken rest') := by
    simp only [Reference.read?, htrim, hscheme, hnobreak]
  obtain ⟨c, cs, rfl⟩ := List.exists_cons_of_ne_nil hne
  have hslash : ¬ scheme.isSlash c = true := by
    simp [(plain_of_isAlphanum (hname c List.mem_cons_self)).2.2.2 scheme]
  rw [htext, Reference.ofText, List.cons_append, List.takeWhile_cons_of_neg hslash]
  exact ⟨_, rfl, rfl⟩

end TagCache
