import TagCache.Json.Text
import TagCache.Proofs.Places

/-!
# Values in a text

The text of a value whose numbers are integers can be told from what follows it: its first character
says what kind of value it is, a string ends at the first quote that is not escaped, a list or an
object at its closing bracket, and an integer where its digits end. Two texts that begin with
values therefore begin with the same value, and a value can be read off its text.

No escape begins another, so a string can be told from the characters between its quotes. An integer
does not end by itself, as `1` begins `12`. Inside a value it is followed by a comma or a closing
bracket, and what is said about a value at the front of a text asks that no digit follows.
-/

namespace TagCache.Json

/-! ## Escapes -/

/-- The characters that do not stand for themselves. -/
def specials : List Char := '"' :: '\\' :: (List.range 0x20).map Char.ofNat

theorem escapeChar_of_notMem {c : Char} (h : c ∉ specials) : escapeChar c = [c] := by
  unfold escapeChar
  split
  -- the seven with a short escape are special
  iterate 7 exact absurd (by decide) h
  refine if_neg fun hlt => h ?_
  have hmem : Char.ofNat c.toNat ∈ (List.range 0x20).map Char.ofNat :=
    List.mem_map_of_mem (List.mem_range.mpr hlt)
  rw [Char.ofNat_toNat] at hmem
  exact List.mem_cons_of_mem _ (List.mem_cons_of_mem _ hmem)

theorem head?_escapeChar {c : Char} (hc : c ∈ specials) : (escapeChar c).head? = some '\\' := by
  have hall : (specials.all fun c => (escapeChar c).head? == some '\\') = true := by
    decide +kernel
  exact beq_iff_eq.mp (List.all_eq_true.mp hall c hc)

/-- No escape of a special character begins another. -/
theorem special_prefixFree {c d : Char} (hc : c ∈ specials) (hd : d ∈ specials)
    (h : escapeChar c <+: escapeChar d) : c = d := by
  have hall : (specials.all fun c => specials.all fun d =>
      !(escapeChar c).isPrefixOf (escapeChar d) || c == d) = true := by
    decide +kernel
  have hpair := List.all_eq_true.mp (List.all_eq_true.mp hall c hc) d hd
  rw [List.isPrefixOf_iff_prefix.mpr h, Bool.not_true, Bool.false_or] at hpair
  exact beq_iff_eq.mp hpair

/-- An escape does not begin a character that stands for itself, nor the other way round. -/
theorem not_prefix_of_special {c d : Char} (hc : c ∉ specials) (hd : d ∈ specials) :
    ¬ escapeChar c <+: escapeChar d ∧ ¬ escapeChar d <+: escapeChar c := by
  have hne : c ≠ '\\' := fun h => hc (h ▸ by decide)
  obtain ⟨rest, hrest⟩ := List.head?_eq_some_iff.mp (head?_escapeChar hd)
  rw [escapeChar_of_notMem hc, hrest]
  exact ⟨fun h => hne (List.cons_prefix_cons.mp h).1,
    fun h => hne (List.cons_prefix_cons.mp h).1.symm⟩

/-- No escape begins another. -/
theorem escapeChar_prefixFree {c d : Char} (h : escapeChar c <+: escapeChar d) : c = d := by
  by_cases hc : c ∈ specials
  · by_cases hd : d ∈ specials
    · exact special_prefixFree hc hd h
    · exact absurd h (not_prefix_of_special hd hc).2
  · by_cases hd : d ∈ specials
    · exact absurd h (not_prefix_of_special hc hd).1
    · rw [escapeChar_of_notMem hc, escapeChar_of_notMem hd] at h
      exact (List.cons_prefix_cons.mp h).1

/-- An escaped character begins with a character, which is not the quote that ends a string. -/
theorem exists_cons_escapeChar (c : Char) : ∃ d ds, escapeChar c = d :: ds ∧ d ≠ '"' := by
  by_cases hc : c ∈ specials
  · obtain ⟨rest, hrest⟩ := List.head?_eq_some_iff.mp (head?_escapeChar hc)
    exact ⟨'\\', rest, hrest, by decide⟩
  · exact ⟨c, [], escapeChar_of_notMem hc, fun h => hc (h ▸ List.mem_cons_self)⟩

/-! ### Strings -/

/-- Two escaped strings with a quote behind them are the same only if the strings are, whatever
follows the quote. -/
theorem escape_cancel {cs ds r s : List Char}
    (h : cs.flatMap escapeChar ++ '"' :: r = ds.flatMap escapeChar ++ '"' :: s) :
    cs = ds ∧ r = s := by
  induction cs generalizing ds with
  | nil =>
      cases ds with
      | nil => exact ⟨rfl, (List.cons.inj h).2⟩
      | cons d ds =>
          obtain ⟨x, xs, hx, hne⟩ := exists_cons_escapeChar d
          rw [List.flatMap_cons, hx] at h
          exact absurd (List.cons.inj h).1.symm hne
  | cons c cs ih =>
      cases ds with
      | nil =>
          obtain ⟨x, xs, hx, hne⟩ := exists_cons_escapeChar c
          rw [List.flatMap_cons, hx] at h
          exact absurd (List.cons.inj h).1 hne
      | cons d ds =>
          rw [List.flatMap_cons, List.flatMap_cons, List.append_assoc, List.append_assoc] at h
          have hcd : c = d := by
            have hd : escapeChar d <+: escapeChar c ++ (cs.flatMap escapeChar ++ '"' :: r) :=
              h ▸ List.prefix_append ..
            rcases List.prefix_or_prefix_of_prefix (List.prefix_append ..) hd with hp | hp
            · exact escapeChar_prefixFree hp
            · exact (escapeChar_prefixFree hp).symm
          subst hcd
          obtain ⟨hcs, hr⟩ := ih (List.append_cancel_left h)
          exact ⟨by rw [hcs], hr⟩

/-- The text of a string ends where the string ends. -/
theorem stringChars_cancel {a b : String} {r s : List Char}
    (h : stringChars a ++ r = stringChars b ++ s) : a = b ∧ r = s := by
  unfold stringChars at h
  rw [List.cons_append, List.cons_append, List.append_assoc, List.append_assoc] at h
  obtain ⟨hbody, hrest⟩ := escape_cancel (List.cons.inj h).2
  exact ⟨String.toList_inj.mp hbody, hrest⟩

end TagCache.Json

namespace TagCache

open Decimal (digitChars)

/-! ## Integers -/

/-- The text does not begin with a digit. -/
def Text.Undigited (cs : List Char) : Prop := ∀ c ∈ cs.head?, ¬ c.isDigit = true

theorem Text.undigited_cons {c : Char} {cs : List Char} (h : ¬ c.isDigit = true) :
    Text.Undigited (c :: cs) := by
  intro d hd
  obtain rfl := Option.some.inj hd
  exact h

open Text (Undigited)

namespace Number

variable {r s : List Char}

theorem isDigit_of_mem {n : Nat} {c : Char} (h : c ∈ digitChars n) : c.isDigit = true :=
  Nat.isDigit_of_mem_toDigits (by decide) (by decide) h

theorem takeWhile_digits {n : Nat} (hr : Undigited r) :
    (digitChars n ++ r).takeWhile Char.isDigit = digitChars n := by
  rw [List.takeWhile_append_of_pos fun c hc => isDigit_of_mem hc]
  cases r with
  | nil => simp
  | cons c cs => rw [List.takeWhile_cons_of_neg (hr c rfl), List.append_nil]

/-- The digits of a number end where no digit follows. -/
theorem digitChars_cancel {m n : Nat} (hr : Undigited r) (hs : Undigited s)
    (h : digitChars m ++ r = digitChars n ++ s) : m = n ∧ r = s := by
  have hdigits : digitChars m = digitChars n := by
    rw [← takeWhile_digits hr, h, takeWhile_digits hs]
  refine ⟨?_, List.append_cancel_left (hdigits ▸ h)⟩
  unfold digitChars at hdigits
  rw [← @Nat.ofDigitChars_ten_toDigits m, hdigits, Nat.ofDigitChars_ten_toDigits]

/-- Digits and the text of a negative integer begin with different characters. -/
theorem digitChars_ne_minus {n : Nat} {cs : List Char} : digitChars n ++ r ≠ '-' :: cs := by
  intro h
  cases hdigits : digitChars n with
  | nil => exact absurd hdigits Nat.toDigits_ne_nil
  | cons d ds =>
      rw [hdigits] at h
      have hd : d.isDigit = true := isDigit_of_mem (hdigits ▸ List.mem_cons_self)
      rw [(List.cons.inj h).1] at hd
      exact absurd hd (by decide)

theorem intChars_cancel {m n : Int} (hr : Undigited r) (hs : Undigited s)
    (h : intChars m ++ r = intChars n ++ s) : m = n ∧ r = s := by
  unfold intChars at h
  split at h <;> split at h
  · obtain ⟨habs, hrest⟩ := digitChars_cancel hr hs (List.cons.inj h).2
    exact ⟨by omega, hrest⟩
  · exact absurd h.symm digitChars_ne_minus
  · exact absurd h digitChars_ne_minus
  · obtain ⟨habs, hrest⟩ := digitChars_cancel hr hs h
    exact ⟨by omega, hrest⟩

end Number

namespace Json

/-! ## Values with integers only -/

mutual

/-- Every number in the value is an integer. -/
def integral : Json → Bool
  | num (.float _ _) => false
  | arr xs => integralItems xs
  | obj ms => integralMembers ms
  | _ => true

def integralItems : List Json → Bool
  | [] => true
  | x :: xs => integral x && integralItems xs

def integralMembers : List (String × Json) → Bool
  | [] => true
  | (_, v) :: ms => integral v && integralMembers ms

end

/-! ## The first character -/

/-- What the first character of a text says about the value. -/
inductive Kind where
  | null
  | bool (value : Bool)
  | num
  | str
  | arr
  | obj

/-- The kind of a value. -/
def kind : Json → Kind
  | null => .null
  | bool b => .bool b
  | num _ => .num
  | str _ => .str
  | arr _ => .arr
  | obj _ => .obj

/-- The kind of the values whose text begins with a character. -/
def Kind.ofChar? (c : Char) : Option Kind :=
  if c.isDigit then some .num
  else match c with
    | '-' => some .num
    | 'n' => some .null
    | 't' => some (.bool true)
    | 'f' => some (.bool false)
    | '"' => some .str
    | '[' => some .arr
    | '\x7b' => some .obj
    | _ => none

theorem exists_cons_chars {a : Json} (ha : a.integral = true) :
    ∃ c cs, a.chars = c :: cs ∧ Kind.ofChar? c = some a.kind := by
  cases a with
  | null => exact ⟨_, _, rfl, rfl⟩
  | bool b => cases b <;> exact ⟨_, _, rfl, rfl⟩
  | str s => exact ⟨_, _, rfl, rfl⟩
  | arr xs => exact ⟨_, _, rfl, rfl⟩
  | obj ms => exact ⟨_, _, rfl, rfl⟩
  | num n =>
      cases n with
      | float _ _ => exact absurd ha (by simp [integral])
      | int n =>
          change ∃ c cs, Number.intChars n = c :: cs ∧ _
          unfold Number.intChars
          split
          · exact ⟨_, _, rfl, rfl⟩
          · cases hdigits : digitChars n.natAbs with
            | nil => exact absurd hdigits Nat.toDigits_ne_nil
            | cons d ds =>
                have hd : d.isDigit = true :=
                  Number.isDigit_of_mem (hdigits ▸ List.mem_cons_self)
                exact ⟨d, ds, rfl, if_pos hd⟩

section

variable {a b : Json} {r s : List Char}

theorem kind_eq (ha : a.integral = true) (hb : b.integral = true)
    (h : a.chars ++ r = b.chars ++ s) : a.kind = b.kind := by
  obtain ⟨c, cs, hac, hakind⟩ := exists_cons_chars ha
  obtain ⟨d, ds, hbd, hbkind⟩ := exists_cons_chars hb
  rw [hac, hbd] at h
  rw [(List.cons.inj h).1, hbkind] at hakind
  exact (Option.some.inj hakind).symm

/-- A value does not begin like a closing bracket. -/
theorem chars_ne_of_kind {c : Char} {cs : List Char} (hb : b.integral = true)
    (hc : Kind.ofChar? c = none) : c :: cs ≠ b.chars ++ s := by
  intro h
  obtain ⟨d, ds, hbd, hkind⟩ := exists_cons_chars hb
  rw [hbd] at h
  rw [← (List.cons.inj h).1, hc] at hkind
  exact absurd hkind (by simp)

theorem undigited_moreItemChars {xs : List Json} : Undigited (moreItemChars xs ++ r) := by
  cases xs <;> exact Text.undigited_cons (by decide)

theorem undigited_moreMemberChars {ms : Members} : Undigited (moreMemberChars ms ++ r) := by
  cases ms <;> exact Text.undigited_cons (by decide)

end

/-! ## Values at the front of a text -/

mutual

/-- **Texts that begin with a value begin with the same value**, and go on in the same way. -/
theorem chars_cancel : ∀ {a b : Json} {r s : List Char}, a.integral = true → b.integral = true →
    Undigited r → Undigited s → a.chars ++ r = b.chars ++ s → a = b ∧ r = s
  | null, b, r, s, ha, hb, _, _, h => by
    have hkind := kind_eq ha hb h
    cases b with
    | null => exact ⟨rfl, List.append_cancel_left h⟩
    | _ => exact absurd hkind (by simp [kind])
  | bool x, b, r, s, ha, hb, _, _, h => by
    have hkind := kind_eq ha hb h
    cases b with
    | bool y =>
        obtain rfl := Kind.bool.inj hkind
        exact ⟨rfl, List.append_cancel_left h⟩
    | _ => exact absurd hkind (by simp [kind])
  | num (.float _ _), b, r, s, ha, _, _, _, _ => absurd ha (by simp [integral])
  | num (.int m), b, r, s, ha, hb, hr, hs, h => by
    have hkind := kind_eq ha hb h
    cases b with
    | num n =>
        cases n with
        | float _ _ => exact absurd hb (by simp [integral])
        | int n =>
            obtain ⟨rfl, hrest⟩ := Number.intChars_cancel hr hs h
            exact ⟨rfl, hrest⟩
    | _ => exact absurd hkind (by simp [kind])
  | str x, b, r, s, ha, hb, _, _, h => by
    have hkind := kind_eq ha hb h
    cases b with
    | str y =>
        obtain ⟨rfl, hrest⟩ := stringChars_cancel h
        exact ⟨rfl, hrest⟩
    | _ => exact absurd hkind (by simp [kind])
  | arr xs, b, r, s, ha, hb, _, _, h => by
    have hkind := kind_eq ha hb h
    cases b with
    | arr ys =>
        obtain ⟨rfl, hrest⟩ := itemChars_cancel ha hb (List.cons.inj h).2
        exact ⟨rfl, hrest⟩
    | _ => exact absurd hkind (by simp [kind])
  | obj ms, b, r, s, ha, hb, _, _, h => by
    have hkind := kind_eq ha hb h
    cases b with
    | obj ns =>
        obtain ⟨rfl, hrest⟩ := memberChars_cancel ha hb (List.cons.inj h).2
        exact ⟨rfl, hrest⟩
    | _ => exact absurd hkind (by simp [kind])

theorem itemChars_cancel : ∀ {xs ys : List Json} {r s : List Char}, integralItems xs = true →
    integralItems ys = true → itemChars xs ++ r = itemChars ys ++ s → xs = ys ∧ r = s
  | [], [], _, _, _, _, h => ⟨rfl, (List.cons.inj h).2⟩
  | [], y :: ys, r, s, _, hys, h => by
    obtain ⟨hy, _⟩ := Bool.and_eq_true_iff.mp hys
    rw [itemChars, itemChars, List.append_assoc] at h
    exact absurd h (chars_ne_of_kind hy rfl)
  | x :: xs, [], r, s, hxs, _, h => by
    obtain ⟨hx, _⟩ := Bool.and_eq_true_iff.mp hxs
    rw [itemChars, itemChars, List.append_assoc] at h
    exact absurd h.symm (chars_ne_of_kind hx rfl)
  | x :: xs, y :: ys, r, s, hxs, hys, h => by
    obtain ⟨hx, hxs'⟩ := Bool.and_eq_true_iff.mp hxs
    obtain ⟨hy, hys'⟩ := Bool.and_eq_true_iff.mp hys
    rw [itemChars, itemChars, List.append_assoc, List.append_assoc] at h
    obtain ⟨rfl, hmore⟩ := chars_cancel hx hy undigited_moreItemChars undigited_moreItemChars h
    obtain ⟨rfl, hrest⟩ := moreItemChars_cancel hxs' hys' hmore
    exact ⟨rfl, hrest⟩

theorem moreItemChars_cancel : ∀ {xs ys : List Json} {r s : List Char}, integralItems xs = true →
    integralItems ys = true → moreItemChars xs ++ r = moreItemChars ys ++ s → xs = ys ∧ r = s
  | [], [], _, _, _, _, h => ⟨rfl, (List.cons.inj h).2⟩
  | [], _ :: _, _, _, _, _, h => absurd (List.cons.inj h).1 (by decide)
  | _ :: _, [], _, _, _, _, h => absurd (List.cons.inj h).1 (by decide)
  | x :: xs, y :: ys, r, s, hxs, hys, h => by
    obtain ⟨hx, hxs'⟩ := Bool.and_eq_true_iff.mp hxs
    obtain ⟨hy, hys'⟩ := Bool.and_eq_true_iff.mp hys
    rw [moreItemChars, moreItemChars] at h
    simp only [List.append_assoc, List.cons_append] at h
    obtain ⟨rfl, hmore⟩ := chars_cancel hx hy undigited_moreItemChars undigited_moreItemChars
      (List.cons.inj h).2
    obtain ⟨rfl, hrest⟩ := moreItemChars_cancel hxs' hys' hmore
    exact ⟨rfl, hrest⟩

theorem memberChars_cancel : ∀ {ms ns : Members} {r s : List Char}, integralMembers ms = true →
    integralMembers ns = true → memberChars ms ++ r = memberChars ns ++ s → ms = ns ∧ r = s
  | [], [], _, _, _, _, h => ⟨rfl, (List.cons.inj h).2⟩
  | [], _ :: _, _, _, _, _, h => absurd (List.cons.inj h).1 (by decide)
  | _ :: _, [], _, _, _, _, h => absurd (List.cons.inj h).1 (by decide)
  | (k, v) :: ms, (l, w) :: ns, r, s, hms, hns, h => by
    obtain ⟨hv, hms'⟩ := Bool.and_eq_true_iff.mp hms
    obtain ⟨hw, hns'⟩ := Bool.and_eq_true_iff.mp hns
    rw [memberChars, memberChars] at h
    simp only [List.append_assoc, List.cons_append] at h
    obtain ⟨rfl, htail⟩ := stringChars_cancel h
    obtain ⟨rfl, hmore⟩ := chars_cancel hv hw undigited_moreMemberChars undigited_moreMemberChars
      (List.cons.inj htail).2
    obtain ⟨rfl, hrest⟩ := moreMemberChars_cancel hms' hns' hmore
    exact ⟨rfl, hrest⟩

theorem moreMemberChars_cancel : ∀ {ms ns : Members} {r s : List Char},
    integralMembers ms = true → integralMembers ns = true →
    moreMemberChars ms ++ r = moreMemberChars ns ++ s → ms = ns ∧ r = s
  | [], [], _, _, _, _, h => ⟨rfl, (List.cons.inj h).2⟩
  | [], _ :: _, _, _, _, _, h => absurd (List.cons.inj h).1 (by decide)
  | _ :: _, [], _, _, _, _, h => absurd (List.cons.inj h).1 (by decide)
  | (k, v) :: ms, (l, w) :: ns, r, s, hms, hns, h => by
    obtain ⟨hv, hms'⟩ := Bool.and_eq_true_iff.mp hms
    obtain ⟨hw, hns'⟩ := Bool.and_eq_true_iff.mp hns
    rw [moreMemberChars, moreMemberChars] at h
    simp only [List.append_assoc, List.cons_append] at h
    obtain ⟨rfl, htail⟩ := stringChars_cancel (List.cons.inj h).2
    obtain ⟨rfl, hmore⟩ := chars_cancel hv hw undigited_moreMemberChars undigited_moreMemberChars
      (List.cons.inj htail).2
    obtain ⟨rfl, hrest⟩ := moreMemberChars_cancel hms' hns' hmore
    exact ⟨rfl, hrest⟩

end

/-- **A value whose numbers are integers can be read off its text.** -/
theorem text_injective {a b : Json} (ha : a.integral = true) (hb : b.integral = true)
    (h : a.text = b.text) : a = b := by
  have hend : Undigited [] := fun c hc => nomatch hc
  have hchars : a.chars = b.chars := String.ofList_injective h
  exact (chars_cancel ha hb hend hend (congrArg (· ++ []) hchars)).1

end Json

end TagCache
