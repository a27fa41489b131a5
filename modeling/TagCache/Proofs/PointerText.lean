import TagCache.Json.Pointer

/-!
# The text of a pointer

A pointer is written from its tokens and read back into them. The two are inverse because no
escaped token holds a slash. Escapes can be written and read by replacing one pattern after the
other in the whole token, in the right order.
-/

namespace TagCache.Json.Pointer

theorem escape_cons (c : Char) (cs : List Char) :
    escape (c :: cs) =
      (if c = '~' then ['~', '0'] else if c = '/' then ['~', '1'] else [c]) ++ escape cs :=
  rfl

theorem unescape_escape (token : List Char) : unescape (escape token) = token := by
  induction token with
  | nil => rfl
  | cons c cs ih =>
      rw [escape_cons]
      split
      · rename_i hc
        simp [unescape, ih, hc]
      · rename_i htilde
        split
        · rename_i hc
          simp [unescape, ih, hc]
        · simp [unescape, ih, htilde]

/-- No slash is left in an escaped token. -/
theorem ne_slash_of_mem_escape {token : List Char} {c : Char} (h : c ∈ escape token) :
    c ≠ '/' := by
  obtain ⟨d, _, hc⟩ := List.mem_flatMap.mp h
  rintro rfl
  split at hc
  · simp at hc
  · split at hc
    · simp at hc
    · rename_i hslash
      exact hslash (List.mem_singleton.mp hc).symm

/-- Behind a token, every slash begins the next. -/
theorem pieces_escape (token : String) (tokens : List String) :
    pieces (· = '/') (escape token.toList ++ tokens.flatMap fun t => '/' :: escape t.toList) =
      escape token.toList :: tokens.map fun t => escape t.toList := by
  have hclean : ∀ t : String, ∀ c ∈ escape t.toList, decide (c = '/') = false :=
    fun t c hc => decide_eq_false (ne_slash_of_mem_escape hc)
  induction tokens generalizing token with
  | nil => simpa using pieces_of_clean (hclean token)
  | cons t tokens ih =>
      rw [List.flatMap_cons, List.cons_append, pieces_append_cons (hclean token) (by decide), ih,
        List.map_cons]

/-- **A pointer names the tokens that it was written from.** -/
theorem tokens?_ofTokens (tokens : List String) : tokens? (ofTokens tokens) = some tokens := by
  unfold tokens? ofTokens
  rw [String.toList_ofList]
  cases tokens with
  | nil => rfl
  | cons token tokens =>
      simp only [List.flatMap_cons, List.cons_append, pieces_escape, List.map_cons, List.map_map]
      have hread : (fun part => String.ofList (unescape part)) ∘ (fun t : String => escape t.toList)
          = id := by
        funext t
        simp [unescape_escape]
      simp [hread, unescape_escape]

/-- The tokens of a pointer stand behind its slashes. -/
theorem pieces_of_tokens? {pointer : String} {tokens : List String}
    (h : tokens? pointer = some tokens) :
    ((pieces (· = '/') pointer.toList).tail.map fun part => String.ofList (unescape part)) =
      tokens := by
  unfold tokens? at h
  split at h
  · rename_i hnil
    rw [hnil]
    exact Option.some.inj h
  · rename_i rest hslash
    rw [hslash]
    exact Option.some.inj h
  · exact absurd h (by simp)

/-! ## Escapes as replacements in a text -/

/-- The text with every occurrence of a pattern replaced, from left to right. The pattern is given
by its first character and the others. -/
def replaceAll (first : Char) (others new : List Char) : List Char → List Char
  | [] => []
  | c :: cs =>
    if first :: others <+: c :: cs then new ++ replaceAll first others new (cs.drop others.length)
    else c :: replaceAll first others new cs
termination_by text => text.length
decreasing_by all_goals simp only [List.length_cons, List.length_drop]; omega

theorem replaceAll_char (c : Char) (new cs : List Char) :
    replaceAll c [] new cs = cs.flatMap fun d => if d = c then new else [d] := by
  induction cs with
  | nil => rw [replaceAll, List.flatMap_nil]
  | cons d cs ih =>
      rw [replaceAll, List.flatMap_cons]
      by_cases hd : d = c
      · subst hd
        simp [ih]
      · simp [ih, hd, Ne.symm hd]

/-- A token is escaped by writing every tilde as `~0`, and then every slash as `~1`. -/
theorem escape_eq_replaceAll (token : List Char) :
    escape token = replaceAll '/' [] ['~', '1'] (replaceAll '~' [] ['~', '0'] token) := by
  rw [replaceAll_char, replaceAll_char, List.flatMap_assoc, escape]
  congr 1
  funext c
  by_cases htilde : c = '~'
  · simp [htilde]
  · simp [htilde]

/-- What begins with a pattern of two characters. -/
theorem replaceAll_pair (a b : Char) (new cs : List Char) :
    replaceAll a [b] new (a :: b :: cs) = new ++ replaceAll a [b] new cs := by
  rw [replaceAll]
  simp

theorem replaceAll_pair_of_ne {a b c : Char} {new cs : List Char}
    (h : ¬ (c = a ∧ cs.head? = some b)) :
    replaceAll a [b] new (c :: cs) = c :: replaceAll a [b] new cs := by
  rw [replaceAll, if_neg]
  rintro ⟨rest, hrest⟩
  obtain ⟨rfl, rfl⟩ := List.cons.inj hrest
  exact h ⟨rfl, rfl⟩

/-- A replacement brings no other character to the front than the first of its own. -/
theorem head?_replaceAll {a b x y : Char} {new cs : List Char}
    (h : (replaceAll a [b] (x :: new) cs).head? = some y) (hy : y ≠ x) : cs.head? = some y := by
  cases cs with
  | nil => simp [replaceAll] at h
  | cons c cs =>
      by_cases hpattern : c = a ∧ cs.head? = some b
      · obtain ⟨rfl, hb⟩ := hpattern
        obtain ⟨rest, rfl⟩ := List.head?_eq_some_iff.mp hb
        rw [replaceAll_pair] at h
        exact absurd (Option.some.inj h).symm hy
      · rw [replaceAll_pair_of_ne hpattern] at h
        exact h

/-- A token is read by taking every `~1` for a slash, and then every `~0` for a tilde. -/
theorem unescape_eq_replaceAll (cs : List Char) :
    unescape cs = replaceAll '~' ['0'] ['~'] (replaceAll '~' ['1'] ['/'] cs) := by
  fun_induction unescape cs with
  | case1 rest ih =>
      rw [replaceAll_pair, ih]
      exact (replaceAll_pair_of_ne (by simp)).symm
  | case2 rest ih =>
      have hfirst : replaceAll '~' ['1'] ['/'] ('~' :: '0' :: rest) =
          '~' :: '0' :: replaceAll '~' ['1'] ['/'] rest := by
        rw [replaceAll_pair_of_ne (by simp), replaceAll_pair_of_ne (by simp)]
      rw [hfirst, replaceAll_pair, ih]
      rfl
  | case3 c rest hslash htilde ih =>
      have hone : ¬ (c = '~' ∧ rest.head? = some '1') := fun ⟨hc, hrest⟩ =>
        have ⟨_, hrest⟩ := List.head?_eq_some_iff.mp hrest
        hslash _ hc hrest
      have hzero : ¬ (c = '~' ∧ rest.head? = some '0') := fun ⟨hc, hrest⟩ =>
        have ⟨_, hrest⟩ := List.head?_eq_some_iff.mp hrest
        htilde _ hc hrest
      rw [replaceAll_pair_of_ne hone, ih]
      -- the first replacement makes no new `~0`
      exact (replaceAll_pair_of_ne fun ⟨hc, hrest⟩ =>
        hzero ⟨hc, head?_replaceAll hrest (by decide)⟩).symm
  | case4 => simp [replaceAll]

end TagCache.Json.Pointer
