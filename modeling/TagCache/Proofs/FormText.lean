import Mathlib.Tactic.SplitIfs
import TagCache.Url.Form

/-!
# Queries are read back

A text is written in a query in three layers: its characters as bytes, the bytes that have a meaning
in a query as percent signs and digits, and spaces as plus signs. Each layer is read back whatever
stands behind it, so a text is read back from the middle of a query. None of the layers writes an
equals sign or an ampersand, so the pairs of a query are found where they were written, also behind
a query that was there before.
-/

namespace TagCache

/-! ## Characters and their bytes -/

namespace Utf8

section

variable {a b c d low high : UInt8}

theorem not_lt_of_lead? {x : Nat × UInt8 × UInt8} (h : lead? a = some x) : ¬ a < 0x80 := by
  intro hlt
  have hlow : a < 0xc2 := UInt8.lt_trans hlt (by decide)
  simp [lead?, hlow] at h

theorem read_one (ha : a < 0x80) (rest : List UInt8) :
    read (a :: rest) = some (Char.ofNat a.toNat) :: read rest := by
  rw [read.eq_def]
  simp [ha]

theorem read_two (hlead : lead? a = some (1, low, high)) (hb : low ≤ b ∧ b ≤ high)
    (rest : List UInt8) :
    read (a :: b :: rest) = some (Char.ofNat (a.toNat % 32 * 64 + tailBits b)) :: read rest := by
  rw [read.eq_def]
  simp [not_lt_of_lead? hlead, hlead, hb]

theorem read_three (hlead : lead? a = some (2, low, high)) (hb : low ≤ b ∧ b ≤ high)
    (hc : isTail c = true) (rest : List UInt8) :
    read (a :: b :: c :: rest) =
      some (Char.ofNat (a.toNat % 16 * 4096 + tailBits b * 64 + tailBits c)) :: read rest := by
  rw [read.eq_def]
  simp [not_lt_of_lead? hlead, hlead, hb, hc]

theorem read_four (hlead : lead? a = some (3, low, high)) (hb : low ≤ b ∧ b ≤ high)
    (hc : isTail c = true) (hd : isTail d = true) (rest : List UInt8) :
    read (a :: b :: c :: d :: rest) = some (Char.ofNat (a.toNat % 8 * 262144 +
      tailBits b * 4096 + tailBits c * 64 + tailBits d)) :: read rest := by
  rw [read.eq_def]
  simp [not_lt_of_lead? hlead, hlead, hb, hc, hd]

end

section

variable {n m : Nat}

theorem isTail_ofNat (h : n < 64) : isTail (UInt8.ofNat (n + 128)) = true := by
  simp [isTail, UInt8.le_iff_toNat_le]
  omega

theorem tailBits_ofNat (h : n < 64) : tailBits (UInt8.ofNat (n + 128)) = n := by
  simp [tailBits]
  omega

theorem lead?_two : ∀ n < 32, 2 ≤ n → lead? (UInt8.ofNat (n + 192)) = some (1, 0x80, 0xbf) := by
  decide

/-- Behind the first byte of three, the second says that two would not do, and that the character
is no surrogate. -/
theorem lead?_three (hn : n < 16) (hm : m < 64) (hlow : n = 0 → 32 ≤ m)
    (hhigh : n = 13 → m < 32) : ∃ low high, lead? (UInt8.ofNat (n + 224)) = some (2, low, high) ∧
      low ≤ UInt8.ofNat (m + 128) ∧ UInt8.ofNat (m + 128) ≤ high := by
  have hinner : ∀ k < 16, k ≠ 0 ∧ k ≠ 13 →
      lead? (UInt8.ofNat (k + 224)) = some (2, 0x80, 0xbf) := by decide
  simp only [UInt8.le_iff_toNat_le, UInt8.toNat_ofNat']
  obtain rfl | rfl | ⟨h0, h13⟩ : n = 0 ∨ n = 13 ∨ n ≠ 0 ∧ n ≠ 13 := by omega
  · exact ⟨0xa0, 0xbf, by decide, by simp; omega, by simp; omega⟩
  · exact ⟨0x80, 0x9f, by decide, by simp; omega, by simp; omega⟩
  · exact ⟨0x80, 0xbf, hinner n hn ⟨h0, h13⟩, by simp; omega, by simp; omega⟩

/-- Behind the first byte of four, the second says that three would not do, and that the character
is not beyond the last. -/
theorem lead?_four (hn : n < 5) (hm : m < 64) (hlow : n = 0 → 16 ≤ m)
    (hhigh : n = 4 → m < 16) : ∃ low high, lead? (UInt8.ofNat (n + 240)) = some (3, low, high) ∧
      low ≤ UInt8.ofNat (m + 128) ∧ UInt8.ofNat (m + 128) ≤ high := by
  have hinner : ∀ k < 4, k ≠ 0 → lead? (UInt8.ofNat (k + 240)) = some (3, 0x80, 0xbf) := by
    decide
  simp only [UInt8.le_iff_toNat_le, UInt8.toNat_ofNat']
  obtain rfl | rfl | ⟨h0, h4⟩ : n = 0 ∨ n = 4 ∨ n ≠ 0 ∧ n < 4 := by omega
  · exact ⟨0x90, 0xbf, by decide, by simp; omega, by simp; omega⟩
  · exact ⟨0x80, 0x8f, by decide, by simp; omega, by simp; omega⟩
  · exact ⟨0x80, 0xbf, hinner n h4 h0, by simp; omega, by simp; omega⟩

end

/-- **The bytes of a character are read as that character, whatever follows.** -/
theorem read_utf8EncodeChar (c : Char) (rest : List UInt8) :
    read (String.utf8EncodeChar c ++ rest) = some c :: read rest := by
  have hvalid : c.val.toNat < 0xd800 ∨ (0xdfff < c.val.toNat ∧ c.val.toNat < 0x110000) := c.valid
  have hc : Char.ofNat c.val.toNat = c := Char.ofNat_toNat c
  have htail (n : Nat) : n % 64 < 64 := Nat.mod_lt n (by decide)
  unfold String.utf8EncodeChar
  -- from here on the character is its number, and the cases are how many bytes it takes
  generalize c.val.toNat = v at *
  dsimp only
  split_ifs with hone htwo hthree
  · have ha : UInt8.ofNat v < 0x80 := by
      simp [UInt8.lt_iff_toNat_lt]
      omega
    have hv : (UInt8.ofNat v).toNat = v := by
      simp
      omega
    rw [List.singleton_append, read_one ha, hv, hc]
  · have hlead := lead?_two (v / 64 % 32) (by omega) (by omega)
    have hb := isTail_ofNat (htail v)
    simp only [isTail, Bool.and_eq_true, decide_eq_true_eq] at hb
    have hv : (UInt8.ofNat (v / 64 % 32 + 192)).toNat % 32 * 64 + v % 64 = v := by
      simp
      omega
    simp only [List.cons_append, List.nil_append]
    rw [read_two hlead hb, tailBits_ofNat (htail v), hv, hc]
  · obtain ⟨low, high, hlead, hb⟩ := lead?_three (n := v / 4096 % 16) (m := v / 64 % 64)
      (by omega) (by omega) (by omega) (by omega)
    have hv : (UInt8.ofNat (v / 4096 % 16 + 224)).toNat % 16 * 4096 + v / 64 % 64 * 64 + v % 64 =
        v := by
      simp
      omega
    simp only [List.cons_append, List.nil_append]
    rw [read_three hlead hb (isTail_ofNat (htail v)), tailBits_ofNat (htail _),
      tailBits_ofNat (htail _), hv, hc]
  · obtain ⟨low, high, hlead, hb⟩ := lead?_four (n := v / 262144 % 8) (m := v / 4096 % 64)
      (by omega) (by omega) (by omega) (by omega)
    have hv : (UInt8.ofNat (v / 262144 % 8 + 240)).toNat % 8 * 262144 + v / 4096 % 64 * 4096 +
        v / 64 % 64 * 64 + v % 64 = v := by
      simp
      omega
    simp only [List.cons_append, List.nil_append]
    rw [read_four hlead hb (isTail_ofNat (htail _)) (isTail_ofNat (htail _)),
      tailBits_ofNat (htail _), tailBits_ofNat (htail _), tailBits_ofNat (htail _), hv, hc]

/-- What is read of a text is the text. -/
theorem read_encode (cs : List Char) : read (encode cs) = cs.map some := by
  induction cs with
  | nil => rfl
  | cons c cs ih => rw [encode, List.flatMap_cons, read_utf8EncodeChar, ← encode, ih, List.map_cons]

theorem decodeLossy_encode (cs : List Char) : decodeLossy (encode cs) = cs := by
  rw [decodeLossy, read_encode, List.map_map]
  exact List.map_id cs

end Utf8

/-! ## Bytes and their digits -/

namespace Percent

theorem hexValue?_hexDigit : ∀ n < 16, hexValue? (hexDigit n) = some n := by decide

theorem mem_encodeByte {b : UInt8} {d : Char} (h : d ∈ encodeByte b) :
    d.isAlphanum = true ∨ d = '%' := by
  have hdigit : ∀ n < 16, (hexDigit n).isAlphanum = true := by decide
  simp only [encodeByte, List.mem_cons, List.not_mem_nil, or_false] at h
  obtain rfl | rfl | rfl := h
  · exact .inr rfl
  · exact .inl (hdigit _ (Nat.div_lt_of_lt_mul b.toNat_lt))
  · exact .inl (hdigit _ (Nat.mod_lt _ (by decide)))

theorem decode_encodeByte (b : UInt8) (rest : List Char) :
    decode (encodeByte b ++ rest) = b :: decode rest := by
  have hhigh := hexValue?_hexDigit (b.toNat / 16) (Nat.div_lt_of_lt_mul b.toNat_lt)
  have hlow := hexValue?_hexDigit (b.toNat % 16) (Nat.mod_lt _ (by decide))
  have hb : UInt8.ofNat (b.toNat / 16 * 16 + b.toNat % 16) = b := by
    rw [Nat.div_add_mod', UInt8.ofNat_toNat]
  simp only [encodeByte, List.cons_append, List.nil_append]
  rw [decode.eq_def]
  simp only [hhigh, hlow, hb]

theorem decode_encodeBytes (bytes : List UInt8) (rest : List Char) :
    decode (bytes.flatMap encodeByte ++ rest) = bytes ++ decode rest := by
  induction bytes with
  | nil => rfl
  | cons b bytes ih =>
      rw [List.flatMap_cons, List.append_assoc, decode_encodeByte, ih, List.cons_append]

/-- Only a percent sign begins what stands for another character. -/
theorem decode_cons {c : Char} (h : c ≠ '%') (rest : List Char) :
    decode (c :: rest) = String.utf8EncodeChar c ++ decode rest := by
  rw [decode.eq_def]
  split
  · -- the pattern of an encoded byte
    rename_i heq
    exact absurd (List.cons.inj heq).1 h
  · rename_i heq
    obtain ⟨rfl, rfl⟩ := List.cons.inj heq
    rfl
  · rename_i heq
    exact absurd heq (List.cons_ne_nil _ _)

end Percent

/-! ## Texts and their place in a query -/

namespace Form

/-- A character as it stands in a query. -/
def encodeChar (c : Char) : List Char :=
  if c = ' ' then ['+'] else Percent.encodeChar (!isPlain ·) c

/-- A part of a query with spaces for its plus signs. -/
def spaced (cs : List Char) : List Char := cs.map fun c => if c = '+' then ' ' else c

theorem spaced_append (xs ys : List Char) : spaced (xs ++ ys) = spaced xs ++ spaced ys :=
  List.map_append

theorem encodeText_eq_flatMap (s : String) : encodeText s = s.toList.flatMap encodeChar := rfl

/-- All that is written for a text is plain, but for two signs. -/
theorem mem_encodeText {s : String} {d : Char} (h : d ∈ encodeText s) :
    isPlain d = true ∨ d = '+' ∨ d = '%' := by
  obtain ⟨c, _, hd⟩ := List.mem_flatMap.mp h
  split at hd
  · exact .inr (.inl (List.mem_singleton.mp hd))
  · unfold Percent.encodeChar at hd
    split at hd
    · obtain ⟨b, _, hb⟩ := List.mem_flatMap.mp hd
      obtain hdigit | rfl := Percent.mem_encodeByte hb
      · exact .inl (by simp [isPlain, hdigit])
      · exact .inr (.inr rfl)
    · rename_i hplain
      rw [List.mem_singleton.mp hd]
      exact .inl (by simpa using hplain)

theorem ne_of_mem_encodeText {s : String} {d : Char} (h : d ∈ encodeText s) :
    d ≠ '=' ∧ d ≠ '&' := by
  obtain hplain | rfl | rfl := mem_encodeText h
  · constructor <;> rintro rfl <;> exact absurd hplain (by decide)
  · decide
  · decide

/-- No byte is written with a plus sign. -/
theorem spaced_encodeBytes (bytes : List UInt8) :
    spaced (bytes.flatMap Percent.encodeByte) = bytes.flatMap Percent.encodeByte := by
  refine (List.map_congr_left fun d hd => if_neg ?_).trans (List.map_id _)
  obtain ⟨b, _, hb⟩ := List.mem_flatMap.mp hd
  obtain hdigit | rfl := Percent.mem_encodeByte hb
  · rintro rfl
    exact absurd hdigit (by decide)
  · decide

/-- **A character is read back, whatever follows.** -/
theorem decode_encodeChar (c : Char) (rest : List Char) :
    Percent.decode (spaced (encodeChar c ++ rest)) =
      String.utf8EncodeChar c ++ Percent.decode (spaced rest) := by
  rw [spaced_append]
  unfold encodeChar
  split_ifs with hspace
  · -- a space is read from the plus sign that stands for it
    subst hspace
    exact Percent.decode_cons (by decide) (spaced rest)
  · unfold Percent.encodeChar
    split_ifs with hset
    · rw [spaced_encodeBytes, Percent.decode_encodeBytes]
    · -- neither sign that has a meaning is plain, so both were encoded
      have hplain : isPlain c = true := by simpa using hset
      have hplus : c ≠ '+' := by
        rintro rfl
        exact absurd hplain (by decide)
      have hpercent : c ≠ '%' := by
        rintro rfl
        exact absurd hplain (by decide)
      have hsame : spaced [c] = [c] := by simp [spaced, hplus]
      rw [hsame, List.singleton_append, Percent.decode_cons hpercent]

theorem decode_spaced_encodeText (s : String) :
    Percent.decode (spaced (encodeText s)) = Utf8.encode s.toList := by
  rw [encodeText_eq_flatMap, Utf8.encode]
  induction s.toList with
  | nil => rfl
  | cons c cs ih => rw [List.flatMap_cons, decode_encodeChar, ih, List.flatMap_cons]

/-- **A text is read back.** -/
theorem decodeText_encodeText (s : String) : decodeText (encodeText s) = s := by
  show String.ofList (Utf8.decodeLossy (Percent.decode (spaced (encodeText s)))) = s
  rw [decode_spaced_encodeText, Utf8.decodeLossy_encode, String.ofList_toList]

/-! ## Pairs and their place in a query -/

theorem decodePair_encodePair (pair : String × String) : decodePair (encodePair pair) = pair := by
  have hkey : ∀ c ∈ encodeText pair.1, decide (c ≠ '=') = true := fun c hc =>
    decide_eq_true (ne_of_mem_encodeText hc).1
  have hfirst : (encodePair pair).takeWhile (· ≠ '=') = encodeText pair.1 := by
    rw [encodePair, List.takeWhile_append_of_pos hkey, List.takeWhile_cons_of_neg (by decide),
      List.append_nil]
  have hsecond : (encodePair pair).dropWhile (· ≠ '=') = '=' :: encodeText pair.2 := by
    rw [encodePair, List.dropWhile_append_of_pos hkey, List.dropWhile_cons_of_neg (by decide)]
  rw [decodePair, hfirst, hsecond, List.drop_one, List.tail_cons, decodeText_encodeText,
    decodeText_encodeText]

theorem ampersand_notMem_encodePair (pair : String × String) :
    ∀ c ∈ encodePair pair, decide (c = '&') = false := by
  intro c hc
  refine decide_eq_false ?_
  obtain hkey | hvalue := List.mem_append.mp hc
  · exact (ne_of_mem_encodeText hkey).2
  · obtain rfl | hvalue := List.mem_cons.mp hvalue
    · decide
    · exact (ne_of_mem_encodeText hvalue).2

theorem encodePair_ne_nil (pair : String × String) : encodePair pair ≠ [] :=
  List.append_ne_nil_of_right_ne_nil _ (List.cons_ne_nil _ _)

theorem decode_nil : decode [] = [] := rfl

/-- A query behind another is read on its own. -/
theorem decode_append (query rest : List Char) :
    decode (query ++ '&' :: rest) = decode query ++ decode rest := by
  rw [decode, pieces_append_sep (by decide), List.filter_append, List.map_append]
  rfl

theorem decode_encodePair (pair : String × String) : decode (encodePair pair) = [pair] := by
  rw [decode, pieces_of_clean (ampersand_notMem_encodePair pair)]
  simp [encodePair_ne_nil, decodePair_encodePair]

/-- **The pairs of a query are read back.** -/
theorem decode_encode (pairs : List (String × String)) : decode (encode pairs) = pairs := by
  induction pairs with
  | nil => rfl
  | cons pair pairs ih =>
      cases pairs with
      | nil => rw [encode, List.map_singleton, List.intercalate_singleton, decode_encodePair]
      | cons next pairs =>
          have hencode : encode (pair :: next :: pairs) =
              encodePair pair ++ '&' :: encode (next :: pairs) := by
            simp [encode, List.intercalate_cons_cons]
          rw [hencode, decode_append, decode_encodePair, ih, List.singleton_append]

end Form

/-- **Pairs are added behind those that a url has.** -/
theorem Url.pairs_withPairs (u : Url) (pairs : List (String × String)) :
    (u.withPairs pairs).pairs = u.pairs ++ pairs := by
  unfold Url.withPairs
  split
  · exact (List.append_nil _).symm
  · rename_i hquery
    simp [Url.pairs, hquery, Form.decode_encode]
  · rename_i hquery
    simp [Url.pairs, hquery, Form.decode_encode, Form.decode_nil]
  · rename_i hquery
    simp [Url.pairs, hquery, Form.decode_append, Form.decode_encode]

end TagCache
