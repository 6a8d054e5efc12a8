import DriveBench.Text.Utf8

/-!
# Decoding undoes encoding

One character at a time: `Spells bytes c` lists the forms that the decoder
accepts, and they are the encodings of characters.
-/

namespace DriveBench.Utf8

inductive Spells : List UInt8 → Char → Prop
  | one (ha : a < 0x80) : Spells [a] (.ofNat a.toNat)
  | two (h : isPair a b = true) : Spells [a, b] (pairChar a b)
  | three (h : isTriple a b c = true) : Spells [a, b, c] (tripleChar a b c)
  | four (h : isQuad a b c d = true) : Spells [a, b, c, d] (quadChar a b c d)

-- ---------------------------------------------------------------------------
-- Bytes as numbers
-- ---------------------------------------------------------------------------

def IsCodePoint (n : Nat) : Prop := n < 0xD800 ∨ (0xDFFF < n ∧ n < 0x110000)

theorem isCodePoint (c : Char) : IsCodePoint c.toNat := c.valid

theorem toNat_ofNat (h : IsCodePoint n) : (Char.ofNat n).toNat = n := by
  rw [Char.ofNat, dif_pos (show n.isValidChar from h)]
  rfl

theorem within_iff : within lo hi b = true ↔ lo.toNat ≤ b.toNat ∧ b.toNat ≤ hi.toNat := by
  simp [within, UInt8.le_iff_toNat_le]

theorem ascii_iff {a : UInt8} : a < 0x80 ↔ a.toNat < 128 := UInt8.lt_iff_toNat_lt

theorem isPair_iff :
    isPair a b = true ↔ (194 ≤ a.toNat ∧ a.toNat ≤ 223) ∧ 128 ≤ b.toNat ∧ b.toNat ≤ 191 := by
  simp [isPair, isTail, within_iff]

theorem isTriple_iff :
    isTriple a b c = true ↔
      (a.toNat = 224 ∧ 160 ≤ b.toNat ∧ b.toNat ≤ 191 ∨
        (225 ≤ a.toNat ∧ a.toNat ≤ 236) ∧ 128 ≤ b.toNat ∧ b.toNat ≤ 191 ∨
        a.toNat = 237 ∧ 128 ≤ b.toNat ∧ b.toNat ≤ 159 ∨
        (238 ≤ a.toNat ∧ a.toNat ≤ 239) ∧ 128 ≤ b.toNat ∧ b.toNat ≤ 191) ∧
      128 ≤ c.toNat ∧ c.toNat ≤ 191 := by
  simp [isTriple, isTail, within_iff, ← UInt8.toNat_inj, or_assoc]

theorem isQuad_iff :
    isQuad a b c d = true ↔
      (a.toNat = 240 ∧ 144 ≤ b.toNat ∧ b.toNat ≤ 191 ∨
        (241 ≤ a.toNat ∧ a.toNat ≤ 243) ∧ 128 ≤ b.toNat ∧ b.toNat ≤ 191 ∨
        a.toNat = 244 ∧ 128 ≤ b.toNat ∧ b.toNat ≤ 143) ∧
      (128 ≤ c.toNat ∧ c.toNat ≤ 191) ∧ 128 ≤ d.toNat ∧ d.toNat ≤ 191 := by
  simp [isQuad, isTail, within_iff, ← UInt8.toNat_inj, or_assoc, and_assoc]

-- ---------------------------------------------------------------------------
-- Spellings are encodings
-- ---------------------------------------------------------------------------

theorem spells_encode (c : Char) : Spells (String.utf8EncodeChar c) c := by
  have hc := isCodePoint c
  have spelled : ∀ {bytes : List UInt8} {d : Char}, Spells bytes d → d.toNat = c.toNat → Spells bytes c :=
    fun h hd => Char.toNat_inj.1 hd ▸ h
  simp only [IsCodePoint] at hc
  simp only [String.utf8EncodeChar, Char.toNat_val]
  split
  · have ha : (UInt8.ofNat c.toNat).toNat = c.toNat := by simp; omega
    refine spelled (.one (ascii_iff.2 (by omega))) ?_
    rw [toNat_ofNat (by unfold IsCodePoint; omega), ha]
  split
  · have ha : (UInt8.ofNat (c.toNat / 64 % 0x20 + 0xc0)).toNat = c.toNat / 64 + 192 := by simp; omega
    have hb : (UInt8.ofNat (c.toNat % 0x40 + 0x80)).toNat = c.toNat % 64 + 128 := by simp; omega
    refine spelled (.two (isPair_iff.2 (by omega))) ?_
    rw [pairChar, tailBits, toNat_ofNat (by unfold IsCodePoint; omega)]
    omega
  split
  · have ha : (UInt8.ofNat (c.toNat / 4096 % 0x10 + 0xe0)).toNat = c.toNat / 4096 + 224 := by
      simp; omega
    have hb : (UInt8.ofNat (c.toNat / 64 % 0x40 + 0x80)).toNat = c.toNat / 64 % 64 + 128 := by
      simp; omega
    have hd : (UInt8.ofNat (c.toNat % 0x40 + 0x80)).toNat = c.toNat % 64 + 128 := by simp; omega
    refine spelled (.three (isTriple_iff.2 (by omega))) ?_
    rw [tripleChar, tailBits, tailBits, toNat_ofNat (by unfold IsCodePoint; omega)]
    omega
  · have ha : (UInt8.ofNat (c.toNat / 262144 % 0x08 + 0xf0)).toNat = c.toNat / 262144 + 240 := by
      simp; omega
    have hb : (UInt8.ofNat (c.toNat / 4096 % 0x40 + 0x80)).toNat = c.toNat / 4096 % 64 + 128 := by
      simp; omega
    have hd : (UInt8.ofNat (c.toNat / 64 % 0x40 + 0x80)).toNat = c.toNat / 64 % 64 + 128 := by
      simp; omega
    have he : (UInt8.ofNat (c.toNat % 0x40 + 0x80)).toNat = c.toNat % 64 + 128 := by simp; omega
    refine spelled (.four (isQuad_iff.2 (by omega))) ?_
    rw [quadChar, tailBits, tailBits, tailBits, toNat_ofNat (by unfold IsCodePoint; omega)]
    omega

theorem encode_of_spells (h : Spells bytes c) : String.utf8EncodeChar c = bytes := by
  have byte : ∀ {n : Nat} {b : UInt8}, n % 256 = b.toNat → UInt8.ofNat n = b := fun hn =>
    UInt8.toNat_inj.1 (by simpa using hn)
  cases h with
  | @one a ha =>
    rw [ascii_iff] at ha
    have hn := toNat_ofNat (n := a.toNat) (by unfold IsCodePoint; omega)
    rw [String.utf8EncodeChar, Char.toNat_val, hn, if_pos (by omega)]
    simp
  | @two a b h =>
    rw [isPair_iff] at h
    have hn : (pairChar a b).toNat = _ := toNat_ofNat (by unfold IsCodePoint tailBits; omega)
    rw [tailBits] at hn
    rw [String.utf8EncodeChar, Char.toNat_val, hn, if_neg (by omega), if_pos (by omega)]
    rw [byte (b := a) (by omega), byte (b := b) (by omega)]
  | @three a b d h =>
    rw [isTriple_iff] at h
    have hn : (tripleChar a b d).toNat = _ := toNat_ofNat (by unfold IsCodePoint tailBits; omega)
    rw [tailBits, tailBits] at hn
    rw [String.utf8EncodeChar, Char.toNat_val, hn, if_neg (by omega), if_neg (by omega),
      if_pos (by omega)]
    rw [byte (b := a) (by omega), byte (b := b) (by omega), byte (b := d) (by omega)]
  | @four a b d e h =>
    rw [isQuad_iff] at h
    have hn : (quadChar a b d e).toNat = _ := toNat_ofNat (by unfold IsCodePoint tailBits; omega)
    rw [tailBits, tailBits, tailBits] at hn
    rw [String.utf8EncodeChar, Char.toNat_val, hn, if_neg (by omega), if_neg (by omega),
      if_neg (by omega)]
    rw [byte (b := a) (by omega), byte (b := b) (by omega), byte (b := d) (by omega),
      byte (b := e) (by omega)]

-- ---------------------------------------------------------------------------
-- Texts
-- ---------------------------------------------------------------------------

theorem split_spells (h : Spells bytes c) (rest : List UInt8) :
    split (bytes ++ rest) = (split rest).map (c :: ·) id := by
  have not_ascii : ∀ {a : UInt8}, 128 ≤ a.toNat → ¬ a < 0x80 := fun h => by
    rw [ascii_iff]
    omega
  cases h with
  | one ha =>
    rw [List.singleton_append, split.eq_def]
    simp only [ha, if_true]
  | @two a b h =>
    have hn := isPair_iff.1 h
    rw [List.cons_append, List.singleton_append, split.eq_def]
    simp only [not_ascii (a := a) (by omega), h, if_true, if_false]
  | @three a b d h =>
    have hn := isTriple_iff.1 h
    have hpair : ¬ isPair a b = true := by
      rw [isPair_iff]
      omega
    rw [List.cons_append, List.cons_append, List.singleton_append, split.eq_def]
    simp only [not_ascii (a := a) (by omega), hpair, h, if_true, if_false, Bool.false_eq_true]
  | @four a b d e h =>
    have hn := isQuad_iff.1 h
    have hpair : ¬ isPair a b = true := by
      rw [isPair_iff]
      omega
    have htriple : ¬ isTriple a b d = true := by
      rw [isTriple_iff]
      omega
    rw [List.cons_append, List.cons_append, List.cons_append, List.singleton_append, split.eq_def]
    simp only [not_ascii (a := a) (by omega), hpair, htriple, h, if_true, if_false, Bool.false_eq_true]

/-- The decoder stops, or reads a spelling and goes on. -/
theorem split_cases (bytes : List UInt8) :
    split bytes = ([], bytes) ∨ ∃ front c rest, Spells front c ∧ bytes = front ++ rest := by
  unfold split
  split
  · exact .inl rfl
  split
  · exact .inr ⟨_, _, _, .one ‹_›, rfl⟩
  split
  · exact .inl rfl
  split
  · exact .inr ⟨_, _, _, .two ‹_›, rfl⟩
  split
  · exact .inl rfl
  split
  · exact .inr ⟨_, _, _, .three ‹_›, rfl⟩
  split
  · exact .inl rfl
  split
  · exact .inr ⟨_, _, _, .four ‹_›, rfl⟩
  · exact .inl rfl

theorem Spells.ne_nil (h : Spells bytes c) : bytes ≠ [] := by
  cases h <;> simp

theorem split_encode (chars : List Char) :
    split (chars.flatMap String.utf8EncodeChar) = (chars, []) := by
  induction chars with
  | nil => rfl
  | cons c chars ih => rw [List.flatMap_cons, split_spells (spells_encode c), ih]; rfl

theorem encode_split (bytes : List UInt8) :
    (split bytes).1.flatMap String.utf8EncodeChar ++ (split bytes).2 = bytes := by
  rcases split_cases bytes with h | ⟨front, c, rest, spells, rfl⟩
  · simp [h]
  · have shorter : rest.length < (front ++ rest).length := by
      simpa [List.length_pos_iff] using spells.ne_nil
    have ih := encode_split rest
    rw [split_spells spells, Prod.map_fst, Prod.map_snd, List.flatMap_cons, encode_of_spells spells,
      List.append_assoc, id, ih]
termination_by bytes.length

/-- A text is decoded from its encoding and from nothing else. -/
theorem decode?_eq_some_iff : decode? bytes = some text ↔ encode text = bytes := by
  constructor
  · intro h
    unfold decode? at h
    split at h
    case h_1 chars hsplit =>
      obtain rfl := Option.some.inj h
      have := encode_split bytes
      simpa [hsplit, encode] using this
    case h_2 => contradiction
  · rintro rfl
    simp [decode?, encode, split_encode]

theorem decode?_encode (text : String) : decode? (encode text) = some text :=
  decode?_eq_some_iff.2 rfl

theorem encode_injective (h : encode text = encode other) : text = other := by
  have hdecode := congrArg decode? h
  rw [decode?_encode, decode?_encode] at hdecode
  exact Option.some.inj hdecode

-- ---------------------------------------------------------------------------
-- Parts of an encoding
-- ---------------------------------------------------------------------------

theorem encode_append (front back : String) : encode (front ++ back) = encode front ++ encode back := by
  simp [encode]

theorem encode_eq_nil : encode text = [] ↔ text = "" := by
  rw [encode, List.flatMap_eq_nil_iff, ← String.toList_eq_nil_iff, List.eq_nil_iff_forall_not_mem]
  simp [String.utf8EncodeChar_ne_nil]

theorem of_mem_encodeChar {b : UInt8} {c : Char} (h : b ∈ String.utf8EncodeChar c) :
    b.toNat = c.toNat ∧ c.toNat < 128 ∨ 128 ≤ b.toNat ∧ 128 ≤ c.toNat := by
  simp only [String.utf8EncodeChar, Char.toNat_val] at h
  split at h
  · obtain rfl := List.mem_singleton.1 h
    left
    simp
    omega
  · right
    refine ⟨?_, by omega⟩
    split at h
    · simp only [List.mem_cons, List.not_mem_nil, or_false] at h
      rcases h with rfl | rfl <;> simp <;> omega
    split at h
    · simp only [List.mem_cons, List.not_mem_nil, or_false] at h
      rcases h with rfl | rfl | rfl <;> simp <;> omega
    · simp only [List.mem_cons, List.not_mem_nil, or_false] at h
      rcases h with rfl | rfl | rfl | rfl <;> simp <;> omega

theorem head?_of_mark {more : List UInt8} (h : [0xEF, 0xBB, 0xBF] <+: encode text ++ more)
    (nonempty : text ≠ "") : text.toList.head? = some '\uFEFF' := by
  obtain ⟨c, chars, htext⟩ := List.exists_cons_of_ne_nil (mt String.toList_eq_nil_iff.1 nonempty)
  obtain ⟨rest, hrest⟩ := h
  have mark : Spells [0xEF, 0xBB, 0xBF] '\uFEFF' := .three (a := 0xEF) (b := 0xBB) (c := 0xBF) (by decide)
  have hsplit := congrArg split hrest
  rw [split_spells mark, encode, htext, List.flatMap_cons, List.append_assoc,
    split_spells (spells_encode c)] at hsplit
  have hfirst : '\uFEFF' = c := (List.cons.inj (congrArg Prod.fst hsplit)).1
  rw [htext, hfirst]
  rfl

end DriveBench.Utf8
