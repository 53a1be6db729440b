import NatGateway.Text.Utf8

/-!
# Reading back UTF-8

The strict reader gives back every text from its bytes, and reads nothing that is not the bytes of a
text. A character is written in one to four bytes; a leading byte decides how many continuation bytes
are read, and the ranges of the leading bytes keep the four cases apart. Texts that start with ASCII
characters are also looked at byte by byte before their encoding is known, so the bytes of such a start
are given as well.
-/

namespace NatGateway.Text

/-- A character is a scalar value: no surrogate, and no more than twenty-one bits. -/
theorem char_isScalar (c : Char) :
    c.toNat < 0xD800 ∨ 0xDFFF < c.toNat ∧ c.toNat < 0x110000 := c.valid

/-- A byte that is written from a small enough number has that number. -/
theorem toNat_byte {n : Nat} (h : n < 0x100) : (UInt8.ofNat n).toNat = n :=
  UInt8.toNat_ofNat_of_lt' h

/-- Six bits behind the marker of a continuation byte make one. -/
theorem isContinuation_byte {n : Nat} (h : n < 0x40) :
    isContinuation (UInt8.ofNat (0x80 + n)) = true := by
  have hb : (UInt8.ofNat (0x80 + n)).toNat = 0x80 + n := toNat_byte (by omega)
  simp only [isContinuation, UInt8.le_iff_toNat_le, hb, UInt8.reduceToNat, Bool.and_eq_true,
    decide_eq_true_eq]
  omega

/-- A continuation byte carries the six bits behind its marker. -/
theorem payload_byte {n : Nat} (h : n < 0x40) : payload (UInt8.ofNat (0x80 + n)) = n := by
  rw [payload, toNat_byte (by omega)]
  omega

/-- A number of at most seven bits is read from its own byte. -/
theorem utf8Step_one {n : Nat} (h : n < 0x80) (rest : Bytes) :
    utf8Step (UInt8.ofNat n) rest = .char (Char.ofNat n) 1 := by
  have ha : (UInt8.ofNat n).toNat = n := toNat_byte (by omega)
  simp only [utf8Step, UInt8.lt_iff_toNat_lt, ha, UInt8.reduceToNat, if_pos h]

/-- A number of at most eleven bits is read from its two bytes. -/
theorem utf8Step_two {n : Nat} (h1 : 0x80 ≤ n) (h2 : n < 0x800) (rest : Bytes) :
    utf8Step (UInt8.ofNat (0xC0 + n / 0x40)) (UInt8.ofNat (0x80 + n % 0x40) :: rest) =
      .char (Char.ofNat n) 2 := by
  have ha : (UInt8.ofNat (0xC0 + n / 0x40)).toNat = 0xC0 + n / 0x40 := toNat_byte (by omega)
  have hb : n % 0x40 < 0x40 := by omega
  have hn : (0xC0 + n / 0x40) % 0x20 * 0x40 + n % 0x40 = n := by omega
  simp only [utf8Step, UInt8.lt_iff_toNat_lt, UInt8.le_iff_toNat_le, ha, UInt8.reduceToNat,
    isContinuation_byte hb, payload_byte hb, hn, Bool.and_eq_true, decide_eq_true_eq, if_true]
  rw [if_neg (by omega), if_pos (by omega)]

/-- The second byte of three avoids overlong forms and surrogates. -/
theorem isSecondOfThree_byte {n : Nat} (h1 : 0x800 ≤ n) (h2 : n < 0xD800 ∨ 0xDFFF < n)
    (h3 : n < 0x10000) :
    isSecondOfThree (UInt8.ofNat (0xE0 + n / 0x1000)) (UInt8.ofNat (0x80 + n / 0x40 % 0x40)) =
      true := by
  have ha : (UInt8.ofNat (0xE0 + n / 0x1000)).toNat = 0xE0 + n / 0x1000 := toNat_byte (by omega)
  have hb : (UInt8.ofNat (0x80 + n / 0x40 % 0x40)).toNat = 0x80 + n / 0x40 % 0x40 :=
    toNat_byte (by omega)
  simp only [isSecondOfThree, isContinuation_byte (Nat.mod_lt (n / 0x40) (by decide : 0 < 0x40)),
    Bool.true_and, Bool.and_eq_true, Bool.not_eq_true', Bool.and_eq_false_iff, beq_eq_false_iff_ne,
    decide_eq_false_iff_not, UInt8.lt_iff_toNat_lt, UInt8.le_iff_toNat_le, ← UInt8.toNat_inj,
    ha, hb, ne_eq, UInt8.reduceToNat]
  omega

/-- A number of at most sixteen bits is read from its three bytes. -/
theorem utf8Step_three {n : Nat} (h1 : 0x800 ≤ n) (h2 : n < 0xD800 ∨ 0xDFFF < n)
    (h3 : n < 0x10000) (rest : Bytes) :
    utf8Step (UInt8.ofNat (0xE0 + n / 0x1000)) (UInt8.ofNat (0x80 + n / 0x40 % 0x40) ::
      UInt8.ofNat (0x80 + n % 0x40) :: rest) = .char (Char.ofNat n) 3 := by
  have ha : (UInt8.ofNat (0xE0 + n / 0x1000)).toNat = 0xE0 + n / 0x1000 := toNat_byte (by omega)
  have hb : n / 0x40 % 0x40 < 0x40 := by omega
  have hc : n % 0x40 < 0x40 := by omega
  have hn : (0xE0 + n / 0x1000) % 0x10 * 0x1000 + n / 0x40 % 0x40 * 0x40 + n % 0x40 = n := by omega
  simp only [utf8Step, UInt8.lt_iff_toNat_lt, UInt8.le_iff_toNat_le, ha, UInt8.reduceToNat,
    isSecondOfThree_byte h1 h2 h3, isContinuation_byte hc, payload_byte hb, payload_byte hc, hn,
    Bool.and_eq_true, decide_eq_true_eq, if_true]
  rw [if_neg (by omega), if_neg (by omega), if_pos (by omega)]

/-- The second byte of four avoids overlong forms and numbers past the last character. -/
theorem isSecondOfFour_byte {n : Nat} (h1 : 0x10000 ≤ n) (h2 : n < 0x110000) :
    isSecondOfFour (UInt8.ofNat (0xF0 + n / 0x40000)) (UInt8.ofNat (0x80 + n / 0x1000 % 0x40)) =
      true := by
  have ha : (UInt8.ofNat (0xF0 + n / 0x40000)).toNat = 0xF0 + n / 0x40000 := toNat_byte (by omega)
  have hb : (UInt8.ofNat (0x80 + n / 0x1000 % 0x40)).toNat = 0x80 + n / 0x1000 % 0x40 :=
    toNat_byte (by omega)
  simp only [isSecondOfFour, isContinuation_byte (Nat.mod_lt (n / 0x1000) (by decide : 0 < 0x40)),
    Bool.true_and, Bool.and_eq_true, Bool.not_eq_true', Bool.and_eq_false_iff, beq_eq_false_iff_ne,
    decide_eq_false_iff_not, UInt8.lt_iff_toNat_lt, UInt8.le_iff_toNat_le, ← UInt8.toNat_inj,
    ha, hb, ne_eq, UInt8.reduceToNat]
  omega

/-- Any other number is read from its four bytes. -/
theorem utf8Step_four {n : Nat} (h1 : 0x10000 ≤ n) (h2 : n < 0x110000) (rest : Bytes) :
    utf8Step (UInt8.ofNat (0xF0 + n / 0x40000)) (UInt8.ofNat (0x80 + n / 0x1000 % 0x40) ::
      UInt8.ofNat (0x80 + n / 0x40 % 0x40) :: UInt8.ofNat (0x80 + n % 0x40) :: rest) =
      .char (Char.ofNat n) 4 := by
  have ha : (UInt8.ofNat (0xF0 + n / 0x40000)).toNat = 0xF0 + n / 0x40000 := toNat_byte (by omega)
  have hb : n / 0x1000 % 0x40 < 0x40 := by omega
  have hc : n / 0x40 % 0x40 < 0x40 := by omega
  have hd : n % 0x40 < 0x40 := by omega
  have hn : (0xF0 + n / 0x40000) % 0x08 * 0x40000 + n / 0x1000 % 0x40 * 0x1000 +
      n / 0x40 % 0x40 * 0x40 + n % 0x40 = n := by omega
  simp only [utf8Step, UInt8.lt_iff_toNat_lt, UInt8.le_iff_toNat_le, ha, UInt8.reduceToNat,
    isSecondOfFour_byte h1 h2, isContinuation_byte hc, isContinuation_byte hd, payload_byte hb,
    payload_byte hc, payload_byte hd, hn, Bool.and_eq_true, decide_eq_true_eq, if_true]
  rw [if_neg (by omega), if_neg (by omega), if_neg (by omega), if_pos (by omega)]

/-- The bytes of a character are read as that character, whatever follows them. -/
theorem utf8Chars?_charBytes_append (c : Char) (rest : Bytes) :
    utf8Chars? (charBytes c ++ rest) = (utf8Chars? rest).map (c :: ·) := by
  have hc := char_isScalar c
  have hback : Char.ofNat c.toNat = c := Char.ofNat_toNat c
  unfold charBytes
  dsimp only
  split
  · next h => rw [List.singleton_append, utf8Chars?, utf8Step_one h, hback]; rfl
  · split
    · next h1 h2 =>
      rw [List.cons_append, List.singleton_append, utf8Chars?, utf8Step_two (by omega) h2, hback]
      rfl
    · split
      · next h1 h2 h3 =>
        rw [List.cons_append, List.cons_append, List.singleton_append, utf8Chars?,
          utf8Step_three (by omega) (by omega) h3, hback]
        rfl
      · next h1 h2 h3 =>
        rw [List.cons_append, List.cons_append, List.cons_append, List.singleton_append,
          utf8Chars?, utf8Step_four (by omega) (by omega), hback]
        rfl

/-- The bytes of characters are read as those characters. -/
theorem utf8Chars?_flatMap_charBytes (cs : List Char) :
    utf8Chars? (cs.flatMap charBytes) = some cs := by
  induction cs with
  | nil => rw [List.flatMap_nil, utf8Chars?]
  | cons c rest ih => rw [List.flatMap_cons, utf8Chars?_charBytes_append, ih, Option.map_some]

/-- The bytes of a text are read as its characters. -/
theorem utf8Chars?_utf8Bytes (text : String) : utf8Chars? (utf8Bytes text) = some text.toList :=
  utf8Chars?_flatMap_charBytes text.toList

/-- The bytes of two texts in a row. -/
theorem utf8Bytes_append (a b : String) : utf8Bytes (a ++ b) = utf8Bytes a ++ utf8Bytes b := by
  rw [utf8Bytes, String.toList_append, List.flatMap_append]
  rfl

/-! ## What is read was written -/

/-- A scalar value is the number of its character. -/
theorem toNat_ofNat_of_isScalar {n : Nat} (h : n < 0xD800 ∨ 0xDFFF < n ∧ n < 0x110000) :
    (Char.ofNat n).toNat = n := by
  have hvalid : n.isValidChar := h
  rw [Char.ofNat, dif_pos hvalid]
  rfl

/-- A continuation byte is its payload behind the marker. -/
theorem toNat_of_isContinuation {b : UInt8} (h : isContinuation b = true) :
    b.toNat = 0x80 + payload b ∧ payload b < 0x40 := by
  simp only [isContinuation, Bool.and_eq_true, decide_eq_true_eq, UInt8.le_iff_toNat_le,
    UInt8.reduceToNat] at h
  simp only [payload]
  omega

/-- A byte is written from its number. -/
theorem byte_of_toNat {n : Nat} (b : UInt8) (h : n = b.toNat) : UInt8.ofNat n = b := by
  rw [h, UInt8.ofNat_toNat]

variable {a b c d : UInt8}

/-- One byte that is read as a character is its byte. -/
theorem charBytes_one (h : a < 0x80) : charBytes (Char.ofNat a.toNat) = [a] := by
  simp only [UInt8.lt_iff_toNat_lt, UInt8.reduceToNat] at h
  have hn := @toNat_ofNat_of_isScalar a.toNat (by omega)
  unfold charBytes
  dsimp only
  rw [hn, if_pos h, UInt8.ofNat_toNat]

/-- Two bytes that are read as a character are its bytes. -/
theorem charBytes_two (h1 : 0xC2 ≤ a) (h2 : a ≤ 0xDF) (hb : isContinuation b = true) :
    charBytes (Char.ofNat (a.toNat % 0x20 * 0x40 + payload b)) = [a, b] := by
  obtain ⟨hbyte, hpayload⟩ := toNat_of_isContinuation hb
  simp only [UInt8.le_iff_toNat_le, UInt8.reduceToNat] at h1 h2
  have hn := @toNat_ofNat_of_isScalar (a.toNat % 0x20 * 0x40 + payload b) (by omega)
  unfold charBytes
  dsimp only
  rw [hn, if_neg (by omega), if_pos (by omega), byte_of_toNat a (by omega),
    byte_of_toNat b (by omega)]

/-- What the second byte of three must be. -/
theorem toNat_of_isSecondOfThree (h : isSecondOfThree a b = true) :
    (b.toNat = 0x80 + payload b ∧ payload b < 0x40) ∧
      (a.toNat = 0xE0 → 0x20 ≤ payload b) ∧ (a.toNat = 0xED → payload b < 0x20) := by
  simp only [isSecondOfThree, Bool.and_eq_true, Bool.not_eq_true', Bool.and_eq_false_iff,
    beq_eq_false_iff_ne, decide_eq_false_iff_not, UInt8.lt_iff_toNat_lt, UInt8.le_iff_toNat_le,
    ← UInt8.toNat_inj, ne_eq, UInt8.reduceToNat] at h
  have hbyte := toNat_of_isContinuation h.1.1
  omega

/-- Three bytes that are read as a character are its bytes. -/
theorem charBytes_three (h1 : 0xE0 ≤ a) (h2 : a ≤ 0xEF) (hb : isSecondOfThree a b = true)
    (hc : isContinuation c = true) :
    charBytes (Char.ofNat (a.toNat % 0x10 * 0x1000 + payload b * 0x40 + payload c)) = [a, b, c] := by
  obtain ⟨⟨hb, hpayload⟩, hlow, hhigh⟩ := toNat_of_isSecondOfThree hb
  obtain ⟨hc, hlast⟩ := toNat_of_isContinuation hc
  simp only [UInt8.le_iff_toNat_le, UInt8.reduceToNat] at h1 h2
  have hn := @toNat_ofNat_of_isScalar
    (a.toNat % 0x10 * 0x1000 + payload b * 0x40 + payload c) (by omega)
  unfold charBytes
  dsimp only
  rw [hn, if_neg (by omega), if_neg (by omega), if_pos (by omega), byte_of_toNat a (by omega),
    byte_of_toNat b (by omega), byte_of_toNat c (by omega)]

/-- What the second byte of four must be. -/
theorem toNat_of_isSecondOfFour (h : isSecondOfFour a b = true) :
    (b.toNat = 0x80 + payload b ∧ payload b < 0x40) ∧
      (a.toNat = 0xF0 → 0x10 ≤ payload b) ∧ (a.toNat = 0xF4 → payload b < 0x10) := by
  simp only [isSecondOfFour, Bool.and_eq_true, Bool.not_eq_true', Bool.and_eq_false_iff,
    beq_eq_false_iff_ne, decide_eq_false_iff_not, UInt8.lt_iff_toNat_lt, UInt8.le_iff_toNat_le,
    ← UInt8.toNat_inj, ne_eq, UInt8.reduceToNat] at h
  have hbyte := toNat_of_isContinuation h.1.1
  omega

/-- Four bytes that are read as a character are its bytes. -/
theorem charBytes_four (h1 : 0xF0 ≤ a) (h2 : a ≤ 0xF4) (hb : isSecondOfFour a b = true)
    (hc : isContinuation c = true) (hd : isContinuation d = true) :
    charBytes (Char.ofNat (a.toNat % 0x08 * 0x40000 + payload b * 0x1000 + payload c * 0x40 +
      payload d)) = [a, b, c, d] := by
  obtain ⟨⟨hb, hpayload⟩, hlow, hhigh⟩ := toNat_of_isSecondOfFour hb
  obtain ⟨hc, hthird⟩ := toNat_of_isContinuation hc
  obtain ⟨hd, hlast⟩ := toNat_of_isContinuation hd
  simp only [UInt8.le_iff_toNat_le, UInt8.reduceToNat] at h1 h2
  have hn := @toNat_ofNat_of_isScalar
    (a.toNat % 0x08 * 0x40000 + payload b * 0x1000 + payload c * 0x40 + payload d) (by omega)
  unfold charBytes
  dsimp only
  rw [hn, if_neg (by omega), if_neg (by omega), if_neg (by omega), byte_of_toNat a (by omega),
    byte_of_toNat b (by omega), byte_of_toNat c (by omega), byte_of_toNat d (by omega)]

/-- A character is read from nothing but its bytes. -/
theorem charBytes_append_of_utf8Step {rest : Bytes} {c : Char} {length : Nat}
    (h : utf8Step a rest = .char c length) :
    charBytes c ++ rest.drop (length - 1) = a :: rest := by
  -- The cases are those of the reader; in all but four of them the bytes are refused.
  revert h
  fun_cases utf8Step a rest <;> intro h <;> cases h
  case case1 ha =>
    rw [charBytes_one ha]
    rfl
  case case2 ha b _ hb =>
    rw [Bool.and_eq_true, decide_eq_true_eq, decide_eq_true_eq] at ha
    rw [charBytes_two ha.1 ha.2 hb]
    rfl
  case case5 ha b hb c _ hc =>
    rw [Bool.and_eq_true, decide_eq_true_eq, decide_eq_true_eq] at ha
    rw [charBytes_three ha.1 ha.2 hb hc]
    rfl
  case case10 ha b hb c hc d _ hd =>
    rw [Bool.and_eq_true, decide_eq_true_eq, decide_eq_true_eq] at ha
    rw [charBytes_four ha.1 ha.2 hb hc hd]
    rfl

/-- Bytes are read as characters exactly if they are the bytes of these characters. -/
theorem utf8Chars?_eq_some_iff {bytes : Bytes} {cs : List Char} :
    utf8Chars? bytes = some cs ↔ bytes = cs.flatMap charBytes := by
  constructor
  · intro h
    fun_induction utf8Chars? bytes generalizing cs with
    | case1 =>
      cases h
      rfl
    | case2 a rest c length hstep ih =>
      obtain ⟨more, hmore, rfl⟩ := Option.map_eq_some_iff.1 h
      rw [List.flatMap_cons, ← ih hmore, charBytes_append_of_utf8Step hstep]
    | case3 => cases h
  · rintro rfl
    exact utf8Chars?_flatMap_charBytes cs

/-- Bytes are read as the characters of a text exactly if they are its bytes. -/
theorem utf8Chars?_eq_some_toList_iff {bytes : Bytes} {text : String} :
    utf8Chars? bytes = some text.toList ↔ bytes = utf8Bytes text :=
  utf8Chars?_eq_some_iff

end NatGateway.Text
