import ClusterConnect.Text.Percent

/-!
# Encoded texts are read back

* `decodeLossy_encode`, `decode?_encode`: the bytes of a text are read as that text.
* `decodeText_encodeText`: the form encoding of a text is read as that text.
* `mem_encodeText`: which characters the form encoding uses.
-/

namespace ClusterConnect.Text

/-! ## UTF-8 -/

namespace Utf8

theorem toNat_byte {n : Nat} (h : n < 256) : (byte n).toNat = n := by
  simp [byte, Nat.mod_eq_of_lt h]

/-- A code point is no surrogate and at most U+10FFFF. -/
theorem toNat_valid (c : Char) : c.toNat < 0xD800 ∨ 0xDFFF < c.toNat ∧ c.toNat < 0x110000 := by
  have h := c.valid
  simp only [UInt32.isValidChar, Nat.isValidChar] at h
  exact h

theorem continuation_zero (least greatest bits : Nat) (bs : List UInt8) :
    continuation 0 least greatest bits bs = (some (Char.ofNat bits), bs) := rfl

/-- A byte within the bounds continues a character. -/
theorem continuation_byte {k least greatest bits n : Nat} (bs : List UInt8)
    (h : least ≤ 0x80 + n ∧ 0x80 + n ≤ greatest) (hn : n < 64) :
    continuation (k + 1) least greatest bits (byte (0x80 + n) :: bs) =
      continuation k 0x80 0xBF (64 * bits + n) bs := by
  rw [continuation, toNat_byte (by omega), if_pos h, Nat.add_sub_cancel_left]

theorem lead?_one {m : Nat} (h : m < 0x80) : lead? m = some ⟨0, 0, 0, m⟩ := if_pos h

theorem lead?_two {m : Nat} (h : 2 ≤ m) (h' : m < 0x20) :
    lead? (0xC0 + m) = some ⟨1, 0x80, 0xBF, m⟩ := by
  unfold lead?
  rw [if_neg (by omega), if_neg (by omega), if_pos (by omega), Nat.add_sub_cancel_left]

theorem lead?_three {m : Nat} (h : m < 0x10) :
    lead? (0xE0 + m) =
      some ⟨2, if m = 0 then 0xA0 else 0x80, if m = 0xD then 0x9F else 0xBF, m⟩ := by
  unfold lead?
  rw [if_neg (by omega), if_neg (by omega), if_neg (by omega), if_pos (by omega)]
  have hd : 0xE0 + m = 0xED ↔ m = 0xD := by omega
  simp [hd]

theorem lead?_four {m : Nat} (h : m < 5) :
    lead? (0xF0 + m) =
      some ⟨3, if m = 0 then 0x90 else 0x80, if m = 4 then 0x8F else 0xBF, m⟩ := by
  unfold lead?
  rw [if_neg (by omega), if_neg (by omega), if_neg (by omega), if_neg (by omega),
    if_pos (by omega)]
  have hd : 0xF0 + m = 0xF4 ↔ m = 4 := by omega
  simp [hd]

/-- A character has at least one byte, and its bytes are read as that character, whatever follows
them. -/
theorem next_encodeChar (c : Char) (bs : List UInt8) :
    ∃ b rest, encodeChar c = b :: rest ∧ next b (rest ++ bs) = (some c, bs) := by
  have hv := toNat_valid c
  have hc := Char.ofNat_toNat c
  generalize hn : c.toNat = n at hv hc
  -- One case for each number of bytes.
  by_cases h1 : n < 0x80
  · refine ⟨byte n, [], by simp [encodeChar, hn, h1], ?_⟩
    unfold next
    rw [toNat_byte (by omega), lead?_one h1]
    simp only [List.nil_append, continuation_zero, hc]
  by_cases h2 : n < 0x800
  · refine ⟨byte (0xC0 + n / 64), [byte (0x80 + n % 64)], by simp [encodeChar, hn, h1, h2], ?_⟩
    unfold next
    rw [toNat_byte (by omega), lead?_two (by omega) (by omega)]
    simp only [List.cons_append, List.nil_append]
    rw [continuation_byte _ (by omega) (by omega), continuation_zero, Nat.div_add_mod, hc]
  by_cases h3 : n < 0x10000
  · refine ⟨byte (0xE0 + n / 4096), [byte (0x80 + n / 64 % 64), byte (0x80 + n % 64)],
      by simp [encodeChar, hn, h1, h2, h3], ?_⟩
    unfold next
    rw [toNat_byte (by omega), lead?_three (by omega)]
    simp only [List.cons_append, List.nil_append]
    -- The bounds of the second byte exclude overlong forms and surrogates; `n` is neither.
    have hbits : 64 * (64 * (n / 4096) + n / 64 % 64) + n % 64 = n := by omega
    rw [continuation_byte _ (by split <;> split <;> omega) (by omega),
      continuation_byte _ (by omega) (by omega), continuation_zero, hbits, hc]
  · refine ⟨byte (0xF0 + n / 262144),
      [byte (0x80 + n / 4096 % 64), byte (0x80 + n / 64 % 64), byte (0x80 + n % 64)],
      by simp [encodeChar, hn, h1, h2, h3], ?_⟩
    unfold next
    rw [toNat_byte (by omega), lead?_four (by omega)]
    simp only [List.cons_append, List.nil_append]
    have hbits : 64 * (64 * (64 * (n / 262144) + n / 4096 % 64) + n / 64 % 64) + n % 64 = n := by
      omega
    rw [continuation_byte _ (by split <;> split <;> omega) (by omega),
      continuation_byte _ (by omega) (by omega), continuation_byte _ (by omega) (by omega),
      continuation_zero, hbits, hc]

/-- A character is read back from its bytes, whatever follows them. -/
theorem decodeLossy_encodeChar_append (c : Char) (bs : List UInt8) :
    decodeLossy (encodeChar c ++ bs) = c :: decodeLossy bs := by
  obtain ⟨b, rest, hb, hn⟩ := next_encodeChar c bs
  rw [hb, List.cons_append, decodeLossy, hn]
  rfl

/-- **The bytes of a text are read as that text.** -/
theorem decodeLossy_encode (cs : List Char) : decodeLossy (encode cs) = cs := by
  induction cs with
  | nil => exact decodeLossy_nil
  | cons c cs ih =>
    have he : encode (c :: cs) = encodeChar c ++ encode cs := rfl
    rw [he, decodeLossy_encodeChar_append, ih]

/-- The bytes of a text are well formed. -/
theorem decode?_encode (cs : List Char) : decode? (encode cs) = some cs := by
  induction cs with
  | nil => rw [encode_nil, decode?]
  | cons c cs ih =>
    obtain ⟨b, rest, hb, hn⟩ := next_encodeChar c (encode cs)
    have he : encode (c :: cs) = b :: (rest ++ encode cs) := by
      rw [← List.cons_append, ← hb]
      rfl
    rw [he, decode?, hn, ih]
    rfl

end Utf8

/-! ## Form encoding -/

namespace Percent

theorem hexValue?_hexDigit {n : Nat} (h : n < 16) : hexValue? (hexDigit n) = some n := by
  have key : ∀ n < 16, hexValue? (hexDigit n) = some n := by decide
  exact key n h

theorem pieces_escape_append (b : UInt8) (cs : List Char) :
    pieces (escape b ++ cs) = .byte b :: pieces cs := by
  have hb := b.toNat_lt
  have hval : UInt8.ofNat (16 * (b.toNat / 16) + b.toNat % 16) = b := by
    rw [Nat.div_add_mod, UInt8.ofNat_toNat]
  simp only [escape, List.cons_append, List.nil_append]
  rw [pieces, hexValue?_hexDigit (by omega), hexValue?_hexDigit (by omega)]
  simp only [hval]

theorem pieces_flatMap_escape_append (bs : List UInt8) (cs : List Char) :
    pieces (bs.flatMap escape ++ cs) = bs.map .byte ++ pieces cs := by
  induction bs with
  | nil => rfl
  | cons b bs ih =>
    rw [List.flatMap_cons, List.append_assoc, pieces_escape_append, ih]
    rfl

theorem toNat_lt_of_isUnreserved {c : Char} (h : isUnreserved c = true) : c.toNat < 0x80 := by
  have h' : (decide (c.val ≥ 'A'.val ∧ c.val ≤ 'Z'.val) ||
      (decide (c.val ≥ 'a'.val) && decide (c.val ≤ 'z'.val)) ||
      (decide (c.val ≥ '0'.val) && decide (c.val ≤ '9'.val))) = true := h
  simp only [Bool.or_eq_true, Bool.and_eq_true, decide_eq_true_eq, UInt32.le_iff_toNat_le] at h'
  have hz : 'z'.val.toNat = 122 := rfl
  have hZ : 'Z'.val.toNat = 90 := rfl
  have h9 : '9'.val.toNat = 57 := rfl
  change c.val.toNat < 0x80
  omega

/-- A letter or a digit stands for its one byte. -/
theorem pieces_unreserved {c : Char} (h : isUnreserved c = true) (cs : List Char) :
    pieces (c :: cs) = (Utf8.encodeChar c).map .byte ++ pieces cs := by
  have hn := toNat_lt_of_isUnreserved h
  have hp : c ≠ '%' := fun hc => absurd h (by rw [hc]; decide)
  have hs : c ≠ '+' := fun hc => absurd h (by rw [hc]; decide)
  have hu : Utf8.encodeChar c = [UInt8.ofNat c.toNat] := if_pos hn
  rw [pieces, plain, if_neg hs, if_pos hn, hu]
  · rfl
  · exact fun _ _ _ hc => absurd hc hp

theorem pieces_encodeText (cs : List Char) :
    pieces (encodeText cs) = (Utf8.encode cs).map .byte := by
  induction cs with
  | nil => rfl
  | cons c cs ih =>
    have he : encodeText (c :: cs) = encodeChar c ++ encodeText cs := rfl
    have hu : Utf8.encode (c :: cs) = Utf8.encodeChar c ++ Utf8.encode cs := rfl
    rw [he, hu, List.map_append, ← ih]
    unfold encodeChar
    split
    · next hc => exact pieces_unreserved hc _
    · exact pieces_flatMap_escape_append _ _

theorem assemble_bytes (run bs : List UInt8) :
    assemble run (bs.map .byte) = Utf8.decodeLossy (run.reverse ++ bs) := by
  induction bs generalizing run with
  | nil => simp [assemble]
  | cons b bs ih => simp [assemble, ih]

/-- **The form encoding of a text is read as that text.** -/
theorem decodeText_encodeText (cs : List Char) : decodeText (encodeText cs) = cs := by
  rw [decodeText, pieces_encodeText, assemble_bytes]
  exact Utf8.decodeLossy_encode cs

theorem isUnreserved_hexDigit {n : Nat} (h : n < 16) : isUnreserved (hexDigit n) = true := by
  have key : ∀ n < 16, isUnreserved (hexDigit n) = true := by decide
  exact key n h

/-- What is written consists of letters, digits and percent signs. -/
theorem mem_encodeText {cs : List Char} {c : Char} (h : c ∈ encodeText cs) :
    c = '%' ∨ isUnreserved c = true := by
  obtain ⟨d, -, hc⟩ := List.mem_flatMap.mp h
  unfold encodeChar at hc
  split at hc
  · next hd => exact .inr (List.mem_singleton.mp hc ▸ hd)
  · obtain ⟨b, -, hb⟩ := List.mem_flatMap.mp hc
    have hlt := b.toNat_lt
    simp only [escape, List.mem_cons, List.not_mem_nil, or_false] at hb
    rcases hb with rfl | rfl | rfl
    · exact .inl rfl
    · exact .inr (isUnreserved_hexDigit (by omega))
    · exact .inr (isUnreserved_hexDigit (by omega))

theorem not_mem_encodeText {c : Char} (hp : c ≠ '%') (hu : isUnreserved c = false)
    (cs : List Char) : c ∉ encodeText cs := by
  intro h
  rcases mem_encodeText h with h | h
  · exact hp h
  · simp [hu] at h

end Percent

end ClusterConnect.Text
