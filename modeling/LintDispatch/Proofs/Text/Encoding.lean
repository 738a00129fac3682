import LintDispatch.Text.Utf8

/-! Bytes read back. The bytes that a text is encoded as are decoded to that text, one character at
a time: the first byte of a character tells how many follow, and each of those gives back its six
bits. -/

namespace LintDispatch.Text

theorem toNat_toUInt8 {n : Nat} (h : n < 0x100) : n.toUInt8.toNat = n := by
  have hsize : n < 2 ^ 8 := h
  rw [Nat.toUInt8, UInt8.toNat_ofNat', Nat.mod_eq_of_lt hsize]

theorem continuation?_toUInt8 {n : Nat} (h : n < 0x40) :
    continuation? (0x80 + n).toUInt8 = some n := by
  have hbyte := toNat_toUInt8 (n := 0x80 + n) (by omega)
  have hbounds : 0x80 ≤ (0x80 + n).toUInt8 ∧ (0x80 + n).toUInt8 < 0xc0 := by
    simp only [UInt8.le_iff_toNat_le, UInt8.lt_iff_toNat_lt, hbyte, UInt8.reduceToNat]
    omega
  rw [continuation?, if_pos hbounds, hbyte, Nat.add_sub_cancel_left]

theorem charFrom?_toNat {least : Nat} {c : Char} (h : least ≤ c.toNat) :
    charFrom? least c.toNat = some c := by
  have hvalid : least ≤ c.toNat ∧ c.toNat.isValidChar := ⟨h, c.valid⟩
  rw [charFrom?, dif_pos hvalid]
  rfl

section Forms

variable {c : Char} (bytes : List UInt8)

theorem decodeUtf8?_one (h : c.toNat < 0x80) :
    decodeUtf8? (c.toNat.toUInt8 :: bytes) = (decodeUtf8? bytes).map (c :: ·) := by
  have hbyte := toNat_toUInt8 (n := c.toNat) (by omega)
  have hlow : c.toNat.toUInt8 < 0x80 := by
    simpa only [UInt8.lt_iff_toNat_lt, hbyte, UInt8.reduceToNat] using h
  rw [decodeUtf8?.eq_def]
  simp only [if_pos hlow, hbyte, Char.ofNat_toNat]

theorem decodeUtf8?_two (hlow : 0x80 ≤ c.toNat) (hhigh : c.toNat < 0x800) :
    decodeUtf8? ((0xc0 + c.toNat / 0x40).toUInt8 :: (0x80 + c.toNat % 0x40).toUInt8 :: bytes) =
      (decodeUtf8? bytes).map (c :: ·) := by
  have hbyte := toNat_toUInt8 (n := 0xc0 + c.toNat / 0x40) (by omega)
  have hfirst : ¬ (0xc0 + c.toNat / 0x40).toUInt8 < 0x80 ∧
      0xc0 ≤ (0xc0 + c.toNat / 0x40).toUInt8 ∧ (0xc0 + c.toNat / 0x40).toUInt8 < 0xe0 := by
    simp only [UInt8.le_iff_toNat_le, UInt8.lt_iff_toNat_lt, hbyte, UInt8.reduceToNat]
    omega
  have hpoint : (0xc0 + c.toNat / 0x40 - 0xc0) * 0x40 + c.toNat % 0x40 = c.toNat := by omega
  rw [decodeUtf8?.eq_def]
  simp only [if_neg hfirst.1, if_pos hfirst.2, hbyte, Option.bind_eq_bind, Option.bind_some,
    continuation?_toUInt8 (Nat.mod_lt c.toNat (by decide : 0 < 0x40)), hpoint, charFrom?_toNat hlow]
  cases decodeUtf8? bytes <;> rfl

theorem decodeUtf8?_three (hlow : 0x800 ≤ c.toNat) (hhigh : c.toNat < 0x10000) :
    decodeUtf8? ((0xe0 + c.toNat / 0x1000).toUInt8 :: (0x80 + c.toNat / 0x40 % 0x40).toUInt8 ::
        (0x80 + c.toNat % 0x40).toUInt8 :: bytes) = (decodeUtf8? bytes).map (c :: ·) := by
  have hbyte := toNat_toUInt8 (n := 0xe0 + c.toNat / 0x1000) (by omega)
  have hfirst : ¬ (0xe0 + c.toNat / 0x1000).toUInt8 < 0x80 ∧
      ¬ (0xc0 ≤ (0xe0 + c.toNat / 0x1000).toUInt8 ∧ (0xe0 + c.toNat / 0x1000).toUInt8 < 0xe0) ∧
      0xe0 ≤ (0xe0 + c.toNat / 0x1000).toUInt8 ∧ (0xe0 + c.toNat / 0x1000).toUInt8 < 0xf0 := by
    simp only [UInt8.le_iff_toNat_le, UInt8.lt_iff_toNat_lt, hbyte, UInt8.reduceToNat]
    omega
  have hpoint : ((0xe0 + c.toNat / 0x1000 - 0xe0) * 0x40 + c.toNat / 0x40 % 0x40) * 0x40 +
      c.toNat % 0x40 = c.toNat := by omega
  rw [decodeUtf8?.eq_def]
  simp only [if_neg hfirst.1, if_neg hfirst.2.1, if_pos hfirst.2.2, hbyte, Option.bind_eq_bind,
    Option.bind_some, continuation?_toUInt8 (Nat.mod_lt _ (by decide : 0 < 0x40)), hpoint,
    charFrom?_toNat hlow]
  cases decodeUtf8? bytes <;> rfl

theorem decodeUtf8?_four (hlow : 0x10000 ≤ c.toNat) :
    decodeUtf8? ((0xf0 + c.toNat / 0x40000).toUInt8 :: (0x80 + c.toNat / 0x1000 % 0x40).toUInt8 ::
        (0x80 + c.toNat / 0x40 % 0x40).toUInt8 :: (0x80 + c.toNat % 0x40).toUInt8 :: bytes) =
      (decodeUtf8? bytes).map (c :: ·) := by
  have hlast : c.toNat < 0x110000 := by
    have hvalid : c.toNat.isValidChar := c.valid
    simp only [Nat.isValidChar] at hvalid
    omega
  have hbyte := toNat_toUInt8 (n := 0xf0 + c.toNat / 0x40000) (by omega)
  have hfirst : ¬ (0xf0 + c.toNat / 0x40000).toUInt8 < 0x80 ∧
      ¬ (0xc0 ≤ (0xf0 + c.toNat / 0x40000).toUInt8 ∧ (0xf0 + c.toNat / 0x40000).toUInt8 < 0xe0) ∧
      ¬ (0xe0 ≤ (0xf0 + c.toNat / 0x40000).toUInt8 ∧ (0xf0 + c.toNat / 0x40000).toUInt8 < 0xf0) ∧
      0xf0 ≤ (0xf0 + c.toNat / 0x40000).toUInt8 ∧ (0xf0 + c.toNat / 0x40000).toUInt8 < 0xf8 := by
    simp only [UInt8.le_iff_toNat_le, UInt8.lt_iff_toNat_lt, hbyte, UInt8.reduceToNat]
    omega
  have hpoint : (((0xf0 + c.toNat / 0x40000 - 0xf0) * 0x40 + c.toNat / 0x1000 % 0x40) * 0x40 +
      c.toNat / 0x40 % 0x40) * 0x40 + c.toNat % 0x40 = c.toNat := by omega
  rw [decodeUtf8?.eq_def]
  simp only [if_neg hfirst.1, if_neg hfirst.2.1, if_neg hfirst.2.2.1, if_pos hfirst.2.2.2, hbyte,
    Option.bind_eq_bind, Option.bind_some,
    continuation?_toUInt8 (Nat.mod_lt _ (by decide : 0 < 0x40)), hpoint, charFrom?_toNat hlow]
  cases decodeUtf8? bytes <;> rfl

theorem decodeUtf8?_encodeChar (c : Char) :
    decodeUtf8? (encodeChar c ++ bytes) = (decodeUtf8? bytes).map (c :: ·) := by
  by_cases hone : c.toNat < 0x80
  · simp only [encodeChar, if_pos hone]
    exact decodeUtf8?_one bytes hone
  by_cases htwo : c.toNat < 0x800
  · simp only [encodeChar, if_neg hone, if_pos htwo]
    exact decodeUtf8?_two bytes (Nat.le_of_not_lt hone) htwo
  by_cases hthree : c.toNat < 0x10000
  · simp only [encodeChar, if_neg hone, if_neg htwo, if_pos hthree]
    exact decodeUtf8?_three bytes (Nat.le_of_not_lt htwo) hthree
  · simp only [encodeChar, if_neg hone, if_neg htwo, if_neg hthree]
    exact decodeUtf8?_four bytes (Nat.le_of_not_lt hthree)

end Forms

theorem decodeUtf8?_encodeUtf8 (s : List Char) : decodeUtf8? (encodeUtf8 s) = some s := by
  induction s with
  | nil => rfl
  | cons c s ih =>
    have hcons : encodeUtf8 (c :: s) = encodeChar c ++ encodeUtf8 s := List.flatMap_cons
    rw [hcons, decodeUtf8?_encodeChar, ih]
    rfl

end LintDispatch.Text
