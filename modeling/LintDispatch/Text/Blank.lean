import LintDispatch.Text.Ranges

/-!
Blank characters, and trimming. A blank is a space or separator of any width, or one of the control
characters that separate lines and records.
-/

namespace LintDispatch.Text

def blankRanges : List (Nat × Nat) :=
  [(0x9, 0xd), (0x1c, 0x20), (0x85, 0x85), (0xa0, 0xa0), (0x1680, 0x1680), (0x2000, 0x200a),
   (0x2028, 0x2029), (0x202f, 0x202f), (0x205f, 0x205f), (0x3000, 0x3000)]

def isBlank (c : Char) : Bool :=
  inRanges blankRanges c

def trimLeft (s : List Char) : List Char :=
  s.dropWhile isBlank

def trimRight (s : List Char) : List Char :=
  (s.reverse.dropWhile isBlank).reverse

def trim (s : List Char) : List Char :=
  trimRight (trimLeft s)

theorem trimLeft_cons {c : Char} {s : List Char} (h : isBlank c = false) :
    trimLeft (c :: s) = c :: s := by
  simp [trimLeft, h]

theorem mem_trimLeft {s : List Char} {c : Char} (h : c ∈ s) (hc : isBlank c = false) :
    c ∈ trimLeft s := by
  induction s with
  | nil => cases h
  | cons d s ih =>
    rw [trimLeft, List.dropWhile_cons]
    split
    · rename_i hd
      rcases List.mem_cons.mp h with rfl | h
      · rw [hc] at hd
        cases hd
      · exact ih h
    · exact h

theorem trimRight_prefix (s : List Char) : trimRight s <+: s := by
  have h := List.dropWhile_suffix isBlank (l := s.reverse)
  simpa [trimRight] using List.reverse_prefix.mpr h

theorem trimRight_cons {c : Char} (h : isBlank c = false) (s : List Char) :
    trimRight (c :: s) = c :: trimRight s := by
  rw [trimRight, trimRight, List.reverse_cons, List.dropWhile_append]
  split
  · rename_i hs
    simp [List.isEmpty_iff.mp hs, h]
  · simp

theorem trimRight_of_getLast {s : List Char} (h : ∀ c ∈ s.getLast?, isBlank c = false) :
    trimRight s = s := by
  rw [List.getLast?_eq_head?_reverse] at h
  cases hs : s.reverse with
  | nil => simp [List.reverse_eq_nil_iff.mp hs, trimRight]
  | cons c t =>
    have hc : isBlank c = false := h c (by simp [hs])
    rw [trimRight, hs, List.dropWhile_cons_of_neg (by simp [hc]), ← hs, List.reverse_reverse]

theorem getLast?_trimRight {s : List Char} {c : Char} (h : c ∈ (trimRight s).getLast?) :
    isBlank c = false := by
  rw [trimRight, List.getLast?_reverse] at h
  have hh := List.head?_dropWhile_not isBlank s.reverse
  simp only [Option.mem_def] at h
  simpa [h] using hh

theorem isBlank_ofNat {n : Nat} (h : isBlank (Char.ofNat n) = true) :
    ∃ r ∈ blankRanges, 0 < r.1 ∧ r.1 ≤ n ∧ n ≤ r.2 := by
  obtain ⟨r, hr, hlow, hhigh⟩ := inRanges_eq_true_iff.mp h
  have hpos : ∀ r ∈ blankRanges, 0 < r.1 := by decide
  have hn : (Char.ofNat n).toNat = n ∨ (Char.ofNat n).toNat = 0 := by
    by_cases hv : n.isValidChar
    · exact .inl (by rw [Char.ofNat, dif_pos hv]; rfl)
    · exact .inr (by rw [Char.ofNat, dif_neg hv]; rfl)
  have := hpos r hr
  exact ⟨r, hr, this, by omega, by omega⟩

end LintDispatch.Text
