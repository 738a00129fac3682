/-!
Sets of characters given by ascending closed ranges of code points. Every table of the library has
this form, and a character is looked up by its code point.
-/

namespace LintDispatch.Text

/-- Some range of the table holds the code point of `c`. -/
def inRanges (ranges : List (Nat × Nat)) (c : Char) : Bool :=
  ranges.any fun (low, high) => low ≤ c.toNat && c.toNat ≤ high

theorem inRanges_eq_true_iff {ranges : List (Nat × Nat)} {c : Char} :
    inRanges ranges c = true ↔ ∃ r ∈ ranges, r.1 ≤ c.toNat ∧ c.toNat ≤ r.2 := by
  simp [inRanges]

end LintDispatch.Text
