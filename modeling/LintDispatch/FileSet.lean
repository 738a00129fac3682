/-!
File sets: lists of paths in strictly increasing order. Paths compare by code point, so a set has
one form.
-/

namespace LintDispatch

abbrev FileSet := List String

namespace FileSet

/-- Puts a path into its place unless it is there. -/
def insert (x : String) : FileSet → FileSet
  | [] => [x]
  | y :: ys => if x < y then x :: y :: ys else if x = y then y :: ys else y :: insert x ys

def ofList (xs : List String) : FileSet :=
  xs.foldr insert []

def union (xs ys : FileSet) : FileSet :=
  ofList (xs ++ ys)

def inter (xs ys : FileSet) : FileSet :=
  xs.filter (ys.contains ·)

def diff (xs ys : FileSet) : FileSet :=
  xs.filter fun x => !ys.contains x

theorem mem_insert {x y : String} {ys : FileSet} : y ∈ insert x ys ↔ y = x ∨ y ∈ ys := by
  induction ys with
  | nil => simp [insert]
  | cons z zs ih =>
    simp only [insert]
    split
    · simp
    · split
      · simp_all
      · simp [ih, or_left_comm]

@[simp] theorem mem_ofList {x : String} {xs : List String} : x ∈ ofList xs ↔ x ∈ xs := by
  induction xs with
  | nil => simp [ofList]
  | cons y ys ih => simpa [ofList, mem_insert] using or_congr_right ih

theorem insert_increasing {x : String} {ys : FileSet} (h : ys.Pairwise (· < ·)) :
    (insert x ys).Pairwise (· < ·) := by
  induction ys with
  | nil => simp [insert]
  | cons y ys ih =>
    simp only [insert]
    rw [List.pairwise_cons] at h
    split
    case isTrue hxy =>
      simp only [List.pairwise_cons, List.mem_cons, forall_eq_or_imp]
      exact ⟨⟨hxy, fun z hz => String.lt_trans hxy (h.1 z hz)⟩, h⟩
    case isFalse hxy =>
      split
      case isTrue => exact List.pairwise_cons.mpr h
      case isFalse hne =>
        refine List.pairwise_cons.mpr ⟨fun z hz => ?_, ih h.2⟩
        rcases mem_insert.mp hz with rfl | hz
        · exact Std.lt_of_le_of_ne (String.not_lt.mp hxy) fun heq => hne heq.symm
        · exact h.1 z hz

theorem ofList_increasing (xs : List String) : (ofList xs).Pairwise (· < ·) := by
  induction xs with
  | nil => simp [ofList]
  | cons x xs ih => exact insert_increasing ih

end FileSet

end LintDispatch
