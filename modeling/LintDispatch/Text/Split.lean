/-!
Splitting at a separator. The pieces are one more than the separators, and joining them gives the
text back.
-/

namespace LintDispatch.Text

def splitAt (sep : Char) : List Char → List (List Char)
  | [] => [[]]
  | c :: s =>
    if c = sep then [] :: splitAt sep s
    else
      match splitAt sep s with
      | piece :: rest => (c :: piece) :: rest
      | [] => [[c]]

def joinWith (sep : Char) : List (List Char) → List Char
  | [] => []
  | [piece] => piece
  | piece :: rest => piece ++ sep :: joinWith sep rest

theorem splitAt_ne_nil (sep : Char) (s : List Char) : splitAt sep s ≠ [] := by
  cases s with
  | nil => simp [splitAt]
  | cons c s =>
    simp only [splitAt]
    split
    · simp
    · split <;> simp

theorem not_mem_of_mem_splitAt {sep : Char} {s piece : List Char} (h : piece ∈ splitAt sep s) :
    sep ∉ piece := by
  induction s generalizing piece with
  | nil => simp_all [splitAt]
  | cons c s ih =>
    simp only [splitAt] at h
    split at h
    case isTrue =>
      rcases List.mem_cons.mp h with rfl | h
      · simp
      · exact ih h
    case isFalse hc =>
      cases hs : splitAt sep s with
      | nil => exact absurd hs (splitAt_ne_nil sep s)
      | cons first rest =>
        rw [hs] at h
        rcases List.mem_cons.mp h with rfl | h
        · simpa [Ne.symm hc] using ih (hs ▸ List.mem_cons_self)
        · exact ih (hs ▸ List.mem_cons_of_mem _ h)

theorem mem_of_mem_splitAt {sep c : Char} {s piece : List Char} (h : piece ∈ splitAt sep s)
    (hc : c ∈ piece) : c ∈ s := by
  induction s generalizing piece with
  | nil => simp_all [splitAt]
  | cons d s ih =>
    simp only [splitAt] at h
    split at h
    case isTrue =>
      rcases List.mem_cons.mp h with rfl | h
      · cases hc
      · exact List.mem_cons_of_mem _ (ih h hc)
    case isFalse =>
      cases hs : splitAt sep s with
      | nil => exact absurd hs (splitAt_ne_nil sep s)
      | cons first rest =>
        rw [hs] at h
        rcases List.mem_cons.mp h with rfl | h
        · rcases List.mem_cons.mp hc with rfl | hc
          · exact List.mem_cons_self
          · exact List.mem_cons_of_mem _ (ih (hs ▸ List.mem_cons_self) hc)
        · exact List.mem_cons_of_mem _ (ih (hs ▸ List.mem_cons_of_mem _ h) hc)

theorem splitAt_append_sep (sep : Char) (s t : List Char) :
    splitAt sep (s ++ sep :: t) = splitAt sep s ++ splitAt sep t := by
  induction s with
  | nil => simp [splitAt]
  | cons c s ih =>
    simp only [List.cons_append, splitAt]
    split
    · simp [ih]
    · rw [ih]
      cases hs : splitAt sep s with
      | nil => exact absurd hs (splitAt_ne_nil sep s)
      | cons first rest => simp

theorem splitAt_of_not_mem {sep : Char} {s : List Char} (h : sep ∉ s) : splitAt sep s = [s] := by
  induction s with
  | nil => rfl
  | cons c s ih =>
    simp only [List.mem_cons, not_or] at h
    simp [splitAt, Ne.symm h.1, ih h.2]

theorem joinWith_append (sep : Char) {ps qs : List (List Char)} (hp : ps ≠ []) (hq : qs ≠ []) :
    joinWith sep (ps ++ qs) = joinWith sep ps ++ sep :: joinWith sep qs := by
  induction ps with
  | nil => exact absurd rfl hp
  | cons p ps ih =>
    cases ps with
    | nil =>
      cases qs with
      | nil => exact absurd rfl hq
      | cons q qs => rfl
    | cons p' ps =>
      have hh := ih (by simp)
      simp only [List.cons_append, joinWith, List.append_assoc] at hh ⊢
      rw [hh]

theorem splitAt_joinWith {sep : Char} {ps : List (List Char)} (hp : ps ≠ [])
    (h : ∀ p ∈ ps, sep ∉ p) : splitAt sep (joinWith sep ps) = ps := by
  induction ps with
  | nil => exact absurd rfl hp
  | cons p ps ih =>
    have hsp := splitAt_of_not_mem (h p List.mem_cons_self)
    cases ps with
    | nil => exact hsp
    | cons q qs =>
      have hh := ih (by simp) fun x hx => h x (List.mem_cons_of_mem _ hx)
      rw [joinWith, splitAt_append_sep, hsp, hh]
      · rfl
      · simp

theorem joinWith_splitAt (sep : Char) (s : List Char) : joinWith sep (splitAt sep s) = s := by
  induction s with
  | nil => rfl
  | cons c s ih =>
    simp only [splitAt]
    split
    case isTrue h =>
      cases hs : splitAt sep s with
      | nil => exact absurd hs (splitAt_ne_nil sep s)
      | cons piece rest => rw [hs] at ih; simp [joinWith, ih, h]
    case isFalse =>
      cases hs : splitAt sep s with
      | nil => exact absurd hs (splitAt_ne_nil sep s)
      | cons piece rest =>
        rw [hs] at ih
        cases rest <;> simp_all [joinWith]

theorem splitAt_cons_of_ne {sep c : Char} (h : c ≠ sep) (s : List Char) :
    ∃ piece rest, splitAt sep (c :: s) = (c :: piece) :: rest := by
  rw [splitAt, if_neg h]
  cases splitAt sep s with
  | nil => exact ⟨[], [], rfl⟩
  | cons piece rest => exact ⟨piece, rest, rfl⟩

theorem head?_joinWith (sep c : Char) (piece : List Char) (rest : List (List Char)) :
    (joinWith sep ((c :: piece) :: rest)).head? = some c := by
  cases rest <;> rfl

end LintDispatch.Text
