import LintDispatch.Text.Blank
import LintDispatch.Text.Lines

/-! Breaking a text into lines. No line holds a character that ends lines, and texts that are
written one a line are broken at such characters and nowhere else. -/

namespace LintDispatch.Text

def listing (texts : List (List Char)) : List Char :=
  texts.flatMap (· ++ ['\n'])

variable {s : List Char}

theorem not_isLineEnd_of_mem_lines {line : List Char} {c : Char} (h : line ∈ lines s)
    (hc : c ∈ line) : isLineEnd c = false := by
  fun_induction lines s generalizing line with
  | case1 => cases h
  | case2 s ih =>
    rcases List.mem_cons.mp h with rfl | h
    · cases hc
    · exact ih h hc
  | case3 d s _ hd ih =>
    rcases List.mem_cons.mp h with rfl | h
    · cases hc
    · exact ih h hc
  | case4 d s _ hd hs ih =>
    obtain rfl := List.mem_singleton.mp h
    obtain rfl := List.mem_singleton.mp hc
    exact Bool.eq_false_iff.mpr hd
  | case5 d s _ hd first rest hs ih =>
    rcases List.mem_cons.mp h with rfl | h
    · rcases List.mem_cons.mp hc with rfl | hc
      · exact Bool.eq_false_iff.mpr hd
      · exact ih (hs ▸ List.mem_cons_self) hc
    · exact ih (hs ▸ List.mem_cons_of_mem _ h) hc

theorem lines_cons {c : Char} (h : c ≠ '\r') (s : List Char) :
    lines (c :: s) = if isLineEnd c then [] :: lines s else
      match lines s with
      | [] => [[c]]
      | line :: rest => (c :: line) :: rest := by
  rw [lines.eq_def]
  split
  case h_1 => contradiction
  case h_2 heq =>
    cases heq
    exact absurd rfl h
  case h_3 heq =>
    cases heq
    rfl

theorem lines_append_lineFeed (h : '\r' ∉ s) (t : List Char) :
    lines (s ++ '\n' :: t) = s.splitOnP isLineEnd ++ lines t := by
  induction s with
  | nil => exact lines_cons (by decide) t
  | cons c s ih =>
    simp only [List.mem_cons, not_or] at h
    have hh := ih h.2
    rw [List.cons_append, lines_cons (Ne.symm h.1), hh, List.splitOnP_cons_eq_if_modifyHead]
    by_cases hc : isLineEnd c = true
    · simp [hc]
    · cases hs : s.splitOnP isLineEnd with
      | nil => exact absurd hs (List.splitOnP_ne_nil _ s)
      | cons line rest => simp [hc]

theorem lines_listing {texts : List (List Char)} (h : ∀ text ∈ texts, '\r' ∉ text) :
    lines (listing texts) = texts.flatMap (List.splitOnP isLineEnd) := by
  induction texts with
  | nil => exact lines_nil
  | cons text texts ih =>
    have hrest := ih fun other hother => h other (List.mem_cons_of_mem _ hother)
    have hcons : listing (text :: texts) = text ++ '\n' :: listing texts := by simp [listing]
    rw [hcons, lines_append_lineFeed (h text List.mem_cons_self), hrest, List.flatMap_cons]

theorem mem_of_mem_trim {c : Char} (h : c ∈ trim s) : c ∈ s := by
  have hfront : trim s <+: trimLeft s := trimRight_prefix (trimLeft s)
  exact (List.dropWhile_sublist isBlank).subset (hfront.subset h)

theorem any_head?_trim (s : List Char) : (trim s).head?.any isBlank = false := by
  obtain ⟨rest, hs⟩ : trim s <+: trimLeft s := trimRight_prefix (trimLeft s)
  cases htrim : trim s with
  | nil => rfl
  | cons c more =>
    have hfront : (trimLeft s).head? = some c := by
      rw [← hs, htrim, List.cons_append, List.head?_cons]
    have hh := List.head?_dropWhile_not isBlank s
    rw [trimLeft] at hfront
    simpa [hfront] using hh

theorem any_getLast?_trim (s : List Char) : (trim s).getLast?.any isBlank = false := by
  cases hlast : (trim s).getLast? with
  | none => rfl
  | some c => exact getLast?_trimRight hlast

theorem trim_of_ends (hfront : s.head?.any isBlank = false)
    (hback : s.getLast?.any isBlank = false) : trim s = s := by
  cases s with
  | nil => rfl
  | cons c s =>
    rw [trim, trimLeft_cons hfront]
    apply trimRight_of_getLast
    intro d hd
    rwa [Option.mem_def.mp hd] at hback

end LintDispatch.Text
