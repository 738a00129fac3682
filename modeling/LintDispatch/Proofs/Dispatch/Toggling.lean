import Mathlib.Data.List.Induction
import LintDispatch.Dispatch.Plan

/-! Toggling before a run. Whatever is assigned to the toggles of the linters, and in whatever order,
those that were left on take part alone; if none was, all take part that were never switched off. -/

namespace LintDispatch.Dispatch

def assign (linters : List Linter) (a : Nat × Option Bool) : List Linter :=
  linters.modify a.1 (·.setToggle a.2)

def assigned (history : List (Nat × Option Bool)) (linters : List Linter) : List Linter :=
  history.foldl assign linters

/-- What a history assigns to the linter in place `i`. -/
def assignedTo (history : List (Nat × Option Bool)) (i : Nat) : List (Option Bool) :=
  history.filterMap fun a => if a.1 = i then some a.2 else none

/-- What the toggle in place `i` holds in the end. -/
def leftAt (history : List (Nat × Option Bool)) (i : Nat) : Option Bool :=
  (assignedTo history i).getLast?.join

/-- The last word on the linter in place `i`; an assignment of nothing says nothing. -/
def lastWord (history : List (Nat × Option Bool)) (i : Nat) : Option Bool :=
  ((assignedTo history i).filterMap id).getLast?

/-- The linter in place `i` was switched off, perhaps not for good. -/
def wasOff (history : List (Nat × Option Bool)) (i : Nat) : Bool :=
  (assignedTo history i).contains (some false)

def inPlaces (p : Nat → Bool) (linters : List Linter) : List Linter :=
  (linters.zipIdx.filter fun x => p x.2).map Prod.fst

/-- The linters in the places that are on, if there is any; otherwise those that are not off. -/
def selected (on off : Nat → Bool) (linters : List Linter) : List Linter :=
  if inPlaces on linters = [] then inPlaces (fun i => !off i) linters else inPlaces on linters

variable {linters : List Linter} {history : List (Nat × Option Bool)} {p q on off : Nat → Bool}

theorem inPlaces_eq_filter {f : Linter → Bool} (h : ∀ i l, linters[i]? = some l → f l = p i) :
    inPlaces p linters = linters.filter f := by
  have hfilter : (linters.zipIdx.filter fun x => p x.2) = linters.zipIdx.filter (f ∘ Prod.fst) :=
    List.filter_congr fun x hx => (h x.2 x.1 (List.mem_zipIdx_iff_getElem?.mp hx)).symm
  rw [inPlaces, hfilter, ← List.filter_map, List.zipIdx_map_fst]

theorem inPlaces_eq_nil_iff : inPlaces p linters = [] ↔ ∀ i < linters.length, p i = false := by
  simp only [inPlaces, List.map_eq_nil_iff, List.filter_eq_nil_iff, Bool.not_eq_true]
  constructor
  · intro h i hi
    exact h (linters[i], i) (List.mem_zipIdx_iff_getElem?.mpr (List.getElem?_eq_getElem hi))
  · intro h x hx
    obtain ⟨hi, -⟩ := List.getElem?_eq_some_iff.mp (List.mem_zipIdx_iff_getElem?.mp hx)
    exact h x.2 hi

theorem participants_eq_selected
    (h : ∀ i l, linters[i]? = some l → l.isSwitchedOn = on i ∧ l.enabled = !off i) :
    participants linters = selected on off linters := by
  have hon : inPlaces on linters = linters.filter Linter.isSwitchedOn :=
    inPlaces_eq_filter fun i l hl => (h i l hl).1
  have hoff : inPlaces (fun i => !off i) linters = linters.filter Linter.enabled :=
    inPlaces_eq_filter fun i l hl => (h i l hl).2
  rw [selected, hon, hoff]
  split
  · exact participants_of_none_chosen ‹_›
  · exact participants_of_chosen ‹_›

/-- A choice of some of the places gives the same linters only if it leaves none of them out. -/
theorem inPlaces_eq_iff (hpq : ∀ i, p i = true → q i = true) :
    inPlaces p linters = inPlaces q linters ↔ ∀ i < linters.length, q i = true → p i = true := by
  have hlength : (linters.zipIdx.filter fun x => p x.2) =
      (linters.zipIdx.filter fun x => q x.2).filter fun x => p x.2 := by
    rw [List.filter_filter]
    refine List.filter_congr fun x _ => ?_
    cases hp : p x.2 <;> simp [hpq, hp]
  constructor
  · intro h i hi hq
    have hh := congrArg List.length h
    simp only [inPlaces, List.length_map] at hh
    rw [hlength, List.length_filter_eq_length_iff] at hh
    refine hh (linters[i], i) (List.mem_filter.mpr ⟨?_, hq⟩)
    exact List.mem_zipIdx_iff_getElem?.mpr (List.getElem?_eq_getElem hi)
  · intro h
    refine congrArg (List.map Prod.fst) (List.filter_congr fun x hx => ?_)
    obtain ⟨hi, -⟩ := List.getElem?_eq_some_iff.mp (List.mem_zipIdx_iff_getElem?.mp hx)
    exact Bool.eq_iff_iff.mpr ⟨hpq x.2, h x.2 hi⟩

theorem length_assigned (history : List (Nat × Option Bool)) (linters : List Linter) :
    (assigned history linters).length = linters.length := by
  induction history generalizing linters with
  | nil => rfl
  | cons a history ih => exact (ih (assign linters a)).trans (List.length_modify _ _ _)

theorem assignedTo_append_singleton (a : Nat × Option Bool) (i : Nat) :
    assignedTo (history ++ [a]) i = assignedTo history i ++ if a.1 = i then [a.2] else [] := by
  simp only [assignedTo, List.filterMap_append, List.filterMap_cons, List.filterMap_nil]
  split <;> simp_all

theorem leftAt_append_singleton (a : Nat × Option Bool) (i : Nat) :
    leftAt (history ++ [a]) i = if a.1 = i then a.2 else leftAt history i := by
  rw [leftAt, assignedTo_append_singleton]
  split <;> simp [leftAt]

theorem wasOff_append_singleton (a : Nat × Option Bool) (i : Nat) :
    wasOff (history ++ [a]) i = if a.1 = i then wasOff history i || a.2 == some false
      else wasOff history i := by
  rw [wasOff, assignedTo_append_singleton]
  split <;> simp [wasOff, beq_eq_decide, eq_comm]

/-- A toggle holds what was assigned to it last; a linter stays enabled as long as it is not switched
off. -/
theorem getElem?_assigned (hfresh : ∀ l ∈ linters, l.toggle = none ∧ l.enabled = true) (i : Nat)
    {l : Linter} (h : (assigned history linters)[i]? = some l) :
    l.toggle = leftAt history i ∧ l.enabled = !wasOff history i := by
  induction history using List.reverseRecOn generalizing l with
  | nil => exact hfresh l (List.mem_of_getElem? h)
  | append_singleton history a ih =>
    rw [assigned, List.foldl_append, List.foldl_cons, List.foldl_nil, assign,
      List.getElem?_modify] at h
    obtain ⟨before, hb, rfl⟩ := Option.map_eq_some_iff.mp h
    obtain ⟨ht, he⟩ := ih hb
    rw [leftAt_append_singleton, wasOff_append_singleton]
    by_cases hi : a.1 = i
    · simp only [hi, if_true, Linter.setToggle, he, Bool.not_or, true_and]
      rfl
    · simpa [hi] using ⟨ht, he⟩

theorem wasOff_of_lastWord {i : Nat} (h : lastWord history i = some false) :
    wasOff history i = true := by
  obtain ⟨value, hm, hv⟩ := List.mem_filterMap.mp (List.mem_of_getLast? h)
  exact List.contains_iff_mem.mpr (hv ▸ hm)

/-- A linter that was switched off is either on or off by the last word on it. -/
theorem lastWord_of_wasOff {i : Nat} (h : wasOff history i = true) :
    lastWord history i = some true ∨ lastWord history i = some false := by
  have hne : (assignedTo history i).filterMap id ≠ [] := by
    refine List.ne_nil_of_mem (a := false) (List.mem_filterMap.mpr ⟨some false, ?_, rfl⟩)
    exact List.contains_iff_mem.mp h
  rw [lastWord, List.getLast?_eq_some_getLast hne]
  cases ((assignedTo history i).filterMap id).getLast hne <;> simp

/-- Who takes part follows from the history of the toggles: those that are on in the end, or else
those that were never switched off. That the last word on a linter decides, so that switching it on
makes up for having switched it off, holds as long as some toggle is on in the end, or nothing was
switched on that had been off. -/
theorem participants_assigned (hfresh : ∀ l ∈ linters, l.toggle = none ∧ l.enabled = true)
    (history : List (Nat × Option Bool)) :
    let after := assigned history linters
    let on : Nat → Bool := fun i => leftAt history i == some true
    participants after = selected on (wasOff history) after ∧
      (participants after = selected on (fun i => lastWord history i == some false) after ↔
        (∃ i < linters.length, leftAt history i = some true) ∨
          ∀ i < linters.length, lastWord history i = some true → wasOff history i = false) := by
  intro after on
  have hparticipants : participants after = selected on (wasOff history) after :=
    participants_eq_selected fun i l hl => by
      obtain ⟨ht, he⟩ := getElem?_assigned hfresh i hl
      exact ⟨by rw [Linter.isSwitchedOn, ht], he⟩
  refine ⟨hparticipants, ?_⟩
  have hlength : after.length = linters.length := length_assigned history linters
  rw [hparticipants]
  by_cases hon : inPlaces on after = []
  · have hnone : ¬ ∃ i < linters.length, leftAt history i = some true := by
      rintro ⟨i, hi, h⟩
      have hoff := inPlaces_eq_nil_iff.mp hon i (hlength ▸ hi)
      simp [on, h] at hoff
    have hpq : ∀ i, (!wasOff history i) = true → (!lastWord history i == some false) = true := by
      intro i h
      have hne : lastWord history i ≠ some false := fun hl => by simp [wasOff_of_lastWord hl] at h
      simpa using hne
    simp only [selected, hon, if_true, hnone, false_or]
    rw [inPlaces_eq_iff hpq, hlength]
    refine forall₂_congr fun i _ => ?_
    cases hw : wasOff history i with
    | false => simp
    | true => rcases lastWord_of_wasOff hw with h | h <;> simp [h]
  · have hsome : ∃ i < linters.length, leftAt history i = some true := by
      by_contra hno
      refine hon (inPlaces_eq_nil_iff.mpr fun i hi => ?_)
      simpa [on] using fun h => hno ⟨i, hlength ▸ hi, h⟩
    simp [selected, hon, hsome]

def untold (names : List String) : List Linter :=
  names.map fun name => Linter.configured name name [] none none none

/-- A toggle that was cleared leaves the others to what was said about them. -/
theorem participants_assigned_cleared :
    let linters := untold ["A", "B", "C"]
    let history := [(0, some true), (1, some false), (0, none)]
    (∀ l ∈ linters, l.toggle = none ∧ l.enabled = true) ∧
      participants (assigned history linters) =
        selected (fun i => leftAt history i == some true) (wasOff history)
          (assigned history linters) ∧
      (participants (assigned history linters)).map Linter.name = ["A", "C"] := by
  intro linters history
  have hfresh : ∀ l ∈ linters, l.toggle = none ∧ l.enabled = true := by decide
  exact ⟨hfresh, (participants_assigned hfresh history).1, by decide⟩

/-- Switching a linter on does not make up for having switched it off: when its toggle is cleared, it
takes no part though the last word on it was that it should. -/
theorem reenabled_left_out :
    let history := [(0, some false), (0, some true), (0, none)]
    let after := assigned history (untold ["A", "B"])
    lastWord history 0 = some true ∧ leftAt history 0 = none ∧ leftAt history 1 = none ∧
      (participants after).map Linter.name = ["B"] ∧
      participants after ≠ selected (fun i => leftAt history i == some true)
        (fun i => lastWord history i == some false) after := by
  decide

end LintDispatch.Dispatch
