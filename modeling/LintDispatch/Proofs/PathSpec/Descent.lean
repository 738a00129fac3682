import LintDispatch.PathSpec.Expansion
import LintDispatch.Proofs.Disk.Following

/-! The descent below a directory finds every way that can be followed without hidden names. Its
depth is bounded by the room that the disk leaves, links that lead in a circle included. -/

namespace LintDispatch.PathSpec

open Disk (Arrival)

variable {disk : Disk} {a b : Arrival} {name : FileName} {names : List FileName} {depth : Nat}

/-- The paths through one entry of a directory that lead further down. -/
def beyond (disk : Disk) (depth : Nat) (a : Arrival) (name : FileName) : List (List FileName) :=
  match disk.follow a.links a.place [name] with
  | .ok next =>
    match next.entry with
    | .directory => (descend disk depth next).map (name :: ·)
    | _ => []
  | .error _ => []

theorem mem_beyond_iff : names ∈ beyond disk depth a name ↔
    ∃ next rest, disk.follow a.links a.place [name] = .ok next ∧ next.entry = .directory ∧
      rest ∈ descend disk depth next ∧ names = name :: rest := by
  simp only [beyond]
  constructor
  · intro h
    split at h
    · rename_i next hf
      split at h
      · rename_i hd
        obtain ⟨rest, hr, rfl⟩ := List.mem_map.mp h
        exact ⟨next, rest, hf, hd, hr, rfl⟩
      · simp at h
    · simp at h
  · rintro ⟨next, rest, hf, hd, hr, rfl⟩
    simp [hf, hd, hr]

theorem mem_descend_succ : names ∈ descend disk (depth + 1) a ↔
    ∃ name ∈ disk.names a.place, Path.isHidden name = false ∧
      names ∈ [name] :: beyond disk depth a name := by
  simp only [descend, List.mem_flatMap, List.mem_ite_nil_left]
  simp only [Bool.not_eq_true]
  exact Iff.rfl

theorem mem_withDescendants_iff : names ∈ withDescendants disk a name ↔
    names ∈ [name] :: beyond disk (depthBound disk) a name := Iff.rfl

theorem of_mem_descend (h : names ∈ descend disk depth a) :
    names ≠ [] ∧ ∀ name ∈ names, Path.IsPlain name ∧ Path.isHidden name = false := by
  induction depth generalizing a names with
  | zero => simp [descend] at h
  | succ depth ih =>
    obtain ⟨name, hn, hh, hm⟩ := mem_descend_succ.mp h
    have hname := Disk.plain_of_mem_names hn
    rcases List.mem_cons.mp hm with rfl | hm
    · simp [hname, hh]
    · obtain ⟨next, rest, -, -, hr, rfl⟩ := mem_beyond_iff.mp hm
      simp only [ne_eq, reduceCtorEq, not_false_eq_true, List.mem_cons, forall_eq_or_imp, true_and]
      exact ⟨⟨hname, hh⟩, (ih hr).2⟩

theorem follow_cons_plain {rest : List FileName} (hrest : rest ≠ [])
    (h : disk.follow a.links a.place (name :: rest) = .ok b) :
    ∃ next, disk.follow a.links a.place [name] = .ok next ∧ next.entry = .directory ∧
      disk.follow next.links next.place rest = .ok b :=
  (Disk.follow_append hrest a.links a.place [name] b).mp h

/-- Whatever can be followed within the depth is found. -/
theorem mem_descend (hroom : disk.room a < depth) (hne : names ≠ [])
    (hn : ∀ name ∈ names, Path.IsPlain name ∧ Path.isHidden name = false)
    (h : disk.follow a.links a.place names = .ok b) : names ∈ descend disk depth a := by
  induction names generalizing a depth with
  | nil => exact absurd rfl hne
  | cons name rest ih =>
    obtain ⟨hname, hhidden⟩ := hn name List.mem_cons_self
    obtain ⟨depth, rfl⟩ : ∃ d, depth = d + 1 := ⟨depth - 1, by omega⟩
    rw [mem_descend_succ]
    by_cases hrest : rest = []
    · subst hrest
      exact ⟨name, (Disk.follow_plain hname h).1, hhidden, List.mem_cons_self⟩
    · obtain ⟨next, hf, hd, hb⟩ := follow_cons_plain hrest h
      have hlt := Disk.room_lt hname hf
      refine ⟨name, (Disk.follow_plain hname hf).1, hhidden, List.mem_cons_of_mem _ ?_⟩
      exact mem_beyond_iff.mpr ⟨next, rest, hf, hd,
        ih (by omega) hrest (fun n hm => hn n (List.mem_cons_of_mem _ hm)) hb, rfl⟩

theorem room_lt_depthBound (h : a.links ≤ Disk.maxLinks) : disk.room a < depthBound disk := by
  have hp := disk.populationBelow_le a.place
  have hm := Nat.mul_le_mul_right (disk.entries.length + 1) h
  simp only [Disk.room, depthBound, Nat.add_mul] at hm ⊢
  omega

theorem directory?_eq_some_iff {parts : List FileName} :
    directory? disk parts = some a ↔ disk.arrive parts = .ok a ∧ a.entry = .directory := by
  simp only [directory?]
  cases disk.arrive parts with
  | error e => simp
  | ok m =>
    simp only [Except.ok.injEq, Option.ite_none_right_eq_some, Option.some.injEq]
    grind

/-- The names of a path that a last component stands for. -/
def Continues (start : FileName) (names : List FileName) : Prop :=
  ∃ first rest, names = first :: rest ∧ matchesStart start first = true ∧
    ∀ name ∈ rest, Path.isHidden name = false

theorem Continues.ne_nil {start : FileName} (h : Continues start names) : names ≠ [] := by
  obtain ⟨first, rest, rfl, -, -⟩ := h
  simp

theorem of_mem_candidates {parent : List FileName} {start : FileName}
    (h : names ∈ candidates disk parent start) :
    Continues start names ∧ ∀ name ∈ names, Path.IsPlain name := by
  simp only [candidates] at h
  split at h
  · obtain ⟨first, hf, hm⟩ := List.mem_flatMap.mp h
    obtain ⟨hn, hs⟩ := List.mem_filter.mp hf
    have hfirst := Disk.plain_of_mem_names hn
    rcases List.mem_cons.mp (mem_withDescendants_iff.mp hm) with rfl | hm
    · exact ⟨⟨first, [], rfl, hs, by simp⟩, by simpa using hfirst⟩
    · obtain ⟨next, rest, -, -, hr, rfl⟩ := mem_beyond_iff.mp hm
      have hrest := (of_mem_descend hr).2
      refine ⟨⟨first, rest, rfl, hs, fun name hm => (hrest name hm).2⟩, fun name hm => ?_⟩
      rcases List.mem_cons.mp hm with rfl | hm
      · exact hfirst
      · exact (hrest name hm).1
  · simp at h

theorem mem_candidates {parent : List FileName} {start : FileName}
    (h : disk.arrive (parent ++ names) = .ok b) (hc : Continues start names)
    (hp : ∀ name ∈ names, Path.IsPlain name) : names ∈ candidates disk parent start := by
  obtain ⟨m, hm, hd, hb⟩ := (Disk.follow_append hc.ne_nil Disk.maxLinks [] parent b).mp h
  obtain ⟨first, rest, rfl, hs, hh⟩ := hc
  have hfirst := hp first List.mem_cons_self
  have hlinks := Disk.follow_links_le Disk.maxLinks hm
  simp only [candidates, directory?_eq_some_iff.mpr ⟨hm, hd⟩]
  have hstart : ∀ a, disk.follow m.links m.place [first] = .ok a →
      first ∈ startingNames disk m start := fun a ha =>
    List.mem_filter.mpr ⟨(Disk.follow_plain hfirst ha).1, hs⟩
  by_cases hrest : rest = []
  · subst hrest
    exact List.mem_flatMap.mpr ⟨first, hstart b hb, List.mem_cons_self⟩
  · obtain ⟨next, hf, hnd, hnb⟩ := follow_cons_plain hrest hb
    have hnext := Disk.follow_links_le m.links hf
    have hdesc : rest ∈ descend disk (depthBound disk) next :=
      mem_descend (room_lt_depthBound (Nat.le_trans hnext hlinks)) hrest
        (fun name hm => ⟨hp name (List.mem_cons_of_mem _ hm), hh name hm⟩) hnb
    exact List.mem_flatMap.mpr ⟨first, hstart next hf,
      List.mem_cons_of_mem _ (mem_beyond_iff.mpr ⟨next, rest, hf, hnd, hdesc, rfl⟩)⟩

end LintDispatch.PathSpec
