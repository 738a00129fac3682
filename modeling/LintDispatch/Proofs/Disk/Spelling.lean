import LintDispatch.Disk.Path

/-! The text of a path names it uniquely: reading it gives the path back, and what starts with the
text of a directory and a slash lies below that directory. -/

namespace LintDispatch.Path

theorem foldl_push_of_plain {names : List FileName} (h : ∀ name ∈ names, IsPlain name)
    (stack : List FileName) : names.foldl push stack = names.reverse ++ stack := by
  induction names generalizing stack with
  | nil => rfl
  | cons name names ih =>
    obtain ⟨hn, hd, hdd, _⟩ := h name List.mem_cons_self
    rw [List.foldl_cons, push_name stack hn hd hdd,
      ih fun n hm => h n (List.mem_cons_of_mem _ hm)]
    simp

theorem normalize_of_plain {names : List FileName} (h : ∀ name ∈ names, IsPlain name) :
    normalize names = names := by
  simp [normalize, foldl_push_of_plain h]

theorem normalize_empty_cons (parts : List FileName) : normalize ([] :: parts) = normalize parts := by
  simp [normalize, push_empty]

theorem along_names {p : Path} {names : List FileName} (h : ∀ name ∈ names, IsPlain name) :
    (p.along names).names = p.names ++ names := by
  simpa [along, List.filter_eq_self] using h

theorem eq_along {p q : Path} {names : List FileName} (hd : q.doubled = p.doubled)
    (hn : q.names = p.names ++ names) : q = p.along names := by
  have hp : ∀ name ∈ names, IsPlain name := fun name hm => q.plain name (by simp [hn, hm])
  have he : q.names = (p.along names).names := by rw [hn, along_names hp]
  cases q
  simp only at hd he
  subst hd he
  rfl

/-- The slashes that a path begins with. -/
def lead (p : Path) : List Char :=
  if p.doubled then ['/', '/'] else ['/']

theorem text_eq (p : Path) : p.text = p.lead ++ Text.joinWith '/' p.names := rfl

def gap (p : Path) : List FileName :=
  if p.doubled then [[], []] else [[]]

theorem components_text (p : Path) :
    components p.text = p.gap ++ if p.names = [] then [[]] else p.names := by
  have hs : ∀ s : List Char, components (p.lead ++ s) = p.gap ++ components s := by
    intro s
    cases hd : p.doubled <;> simp [lead, gap, hd, components, Text.splitAt]
  rw [text_eq, hs]
  congr 1
  split
  · rename_i hn
    simp [hn, Text.joinWith, components, Text.splitAt]
  · rename_i hn
    exact Text.splitAt_joinWith hn fun name hm => (p.plain name hm).2.2.2

theorem startsDoubled_text (p : Path) : startsDoubled p.text = p.doubled := by
  rw [text_eq]
  -- What follows the leading slashes is no slash, so their number can be told.
  have hne : ∀ s : List Char, Text.joinWith '/' p.names ≠ '/' :: s := by
    intro s he
    have hc := components_text p
    rw [text_eq, he] at hc
    cases hn : p.names with
    | nil => simp [hn, Text.joinWith] at he
    | cons name names =>
      have hplain := (p.plain name (by simp [hn])).1
      cases hd : p.doubled <;>
        simp [lead, gap, hd, hn, components, Text.splitAt, hplain.symm] at hc
  generalize Text.joinWith '/' p.names = s at hne
  cases s with
  | nil => cases hd : p.doubled <;> simp [lead, hd, startsDoubled]
  | cons c s =>
    have hc : c ≠ '/' := fun he => hne s (by rw [he])
    cases hd : p.doubled <;> simp [lead, hd, startsDoubled, hc]

/-- Reading what is written gives the path back. -/
theorem ofAbsolute_text (p : Path) : ofAbsolute p.text = p := by
  have hn : normalize (components p.text) = p.names := by
    have hgap : ∀ parts, normalize (p.gap ++ parts) = normalize parts := by
      intro parts
      cases hd : p.doubled <;> simp [gap, hd, normalize_empty_cons]
    rw [components_text, hgap]
    split
    · rename_i h
      rw [h]
      rfl
    · exact normalize_of_plain p.plain
  obtain ⟨doubled, names, plain⟩ := p
  simp only [ofAbsolute, Path.mk.injEq]
  exact ⟨startsDoubled_text _, hn⟩

theorem relativeTo?_eq_some_iff {root : Path} {s r : List Char} :
    root.relativeTo? s = some r ↔ s = root.below ++ r := by
  simp only [relativeTo?]
  constructor
  · intro h
    split at h
    · rename_i hp
      obtain ⟨t, rfl⟩ := List.isPrefixOf_iff_prefix.mp hp
      simpa using h
    · cases h
  · rintro rfl
    simp

theorem below_eq {root : Path} (h : root.names ≠ []) : root.below = root.text ++ ['/'] := by
  obtain ⟨init, last, hn⟩ : ∃ init last, root.names = init ++ [last] :=
    ⟨_, _, (List.dropLast_concat_getLast h).symm⟩
  obtain ⟨hl, -, -, hs⟩ := root.plain last (by simp [hn])
  obtain ⟨s, c, rfl⟩ : ∃ s c, last = s ++ [c] := ⟨_, _, (List.dropLast_concat_getLast hl).symm⟩
  have hc : c ≠ '/' := fun he => hs (by simp [he])
  obtain ⟨before, ht⟩ : ∃ before, root.text = before ++ [c] := by
    rw [text_eq, hn]
    cases init with
    | nil => exact ⟨root.lead ++ s, by simp [Text.joinWith]⟩
    | cons name init =>
      exact ⟨root.lead ++ (Text.joinWith '/' (name :: init) ++ '/' :: s), by
        rw [Text.joinWith_append '/' (by simp) (by simp)]; simp [Text.joinWith]⟩
  simp [below, ht, hc]

/-- Where `r`, seen from `root`, leads from the root of the file system. -/
def place (root : Path) (r : String) : List FileName :=
  (ofAbsolute (root.below ++ r.toList)).names

theorem names_eq_place {root p : Path} {r : String} (h : p.text = root.below ++ r.toList) :
    p.names = root.place r := by
  rw [place, ← h, ofAbsolute_text]

theorem names_concat_eq_place {root : Path} {name : FileName} {r : String} (hp : IsPlain name)
    (h : root.text ++ '/' :: name = root.below ++ r.toList) :
    root.names ++ [name] = root.place r := by
  have hc : components (root.text ++ '/' :: name) = components root.text ++ [name] := by
    rw [components, Text.splitAt_append_sep, Text.splitAt_of_not_mem hp.2.2.2]
    rfl
  have hn : ∀ parts, normalize (root.gap ++ parts) = normalize parts := by
    intro parts
    cases hd : root.doubled <;> simp [gap, hd, normalize_empty_cons]
  have hplain : ∀ part ∈ root.names ++ [name], IsPlain part := by
    intro part hm
    rcases List.mem_append.mp hm with hm | hm
    · exact root.plain part hm
    · rwa [List.mem_singleton.mp hm]
  rw [place, ← h]
  simp only [ofAbsolute, hc, components_text, List.append_assoc, hn]
  split
  · rename_i he
    simpa [he, normalize_empty_cons] using (normalize_of_plain hplain).symm
  · exact (normalize_of_plain hplain).symm

theorem mem_of_mem_normalize {parts : List FileName} {name : FileName}
    (h : name ∈ normalize parts) : name ∈ parts := by
  suffices ∀ stack : List FileName, name ∈ parts.foldl push stack → name ∈ stack ∨ name ∈ parts by
    simpa using this [] (List.mem_reverse.mp h)
  clear h
  induction parts with
  | nil => exact fun _ hm => .inl hm
  | cons part parts ih =>
    intro stack hm
    rcases ih _ hm with hm | hm
    · simp only [push] at hm
      split at hm
      · exact .inl hm
      · split at hm
        · exact .inl (List.mem_of_mem_tail hm)
        · rcases List.mem_cons.mp hm with rfl | hm
          · exact .inr List.mem_cons_self
          · exact .inl hm
    · exact .inr (List.mem_cons_of_mem _ hm)

theorem mem_of_mem_join {base : Path} {spec : List Char} {name : FileName}
    (h : name ∈ (base.join spec).names) : name ∈ base.names ∨ name ∈ components spec := by
  simp only [join] at h
  split at h
  · exact .inr (mem_of_mem_normalize h)
  · exact List.mem_append.mp (mem_of_mem_normalize h)

end LintDispatch.Path
