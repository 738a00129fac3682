import LintDispatch.Proofs.Dispatch.Running

/-! Which files of a scope a linter is given. The extension of a path is its one ending that begins
with a dot, holds no other and has more than dots in front of it, so an entry of the extensions is a
condition on how a path ends; the command is the template with the files that meet one. -/

namespace LintDispatch.Linter

variable {path stem suffix : List Char} {f e : String}

/-- What stands in front of the last component of a path. -/
def IsLeading (directory : List Char) : Prop :=
  directory = [] ∨ directory.getLast? = some '/'

/-- The path `f` ends in `e`, a dot with neither dots nor slashes behind it, and in front of it the
last component holds more than dots. -/
def EndsIn (f e : String) : Prop :=
  ∃ directory stem suffix : List Char, f.toList = directory ++ stem ++ e.toList ∧
    IsLeading directory ∧ '/' ∉ stem ∧ (∃ c ∈ stem, c ≠ '.') ∧
    e.toList = '.' :: suffix ∧ '.' ∉ suffix ∧ '/' ∉ suffix

/-- The entry `e` of the extensions lets the file `f` through: by its ending, or, if the entry is
empty, because it has none. -/
def Admits (e f : String) : Prop :=
  EndsIn f e ∨ e = "" ∧ ∀ ending, ¬ EndsIn f ending

theorem baseName_append {directory name : List Char} (hd : IsLeading directory) (hn : '/' ∉ name) :
    baseName (directory ++ name) = name := by
  rcases hd with rfl | hd
  · simp [baseName, Text.splitAt_of_not_mem hn]
  · obtain ⟨d, rfl⟩ := List.getLast?_eq_some_iff.mp hd
    have hs : Text.splitAt '/' (d ++ ['/'] ++ name) = Text.splitAt '/' d ++ [name] := by
      rw [List.append_assoc, List.singleton_append, Text.splitAt_append_sep,
        Text.splitAt_of_not_mem hn]
    rw [baseName, hs, List.getLast?_concat, Option.getD_some]

theorem exists_leading (path : List Char) :
    ∃ directory, path = directory ++ baseName path ∧ IsLeading directory ∧ '/' ∉ baseName path := by
  obtain ⟨init, name, hs⟩ : ∃ init name, Text.splitAt '/' path = init ++ [name] :=
    ⟨_, _, (List.dropLast_concat_getLast (Text.splitAt_ne_nil '/' path)).symm⟩
  have hbase : baseName path = name := by simp [baseName, hs]
  have hname : '/' ∉ name := Text.not_mem_of_mem_splitAt (s := path) (by simp [hs])
  have hjoin : path = Text.joinWith '/' (init ++ [name]) := by
    rw [← hs, Text.joinWith_splitAt]
  rw [hbase]
  cases init with
  | nil => exact ⟨[], hjoin, .inl rfl, hname⟩
  | cons first rest =>
    refine ⟨Text.joinWith '/' (first :: rest) ++ ['/'], ?_, .inr (by simp), hname⟩
    rw [hjoin, Text.joinWith_append '/' (List.cons_ne_nil _ _) (List.cons_ne_nil _ _)]
    simp [Text.joinWith]

theorem splitLastDot?_eq_none_iff : splitLastDot? path = none ↔ '.' ∉ path := by
  refine ⟨fun h => ?_, splitLastDot?_eq_none⟩
  induction path with
  | nil => simp
  | cons c s ih =>
    simp only [splitLastDot?] at h
    cases hs : splitLastDot? s with
    | some parts => simp [hs] at h
    | none =>
      have hc : c ≠ '.' := fun hc => by simp [hs, hc] at h
      simp [ih hs, Ne.symm hc]

theorem splitLastDot?_eq_some_iff :
    splitLastDot? path = some (stem, suffix) ↔ path = stem ++ '.' :: suffix ∧ '.' ∉ suffix := by
  constructor
  · intro h
    induction path generalizing stem with
    | nil => cases h
    | cons c s ih =>
      simp only [splitLastDot?] at h
      cases hs : splitLastDot? s with
      | some parts =>
        simp only [hs, Option.some.injEq, Prod.mk.injEq] at h
        obtain ⟨rfl, rfl⟩ := h
        obtain ⟨he, hd⟩ := ih hs
        exact ⟨by rw [List.cons_append, ← he], hd⟩
      | none =>
        simp only [hs, Option.ite_none_right_eq_some, Option.some.injEq, Prod.mk.injEq] at h
        obtain ⟨rfl, rfl, rfl⟩ := h
        exact ⟨rfl, splitLastDot?_eq_none_iff.mp hs⟩
  · rintro ⟨rfl, hd⟩
    exact splitLastDot?_append hd

theorem extension_of_endsIn (h : EndsIn f e) : extension f = e := by
  obtain ⟨directory, stem, suffix, hf, hd, hs, ⟨c, hc, hdot⟩, he, hnd, hns⟩ := h
  have hbase : baseName f.toList = stem ++ '.' :: suffix := by
    rw [hf, List.append_assoc, he]
    exact baseName_append hd (by simp [hs, hns])
  have hany : (stem.any fun c => decide (c ≠ '.')) = true := List.any_eq_true.mpr ⟨c, hc, by simpa⟩
  rw [extension, hbase, splitLastDot?_append hnd]
  simp only [hany, if_true]
  rw [← he, String.ofList_toList]

theorem endsIn_of_extension (h : extension f = e) (hne : e ≠ "") : EndsIn f e := by
  obtain ⟨directory, hf, hd, hslash⟩ := exists_leading f.toList
  cases hs : splitLastDot? (baseName f.toList) with
  | none => exact absurd (by simpa [extension, hs] using h.symm) hne
  | some parts =>
    obtain ⟨stem, suffix⟩ := parts
    obtain ⟨hb, hdot⟩ := splitLastDot?_eq_some_iff.mp hs
    simp only [extension, hs] at h
    split at h
    · rename_i hany
      obtain ⟨c, hc, hcdot⟩ := List.any_eq_true.mp hany
      rw [hb] at hslash hf
      simp only [List.mem_append, List.mem_cons, not_or] at hslash
      refine ⟨directory, stem, suffix, ?_, hd, hslash.1, ⟨c, hc, by simpa using hcdot⟩, ?_, hdot,
        hslash.2.2⟩
      · rw [hf, ← h, String.toList_ofList, List.append_assoc]
      · rw [← h, String.toList_ofList]
    · exact absurd h.symm hne

theorem endsIn_iff : EndsIn f e ↔ extension f = e ∧ e ≠ "" := by
  refine ⟨fun h => ⟨extension_of_endsIn h, ?_⟩, fun h => endsIn_of_extension h.1 h.2⟩
  rintro rfl
  obtain ⟨_, _, _, _, _, _, _, he, _⟩ := h
  cases he

/-- A path has no ending exactly if its extension is empty. -/
theorem extension_eq_empty_iff : extension f = "" ↔ ∀ ending, ¬ EndsIn f ending := by
  refine ⟨fun h ending he => ?_, fun h => ?_⟩
  · obtain ⟨hx, hne⟩ := endsIn_iff.mp he
    exact hne (hx.symm.trans h)
  · by_cases he : extension f = ""
    · exact he
    · exact absurd (endsIn_of_extension rfl he) (h _)

theorem admits_iff : Admits e f ↔ extension f = e := by
  rw [Admits, ← extension_eq_empty_iff, endsIn_iff]
  grind

instance (e f : String) : Decidable (Admits e f) :=
  decidable_of_iff _ admits_iff.symm

/-- An entry that is neither empty nor a dot with neither dots nor slashes behind it admits no
file. -/
theorem shape_of_admits (h : Admits e f) :
    e = "" ∨ ∃ suffix, e.toList = '.' :: suffix ∧ '.' ∉ suffix ∧ '/' ∉ suffix := by
  rcases h with ⟨_, _, suffix, _, _, _, _, he, hdot, hslash⟩ | ⟨he, -⟩
  · exact .inr ⟨suffix, he, hdot, hslash⟩
  · exact .inl he

theorem applicableFiles_eq (l : Linter) (paths : List String) :
    l.applicableFiles paths = paths.filter fun f => ∃ e ∈ l.extensions, Admits e f := by
  apply List.filter_congr
  intro f _
  simp [admits_iff]

theorem command_files (l : Linter) (paths : List String) : l.command (.files paths) =
    if l.applicableFiles paths = [] then none
    else some (l.template ++ " " ++ " ".intercalate (l.applicableFiles paths)) :=
  commandFrom_files l l.template paths

theorem autocorrectCommand_files (l : Linter) (paths : List String) :
    l.autocorrectCommand (.files paths) = l.autocorrectTemplate.bind fun template =>
      if l.applicableFiles paths = [] then none
      else some (template ++ " " ++ " ".intercalate (l.applicableFiles paths)) := by
  simp only [autocorrectCommand, commandFrom_files]

/-- Within a scope the command of a linter holds, in the order of the scope, those of its files that
an entry of the extensions admits, and there is no command where there are none. Entries that are
neither empty nor shaped like an ending admit nothing, and without a scope the extensions do not
count. -/
theorem command_holds_admitted (l : Linter) (paths : List String) :
    let chosen := paths.filter fun f => ∃ e ∈ l.extensions, Admits e f
    let made := fun template : String =>
      if chosen = [] then none else some (template ++ " " ++ " ".intercalate chosen)
    l.command (.files paths) = made l.template ∧
      l.autocorrectCommand (.files paths) = l.autocorrectTemplate.bind made ∧
      (l.command (.files paths) = none ↔ ∀ f ∈ paths, ∀ e ∈ l.extensions, ¬ Admits e f) ∧
      (l.autocorrectCommand (.files paths) = none ↔
        l.autocorrectTemplate = none ∨ ∀ f ∈ paths, ∀ e ∈ l.extensions, ¬ Admits e f) ∧
      (∀ e f, Admits e f →
        e = "" ∨ ∃ suffix, e.toList = '.' :: suffix ∧ '.' ∉ suffix ∧ '/' ∉ suffix) ∧
      ∀ extensions,
        { l with extensions := extensions }.command .unscoped = some (l.template ++ " .") ∧
        { l with extensions := extensions }.autocorrectCommand .unscoped =
          l.autocorrectTemplate.map (· ++ " .") := by
  intro chosen made
  have hchosen : l.applicableFiles paths = chosen := applicableFiles_eq l paths
  have hcommand : l.command (.files paths) = made l.template := by rw [command_files, hchosen]
  have hautocorrect : l.autocorrectCommand (.files paths) = l.autocorrectTemplate.bind made := by
    rw [autocorrectCommand_files, hchosen]
  have hmade : ∀ template, made template = none ↔ ∀ f ∈ paths, ∀ e ∈ l.extensions, ¬ Admits e f := by
    intro template
    simp [made, chosen, List.filter_eq_nil_iff]
  refine ⟨hcommand, hautocorrect, ?_, ?_, fun _ _ => shape_of_admits, fun extensions => ⟨?_, ?_⟩⟩
  · rw [hcommand, hmade]
  · rw [hautocorrect]
    cases l.autocorrectTemplate with
    | none => simp
    | some template => simpa using hmade template
  · exact commandFrom_unscoped _ l.template
  · simp only [autocorrectCommand, commandFrom_unscoped]
    cases l.autocorrectTemplate <;> rfl

example : (Linter.configured "" "" [".rb", "rb", ".min.js", "."] none none none).applicableFiles
    [".rb", "..rb", "a.", "x.min.js", "d.rb/file", "d/a.b.rb"] = ["a.", "d/a.b.rb"] := by
  decide +kernel

end LintDispatch.Linter
