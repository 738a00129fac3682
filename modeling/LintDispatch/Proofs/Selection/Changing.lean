import LintDispatch.Proofs.Selection.History

/-! Changed files only. What a source reports is read as path specs, so the scope holds the reported
files that are there, and any file besides whose path goes on where a reported one ends. -/

namespace LintDispatch

namespace PathSpec

/-- Seen from `root`, `spec` and `r` name the same path. -/
def Spells (root : Path) (spec r : String) : Prop :=
  (root.join spec.toList).text = root.below ++ r.toList

/-- Seen from `root`, `r` is a file whose path starts with that of `spec` and goes on. -/
def Extends (disk : Disk) (root : Path) (spec r : String) : Prop :=
  disk.isFile (root.place r) = true ∧
    ∃ more, more ≠ [] ∧ root.below ++ r.toList = (root.join spec.toList).text ++ more

theorem joinWith_prefix (before : List FileName) {last first : FileName} (rest : List FileName)
    (h : last <+: first) :
    Text.joinWith '/' (before ++ [last]) <+: Text.joinWith '/' (before ++ first :: rest) := by
  have htail : Text.joinWith '/' [last] <+: Text.joinWith '/' (first :: rest) := by
    cases rest with
    | nil => exact h
    | cons name rest => exact h.trans (List.prefix_append _ _)
  by_cases hb : before = []
  · rwa [hb]
  · rw [Text.joinWith_append '/' hb (by simp), Text.joinWith_append '/' hb (by simp)]
    exact (List.prefix_append_right_inj _).mpr ((List.prefix_cons_inj '/').mpr htail)

/-- A path starts as whatever stands for it does. -/
theorem text_prefix_of_covers {target p : Path} (h : Covers target p) : target.text <+: p.text := by
  obtain ⟨hd, first, rest, hn, hl, -, -⟩ := h
  have hlead : p.lead = target.lead := by simp [Path.lead, hd]
  rw [Path.text_eq, Path.text_eq, hlead, hn]
  refine (List.prefix_append_right_inj _).mpr ?_
  by_cases ht : target.names = []
  · simp [ht, Text.joinWith]
  · have hnames : target.names = target.parent.names ++ [target.lastName] := by
      rw [Path.parent, Path.lastName, List.getLast?_eq_some_getLast ht]
      exact (List.dropLast_concat_getLast ht).symm
    rw [hnames]
    exact joinWith_prefix _ rest hl

theorem spells_or_extends {disk : Disk} {root : Path} {spec r : String}
    (h : Matches disk root spec r) : Spells root spec r ∨ Extends disk root spec r := by
  obtain ⟨hfile, p, ht, hc⟩ := h
  obtain ⟨more, hm⟩ := text_prefix_of_covers hc
  rw [ht] at hm
  by_cases hmore : more = []
  · exact .inl (by simpa [Spells, hmore] using hm)
  · exact .inr ⟨hfile, more, hmore, hm.symm⟩

end PathSpec

namespace Engine

variable {ε : Type}

/-- Whatever was asked before and whatever the source reports, an answer on changes is about one
report: each of its files is a reported path or goes on where a reported path ends. So where no file
does the latter but those that are reported as well, nothing but reported files is answered. -/
theorem answer_within_changes (root : Path) (sources ignored : List String)
    (calls : List (Call ε)) (c : Call ε) {files : List String}
    (hchanged : c.request.changedOnly = true)
    (h : (((ofSpecs root sources ignored).after calls).answer c).result = .ok (.files files)) :
    ∃ seen change,
      c.source.changed c.disk c.request.reference c.request.scopes = (seen, .ok change) ∧
      (∀ r ∈ files, ∃ spec ∈ change.files,
        PathSpec.Spells root spec r ∨ PathSpec.Extends seen root spec r) ∧
      ((∀ spec ∈ change.files, ∀ r, PathSpec.Extends seen root spec r →
          ∃ other ∈ change.files, PathSpec.Spells root other r) →
        ∀ r ∈ files, ∃ spec ∈ change.files, PathSpec.Spells root spec r) := by
  let engine := (ofSpecs root sources ignored).after calls
  obtain ⟨hforget, hrem⟩ := ofSpecs_after root sources ignored calls
  have hroot : engine.filters.root = root := congrArg Filters.root hforget
  obtain ⟨found, a, i, hfound, -, -, -, rfl⟩ := answer_eq_files hrem h
  obtain ⟨specs, hlook, hexpand⟩ := found_eq_ok hfound
  rcases hlook with ⟨hc, -⟩ | ⟨-, change, hq, rfl⟩
  · rw [hchanged] at hc
    cases hc
  have hnames : ∀ r ∈ (FileSet.inter found a).diff i, ∃ spec ∈ change.files,
      PathSpec.Spells root spec r ∨ PathSpec.Extends (engine.found c).disk root spec r := by
    intro r hr
    have hf : r ∈ found := (List.mem_filter.mp (List.mem_filter.mp hr).1).1
    obtain ⟨spec, hspec, hm⟩ := (PathSpec.mem_expandAll_iff hexpand).mp hf
    exact ⟨spec, hspec, PathSpec.spells_or_extends (hroot ▸ hm)⟩
  refine ⟨_, change, hq, hnames, fun honly r hr => ?_⟩
  obtain ⟨spec, hspec, hm | hm⟩ := hnames r hr
  · exact ⟨spec, hspec, hm⟩
  · exact honly spec hspec r hm

def Call.changes (names lines : List String) : Call Unit :=
  { Call.within names [] with
    source := .git fun disk _ => (disk, .ok lines)
    request := ⟨[], true, ""⟩ }

/-- A reported path that is gone, and one that is ignored, select nothing. -/
theorem answer_within_changes_filtered :
    let root := Path.ofAbsolute "/p".toList
    let c := Call.changes ["app/a.rb", "app/b.rb", "lib/old.rb"] ["app/a.rb", "app/c.rb", "lib/old.rb"]
    c.request.changedOnly = true ∧
      ((ofSpecs root ["."] ["lib/old"]).answer c).result = .ok (.files ["app/a.rb"]) ∧
      ∃ seen change,
        c.source.changed c.disk c.request.reference c.request.scopes = (seen, .ok change) ∧
        ∀ r ∈ ["app/a.rb"], ∃ spec ∈ change.files,
          PathSpec.Spells root spec r ∨ PathSpec.Extends seen root spec r := by
  intro root c
  have h : ((ofSpecs root ["."] ["lib/old"]).answer c).result = .ok (.files ["app/a.rb"]) :=
    Resolution.result_of_files? (by decide +kernel)
  obtain ⟨seen, change, hq, hnames, -⟩ :=
    answer_within_changes root ["."] ["lib/old"] [] c rfl h
  exact ⟨rfl, h, seen, change, hq, hnames⟩

/-- A file that did not change is answered for the sake of a changed one with a shorter name. -/
theorem unchanged_continuation_answered :
    let root := Path.ofAbsolute "/p".toList
    let c := Call.changes ["lib/user.rb", "lib/user.rbi"] ["lib/user.rb"]
    c.request.changedOnly = true ∧
      c.source.changed c.disk c.request.reference c.request.scopes =
        (c.disk, .ok ⟨Change.queryCommand "" ["."], ["lib/user.rb"]⟩) ∧
      ((ofSpecs root ["./"] []).answer c).result = .ok (.files ["lib/user.rb", "lib/user.rbi"]) ∧
      ∀ spec ∈ ["lib/user.rb"], ¬ PathSpec.Spells root spec "lib/user.rbi" :=
  ⟨rfl, rfl, Resolution.result_of_files? (by decide +kernel), by unfold PathSpec.Spells; decide⟩

end Engine

end LintDispatch
