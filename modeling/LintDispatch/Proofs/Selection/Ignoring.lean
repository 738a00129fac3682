import LintDispatch.Proofs.Selection.History

/-! Ignored paths win: no file is answered that is an ignored path or lies below one, unless it is
hidden there. The specs pass hidden names over when they ignore just as they do when they find. -/

namespace LintDispatch

/-- `p` is `directory` itself, or lies below it with no hidden name on the way. -/
def Path.Shows (directory p : Path) : Prop :=
  p.doubled = directory.doubled ∧ ∃ rest, p.names = directory.names ++ rest ∧
    ∀ name ∈ rest, Path.isHidden name = false

namespace PathSpec

theorem covers_of_shows {target p : Path} (h : target.Shows p) (hp : p.names ≠ []) :
    Covers target p := by
  obtain ⟨hd, rest, hn, hh⟩ := h
  by_cases ht : target.names = []
  · obtain ⟨first, rest, rfl⟩ := List.exists_cons_of_ne_nil (by simpa [hn, ht] using hp)
    refine ⟨hd, first, rest, ?_, ?_, fun hf => ?_, fun n hm => hh n (List.mem_cons_of_mem _ hm)⟩
    · simp [hn, Path.parent, ht]
    · simp [Path.lastName, ht]
    · simp [hh first List.mem_cons_self] at hf
  · have hlast : target.parent.names ++ [target.lastName] = target.names := by
      rw [Path.parent, Path.lastName, List.getLast?_eq_some_getLast ht]
      exact List.dropLast_concat_getLast ht
    refine ⟨hd, target.lastName, rest, ?_, List.prefix_refl _, id, hh⟩
    rw [hn, ← hlast]
    simp

theorem denotes_of_shows {root p : Path} {spec r : String} (ht : p.text = root.below ++ r.toList)
    (hp : p.names ≠ []) (h : (root.join spec.toList).Shows p) : Denotes root spec r :=
  ⟨p, ht, covers_of_shows h hp⟩

theorem isFile_nil (disk : Disk) : disk.isFile [] = false := by
  simp [Disk.isFile, Disk.arrive, Disk.follow_nil]

end PathSpec

namespace Engine

variable {ε : Type}

/-- Whatever was asked before, the files of an answer are paths below the root that no ignored path
shows. -/
theorem answer_avoids_ignored (root : Path) (sources ignored : List String)
    (calls : List (Call ε)) (c : Call ε) {files : List String}
    (h : (((ofSpecs root sources ignored).after calls).answer c).result = .ok (.files files)) :
    ∀ r ∈ files, ∃ p : Path, p.text = root.below ++ r.toList ∧
      ∀ spec ∈ ignored, ¬ (root.join spec.toList).Shows p := by
  let engine := (ofSpecs root sources ignored).after calls
  obtain ⟨hforget, hrem⟩ := ofSpecs_after root sources ignored calls
  have hroot : engine.filters.root = root := congrArg Filters.root hforget
  have hspecs : engine.filters.ignoredSpecs = ignored := congrArg Filters.ignoredSpecs hforget
  obtain ⟨found, a, i, hfound, -, ha, hi, rfl⟩ := answer_eq_files hrem h
  intro r hr
  simp only [FileSet.diff, FileSet.inter, List.mem_filter, List.contains_iff_mem,
    Bool.not_eq_true', Bool.eq_false_iff, ne_eq] at hr
  obtain ⟨⟨hf, hallowed⟩, hignored⟩ := hr
  -- The name is told by what was found, and that a file was there by the whitelist.
  obtain ⟨_, -, p, ht, -⟩ := matches_of_found hfound hf
  have hthere := ((Filters.mem_computeWhitelist_iff ha).mp hallowed).1
  have hp : p.names ≠ [] := by
    intro he
    rw [← Path.names_eq_place ht, he, PathSpec.isFile_nil] at hthere
    cases hthere
  rw [hroot] at ht
  refine ⟨p, ht, fun spec hm hshows => hignored ?_⟩
  rw [Filters.mem_computeBlacklist_iff hi]
  refine ⟨hthere, spec, (congrArg (spec ∈ ·) hspecs).mpr hm, ?_⟩
  rw [hroot]
  exact PathSpec.denotes_of_shows ht hp hshows

theorem answer_avoids_ignored_vendor :
    let root := Path.ofAbsolute "/p".toList
    let c := Call.within ["app/main.rb", "app/vendor/lib.rb", "app/vendored.rb"] ["app"]
    ((ofSpecs root ["."] ["app/vendor"]).answer c).result = .ok (.files ["app/main.rb"]) ∧
      ∃ p : Path, p.text = root.below ++ "app/main.rb".toList ∧
        ∀ spec ∈ ["app/vendor"], ¬ (root.join spec.toList).Shows p := by
  intro root c
  have h : ((ofSpecs root ["."] ["app/vendor"]).answer c).result = .ok (.files ["app/main.rb"]) :=
    Resolution.result_of_files? (by decide +kernel)
  exact ⟨h, answer_avoids_ignored root ["."] ["app/vendor"] [] c h _ List.mem_cons_self⟩

/-- A hidden file below an ignored directory is answered where a source spec and the path asked for
spell its dot. -/
theorem ignored_hidden_answered :
    let root := Path.ofAbsolute "/p".toList
    let c := Call.within ["app/main.rb", "app/.env/local"] ["app/.env"]
    ((ofSpecs root ["app/.env"] ["app"]).answer c).result = .ok (.files ["app/.env/local"]) ∧
      (Path.ofAbsolute "/p/app/.env/local".toList).text = root.text ++ "/app/.env/local".toList ∧
      (root.join "app".toList).names <+: (Path.ofAbsolute "/p/app/.env/local".toList).names :=
  ⟨Resolution.result_of_files? (by decide +kernel), by decide, by decide⟩

end Engine

end LintDispatch
