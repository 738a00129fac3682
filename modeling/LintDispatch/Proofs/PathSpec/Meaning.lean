import LintDispatch.Proofs.Disk.Spelling
import LintDispatch.Proofs.Outcome
import LintDispatch.Proofs.PathSpec.Descent

/-! What a path spec means. The expansion of a spec, a walk over the disk, is a filter on names: which
paths belong to it can be told from their text, and of the disk only whether that one path is a
file. -/

namespace LintDispatch.PathSpec

variable {disk : Disk} {root : Path} {spec r : String} {specs : List String} {files : FileSet}

/-- The path `target` stands for `p`: `p` lies below the parent of `target`, its first name there
starts as the last name of `target` does, and no name is hidden except a first one of which the
target spells the dot. -/
def Covers (target p : Path) : Prop :=
  p.doubled = target.doubled ∧ ∃ first rest,
    p.names = target.parent.names ++ first :: rest ∧ target.lastName <+: first ∧
    (Path.isHidden first = true → Path.isHidden target.lastName = true) ∧
    ∀ name ∈ rest, Path.isHidden name = false

/-- Seen from `root`, the name `r` is one that `spec` stands for. -/
def Denotes (root : Path) (spec r : String) : Prop :=
  ∃ p : Path, p.text = root.below ++ r.toList ∧ Covers (root.join spec.toList) p

/-- Seen from `root`, `r` is the name of something directly there that is not hidden. -/
def NamesRootEntry (root : Path) (r : String) : Prop :=
  ∃ name, Path.IsPlain name ∧ Path.isHidden name = false ∧
    root.text ++ '/' :: name = root.below ++ r.toList

/-- Seen from `root`, `r` is a file for which `spec` stands. -/
def Matches (disk : Disk) (root : Path) (spec r : String) : Prop :=
  disk.isFile (root.place r) = true ∧ Denotes root spec r

/-- Seen from `root`, `r` is a file that lies directly there and is not hidden. -/
def IsRootFile (disk : Disk) (root : Path) (r : String) : Prop :=
  disk.isFile (root.place r) = true ∧ NamesRootEntry root r

theorem covers_iff {target p : Path} : Covers target p ↔ ∃ names,
    Continues target.lastName names ∧ (∀ name ∈ names, Path.IsPlain name) ∧
      p = target.parent.along names := by
  have hs : ∀ first, matchesStart target.lastName first = true ↔ target.lastName <+: first ∧
      (Path.isHidden first = true → Path.isHidden target.lastName = true) := by
    intro first
    simp only [matchesStart, Bool.and_eq_true, Bool.or_eq_true, List.isPrefixOf_iff_prefix]
    cases Path.isHidden first <;> simp
  constructor
  · rintro ⟨hd, first, rest, hn, hl, hf, hh⟩
    refine ⟨first :: rest, ⟨first, rest, rfl, (hs first).mpr ⟨hl, hf⟩, hh⟩, ?_,
      Path.eq_along hd hn⟩
    exact fun name hm => p.plain name (by rw [hn]; exact List.mem_append_right _ hm)
  · rintro ⟨names, ⟨first, rest, rfl, hm, hh⟩, hp, rfl⟩
    obtain ⟨hl, hf⟩ := (hs first).mp hm
    exact ⟨rfl, first, rest, Path.along_names hp, hl, hf, hh⟩

theorem arrive_of_isFile {parts : List FileName} (h : disk.isFile parts = true) :
    ∃ a, disk.arrive parts = .ok a ∧ ∃ bytes, a.entry = .file bytes := by
  simp only [Disk.isFile] at h
  split at h
  · rename_i ha
    exact ⟨_, ha, _, rfl⟩
  · cases h

theorem expand_isOk_iff (disk : Disk) : (∃ files, expand disk root spec = .ok files) ↔
    opensNull (root.join spec.toList).parent.names = false := by
  simp only [expand]
  cases opensNull (root.join spec.toList).parent.names <;> simp

theorem expand_increasing (h : expand disk root spec = .ok files) : files.Pairwise (· < ·) := by
  simp only [expand] at h
  split at h
  · cases h
  · cases h
    exact FileSet.ofList_increasing _

theorem mem_expand_iff (h : expand disk root spec = .ok files) :
    r ∈ files ↔ Matches disk root spec r := by
  simp only [expand] at h
  split at h
  · cases h
  cases h
  have hof : ∀ s : List Char, String.ofList s = r ↔ s = r.toList := by
    intro s
    rw [← String.toList_inj, String.toList_ofList]
  simp only [FileSet.mem_ofList, List.mem_map, List.mem_filterMap, hof, exists_eq_right,
    Option.ite_none_right_eq_some, Path.relativeTo?_eq_some_iff, Matches]
  constructor
  · rintro ⟨names, hm, hfile, ht⟩
    obtain ⟨hc, hp⟩ := of_mem_candidates hm
    exact ⟨Path.names_eq_place ht ▸ hfile, _, ht, covers_iff.mpr ⟨names, hc, hp, rfl⟩⟩
  · rintro ⟨hfile, p, ht, hc⟩
    obtain ⟨names, hn, hp, rfl⟩ := covers_iff.mp hc
    rw [← Path.names_eq_place ht] at hfile
    obtain ⟨a, ha, -⟩ := arrive_of_isFile hfile
    rw [Path.along_names hp] at ha
    exact ⟨names, mem_candidates ha hn hp, hfile, ht⟩

theorem expandAll_isOk_iff : (∃ files, expandAll disk root specs = .ok files) ↔
    ∀ spec ∈ specs, opensNull (root.join spec.toList).parent.names = false := by
  simp only [← expand_isOk_iff disk, ← Outcome.mapM_isOk_iff, expandAll]
  cases specs.mapM (expand disk root) <;> simp

theorem expandAll_increasing (h : expandAll disk root specs = .ok files) :
    files.Pairwise (· < ·) := by
  simp only [expandAll] at h
  split at h
  · cases h
    exact FileSet.ofList_increasing _
  · cases h

theorem mem_expandAll (h : expandAll disk root specs = .ok files) :
    r ∈ files ↔ ∃ spec ∈ specs, ∃ matched, expand disk root spec = .ok matched ∧ r ∈ matched := by
  simp only [expandAll] at h
  split at h
  · rename_i sets hs
    cases h
    rw [FileSet.mem_ofList, Outcome.mem_flatten_of_mapM hs]
  · cases h

theorem mem_expandAll_iff (h : expandAll disk root specs = .ok files) :
    r ∈ files ↔ ∃ spec ∈ specs, Matches disk root spec r := by
  have hok : ∀ spec ∈ specs, ∃ matched, expand disk root spec = .ok matched := by
    simpa only [expand_isOk_iff] using expandAll_isOk_iff.mp ⟨files, h⟩
  rw [mem_expandAll h]
  constructor
  · rintro ⟨spec, hm, matched, he, hr⟩
    exact ⟨spec, hm, (mem_expand_iff he).mp hr⟩
  · rintro ⟨spec, hm, hr⟩
    obtain ⟨matched, he⟩ := hok spec hm
    exact ⟨spec, hm, matched, he, (mem_expand_iff he).mpr hr⟩

theorem rootFiles_isOk_iff : (∃ files, rootFiles disk root = .ok files) ↔
    opensNull root.names = false := by
  simp only [rootFiles]
  cases opensNull root.names <;> simp

theorem mem_rootFiles_iff (h : rootFiles disk root = .ok files) :
    r ∈ files ↔ IsRootFile disk root r := by
  simp only [rootFiles] at h
  split at h
  · cases h
  cases h
  have hof : ∀ s : List Char, String.ofList s = r ↔ s = r.toList := by
    intro s
    rw [← String.toList_inj, String.toList_ofList]
  have hstart : ∀ name, matchesStart [] name = true ↔ Path.isHidden name = false := by
    simp [matchesStart, Path.isHidden]
  simp only [FileSet.mem_ofList, List.mem_map, List.mem_filterMap, hof, exists_eq_right,
    Option.ite_none_right_eq_some, Path.relativeTo?_eq_some_iff, IsRootFile]
  constructor
  · rintro ⟨name, hm, hfile, ht⟩
    split at hm
    · obtain ⟨hn, hs⟩ := List.mem_filter.mp hm
      have hp := Disk.plain_of_mem_names hn
      exact ⟨Path.names_concat_eq_place hp ht ▸ hfile, name, hp, (hstart name).mp hs, ht⟩
    · simp at hm
  · rintro ⟨hfile, name, hp, hh, ht⟩
    rw [← Path.names_concat_eq_place hp ht] at hfile
    obtain ⟨a, ha, -⟩ := arrive_of_isFile hfile
    obtain ⟨m, hm, hd, hb⟩ :=
      (Disk.follow_append (List.cons_ne_nil name []) Disk.maxLinks [] root.names a).mp ha
    refine ⟨name, ?_, hfile, ht⟩
    rw [directory?_eq_some_iff.mpr ⟨hm, hd⟩]
    exact List.mem_filter.mpr ⟨(Disk.follow_plain hp hb).1, (hstart name).mpr hh⟩

theorem null_mem_of_opensNull {names : List FileName} (h : opensNull names = true) :
    ∃ name ∈ names, '\x00' ∈ name := by
  obtain ⟨name, hm, hn⟩ := List.any_eq_true.mp h
  exact ⟨name, (List.takeWhile_sublist _).subset hm, by simpa using hn⟩

/-- Only a null character in the root makes the expansion of a spec without one fail. -/
theorem null_mem_root_of_opensNull (hspec : '\x00' ∉ spec.toList)
    (h : opensNull (root.join spec.toList).parent.names = true) :
    ∃ name ∈ root.names, '\x00' ∈ name := by
  obtain ⟨name, hm, hn⟩ := null_mem_of_opensNull h
  rcases Path.mem_of_mem_join (List.dropLast_subset _ hm) with hr | hs
  · exact ⟨name, hr, hn⟩
  · exact absurd (Text.mem_of_mem_splitAt hs hn) hspec

/-- The expansion of a spec without a null character, seen from a directory other than the root of
the file system. It is refused only where the root itself holds a null character; else it gives, in
order, the files that the spec denotes by name, and whether a name is among them hangs on the disk
by that one file alone. -/
theorem expand_exact (disk : Disk) (hroot : root.names ≠ []) (hspec : '\x00' ∉ spec.toList) :
    (∃ files, expand disk root spec = .ok files ∧ files.Pairwise (· < ·) ∧
      (∀ r : String, r ∈ files ↔ disk.isFile (root.place r) = true ∧
        ∃ p : Path, p.text = root.text ++ '/' :: r.toList ∧ Covers (root.join spec.toList) p) ∧
      ∀ (other : Disk) (r : String),
        other.isFile (root.place r) = disk.isFile (root.place r) →
        ∃ others, expand other root spec = .ok others ∧ (r ∈ others ↔ r ∈ files)) ∨
    (expand disk root spec = .error .nullCharacter ∧ ∃ name ∈ root.names, '\x00' ∈ name) := by
  cases hnull : opensNull (root.join spec.toList).parent.names with
  | true =>
    exact .inr ⟨by simp [expand, hnull], null_mem_root_of_opensNull hspec hnull⟩
  | false =>
    obtain ⟨files, hfiles⟩ := (expand_isOk_iff disk).mpr hnull
    have hbelow : ∀ s, root.below ++ s = root.text ++ '/' :: s := by
      simp [Path.below_eq hroot]
    refine .inl ⟨files, hfiles, expand_increasing hfiles, fun r => ?_, fun other r hsame => ?_⟩
    · rw [mem_expand_iff hfiles, Matches, Denotes, hbelow]
    · obtain ⟨others, hothers⟩ := (expand_isOk_iff other).mpr hnull
      refine ⟨others, hothers, ?_⟩
      rw [mem_expand_iff hfiles, mem_expand_iff hothers, Matches, Matches, hsame]

def circle : Disk where
  entries := [("/p", Entry.directory), ("/p/app", .directory), ("/p/app/self", .link ['.']),
    ("/p/app/a.rb", .file [])].map fun e => ((Path.ofAbsolute e.1.toList).names, e.2)
  plain := by decide +kernel

theorem expand_exact_circle :
    (Path.ofAbsolute "/p".toList).names ≠ [] ∧ '\x00' ∉ "ap".toList ∧
      ∃ files, expand circle (.ofAbsolute "/p".toList) "ap" = .ok files ∧
        "app/self/self/a.rb" ∈ files ∧ "app/self" ∉ files := by
  have hroot : (Path.ofAbsolute "/p".toList).names ≠ [] := by decide
  have hspec : '\x00' ∉ "ap".toList := by decide
  rcases expand_exact circle hroot hspec with ⟨files, he, -, hm, -⟩ | ⟨-, name, hn, h0⟩
  · refine ⟨hroot, hspec, files, he, (hm _).mpr ⟨by decide +kernel, ?_⟩, fun h => ?_⟩
    · exact ⟨.ofAbsolute "/p/app/self/self/a.rb".toList, by decide, by decide, "app".toList,
        ["self".toList, "self".toList, "a.rb".toList], by decide, by decide, by decide, by decide⟩
    · exact absurd ((hm _).mp h).1 (by decide +kernel)
  · have hno : ∀ name ∈ (Path.ofAbsolute "/p".toList).names, '\x00' ∉ name := by decide
    exact absurd h0 (hno name hn)

/-- A root with a null character in it is not searched but refused. -/
theorem expand_null_root :
    let root := Path.ofAbsolute "/a\x00b".toList
    root.names ≠ [] ∧ root.doubled = false ∧ '\x00' ∉ "x".toList ∧
      ¬ ∃ files, expand .empty root "x" = .ok files := by
  have hnull : opensNull ((Path.ofAbsolute "/a\x00b".toList).join "x".toList).parent.names = true := by
    decide
  refine ⟨by decide, by decide, by decide, fun h => ?_⟩
  rw [(expand_isOk_iff _).mp h] at hnull
  cases hnull

end LintDispatch.PathSpec
