import LintDispatch.Proofs.PathSpec.Meaning
import LintDispatch.Selection.Filters

/-! What the filters of a run let through can be told from names, of which they only ask whether a
file was there when they were computed. What they remember was computed for both at once. -/

namespace LintDispatch.Filters

variable {f g : Filters} {disk other : Disk} {files allowed ignored : FileSet} {r : String}

/-- The filters as they were before they were first asked for. -/
def forget (f : Filters) : Filters :=
  fresh f.root f.sourceSpecs f.ignoredSpecs

def AllowsName (f : Filters) (r : String) : Prop :=
  PathSpec.NamesRootEntry f.root r ∨ ∃ spec ∈ f.sourceSpecs, PathSpec.Denotes f.root spec r

def IgnoresName (f : Filters) (r : String) : Prop :=
  ∃ spec ∈ f.ignoredSpecs, PathSpec.Denotes f.root spec r

theorem computeWhitelist_eq_ok (h : f.computeWhitelist disk = .ok files) :
    ∃ entries expanded, PathSpec.rootFiles disk f.root = .ok entries ∧
      PathSpec.expandAll disk f.root f.sourceSpecs = .ok expanded ∧
      files = entries.union expanded := by
  simp only [computeWhitelist] at h
  split at h
  · rename_i entries expanded hr he
    cases h
    exact ⟨entries, expanded, hr, he, rfl⟩
  · cases h
  · cases h

theorem computeWhitelist_isOk_iff : (∃ files, f.computeWhitelist disk = .ok files) ↔
    (∃ entries, PathSpec.rootFiles disk f.root = .ok entries) ∧
      ∃ expanded, PathSpec.expandAll disk f.root f.sourceSpecs = .ok expanded := by
  constructor
  · rintro ⟨files, h⟩
    obtain ⟨entries, expanded, hr, he, -⟩ := computeWhitelist_eq_ok h
    exact ⟨⟨entries, hr⟩, expanded, he⟩
  · rintro ⟨⟨entries, hr⟩, expanded, he⟩
    exact ⟨entries.union expanded, by simp [computeWhitelist, hr, he]⟩

theorem computeWhitelist_isOk (h : f.computeWhitelist disk = .ok files) (other : Disk) :
    ∃ others, f.computeWhitelist other = .ok others := by
  have hh := computeWhitelist_isOk_iff.mp ⟨files, h⟩
  rw [PathSpec.rootFiles_isOk_iff, PathSpec.expandAll_isOk_iff] at hh
  rwa [computeWhitelist_isOk_iff, PathSpec.rootFiles_isOk_iff, PathSpec.expandAll_isOk_iff]

theorem computeBlacklist_isOk (h : f.computeBlacklist disk = .ok files) (other : Disk) :
    ∃ others, f.computeBlacklist other = .ok others :=
  PathSpec.expandAll_isOk_iff.mpr (PathSpec.expandAll_isOk_iff.mp ⟨files, h⟩)

theorem mem_computeWhitelist_iff (h : f.computeWhitelist disk = .ok files) :
    r ∈ files ↔ disk.isFile (f.root.place r) = true ∧ f.AllowsName r := by
  obtain ⟨entries, expanded, hr, he, rfl⟩ := computeWhitelist_eq_ok h
  simp only [FileSet.union, FileSet.mem_ofList, List.mem_append, PathSpec.mem_rootFiles_iff hr,
    PathSpec.mem_expandAll_iff he, PathSpec.IsRootFile, PathSpec.Matches, AllowsName, and_or_left]
  grind

theorem mem_computeBlacklist_iff (h : f.computeBlacklist disk = .ok files) :
    r ∈ files ↔ disk.isFile (f.root.place r) = true ∧ f.IgnoresName r := by
  simp only [PathSpec.mem_expandAll_iff h, PathSpec.Matches, IgnoresName]
  grind

def consult (f : Filters) (disk : Disk) :
    Filters × Except PathSpec.Error (FileSet × FileSet) :=
  match f.whitelist disk with
  | (f, .error e) => (f, .error e)
  | (f, .ok allowed) =>
    match f.blacklist disk with
    | (f, .error e) => (f, .error e)
    | (f, .ok ignored) => (f, .ok (allowed, ignored))

/-- The filters remember what they were on the disk `first`. Before they have let anything through
there is no such disk, and nothing is remembered but, where the ignored specs are refused, a
whitelist that will never be used. -/
def Remembers (f : Filters) : Option Disk → Prop
  | some first => ∃ allowed ignored, f.knownWhitelist = some allowed ∧
      f.computeWhitelist first = .ok allowed ∧ f.knownBlacklist = some ignored ∧
      f.computeBlacklist first = .ok ignored
  | none => f.knownBlacklist = none ∧
      (f.knownWhitelist = none ∨ ∀ disk files, f.computeBlacklist disk ≠ .ok files)

theorem remembers_forget (f : Filters) : f.forget.Remembers none :=
  ⟨rfl, .inl rfl⟩

/-- The filters when nothing was let through before: both are computed, or something is refused. -/
theorem Remembers.consult_none (h : f.Remembers none) (disk : Disk) :
    (∃ allowed ignored, f.computeWhitelist disk = .ok allowed ∧
      f.computeBlacklist disk = .ok ignored ∧
      f.consult disk = ({ f with knownWhitelist := some allowed, knownBlacklist := some ignored },
        .ok (allowed, ignored))) ∨
    (∀ allowed ignored, f.computeWhitelist disk = .ok allowed →
        f.computeBlacklist disk ≠ .ok ignored) ∧
      ∃ g e, f.consult disk = (g, .error e) ∧ g.forget = f.forget ∧ g.Remembers none := by
  obtain ⟨hki, hka⟩ := h
  have hrefused : ∀ e, f.computeBlacklist disk = .error e →
      ∀ disk files, f.computeBlacklist disk ≠ .ok files := by
    intro e he other files hok
    obtain ⟨_, hh⟩ := computeBlacklist_isOk hok disk
    simp [he] at hh
  cases hw : f.knownWhitelist with
  | some allowed =>
    cases hi : f.computeBlacklist disk with
    | ok ignored => exact absurd hi (hka.resolve_left (by simp [hw]) disk ignored)
    | error e =>
      refine .inr ⟨by simp, f, e, ?_, rfl, hki, .inr (hrefused e hi)⟩
      simp [consult, whitelist_known disk hw, blacklist, hki, hi]
  | none =>
    cases ha : f.computeWhitelist disk with
    | error e =>
      refine .inr ⟨by simp, f, e, ?_, rfl, hki, .inl hw⟩
      simp [consult, whitelist, hw, ha]
    | ok allowed =>
      -- What the filters compute does not depend on what they know.
      have hsame : ∀ w b, ({ f with knownWhitelist := w, knownBlacklist := b } : Filters).computeBlacklist
          disk = f.computeBlacklist disk := fun _ _ => rfl
      cases hi : f.computeBlacklist disk with
      | error e =>
        refine .inr ⟨by simp, { f with knownWhitelist := some allowed }, e, ?_, rfl, hki,
          .inr (hrefused e hi)⟩
        simp [consult, whitelist, hw, ha, blacklist, hki, hsame, hi]
      | ok ignored =>
        refine .inl ⟨allowed, ignored, rfl, rfl, ?_⟩
        simp [consult, whitelist, hw, ha, blacklist, hki, hsame, hi]

theorem Remembers.consult_computed (h : f.Remembers none)
    (ha : f.computeWhitelist disk = .ok allowed) (hi : f.computeBlacklist disk = .ok ignored) :
    ∃ g, f.consult disk = (g, .ok (allowed, ignored)) := by
  rcases h.consult_none disk with ⟨a, i, ha', hi', he⟩ | ⟨hno, -⟩
  · rw [ha] at ha'
    rw [hi] at hi'
    cases ha'
    cases hi'
    exact ⟨_, he⟩
  · exact absurd hi (hno allowed ignored ha)

theorem Remembers.consult_some {first : Disk} (h : f.Remembers (some first)) (disk : Disk) :
    ∃ allowed ignored, f.computeWhitelist first = .ok allowed ∧
      f.computeBlacklist first = .ok ignored ∧ f.consult disk = (f, .ok (allowed, ignored)) := by
  obtain ⟨allowed, ignored, hka, ha, hki, hi⟩ := h
  refine ⟨allowed, ignored, ha, hi, ?_⟩
  simp [consult, whitelist_known disk hka, blacklist_known disk hki]

theorem Remembers.consult_ok {first : Option Disk} (h : f.Remembers first)
    (hc : f.consult disk = (g, .ok (allowed, ignored))) :
    g.forget = f.forget ∧ g.Remembers (some (first.getD disk)) ∧
      f.computeWhitelist (first.getD disk) = .ok allowed ∧
      f.computeBlacklist (first.getD disk) = .ok ignored := by
  cases first with
  | some first =>
    obtain ⟨a, i, ha, hi, he⟩ := h.consult_some disk
    rw [he] at hc
    cases hc
    exact ⟨rfl, h, ha, hi⟩
  | none =>
    rcases h.consult_none disk with ⟨a, i, ha, hi, he⟩ | ⟨-, _, _, he, -, -⟩
    · rw [he] at hc
      cases hc
      exact ⟨rfl, ⟨_, _, rfl, ha, rfl, hi⟩, ha, hi⟩
    · rw [he] at hc
      cases hc

theorem Remembers.consult_error {first : Option Disk} {e : PathSpec.Error} (h : f.Remembers first)
    (hc : f.consult disk = (g, .error e)) : g.forget = f.forget ∧ g.Remembers first := by
  cases first with
  | some first =>
    obtain ⟨_, _, _, _, he⟩ := h.consult_some disk
    rw [he] at hc
    cases hc
  | none =>
    rcases h.consult_none disk with ⟨_, _, _, _, he⟩ | ⟨-, _, _, he, hf, hr⟩
    · rw [he] at hc
      cases hc
    · rw [he] at hc
      cases hc
      exact ⟨hf, hr⟩

end LintDispatch.Filters
