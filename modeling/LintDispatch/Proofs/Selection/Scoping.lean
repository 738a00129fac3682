import LintDispatch.Proofs.Console.Timing
import LintDispatch.Proofs.Selection.History

/-! The scope of a run that is selected once. Where the source returns, the clock is steady and no
name holds a null character, a fresh engine does answer, and which files it answers with can be told
from what the call looks for and the two lists of specs. -/

namespace LintDispatch

def Path.NullFree (p : Path) : Prop :=
  ∀ name ∈ p.names, '\x00' ∉ name

def PathSpec.NullFree (specs : List String) : Prop :=
  ∀ spec ∈ specs, '\x00' ∉ spec.toList

namespace PathSpec

instance (specs : List String) : Decidable (NullFree specs) :=
  inferInstanceAs (Decidable (∀ spec ∈ specs, '\x00' ∉ spec.toList))

variable {disk : Disk} {root : Path} {specs : List String}

theorem expandAll_isOk (disk : Disk) (hroot : root.NullFree) (h : NullFree specs) :
    ∃ files, expandAll disk root specs = .ok files := by
  refine expandAll_isOk_iff.mpr fun spec hm => ?_
  by_contra hnull
  obtain ⟨name, hn, h0⟩ := null_mem_root_of_opensNull (h spec hm) (Bool.of_not_eq_false hnull)
  exact hroot name hn h0

theorem rootFiles_isOk (disk : Disk) (hroot : root.NullFree) :
    ∃ files, rootFiles disk root = .ok files := by
  refine rootFiles_isOk_iff.mpr ?_
  by_contra hnull
  obtain ⟨name, hn, h0⟩ := null_mem_of_opensNull (Bool.of_not_eq_false hnull)
  exact hroot name hn h0

end PathSpec

namespace Engine

variable {ε : Type} {engine : Engine} {root : Path} {sources ignored specs : List String}
  {c : Call ε} {seen : Disk}

/-- Seen from `root`, `r` is a file that one of the specs wanted stands for, that lies directly in
the root or a source spec stands for, and that no ignored spec stands for. -/
def InScope (disk : Disk) (root : Path) (sources ignored wanted : List String) (r : String) : Prop :=
  (∃ spec ∈ wanted, PathSpec.Matches disk root spec r) ∧
  (PathSpec.IsRootFile disk root r ∨ ∃ spec ∈ sources, PathSpec.Matches disk root spec r) ∧
  ∀ spec ∈ ignored, ¬ PathSpec.Matches disk root spec r

theorem found_of_expandAll {files : FileSet} (hclock : c.clock.Steady) (hlook : c.LooksFor seen specs)
    (h : PathSpec.expandAll seen engine.filters.root specs = .ok files) :
    (engine.found c).result = .ok files ∧ (engine.found c).disk = seen := by
  have hexpand : engine.expand (ε := ε) seen specs = .ok files := by simp [expand, h]
  rcases hlook with ⟨hc, rfl, rfl⟩ | ⟨hc, change, hq, rfl⟩
  · rw [found_sources hc]
    exact ⟨Console.timed_of_steady _ _ _ hclock hexpand, rfl⟩
  · rw [found_changes hc]
    have hlooked : engine.lookupChanges c.source c.disk c.request.reference c.request.scopes =
        (seen, .ok (change, files)) := by
      simp [lookupChanges, hq, hexpand, Except.map]
    let work : Transcript × Except (Error ε) (Change × FileSet) :=
      ([.queried c.request.reference c.request.scopes], .ok (change, files))
    have ht : (Console.timed c.debugging c.clock changedLookup Error.clock work).result = work.2 :=
      Console.timed_of_steady _ _ _ hclock rfl
    simp only [work] at ht
    simp only [findChanges, hlooked, ht, and_self]

/-- A fresh engine that has something to look for answers with the files in scope, in order. -/
theorem ofSpecs_answer_files (hclock : c.clock.Steady) (hlook : c.LooksFor seen specs)
    (hscoped : (c.request.paths.isEmpty && !c.request.changedOnly) = false)
    (hroot : root.NullFree) (hnull : PathSpec.NullFree (specs ++ sources ++ ignored)) :
    ∃ files, ((ofSpecs root sources ignored).answer c).result = .ok (.files files) ∧
      files.Pairwise (· < ·) ∧ ∀ r, r ∈ files ↔ InScope seen root sources ignored specs r := by
  simp only [PathSpec.NullFree, List.mem_append] at hnull
  have hspecs : PathSpec.NullFree specs := fun spec hm => hnull spec (.inl (.inl hm))
  have hsources : PathSpec.NullFree sources := fun spec hm => hnull spec (.inl (.inr hm))
  have hignored : PathSpec.NullFree ignored := fun spec hm => hnull spec (.inr hm)
  obtain ⟨found, hfound⟩ := PathSpec.expandAll_isOk seen hroot hspecs
  obtain ⟨entries, hentries⟩ := PathSpec.rootFiles_isOk seen hroot
  obtain ⟨expanded, hexpanded⟩ := PathSpec.expandAll_isOk seen hroot hsources
  obtain ⟨dropped, hdropped⟩ := PathSpec.expandAll_isOk seen hroot hignored
  obtain ⟨hresult, hdisk⟩ : ((ofSpecs root sources ignored).found c).result = .ok found ∧ _ :=
    found_of_expandAll hclock hlook hfound
  have hallowed : (Filters.fresh root sources ignored).computeWhitelist seen =
      .ok (entries.union expanded) := by
    simp [Filters.computeWhitelist, Filters.fresh, hentries, hexpanded]
  refine ⟨_, ofSpecs_answer hscoped hresult (hdisk ▸ hallowed) (hdisk ▸ hdropped), ?_, fun r => ?_⟩
  · exact ((PathSpec.expandAll_increasing hfound).filter _).filter _
  · simp only [FileSet.diff, FileSet.inter, FileSet.union, List.mem_filter, List.contains_iff_mem,
      Bool.not_eq_true', Bool.eq_false_iff, ne_eq, FileSet.mem_ofList, List.mem_append,
      PathSpec.mem_expandAll_iff hfound, PathSpec.mem_rootFiles_iff hentries,
      PathSpec.mem_expandAll_iff hexpanded, PathSpec.mem_expandAll_iff hdropped, InScope]
    grind

theorem commands_found (engine : Engine) (c : Call ε) :
    Transcript.commands (engine.found c).transcript = [] := by
  cases hc : c.request.changedOnly with
  | false =>
    rw [found_sources hc]
    exact Console.timed_commands ..
  | true =>
    rw [found_changes hc]
    simp only [findChanges]
    split <;> simp only [Transcript.commands_append, Console.timed_commands, Console.commands_debug] <;> rfl

theorem commands_answer (engine : Engine) (c : Call ε) :
    Transcript.commands (engine.answer c).transcript = [] := by
  cases hu : c.request.paths.isEmpty && !c.request.changedOnly with
  | true =>
    simp only [answer, resolve, hu, if_true]
    rfl
  | false =>
    have hsame : (engine.answer c).transcript = (engine.found c).transcript := by
      rw [answer_eq_filter hu, filter_eq]
      repeat' split
      all_goals rfl
    rw [hsame, commands_found]

end Engine

end LintDispatch
