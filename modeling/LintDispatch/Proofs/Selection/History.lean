import LintDispatch.Proofs.Selection.Filtering
import LintDispatch.Selection.Engine

/-! One engine asked again and again while the disk changes. What it remembers dates from the first
call that ended with files, so every later answer is that of a fresh engine, less the files that were
not there at that time. -/

namespace LintDispatch.Engine

variable {ε : Type} {engine : Engine} {root : Path} {sources ignored : List String}
  {files : List String} {r : String}

/-- One call of an engine, with everything that it meets: whatever source answers, on whatever disk
lies there by now. -/
structure Call (ε : Type) where
  source : ChangeSource ε
  debugging : Bool
  disk : Disk
  clock : Clock
  request : Request

def found (engine : Engine) (c : Call ε) : Found ε :=
  engine.find c.source c.debugging c.disk c.clock c.request

def answer (engine : Engine) (c : Call ε) : Resolution ε :=
  engine.resolve c.source c.debugging c.disk c.clock c.request

def after (engine : Engine) : List (Call ε) → Engine
  | [] => engine
  | c :: rest => (engine.answer c).engine.after rest

/-- The disk at the end of the first call that was answered with files. -/
def firstDisk? (engine : Engine) : List (Call ε) → Option Disk
  | [] => none
  | c :: rest =>
    match (engine.answer c).result with
    | .ok (.files _) => some (engine.answer c).disk
    | _ => (engine.answer c).engine.firstDisk? rest

theorem find_engine (engine : Engine) (c : Call ε) :
    (engine.found c).engine.filters = engine.filters := by
  simp only [found, find, findChanges, findSources]
  repeat' split
  all_goals rfl

/-- What is found does not depend on what the filters remember. -/
theorem find_congr {other : Engine} (h : engine.filters.root = other.filters.root) (c : Call ε) :
    (engine.found c).result = (other.found c).result ∧
      (engine.found c).disk = (other.found c).disk := by
  have he : ∀ disk specs, engine.expand (ε := ε) disk specs = other.expand disk specs := by
    simp [expand, h]
  simp only [found, find, findChanges, findSources, lookupChanges, he]
  repeat' split
  all_goals simp_all

theorem filter_eq (f : Found ε) : filter f =
    match f.result with
    | .error e => ⟨f.engine, f.disk, f.clock, f.transcript, .error e⟩
    | .ok files =>
      match f.engine.filters.consult f.disk with
      | (g, .error e) =>
        ⟨{ f.engine with filters := g }, f.disk, f.clock, f.transcript, .error (.spec e)⟩
      | (g, .ok (allowed, ignored)) =>
        ⟨{ f.engine with filters := g }, f.disk, f.clock, f.transcript,
          .ok (.files ((FileSet.inter files allowed).diff ignored))⟩ := by
  simp only [filter, Filters.consult]
  cases f.result with
  | error e => rfl
  | ok files =>
    rcases f.engine.filters.whitelist f.disk with ⟨g, _ | allowed⟩
    · rfl
    · rcases hb : g.blacklist f.disk with ⟨g', _ | ignored⟩ <;> simp [hb]

theorem answer_eq_filter {c : Call ε}
    (h : (c.request.paths.isEmpty && !c.request.changedOnly) = false) :
    engine.answer c = filter (engine.found c) := by
  simp [answer, resolve, h, found]

theorem answer_cases (engine : Engine) (c : Call ε) :
    ((engine.answer c).result = .ok .unscoped ∧ (engine.answer c).engine = engine) ∨
    (∃ e, (engine.answer c).result = .error e ∧
      ((engine.answer c).engine.filters = engine.filters ∨
        ∃ e', engine.filters.consult (engine.found c).disk =
          ((engine.answer c).engine.filters, .error e'))) ∨
    (∃ files allowed ignored, (engine.found c).result = .ok files ∧
      (engine.answer c).disk = (engine.found c).disk ∧
      engine.filters.consult (engine.found c).disk =
        ((engine.answer c).engine.filters, .ok (allowed, ignored)) ∧
      (engine.answer c).result = .ok (.files ((FileSet.inter files allowed).diff ignored))) := by
  cases hu : c.request.paths.isEmpty && !c.request.changedOnly with
  | true =>
    left
    simp [answer, resolve, hu]
  | false =>
    rw [answer_eq_filter hu, filter_eq, ← find_engine engine c]
    right
    cases hr : (engine.found c).result with
    | error e => exact .inl ⟨e, rfl, .inl rfl⟩
    | ok files =>
      rcases hc : (engine.found c).engine.filters.consult (engine.found c).disk with ⟨g, e | ⟨a, i⟩⟩
      · exact .inl ⟨.spec e, rfl, .inr ⟨e, rfl⟩⟩
      · exact .inr ⟨files, a, i, rfl, rfl, rfl, rfl⟩

theorem timed_eq_ok {α : Type} {debugging : Bool} {clock : Clock} {message : String}
    {ofError : Seconds.Error → ε} {work : Transcript × Except ε α} {value : α}
    (h : (Console.timed debugging clock message ofError work).result = .ok value) :
    work.2 = .ok value := by
  simp only [Console.timed] at h
  cases hw : work.2 with
  | error e =>
    rw [hw] at h
    split at h <;> cases h
  | ok v =>
    rw [hw] at h
    split at h
    · simp only at h
      split at h
      · cases h
      · exact h
    · exact h

theorem expand_eq_ok {disk : Disk} {specs : List String} {files : FileSet}
    (h : engine.expand (ε := ε) disk specs = .ok files) :
    PathSpec.expandAll disk engine.filters.root specs = .ok files := by
  simp only [expand] at h
  split at h
  · cases h
    assumption
  · cases h

theorem lookupChanges_eq_ok {source : ChangeSource ε} {disk : Disk} {reference : String}
    {scopes : List String} {change : Change} {files : FileSet}
    (h : (engine.lookupChanges source disk reference scopes).2 = .ok (change, files)) :
    source.changed disk reference scopes =
        ((engine.lookupChanges source disk reference scopes).1, .ok change) ∧
      PathSpec.expandAll (engine.lookupChanges source disk reference scopes).1
        engine.filters.root change.files = .ok files := by
  simp only [lookupChanges] at h ⊢
  cases hq : source.changed disk reference scopes with
  | mk left reply =>
    cases reply with
    | error e => simp [hq] at h
    | ok change =>
      simp only [hq] at h ⊢
      obtain ⟨found, he, hf⟩ := Outcome.map_eq_ok.mp h
      cases hf
      exact ⟨rfl, expand_eq_ok he⟩

def Request.scopes (request : Request) : List String :=
  if request.paths.isEmpty then [wholeRoot] else request.paths

/-- A call looks for files of these specs on this disk: for those of its paths, or for those of what
the source reports on them, on the disk that it leaves. -/
def Call.LooksFor (c : Call ε) (seen : Disk) (specs : List String) : Prop :=
  (c.request.changedOnly = false ∧ seen = c.disk ∧ specs = c.request.scopes) ∨
  (c.request.changedOnly = true ∧ ∃ change,
    c.source.changed c.disk c.request.reference c.request.scopes = (seen, .ok change) ∧
      specs = change.files)

theorem found_sources {c : Call ε} (h : c.request.changedOnly = false) :
    engine.found c = engine.findSources c.debugging c.disk c.clock c.request.scopes := by
  simp only [found, find, h, Request.scopes]
  rfl

theorem found_changes {c : Call ε} (h : c.request.changedOnly = true) :
    engine.found c = engine.findChanges c.source c.debugging c.disk c.clock c.request.scopes
      c.request.reference := by
  simp only [found, find, h, Request.scopes]
  rfl

theorem found_eq_ok {c : Call ε} {files : FileSet} (h : (engine.found c).result = .ok files) :
    ∃ specs, c.LooksFor (engine.found c).disk specs ∧
      PathSpec.expandAll (engine.found c).disk engine.filters.root specs = .ok files := by
  cases hc : c.request.changedOnly with
  | false =>
    rw [found_sources hc] at h ⊢
    exact ⟨_, .inl ⟨hc, rfl, rfl⟩, expand_eq_ok (timed_eq_ok h)⟩
  | true =>
    rw [found_changes hc] at h ⊢
    simp only [findChanges] at h ⊢
    split at h
    · cases h
    · rename_i change files' ht
      cases h
      obtain ⟨hq, he⟩ := lookupChanges_eq_ok (timed_eq_ok ht)
      exact ⟨_, .inr ⟨hc, change, by simpa [ht] using hq, rfl⟩, by simpa [ht] using he⟩

theorem matches_of_found {c : Call ε} {files : FileSet} (h : (engine.found c).result = .ok files)
    (hr : r ∈ files) : ∃ spec, PathSpec.Matches (engine.found c).disk engine.filters.root spec r := by
  obtain ⟨specs, -, he⟩ := found_eq_ok h
  obtain ⟨spec, -, hm⟩ := (PathSpec.mem_expandAll_iff he).mp hr
  exact ⟨spec, hm⟩

theorem answer_eq_files {first : Option Disk} {c : Call ε} (hf : engine.filters.Remembers first)
    (h : (engine.answer c).result = .ok (.files files)) :
    ∃ found allowed ignored, (engine.found c).result = .ok found ∧
      (engine.answer c).disk = (engine.found c).disk ∧
      engine.filters.computeWhitelist (first.getD (engine.answer c).disk) = .ok allowed ∧
      engine.filters.computeBlacklist (first.getD (engine.answer c).disk) = .ok ignored ∧
      files = (FileSet.inter found allowed).diff ignored := by
  rcases answer_cases engine c with ⟨hr, -⟩ | ⟨e, hr, -⟩ | ⟨found, a, i, hfound, hd, hc, hr⟩
  · simp [hr] at h
  · simp [hr] at h
  · obtain ⟨-, -, ha, hi⟩ := hf.consult_ok hc
    refine ⟨found, a, i, hfound, hd, hd ▸ ha, hd ▸ hi, ?_⟩
    simpa [hr] using h.symm

theorem answer_remembers {first : Option Disk} (h : engine.filters.Remembers first) (c : Call ε) :
    (engine.answer c).engine.filters.forget = engine.filters.forget ∧
      (engine.answer c).engine.filters.Remembers (first.or (engine.firstDisk? [c])) := by
  rcases answer_cases engine c with ⟨hr, he⟩ | ⟨e, hr, he | ⟨e', hc⟩⟩ | ⟨_, _, _, -, hd, hc, hr⟩
  · simpa [firstDisk?, hr, he] using h
  · rw [he]
    simpa [firstDisk?, hr] using h
  · simpa [firstDisk?, hr] using h.consult_error hc
  · obtain ⟨hforget, hrem, -, -⟩ := h.consult_ok hc
    refine ⟨hforget, ?_⟩
    cases first <;> simpa [firstDisk?, hr, hd] using hrem

theorem firstDisk?_cons (engine : Engine) (c : Call ε) (calls : List (Call ε)) :
    engine.firstDisk? (c :: calls) =
      (engine.firstDisk? [c]).or ((engine.answer c).engine.firstDisk? calls) := by
  simp only [firstDisk?]
  split <;> simp

theorem firstDisk?_append (engine : Engine) (calls more : List (Call ε)) :
    engine.firstDisk? (calls ++ more) =
      (engine.firstDisk? calls).or ((engine.after calls).firstDisk? more) := by
  induction calls generalizing engine with
  | nil => simp [firstDisk?, after]
  | cons c calls ih =>
    rw [List.cons_append, firstDisk?_cons, firstDisk?_cons engine c calls, ih, after, Option.or_assoc]

theorem after_remembers {first : Option Disk} (h : engine.filters.Remembers first)
    (calls : List (Call ε)) : (engine.after calls).filters.forget = engine.filters.forget ∧
      (engine.after calls).filters.Remembers (first.or (engine.firstDisk? calls)) := by
  induction calls generalizing engine first with
  | nil => simpa [after, firstDisk?] using h
  | cons c calls ih =>
    obtain ⟨hforget, hrem⟩ := answer_remembers h c
    obtain ⟨hforget', hrem'⟩ := ih hrem
    refine ⟨hforget'.trans hforget, ?_⟩
    rw [firstDisk?_cons, ← Option.or_assoc]
    exact hrem'

def ofSpecs (root : Path) (sources ignored : List String) : Engine :=
  fresh (.fresh root sources ignored)

theorem ofSpecs_after (root : Path) (sources ignored : List String) (calls : List (Call ε)) :
    ((ofSpecs root sources ignored).after calls).filters.forget = .fresh root sources ignored ∧
      ((ofSpecs root sources ignored).after calls).filters.Remembers
        ((ofSpecs root sources ignored).firstDisk? calls) := by
  have h : (ofSpecs root sources ignored).filters.Remembers none :=
    Filters.remembers_forget (.fresh root sources ignored)
  have hh := after_remembers h calls
  rwa [Option.none_or] at hh

theorem request_scoped {c : Call ε} (h : (engine.answer c).result = .ok (.files files)) :
    (c.request.paths.isEmpty && !c.request.changedOnly) = false := by
  cases hu : c.request.paths.isEmpty && !c.request.changedOnly with
  | false => rfl
  | true => simp [answer, resolve, hu] at h

/-- A fresh engine answers with what both filters, computed anew, leave of what is found. -/
theorem ofSpecs_answer {c : Call ε} {found allowed ignored' : FileSet}
    (hu : (c.request.paths.isEmpty && !c.request.changedOnly) = false)
    (hfound : ((ofSpecs root sources ignored).found c).result = .ok found)
    (ha : (Filters.fresh root sources ignored).computeWhitelist
      ((ofSpecs root sources ignored).found c).disk = .ok allowed)
    (hi : (Filters.fresh root sources ignored).computeBlacklist
      ((ofSpecs root sources ignored).found c).disk = .ok ignored') :
    ((ofSpecs root sources ignored).answer c).result =
      .ok (.files ((FileSet.inter found allowed).diff ignored')) := by
  have h : (Filters.fresh root sources ignored).Remembers none :=
    Filters.remembers_forget (.fresh root sources ignored)
  obtain ⟨g, hc⟩ := h.consult_computed ha hi
  rw [answer_eq_filter hu, filter_eq, hfound, find_engine]
  simp only [ofSpecs, fresh] at hc ⊢
  rw [hc]

/-- Filters computed on an earlier disk let through what filters computed now do, less what was no
file then. -/
theorem diff_inter_eq_filter {f : Filters} {first now : Disk}
    {found allowed ignored allowed' ignored' : FileSet}
    (ha : f.computeWhitelist first = .ok allowed) (hi : f.computeBlacklist first = .ok ignored)
    (ha' : f.computeWhitelist now = .ok allowed') (hi' : f.computeBlacklist now = .ok ignored')
    (hnow : ∀ r ∈ found, now.isFile (f.root.place r) = true) :
    (FileSet.inter found allowed).diff ignored =
      ((FileSet.inter found allowed').diff ignored').filter
        fun r => first.isFile (f.root.place r) := by
  simp only [FileSet.inter, FileSet.diff, List.filter_filter]
  apply List.filter_congr
  intro r hr
  have hfile := hnow r hr
  rw [Bool.eq_iff_iff]
  simp only [Bool.and_eq_true, Bool.not_eq_true', Bool.eq_false_iff, ne_eq, List.contains_iff_mem,
    Filters.mem_computeWhitelist_iff ha, Filters.mem_computeBlacklist_iff hi,
    Filters.mem_computeWhitelist_iff ha', Filters.mem_computeBlacklist_iff hi', hfile]
  grind

/-- Whatever was asked before, an engine answers with the files that a fresh one finds on the disk
as it is now, less those that were not there at the end of the first call answered with files. None
of them is a file that an ignored spec stands for now, and each lies in the root or is one that a
source spec stands for now. -/
theorem answer_after_calls (root : Path) (sources ignored : List String) (calls : List (Call ε))
    (c : Call ε) {files : List String}
    (h : (((ofSpecs root sources ignored).after calls).answer c).result = .ok (.files files)) :
    let now := (((ofSpecs root sources ignored).after calls).answer c).disk
    (∃ anew first, ((ofSpecs root sources ignored).answer c).result = .ok (.files anew) ∧
      (ofSpecs root sources ignored).firstDisk? (calls ++ [c]) = some first ∧
      files = anew.filter fun r => first.isFile (root.place r)) ∧
    ∀ r ∈ files,
      (∀ spec ∈ ignored, ∀ matched, PathSpec.expand now root spec = .ok matched → r ∉ matched) ∧
      ((∃ entries, PathSpec.rootFiles now root = .ok entries ∧ r ∈ entries) ∨
        ∃ spec ∈ sources, ∃ matched, PathSpec.expand now root spec = .ok matched ∧
          r ∈ matched) := by
  intro now
  let engine := (ofSpecs root sources ignored).after calls
  let start := ofSpecs root sources ignored
  let first := (start.firstDisk? calls).getD now
  obtain ⟨hforget, hrem⟩ := ofSpecs_after root sources ignored calls
  have hroot : engine.filters.root = root := congrArg Filters.root hforget
  obtain ⟨found, a, i, hfound, hd, ha, hi, hfiles⟩ := answer_eq_files hrem h
  have ha : (Filters.fresh root sources ignored).computeWhitelist first = .ok a := hforget ▸ ha
  have hi : (Filters.fresh root sources ignored).computeBlacklist first = .ok i := hforget ▸ hi
  obtain ⟨a', ha'⟩ := Filters.computeWhitelist_isOk ha now
  obtain ⟨i', hi'⟩ := Filters.computeBlacklist_isOk hi now
  have hnow : ∀ r ∈ found, now.isFile (root.place r) = true := by
    intro r hr
    obtain ⟨spec, hm, -⟩ := matches_of_found hfound hr
    rwa [← hd, hroot] at hm
  have heq := diff_inter_eq_filter ha hi ha' hi' hnow
  obtain ⟨hsame, hdisk⟩ := find_congr (show start.filters.root = engine.filters.root from hroot.symm) c
  have hanew : (start.answer c).result = .ok (.files ((FileSet.inter found a').diff i')) := by
    apply ofSpecs_answer (request_scoped h) (hsame.trans hfound)
    · rwa [hdisk, ← hd]
    · rwa [hdisk, ← hd]
  refine ⟨⟨_, first, hanew, ?_, hfiles.trans heq⟩, fun r hr => ?_⟩
  · rw [firstDisk?_append]
    have hlast : engine.firstDisk? [c] = some now := by simp [firstDisk?, engine, h, now]
    rw [hlast]
    cases hf : start.firstDisk? calls <;> simp [first, hf]
  · rw [hfiles, heq] at hr
    have hr := (List.mem_filter.mp hr).1
    simp only [FileSet.diff, FileSet.inter, List.mem_filter, List.contains_iff_mem,
      Bool.not_eq_true', Bool.eq_false_iff, ne_eq] at hr
    obtain ⟨⟨-, hallowed⟩, hignored⟩ := hr
    constructor
    · intro spec hspec matched hm hr
      exact hignored ((PathSpec.mem_expandAll_iff hi').mpr
        ⟨spec, hspec, (PathSpec.mem_expand_iff hm).mp hr⟩)
    · obtain ⟨entries, expanded, he, hx, rfl⟩ := Filters.computeWhitelist_eq_ok ha'
      rw [FileSet.union, FileSet.mem_ofList, List.mem_append] at hallowed
      rcases hallowed with hm | hm
      · exact .inl ⟨entries, he, hm⟩
      · exact .inr ((PathSpec.mem_expandAll hx).mp hm)

def Resolution.files? (r : Resolution ε) : Option (List String) :=
  match r.result with
  | .ok (.files files) => some files
  | _ => none

theorem Resolution.result_of_files? {r : Resolution ε} (h : r.files? = some files) :
    r.result = .ok (.files files) := by
  simp only [files?] at h
  split at h
  · cases h
    assumption
  · cases h

def Call.within (names paths : List String) : Call Unit where
  source := ⟨fun disk _ _ => (disk, .error ())⟩
  debugging := false
  disk := names.foldl (fun disk name =>
    disk.write (Path.ofAbsolute ("/p/" ++ name).toList).names (.file [])) .empty
  clock := []
  request := ⟨paths, false, ""⟩

/-- A file that came after the first answer stays out of the second. -/
theorem answer_after_calls_grown :
    let root := Path.ofAbsolute "/p".toList
    let start := ofSpecs root ["."] ["lib/old"]
    let earlier := Call.within ["main.rb", "lib/old.rb"] [""]
    let later := Call.within ["lib/new.rb", "main.rb"] [""]
    ((start.after [earlier]).answer later).result = .ok (.files ["main.rb"]) ∧
      (start.answer later).result = .ok (.files ["lib/new.rb", "main.rb"]) ∧
      ∃ anew first, (start.answer later).result = .ok (.files anew) ∧
        start.firstDisk? [earlier, later] = some first ∧
        ["main.rb"] = anew.filter fun r => first.isFile (root.place r) := by
  intro root start earlier later
  have h : ((start.after [earlier]).answer later).result = .ok (.files ["main.rb"]) :=
    Resolution.result_of_files? (by decide +kernel)
  exact ⟨h, Resolution.result_of_files? (by decide +kernel),
    (answer_after_calls root ["."] ["lib/old"] [earlier] later h).1⟩

end LintDispatch.Engine
