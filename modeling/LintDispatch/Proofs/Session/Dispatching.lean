import LintDispatch.Proofs.CommandLine.Overriding
import LintDispatch.Proofs.Dispatch.Previewing
import LintDispatch.Proofs.Selection.Scoping
import LintDispatch.Session

/-! From the configuration and the arguments to the commands. What a session executes can be told
from the configured linters, from the values that were read, and from which files are in scope. -/

namespace LintDispatch.Session

open CommandLine (flag reference toggled settingsOf)

variable {ε : Type} {host : Host ε} {values : Bindings Value}

/-- Nothing goes wrong on the side of the host: its clock is steady, its source answers, whatever it
is asked and with no null character, and running a command does not fail. -/
structure Host.Sound (host : Host ε) : Prop where
  clock : host.clock.Steady
  source : ∀ disk reference scopes, ∃ change,
    (host.source.changed disk reference scopes).2 = .ok change ∧ PathSpec.NullFree change.files
  runner : host.runner.Reliable

def call (host : Host ε) (values : Bindings Value) (paths : List String) (disk : Disk) :
    Engine.Call ε where
  source := host.source
  debugging := flag values .debug
  disk := disk
  clock := host.clock
  request := ⟨paths, flag values .changedOnly, reference values⟩

/-- The linters switched on by name if there is any, else all that were not switched off. -/
def participating (values : Bindings Value) (linters : List Linter) : List Linter :=
  let numbered := linters.zipIdx
  let on := numbered.filter fun x => toggled values x.2 == some true
  (if on.isEmpty then numbered.filter fun x => toggled values x.2 != some false else on).map Prod.fst

def toggledAt (values : Bindings Value) (i : Nat) (l : Linter) : Linter :=
  (toggled values i).elim l fun b => l.setToggle (some b)

theorem isSwitchedOn_toggledAt {l : Linter} (i : Nat) (h : l.toggle = none) :
    (toggledAt values i l).isSwitchedOn = (toggled values i == some true) := by
  cases ht : toggled values i <;> simp [toggledAt, ht, Linter.isSwitchedOn, h]

theorem enabled_toggledAt {l : Linter} (i : Nat) (h : l.enabled = true) :
    (toggledAt values i l).enabled = (toggled values i != some false) := by
  cases ht : toggled values i <;> simp [toggledAt, ht, Linter.setToggle, h]

theorem commandFor_toggledAt (settings : Settings) (scope : Scope) (i : Nat) (l : Linter) :
    Dispatch.commandFor settings scope (toggledAt values i l) =
      Dispatch.commandFor settings scope l := by
  simp only [toggledAt]
  cases toggled values i <;> rfl

/-- Toggling selects the participants, and has no part in their commands. -/
theorem plan_toggledAt {linters : List Linter} (settings : Settings) (scope : Scope)
    (h : ∀ l ∈ linters, l.toggle = none ∧ l.enabled = true) :
    Dispatch.plan settings (linters.mapIdx (toggledAt values)) scope =
      (participating values linters).filterMap (Dispatch.commandFor settings scope) := by
  let numbered := linters.zipIdx
  let g : Linter × Nat → Linter := fun x => toggledAt values x.2 x.1
  have hmap : linters.mapIdx (toggledAt values) = numbered.map g := by
    rw [List.mapIdx_eq_zipIdx_map]
  have hmem : ∀ x ∈ numbered, x.1 ∈ linters := fun x hx => (List.mem_zipIdx' hx).2 ▸ List.getElem_mem _
  have hon : (numbered.map g).filter Linter.isSwitchedOn =
      (numbered.filter fun x => toggled values x.2 == some true).map g := by
    rw [List.filter_map]
    exact congrArg _ (List.filter_congr fun x hx => isSwitchedOn_toggledAt x.2 (h _ (hmem x hx)).1)
  have hoff : (numbered.map g).filter Linter.enabled =
      (numbered.filter fun x => toggled values x.2 != some false).map g := by
    rw [List.filter_map]
    exact congrArg _ (List.filter_congr fun x hx => enabled_toggledAt x.2 (h _ (hmem x hx)).2)
  have hcommands : ∀ xs : List (Linter × Nat),
      (xs.map g).filterMap (Dispatch.commandFor settings scope) =
        (xs.map Prod.fst).filterMap (Dispatch.commandFor settings scope) := by
    intro xs
    simp only [List.filterMap_map]
    exact congrArg (List.filterMap · xs) (funext fun x => commandFor_toggledAt settings scope x.2 x.1)
  rw [Dispatch.plan, hmap, participating, ← hcommands]
  congr 1
  cases hchosen : numbered.filter fun x => toggled values x.2 == some true with
  | nil =>
    rw [Dispatch.participants_of_none_chosen (by rw [hon, hchosen]; rfl), hoff]
    rfl
  | cons x xs =>
    rw [Dispatch.participants_of_chosen (by simp [hon, hchosen]), hon, hchosen]
    rfl

theorem prepare_eq_ok {here : Path} {root : Option String} {disk : Disk} {p : Prepared}
    (h : prepare (ε := ε) here root disk = .ok p) :
    Config.load disk (configFile here root) = .ok p.config ∧
      CommandLine.build p.config.buildLinters = .ok p.command ∧
      CommandLine.Options.ofParameters p.command.parameters = .ok p.options := by
  simp only [prepare] at h
  repeat' split at h
  all_goals cases h
  exact ⟨‹_›, ‹_›, ‹_›⟩

theorem run_eq_dispatch {root : Option String} {arguments paths : List String} {disk : Disk}
    {p : Prepared} (hprepare : prepare (ε := ε) host.here root disk = .ok p)
    (hparse : CommandLine.parse p.command p.options arguments = .ok (.run values paths)) :
    run host root arguments disk = dispatch host (rootPath host.here root) p.config
      (settingsOf values) (p.config.buildLinters.mapIdx (toggledAt values)) paths disk := by
  obtain ⟨hload, hbuild, hoptions⟩ := prepare_eq_ok hprepare
  have hover := CommandLine.applyOverrides_of_parse hbuild hoptions hparse
  rw [← Config.settings_of_load hload] at hover
  simp only [run, hprepare, hparse, hover]
  rfl

def callFor (host : Host ε) (settings : Settings) (paths : List String) (disk : Disk) :
    Engine.Call ε where
  source := host.source
  debugging := settings.debug
  disk := disk
  clock := host.clock
  request := ⟨paths, settings.changedOnly, settings.changedRef⟩

theorem dispatch_of_ok {root : Path} {config : Config} {settings : Settings}
    {paths : List String} {disk : Disk} {r : Engine.Resolution ε} {scope : Scope}
    (linters : List Linter)
    (hr : (Engine.ofSpecs root config.sourcePaths config.ignoredPaths).answer
      (callFor host settings paths disk) = r) (hs : r.result = .ok scope)
    (hrunner : host.runner.Reliable) :
    let o := Dispatch.run host.runner settings settings.debug linters scope r.disk
    dispatch host root config settings linters paths disk =
      ⟨o.disk, r.transcript ++ o.transcript, 0⟩ := by
  intro o
  have hresolve : (Engine.fresh (.fresh root config.sourcePaths config.ignoredPaths)).resolve
      host.source settings.debug disk host.clock
      ⟨paths, settings.changedOnly, settings.changedRef⟩ = r := hr
  have hf : o.failure = none := Dispatch.failure_run hrunner settings _ linters scope r.disk
  simp only [o] at hf
  simp only [dispatch, hresolve, hs, hf]
  rfl

/-- Dispatching in normal mode executes the plan for the scope that the engine answers with. -/
theorem dispatch_normal {root : Path} {config : Config} {paths : List String} {disk : Disk}
    {scope : Scope} (linters : List Linter) (hr : host.runner.Reliable)
    (hmode : (settingsOf values).mode = .normal)
    (hscope : ((Engine.ofSpecs root config.sourcePaths config.ignoredPaths).answer
      (call host values paths disk)).result = .ok scope) :
    (dispatch host root config (settingsOf values) linters paths disk).status = 0 ∧
      Transcript.commands
          (dispatch host root config (settingsOf values) linters paths disk).transcript =
        Dispatch.plan (settingsOf values) linters scope := by
  let r := (Engine.ofSpecs root config.sourcePaths config.ignoredPaths).answer
    (call host values paths disk)
  have hquiet : Transcript.commands r.transcript = [] := Engine.commands_answer _ _
  have hplan := (Dispatch.run_normal hr hmode (settingsOf values).debug linters scope r.disk).2
  rw [dispatch_of_ok linters (r := r) rfl hscope hr]
  exact ⟨rfl, by rw [Transcript.commands_append, hquiet, hplan, List.nil_append]⟩

theorem configured_of_mem_buildLinters {config : Config} {l : Linter}
    (h : l ∈ config.buildLinters) : l.toggle = none ∧ l.enabled = true := by
  obtain ⟨d, -, rfl⟩ := List.mem_map.mp h
  exact ⟨rfl, rfl⟩

/-- A source that answers tells a call what to look for. -/
theorem exists_looksFor (hhost : host.Sound) (values : Bindings Value) {paths : List String}
    (disk : Disk) (hnull : PathSpec.NullFree paths) :
    ∃ seen wanted, (call host values paths disk).LooksFor seen wanted ∧ PathSpec.NullFree wanted := by
  cases hc : flag values .changedOnly with
  | false =>
    refine ⟨disk, (call host values paths disk).request.scopes, .inl ⟨hc, rfl, rfl⟩, ?_⟩
    cases paths with
    | nil =>
      intro spec hm
      cases List.mem_singleton.mp hm
      decide
    | cons path rest => exact hnull
  | true =>
    let scopes := (call host values paths disk).request.scopes
    obtain ⟨change, hchange, hn⟩ := hhost.source disk (reference values) scopes
    exact ⟨(host.source.changed disk (reference values) scopes).1, _,
      .inr ⟨hc, change, Prod.ext rfl hchange, rfl⟩, hn⟩

theorem run_normal {root : Option String} {arguments paths : List String} {disk : Disk}
    {p : Prepared} {scope : Scope} (hr : host.runner.Reliable)
    (hprepare : prepare (ε := ε) host.here root disk = .ok p)
    (hparse : CommandLine.parse p.command p.options arguments = .ok (.run values paths))
    (hlist : flag values .list = false) (hdry : flag values .dryRun = false)
    (hscope : ((Engine.ofSpecs (rootPath host.here root) p.config.sourcePaths
      p.config.ignoredPaths).answer (call host values paths disk)).result = .ok scope) :
    (run host root arguments disk).status = 0 ∧
      Transcript.commands (run host root arguments disk).transcript =
        (participating values p.config.buildLinters).filterMap
          (Dispatch.commandFor (settingsOf values) scope) := by
  have hmode : (settingsOf values).mode = .normal := by
    simp [Settings.mode, settingsOf, hlist, hdry]
  rw [run_eq_dispatch hprepare hparse,
    ← plan_toggledAt _ _ fun l hl => configured_of_mem_buildLinters hl]
  exact dispatch_normal _ hr hmode hscope

theorem commandFor_files (files : List String) (l : Linter) :
    Dispatch.commandFor (settingsOf values) (.files files) l =
      if l.applicableFiles files = [] then none
      else (l.templateFor (flag values .autocorrect)).map
        (· ++ " " ++ " ".intercalate (l.applicableFiles files)) := by
  rw [Dispatch.commandFor_eq]
  simp only [Linter.commandFrom_files]
  split
  · exact Option.bind_fun_none _
  · rw [Option.map_eq_bind]
    rfl

/-- `command` is how the linter `l` is run, if it is run at all: on the whole project where no paths
are given and changes do not count, else on those of the files in scope that have one of its
extensions, and not at all if there are none. -/
def IsCommand (host : Host ε) (root : Path) (config : Config) (values : Bindings Value)
    (paths : List String) (disk : Disk) (l : Linter) (command : Option String) : Prop :=
  let template := l.templateFor (flag values .autocorrect)
  (paths = [] ∧ flag values .changedOnly = false → command = template.map (· ++ " .")) ∧
  (paths ≠ [] ∨ flag values .changedOnly = true → ∃ seen wanted files,
    (call host values paths disk).LooksFor seen wanted ∧ files.Pairwise (· < ·) ∧
    (∀ r, r ∈ files ↔ Linter.extension r ∈ l.extensions ∧
      Engine.InScope seen root config.sourcePaths config.ignoredPaths wanted r) ∧
    command = if files = [] then none else template.map (· ++ " " ++ " ".intercalate files))

/-- From the arguments to the commands: a session that is to execute commands executes those of the
participants, in the order in which they are configured. -/
theorem run_dispatches {root : Option String} {arguments paths : List String} {disk : Disk}
    {p : Prepared} (hhost : host.Sound) (hroot : (rootPath host.here root).NullFree)
    (hprepare : prepare (ε := ε) host.here root disk = .ok p)
    (hparse : CommandLine.parse p.command p.options arguments = .ok (.run values paths))
    (hlist : flag values .list = false) (hdry : flag values .dryRun = false)
    (hnull : PathSpec.NullFree (paths ++ p.config.sourcePaths ++ p.config.ignoredPaths)) :
    let ended := run host root arguments disk
    ended.status = 0 ∧ ∃ command : Linter → Option String,
      Transcript.commands ended.transcript =
        (participating values p.config.buildLinters).filterMap command ∧
      ∀ l, IsCommand host (rootPath host.here root) p.config values paths disk l (command l) := by
  intro ended
  by_cases hu : paths = [] ∧ flag values .changedOnly = false
  · obtain ⟨rfl, hc⟩ := hu
    have hscope : ((Engine.ofSpecs (rootPath host.here root) p.config.sourcePaths
        p.config.ignoredPaths).answer (call host values [] disk)).result = .ok .unscoped := by
      simp [Engine.answer, Engine.resolve, call, hc]
    obtain ⟨hstatus, hcommands⟩ := run_normal hhost.runner hprepare hparse hlist hdry hscope
    refine ⟨hstatus, _, hcommands, fun l => ⟨fun _ => ?_, fun h => by simp [hc] at h⟩⟩
    rw [Dispatch.commandFor_eq]
    simp only [Linter.commandFrom_unscoped]
    exact Option.map_eq_bind.symm
  · simp only [PathSpec.NullFree, List.mem_append] at hnull
    obtain ⟨seen, wanted, hlook, hwanted⟩ := exists_looksFor hhost values disk
      fun spec hm => hnull spec (.inl (.inl hm))
    have hall : PathSpec.NullFree (wanted ++ p.config.sourcePaths ++ p.config.ignoredPaths) := by
      simp only [PathSpec.NullFree, List.mem_append]
      rintro spec ((hm | hm) | hm)
      · exact hwanted spec hm
      · exact hnull spec (.inl (.inr hm))
      · exact hnull spec (.inr hm)
    have hscoped : ((call host values paths disk).request.paths.isEmpty &&
        !(call host values paths disk).request.changedOnly) = false := by
      simpa [call] using hu
    obtain ⟨files, hscope, hinc, hmem⟩ :=
      Engine.ofSpecs_answer_files hhost.clock hlook hscoped hroot hall
    obtain ⟨hstatus, hcommands⟩ := run_normal hhost.runner hprepare hparse hlist hdry hscope
    refine ⟨hstatus, _, hcommands, fun l => ⟨fun h => absurd h hu, fun _ => ?_⟩⟩
    refine ⟨seen, wanted, l.applicableFiles files, hlook, hinc.filter _, fun r => ?_,
      commandFor_files files l⟩
    rw [Linter.applicableFiles, List.mem_filter, hmem, and_comm, List.contains_iff_mem]

def quietHost : Host Unit where
  here := .ofAbsolute "/p".toList
  clock := [.whole 3]
  source := .git fun disk _ => (disk, .ok [])
  runner := ⟨fun disk _ => ⟨disk, "", none⟩⟩
  report _ := .plain "Error" ""

def smallProject : Disk :=
  [("/p/.l.yml", "linters:\n- name: R\n  cmd: rubocop\n  extensions: [.rb]\n" ++
      "ignored_file_paths: lib/old\n"),
    ("/p/lib/a.rb", ""), ("/p/lib/b.js", ""), ("/p/lib/old.rb", "")].foldl
    (fun disk e => disk.write (Path.ofAbsolute e.1.toList).names
      (.file (Text.encodeUtf8 e.2.toList))) .empty

def asked? (here : Path) (root : Option String) (arguments : List String) (disk : Disk) :
    Option (Prepared × Bindings Value × List String) :=
  match prepare (ε := Unit) here root disk with
  | .error _ => none
  | .ok p =>
    match CommandLine.parse p.command p.options arguments with
    | .ok (.run values paths) => some (p, values, paths)
    | _ => none

theorem asked?_eq_some {here : Path} {root : Option String} {arguments paths : List String}
    {disk : Disk} {p : Prepared} (h : asked? here root arguments disk = some (p, values, paths)) :
    prepare (ε := Unit) here root disk = .ok p ∧
      CommandLine.parse p.command p.options arguments = .ok (.run values paths) := by
  simp only [asked?] at h
  split at h
  · cases h
  · split at h
    · cases h
      exact ⟨‹_›, ‹_›⟩
    · cases h

theorem quietHost_sound : quietHost.Sound where
  clock := by
    intro t ht
    cases List.mem_singleton.mp ht
    exact (by decide : (3 : Int).natAbs < Seconds.bound)
  source _ _ _ := ⟨_, rfl, List.forall_mem_nil _⟩
  runner _ _ := rfl

/-- Of the files below `lib` only one is neither ignored nor without a linter. -/
theorem run_dispatches_small : ∃ p values paths,
    quietHost.Sound ∧ (rootPath quietHost.here none).NullFree ∧
    prepare (ε := Unit) quietHost.here none smallProject = .ok p ∧
    CommandLine.parse p.command p.options ["-d", "lib"] = .ok (.run values paths) ∧
    flag values .list = false ∧ flag values .dryRun = false ∧
    PathSpec.NullFree (paths ++ p.config.sourcePaths ++ p.config.ignoredPaths) ∧
    let ended := run quietHost none ["-d", "lib"] smallProject
    (ended.status = 0 ∧ ∃ command : Linter → Option String,
      Transcript.commands ended.transcript =
        (participating values p.config.buildLinters).filterMap command ∧
      ∀ l, IsCommand quietHost (rootPath quietHost.here none) p.config values paths smallProject l
        (command l)) ∧
    Transcript.commands ended.transcript = ["rubocop lib/a.rb"] := by
  have hready : (asked? quietHost.here none ["-d", "lib"] smallProject).any (fun x =>
      decide (flag x.2.1 .list = false ∧ flag x.2.1 .dryRun = false ∧
        PathSpec.NullFree (x.2.2 ++ x.1.config.sourcePaths ++ x.1.config.ignoredPaths))) = true := by
    decide +kernel
  have hroot : ∀ name ∈ (rootPath quietHost.here none).names, '\x00' ∉ name := by decide
  obtain ⟨⟨p, values, paths⟩, hasked, hfacts⟩ := (Option.any_eq_true _ _).mp hready
  obtain ⟨hp, hparse⟩ := asked?_eq_some hasked
  obtain ⟨hlist, hdry, hnull⟩ := of_decide_eq_true hfacts
  exact ⟨p, values, paths, quietHost_sound, hroot, hp, hparse, hlist, hdry, hnull,
    run_dispatches quietHost_sound hroot hp hparse hlist hdry hnull, by decide +kernel⟩

end LintDispatch.Session
