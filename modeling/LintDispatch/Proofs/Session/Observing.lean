import LintDispatch.Proofs.CommandLine.Debugging
import LintDispatch.Proofs.Session.Ending

/-! Debugging only watches. Stage by stage, what is done with debugging is what is done without it,
and what is said differs in the debugging and timing lines alone; so a `-d` in front of the
arguments of a session has no part in what becomes of it. -/

namespace LintDispatch

open Transcript (undebugged undebugged_append undebugged_debug)

/-- As long as the clock is steady, timing adds nothing to a piece of work but its own lines. -/
theorem Console.timed_undebugged {α ε : Type} {clock : Clock} (hclock : clock.Steady)
    (debugging : Bool) (message : String) (ofError : Seconds.Error → ε)
    (work : Transcript × Except ε α) :
    (timed debugging clock message ofError work).result = work.2 ∧
      (timed debugging clock message ofError work).transcript.undebugged = work.1.undebugged := by
  obtain ⟨hstart, hrest⟩ := hclock.read
  obtain ⟨ms, hms⟩ := Seconds.milliseconds_since hrest.read.1 hstart
  have htiming : ∀ text, undebugged [.said .timing text] = [] := fun _ => rfl
  cases debugging with
  | false => exact ⟨rfl, rfl⟩
  | true =>
    cases hwork : work.2 with
    | error e =>
      simp only [timed, if_true, hwork, undebugged_append, htiming, List.nil_append, and_self]
    | ok value =>
      simp only [timed, if_true, hwork, hms, undebugged_append, htiming, List.nil_append,
        List.append_nil, and_self]

namespace Engine

variable {ε : Type} {engine : Engine} {source : ChangeSource ε} {disk : Disk} {clock : Clock}

structure Found.Same (f g : Found ε) : Prop where
  engine : f.engine = g.engine
  disk : f.disk = g.disk
  result : f.result = g.result
  transcript : f.transcript.undebugged = g.transcript.undebugged

structure Resolution.Same (r s : Resolution ε) : Prop where
  engine : r.engine = s.engine
  disk : r.disk = s.disk
  result : r.result = s.result
  transcript : r.transcript.undebugged = s.transcript.undebugged

theorem filter_same {f g : Found ε} (h : f.Same g) : (filter f).Same (filter g) := by
  obtain ⟨engine, disk, _, said, result⟩ := f
  obtain ⟨_, _, _, said', _⟩ := g
  obtain ⟨rfl, rfl, rfl, hsaid⟩ := h
  simp only [filter]
  split
  · exact ⟨rfl, rfl, rfl, hsaid⟩
  · split
    · exact ⟨rfl, rfl, rfl, hsaid⟩
    · exact ⟨rfl, rfl, rfl, hsaid⟩

theorem findSources_same (hclock : clock.Steady) (debugging debugging' : Bool) (paths : List String) :
    (engine.findSources (ε := ε) debugging disk clock paths).Same
      (engine.findSources debugging' disk clock paths) := by
  have htimed := fun debugging => Console.timed_undebugged hclock debugging sourceLookup
    Error.clock (([], engine.expand disk paths) : Transcript × Except (Error ε) FileSet)
  exact ⟨rfl, rfl, (htimed debugging).1.trans (htimed debugging').1.symm,
    (htimed debugging).2.trans (htimed debugging').2.symm⟩

theorem findChanges_same (hclock : clock.Steady) (debugging debugging' : Bool) (paths : List String)
    (reference : String) :
    (engine.findChanges source debugging disk clock paths reference).Same
      (engine.findChanges source debugging' disk clock paths reference) := by
  have htimed := fun debugging => Console.timed_undebugged hclock debugging changedLookup
    Error.clock ([.queried reference paths], (engine.lookupChanges source disk reference paths).2)
  cases hlooked : (engine.lookupChanges source disk reference paths).2 with
  | error e =>
    simp only [hlooked] at htimed
    simp only [findChanges, hlooked, (htimed debugging).1, (htimed debugging').1]
    exact ⟨rfl, rfl, rfl, (htimed debugging).2.trans (htimed debugging').2.symm⟩
  | ok found =>
    simp only [hlooked] at htimed
    simp only [findChanges, hlooked, (htimed debugging).1, (htimed debugging').1]
    refine ⟨rfl, rfl, rfl, ?_⟩
    simp only [undebugged_append, undebugged_debug, (htimed debugging).2, (htimed debugging').2]

theorem resolve_same (hclock : clock.Steady) (debugging debugging' : Bool) (request : Request) :
    (engine.resolve source debugging disk clock request).Same
      (engine.resolve source debugging' disk clock request) := by
  simp only [resolve]
  split
  · exact ⟨rfl, rfl, rfl, rfl⟩
  · refine filter_same ?_
    simp only [find]
    split
    · exact findChanges_same hclock debugging debugging' _ _
    · exact findSources_same hclock debugging debugging' _

end Engine

namespace Dispatch

variable {ε : Type} {runner : Runner ε} {settings : Settings} {scope : Scope}

structure Outcome.Same (o o' : Outcome ε) : Prop where
  disk : o.disk = o'.disk
  failure : o.failure = o'.failure
  transcript : o.transcript.undebugged = o'.transcript.undebugged

theorem Outcome.Same.after {o o' : Outcome ε} (h : o.Same o') {t t' : Transcript}
    (ht : t.undebugged = t'.undebugged) : (o.after t).Same (o'.after t') :=
  ⟨h.disk, h.failure, by simp only [Outcome.after, undebugged_append, ht, h.transcript]⟩

theorem commandFor_withDebug (settings : Settings) (debugging : Bool) (scope : Scope) :
    commandFor (settings.withDebug debugging) scope = commandFor settings scope := rfl

theorem undebugged_said (debugging debugging' first : Bool) (l : Linter) (command : String) :
    undebugged (header first l ++ announce (settings.withDebug debugging) debugging command) =
      undebugged (header first l ++ announce (settings.withDebug debugging') debugging' command) := by
  rw [undebugged_append, undebugged_append, undebugged_announce, undebugged_announce]
  rfl

theorem undebugged_ran (debugging debugging' first : Bool) (l : Linter) (command output : String) :
    undebugged (header first l ++ announce (settings.withDebug debugging) debugging command ++
        [.ran command output]) =
      undebugged (header first l ++ announce (settings.withDebug debugging') debugging' command ++
        [.ran command output]) := by
  rw [undebugged_append, undebugged_append _ [.ran command output],
    undebugged_said debugging debugging']

theorem runEach_same (debugging debugging' first : Bool) (linters : List Linter) (disk : Disk) :
    (runEach runner (settings.withDebug debugging) debugging scope first linters disk).Same
      (runEach runner (settings.withDebug debugging') debugging' scope first linters disk) := by
  induction linters generalizing first disk with
  | nil => exact ⟨rfl, rfl, rfl⟩
  | cons l rest ih =>
    have hcommand := fun debugging => congrFun (commandFor_withDebug settings debugging scope) l
    cases hc : commandFor settings scope l with
    | none =>
      rw [hc] at hcommand
      rw [runEach_cons_skipped _ _ _ _ (hcommand _), runEach_cons_skipped _ _ _ _ (hcommand _)]
      exact (ih false disk).after rfl
    | some command =>
      rw [hc] at hcommand
      by_cases hm : settings.mode = .normal
      · cases hf : (runner.execute disk command).failure with
        | some failure =>
          rw [runEach_cons_failed _ _ _ _ (by simpa using hm) (hcommand _) hf,
            runEach_cons_failed _ _ _ _ (by simpa using hm) (hcommand _) hf]
          exact ⟨rfl, rfl, undebugged_ran debugging debugging' first l command _⟩
        | none =>
          rw [runEach_cons_executed _ _ _ _ (by simpa using hm) (hcommand _) hf,
            runEach_cons_executed _ _ _ _ (by simpa using hm) (hcommand _) hf]
          exact (ih false _).after (undebugged_ran debugging debugging' first l command _)
      · rw [runEach_cons_shown _ _ _ _ (by simpa using hm) (hcommand _),
          runEach_cons_shown _ _ _ _ (by simpa using hm) (hcommand _)]
        exact (ih false disk).after (undebugged_said debugging debugging' first l command)

theorem run_same (runner : Runner ε) (settings : Settings) (scope : Scope)
    (debugging debugging' : Bool) (linters : List Linter) (disk : Disk) :
    (run runner (settings.withDebug debugging) debugging linters scope disk).Same
      (run runner (settings.withDebug debugging') debugging' linters scope disk) := by
  have hscope : (describeScope debugging scope).undebugged =
      (describeScope debugging' scope).undebugged := by
    rw [undebugged_describeScope, undebugged_describeScope]
  by_cases hm : settings.mode = .list
  · rw [run_of_list (by simpa using hm), run_of_list (by simpa using hm)]
    exact Outcome.Same.after ⟨rfl, rfl, rfl⟩ hscope
  · rw [run_of_ne_list (by simpa using hm), run_of_ne_list (by simpa using hm)]
    exact (runEach_same debugging debugging' true (participants linters) disk).after hscope

end Dispatch

namespace Session

open CommandLine (flag settingsOf toggled)

variable {ε : Type} {host : Host ε}

structure Ended.Same (e e' : Ended) : Prop where
  disk : e.disk = e'.disk
  status : e.status = e'.status
  transcript : e.transcript.undebugged = e'.transcript.undebugged

theorem Ended.Same.after {e e' : Ended} (h : e.Same e') {t t' : Transcript}
    (ht : t.undebugged = t'.undebugged) : (e.after t).Same (e'.after t') :=
  ⟨h.disk, h.status, by simp only [Ended.after, undebugged_append, ht, h.transcript]⟩

theorem dispatch_same (hclock : host.clock.Steady) (root : Path) (config : Config)
    (settings : Settings) (debugging debugging' : Bool) (linters : List Linter) (paths : List String)
    (disk : Disk) :
    (dispatch host root config (settings.withDebug debugging) linters paths disk).Same
      (dispatch host root config (settings.withDebug debugging') linters paths disk) := by
  let resolved (debugging : Bool) : Engine.Resolution ε :=
    (Engine.fresh (.fresh root config.sourcePaths config.ignoredPaths)).resolve host.source debugging
      disk host.clock ⟨paths, settings.changedOnly, settings.changedRef⟩
  have hsame : (resolved debugging).Same (resolved debugging') :=
    Engine.resolve_same hclock debugging debugging' _
  cases hr : (resolved debugging).result with
  | error e =>
    have hr' : (resolved debugging').result = .error e := hsame.result ▸ hr
    simp only [resolved] at hr hr' hsame
    simp only [dispatch, Settings.debug_withDebug, Settings.changedOnly_withDebug,
      Settings.changedRef_withDebug, hr, hr', hsame.disk]
    exact Ended.Same.after ⟨rfl, rfl, rfl⟩ hsame.transcript
  | ok scope =>
    have hr' : (resolved debugging').result = .ok scope := hsame.result ▸ hr
    have hrun := Dispatch.run_same host.runner settings scope debugging debugging' linters
      (resolved debugging').disk
    simp only [resolved] at hr hr' hsame hrun
    simp only [dispatch, Settings.debug_withDebug, Settings.changedOnly_withDebug,
      Settings.changedRef_withDebug, hr, hr', hsame.disk]
    refine Ended.Same.after ?_ hsame.transcript
    rw [hrun.failure]
    split
    · refine Ended.Same.after ?_ hrun.transcript
      exact ⟨hrun.disk, rfl, rfl⟩
    · exact ⟨hrun.disk, rfl, hrun.transcript⟩

/-- What two sessions have in common where only one of them is debugged: how they end, what they
execute and ask for, and, if they succeed, all that is said outside debugging. -/
structure Ended.Observes (loud quiet : Ended) : Prop where
  status : loud.status = quiet.status
  disk : loud.disk = quiet.disk
  commands : Transcript.commands loud.transcript = Transcript.commands quiet.transcript
  queries : Transcript.queries loud.transcript = Transcript.queries quiet.transcript
  undebugged : quiet.status = 0 → loud.transcript.undebugged = quiet.transcript.undebugged

theorem Ended.Same.observes {e e' : Ended} (h : e.Same e') : e.Observes e' where
  status := h.status
  disk := h.disk
  commands := by
    rw [← Transcript.commands_undebugged, h.transcript, Transcript.commands_undebugged]
  queries := by
    rw [← Transcript.queries_undebugged, h.transcript, Transcript.queries_undebugged]
  undebugged _ := h.transcript

theorem Ended.Observes.of_idle {e e' : Ended} {disk : Disk} (he : e.status = 1 ∧ e.Idle disk)
    (he' : e'.status = 1 ∧ e'.Idle disk) : e.Observes e' where
  status := he.1.trans he'.1.symm
  disk := he.2.disk.trans he'.2.disk.symm
  commands := he.2.commands.trans he'.2.commands.symm
  queries := he.2.queries.trans he'.2.queries.symm
  undebugged hdone := absurd (he'.1.symm.trans hdone) (by decide)

/-- Whatever the project, the arguments, the source and the runner are: a session with `-d` in front
of its arguments ends as it does without, and executes and asks for the same; and if it succeeds,
all that it says besides is debugging. -/
theorem run_debug_observes (hclock : host.clock.Steady) (root : Option String)
    (arguments : List String) (disk : Disk) :
    (run host root ("-d" :: arguments) disk).Observes (run host root arguments disk) := by
  cases hp : prepare (ε := ε) host.here root disk with
  | error e =>
    exact .of_idle (run_unprepared hp) (run_unprepared hp)
  | ok p =>
    obtain ⟨-, hbuild, hoptions⟩ := prepare_eq_ok hp
    have hparse := CommandLine.parse_debug hbuild hoptions arguments
    cases hloud : CommandLine.parse p.command p.options ("-d" :: arguments) with
    | error e =>
      cases hquiet : CommandLine.parse p.command p.options arguments with
      | error e' => exact .of_idle (run_usageError hp hloud) (run_usageError hp hquiet)
      | ok parsed =>
        rw [hloud, hquiet] at hparse
        exact hparse.elim
    | ok parsed =>
      cases hquiet : CommandLine.parse p.command p.options arguments with
      | error e' =>
        rw [hloud, hquiet] at hparse
        exact hparse.elim
      | ok parsed' =>
        rw [hloud, hquiet] at hparse
        cases hparse with
        | request request =>
          have heq : run host root ("-d" :: arguments) disk = run host root arguments disk := by
            simp only [run, hp, hloud, hquiet]
          exact heq ▸ Ended.Same.observes ⟨rfl, rfl, rfl⟩
        | @run values values' paths hsettings htoggled =>
          have hlinters : toggledAt values = toggledAt values' := by
            funext i l
            rw [toggledAt, htoggled, toggledAt]
          rw [run_eq_dispatch hp hloud, run_eq_dispatch hp hquiet, hsettings, hlinters]
          exact (dispatch_same hclock _ _ (settingsOf values') _ (flag values' .debug) _ _ _).observes

/-- A session that has more to say when it is debugged. -/
theorem run_debug_observes_small : quietHost.clock.Steady ∧
    (run quietHost none ["-d", "lib"] smallProject).Observes
      (run quietHost none ["lib"] smallProject) ∧
    (run quietHost none ["lib"] smallProject).status = 0 ∧
    Transcript.commands (run quietHost none ["lib"] smallProject).transcript =
      ["rubocop lib/a.rb"] ∧
    (run quietHost none ["-d", "lib"] smallProject).transcript ≠
      (run quietHost none ["lib"] smallProject).transcript :=
  ⟨quietHost_sound.clock, run_debug_observes quietHost_sound.clock none ["lib"] smallProject,
    by decide +kernel, by decide +kernel, by decide +kernel⟩

end Session

end LintDispatch
