import LintDispatch.Proofs.Dispatch.Previewing
import LintDispatch.Proofs.Session.Dispatching

/-! How a session ends. What goes wrong goes wrong before the first command, whatever stage it is at;
requests and usage errors are dealt with before anyone is asked for changes. -/

namespace LintDispatch.Session

open CommandLine (flag settingsOf)

variable {ε : Type} {host : Host ε}

/-- Nothing was executed, no one was asked for changes, and the disk is as it was. -/
structure Ended.Idle (ended : Ended) (disk : Disk) : Prop where
  disk : ended.disk = disk
  commands : Transcript.commands ended.transcript = []
  queries : Transcript.queries ended.transcript = []

/-- The session succeeded, or it failed with no command executed. -/
def Ended.Orderly (ended : Ended) : Prop :=
  ended.status = 0 ∨ ended.status = 1 ∧ Transcript.commands ended.transcript = []

theorem failed_idle (disk : Disk) (r : Report) : (failed disk r).Idle disk :=
  ⟨rfl, rfl, rfl⟩

theorem explain_idle (disk : Disk) (command : CommandLine.Command) (arguments : List String)
    (e : CommandLine.UsageError) : (explain disk command arguments e).Idle disk := by
  refine ⟨rfl, ?_, ?_⟩
  · simp only [explain, Transcript.commands_append, Console.commands_echo]
    split <;> rfl
  · simp only [explain, Transcript.queries_append, Console.queries_echo]
    split <;> rfl

theorem answer_idle (disk : Disk) (command : CommandLine.Command) (request : CommandLine.Request) :
    (answer disk command request).Idle disk :=
  ⟨rfl, rfl, rfl⟩

section Dispatch

variable {root : Path} {config : Config} {settings : Settings} {paths : List String} {disk : Disk}
  (linters : List Linter)

theorem dispatch_of_error {r : Engine.Resolution ε} {e : Engine.Error ε}
    (hr : (Engine.ofSpecs root config.sourcePaths config.ignoredPaths).answer
      (callFor host settings paths disk) = r) (he : r.result = .error e) :
    dispatch host root config settings linters paths disk =
      (failed r.disk ((Failure.selection e).report host.report)).after r.transcript := by
  have hresolve : (Engine.fresh (.fresh root config.sourcePaths config.ignoredPaths)).resolve
      host.source settings.debug disk host.clock
      ⟨paths, settings.changedOnly, settings.changedRef⟩ = r := hr
  simp only [dispatch, hresolve, he]

/-- A dispatch fails only where no scope could be selected, and then no linter has been started. -/
theorem dispatch_orderly (hr : host.runner.Reliable) (root : Path) (config : Config)
    (settings : Settings) (paths : List String) (disk : Disk) :
    let ended := dispatch host root config settings linters paths disk
    ended.Orderly ∧ (settings.mode ≠ .normal → Transcript.commands ended.transcript = []) := by
  let r := (Engine.ofSpecs root config.sourcePaths config.ignoredPaths).answer
    (callFor host settings paths disk)
  have hquiet : Transcript.commands r.transcript = [] := Engine.commands_answer _ _
  cases hresult : r.result with
  | error e =>
    have hnone : Transcript.commands ((failed r.disk ((Failure.selection e).report
        host.report)).after r.transcript).transcript = [] := by
      rw [Ended.after, Transcript.commands_append, hquiet]
      rfl
    rw [dispatch_of_error linters rfl hresult]
    exact ⟨.inr ⟨rfl, hnone⟩, fun _ => hnone⟩
  | ok scope =>
    rw [dispatch_of_ok linters rfl hresult hr]
    refine ⟨.inl rfl, fun hm => ?_⟩
    rw [Transcript.commands_append, hquiet, Dispatch.commands_run hm, List.nil_append]

end Dispatch

section Run

variable {root : Option String} {arguments : List String} {disk : Disk} {p : Prepared}
  {values : Bindings Value} {paths : List String}

theorem run_unprepared {e : Failure ε} (h : prepare host.here root disk = .error e) :
    (run host root arguments disk).status = 1 ∧ (run host root arguments disk).Idle disk := by
  have heq : run host root arguments disk = failed disk (e.report host.report) := by
    simp only [run, h]
  rw [heq]
  exact ⟨rfl, failed_idle disk _⟩

theorem run_request {request : CommandLine.Request}
    (hp : prepare (ε := ε) host.here root disk = .ok p)
    (h : CommandLine.parse p.command p.options arguments = .ok (.request request)) :
    (run host root arguments disk).status = 0 ∧ (run host root arguments disk).Idle disk := by
  have heq : run host root arguments disk = answer disk p.command request := by
    simp only [run, hp, h]
  rw [heq]
  exact ⟨rfl, answer_idle disk p.command request⟩

theorem run_eq_explain {e : CommandLine.UsageError}
    (hp : prepare (ε := ε) host.here root disk = .ok p)
    (h : CommandLine.parse p.command p.options arguments = .error e) :
    run host root arguments disk = explain disk p.command arguments e := by
  simp only [run, hp, h]

theorem run_usageError {e : CommandLine.UsageError}
    (hp : prepare (ε := ε) host.here root disk = .ok p)
    (h : CommandLine.parse p.command p.options arguments = .error e) :
    (run host root arguments disk).status = 1 ∧ (run host root arguments disk).Idle disk := by
  rw [run_eq_explain hp h]
  exact ⟨rfl, explain_idle disk p.command arguments e⟩

theorem run_dispatched (hr : host.runner.Reliable)
    (hp : prepare (ε := ε) host.here root disk = .ok p)
    (h : CommandLine.parse p.command p.options arguments = .ok (.run values paths)) :
    (run host root arguments disk).Orderly ∧ ((settingsOf values).mode ≠ .normal →
      Transcript.commands (run host root arguments disk).transcript = []) := by
  rw [run_eq_dispatch hp h]
  exact dispatch_orderly _ hr _ _ _ _ _

theorem run_orderly (hr : host.runner.Reliable) (root : Option String) (arguments : List String)
    (disk : Disk) : (run host root arguments disk).Orderly := by
  cases hp : prepare (ε := ε) host.here root disk with
  | error e => exact .inr ((run_unprepared hp).imp_right Ended.Idle.commands)
  | ok p =>
    cases h : CommandLine.parse p.command p.options arguments with
    | error e => exact .inr ((run_usageError hp h).imp_right Ended.Idle.commands)
    | ok parsed =>
      cases parsed with
      | request request => exact .inl (run_request hp h).1
      | run values paths => exact (run_dispatched hr hp h).1

theorem mode_settingsOf_ne_normal (h : flag values .list = true ∨ flag values .dryRun = true) :
    (settingsOf values).mode ≠ .normal := by
  rcases h with h | h
  · simp [Settings.mode, settingsOf, h]
  · cases hl : flag values .list <;> simp [Settings.mode, settingsOf, hl, h]

end Run

/-- Whatever the project, the arguments, the source and the clock are: a session ends with status
zero or one, and with status one it has executed nothing. A configuration that cannot be used, a
request and a usage error leave everything as it was, without a query for changes, and nothing is
executed where the files are to be listed or the commands only shown. -/
theorem run_fails_before_commands (hr : host.runner.Reliable) (root : Option String)
    (arguments : List String) (disk : Disk) :
    let ended := run host root arguments disk
    (ended.status = 0 ∨ ended.status = 1) ∧
    (ended.status = 1 → Transcript.commands ended.transcript = []) ∧
    (∀ e : Failure ε, prepare host.here root disk = .error e →
      ended.status = 1 ∧ ended.Idle disk) ∧
    ∀ p, prepare (ε := ε) host.here root disk = .ok p →
      (∀ request, CommandLine.parse p.command p.options arguments = .ok (.request request) →
        ended.status = 0 ∧ ended.Idle disk) ∧
      (∀ e, CommandLine.parse p.command p.options arguments = .error e →
        ended.status = 1 ∧ ended.Idle disk) ∧
      (∀ values paths, CommandLine.parse p.command p.options arguments = .ok (.run values paths) →
        flag values .list = true ∨ flag values .dryRun = true →
        Transcript.commands ended.transcript = []) := by
  intro ended
  have horderly : ended.Orderly := run_orderly hr root arguments disk
  refine ⟨horderly.imp_right And.left, fun hfailed => ?_, fun e hp => run_unprepared hp,
    fun p hp => ⟨fun request h => run_request hp h, fun e h => run_usageError hp h,
      fun values paths h hflags => ?_⟩⟩
  · rcases horderly with hdone | ⟨-, hnone⟩
    · exact absurd (hdone.symm.trans hfailed) (by decide)
    · exact hnone
  · exact (run_dispatched hr hp h).2 (mode_settingsOf_ne_normal hflags)

def lostHost : Host Unit :=
  { quietHost with source := ⟨fun disk _ _ => (disk, .error ())⟩ }

/-- The query for changes fails in one session, and in another the files are only listed. -/
theorem run_fails_before_commands_lost : ∃ p values paths,
    lostHost.runner.Reliable ∧
    (run lostHost none ["-c"] smallProject).status = 1 ∧
    prepare (ε := Unit) lostHost.here none smallProject = .ok p ∧
    CommandLine.parse p.command p.options ["lib", "--list"] = .ok (.run values paths) ∧
    flag values .list = true ∧
    Transcript.commands (run lostHost none ["-c"] smallProject).transcript = [] ∧
    Transcript.commands (run lostHost none ["lib", "--list"] smallProject).transcript = [] ∧
    Transcript.queries (run lostHost none ["-c"] smallProject).transcript =
      [("", ["."])] := by
  have hr : lostHost.runner.Reliable := fun _ _ => rfl
  have hstatus : (run lostHost none ["-c"] smallProject).status = 1 := by decide +kernel
  have hready : (asked? lostHost.here none ["lib", "--list"] smallProject).any (fun x =>
      flag x.2.1 .list) = true := by
    decide +kernel
  obtain ⟨⟨p, values, paths⟩, hasked, hlist⟩ := (Option.any_eq_true _ _).mp hready
  obtain ⟨hp, hparse⟩ := asked?_eq_some hasked
  obtain ⟨-, -, -, hdone⟩ := run_fails_before_commands hr none ["lib", "--list"] smallProject
  exact ⟨p, values, paths, hr, hstatus, hp, hparse, hlist,
    (run_fails_before_commands hr none ["-c"] smallProject).2.1 hstatus,
    (hdone p hp).2.2 values paths hparse (.inl hlist), by decide +kernel⟩

end LintDispatch.Session
