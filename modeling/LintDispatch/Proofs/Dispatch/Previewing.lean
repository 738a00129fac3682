import Mathlib.Data.List.Basic
import LintDispatch.Proofs.Dispatch.Running

/-! One plan behind every mode. What a dry run shows is what a run executes, command by command and at
the same places, and a run that fails has executed the plan up to the command that failed. -/

namespace LintDispatch

def Transcript.undebugged (t : Transcript) : Transcript :=
  t.filter fun
    | .said .debug _ => false
    | .said .timing _ => false
    | _ => true

namespace Transcript

theorem undebugged_append (t u : Transcript) :
    undebugged (t ++ u) = undebugged t ++ undebugged u :=
  List.filter_append t u

theorem undebugged_ran (command output : String) (t : Transcript) :
    undebugged (.ran command output :: t) = .ran command output :: undebugged t := rfl

theorem undebugged_debug (debugging : Bool) (message : String) :
    undebugged (Console.debug debugging message) = [] := by
  cases debugging <;> rfl

theorem commands_undebugged (t : Transcript) :
    Transcript.commands t.undebugged = Transcript.commands t := by
  rw [commands, commands, undebugged, List.filterMap_filter]
  refine List.filterMap_congr fun e _ => ?_
  cases e with
  | said channel text => cases channel <;> rfl
  | _ => rfl

theorem queries_undebugged (t : Transcript) :
    Transcript.queries t.undebugged = Transcript.queries t := by
  rw [queries, queries, undebugged, List.filterMap_filter]
  refine List.filterMap_congr fun e _ => ?_
  cases e with
  | said channel text => cases channel <;> rfl
  | _ => rfl

end Transcript

open Transcript (undebugged_append undebugged_ran undebugged_debug)

namespace Runner

variable {ε : Type}

def Silent (runner : Runner ε) : Prop :=
  ∀ disk command, (runner.execute disk command).failure = none ∧
    (runner.execute disk command).output = ""

/-- The disk behind commands that are executed one after the other, if none of them fails. -/
def through (runner : Runner ε) : Disk → List String → Option Disk
  | disk, [] => some disk
  | disk, command :: rest =>
    match (runner.execute disk command).failure with
    | some _ => none
    | none => through runner (runner.execute disk command).disk rest

/-- Of the plan the commands `ran` were executed from `disk` on, and `left` and `failure` are what is
left: either none failed, or the last of them did and the rest was not begun. -/
def Carries (runner : Runner ε) (disk : Disk) (plan ran : List String) (left : Disk)
    (failure : Option ε) : Prop :=
  (failure = none ∧ ran = plan ∧ runner.through disk plan = some left) ∨
  ∃ before command rest there, plan = before ++ command :: rest ∧ ran = before ++ [command] ∧
    runner.through disk before = some there ∧ (runner.execute there command).disk = left ∧
    failure.isSome ∧ (runner.execute there command).failure = failure

theorem Carries.cons {runner : Runner ε} {disk left : Disk} {command : String}
    {plan ran : List String} {failure : Option ε}
    (hc : (runner.execute disk command).failure = none)
    (h : runner.Carries (runner.execute disk command).disk plan ran left failure) :
    runner.Carries disk (command :: plan) (command :: ran) left failure := by
  have hthrough : ∀ commands, runner.through disk (command :: commands) =
      runner.through (runner.execute disk command).disk commands := by
    intro commands
    simp [through, hc]
  rcases h with ⟨hf, rfl, ht⟩ | ⟨before, failed, rest, there, rfl, rfl, ht, hl, hs, hf⟩
  · exact .inl ⟨hf, rfl, (hthrough _).trans ht⟩
  · exact .inr ⟨command :: before, failed, rest, there, rfl, rfl, (hthrough _).trans ht, hl, hs, hf⟩

end Runner

namespace Dispatch

variable {ε : Type} {runner : Runner ε} {settings : Settings}

/-- The headers of the linters in turn, each with the command that belongs behind it. -/
def agenda (command : Linter → Option String) : Bool → List Linter →
    List (Transcript × Option String)
  | _, [] => []
  | first, l :: rest => (header first l, command l) :: agenda command false rest

theorem filterMap_agenda (command : Linter → Option String) (first : Bool) (linters : List Linter) :
    (agenda command first linters).filterMap Prod.snd = linters.filterMap command := by
  induction linters generalizing first with
  | nil => rfl
  | cons l rest ih => simp [agenda, List.filterMap_cons, ih]

theorem undebugged_header (first : Bool) (l : Linter) :
    (header first l).undebugged = header first l := by
  cases first <;> rfl

theorem undebugged_announce (debugging : Bool) (command : String) :
    (announce settings debugging command).undebugged =
      if settings.mode = .dryRun then Console.echo command else [] := by
  rw [announce, undebugged_append, undebugged_debug, List.nil_append]
  split <;> rfl

theorem undebugged_describeScope (debugging : Bool) (scope : Scope) :
    (describeScope debugging scope).undebugged = [] := by
  have hall : ∀ paths : List String, Transcript.undebugged
      (paths.flatMap fun path => Console.debug debugging ("  " ++ path)) = [] := by
    intro paths
    induction paths with
    | nil => rfl
    | cons path paths ih =>
      rw [List.flatMap_cons, undebugged_append, undebugged_debug, ih, List.nil_append]
  rw [describeScope, undebugged_append, undebugged_debug, hall, List.nil_append]

section Steps

variable {scope : Scope} {l : Linter} {command : String} (debugging first : Bool)
  (rest : List Linter) (disk : Disk)

theorem runEach_cons_skipped (hc : commandFor settings scope l = none) :
    runEach runner settings debugging scope first (l :: rest) disk =
      (runEach runner settings debugging scope false rest disk).after (header first l) := by
  simp only [runEach, hc]

theorem runEach_cons_shown (hm : settings.mode ≠ .normal)
    (hc : commandFor settings scope l = some command) :
    runEach runner settings debugging scope first (l :: rest) disk =
      (runEach runner settings debugging scope false rest disk).after
        (header first l ++ announce settings debugging command) := by
  simp only [runEach, hc, hm, if_false]

theorem runEach_cons_failed (hm : settings.mode = .normal)
    (hc : commandFor settings scope l = some command) {failure : ε}
    (hf : (runner.execute disk command).failure = some failure) :
    runEach runner settings debugging scope first (l :: rest) disk =
      ⟨(runner.execute disk command).disk, header first l ++ announce settings debugging command ++
        [.ran command (runner.execute disk command).output], some failure⟩ := by
  simp only [runEach, hc, hm, if_true, hf]

theorem runEach_cons_executed (hm : settings.mode = .normal)
    (hc : commandFor settings scope l = some command)
    (hf : (runner.execute disk command).failure = none) :
    runEach runner settings debugging scope first (l :: rest) disk =
      (runEach runner settings debugging scope false rest (runner.execute disk command).disk).after
        (header first l ++ announce settings debugging command ++
          [.ran command (runner.execute disk command).output]) := by
  simp only [runEach, hc, hm, if_true, hf]

end Steps

theorem commands_said (debugging first : Bool) (l : Linter) (command output : String) :
    Transcript.commands (header first l ++ announce settings debugging command ++
      [.ran command output]) = [command] := by
  rw [Transcript.commands_append, Transcript.commands_append, commands_header, commands_announce]
  rfl

/-- Executing stops behind the first command that fails. -/
theorem runEach_carries (hm : settings.mode = .normal) (debugging : Bool) (scope : Scope)
    (first : Bool) (linters : List Linter) (disk : Disk) :
    let o := runEach runner settings debugging scope first linters disk
    runner.Carries disk (linters.filterMap (commandFor settings scope))
      (Transcript.commands o.transcript) o.disk o.failure := by
  induction linters generalizing first disk with
  | nil => exact .inl ⟨rfl, rfl, rfl⟩
  | cons l rest ih =>
    cases hc : commandFor settings scope l with
    | none =>
      rw [runEach_cons_skipped _ _ _ _ hc, List.filterMap_cons_none hc]
      simpa [Outcome.after, commands_header] using ih false disk
    | some command =>
      rw [List.filterMap_cons_some hc]
      cases hf : (runner.execute disk command).failure with
      | some failure =>
        rw [runEach_cons_failed _ _ _ _ hm hc hf]
        simp only [commands_said]
        exact .inr ⟨[], command, _, disk, rfl, rfl, rfl, rfl, rfl, hf⟩
      | none =>
        rw [runEach_cons_executed _ _ _ _ hm hc hf]
        simp only [Outcome.after, Transcript.commands_append _ (runEach _ _ _ _ _ _ _).transcript,
          commands_said, List.singleton_append]
        exact (ih false _).cons hf

/-- What a run without words of its own executes stands behind the headers. -/
theorem undebugged_runEach_silent (hs : runner.Silent) (hm : settings.mode = .normal)
    (debugging : Bool) (scope : Scope) (first : Bool) (linters : List Linter) (disk : Disk) :
    (runEach runner settings debugging scope first linters disk).transcript.undebugged =
      (agenda (commandFor settings scope) first linters).flatMap fun x => x.1 ++ x.2.toList.map (.ran · "") := by
  induction linters generalizing first disk with
  | nil => rfl
  | cons l rest ih =>
    cases hc : commandFor settings scope l with
    | none =>
      rw [runEach_cons_skipped _ _ _ _ hc]
      simp [Outcome.after, agenda, hc, undebugged_append, undebugged_header, ih]
    | some command =>
      obtain ⟨hf, ho⟩ := hs disk command
      rw [runEach_cons_executed _ _ _ _ hm hc hf]
      simp [Outcome.after, agenda, hc, ho, undebugged_append, undebugged_header,
        undebugged_announce, undebugged_ran, hm, ih]

/-- A dry run shows behind the headers what it does not execute. -/
theorem runEach_dryRun (hm : settings.mode = .dryRun) (runner : Runner ε) (debugging : Bool)
    (scope : Scope) (first : Bool) (linters : List Linter) (disk : Disk) :
    let o := runEach runner settings debugging scope first linters disk
    o.disk = disk ∧ o.failure = none ∧ Transcript.commands o.transcript = [] ∧
      o.transcript.undebugged =
        (agenda (commandFor settings scope) first linters).flatMap fun x =>
          x.1 ++ x.2.toList.flatMap Console.echo := by
  induction linters generalizing first disk with
  | nil => exact ⟨rfl, rfl, rfl, rfl⟩
  | cons l rest ih =>
    obtain ⟨hd, hf, hc, hu⟩ := ih false disk
    cases hcommand : commandFor settings scope l with
    | none =>
      rw [runEach_cons_skipped _ _ _ _ hcommand]
      simp only [Outcome.after, agenda, hcommand, Transcript.commands_append, commands_header,
        undebugged_append, undebugged_header, hc, hu]
      exact ⟨hd, hf, rfl, by simp⟩
    | some command =>
      rw [runEach_cons_shown _ _ _ _ (by simp [hm]) hcommand]
      simp only [Outcome.after, agenda, hcommand, Transcript.commands_append, commands_header,
        commands_announce, undebugged_append, undebugged_header, undebugged_announce, hm, hc, hu]
      exact ⟨hd, hf, rfl, by simp⟩

theorem run_of_list (hm : settings.mode = .list) (runner : Runner ε) (debugging : Bool)
    (linters : List Linter) (scope : Scope) (disk : Disk) :
    run runner settings debugging linters scope disk =
      Outcome.after ⟨disk, Console.echo ("\n".intercalate scope.paths), none⟩
        (describeScope debugging scope) := by
  simp [run, hm]

theorem run_of_ne_list (hm : settings.mode ≠ .list) (runner : Runner ε) (debugging : Bool)
    (linters : List Linter) (scope : Scope) (disk : Disk) :
    run runner settings debugging linters scope disk =
      (runEach runner settings debugging scope true (participants linters) disk).after
        (describeScope debugging scope) := by
  simp [run, hm]

theorem commands_after_describeScope (o : Outcome ε) (debugging : Bool) (scope : Scope) :
    Transcript.commands (o.after (describeScope debugging scope)).transcript =
      Transcript.commands o.transcript := by
  rw [Outcome.after, Transcript.commands_append, commands_describeScope, List.nil_append]

theorem undebugged_after_describeScope (o : Outcome ε) (debugging : Bool) (scope : Scope) :
    (o.after (describeScope debugging scope)).transcript.undebugged = o.transcript.undebugged := by
  rw [Outcome.after, undebugged_append, undebugged_describeScope, List.nil_append]

/-- As long as no command fails, no run does. -/
theorem failure_run (hr : runner.Reliable) (settings : Settings) (debugging : Bool)
    (linters : List Linter) (scope : Scope) (disk : Disk) :
    (run runner settings debugging linters scope disk).failure = none := by
  cases hm : settings.mode with
  | normal => exact (run_normal hr hm debugging linters scope disk).1
  | dryRun =>
    rw [run_of_ne_list (by simp [hm])]
    exact (runEach_dryRun hm runner debugging scope true (participants linters) disk).2.1
  | list =>
    rw [run_of_list hm]
    rfl

theorem commands_run (hm : settings.mode ≠ .normal) (runner : Runner ε) (debugging : Bool)
    (linters : List Linter) (scope : Scope) (disk : Disk) :
    Transcript.commands (run runner settings debugging linters scope disk).transcript = [] := by
  cases h : settings.mode with
  | normal => exact absurd h hm
  | dryRun =>
    rw [run_of_ne_list (by simp [h]), commands_after_describeScope]
    exact (runEach_dryRun h runner debugging scope true (participants linters) disk).2.2.1
  | list =>
    rw [run_of_list h, commands_after_describeScope]
    rfl

theorem mem_of_mem_participants {linters : List Linter} {l : Linter} (h : l ∈ participants linters) :
    l ∈ linters := by
  rw [participants] at h
  split at h
  · exact (List.mem_filter.mp h).1
  · exact (List.mem_filter.mp h).1

def commandTable (settings : Settings) (linters : List Linter) (scope : Scope) :
    Bindings (Option String) :=
  if settings.autocorrect then autocorrectCommands linters scope else commands linters scope

theorem find?_commandTable {linters : List Linter} (hn : (linters.map Linter.optionName).Nodup)
    (settings : Settings) (scope : Scope) {l : Linter} (hl : l ∈ linters) :
    (commandTable settings linters scope).find? l.optionName = some (commandFor settings scope l) := by
  have hfind : ∀ f : Linter → Option String,
      Bindings.find? l.optionName (.ofList (linters.map fun l => (l.optionName, f l))) =
        some (f l) := by
    intro f
    have hnames : Bindings.names (linters.map fun l => (l.optionName, f l)) =
        linters.map Linter.optionName := by
      simp [Bindings.names]
    rw [Bindings.ofList_eq_self (hnames ▸ hn), Bindings.find?_eq_some_iff (hnames ▸ hn)]
    exact List.mem_map_of_mem hl
  rw [commandTable, commandFor]
  split
  · exact hfind _
  · exact hfind _

/-- Every mode follows the plan. A normal run executes it, up to the first command that fails if one
does. A dry run executes nothing, and shows each command just where a run that succeeds, and prints
nothing else, executes it: behind the header of its linter. In list mode only the files of the scope
are shown. Where option names are distinct, the plan can be looked up under those of the
participants. -/
theorem run_follows_plan (runner : Runner ε) (settings : Settings) (debugging : Bool)
    (linters : List Linter) (scope : Scope) (disk : Disk) :
    let o := run runner settings debugging linters scope disk
    let ran := Transcript.commands o.transcript
    let steps := agenda (commandFor settings scope) true (participants linters)
    steps.filterMap Prod.snd = plan settings linters scope ∧
    (settings.mode = .normal →
      runner.Carries disk (plan settings linters scope) ran o.disk o.failure) ∧
    (settings.mode = .dryRun → ran = [] ∧ o.disk = disk ∧ o.failure = none ∧
      o.transcript.undebugged = (steps.flatMap fun x => x.1 ++ x.2.toList.flatMap Console.echo) ∧
      ∀ (silent : Runner ε) (debugging : Bool) (disk : Disk), silent.Silent →
        (run silent { settings with dryRun := false } debugging linters scope
          disk).transcript.undebugged = steps.flatMap fun x => x.1 ++ x.2.toList.map (.ran · "")) ∧
    (settings.mode = .list → ran = [] ∧ o.disk = disk ∧ o.failure = none ∧
      o.transcript.undebugged = Console.echo ("\n".intercalate scope.paths)) ∧
    ((linters.map Linter.optionName).Nodup → plan settings linters scope =
      (participants linters).filterMap fun l =>
        ((commandTable settings linters scope).find? l.optionName).join) := by
  intro o ran steps
  refine ⟨filterMap_agenda _ true _, fun hm => ?_, fun hm => ?_, fun hm => ?_, fun hn => ?_⟩
  · have ho : o = _ := run_of_ne_list (by simp [hm]) runner debugging linters scope disk
    simp only [ran, ho, commands_after_describeScope]
    exact runEach_carries hm debugging scope true (participants linters) disk
  · have ho : o = _ := run_of_ne_list (by simp [hm]) runner debugging linters scope disk
    obtain ⟨hd, hf, hc, hu⟩ := runEach_dryRun hm runner debugging scope true
      (participants linters) disk
    have hnormal : ({ settings with dryRun := false } : Settings).mode = .normal := by
      cases hl : settings.list <;> simp [Settings.mode, hl] at hm ⊢
    simp only [ran, ho, commands_after_describeScope, undebugged_after_describeScope]
    refine ⟨hc, hd, hf, hu, fun silent debugging disk hs => ?_⟩
    rw [run_of_ne_list (by simp [hnormal]), undebugged_after_describeScope]
    exact undebugged_runEach_silent hs hnormal debugging scope true (participants linters) disk
  · have ho : o = _ := run_of_list hm runner debugging linters scope disk
    simp only [ran, ho, commands_after_describeScope, undebugged_after_describeScope]
    exact ⟨rfl, rfl, rfl, rfl⟩
  · refine List.filterMap_congr fun l hl => ?_
    rw [find?_commandTable hn settings scope (mem_of_mem_participants hl), Option.join_some]

def tool (name extension : String) : Linter :=
  .configured name name [extension] none none none

def failsOn (failing : List String) : Runner Unit :=
  ⟨fun disk command => ⟨disk, "", if command ∈ failing then some () else none⟩⟩

theorem failsOn_nil_silent : (failsOn []).Silent :=
  fun _ _ => ⟨rfl, rfl⟩

/-- One linter has no command, and of the three others the second one fails. -/
theorem run_follows_plan_failing :
    let linters := [tool "rubocop" ".rb", tool "ruff" ".py", tool "eslint" ".js", tool "mdl" ".md"]
    let scope := Scope.files ["a.rb", "b.js", "c.md"]
    let dry : Settings := { Settings.default with dryRun := true }
    let list : Settings := { Settings.default with list := true }
    let dispatch (runner : Runner Unit) (settings : Settings) : Outcome Unit :=
      run runner settings false linters scope .empty
    let broken := failsOn ["eslint b.js"]
    let steps := agenda (commandFor dry scope) true (participants linters)
    Settings.default.mode = .normal ∧ dry.mode = .dryRun ∧ list.mode = .list ∧
      (failsOn []).Silent ∧ (linters.map Linter.optionName).Nodup ∧
      broken.Carries .empty ["rubocop a.rb", "eslint b.js", "mdl c.md"]
        ["rubocop a.rb", "eslint b.js"] (dispatch broken .default).disk (some ()) ∧
      Transcript.commands (dispatch broken dry).transcript = [] ∧
      (dispatch broken dry).transcript.undebugged =
        (steps.flatMap fun x => x.1 ++ x.2.toList.flatMap Console.echo) ∧
      (dispatch (failsOn []) .default).transcript.undebugged =
        (steps.flatMap fun x => x.1 ++ x.2.toList.map (.ran · "")) ∧
      Transcript.commands (dispatch broken list).transcript = [] ∧
      (dispatch broken list).transcript.undebugged = Console.echo "a.rb\nb.js\nc.md" ∧
      ["rubocop a.rb", "eslint b.js", "mdl c.md"] = (participants linters).filterMap fun l =>
        ((commandTable .default linters scope).find? l.optionName).join := by
  intro linters scope dry list dispatch broken steps
  have hn : (linters.map Linter.optionName).Nodup := by decide
  have hplan : plan .default linters scope = ["rubocop a.rb", "eslint b.js", "mdl c.md"] := by decide
  have hran : Transcript.commands (dispatch broken .default).transcript =
      ["rubocop a.rb", "eslint b.js"] := by decide
  obtain ⟨-, hcarries, -, -, hlookup⟩ :=
    run_follows_plan broken .default false linters scope .empty
  obtain ⟨-, -, hdry, -⟩ := run_follows_plan broken dry false linters scope .empty
  obtain ⟨-, -, -, hlist, -⟩ := run_follows_plan broken list false linters scope .empty
  have hbroken := hcarries rfl
  rw [hplan] at hbroken hlookup
  obtain ⟨hnone, -, -, hshown, hsilent⟩ := hdry rfl
  obtain ⟨hlistNone, -, -, hfiles⟩ := hlist rfl
  exact ⟨rfl, rfl, rfl, failsOn_nil_silent, hn, hran ▸ hbroken, hnone, hshown,
    hsilent _ false .empty failsOn_nil_silent, hlistNone, hfiles, hlookup hn⟩

end Dispatch

end LintDispatch
