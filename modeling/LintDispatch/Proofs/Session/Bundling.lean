import Mathlib.Data.List.DropRight
import LintDispatch.Proofs.CommandLine.Clustering
import LintDispatch.Proofs.Session.Ending

/-! Bundled flags in a session. A session ends as it does with the flags one by one, and does the
same. It also says the same, but for one thing: whether a usage error is traced is decided on the
arguments as they are written, where a `-d` inside a bundle is not seen. -/

namespace LintDispatch

/-- The help text begins with the word usage. -/
theorem CommandLine.Help.head?_text (c : Command) : ∃ s, (text c).toList = 'U' :: s := by
  rw [text, String.toList_ofList]
  generalize hbody : String.toList _ = body
  obtain ⟨s, hs⟩ : ∃ s, body = 'U' :: s := by
    rw [← hbody]
    exact ⟨_, by simp only [usage, String.toList_append]; rfl⟩
  have hprefix : body.rdropWhile (· = '\n') <+: body := List.rdropWhile_prefix _ _
  have hne : body.rdropWhile (· = '\n') ≠ [] := fun he => by
    have hall := List.rdropWhile_eq_nil_iff.mp he 'U' (by simp [hs])
    simp at hall
  rw [hs, List.prefix_cons_iff] at hprefix
  rcases hprefix with he | ⟨t, ht, -⟩
  · exact absurd (hs ▸ he) hne
  · exact ⟨t, by rw [hs]; exact ht⟩

namespace Session

open CommandLine (OneLetter bundle short)

variable {ε : Type} {host : Host ε} {before after : List String} {cs : List Char}

/-- The flag for debugging is in the bundle with others, and nowhere else among the arguments. -/
def HidesDebug (before : List String) (cs : List Char) (after : List String) : Prop :=
  'd' ∈ cs ∧ cs ≠ ['d'] ∧ ∀ argument ∈ before ++ after, argument ∉ debugArguments

/-- What is said about a usage error depends on the arguments only in whether they ask for a trace.
-/
theorem output_explain_eq_iff (disk : Disk) (command : CommandLine.Command)
    (arguments arguments' : List String) (e : CommandLine.UsageError) :
    (explain disk command arguments e).transcript.output =
        (explain disk command arguments' e).transcript.output ↔
      arguments.any debugArguments.contains = arguments'.any debugArguments.contains := by
  obtain ⟨s, hs⟩ := CommandLine.Help.head?_text command
  have hhelp : (Console.verbatim (CommandLine.Help.text command)).toList.head? = some 'U' :=
    Console.head?_verbatim hs (by decide) (by decide) (by decide)
  have hdiff : Transcript.output (Console.echo (CommandLine.Help.text command)) ≠
      Transcript.output [.traced usageKind] := by
    intro he
    have hhead := congrArg (fun text : String => text.toList.head?) he
    simp [Transcript.output, Console.echo, Event.text, hhelp, traceMark] at hhead
  simp only [explain, Transcript.output_append, String.append_right_inj]
  cases arguments.any debugArguments.contains <;>
    cases arguments'.any debugArguments.contains <;> simp [hdiff, hdiff.symm]

theorem bundle_mem_debugArguments_iff (hdash : '-' ∉ cs) :
    bundle cs ∈ debugArguments ↔ cs = ['d'] := by
  have htext : ∀ argument, bundle cs = argument ↔ '-' :: cs = argument.toList := fun argument => by
    rw [bundle, ← String.toList_inj, String.toList_ofList]
  simp only [debugArguments, List.mem_cons, List.not_mem_nil, or_false, htext]
  constructor
  · rintro (he | he)
    · exact (List.cons.inj he).2
    · obtain rfl := (List.cons.inj he).2
      exact absurd List.mem_cons_self hdash
  · rintro rfl
    exact .inl rfl

theorem short_mem_debugArguments_iff {char : Char} : short char ∈ debugArguments ↔ char = 'd' := by
  simp only [debugArguments, List.mem_cons, List.not_mem_nil, or_false, short, ← String.toList_inj,
    String.toList_ofList]
  simp

/-- The two ways of writing flags differ for the trace exactly where the bundle hides it. -/
theorem traced_bundle_iff (hdash : '-' ∉ cs) :
    (before ++ bundle cs :: after).any debugArguments.contains =
        (before ++ cs.map short ++ after).any debugArguments.contains ↔
      ¬ HidesDebug before cs after := by
  let elsewhere : Prop := ∃ argument ∈ before ++ after, argument ∈ debugArguments
  have hbundle : (before ++ bundle cs :: after).any debugArguments.contains = true ↔
      cs = ['d'] ∨ elsewhere := by
    rw [← bundle_mem_debugArguments_iff hdash]
    simp only [elsewhere, List.any_eq_true, List.contains_iff_mem, List.mem_append, List.mem_cons]
    grind
  have hseparate : (before ++ cs.map short ++ after).any debugArguments.contains = true ↔
      'd' ∈ cs ∨ elsewhere := by
    have hmem : 'd' ∈ cs ↔ ∃ argument ∈ cs.map short, argument ∈ debugArguments := by
      simp [short_mem_debugArguments_iff]
    rw [hmem]
    simp only [elsewhere, List.any_eq_true, List.contains_iff_mem, List.mem_append]
    grind
  have hhides : HidesDebug before cs after ↔ 'd' ∈ cs ∧ cs ≠ ['d'] ∧ ¬ elsewhere := by
    simp only [HidesDebug, elsewhere, not_exists, not_and]
  have hsingle : cs = ['d'] → 'd' ∈ cs := fun he => by simp [he]
  rw [Bool.eq_iff_iff, hbundle, hseparate, hhides]
  constructor
  · rintro hboth ⟨hd, hmore, hnone⟩
    exact (hboth.mpr (.inl hd)).elim hmore hnone
  · intro hseen
    refine ⟨Or.imp_left hsingle, ?_⟩
    rintro (hd | hother)
    · by_contra hneither
      exact hseen ⟨hd, fun he => hneither (.inl he), fun hother => hneither (.inr hother)⟩
    · exact .inr hother

/-- Short flags without values, written in a bundle instead of one by one in the same place, change
neither how a session ends nor what it executes or asks for. They change its output exactly where
the arguments are refused and the bundle hides the only flag for debugging: then the trace of the
usage error becomes the help text. -/
theorem run_bundled {root : Option String} {disk : Disk} {p : Prepared}
    (hp : prepare (ε := ε) host.here root disk = .ok p)
    (hone : ∀ l ∈ p.config.buildLinters, OneLetter l) (hcs : cs ≠ [])
    (hall : ∀ char ∈ cs, p.command.Valueless char) (hbefore : p.options.AtOption before)
    (after : List String) :
    let bundled := run host root (before ++ bundle cs :: after) disk
    let separate := run host root (before ++ cs.map short ++ after) disk
    bundled.status = separate.status ∧ bundled.disk = separate.disk ∧
      Transcript.commands bundled.transcript = Transcript.commands separate.transcript ∧
      Transcript.queries bundled.transcript = Transcript.queries separate.transcript ∧
      (bundled.transcript.output = separate.transcript.output ↔
        ¬ ((∃ e, CommandLine.parse p.command p.options (before ++ bundle cs :: after) = .error e) ∧
          HidesDebug before cs after)) := by
  intro bundled separate
  obtain ⟨-, hbuild, hoptions⟩ := prepare_eq_ok hp
  have hparse := CommandLine.parse_bundle hone hbuild hoptions hall hcs hbefore after
  have hdash : '-' ∉ cs := fun hm => (hall '-' hm).dash rfl
  cases hbundled : CommandLine.parse p.command p.options (before ++ bundle cs :: after) with
  | ok parsed =>
    have hseparate := hparse.symm.trans hbundled
    have heq : bundled = separate := by
      simp only [bundled, separate, run, hp, hbundled, hseparate]
      cases parsed <;> rfl
    simp [heq]
  | error e =>
    have hseparate := hparse.symm.trans hbundled
    obtain ⟨hstatus, hidle⟩ := run_usageError hp hbundled
    obtain ⟨hstatus', hidle'⟩ := run_usageError hp hseparate
    refine ⟨hstatus.trans hstatus'.symm, hidle.disk.trans hidle'.disk.symm,
      hidle.commands.trans hidle'.commands.symm, hidle.queries.trans hidle'.queries.symm, ?_⟩
    simp only [bundled, separate]
    rw [run_eq_explain hp hbundled, run_eq_explain hp hseparate, output_explain_eq_iff,
      traced_bundle_iff hdash]
    simp

/-- The small project's flags can be written in a bundle. -/
theorem run_bundled_small : ∃ p, prepare (ε := Unit) quietHost.here none smallProject = .ok p ∧
    (∀ l ∈ p.config.buildLinters, OneLetter l) ∧ (∀ char ∈ ['a', 'c'], p.command.Valueless char) ∧
    p.options.AtOption [] ∧
    (run quietHost none ["-ac", "--bogus"] smallProject).status =
      (run quietHost none ["-a", "-c", "--bogus"] smallProject).status ∧
    (run quietHost none ["-ac", "--bogus"] smallProject).transcript.output =
      (run quietHost none ["-a", "-c", "--bogus"] smallProject).transcript.output := by
  have hready : (prepare (ε := Unit) quietHost.here none smallProject).toOption.any (fun p =>
      decide (∀ l ∈ p.config.buildLinters, OneLetter l) &&
        ['a', 'c'].all fun char => decide (p.command.Valueless char)) = true := by
    decide +kernel
  obtain ⟨p, hp, hfacts⟩ := Outcome.exists_of_any hready
  simp only [Bool.and_eq_true, decide_eq_true_eq, List.all_eq_true] at hfacts
  obtain ⟨hone, hall⟩ := hfacts
  have hbefore : p.options.AtOption [] := fun r hr => by
    cases hr
    rfl
  have hbundle : bundle ['a', 'c'] = "-ac" := by decide
  have hshort : ['a', 'c'].map short = ["-a", "-c"] := by decide
  have hboth := run_bundled hp hone (by decide) hall hbefore ["--bogus"]
  rw [hbundle, hshort] at hboth
  obtain ⟨hstatus, -, -, -, houtput⟩ := hboth
  exact ⟨p, hp, hone, hall, hbefore, hstatus, houtput.mpr fun h => absurd h.2.1 (by decide)⟩

/-- Bundled with another flag, the flag for debugging does not turn the help text into a trace. -/
theorem debug_hidden_in_bundle :
    ∃ p, prepare (ε := Unit) quietHost.here none smallProject = .ok p ∧
      (∀ l ∈ p.config.buildLinters, OneLetter l) ∧ (∀ char ∈ ['c', 'd'], p.command.Valueless char) ∧
      p.options.AtOption [] ∧
      (run quietHost none ["-cd", "--bogus"] smallProject).transcript.output ≠
        (run quietHost none ["-c", "-d", "--bogus"] smallProject).transcript.output := by
  have hready : (prepare (ε := Unit) quietHost.here none smallProject).toOption.any (fun p =>
      decide (∀ l ∈ p.config.buildLinters, OneLetter l) &&
        (['c', 'd'].all fun char => decide (p.command.Valueless char)) &&
        (CommandLine.parse p.command p.options ["-cd", "--bogus"]).toOption.isNone) = true := by
    decide +kernel
  obtain ⟨p, hp, hfacts⟩ := Outcome.exists_of_any hready
  simp only [Bool.and_eq_true, decide_eq_true_eq, List.all_eq_true] at hfacts
  obtain ⟨⟨hone, hall⟩, hrefused⟩ := hfacts
  have hbefore : p.options.AtOption [] := fun r hr => by
    cases hr
    rfl
  obtain ⟨-, hbuild, hoptions⟩ := prepare_eq_ok hp
  have hbundle : bundle ['c', 'd'] = "-cd" := by decide
  have hshort : ['c', 'd'].map short = ["-c", "-d"] := by decide
  have hparse := CommandLine.parse_bundle hone hbuild hoptions hall (by decide) hbefore ["--bogus"]
  rw [hbundle, hshort] at hparse
  cases hbundled : CommandLine.parse p.command p.options ["-cd", "--bogus"] with
  | ok parsed =>
    rw [hbundled] at hrefused
    cases hrefused
  | error e =>
    refine ⟨p, hp, hone, hall, hbefore, fun he => ?_⟩
    have hseparate : CommandLine.parse p.command p.options ["-c", "-d", "--bogus"] = .error e :=
      hparse.symm.trans hbundled
    rw [run_eq_explain hp hbundled, run_eq_explain hp hseparate] at he
    have htraced := (output_explain_eq_iff _ _ _ _ _).mp he
    exact absurd htraced (by decide)

end Session

end LintDispatch
