import LintDispatch.Proofs.CommandLine.Declaring
import LintDispatch.Session

/-! From the configuration to the command line. What keeps a session from reading its arguments, once
the configuration is loaded, is a flag of a linter that cannot be declared, and nothing else. -/

namespace LintDispatch.Session

open CommandLine (Registry)

variable {ε : Type} {here : Path} {root : Option String} {disk : Disk} {config : Config}

/-- With a configuration that was loaded, any arguments are read as a run, as a request or as a usage
error, unless the free flags of some linter cannot be declared; then not even a request is read. -/
theorem prepare_of_load (h : Config.load disk (configFile here root) = .ok config) :
    (Registry.builtIn.AcceptsAll config.buildLinters →
      ∃ p, prepare (ε := ε) here root disk = .ok p ∧ p.config = config ∧ ∀ arguments,
        (∃ values paths,
          CommandLine.parse p.command p.options arguments = .ok (.run values paths)) ∨
        (∃ request, CommandLine.parse p.command p.options arguments = .ok (.request request)) ∨
        ∃ e, CommandLine.parse p.command p.options arguments = .error e) ∧
    (¬ Registry.builtIn.AcceptsAll config.buildLinters →
      ∃ e, prepare (ε := ε) here root disk = .error (.declaration e)) := by
  rw [← CommandLine.build_isOk_iff]
  constructor
  · rintro ⟨c, o, hc, ho⟩
    refine ⟨⟨config, c, o⟩, by simp [prepare, h, hc, ho], rfl, fun arguments => ?_⟩
    cases CommandLine.parse c o arguments with
    | error e => exact .inr (.inr ⟨e, rfl⟩)
    | ok parsed =>
      cases parsed with
      | request request => exact .inr (.inl ⟨request, rfl⟩)
      | run values paths => exact .inl ⟨values, paths, rfl⟩
  · intro hno
    simp only [prepare, h]
    split
    · exact ⟨_, rfl⟩
    · rename_i c hc
      split
      · exact ⟨_, rfl⟩
      · rename_i o ho
        exact absurd ⟨c, o, hc, ho⟩ hno

def projectWith (optionName : String) : Disk :=
  Disk.empty.write (Path.ofAbsolute "/p/.l.yml".toList).names <| .file <| Text.encodeUtf8 <|
    ("linters:\n- name: Alpha\n  cmd: alpha\n  extensions: [.rb]\n  cli_option_name: " ++ optionName ++
      "\n").toList

theorem prepare_of_load_alpha :
    let here := Path.ofAbsolute "/p".toList
    let disk := projectWith "alpha_js"
    ∃ config, Config.load disk (configFile here none) = .ok config ∧
      Registry.builtIn.AcceptsAll config.buildLinters ∧
      ∃ p, prepare (ε := Unit) here none disk = .ok p ∧ p.config = config := by
  intro here disk
  have hplain : (Config.load disk (configFile here none)).toOption.any (fun config =>
      decide (∀ l ∈ config.buildLinters, CommandLine.Slashless l)) = true := by
    decide +kernel
  obtain ⟨config, hload, hslash⟩ := Outcome.exists_of_any hplain
  have haccepts : Registry.builtIn.AcceptsAll config.buildLinters :=
    Registry.builtIn.acceptsAll_of_slashless (of_decide_eq_true hslash)
  obtain ⟨p, hp, hc, -⟩ := (prepare_of_load (ε := Unit) hload).1 haccepts
  exact ⟨config, hload, haccepts, p, hp, hc⟩

def refusal? (outcome : Except (Failure ε) Prepared) : Option CommandLine.DeclarationError :=
  match outcome with
  | .error (.declaration e) => some e
  | _ => none

theorem refusal?_eq_some {outcome : Except (Failure ε) Prepared} {e : CommandLine.DeclarationError}
    (h : refusal? outcome = some e) : outcome = .error (.declaration e) := by
  simp only [refusal?] at h
  split at h
  · cases h
    rfl
  · cases h

/-- A slash in an option name, with a letter behind it, makes every session fail: half of the
declaration is then taken for an option that lacks its dashes. -/
theorem slashed_option_refused :
    let here := Path.ofAbsolute "/p".toList
    let disk := projectWith "a/b"
    (∃ config, Config.load disk (configFile here none) = .ok config) ∧
      prepare (ε := Unit) here none disk = .error (.declaration (.noLeader "b/--no-a/b")) := by
  intro here disk
  have hloaded : (Config.load disk (configFile here none)).toOption.any (fun _ => true) = true := by
    decide +kernel
  obtain ⟨config, hload, -⟩ := Outcome.exists_of_any hloaded
  exact ⟨⟨config, hload⟩, refusal?_eq_some (by decide +kernel)⟩

end LintDispatch.Session
