import Mathlib.Data.List.Induction
import LintDispatch.Proofs.CommandLine.Registering

/-! The command line means what it says. Arguments are written phrase by phrase: a flag of a linter or
of a setting, a reference with its option, or a path. What has been read is at every point what the
phrases so far say, and in the end the last word on every setting and on every linter holds. -/

namespace LintDispatch.CommandLine

variable {linters : List Linter} {o : Options}

inductive Phrase where
  | toggle (index : Nat) (on : Bool) (option : String)
  | switch (setting : Setting) (on : Bool) (option : String)
  | reference (option value : String)
  | path (text : String)
  deriving Repr

namespace Phrase

variable {phrases before : List Phrase} {phrase : Phrase}

def arguments : Phrase → List String
  | .toggle _ _ option => [option]
  | .switch _ _ option => [option]
  | .reference option value => [option, value]
  | .path text => [text]

/-- The option is one that stands for what the phrase means: the linter has got it, given what the
linters before it have taken, or it is the setting's. -/
def Fits (linters : List Linter) : Phrase → Prop
  | .toggle i on option => ∃ l ∈ linters[i]?,
    option ∈ (toggleOf (Registry.builtIn.after (linters.take i)) i l).flags on
  | .switch a on option => ∃ s ∈ settingOptions,
    s.setting = a ∧ s.takesValue = false ∧ option ∈ (settingParameter s).flags on
  | .reference option _ => option ∈ ["--changed-ref", "-r"]
  | .path text => text.toList.head? ≠ some '-'

instance (linters : List Linter) : (phrase : Phrase) → Decidable (phrase.Fits linters)
  | .toggle i on option => inferInstanceAs (Decidable (∃ l ∈ linters[i]?,
    option ∈ (toggleOf (Registry.builtIn.after (linters.take i)) i l).flags on))
  | .switch a on option => inferInstanceAs (Decidable (∃ s ∈ settingOptions,
    s.setting = a ∧ s.takesValue = false ∧ option ∈ (settingParameter s).flags on))
  | .reference option _ => inferInstanceAs (Decidable (option ∈ ["--changed-ref", "-r"]))
  | .path text => inferInstanceAs (Decidable (text.toList.head? ≠ some '-'))

def binding? : Phrase → Option (String × Value)
  | .toggle i on _ => some (toggleName i, .bool on)
  | .switch a on _ => some (a.name, .bool on)
  | .reference _ value => some (Setting.changedRef.name, .text value)
  | .path _ => none

def path? : Phrase → Option String
  | .path text => some text
  | _ => none

def value? (a : Setting) : Phrase → Option Value
  | .switch b on _ => if b = a then some (.bool on) else none
  | .reference _ value => if a = .changedRef then some (.text value) else none
  | _ => none

def turn? (i : Nat) : Phrase → Option Bool
  | .toggle j on _ => if j = i then some on else none
  | _ => none

def heard (phrases : List Phrase) : Reading :=
  ⟨.any, .ofList (phrases.filterMap binding?), [], phrases.filterMap path?⟩

theorem heard_of_binding {x : String × Value} (h : phrase.binding? = some x) :
    heard (before ++ [phrase]) = (heard before).store x.1 x.2 := by
  have hpath : phrase.path? = none := by
    cases phrase with
    | path => cases h
    | _ => rfl
  simp [heard, Reading.store, h, hpath, Bindings.ofList_append_singleton]

theorem heard_path (text : String) :
    heard (before ++ [.path text]) = (heard before).addPath text := by
  simp [heard, Reading.addPath, List.filterMap_append, binding?, path?, List.filterMap_cons]

/-- One more phrase is read as what it says, whatever has been read before. -/
theorem read_arguments (h : (commandOf linters).Clear o) (hfits : phrase.Fits linters) :
    phrase.arguments.foldlM (Reading.read o) (heard before) = .ok (heard (before ++ [phrase])) := by
  have hsetting : ∀ s ∈ settingOptions, settingParameter s ∈ (commandOf linters).valued := fun s hs =>
    List.mem_append_right _ (List.mem_map_of_mem hs)
  cases phrase with
  | toggle i on option =>
    obtain ⟨l, hl, ho⟩ := hfits
    obtain ⟨t, ht⟩ := toggleOf_mem_togglesOf (k := 0) (by simpa using hl) (by simpa using ho)
    rw [Nat.zero_add] at ht
    have hp : toggleOf (Registry.builtIn.after (linters.take i)) i l ∈ (commandOf linters).valued :=
      List.mem_append_left _ (List.mem_map_of_mem ht)
    have hread := h.read (q := heard before) hp (turn_mem_effects rfl ho) rfl
    rw [arguments, List.foldlM_cons, hread, heard_of_binding rfl]
    rfl
  | switch a on option =>
    obtain ⟨s, hs, rfl, hvalue, ho⟩ := hfits
    have hrole : (settingParameter s).role = .toggle := by simp [settingParameter, hvalue]
    have hread := h.read (q := heard before) (hsetting s hs) (turn_mem_effects hrole ho) rfl
    rw [arguments, List.foldlM_cons, hread, heard_of_binding rfl]
    rfl
  | reference option value =>
    obtain ⟨s, hs, hx⟩ : ∃ s ∈ settingOptions,
        (option, .take Setting.changedRef.name) ∈ Options.effects (settingParameter s) := by
      refine ⟨⟨.changedRef, "changed-ref", some "r", _, true⟩, .tail _ (.head _), ?_⟩
      simpa [Options.effects, settingParameter, Fits] using hfits
    -- The value is read while it is expected, so it may look like an option.
    have hread := h.read (q := heard before) (hsetting s hs) hx rfl
    rw [arguments, List.foldlM_cons, hread, heard_of_binding rfl]
    rfl
  | path text =>
    have hread := (heard before).read_path h.options h.dashed rfl hfits
    rw [arguments, List.foldlM_cons, hread, heard_path]
    rfl

theorem read_flatMap_arguments (h : (commandOf linters).Clear o)
    (hfits : ∀ p ∈ phrases, p.Fits linters) :
    (phrases.flatMap arguments).foldlM (Reading.read o) .start = .ok (heard phrases) := by
  -- From the right, since the invariant speaks of the phrases that have been read so far.
  induction phrases using List.reverseRecOn with
  | nil => rfl
  | append_singleton phrases phrase ih =>
    rw [List.flatMap_append, List.foldlM_append, ih fun p hp => hfits p (List.mem_append_left _ hp),
      List.flatMap_singleton]
    exact read_arguments h (hfits phrase (by simp))

theorem read_behind {q : Reading} (hq : q.expecting = .path) (texts : List String) :
    texts.foldlM (Reading.read o) q = .ok { q with paths := q.paths ++ texts } := by
  induction texts generalizing q with
  | nil => simp [pure, Except.pure]
  | cons text texts ih =>
    have hread : q.read o text = .ok (q.addPath text) := by simp [Reading.read, hq]
    rw [List.foldlM_cons, hread]
    refine (ih (q := q.addPath text) hq).trans ?_
    simp [Reading.addPath]

/-- Phrases, and behind a double dash whatever else there is, are read as a run with the values and
the paths that they give. -/
theorem parse_arguments (h : (commandOf linters).Clear o) (hfits : ∀ p ∈ phrases, p.Fits linters)
    (behind : Option (List String)) :
    parse (commandOf linters) o (phrases.flatMap arguments ++ behind.elim [] ("--" :: ·)) =
      .ok (.run (allValues (commandOf linters) (.ofList (phrases.filterMap binding?)))
        (phrases.filterMap path? ++ behind.getD [])) := by
  have hread := read_flatMap_arguments h hfits
  cases behind with
  | none =>
    simp only [parse, Option.elim_none, List.append_nil, hread, Option.getD_none]
    rfl
  | some texts =>
    have hterminator : (heard phrases).read o "--" = .ok { heard phrases with expecting := .path } := rfl
    have hall : (phrases.flatMap arguments ++ "--" :: texts).foldlM (Reading.read o) .start =
        .ok { heard phrases with expecting := .path, paths := (heard phrases).paths ++ texts } := by
      rw [List.foldlM_append, hread]
      change List.foldlM (Reading.read o) (heard phrases) ("--" :: texts) = _
      rw [List.foldlM_cons, hterminator]
      exact read_behind rfl texts
    simp only [parse, Option.elim_some, hall, Option.getD_some]
    rfl

def lastValue (phrases : List Phrase) (a : Setting) : Option Value :=
  (phrases.filterMap (value? a)).getLast?

def lastTurn (phrases : List Phrase) (i : Nat) : Option Bool :=
  (phrases.filterMap (turn? i)).getLast?

theorem find?_name_ofList (phrases : List Phrase) (a : Setting) :
    (Bindings.ofList (phrases.filterMap binding?)).find? a.name = lastValue phrases a := by
  rw [Bindings.find?_ofList, List.filterMap_filterMap, lastValue]
  congr 2
  funext phrase
  cases phrase with
  | toggle i on option => simp [binding?, value?, toggleName_ne_name]
  | switch b on option => simp [binding?, value?, Setting.name_inj]
  | reference option value => simp [binding?, value?, Setting.name_inj, eq_comm]
  | path text => rfl

theorem find?_toggleName_ofList (phrases : List Phrase) (i : Nat) :
    (Bindings.ofList (phrases.filterMap binding?)).find? (toggleName i) =
      (lastTurn phrases i).map .bool := by
  rw [Bindings.find?_ofList, List.filterMap_filterMap, lastTurn, ← List.getLast?_map,
    List.map_filterMap]
  congr 2
  funext phrase
  cases phrase with
  | toggle j on option =>
    simp only [binding?, turn?, Option.bind_some, toggleName_inj]
    split <;> rfl
  | switch a on option => simp [binding?, turn?, (toggleName_ne_name i a).symm]
  | reference option value => simp [binding?, turn?, (toggleName_ne_name i .changedRef).symm]
  | path text => rfl

theorem toggled_ofList (phrases : List Phrase) (i : Nat) :
    toggled (.ofList (phrases.filterMap binding?)) i = lastTurn phrases i := by
  rw [toggled, find?_toggleName_ofList]
  cases lastTurn phrases i <;> rfl

theorem admits_of_lastValue {a : Setting} {v : Value} (hfits : ∀ p ∈ phrases, p.Fits linters)
    (h : lastValue phrases a = some v) : a.Admits v := by
  have hflag : ∀ s ∈ settingOptions, s.takesValue = false → s.setting ≠ .changedRef := by decide
  obtain ⟨phrase, hmem, hv⟩ := List.mem_filterMap.mp (List.mem_of_mem_getLast? h)
  cases phrase with
  | switch b on option =>
    obtain ⟨s, hs, rfl, hvalue, -⟩ := hfits _ hmem
    simp only [value?, Option.ite_none_right_eq_some, Option.some.injEq] at hv
    obtain ⟨rfl, rfl⟩ := hv
    exact Setting.admits_bool (hflag s hs hvalue) on
  | reference option value =>
    simp only [value?, Option.ite_none_right_eq_some, Option.some.injEq] at hv
    obtain ⟨rfl, rfl⟩ := hv
    exact ⟨value, rfl⟩
  | toggle => cases hv
  | path => cases hv

end Phrase

open Phrase in
/-- Where flags are plain and no two of a command's option strings are the same, phrases in any order
are read, and overriding the default settings and linters that are not toggled yet succeeds: every
setting has the last value it was given, every linter is switched as it was last told, and the paths
are those that were written. -/
theorem applyOverrides_of_phrases (hplain : ∀ l ∈ linters, PlainFlags l)
    (hfresh : ∀ l ∈ linters, l.toggle = none) :
    ∃ c o, build linters = .ok c ∧ Options.ofParameters c.parameters = .ok o ∧ (c.strings.Nodup →
      ∀ phrases : List Phrase, (∀ p ∈ phrases, p.Fits linters) → ∀ behind : Option (List String),
        ∃ values settings turned,
          parse c o (phrases.flatMap arguments ++ behind.elim [] ("--" :: ·)) =
            .ok (.run values (phrases.filterMap path? ++ behind.getD [])) ∧
          applyOverrides c.targets values .default linters = ⟨settings, turned, .ok ()⟩ ∧
          (∀ a, settings.value a = (lastValue phrases a).getD (Settings.default.value a)) ∧
          turned = linters.mapIdx (fun i l =>
            (lastTurn phrases i).elim l fun on => l.setToggle (some on)) ∧
          ∀ i l, turned[i]? = some l → l.toggle = lastTurn phrases i) := by
  have hc := build_of_slashless fun l hl => (hplain l hl).slashless
  obtain ⟨o, ho, hclear⟩ := clear_of_plain hplain
  refine ⟨commandOf linters, o, hc, ho, fun hnodup phrases hfits behind => ?_⟩
  let given : Bindings Value := .ofList (phrases.filterMap binding?)
  have hparse := parse_arguments (hclear hnodup) hfits behind
  refine ⟨allValues (commandOf linters) given, settingsOf given, _, hparse, ?_, fun a => ?_, rfl,
    fun i l hl => ?_⟩
  · have hsettings : settingsOf (allValues (commandOf linters) given) = settingsOf given := by
      simp only [settingsOf, flag_allValues, reference_allValues]
    rw [applyOverrides_of_parse hc ho hparse, hsettings]
    simp only [toggled_allValues, given, toggled_ofList]
  · have hfind := find?_name_ofList phrases a
    rw [value_settingsOf (fun v hv => admits_of_lastValue hfits (hfind ▸ hv)), hfind]
  · rw [List.getElem?_mapIdx, Option.map_eq_some_iff] at hl
    obtain ⟨l', hl', rfl⟩ := hl
    have hnone := hfresh l' (List.mem_of_getElem? hl')
    cases lastTurn phrases i with
    | none => exact hnone
    | some on => rfl

def remarks : List Phrase :=
  [.toggle 0 true "--reek", .reference "-r" "-x", .toggle 1 true "-x", .switch .debug true "-d",
    .path "lib", .toggle 0 false "--no-reek", .switch .debug false "--no-debug",
    .reference "--changed-ref" "main"]

open Phrase in
theorem applyOverrides_of_phrases_crowd :
    (∀ l ∈ crowd, PlainFlags l) ∧ (∀ l ∈ crowd, l.toggle = none) ∧
    ∃ c o, build crowd = .ok c ∧ Options.ofParameters c.parameters = .ok o ∧ c.strings.Nodup ∧
      (∀ p ∈ remarks, p.Fits crowd) ∧
      ∃ values settings turned,
        parse c o ["--reek", "-r", "-x", "-x", "-d", "lib", "--no-reek", "--no-debug",
          "--changed-ref", "main", "--", "--weird", "-d"] =
            .ok (.run values ["lib", "--weird", "-d"]) ∧
        applyOverrides c.targets values .default crowd = ⟨settings, turned, .ok ()⟩ ∧
        settings.debug = false ∧ settings.changedRef = "main" ∧
        turned.map Linter.toggle = [some false, some true, none] := by
  have hplain : ∀ l ∈ crowd, PlainFlags l := by decide +kernel
  have hfresh : ∀ l ∈ crowd, l.toggle = none := by simp [crowd, Linter.configured]
  have hfits : ∀ p ∈ remarks, p.Fits crowd := by decide +kernel
  have hdistinct : (build crowd).toOption.any (fun c => decide c.strings.Nodup) = true := by
    decide +kernel
  obtain ⟨c', hc', hnodup⟩ := Outcome.exists_of_any hdistinct
  obtain ⟨c, o, hc, ho, hall⟩ := applyOverrides_of_phrases hplain hfresh
  obtain rfl : c' = c := Except.ok.inj (hc'.symm.trans hc)
  obtain ⟨values, settings, turned, hparse, happly, hvalue, rfl, -⟩ :=
    hall (of_decide_eq_true hnodup) remarks hfits (some ["--weird", "-d"])
  refine ⟨hplain, hfresh, c', o, hc, ho, of_decide_eq_true hnodup, hfits,
    values, settings, _, hparse, happly, ?_, ?_, ?_⟩
  · have hdebug : Value.bool settings.debug = .bool false := hvalue .debug
    simpa [Value.bool] using hdebug
  · have href : Value.text settings.changedRef = .text "main" := hvalue .changedRef
    simpa [Value.text] using href
  · decide +kernel

end LintDispatch.CommandLine
