import LintDispatch.Proofs.CommandLine.Claiming
import LintDispatch.Proofs.CommandLine.Recording

/-! Option strings as they are registered. A string that is two dashes and a name, or one dash and
one character, is known afterwards for what it does, and reading it as an argument does just that.
All strings of a command are of this kind if the flags of its linters are plain ones. -/

namespace LintDispatch.CommandLine

variable {o : Options} {xs : List (String × Effect)} {option name : String} {char : Char} {e : Effect}
  {q : Reading} {r : Registry} {i : Nat} {l : Linter} {linters : List Linter} {c : Command}
  {p : Parameter} {on : Bool}

/-- Two dashes and a name, or one dash and one character. -/
inductive Dashed : String → Prop
  | long (name : String) (hname : name ≠ "") (hequals : '=' ∉ name.toList) : Dashed ("--" ++ name)
  | short (name : String) (char : Char) (hname : name.toList = [char]) (hdash : char ≠ '-')
    (hequals : char ≠ '=') : Dashed ("-" ++ name)

theorem splitLeader_long (name : String) :
    splitLeader ("--" ++ name).toList = (['-', '-'], name.toList) := by
  simp [splitLeader, show Text.isAlphanumeric '-' = false by decide]

theorem isShort_long (name : String) : isShort ("--" ++ name) = false := by
  rw [isShort, splitLeader_long]
  rfl

theorem leader_long (name : String) : leader ("--" ++ name) = ['-', '-'] := by
  rw [leader, splitLeader_long]

theorem dash_append (hname : name.toList = [char]) : "-" ++ name = short char := by
  simp only [short, ← String.toList_inj, String.toList_ofList, String.toList_append, hname]
  rfl

theorem Dashed.leader (h : Dashed option) : leader option = ['-'] ∨ leader option = ['-', '-'] := by
  rcases h with ⟨name, -, -⟩ | ⟨name, char, hname, hdash, -⟩
  · exact .inr (leader_long name)
  · exact .inl (dash_append hname ▸ leader_short hdash)

theorem Dashed.toList (h : Dashed option) : (∃ second rest, option.toList = '-' :: second :: rest) ∧
    '=' ∉ option.toList ∧ option ≠ "--" := by
  rcases h with ⟨name, hname, hequals⟩ | ⟨name, char, hname, hdash, hequals⟩
  · refine ⟨⟨'-', name.toList, by simp⟩, by simpa using hequals, fun he => ?_⟩
    have hh := congrArg String.length he
    simp at hh
    exact hname hh
  · have htext : ("-" ++ name).toList = ['-', char] := by simp [hname]
    refine ⟨⟨char, [], htext⟩, by simp [htext, Ne.symm hequals], fun he => ?_⟩
    simp [he] at htext
    exact hdash htext.symm

namespace Reading

/-- An option string that was registered does as an argument what it was registered for. -/
theorem read_option (h : o.Records xs) (hn : (Bindings.names xs).Nodup) (ho : Dashed option)
    (hx : (option, e) ∈ xs) (hq : q.expecting = .any) :
    q.read o option = .ok (q.obey option e) := by
  have hfind : (Bindings.ofList xs).find? option = some e := by
    rwa [Bindings.ofList_eq_self hn, Bindings.find?_eq_some_iff hn]
  obtain ⟨⟨second, rest, htext⟩, hequals, hterminator⟩ := ho.toList
  rcases ho with ⟨name, -, -⟩ | ⟨name, char, hname, hdash, hchar⟩
  · have hlookup : o.long.find? ("--" ++ name) = some e :=
      (h.find?_long (isShort_long name)).trans hfind
    have hknown : ['-'] ∈ o.leaders := by simpa [leader_long] using h.known _ hx
    have hoption : o.isOption ("--" ++ name).toList = true := by
      simp [Options.isOption, htext, hknown]
    have hcut : cutAt? '=' ("--" ++ name).toList = none := cutAt?_eq_none_iff.mpr hequals
    simp only [read, hq, if_neg hterminator, hoption, if_true, Reading.option, hcut,
      String.ofList_toList, hlookup, whole_none]
  · rw [dash_append hname] at hfind ⊢
    exact read_short h ((h.find?_short (isShort_short hdash)).trans hfind) hdash hchar hq

theorem read_path {text : String} (h : o.Records xs) (hdashed : ∀ x ∈ xs, Dashed x.1)
    (hq : q.expecting = .any) (ht : text.toList.head? ≠ some '-') :
    q.read o text = .ok (q.addPath text) := by
  have hterminator : text ≠ "--" := fun he => by simp [he] at ht
  have hoption : o.isOption text.toList = false := by
    cases hs : text.toList with
    | nil => rfl
    | cons char s =>
      have hlead : [char] ∉ o.leaders := fun hm => by
        obtain ⟨x, hx, hform⟩ := h.leaders _ hm
        simp [hs] at ht
        rcases (hdashed x hx).leader with hl | hl <;> simp [hl, ht] at hform
      simp [Options.isOption, hlead]
  simp [read, hq, hterminator, hoption]

end Reading

/-- The long flag is made of word characters and dashes, the short one of one word character at
most. -/
def PlainFlags (l : Linter) : Prop :=
  (∀ c ∈ (Linter.flagName l.optionName).toList, Text.isWord c = true ∨ c = '-') ∧
    (∀ c ∈ l.abbreviation.toList, Text.isWord c = true) ∧ l.abbreviation.toList.length ≤ 1

-- By the lists: there is an instance for all characters too, which would try every one of them.
instance (l : Linter) : Decidable (PlainFlags l) :=
  @instDecidableAnd _ _ (List.decidableBAll _ _)
    (@instDecidableAnd _ _ (List.decidableBAll _ _) inferInstance)

theorem PlainFlags.slashless (h : PlainFlags l) : Slashless l := by
  have hslash : Text.isWord '/' = false := by decide
  constructor
  · intro hm
    simpa [hslash] using h.1 '/' hm
  · intro hm
    simpa [hslash] using h.2.1 '/' hm

theorem Dashed.of_single (hlength : name.toList.length = 1) (hdash : '-' ∉ name.toList)
    (hequals : '=' ∉ name.toList) : Dashed ("-" ++ name) := by
  obtain ⟨char, hname⟩ := List.length_eq_one_iff.mp hlength
  simp only [hname, List.mem_singleton] at hdash hequals
  exact .short name char hname (Ne.symm hdash) (Ne.symm hequals)

theorem dashed_of_mem_strings (h : ∀ l ∈ linters, PlainFlags l) :
    ∀ s ∈ (commandOf linters).strings, Dashed s := by
  have hequals : Text.isWord '=' = false := by decide
  have hdash : Text.isWord '-' = false := by decide
  have hlongs : ∀ n ∈ Registry.builtIn.longs ++ settingNegations, n ≠ "" ∧ '=' ∉ n.toList := by decide
  have hshorts : ∀ n ∈ Registry.builtIn.shorts, n.toList.length = 1 ∧ '-' ∉ n.toList ∧
      '=' ∉ n.toList := by decide
  intro s hs
  rcases List.mem_append.mp ((strings_perm linters).subset hs) with hs | hs
  · obtain ⟨n, hn, rfl⟩ := List.mem_map.mp hs
    rcases List.mem_append.mp hn with hn | hn
    · obtain ⟨l, hl, hne, hn⟩ := Registry.of_mem_takenLongs hn
      have hname : '=' ∉ (Linter.flagName l.optionName).toList := fun hm => by
        simpa [hequals] using (h l hl).1 '=' hm
      rcases hn with rfl | rfl
      · exact .long _ hne hname
      · exact .long _ (by simp [Registry.negated]) (by simpa [Registry.negated] using hname)
    · exact .long n (hlongs n hn).1 (hlongs n hn).2
  · obtain ⟨n, hn, rfl⟩ := List.mem_map.mp hs
    rcases List.mem_append.mp hn with hn | hn
    · obtain ⟨l, hl, rfl, hne⟩ := Registry.of_mem_takenShorts hn
      obtain ⟨-, hword, hlength⟩ := h l hl
      have hpos : l.abbreviation.toList.length ≠ 0 := by simpa using hne
      refine .of_single (by omega) (fun hm => ?_) (fun hm => ?_)
      · simpa [hdash] using hword '-' hm
      · simpa [hequals] using hword '=' hm
    · obtain ⟨hlength, hnodash, hnoequals⟩ := hshorts n hn
      exact .of_single hlength hnodash hnoequals

def Parameter.flags (p : Parameter) (on : Bool) : List String :=
  if on then p.on else p.off

theorem turn_mem_effects (hr : p.role = .toggle) (ho : option ∈ p.flags on) :
    (option, .turn p.name on) ∈ Options.effects p := by
  cases on <;> simpa [Options.effects, hr, Parameter.flags] using ho

theorem toggleOf_mem_togglesOf {k : Nat} (hl : linters[i]? = some l)
    (ho : option ∈ (toggleOf (r.after (linters.take i)) (k + i) l).flags on) :
    ∃ t, (toggleOf (r.after (linters.take i)) (k + i) l, t) ∈ togglesOf r k linters := by
  refine ⟨_, mem_togglesOf_iff.mpr ⟨i, l, hl, fun hnone => ?_, rfl, rfl⟩⟩
  have hm : option ∈ (toggleOf (r.after (linters.take i)) (k + i) l).strings := by
    cases on
    · exact List.mem_append_right _ ho
    · exact List.mem_append_left _ ho
  simp [strings_toggleOf hnone] at hm

/-- The option strings of a command are dashed and distinct, and all of them are registered. -/
structure Command.Clear (c : Command) (o : Options) : Prop where
  dashed : ∀ x ∈ c.parameters.flatMap Options.effects, Dashed x.1
  nodup : (Bindings.names (c.parameters.flatMap Options.effects)).Nodup
  options : o.Records (c.parameters.flatMap Options.effects)

theorem clear_of_plain (h : ∀ l ∈ linters, PlainFlags l) :
    ∃ o, Options.ofParameters (commandOf linters).parameters = .ok o ∧
      ((commandOf linters).strings.Nodup → (commandOf linters).Clear o) := by
  let c := commandOf linters
  have hregular : c.Regular := regular_of_build (build_of_slashless fun l hl => (h l hl).slashless)
  have hnames : Bindings.names (c.parameters.flatMap Options.effects) =
      c.parameters.flatMap Parameter.strings := hregular.map_fst_effects
  have hsub : (Bindings.names (c.parameters.flatMap Options.effects)).Sublist c.strings :=
    hnames ▸ strings_parameters_sublist c
  have hdashed : ∀ x ∈ c.parameters.flatMap Options.effects, Dashed x.1 := fun x hx =>
    dashed_of_mem_strings h _ (hsub.subset (List.mem_map_of_mem hx))
  have hlead : ∀ p ∈ c.toggles, ∀ option ∈ p.strings, leader option ≠ [] := by
    intro p hp option ho
    have hs : option ∈ Bindings.names (c.parameters.flatMap Options.effects) :=
      hnames ▸ List.mem_flatMap.mpr ⟨p, List.mem_append_left _ (List.mem_append_left _ hp), ho⟩
    obtain ⟨x, hx, rfl⟩ := List.mem_map.mp hs
    rcases (hdashed x hx).leader with hl | hl <;> simp [hl]
  obtain ⟨o, ho⟩ := hregular.ofParameters_isOk_iff.mpr hlead
  exact ⟨o, ho, fun hnodup =>
    ⟨hdashed, hnodup.sublist hsub, Options.records_of_ofParameters ho⟩⟩

theorem Command.Clear.read (h : c.Clear o) (hp : p ∈ c.valued)
    (hx : (option, e) ∈ Options.effects p) (hq : q.expecting = .any) :
    q.read o option = .ok (q.obey option e) := by
  have hmem : (option, e) ∈ c.parameters.flatMap Options.effects :=
    List.mem_flatMap.mpr ⟨p, List.mem_append_left _ hp, hx⟩
  exact q.read_option h.options h.nodup (h.dashed _ hmem) hmem hq

end LintDispatch.CommandLine
