import LintDispatch.Proofs.CommandLine.Recording

/-! Short flags in a bundle. As long as abbreviations are single word characters, several flags that
take no value can be written behind one dash: no option is written like that as a whole, so the
bundle is read as its flags are one by one. -/

namespace LintDispatch.CommandLine

variable {o : Options} {char : Char} {cs : List Char} {q : Reading} {c : Command} {l : Linter}
  {linters : List Linter} {r : Registry} {p : Parameter} {option : String}
  {before after : List String}

/-- The abbreviation is one word character. -/
def OneLetter (l : Linter) : Prop :=
  ∃ char, l.abbreviation.toList = [char] ∧ Text.isWord char = true

instance (l : Linter) : Decidable (OneLetter l) :=
  decidable_of_iff
    (l.abbreviation.toList.length = 1 ∧ l.abbreviation.toList.all Text.isWord = true) (by
    rw [OneLetter, List.length_eq_one_iff]
    constructor
    · rintro ⟨⟨char, he⟩, hword⟩
      exact ⟨char, he, by simpa [he] using hword⟩
    · rintro ⟨char, he, hword⟩
      exact ⟨⟨char, he⟩, by simpa [he] using hword⟩)

/-- Two dashes come first, or it is a dash with a word character behind it; or there is a slash in
it with something behind. -/
inductive Shaped (option : String) : Prop
  | long (rest : List Char) (h : option.toList = '-' :: '-' :: rest)
  | short (char : Char) (h : option = short char) (hword : Text.isWord char = true)
  | slashed (start rest : List Char) (h : option.toList = start ++ '/' :: '-' :: rest)

theorem trimLeft_append_slash (s t : List Char) :
    ∃ start, Text.trimLeft (s ++ '/' :: t) = start ++ '/' :: t := by
  have hslash : List.dropWhile Text.isBlank ('/' :: t) = '/' :: t :=
    Text.trimLeft_cons (by decide)
  rw [Text.trimLeft, List.dropWhile_append, hslash]
  split
  · exact ⟨[], rfl⟩
  · exact ⟨_, rfl⟩

theorem of_mem_nonEmpty {s : List Char} (h : option ∈ nonEmpty s) : option.toList = s := by
  rw [nonEmpty] at h
  split at h
  · cases h
  · rw [List.mem_singleton.mp h, String.toList_ofList]

theorem shaped_of_declare_pair {name : String} {d : Declared}
    (h : declare (pairDeclaration name) = .ok d) : ∀ s ∈ d.on ++ d.off, Shaped s := by
  let second := '-' :: '-' :: ("no-".toList ++ name.toList)
  have htext : (pairDeclaration name).toList = '-' :: ('-' :: name.toList) ++ '/' :: second := by
    simp [pairDeclaration, Registry.negated, second]
  -- Where the declaration is cut: before the negation, or at a slash in the name itself.
  obtain ⟨first, behind, hcut, hslash, hbehind⟩ : ∃ first behind,
      (pairDeclaration name).toList = '-' :: ('-' :: first) ++ '/' :: behind ∧ '/' ∉ '-' :: first ∧
        (behind = second ∨ ∃ start, behind = start ++ '/' :: second) := by
    cases hname : cutAt? '/' name.toList with
    | none =>
      exact ⟨_, _, htext, by simpa using cutAt?_eq_none_iff.mp hname, .inl rfl⟩
    | some halves =>
      obtain ⟨first, start⟩ := halves
      obtain ⟨hsplit, hfirst⟩ := cutAt?_eq_some_iff.mp hname
      exact ⟨first, start ++ '/' :: second, by rw [htext, hsplit]; simp, by simpa using hfirst,
        .inr ⟨start, rfl⟩⟩
  rw [declare_of_slash hcut hslash] at h
  split at h
  · cases h
  · cases h
    refine List.forall_mem_cons.mpr ⟨.long (Text.trimRight first) ?_, fun s hs => ?_⟩
    · rw [String.toList_ofList, Text.trimRight_cons (by decide), Text.trimRight_cons (by decide)]
    · have hs := of_mem_nonEmpty hs
      rcases hbehind with rfl | ⟨start, rfl⟩
      · exact .long ("no-".toList ++ name.toList) (hs.trans (Text.trimLeft_cons (by decide)))
      · obtain ⟨start', hstart⟩ := trimLeft_append_slash start second
        exact .slashed start' _ (hs.trans hstart)

theorem shaped_of_declare_short (hone : OneLetter l) {d : Declared}
    (h : declare ("-" ++ l.abbreviation) = .ok d) : ∀ s ∈ d.on ++ d.off, Shaped s := by
  obtain ⟨char, habbreviation, hword⟩ := hone
  have hshort : "-" ++ l.abbreviation = short char := by
    simp only [short, ← String.toList_inj, String.toList_append, String.toList_ofList, habbreviation]
    rfl
  have hslash : '/' ∉ ("-" ++ l.abbreviation).toList := by
    have hne : Text.isWord '/' = false := by decide
    simp only [hshort, short, String.toList_ofList, List.mem_cons, List.not_mem_nil, or_false]
    rintro (he | rfl)
    · cases he
    · simp [hne] at hword
  rw [declare_of_no_slash (by simp) hslash] at h
  cases h
  intro s hs
  cases List.mem_singleton.mp hs
  exact .short char hshort hword

theorem of_mem_declareAll {ds : List String} {d : Declared} (h : declareAll ds = .ok d)
    (hs : option ∈ d.on ++ d.off) :
    ∃ declaration ∈ ds, ∃ x, declare declaration = .ok x ∧ option ∈ x.on ++ x.off := by
  induction ds generalizing d with
  | nil =>
    cases h
    cases hs
  | cons declaration ds ih =>
    rw [declareAll_cons] at h
    obtain ⟨x, hx, h⟩ := Outcome.bind_eq_ok.mp h
    obtain ⟨y, hy, rfl⟩ := Outcome.map_eq_ok.mp h
    have hcases : option ∈ x.on ++ x.off ∨ option ∈ y.on ++ y.off := by
      simp only [List.mem_append] at hs ⊢
      grind
    rcases hcases with hs | hs
    · exact ⟨declaration, List.mem_cons_self, x, hx, hs⟩
    · obtain ⟨declaration', hd, hfound⟩ := ih hy hs
      exact ⟨declaration', List.mem_cons_of_mem _ hd, hfound⟩

theorem shaped_of_toggle? (hone : OneLetter l) {i : Nat} (h : toggle? r i l = .ok (some p)) :
    ∀ s ∈ p.strings, Shaped s := by
  intro s hs
  rw [toggle?] at h
  split at h
  · cases h
  · obtain ⟨d, hd, h⟩ := Outcome.map_eq_ok.mp h
    cases h
    obtain ⟨declaration, hmem, x, hx, hs⟩ := of_mem_declareAll hd hs
    rw [toggleDeclarations, List.mem_append] at hmem
    rcases hmem with hmem | hmem
    · split at hmem
      · rw [List.mem_singleton.mp hmem] at hx
        exact shaped_of_declare_pair hx s hs
      · cases hmem
    · split at hmem
      · rw [List.mem_singleton.mp hmem] at hx
        exact shaped_of_declare_short hone hx s hs
      · cases hmem

theorem shaped_builtIn : ∀ s ∈ (settingParameters ++ [versionParameter]).flatMap Parameter.strings ++
    helpStrings, Shaped s := by
  have hcases : ∀ s ∈ (settingParameters ++ [versionParameter]).flatMap Parameter.strings ++
      helpStrings, s.toList.take 2 = ['-', '-'] ∨
        s ∈ ['c', 'r', 'a', 'l', 'd', 'h'].map short := by
    decide
  have hword : ['c', 'r', 'a', 'l', 'd', 'h'].all Text.isWord = true := by decide
  intro s hs
  rcases hcases s hs with hlong | hshort
  · exact .long (s.toList.drop 2) (by rw [← List.take_append_drop 2 s.toList, hlong]; rfl)
  · obtain ⟨char, hchar, rfl⟩ := List.mem_map.mp hshort
    exact .short char rfl (List.all_eq_true.mp hword char hchar)

/-- All option strings are of these shapes if every linter's abbreviation is one word character. -/
theorem shaped_of_mem_strings (hone : ∀ l ∈ linters, OneLetter l) (hc : build linters = .ok c) :
    ∀ s ∈ c.strings, Shaped s := by
  intro s hs
  obtain ⟨ts, hts, rfl⟩ := Outcome.map_eq_ok.mp hc
  simp only [Command.strings, Command.valued, List.append_assoc, List.flatMap_append] at hs
  rcases List.mem_append.mp hs with hs | hs
  · obtain ⟨p, hp, hs⟩ := List.mem_flatMap.mp hs
    obtain ⟨t, ht, rfl⟩ := List.mem_map.mp hp
    obtain ⟨i, l, r, hl, hown, -⟩ := of_mem_togglesFrom hts ht
    exact shaped_of_toggle? (hone l (List.mem_of_getElem? hl)) hown s hs
  · exact shaped_builtIn s (by simpa using hs)

/-- The command shows this short flag as one of its options, and as none that takes a value. -/
structure Command.Valueless (c : Command) (char : Char) : Prop where
  dash : char ≠ '-'
  shown : ∃ p ∈ c.parameters, short char ∈ p.strings
  valueless : ∀ p ∈ c.parameters, short char ∈ p.strings → p.role ≠ .value

instance (c : Command) (char : Char) : Decidable (c.Valueless char) :=
  decidable_of_iff (char ≠ '-' ∧ (∃ p ∈ c.parameters, short char ∈ p.strings) ∧
      ∀ p ∈ c.parameters, short char ∈ p.strings → p.role ≠ .value)
    ⟨fun ⟨hdash, hshown, hvalueless⟩ => ⟨hdash, hshown, hvalueless⟩,
      fun ⟨hdash, hshown, hvalueless⟩ => ⟨hdash, hshown, hvalueless⟩⟩

/-- An argument behind these is neither the value of an option nor behind a double dash. -/
def Options.AtOption (o : Options) (before : List String) : Prop :=
  ∀ r, before.foldlM (Reading.read o) .start = .ok r → r.expecting = .any

theorem Command.Valueless.lookup (hc : build linters = .ok c)
    (ho : Options.ofParameters c.parameters = .ok o) (h : c.Valueless char) :
    ∃ e, o.short.find? (short char) = some e ∧ ∀ name, e ≠ .take name := by
  have hrecords := Options.records_of_ofParameters ho
  have hregular := regular_of_build hc
  have hnames := hregular.map_fst_effects
  obtain ⟨p, hp, hs⟩ := h.shown
  cases hf : o.short.find? (short char) with
  | none =>
    rw [hrecords.find?_short (isShort_short h.dash), Bindings.find?_ofList_eq_none_iff,
      Bindings.names, hnames] at hf
    exact absurd (List.mem_flatMap.mpr ⟨p, hp, hs⟩) hf
  | some e =>
    refine ⟨e, rfl, ?_⟩
    rintro name rfl
    obtain ⟨p', hp', hx⟩ := List.mem_flatMap.mp (hrecords.mem_of_find?_short hf)
    have hstrings : short char ∈ p'.strings := by
      rw [← CommandLine.map_fst_effects (hregular.toggle_or_off hp')]
      exact List.mem_map.mpr ⟨_, hx, rfl⟩
    refine h.valueless p' hp' hstrings ?_
    simp only [Options.effects] at hx
    cases hr : p'.role <;> simp [hr] at hx ⊢

section Bundle

variable (hone : ∀ l ∈ linters, OneLetter l) (hc : build linters = .ok c)

include hone hc

theorem Command.Valueless.isWord (h : c.Valueless char) : Text.isWord char = true := by
  obtain ⟨p, hp, hs⟩ := h.shown
  have hmem : short char ∈ c.strings :=
    (strings_parameters_sublist c).subset (List.mem_flatMap.mpr ⟨p, hp, hs⟩)
  rcases shaped_of_mem_strings hone hc _ hmem with
    ⟨rest, he⟩ | ⟨char', he, hword⟩ | ⟨start, rest, he⟩
  · simp only [short, String.toList_ofList, List.cons.injEq] at he
    exact absurd he.2.1 h.dash
  · have hchars := congrArg String.toList he
    simp only [short, String.toList_ofList, List.cons.injEq, and_true, true_and] at hchars
    exact hchars ▸ hword
  · -- A slash with a dash behind it, and no more than two characters: the slash would be the dash.
    simp only [short, String.toList_ofList] at he
    cases start with
    | nil => simp at he
    | cons first start =>
      have hlength := congrArg List.length he
      simp at hlength
      omega

variable (ho : Options.ofParameters c.parameters = .ok o)

include ho

theorem find?_long_bundle (hword : ∀ char ∈ cs, Text.isWord char = true) (hcs : cs ≠ []) :
    o.long.find? (bundle cs) = none := by
  have hdash : Text.isWord '-' = false := by decide
  have hslash : Text.isWord '/' = false := by decide
  have hrecords := Options.records_of_ofParameters ho
  obtain ⟨first, rest, rfl⟩ := List.exists_cons_of_ne_nil hcs
  rw [hrecords.long, Bindings.find?_ofList_eq_none_iff]
  intro hm
  obtain ⟨x, hx, hbundle⟩ := List.mem_map.mp hm
  obtain ⟨hx, hlong⟩ := List.mem_filter.mp hx
  have hmem : bundle (first :: rest) ∈ c.strings := by
    rw [← hbundle]
    refine (strings_parameters_sublist c).subset ?_
    rw [← (regular_of_build hc).map_fst_effects]
    exact List.mem_map.mpr ⟨x, hx, rfl⟩
  have htext : (bundle (first :: rest)).toList = '-' :: first :: rest := String.toList_ofList
  rcases shaped_of_mem_strings hone hc _ hmem with
    ⟨rest', he⟩ | ⟨char, he, hchar⟩ | ⟨start, rest', he⟩
  · rw [htext, List.cons.injEq, List.cons.injEq] at he
    have hfirst := hword first List.mem_cons_self
    simp [he.2.1, hdash] at hfirst
  · have hne : char ≠ '-' := fun hc => by simp [hc, hdash] at hchar
    simp [hbundle, he, isShort_short hne] at hlong
  · have hm : '/' ∈ '-' :: first :: rest := by rw [← htext, he]; simp
    rcases List.mem_cons.mp hm with hm | hm
    · cases hm
    · simpa [hslash] using hword _ hm

/-- A bundle is read as its flags one by one. -/
theorem Reading.read_bundle (hall : ∀ char ∈ cs, c.Valueless char) (hcs : cs ≠ [])
    (hq : q.expecting = .any) :
    q.read o (bundle cs) = (cs.map short).foldlM (Reading.read o) q := by
  have hrecords := Options.records_of_ofParameters ho
  have hword : ∀ char ∈ cs, Text.isWord char = true := fun char hm => (hall char hm).isWord hone hc
  have hequals : '=' ∉ cs := fun hm => by
    have hne : Text.isWord '=' = false := by decide
    simpa [hne] using hword _ hm
  have hcluster : q.cluster o '-' cs = (cs.map short).foldlM (Reading.read o) q := by
    clear hcs
    induction cs generalizing q with
    | nil => rfl
    | cons char cs ih =>
      obtain ⟨hchar, hall⟩ := List.forall_mem_cons.mp hall
      obtain ⟨e, hlookup, hnone⟩ := hchar.lookup hc ho
      have hread := read_short hrecords hlookup hchar.dash (fun he => hequals (by simp [he])) hq
      have hperform : q.obey (short char) e = q.perform e ∧ (q.perform e).expecting = .any := by
        cases e with
        | take name => exact absurd rfl (hnone name)
        | _ => exact ⟨rfl, hq⟩
      have hstep : q.cluster o '-' (char :: cs) = (q.perform e).cluster o '-' cs := by
        have hoption : String.ofList ['-', char] = short char := rfl
        rw [cluster, hoption, hlookup]
        cases e with
        | take name => exact absurd rfl (hnone name)
        | _ => rfl
      rw [hstep, List.map_cons, List.foldlM_cons, hread, hperform.1]
      exact ih hall hperform.2 (fun char hm => hword char (List.mem_cons_of_mem _ hm))
        fun hm => hequals (List.mem_cons_of_mem _ hm)
  obtain ⟨first, rest, rfl⟩ := List.exists_cons_of_ne_nil hcs
  obtain ⟨hfirst, -⟩ := List.forall_mem_cons.mp hall
  obtain ⟨e, hlookup, -⟩ := hfirst.lookup hc ho
  rw [← hcluster]
  exact read_bundle_eq_cluster hrecords hlookup hfirst.dash hequals
    (find?_long_bundle hone hc ho hword hcs) hq

/-- Writing flags that take no value in a bundle, instead of one by one in the same place, changes
nothing about what arguments ask for or why they are refused. -/
theorem parse_bundle (hall : ∀ char ∈ cs, c.Valueless char) (hcs : cs ≠ [])
    (hbefore : o.AtOption before) (after : List String) :
    parse c o (before ++ bundle cs :: after) = parse c o (before ++ cs.map short ++ after) := by
  have hread : (before ++ bundle cs :: after).foldlM (Reading.read o) .start =
      (before ++ cs.map short ++ after).foldlM (Reading.read o) .start := by
    rw [List.foldlM_append, List.append_assoc, List.foldlM_append]
    cases hb : before.foldlM (Reading.read o) .start with
    | error e => rfl
    | ok q =>
      change List.foldlM (Reading.read o) q _ = List.foldlM (Reading.read o) q _
      rw [List.foldlM_cons, Reading.read_bundle hone hc ho hall hcs (hbefore q hb),
        List.foldlM_append]
  rw [parse, parse, hread]

end Bundle

end LintDispatch.CommandLine
