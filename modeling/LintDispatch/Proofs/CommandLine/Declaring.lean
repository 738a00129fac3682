import LintDispatch.Proofs.CommandLine.Overriding

/-! Which flags can be declared. A slash inside a flag splits its declaration, and then what stands
behind the slash has to begin an option string by itself. A command can be built and its options
registered exactly if that is so of every flag that a linter gets. -/

namespace LintDispatch.CommandLine

variable {r : Registry} {l : Linter} {linters : List Linter} {ds : List String} {p : Parameter}
  {c : Command}

/-- A declaration that can be read, and that gives option strings. -/
def Usable (declaration : String) : Prop :=
  ∃ d, declare declaration = .ok d ∧ ∀ option ∈ d.on ++ d.off, leader option ≠ []

/-- What stands behind the first slash, if there is one, begins with neither a letter nor a digit. -/
def LongDeclarable (name : String) : Prop :=
  ∀ before behind, cutAt? '/' name.toList = some (before, behind) →
    ∀ c ∈ (Text.trimLeft behind).head?, Text.isAlphanumeric c = false

/-- The same of a short flag, which must also not repeat itself, dash and all, behind the slash. -/
def ShortDeclarable (name : String) : Prop :=
  ∀ before behind, cutAt? '/' name.toList = some (before, behind) →
    Text.trimRight ('-' :: before) ≠ Text.trimLeft behind ∧
      ∀ c ∈ (Text.trimLeft behind).head?, Text.isAlphanumeric c = false

namespace Registry

/-- What is taken once these linters have got their flags. -/
def after (r : Registry) (linters : List Linter) : Registry :=
  linters.foldl claim r

/-- Those flags of the linter that are free can be declared. -/
structure Accepts (r : Registry) (l : Linter) : Prop where
  long : r.isFreeLong (Linter.flagName l.optionName) = true →
    LongDeclarable (Linter.flagName l.optionName)
  short : r.isFreeShort l.abbreviation = true → ShortDeclarable l.abbreviation

end Registry

theorem declare_of_no_slash {d : String} (hd : d.toList.head? ≠ some '/') (h : '/' ∉ d.toList) :
    declare d = .ok ⟨[d], []⟩ := by
  simp [declare, hd, cutAt?_eq_none_iff.mpr h]

theorem declare_of_slash {d : String} {before behind : List Char}
    (hd : d.toList = '-' :: before ++ '/' :: behind) (h : '/' ∉ before) :
    declare d =
      if Text.trimRight ('-' :: before) = Text.trimLeft behind then .error (.sameString d)
      else .ok ⟨[String.ofList (Text.trimRight ('-' :: before))],
        nonEmpty (Text.trimLeft behind)⟩ := by
  have hcut : cutAt? '/' d.toList = some ('-' :: before, behind) :=
    cutAt?_eq_some_iff.mpr ⟨hd, by simpa using h⟩
  have hhead : d.toList.head? ≠ some '/' := by simp [hd]
  have hne : Text.trimRight ('-' :: before) ≠ [] := by
    rw [Text.trimRight_cons (by decide)]
    exact List.cons_ne_nil _ _
  simp [declare, hhead, hcut, nonEmpty, hne]

theorem leader_dashed (s : List Char) : leader (String.ofList ('-' :: s)) ≠ [] :=
  leader_ne_nil_iff.mpr ⟨'-', by simp, by decide⟩

theorem leader_nonEmpty_iff {s : List Char} :
    (∀ option ∈ nonEmpty s, leader option ≠ []) ↔
      ∀ c ∈ s.head?, Text.isAlphanumeric c = false := by
  cases s with
  | nil => simp [nonEmpty]
  | cons c s => simp [nonEmpty, leader_ne_nil_iff]

theorem usable_dashed_iff {name : String} : Usable ("-" ++ name) ↔ ShortDeclarable name := by
  have htext : ("-" ++ name).toList = '-' :: name.toList := by simp
  simp only [Usable, ShortDeclarable]
  cases hcut : cutAt? '/' name.toList with
  | none =>
    have hd := declare_of_no_slash (d := "-" ++ name) (by simp [htext])
      (by simpa [htext] using cutAt?_eq_none_iff.mp hcut)
    refine iff_of_true ⟨_, hd, ?_⟩ (by simp)
    simp [leader_ne_nil_iff, htext, show Text.isAlphanumeric '-' = false by decide]
  | some halves =>
    obtain ⟨before, behind⟩ := halves
    obtain ⟨hname, hb⟩ := cutAt?_eq_some_iff.mp hcut
    have hd := declare_of_slash (d := "-" ++ name) (by rw [htext, hname]; rfl) hb
    have hfirst : leader (String.ofList (Text.trimRight ('-' :: before))) ≠ [] := by
      rw [Text.trimRight_cons (by decide)]
      exact leader_dashed _
    rw [hd]
    split
    · rename_i hsame
      simp [hsame]
    · rename_i hdiff
      constructor
      · rintro ⟨d, hok, hlead⟩ _ _ hhalves
        cases hok
        cases hhalves
        exact ⟨hdiff, leader_nonEmpty_iff.mp fun option hm => hlead _ (List.mem_cons_of_mem _ hm)⟩
      · intro h
        refine ⟨_, rfl, List.forall_mem_cons.mpr ⟨hfirst, ?_⟩⟩
        exact leader_nonEmpty_iff.mpr (h before behind rfl).2

theorem head?_trimLeft_slash (s t : List Char) :
    (∀ c ∈ (Text.trimLeft (s ++ '/' :: t)).head?, Text.isAlphanumeric c = false) ↔
      ∀ c ∈ (Text.trimLeft s).head?, Text.isAlphanumeric c = false := by
  have hslash : Text.trimLeft ('/' :: t) = '/' :: t := Text.trimLeft_cons (by decide)
  rw [Text.trimLeft, List.dropWhile_append]
  cases hs : Text.trimLeft s with
  | nil =>
    rw [Text.trimLeft] at hs hslash
    simp [hs, hslash, show Text.isAlphanumeric '/' = false by decide]
  | cons c s' =>
    rw [Text.trimLeft] at hs
    simp [hs]

/-- Where a long flag is cut, there its declaration is cut; and the two halves differ, because the
second has another slash in it or is longer. -/
theorem usable_pair_iff {name : String} : Usable (pairDeclaration name) ↔ LongDeclarable name := by
  let second := "--no-".toList ++ name.toList
  have hpair : pairDeclaration name = "-" ++ ("-" ++ name ++ "/--" ++ Registry.negated name) := by
    simp [pairDeclaration, ← String.toList_inj]
  have htext : ("-" ++ name ++ "/--" ++ Registry.negated name).toList =
      '-' :: name.toList ++ '/' :: second := by
    simp [Registry.negated, second]
  rw [hpair, usable_dashed_iff, ShortDeclarable, LongDeclarable, htext]
  cases hcut : cutAt? '/' name.toList with
  | none =>
    have hn := cutAt?_eq_none_iff.mp hcut
    refine iff_of_true (fun before behind h => ?_) (by simp)
    obtain ⟨rfl, rfl⟩ : before = '-' :: name.toList ∧ behind = second := by
      rw [cutAt?_eq_some_iff.mpr ⟨rfl, by simpa using hn⟩] at h
      cases h
      exact ⟨rfl, rfl⟩
    have hsecond : Text.trimLeft second = second := Text.trimLeft_cons (by decide)
    rw [hsecond]
    refine ⟨fun he => ?_, by simp [second, show Text.isAlphanumeric '-' = false by decide]⟩
    have hlong := (Text.trimRight_prefix ('-' :: '-' :: name.toList)).length_le
    rw [he] at hlong
    simp [second] at hlong
    omega
  | some halves =>
    obtain ⟨before, behind⟩ := halves
    obtain ⟨hname, hb⟩ := cutAt?_eq_some_iff.mp hcut
    have hwhole : cutAt? '/' ('-' :: name.toList ++ '/' :: second) =
        some ('-' :: before, behind ++ '/' :: second) :=
      cutAt?_eq_some_iff.mpr ⟨by simp [hname], by simpa using hb⟩
    have hdiff : Text.trimRight ('-' :: '-' :: before) ≠
        Text.trimLeft (behind ++ '/' :: second) := by
      intro he
      have hslash : '/' ∈ Text.trimLeft (behind ++ '/' :: second) :=
        Text.mem_trimLeft (by simp) (by decide)
      rw [← he] at hslash
      simpa [hb] using (Text.trimRight_prefix _).subset hslash
    rw [hwhole]
    constructor
    · intro h _ _ hhalves
      cases hhalves
      exact (head?_trimLeft_slash _ _).mp (h _ _ rfl).2
    · intro h _ _ hhalves
      cases hhalves
      exact ⟨hdiff, (head?_trimLeft_slash _ _).mpr (h before behind rfl)⟩

theorem usable_toggleDeclarations_iff : (∀ d ∈ toggleDeclarations r l, Usable d) ↔ r.Accepts l := by
  constructor
  · intro h
    constructor
    · intro hfree
      exact usable_pair_iff.mp (h _ (by simp [toggleDeclarations, hfree]))
    · intro hfree
      exact usable_dashed_iff.mp (h _ (by simp [toggleDeclarations, hfree]))
  · rintro ⟨hlong, hshort⟩ d hd
    rcases List.mem_append.mp hd with hd | hd
    · split at hd
      · rename_i hfree
        rw [List.mem_singleton.mp hd]
        exact usable_pair_iff.mpr (hlong hfree)
      · cases hd
    · split at hd
      · rename_i hfree
        rw [List.mem_singleton.mp hd]
        exact usable_dashed_iff.mpr (hshort hfree)
      · cases hd

theorem declareAll_cons (d : String) (ds : List String) : declareAll (d :: ds) =
    (declare d).bind fun x => (declareAll ds).map fun y => ⟨x.on ++ y.on, x.off ++ y.off⟩ := by
  simp only [declareAll, List.mapM_cons]
  cases declare d with
  | error e => rfl
  | ok x => cases hm : ds.mapM declare <;> simp [bind, Except.bind, pure, Except.pure, Except.map]

theorem declareAll_usable_iff :
    (∃ d, declareAll ds = .ok d ∧ ∀ option ∈ d.on ++ d.off, leader option ≠ []) ↔
      ∀ declaration ∈ ds, Usable declaration := by
  induction ds with
  | nil => exact iff_of_true ⟨⟨[], []⟩, rfl, by simp⟩ (by simp)
  | cons declaration ds ih =>
    simp only [List.forall_mem_cons, ← ih, declareAll_cons, Outcome.bind_eq_ok, Outcome.map_eq_ok]
    constructor
    · rintro ⟨_, ⟨x, hx, y, hy, rfl⟩, hlead⟩
      simp only [List.mem_append] at hlead
      exact ⟨⟨x, hx, fun s hs => hlead s (by grind)⟩, y, hy, fun s hs => hlead s (by grind)⟩
    · rintro ⟨⟨x, hx, hlead⟩, y, hy, hlead'⟩
      refine ⟨_, ⟨x, hx, y, hy, rfl⟩, fun s hs => ?_⟩
      simp only [List.mem_append] at hlead hlead' hs
      grind

theorem toggle?_usable_iff {i : Nat} :
    (∃ p?, toggle? r i l = .ok p? ∧ ∀ p ∈ p?, ∀ option ∈ p.strings, leader option ≠ []) ↔
      r.Accepts l := by
  rw [← usable_toggleDeclarations_iff, ← declareAll_usable_iff, toggle?]
  split
  · rename_i hnone
    simp [hnone, declareAll, pure, Except.pure, bind, Except.bind]
  · simp only [Outcome.map_eq_ok]
    constructor
    · rintro ⟨_, ⟨d, hd, rfl⟩, hlead⟩
      exact ⟨d, hd, hlead _ rfl⟩
    · rintro ⟨d, hd, hlead⟩
      refine ⟨_, ⟨d, hd, rfl⟩, fun p hp => ?_⟩
      cases hp
      exact hlead

/-- All linters of a list, one behind the other, are accepted by what is taken before them. -/
def Registry.AcceptsAll (r : Registry) (linters : List Linter) : Prop :=
  ∀ before l behind, linters = before ++ l :: behind → (r.after before).Accepts l

theorem Registry.acceptsAll_cons {rest : List Linter} :
    r.AcceptsAll (l :: rest) ↔ r.Accepts l ∧ (claim r l).AcceptsAll rest := by
  constructor
  · intro h
    refine ⟨h [] l rest rfl, fun before l' behind hrest => ?_⟩
    exact h (l :: before) l' behind (by rw [hrest]; rfl)
  · rintro ⟨hl, hrest⟩ before l' behind he
    cases before with
    | nil =>
      cases he
      exact hl
    | cons x before =>
      simp only [List.cons_append, List.cons.injEq] at he
      obtain ⟨rfl, he⟩ := he
      exact hrest before l' behind he

def Slashless (l : Linter) : Prop :=
  '/' ∉ (Linter.flagName l.optionName).toList ∧ '/' ∉ l.abbreviation.toList

instance (l : Linter) : Decidable (Slashless l) :=
  inferInstanceAs (Decidable (_ ∧ _))

theorem Registry.acceptsAll_of_slashless (r : Registry) (h : ∀ l ∈ linters, Slashless l) :
    r.AcceptsAll linters := by
  rintro before l behind rfl
  obtain ⟨hl, hs⟩ := h l (by simp)
  constructor
  · intro _ _ _ hcut
    rw [cutAt?_eq_none_iff.mpr hl] at hcut
    cases hcut
  · intro _ _ _ hcut
    rw [cutAt?_eq_none_iff.mpr hs] at hcut
    cases hcut

theorem togglesFrom_usable_iff {i : Nat} :
    (∃ ts, togglesFrom r i linters = .ok ts ∧
      ∀ t ∈ ts, ∀ option ∈ t.1.strings, leader option ≠ []) ↔ r.AcceptsAll linters := by
  induction linters generalizing r i with
  | nil => exact iff_of_true ⟨[], rfl, by simp⟩ (by simp [Registry.AcceptsAll])
  | cons l rest ih =>
    rw [Registry.acceptsAll_cons, ← ih (i := i + 1), ← toggle?_usable_iff (i := i),
      togglesFrom]
    cases toggle? r i l with
    | error e => simp
    | ok p? =>
      simp only [Outcome.map_eq_ok, Except.ok.injEq, exists_eq_left']
      constructor
      · rintro ⟨_, ⟨more, hm, rfl⟩, hlead⟩
        cases p? with
        | none => exact ⟨by simp, more, hm, hlead⟩
        | some p =>
          obtain ⟨hp, hrest⟩ := List.forall_mem_cons.mp hlead
          exact ⟨by simpa using hp, more, hm, hrest⟩
      · rintro ⟨hp, more, hm, hlead⟩
        refine ⟨_, ⟨more, hm, rfl⟩, ?_⟩
        cases p? with
        | none => exact hlead
        | some p => exact List.forall_mem_cons.mpr ⟨hp p rfl, hlead⟩

theorem register_isOk_iff {o : Options} {option : String} {e : Effect} :
    (∃ o', o.register option e = .ok o') ↔ leader option ≠ [] := by
  rw [Options.register]
  split
  · simp [*]
  · rename_i h
    simp only [h, ne_eq, reduceCtorEq, not_false_eq_true, iff_true]
    split <;> exact ⟨_, rfl⟩

/-- Every string of a parameter does something. -/
theorem map_fst_effects (h : p.role = .toggle ∨ p.off = []) :
    (Options.effects p).map Prod.fst = p.strings := by
  have hfst : ∀ (strings : List String) (e : Effect),
      (strings.map (·, e)).map Prod.fst = strings := by
    simp [List.map_map, Function.comp_def]
  cases hr : p.role <;> simp [Options.effects, hr, hfst, Parameter.strings] <;> simpa [hr] using h

/-- The strings of a command and the requests for help, whether these are free or not. -/
def Command.strings (c : Command) : List String :=
  (c.valued ++ [versionParameter]).flatMap Parameter.strings ++ helpStrings

theorem of_mem_helpParameter? (h : p ∈ c.helpParameter?.toList) :
    p.on.Sublist helpStrings ∧ p.off = [] := by
  simp only [Command.helpParameter?] at h
  split at h
  · cases h
  · obtain rfl := List.mem_singleton.mp h
    exact ⟨List.filter_sublist, rfl⟩

theorem strings_parameters_sublist (c : Command) :
    (c.parameters.flatMap Parameter.strings).Sublist c.strings := by
  have hhelp : (c.helpParameter?.toList.flatMap Parameter.strings).Sublist helpStrings := by
    cases hh : c.helpParameter? with
    | none => simp
    | some p =>
      obtain ⟨hon, hoff⟩ := of_mem_helpParameter? (c := c) (p := p) (by simp [hh])
      simpa [Parameter.strings, hoff] using hon
  have heq : c.parameters.flatMap Parameter.strings =
      (c.valued ++ [versionParameter]).flatMap Parameter.strings ++
        c.helpParameter?.toList.flatMap Parameter.strings := by
    simp [Command.parameters]
  rw [heq]
  exact hhelp.append_left _

namespace Command.Regular

theorem toggle_or_off (hc : c.Regular) (hp : p ∈ c.parameters) : p.role = .toggle ∨ p.off = [] := by
  have hsettings : ∀ p ∈ settingParameters, p.role = .toggle ∨ p.off = [] := by decide
  rcases List.mem_append.mp hp with hp | hp
  · rcases List.mem_append.mp hp with hp | hp
    · exact .inl (hc.toggles p hp).1
    · exact hsettings p (hc.settings ▸ hp)
  · rcases List.mem_cons.mp hp with rfl | hp
    · exact .inr rfl
    · exact .inr (of_mem_helpParameter? hp).2

theorem map_fst_effects (hc : c.Regular) :
    (c.parameters.flatMap Options.effects).map Prod.fst =
      c.parameters.flatMap Parameter.strings := by
  rw [List.map_flatMap]
  exact List.flatMap_congr fun p hp => CommandLine.map_fst_effects (hc.toggle_or_off hp)

/-- Only the flags of linters can keep the options of a command from being registered. -/
theorem ofParameters_isOk_iff (hc : c.Regular) :
    (∃ o, Options.ofParameters c.parameters = .ok o) ↔
      ∀ p ∈ c.toggles, ∀ option ∈ p.strings, leader option ≠ [] := by
  have hsettings : ∀ p ∈ settingParameters ++ [versionParameter],
      ∀ option ∈ p.strings, leader option ≠ [] := by
    decide
  have hhelp : ∀ option ∈ helpStrings, leader option ≠ [] := by decide
  have hall : (∃ o, Options.ofParameters c.parameters = .ok o) ↔
      ∀ x ∈ c.parameters.flatMap Options.effects, leader x.1 ≠ [] :=
    Outcome.foldlM_isOk_iff (P := fun x : String × Effect => leader x.1 ≠ [])
      fun _ _ => register_isOk_iff
  have hfst : (∀ x ∈ c.parameters.flatMap Options.effects, leader x.1 ≠ []) ↔
      ∀ option ∈ c.parameters.flatMap Parameter.strings, leader option ≠ [] := by
    rw [← hc.map_fst_effects, List.forall_mem_map]
  rw [hall, hfst]
  constructor
  · intro h p hp option ho
    exact h option (List.mem_flatMap.mpr ⟨p, by simp [parameters, valued, hp], ho⟩)
  · intro h option ho
    rcases List.mem_append.mp ((strings_parameters_sublist c).subset ho) with ho | ho
    · obtain ⟨p, hp, ho⟩ := List.mem_flatMap.mp ho
      rw [valued, hc.settings, List.append_assoc] at hp
      rcases List.mem_append.mp hp with hp | hp
      · exact h p hp option ho
      · exact hsettings p hp option ho
    · exact hhelp option ho

end Command.Regular

/-- A command can be built and its options registered exactly if every linter's free flags can be
declared. -/
theorem build_isOk_iff :
    (∃ c o, build linters = .ok c ∧ Options.ofParameters c.parameters = .ok o) ↔
      Registry.builtIn.AcceptsAll linters := by
  rw [← togglesFrom_usable_iff (i := 0)]
  constructor
  · rintro ⟨c, o, hc, ho⟩
    have hlead := (regular_of_build hc).ofParameters_isOk_iff.mp ⟨o, ho⟩
    obtain ⟨ts, hts, rfl⟩ := Outcome.map_eq_ok.mp hc
    exact ⟨ts, hts, fun t ht => hlead t.1 (List.mem_map_of_mem ht)⟩
  · rintro ⟨ts, hts, hlead⟩
    obtain ⟨c, hc⟩ : ∃ c, build linters = .ok c := ⟨_, Outcome.map_eq_ok.mpr ⟨ts, hts, rfl⟩⟩
    obtain ⟨ts', hts', hc'⟩ := Outcome.map_eq_ok.mp hc
    obtain rfl : ts = ts' := by
      rw [hts] at hts'
      cases hts'
      rfl
    obtain ⟨o, ho⟩ := (regular_of_build hc).ofParameters_isOk_iff.mpr (by
      subst hc'
      exact List.forall_mem_map.mpr hlead)
    exact ⟨c, o, hc, ho⟩

end LintDispatch.CommandLine
