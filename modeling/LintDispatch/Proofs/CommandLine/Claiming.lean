import Mathlib.Data.List.Nodup
import LintDispatch.Proofs.CommandLine.Declaring

/-! Which option strings there are. Linters take flags one after the other, each only what is still
free, so no two of them take the same; but the registry does not know that the settings have the
negations of their flags, nor that a short flag may begin with a dash of its own. -/

namespace LintDispatch.CommandLine

variable {r : Registry} {l : Linter} {linters : List Linter} {i : Nat} {n : String}

namespace Registry

def longsOf (r : Registry) (l : Linter) : List String :=
  if r.isFreeLong (Linter.flagName l.optionName) then [Linter.flagName l.optionName] else []

def shortsOf (r : Registry) (l : Linter) : List String :=
  if r.isFreeShort l.abbreviation then [l.abbreviation] else []

def pair (name : String) : List String := [name, negated name]

def pairsOf (r : Registry) (l : Linter) : List String :=
  (r.longsOf l).flatMap pair

/-- What linters take one after the other, each of them its `own` of what is still free. -/
def taken (own : Registry → Linter → List String) (r : Registry) : List Linter → List String
  | [] => []
  | l :: rest => own r l ++ taken own (claim r l) rest

def takenLongs (r : Registry) (linters : List Linter) : List String :=
  r.taken pairsOf linters

def takenShorts (r : Registry) (linters : List Linter) : List String :=
  r.taken shortsOf linters

def onOf (r : Registry) (l : Linter) : List String :=
  (r.longsOf l).map ("--" ++ ·) ++ (r.shortsOf l).map ("-" ++ ·)

def offOf (r : Registry) (l : Linter) : List String :=
  (r.longsOf l).map fun name => "--" ++ negated name

theorem isFreeLong_iff : r.isFreeLong n = true ↔ n ≠ "" ∧ n ∉ r.longs ∧ negated n ∉ r.longs := by
  simp [isFreeLong, and_assoc]

theorem isFreeShort_iff : r.isFreeShort n = true ↔ n ≠ "" ∧ n ∉ r.shorts := by
  simp [isFreeShort]

theorem longsOf_cases (r : Registry) (l : Linter) : r.longsOf l = [] ∨
    r.longsOf l = [Linter.flagName l.optionName] ∧ Linter.flagName l.optionName ≠ "" ∧
      Linter.flagName l.optionName ∉ r.longs ∧ negated (Linter.flagName l.optionName) ∉ r.longs := by
  rw [longsOf]
  split
  · exact .inr ⟨rfl, isFreeLong_iff.mp ‹_›⟩
  · exact .inl rfl

theorem shortsOf_cases (r : Registry) (l : Linter) : r.shortsOf l = [] ∨
    r.shortsOf l = [l.abbreviation] ∧ l.abbreviation ≠ "" ∧ l.abbreviation ∉ r.shorts := by
  rw [shortsOf]
  split
  · exact .inr ⟨rfl, isFreeShort_iff.mp ‹_›⟩
  · exact .inl rfl

theorem longs_claim (r : Registry) (l : Linter) :
    (claim r l).longs = r.pairsOf l ++ r.longs := by
  have hshort : ∀ (r : Registry) name, (r.claimShort name).longs = r.longs := by
    intro r name
    rw [claimShort]
    split <;> rfl
  rw [claim, hshort, claimLong, pairsOf, longsOf]
  split <;> rfl

theorem shorts_claim (r : Registry) (l : Linter) :
    (claim r l).shorts = r.shortsOf l ++ r.shorts := by
  have hlong : ∀ name, (r.claimLong name).shorts = r.shorts := by
    intro name
    rw [claimLong]
    split <;> rfl
  have hfree : (r.claimLong (Linter.flagName l.optionName)).isFreeShort l.abbreviation =
      r.isFreeShort l.abbreviation := by
    rw [isFreeShort, hlong, isFreeShort]
  rw [claim, claimShort, hfree, shortsOf]
  split <;> simp [hlong]

theorem nodup_pair (name : String) : (pair name).Nodup := by
  have hne : name ≠ negated name := by
    intro h
    have hh := congrArg String.length h
    simp [negated] at hh
  simpa [pair] using hne

/-- What linters take differs from what was taken before, and from one linter to the next, if that
is so of what each of them takes and nothing else is taken. -/
theorem nodup_taken {own : Registry → Linter → List String} {held : Registry → List String}
    (hclaim : ∀ r l, held (claim r l) = own r l ++ held r)
    (hown : ∀ r l, (own r l).Nodup ∧ ∀ n ∈ own r l, n ∉ held r) (r : Registry)
    (linters : List Linter) :
    (r.taken own linters).Nodup ∧ ∀ n ∈ r.taken own linters, n ∉ held r := by
  induction linters generalizing r with
  | nil => simp [taken]
  | cons l rest ih =>
    obtain ⟨hnodup, hfresh⟩ := ih (claim r l)
    obtain ⟨hfirst, hfree⟩ := hown r l
    simp only [hclaim, List.mem_append, not_or] at hfresh
    rw [taken]
    constructor
    · refine List.nodup_append.mpr ⟨hfirst, hnodup, fun n hn m hm he => ?_⟩
      subst he
      exact (hfresh n hm).1 hn
    · intro n hn
      rcases List.mem_append.mp hn with hn | hn
      · exact hfree n hn
      · exact (hfresh n hn).2

theorem nodup_takenLongs (r : Registry) (linters : List Linter) :
    (r.takenLongs linters).Nodup ∧ ∀ n ∈ r.takenLongs linters, n ∉ r.longs := by
  refine nodup_taken longs_claim (fun r l => ?_) r linters
  rcases r.longsOf_cases l with he | ⟨he, -, hn, hneg⟩
  · simp [pairsOf, he]
  · simpa [pairsOf, he, pair, hn, hneg] using nodup_pair (Linter.flagName l.optionName)

theorem nodup_takenShorts (r : Registry) (linters : List Linter) :
    (r.takenShorts linters).Nodup ∧ ∀ s ∈ r.takenShorts linters, s ∉ r.shorts := by
  refine nodup_taken shorts_claim (fun r l => ?_) r linters
  rcases r.shortsOf_cases l with he | ⟨he, -, hs⟩
  · simp [he]
  · simp [he, hs]

theorem of_mem_taken {own : Registry → Linter → List String} (h : n ∈ r.taken own linters) :
    ∃ r' : Registry, ∃ l ∈ linters, n ∈ own r' l := by
  induction linters generalizing r with
  | nil => cases h
  | cons l rest ih =>
    rcases List.mem_append.mp h with h | h
    · exact ⟨r, l, List.mem_cons_self, h⟩
    · obtain ⟨r', l', hl, hn⟩ := ih h
      exact ⟨r', l', List.mem_cons_of_mem l hl, hn⟩

theorem of_mem_takenLongs (h : n ∈ r.takenLongs linters) :
    ∃ l ∈ linters, Linter.flagName l.optionName ≠ "" ∧
      (n = Linter.flagName l.optionName ∨ n = negated (Linter.flagName l.optionName)) := by
  obtain ⟨r', l, hl, hn⟩ := of_mem_taken h
  rcases r'.longsOf_cases l with he | ⟨he, hne, -⟩
  · simp [pairsOf, he] at hn
  · exact ⟨l, hl, hne, by simpa [pairsOf, he, pair] using hn⟩

theorem of_mem_takenShorts (h : n ∈ r.takenShorts linters) :
    ∃ l ∈ linters, n = l.abbreviation ∧ n ≠ "" := by
  obtain ⟨r', l, hl, hn⟩ := of_mem_taken h
  rcases r'.shortsOf_cases l with he | ⟨he, hne, -⟩
  · simp [he] at hn
  · rw [he, List.mem_singleton] at hn
    exact ⟨l, hl, hn, hn ▸ hne⟩

end Registry

open Registry (negated)

def toggleOf (r : Registry) (i : Nat) (l : Linter) : Parameter :=
  ⟨toggleName i, .toggle, r.onOf l, r.offOf l, toggleHelp l⟩

/-- The toggles of linters whose flags need no cutting, counted from `i`. -/
def togglesOf (r : Registry) (i : Nat) : List Linter → List (Parameter × Target)
  | [] => []
  | l :: rest =>
    (if r.onOf l = [] then [] else [(toggleOf r i l, Target.linter l.optionName i)])
      ++ togglesOf (claim r l) (i + 1) rest

/-- Each linter's toggle has the flags that the linters before it have left. -/
theorem mem_togglesOf_iff {k : Nat} {t : Target} : (p, t) ∈ togglesOf r k linters ↔
    ∃ i l, linters[i]? = some l ∧ (r.after (linters.take i)).onOf l ≠ [] ∧
      p = toggleOf (r.after (linters.take i)) (k + i) l ∧ t = .linter l.optionName (k + i) := by
  induction linters generalizing r k with
  | nil => simp [togglesOf]
  | cons l rest ih =>
    rw [togglesOf, List.mem_append, ih]
    constructor
    · rintro (hm | ⟨i, l', hl, hon, hp, ht⟩)
      · split at hm
        · cases hm
        · rename_i hon
          obtain ⟨hp, ht⟩ := Prod.mk.inj (List.mem_singleton.mp hm)
          exact ⟨0, l, rfl, hon, hp, ht⟩
      · have hk : k + 1 + i = k + (i + 1) := by omega
        exact ⟨i + 1, l', hl, hon, hk ▸ hp, hk ▸ ht⟩
    · rintro ⟨i, l', hl, hon, rfl, rfl⟩
      cases i with
      | zero =>
        cases hl
        change r.onOf l ≠ [] at hon
        left
        rw [if_neg hon]
        exact List.mem_singleton.mpr rfl
      | succ i =>
        have hk : k + (i + 1) = k + 1 + i := by omega
        exact .inr ⟨i, l', hl, hon, by rw [hk]; rfl, by rw [hk]⟩

theorem declare_pair (h : '/' ∉ (Linter.flagName n).toList) :
    declare (pairDeclaration (Linter.flagName n)) =
      .ok ⟨["--" ++ Linter.flagName n], ["--" ++ negated (Linter.flagName n)]⟩ := by
  let name := Linter.flagName n
  have hd : (pairDeclaration name).toList =
      '-' :: ('-' :: name.toList) ++ '/' :: ("--no-".toList ++ name.toList) := by
    simp [pairDeclaration, negated]
  have hright : Text.trimRight ('-' :: '-' :: name.toList) = '-' :: '-' :: name.toList := by
    rw [Text.trimRight_cons (by decide), Text.trimRight_cons (by decide),
      Text.trimRight_of_getLast (Linter.getLast?_flagName n)]
  have hleft : Text.trimLeft ("--no-".toList ++ name.toList) = "--no-".toList ++ name.toList :=
    Text.trimLeft_cons (by decide)
  have hdiff : '-' :: '-' :: name.toList ≠ "--no-".toList ++ name.toList := by
    intro he
    have hlength := congrArg List.length he
    simp at hlength
  rw [declare_of_slash hd (by simpa [name] using h), hright, hleft, if_neg hdiff]
  simp [nonEmpty, ← String.toList_inj, negated, name]

theorem declare_short {name : String} (h : '/' ∉ name.toList) :
    declare ("-" ++ name) = .ok ⟨["-" ++ name], []⟩ :=
  declare_of_no_slash (by simp) (by simpa using h)

theorem declareAll_toggleDeclarations (h : Slashless l) :
    declareAll (toggleDeclarations r l) = .ok ⟨r.onOf l, r.offOf l⟩ := by
  have hlong := declare_pair h.1
  have hshort := declare_short h.2
  have hnil : declareAll [] = .ok ⟨[], []⟩ := rfl
  simp only [toggleDeclarations, Registry.onOf, Registry.offOf, Registry.longsOf, Registry.shortsOf]
  split <;> split <;>
    simp [declareAll_cons, hlong, hshort, hnil, Except.bind, Except.map]

theorem togglesFrom_of_slashless (h : ∀ l ∈ linters, Slashless l) :
    togglesFrom r i linters = .ok (togglesOf r i linters) := by
  induction linters generalizing r i with
  | nil => rfl
  | cons l rest ih =>
    obtain ⟨hl, hrest⟩ := List.forall_mem_cons.mp h
    have hnone : toggleDeclarations r l = [] ↔ r.onOf l = [] := by
      simp only [toggleDeclarations, Registry.onOf, Registry.longsOf, Registry.shortsOf]
      split <;> split <;> simp
    have htoggle : toggle? r i l = .ok (if r.onOf l = [] then none else some (toggleOf r i l)) := by
      have hd := declareAll_toggleDeclarations (r := r) hl
      rw [toggle?]
      split
      · rename_i he
        rw [if_pos (hnone.mp he)]
      · rename_i he
        simp only [if_neg fun hon => he (hnone.mpr hon), hd, Except.map, toggleOf]
    simp only [togglesFrom, htoggle, ih hrest, togglesOf, Except.map]
    by_cases hon : r.onOf l = [] <;> simp [hon]

def commandOf (linters : List Linter) : Command where
  toggles := (togglesOf .builtIn 0 linters).map Prod.fst
  settings := settingParameters
  targets := (togglesOf .builtIn 0 linters).map (fun t => (t.1.name, t.2)) ++ settingTargets

theorem build_of_slashless (h : ∀ l ∈ linters, Slashless l) :
    build linters = .ok (commandOf linters) := by
  simp only [build, togglesFrom_of_slashless h, Except.map, commandOf]

theorem strings_toggleOf (h : r.onOf l = []) : (toggleOf r i l).strings = [] := by
  have hlongs : r.longsOf l = [] := by
    simp only [Registry.onOf, List.append_eq_nil_iff, List.map_eq_nil_iff] at h
    exact h.1
  simp [Parameter.strings, toggleOf, h, Registry.offOf, hlongs]

theorem strings_toggleOf_perm (r : Registry) (i : Nat) (l : Linter) :
    (toggleOf r i l).strings.Perm
      ((r.pairsOf l).map ("--" ++ ·) ++ (r.shortsOf l).map ("-" ++ ·)) := by
  simp only [Parameter.strings, toggleOf, Registry.onOf, Registry.offOf, Registry.pairsOf]
  rcases r.longsOf_cases l with he | ⟨he, -⟩
  · simp [he]
  · rw [he]
    exact (List.perm_append_comm).cons _

/-- The option strings of toggles are the flags that were taken, with their dashes. -/
theorem strings_togglesOf_perm (r : Registry) (i : Nat) (linters : List Linter) :
    ((togglesOf r i linters).flatMap fun t => t.1.strings).Perm
      ((r.takenLongs linters).map ("--" ++ ·) ++ (r.takenShorts linters).map ("-" ++ ·)) := by
  induction linters generalizing r i with
  | nil => exact .nil
  | cons l rest ih =>
    have hhead : ((if r.onOf l = [] then [] else [(toggleOf r i l, Target.linter l.optionName i)]).flatMap
        fun t => t.1.strings) = (toggleOf r i l).strings := by
      split
      · rename_i he
        simp [strings_toggleOf he]
      · simp
    have hboth := (strings_toggleOf_perm r i l).append (ih (claim r l) (i + 1))
    rw [togglesOf, List.flatMap_append, hhead]
    refine hboth.trans ?_
    simp only [List.perm_iff_count, Registry.takenLongs, Registry.takenShorts, Registry.taken,
      List.map_append, List.count_append]
    intro s
    omega

def settingNegations : List String :=
  (settingOptions.filter fun o => !o.takesValue).map fun o => negated o.long

theorem strings_builtIn_perm :
    ((settingParameters ++ [versionParameter]).flatMap Parameter.strings ++ helpStrings).Perm
      ((Registry.builtIn.longs ++ settingNegations).map ("--" ++ ·)
        ++ Registry.builtIn.shorts.map ("-" ++ ·)) := by
  decide +kernel

def allLongs (linters : List Linter) : List String :=
  Registry.builtIn.takenLongs linters ++ (Registry.builtIn.longs ++ settingNegations)

def allShorts (linters : List Linter) : List String :=
  Registry.builtIn.takenShorts linters ++ Registry.builtIn.shorts

theorem strings_perm (linters : List Linter) : (commandOf linters).strings.Perm
    ((allLongs linters).map ("--" ++ ·) ++ (allShorts linters).map ("-" ++ ·)) := by
  have hboth := (strings_togglesOf_perm .builtIn 0 linters).append strings_builtIn_perm
  have hstrings : (commandOf linters).strings =
      ((togglesOf .builtIn 0 linters).flatMap fun t => t.1.strings) ++
        ((settingParameters ++ [versionParameter]).flatMap Parameter.strings ++ helpStrings) := by
    simp [commandOf, Command.strings, Command.valued, List.flatMap_map]
  rw [hstrings]
  refine hboth.trans ?_
  simp only [List.perm_iff_count, allLongs, allShorts, List.map_append, List.count_append]
  intro s
  omega

/-- What keeps option strings apart: no linter takes the negation of a setting's flag for a flag of
its own, and no short flag is a long one less a dash. -/
structure KeepClear (linters : List Linter) : Prop where
  longs : ∀ n ∈ Registry.builtIn.takenLongs linters, n ∉ settingNegations
  shorts : ∀ s ∈ Registry.builtIn.takenShorts linters, ∀ n ∈ allLongs linters, s ≠ "-" ++ n

theorem nodup_allLongs_iff : (allLongs linters).Nodup ↔
    ∀ n ∈ Registry.builtIn.takenLongs linters, n ∉ settingNegations := by
  obtain ⟨hnodup, hfresh⟩ := Registry.builtIn.nodup_takenLongs linters
  have hbuiltIn : (Registry.builtIn.longs ++ settingNegations).Nodup := by decide
  simp only [allLongs, List.nodup_append, hnodup, true_and]
  constructor
  · rintro ⟨-, h⟩ n hn hneg
    exact h n hn n (List.mem_append_right _ hneg) rfl
  · refine fun h => ⟨List.nodup_append.mp hbuiltIn, fun n hn m hm he => ?_⟩
    subst he
    rcases List.mem_append.mp hm with hm | hm
    · exact hfresh n hn hm
    · exact h n hn hm

theorem nodup_allShorts (linters : List Linter) : (allShorts linters).Nodup := by
  obtain ⟨hnodup, hfresh⟩ := Registry.builtIn.nodup_takenShorts linters
  have hbuiltIn : Registry.builtIn.shorts.Nodup := by decide
  refine List.nodup_append.mpr ⟨hnodup, hbuiltIn, fun s hs t ht he => ?_⟩
  subst he
  exact hfresh s hs ht

theorem dashes_eq_iff {s : String} : "--" ++ n = "-" ++ s ↔ s = "-" ++ n := by
  have h : "--" ++ n = "-" ++ ("-" ++ n) := by simp [← String.toList_inj]
  rw [h, String.append_right_inj, eq_comm]

/-- A command whose linters need no slash in their flags has each of its option strings once, the
requests for help among them, exactly if its linters keep clear of the settings' negations and of
long flags in short ones. -/
theorem strings_nodup_iff (h : ∀ l ∈ linters, Slashless l) :
    ∃ c, build linters = .ok c ∧ (c.strings.Nodup ↔ KeepClear linters) := by
  refine ⟨commandOf linters, build_of_slashless h, ?_⟩
  have hinj : ∀ before : String, Function.Injective (before ++ ·) := fun before s t he =>
    String.append_right_inj before |>.mp he
  have hbuiltIn : ∀ s ∈ Registry.builtIn.shorts, s.toList.head? ≠ some '-' := by decide
  rw [(strings_perm linters).nodup_iff, List.nodup_append, List.nodup_map_iff (hinj _),
    List.nodup_map_iff (hinj _), nodup_allLongs_iff]
  have happart : (∀ s ∈ (allLongs linters).map ("--" ++ ·), ∀ t ∈ (allShorts linters).map ("-" ++ ·),
      s ≠ t) ↔ ∀ s ∈ Registry.builtIn.takenShorts linters, ∀ n ∈ allLongs linters, s ≠ "-" ++ n := by
    rw [List.forall_mem_map]
    simp only [List.forall_mem_map, ne_eq, dashes_eq_iff]
    constructor
    · exact fun h s hs n hn => h n hn s (List.mem_append_left _ hs)
    · intro h n hn s hs he
      rcases List.mem_append.mp hs with hs | hs
      · exact h s hs n hn he
      · exact hbuiltIn s hs (by simp [he])
  rw [happart]
  exact ⟨fun ⟨hl, _, hs⟩ => ⟨hl, hs⟩, fun ⟨hl, hs⟩ => ⟨hl, nodup_allShorts linters, hs⟩⟩

/-- Three linters that all want the same long flag, the first and the last of them also a short flag
of a setting. -/
def crowd : List Linter :=
  [.configured "Reek" "reek" [".rb"] none none none,
    .configured "Lint" "lint-a" [".rb"] none (some "reek") (some "x"),
    .configured "Lister" "lister" [".rb"] none (some "reek") none]

theorem strings_nodup_crowd :
    (∀ l ∈ crowd, Slashless l) ∧ ∃ c, build crowd = .ok c ∧ c.strings.Nodup := by
  have h : ∀ l ∈ crowd, Slashless l := by decide +kernel
  obtain ⟨c, hc, hiff⟩ := strings_nodup_iff h
  exact ⟨h, c, hc, hiff.mpr ⟨by decide +kernel, by decide +kernel⟩⟩

/-- A linter called as the negation of a setting's flag shares that flag with the setting. -/
theorem negation_shared :
    ∃ c, build [.configured "Quiet" "quiet" [".rb"] none (some "no-debug") none] = .ok c ∧
      (∃ p ∈ c.toggles, "--no-debug" ∈ p.on) ∧ (∃ p ∈ c.settings, "--no-debug" ∈ p.off) ∧
      ¬ c.strings.Nodup := by
  have h : (build [.configured "Quiet" "quiet" [".rb"] none (some "no-debug") none]).toOption.any
      (fun c => decide ((∃ p ∈ c.toggles, "--no-debug" ∈ p.on) ∧
        (∃ p ∈ c.settings, "--no-debug" ∈ p.off) ∧ ¬ c.strings.Nodup)) = true := by
    decide +kernel
  obtain ⟨c, hc, hshared⟩ := Outcome.exists_of_any h
  exact ⟨c, hc, of_decide_eq_true hshared⟩

end LintDispatch.CommandLine
