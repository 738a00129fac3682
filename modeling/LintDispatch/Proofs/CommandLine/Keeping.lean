import LintDispatch.Proofs.CommandLine.Claiming
import LintDispatch.Proofs.CommandLine.Targeting

/-! Which flags a linter keeps. It gets its pair of long flags unless the settings, or a linter
before it that kept its own pair, already has a name that the pair would need, and its short flag
likewise; what became of the one says nothing about the other, and nothing that comes later takes a
flag away. -/

namespace LintDispatch.CommandLine

open Registry (negated builtIn)

variable {r : Registry} {l l' : Linter} {linters more : List Linter} {i k : Nat} {n : String}
  {p : Parameter} {t : Target}

def WrittenSlashless (l : Linter) : Prop :=
  '/' ∉ l.optionName.toList ∧ '/' ∉ l.abbreviation.toList

theorem WrittenSlashless.slashless (h : WrittenSlashless l) : Slashless l :=
  ⟨Linter.slash_not_mem_flagName h.1, h.2⟩

namespace Command

def KeepsPair (c : Command) (i : Nat) (name : String) : Prop :=
  ∃ p ∈ c.toggles, p.name = toggleName i ∧ p.on.head? = some ("--" ++ name) ∧
    p.off = ["--" ++ negated name]

/-- The linter in place `i` has this short flag. It stands behind the pair, if there is one. -/
def KeepsShort (c : Command) (i : Nat) (name : String) : Prop :=
  ∃ p ∈ c.toggles, p.name = toggleName i ∧ p.on.drop p.off.length = ["-" ++ name]

end Command

namespace Registry

variable {own : Registry → Linter → List String} {held : Registry → List String}

/-- What is held behind some linters was held before, or one of them has taken it of what was free
when its turn came. -/
theorem mem_held_after_iff (hclaim : ∀ r l, held (claim r l) = own r l ++ held r) :
    n ∈ held (r.after linters) ↔
      n ∈ held r ∨ ∃ j l, linters[j]? = some l ∧ n ∈ own (r.after (linters.take j)) l := by
  induction linters generalizing r with
  | nil => simp [after]
  | cons l rest ih =>
    rw [after, List.foldl_cons, ← after, ih, hclaim, List.mem_append]
    constructor
    · rintro ((hn | hn) | ⟨j, l', hl, hn⟩)
      · exact .inr ⟨0, l, rfl, hn⟩
      · exact .inl hn
      · exact .inr ⟨j + 1, l', hl, hn⟩
    · rintro (hn | ⟨j, l', hl, hn⟩)
      · exact .inl (.inr hn)
      · cases j with
        | zero =>
          cases hl
          exact .inl (.inl hn)
        | succ j => exact .inr ⟨j, l', hl, hn⟩

/-- The same of the linters before place `i`, each of them with what the whole list leaves to it. -/
theorem mem_held_after_take_iff (hclaim : ∀ r l, held (claim r l) = own r l ++ held r) (i : Nat) :
    n ∈ held (r.after (linters.take i)) ↔ n ∈ held r ∨
      ∃ j < i, ∃ l, linters[j]? = some l ∧ n ∈ own (r.after (linters.take j)) l := by
  rw [mem_held_after_iff hclaim]
  refine or_congr_right ⟨?_, ?_⟩
  · rintro ⟨j, l, hl, hn⟩
    rw [List.getElem?_take, Option.ite_none_right_eq_some] at hl
    obtain ⟨hj, hl⟩ := hl
    exact ⟨j, hj, l, hl, by rwa [List.take_take, Nat.min_eq_left hj.le] at hn⟩
  · rintro ⟨j, hj, l, hl, hn⟩
    refine ⟨j, l, by rwa [List.getElem?_take_of_lt hj], ?_⟩
    rwa [List.take_take, Nat.min_eq_left hj.le]

theorem mem_ite_singleton_iff {free : String → Bool} {own : String} :
    n ∈ (if free own then [own] else []) ↔ n = own ∧ free n = true := by
  by_cases hn : n = own
  · subst hn
    cases free n <;> simp
  · cases free own <;> simp [hn]

theorem mem_longsOf_iff : n ∈ r.longsOf l ↔ n = Linter.flagName l.optionName ∧ n ≠ "" ∧
    n ∉ r.longs ∧ negated n ∉ r.longs := by
  rw [longsOf, mem_ite_singleton_iff, isFreeLong_iff]

theorem mem_shortsOf_iff : n ∈ r.shortsOf l ↔ n = l.abbreviation ∧ n ≠ "" ∧ n ∉ r.shorts := by
  rw [shortsOf, mem_ite_singleton_iff, isFreeShort_iff]

theorem negated_inj {m : String} : negated n = negated m ↔ n = m :=
  String.append_right_inj _

theorem mem_pairsOf_iff : n ∈ r.pairsOf l ↔ ∃ u ∈ r.longsOf l, n = u ∨ n = negated u := by
  simp [pairsOf, pair]

theorem onOf_eq_nil_iff : r.onOf l = [] ↔ r.longsOf l = [] ∧ r.shortsOf l = [] := by
  simp [onOf]

end Registry

theorem pair_toggleOf_iff : (toggleOf r i l).on.head? = some ("--" ++ n) ∧
    (toggleOf r i l).off = ["--" ++ negated n] ↔ n ∈ r.longsOf l := by
  rcases r.longsOf_cases l with he | ⟨he, -⟩
  · simp [toggleOf, Registry.onOf, Registry.offOf, he]
  · simp only [toggleOf, Registry.onOf, Registry.offOf, he, List.map_cons, List.map_nil,
      List.cons_append, List.nil_append, List.head?_cons, Option.some.injEq, List.cons.injEq,
      and_true, String.append_right_inj, Registry.negated_inj, List.mem_singleton, and_self, eq_comm]

theorem short_toggleOf_iff : (toggleOf r i l).on.drop (toggleOf r i l).off.length = ["-" ++ n] ↔
    n ∈ r.shortsOf l := by
  have hlength : (r.offOf l).length = ((r.longsOf l).map ("--" ++ ·)).length := by
    simp [Registry.offOf]
  rw [toggleOf, Registry.onOf, hlength, List.drop_left]
  rcases r.shortsOf_cases l with he | ⟨he, -⟩
  · simp [he]
  · simp only [he, List.map_cons, List.map_nil, List.cons.injEq, and_true, String.append_right_inj,
      List.mem_singleton, eq_comm]

/-- The one toggle in place `i` is that of the linter there, if it keeps any flag. -/
theorem exists_toggle_iff {P : Parameter → Prop} :
    (∃ p ∈ (commandOf linters).toggles, p.name = toggleName i ∧ P p) ↔
      ∃ l, linters[i]? = some l ∧ (Registry.builtIn.after (linters.take i)).onOf l ≠ [] ∧
        P (toggleOf (Registry.builtIn.after (linters.take i)) i l) := by
  have hmem : ∀ p, p ∈ (commandOf linters).toggles ↔ ∃ t, (p, t) ∈ togglesOf .builtIn 0 linters := by
    simp [commandOf]
  simp only [hmem, mem_togglesOf_iff, Nat.zero_add]
  constructor
  · rintro ⟨_, ⟨-, j, l, hl, hon, rfl, -⟩, hname, hp⟩
    cases toggleName_inj.mp hname
    exact ⟨l, hl, hon, hp⟩
  · rintro ⟨l, hl, hon, hp⟩
    exact ⟨_, ⟨_, i, l, hl, hon, rfl, rfl⟩, rfl, hp⟩

theorem keepsPair_iff : (commandOf linters).KeepsPair i n ↔
    ∃ l, linters[i]? = some l ∧ n ∈ (Registry.builtIn.after (linters.take i)).longsOf l := by
  rw [Command.KeepsPair, exists_toggle_iff]
  simp only [pair_toggleOf_iff]
  refine exists_congr fun l => and_congr_right fun _ => and_iff_right_of_imp fun hn he => ?_
  simp [Registry.onOf_eq_nil_iff.mp he] at hn

theorem keepsShort_iff : (commandOf linters).KeepsShort i n ↔
    ∃ l, linters[i]? = some l ∧ n ∈ (Registry.builtIn.after (linters.take i)).shortsOf l := by
  rw [Command.KeepsShort, exists_toggle_iff]
  simp only [short_toggleOf_iff]
  refine exists_congr fun l => and_congr_right fun _ => and_iff_right_of_imp fun hn he => ?_
  simp [Registry.onOf_eq_nil_iff.mp he] at hn

/-- The long flags that a linter finds taken: those the registry starts from, and the pairs that
were kept before it, with their negations. -/
theorem mem_longs_after_take_iff : n ∈ (Registry.builtIn.after (linters.take i)).longs ↔
    n ∈ builtIn.longs ∨
      ∃ j < i, ∃ u, (commandOf linters).KeepsPair j u ∧ (n = u ∨ n = negated u) := by
  rw [Registry.mem_held_after_take_iff Registry.longs_claim]
  simp only [Registry.mem_pairsOf_iff, keepsPair_iff]
  exact or_congr_right ⟨fun ⟨j, hj, l, hl, u, hu, hn⟩ => ⟨j, hj, u, ⟨l, hl, hu⟩, hn⟩,
    fun ⟨j, hj, u, ⟨l, hl, hu⟩, hn⟩ => ⟨j, hj, l, hl, u, hu, hn⟩⟩

theorem mem_shorts_after_take_iff : n ∈ (Registry.builtIn.after (linters.take i)).shorts ↔
    n ∈ builtIn.shorts ∨ ∃ j < i, (commandOf linters).KeepsShort j n := by
  rw [Registry.mem_held_after_take_iff Registry.shorts_claim]
  simp only [keepsShort_iff]

/-- What a command has of its linters' flags: each of them exactly where it was free. -/
structure Command.KeepsFree (c : Command) (linters : List Linter) : Prop where
  pair : ∀ i l, linters[i]? = some l → ∀ n, c.KeepsPair i n ↔ n = Linter.flagName l.optionName ∧
    n ≠ "" ∧ n ∉ builtIn.longs ∧ negated n ∉ builtIn.longs ∧
    ∀ j < i, ∀ u, c.KeepsPair j u → u ≠ n ∧ u ≠ negated n ∧ negated u ≠ n
  short : ∀ i l, linters[i]? = some l → ∀ n, c.KeepsShort i n ↔ n = l.abbreviation ∧
    n ≠ "" ∧ n ∉ builtIn.shorts ∧ ∀ j < i, ¬ c.KeepsShort j n
  target : ∀ i l, linters[i]? = some l → (∃ n, c.KeepsPair i n ∨ c.KeepsShort i n) →
    c.targets.find? (toggleName i) = some (.linter l.optionName i)
  absent : ∀ i, (¬ ∃ n, c.KeepsPair i n ∨ c.KeepsShort i n) →
    (∀ p ∈ c.valued, p.name ≠ toggleName i) ∧ toggleName i ∉ c.targets.names

theorem keepsPair_commandOf_iff (hl : linters[i]? = some l) : (commandOf linters).KeepsPair i n ↔
    n = Linter.flagName l.optionName ∧ n ≠ "" ∧ n ∉ builtIn.longs ∧ negated n ∉ builtIn.longs ∧
    ∀ j < i, ∀ u, (commandOf linters).KeepsPair j u → u ≠ n ∧ u ≠ negated n ∧ negated u ≠ n := by
  have hown : (commandOf linters).KeepsPair i n ↔
      n ∈ (Registry.builtIn.after (linters.take i)).longsOf l := by
    simp [keepsPair_iff, hl]
  rw [hown, Registry.mem_longsOf_iff, mem_longs_after_take_iff, mem_longs_after_take_iff]
  refine and_congr_right fun _ => and_congr_right fun _ => ?_
  constructor
  · rintro ⟨hn, hneg⟩
    rw [not_or] at hn hneg
    refine ⟨hn.1, hneg.1, fun j hj u hu => ⟨fun he => ?_, fun he => ?_, fun he => ?_⟩⟩
    · exact hn.2 ⟨j, hj, u, hu, .inl he.symm⟩
    · exact hneg.2 ⟨j, hj, u, hu, .inl he.symm⟩
    · exact hn.2 ⟨j, hj, u, hu, .inr he.symm⟩
  · rintro ⟨hn, hneg, hkept⟩
    refine ⟨not_or.mpr ⟨hn, ?_⟩, not_or.mpr ⟨hneg, ?_⟩⟩
    · rintro ⟨j, hj, u, hu, he | he⟩
      · exact (hkept j hj u hu).1 he.symm
      · exact (hkept j hj u hu).2.2 he.symm
    · rintro ⟨j, hj, u, hu, he | he⟩
      · exact (hkept j hj u hu).2.1 he.symm
      · exact (hkept j hj u hu).1 (Registry.negated_inj.mp he).symm

theorem keepsShort_commandOf_iff (hl : linters[i]? = some l) :
    (commandOf linters).KeepsShort i n ↔ n = l.abbreviation ∧ n ≠ "" ∧ n ∉ builtIn.shorts ∧
    ∀ j < i, ¬ (commandOf linters).KeepsShort j n := by
  have hown : (commandOf linters).KeepsShort i n ↔
      n ∈ (Registry.builtIn.after (linters.take i)).shortsOf l := by
    simp [keepsShort_iff, hl]
  rw [hown, Registry.mem_shortsOf_iff, mem_shorts_after_take_iff, not_or]
  simp

/-- A linter has a toggle exactly if it keeps a flag. -/
theorem exists_keeps_iff : (∃ n, (commandOf linters).KeepsPair i n ∨
      (commandOf linters).KeepsShort i n) ↔
    ∃ p ∈ (commandOf linters).toggles, p.name = toggleName i := by
  constructor
  · rintro ⟨n, ⟨p, hp, hname, -⟩ | ⟨p, hp, hname, -⟩⟩ <;> exact ⟨p, hp, hname⟩
  · rintro ⟨p, hp, hname⟩
    obtain ⟨l, hl, hon, -⟩ := (exists_toggle_iff (P := fun _ => True)).mp ⟨p, hp, hname, trivial⟩
    rw [Ne, Registry.onOf_eq_nil_iff, not_and_or] at hon
    rcases hon with hon | hon
    · obtain ⟨n, hn⟩ := List.exists_mem_of_ne_nil _ hon
      exact ⟨n, .inl (keepsPair_iff.mpr ⟨l, hl, hn⟩)⟩
    · obtain ⟨n, hn⟩ := List.exists_mem_of_ne_nil _ hon
      exact ⟨n, .inr (keepsShort_iff.mpr ⟨l, hl, hn⟩)⟩

theorem keepsFree_commandOf (h : ∀ l ∈ linters, Slashless l) :
    (commandOf linters).KeepsFree linters := by
  have hbuild := build_of_slashless h
  have hregular := regular_of_build hbuild
  refine ⟨fun i l hl n => keepsPair_commandOf_iff hl, fun i l hl n => keepsShort_commandOf_iff hl,
    fun i l hl hkeeps => ?_, fun i hnone => ?_⟩
  · obtain ⟨p, hp, hname⟩ := exists_keeps_iff.mp hkeeps
    obtain ⟨name, hfind⟩ := hregular.find?_toggleName (List.mem_append_left _ hp) hname
    obtain ⟨l', hl', -, rfl⟩ := getElem?_of_mem_targets hbuild (Bindings.mem_of_find? hfind)
    cases hl.symm.trans hl'
    exact hfind
  · have hvalued : ∀ p ∈ (commandOf linters).valued, p.name ≠ toggleName i := by
      intro p hp hname
      rcases List.mem_append.mp hp with hp | hp
      · exact hnone (exists_keeps_iff.mpr ⟨p, hp, hname⟩)
      · obtain ⟨o, -, rfl⟩ := List.mem_map.mp hp
        exact toggleName_ne_name i o.setting hname.symm
    refine ⟨hvalued, fun hm => ?_⟩
    rw [hregular.names] at hm
    obtain ⟨p, hp, hname⟩ := List.mem_map.mp hm
    exact hvalued p hp hname

theorem togglesOf_append (r : Registry) (k : Nat) (linters more : List Linter) :
    togglesOf r k (linters ++ more) =
      togglesOf r k linters ++ togglesOf (r.after linters) (k + linters.length) more := by
  induction linters generalizing r k with
  | nil => rfl
  | cons l rest ih =>
    have hk : k + (rest.length + 1) = k + 1 + rest.length := by omega
    rw [List.cons_append, togglesOf, togglesOf, ih, List.append_assoc, List.length_cons, hk]
    rfl

/-- Toggles counted from some place on have names of places from there on. -/
theorem ne_of_mem_togglesOf {x : Parameter × Target} (hx : x ∈ togglesOf r k linters) (hi : i < k) :
    x.1.name ≠ toggleName i := by
  obtain ⟨j, l, -, -, hp, -⟩ := mem_togglesOf_iff.mp hx
  rw [hp]
  intro he
  have hj := toggleName_inj.mp he
  omega

/-- Behind a command's toggles there is room for more: what was there before stays as it is. -/
theorem commandOf_append (linters more : List Linter) :
    ∃ later, (commandOf (linters ++ more)).toggles = (commandOf linters).toggles ++ later ∧
      (∀ p ∈ later, ∀ i < linters.length, p.name ≠ toggleName i) ∧
      ∀ i < linters.length, (commandOf (linters ++ more)).targets.find? (toggleName i) =
        (commandOf linters).targets.find? (toggleName i) := by
  have hsplit := togglesOf_append .builtIn 0 linters more
  rw [Nat.zero_add] at hsplit
  refine ⟨_, by rw [commandOf, hsplit, List.map_append]; rfl, ?_, fun i hi => ?_⟩
  · rintro p hp i hi
    obtain ⟨x, hx, rfl⟩ := List.mem_map.mp hp
    exact ne_of_mem_togglesOf hx hi
  · have hlater : ((togglesOf (Registry.builtIn.after linters) linters.length more).map
        fun t => (t.1.name, t.2)).lookup (toggleName i) = none := by
      refine List.lookup_eq_none_iff.mpr fun x hx => ?_
      obtain ⟨t, ht, rfl⟩ := List.mem_map.mp hx
      simpa using (ne_of_mem_togglesOf ht hi).symm
    simp only [commandOf, hsplit, List.map_append, Bindings.find?, List.lookup_append, hlater,
      Option.or_none]

/-- Every command has of its linters' flags what was free, each flag for itself: the long flags of a
linter do not depend on its short one, nor the short one on them, and linters that come later take
nothing away. -/
theorem build_keepsFree (h : ∀ l ∈ linters, WrittenSlashless l) :
    ∃ c, build linters = .ok c ∧ c.KeepsFree linters ∧
      (∀ i l l', linters[i]? = some l → WrittenSlashless l' →
        ∃ c', build (linters.set i l') = .ok c' ∧
          (l'.optionName = l.optionName → ∀ n, c'.KeepsPair i n ↔ c.KeepsPair i n) ∧
          (l'.abbreviation = l.abbreviation → ∀ n, c'.KeepsShort i n ↔ c.KeepsShort i n)) ∧
      ∀ more, (∀ l ∈ more, WrittenSlashless l) → ∃ c' later, build (linters ++ more) = .ok c' ∧
        c'.toggles = c.toggles ++ later ∧
        (∀ p ∈ later, ∀ i < linters.length, p.name ≠ toggleName i) ∧
        ∀ i < linters.length, c'.targets.find? (toggleName i) = c.targets.find? (toggleName i) := by
  have hslashless : ∀ l ∈ linters, Slashless l := fun l hl => (h l hl).slashless
  refine ⟨_, build_of_slashless hslashless, keepsFree_commandOf hslashless, ?_, ?_⟩
  · intro i l l' hl hl'
    have hset : ∀ m ∈ linters.set i l', Slashless m := by
      intro m hm
      rcases List.mem_or_eq_of_mem_set hm with hm | rfl
      · exact hslashless m hm
      · exact hl'.slashless
    have hi : (linters.set i l')[i]? = some l' := by
      rw [List.getElem?_set_self (List.getElem?_eq_some_iff.mp hl).1]
    have hbefore : (linters.set i l').take i = linters.take i := List.take_set_of_le (Nat.le_refl i)
    refine ⟨_, build_of_slashless hset, fun hname n => ?_, fun habbreviation n => ?_⟩
    · simp only [keepsPair_iff, hi, hl, hbefore, Option.some.injEq, exists_eq_left',
        Registry.mem_longsOf_iff, hname]
    · simp only [keepsShort_iff, hi, hl, hbefore, Option.some.injEq, exists_eq_left',
        Registry.mem_shortsOf_iff, habbreviation]
  · intro more hmore
    obtain ⟨later, hlater⟩ := commandOf_append linters more
    refine ⟨_, later, build_of_slashless fun l hl => ?_, hlater⟩
    rcases List.mem_append.mp hl with hl | hl
    · exact hslashless l hl
    · exact (hmore l hl).slashless

/-- Linters named for one another's negations. The second loses both of its flags to the first, and
so does not stand in the third one's way. -/
def negations : List Linter :=
  [.configured "Alpha" "alpha" [".rb"] none (some "alpha") (some "x"),
    .configured "Beta" "beta" [".rb"] none (some "no_alpha") (some "x"),
    .configured "Gamma" "gamma" [".rb"] none (some "no_no_alpha") (some "l")]

theorem build_keepsFree_negations : (∀ l ∈ negations, WrittenSlashless l) ∧
    ∃ c, build negations = .ok c ∧ c.KeepsPair 0 "alpha" ∧ c.KeepsShort 0 "x" ∧
      toggleName 1 ∉ c.targets.names ∧ c.KeepsPair 2 "no-no-alpha" ∧ ∀ n, ¬ c.KeepsShort 2 n := by
  have h : ∀ l ∈ negations, WrittenSlashless l := by
    simp only [WrittenSlashless]
    decide +kernel
  obtain ⟨c, hc, hfree, -⟩ := build_keepsFree h
  have hfirst : c.KeepsPair 0 "alpha" :=
    (hfree.pair 0 _ rfl _).mpr ⟨by decide +kernel, by decide, by decide, by decide, by simp⟩
  have hx : c.KeepsShort 0 "x" :=
    (hfree.short 0 _ rfl _).mpr ⟨by decide +kernel, by decide, by decide, by simp⟩
  have hpair : ∀ n, ¬ c.KeepsPair 1 n := by
    intro n hn
    obtain ⟨hname, -, -, -, hkept⟩ := (hfree.pair 1 _ rfl n).mp hn
    exact (hkept 0 (by decide) _ hfirst).2.2 (hname ▸ by decide +kernel)
  have hshort : ∀ n, ¬ c.KeepsShort 1 n := by
    intro n hn
    obtain ⟨habbreviation, -, -, hkept⟩ := (hfree.short 1 _ rfl n).mp hn
    exact hkept 0 (by decide) (habbreviation ▸ hx)
  refine ⟨h, c, hc, hfirst, hx, (hfree.absent 1 ?_).2, (hfree.pair 2 _ rfl _).mpr ?_, ?_⟩
  · rintro ⟨n, hn | hn⟩
    · exact hpair n hn
    · exact hshort n hn
  · refine ⟨by decide +kernel, by decide, by decide, by decide, fun j hj u hu => ?_⟩
    obtain rfl | rfl : j = 0 ∨ j = 1 := by omega
    · obtain ⟨rfl, -⟩ := (hfree.pair 0 _ rfl u).mp hu
      decide +kernel
    · exact absurd hu (hpair u)
  · intro n hn
    obtain ⟨rfl, -, hfresh, -⟩ := (hfree.short 2 _ rfl n).mp hn
    exact hfresh (by decide +kernel)

end LintDispatch.CommandLine
