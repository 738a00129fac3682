import Mathlib.Data.List.Basic
import LintDispatch.Proofs.CommandLine.Applying
import LintDispatch.Proofs.CommandLine.Reading

/-! What the values of a run amount to. Every setting and every toggle follows the value of its own
parameter, and overriding never fails on values that were read. -/

namespace LintDispatch

def Setting.Admits : Setting → Value → Prop
  | .changedRef, v => ∃ s, v = .text s
  | _, v => ∃ b, v = .bool b

theorem Setting.admits_bool {a : Setting} (h : a ≠ .changedRef) (b : Bool) :
    a.Admits (.bool b) := by
  cases a with
  | changedRef => exact absurd rfl h
  | _ => exact ⟨b, rfl⟩

theorem Setting.Admits.taken? {a : Setting} {v : Value} (h : a.Admits v) : a.taken? v = some v := by
  cases a <;> obtain ⟨x, rfl⟩ := h <;> rfl

namespace CommandLine

variable {c : Command} {p : Parameter} {v : Value} {given : Bindings Value} {linters : List Linter}

namespace Command.Regular

/-- A value that was read is the truth value of a linter's toggle or overrides a setting. -/
theorem cases_of_admits (hc : c.Regular) (hp : p ∈ c.parameters) (hv : p.Admits v) :
    (∃ i b name, p.name = toggleName i ∧ v = .bool b ∧
      c.targets.find? p.name = some (.linter name i)) ∨
    (∃ a : Setting, p.name = a.name ∧ a.Admits v ∧
      c.targets.find? p.name = some (.setting a)) := by
  have hrole : p.role = .toggle ∧ (∃ b, v = .bool b) ∨ p.role = .value ∧ ∃ s, v = .text s := by
    match v, hv with
    | .scalar (.bool b), hv => exact .inl ⟨hv, b, rfl⟩
    | .scalar (.text s), hv => exact .inr ⟨hv, s, rfl⟩
  have hvalued : p ∈ c.toggles ∨ p ∈ settingParameters := by
    rcases List.mem_append.mp hp with hp | hp
    · rwa [Command.valued, hc.settings, List.mem_append] at hp
    · -- The requests come last, and neither of them has a value.
      exfalso
      rcases List.mem_cons.mp hp with rfl | hp
      · simp [versionParameter] at hrole
      · simp only [Command.helpParameter?] at hp
        split at hp
        · simp at hp
        · simp only [Option.toList_some, List.mem_singleton] at hp
          subst hp
          simp at hrole
  rcases hvalued with hp | hp
  · obtain ⟨hr, i, hi⟩ := hc.toggles p hp
    obtain ⟨name, hf⟩ := hc.find?_toggleName (List.mem_append_left _ hp) hi
    rcases hrole with ⟨-, b, rfl⟩ | ⟨hr', -⟩
    · exact .inl ⟨i, b, name, hi, rfl, by rw [hi, hf]⟩
    · cases hr.symm.trans hr'
  · obtain ⟨option, ho, rfl⟩ := List.mem_map.mp hp
    have htakes : ∀ option ∈ settingOptions,
        option.takesValue = decide (option.setting = .changedRef) := by decide
    refine .inr ⟨option.setting, rfl, ?_, hc.find?_name option.setting⟩
    have hrole' : (settingParameter option).role =
        if option.setting = .changedRef then .value else .toggle := by
      simp [settingParameter, htakes option ho]
    rw [hrole'] at hrole
    cases ha : option.setting <;> simpa [ha, Setting.Admits] using hrole

end Command.Regular

def flag (values : Bindings Value) (a : Setting) : Bool :=
  (values.find? a.name).any Value.isTrue

def reference (values : Bindings Value) : String :=
  match values.find? Setting.changedRef.name with
  | some (.scalar (.text s)) => s
  | _ => ""

def toggled (values : Bindings Value) (i : Nat) : Option Bool :=
  match values.find? (toggleName i) with
  | some (.scalar (.bool b)) => some b
  | _ => none

def settingsOf (values : Bindings Value) : Settings where
  changedOnly := flag values .changedOnly
  changedRef := reference values
  dryRun := flag values .dryRun
  list := flag values .list
  autocorrect := flag values .autocorrect
  debug := flag values .debug

theorem value_settingsOf {a : Setting} (h : ∀ v, given.find? a.name = some v → a.Admits v) :
    (settingsOf given).value a = (given.find? a.name).getD (Settings.default.value a) := by
  cases hf : given.find? a.name with
  | none => cases a <;> simp [settingsOf, Settings.value, flag, reference, hf] <;> rfl
  | some v =>
    have hv := h v hf
    cases a <;> obtain ⟨x, rfl⟩ := hv <;>
      simp [settingsOf, Settings.value, flag, reference, hf, Value.bool, Value.text, Value.isTrue]

theorem Command.Regular.admits_of_find? (hc : c.Regular) (hg : Suited c.parameters given)
    {a : Setting} (h : given.find? a.name = some v) : a.Admits v := by
  obtain ⟨p, hp, hname, hv⟩ := hg.admits _ (Bindings.mem_of_find? h)
  rcases hc.cases_of_admits hp hv with ⟨i, -, -, hi, -⟩ | ⟨b, hb, hv, -⟩
  · exact absurd (hi.symm.trans hname) (toggleName_ne_name i a)
  · obtain rfl := Setting.name_inj.mp (hb.symm.trans hname)
    exact hv

theorem refused_of_suited (hc : c.Regular) (hg : Suited c.parameters given) :
    ∀ x ∈ given, refused x = false := by
  intro x hx
  obtain ⟨name, v⟩ := x
  obtain ⟨p, hp, hname, hv⟩ := hg.admits _ hx
  obtain rfl : p.name = name := hname
  rcases hc.cases_of_admits hp hv with ⟨i, -, -, hi, -⟩ | ⟨a, ha, hv, -⟩
  · exact refused_of_ne v fun a ha => toggleName_ne_name i a (hi.symm.trans ha)
  · rw [ha, refused_name, Setting.refuses, hv.taken?]
    exact Bool.and_false _

theorem apply_settingOverrides (hc : c.Regular) (hg : Suited c.parameters given) :
    Settings.default.apply (Bindings.ofList (settingOverrides c.targets given)) =
      (settingsOf given, .ok ()) := by
  have hnone := refused_of_suited hc hg
  obtain ⟨s, hs, hvalue⟩ := apply_settingOverrides_any hc hg.nodup .default
  have hsettings : s = settingsOf given := Settings.ext_value fun a => by
    rw [hvalue, value_settingsOf fun v => hc.admits_of_find? hg, outcome,
      unrefused_of_none_refused hnone]
    cases hf : given.find? a.name with
    | none => rfl
    | some v => rw [Option.bind_some, (hc.admits_of_find? hg hf).taken?]
  rw [Bindings.ofList_eq_self (hg.nodup.sublist (hc.names_settingOverrides given)), hs, hsettings,
    verdict_of_none_refused hnone]

theorem told_of_suited (hc : c.Regular) (hg : Suited c.parameters given) (i : Nat) :
    told c given i = (toggled given i).map .bool := by
  rw [told, toggled]
  cases hf : given.find? (toggleName i) with
  | none => simp
  | some v =>
    obtain ⟨p, hp, hname, hv⟩ := hg.admits _ (Bindings.mem_of_find? hf)
    rcases hc.cases_of_admits hp hv with ⟨j, b, name, -, rfl, ht⟩ | ⟨a, ha, -⟩
    · have hmem : toggleName i ∈ c.targets.names :=
        List.mem_map_of_mem (Bindings.mem_of_find? (hname ▸ ht))
      rw [if_pos hmem]
      rfl
    · exact absurd (hname.symm.trans ha) (toggleName_ne_name i a)

/-- Every linter ends up as the value of its own toggle says, and stays as it is without one. -/
theorem foldl_setToggle (hc : c.Regular) (hg : Suited c.parameters given) (linters : List Linter)
    (i : Nat) : (given.foldl (setToggle c.targets) linters)[i]? =
      linters[i]?.map fun l => (toggled given i).elim l fun b => l.setToggle (some b) := by
  rw [foldl_setToggle_any hc hg.nodup, told_of_suited hc hg]
  cases toggled given i <;> rfl

theorem find?_allValues (c : Command) (given : Bindings Value) (name : String) :
    (allValues c given).find? name = given.find? name ∨
      given.find? name = none ∧ (allValues c given).find? name = some .null := by
  let missing := (c.valued.map Parameter.name).filter fun name => !given.names.contains name
  have happ : (allValues c given).find? name =
      (given.find? name).or (Bindings.find? name (missing.map (·, .null))) := by
    simp only [allValues, Bindings.find?, List.lookup_append]
    rfl
  rw [happ]
  cases hf : given.find? name with
  | some v => simp
  | none =>
    cases hm : Bindings.find? name (missing.map (·, Value.null)) with
    | none => simp
    | some v =>
      obtain ⟨n, -, hn⟩ := List.mem_map.mp (Bindings.mem_of_find? hm)
      cases hn
      simp

theorem toggled_allValues (c : Command) (given : Bindings Value) (i : Nat) :
    toggled (allValues c given) i = toggled given i := by
  rcases find?_allValues c given (toggleName i) with h | ⟨h, h'⟩
  · simp [toggled, h]
  · simp [toggled, h, h', Value.null]

theorem flag_allValues (c : Command) (given : Bindings Value) (a : Setting) :
    flag (allValues c given) a = flag given a := by
  rcases find?_allValues c given a.name with h | ⟨h, h'⟩
  · simp [flag, h]
  · simp [flag, h, h', Value.null, Value.isTrue]

theorem reference_allValues (c : Command) (given : Bindings Value) :
    reference (allValues c given) = reference given := by
  rcases find?_allValues c given Setting.changedRef.name with h | ⟨h, h'⟩
  · simp [reference, h]
  · simp [reference, h, h', Value.null]

theorem setToggle_null (targets : Bindings Target) (linters : List Linter) (name : String) :
    setToggle targets linters (name, .null) = linters := by
  simp only [setToggle]
  split <;> rfl

theorem applyOverrides_allValues (c : Command) (given : Bindings Value) (settings : Settings)
    (linters : List Linter) :
    applyOverrides c.targets (allValues c given) settings linters =
      applyOverrides c.targets given settings linters := by
  have hfold : ∀ (names : List String) (linters : List Linter),
      (names.map (·, Value.null)).foldl (setToggle c.targets) linters = linters := by
    intro names
    induction names with
    | nil => exact fun _ => rfl
    | cons name names ih => simpa [setToggle_null] using ih
  have hover : ∀ names : List String,
      settingOverrides c.targets (names.map (·, Value.null)) = [] := by
    intro names
    simp only [settingOverrides, List.filterMap_eq_nil_iff, List.mem_map]
    rintro _ ⟨name, -, rfl⟩
    dsimp only
    split <;> rfl
  have happ : ∀ a b : Bindings Value, settingOverrides c.targets (a ++ b) =
      settingOverrides c.targets a ++ settingOverrides c.targets b := fun a b =>
    List.filterMap_append
  simp only [applyOverrides, allValues, List.foldl_append, hfold, happ, hover, List.append_nil]

/-- What overriding leaves behind: the settings that the values ask for, and every linter toggled as
they say. -/
theorem applyOverrides_of_parse {o : Options} {args paths : List String} {values : Bindings Value}
    (hc : build linters = .ok c) (ho : Options.ofParameters c.parameters = .ok o)
    (h : parse c o args = .ok (.run values paths)) :
    applyOverrides c.targets values .default linters =
      ⟨settingsOf values,
        linters.mapIdx fun i l => (toggled values i).elim l fun b => l.setToggle (some b),
        .ok ()⟩ := by
  have hreg := regular_of_build hc
  obtain ⟨given, hg, rfl⟩ := parse_eq_run (Options.suit_of_ofParameters ho) h
  have hlinters : given.foldl (setToggle c.targets) linters = linters.mapIdx fun i l =>
      (toggled given i).elim l fun b => l.setToggle (some b) := by
    ext1 i
    rw [foldl_setToggle hreg hg, List.getElem?_mapIdx]
  have hsettings : settingsOf (allValues c given) = settingsOf given := by
    simp only [settingsOf, flag_allValues, reference_allValues]
  rw [applyOverrides_allValues, applyOverrides, hlinters, apply_settingOverrides hreg hg, hsettings]
  simp only [toggled_allValues]

end CommandLine

end LintDispatch
