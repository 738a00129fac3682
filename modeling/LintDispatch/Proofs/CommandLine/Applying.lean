import Mathlib.Data.List.TakeWhile
import LintDispatch.Proofs.CommandLine.Targeting

/-! Applying any values at all. Toggles are set whatever becomes of the settings. Of the settings
those are set that are given a value before the first one that is refused; the others stay as they
were, and the refusal is what overriding ends with. -/

namespace LintDispatch

open Config (Checked Issue Step)

namespace Setting

variable {a b : Setting} {v w : Value}

theorem ofName?_eq_some_iff {name : String} : ofName? name = some a ↔ name = a.name := by
  refine ⟨fun h => ?_, fun h => h ▸ ofName?_name a⟩
  have hname := List.find?_some h
  exact (beq_iff_eq.mp hname).symm

def check (a : Setting) (v : Value) : Checked Value :=
  match a with
  | .changedRef => Value.text <$> Config.text v
  | _ => Value.bool <$> Config.truth v

/-- The value that a setting takes on when it is given `v`; null gives it none. -/
def taken? (a : Setting) (v : Value) : Option Value :=
  if v.isNull then none
  else
    match a.check v with
    | .good w => some w
    | .faulty _ => none

def refuses (a : Setting) (v : Value) : Bool :=
  !v.isNull && (a.taken? v).isNone

theorem check_of_taken? (h : a.taken? v = some w) : v.isNull = false ∧ a.check v = .good w := by
  rw [taken?] at h
  split at h
  · cases h
  · rename_i hnull
    split at h
    · cases h
      exact ⟨Bool.eq_false_iff.mpr hnull, ‹_›⟩
    · cases h

theorem check_of_refuses (h : a.refuses v = true) :
    v.isNull = false ∧ ∃ issues, a.check v = .faulty issues := by
  simp only [refuses, Bool.and_eq_true, Bool.not_eq_true', Option.isNone_iff_eq_none] at h
  obtain ⟨hnull, hnone⟩ := h
  refine ⟨hnull, ?_⟩
  rw [taken?, if_neg (by simp [hnull])] at hnone
  split at hnone
  · cases hnone
  · exact ⟨_, ‹_›⟩

/-- A value is null, taken or refused. -/
theorem cases_of_value (a : Setting) (v : Value) :
    v.isNull = true ∨ (∃ w, a.taken? v = some w) ∨ a.refuses v = true := by
  cases hnull : v.isNull with
  | true => exact .inl rfl
  | false =>
    cases ht : a.taken? v with
    | some w => exact .inr (.inl ⟨w, rfl⟩)
    | none => exact .inr (.inr (by simp [refuses, hnull, ht]))

end Setting

namespace Settings

variable {a : Setting} {v w : Value} {issues : List Issue}

theorem assign_of_good (s : Settings) (h : a.check v = .good w) :
    ∃ s', s.assign a v = .good s' ∧ ∀ b, s'.value b = if b = a then w else s.value b := by
  cases a <;>
    (obtain ⟨x, hx, rfl⟩ := Checked.map_eq_good.mp h
     exact ⟨_, by simp only [assign, hx]; rfl, fun b => by cases b <;> rfl⟩)

theorem assign_of_faulty (s : Settings) (h : a.check v = .faulty issues) :
    s.assign a v = .faulty (issues.map (·.under (.field a.name))) := by
  cases a <;> simp only [assign, Checked.map_eq_faulty.mpr (Checked.map_eq_faulty.mp h), Checked.inside]

end Settings

namespace CommandLine

variable {c : Command} {linters : List Linter} {values : Bindings Value}

def refused (x : String × Value) : Bool :=
  (Setting.ofName? x.1).any (·.refuses x.2)

/-- What is wrong with a value that was refused, each issue under the name of the setting. -/
def complaint (x : String × Value) : List Issue :=
  match Setting.ofName? x.1 with
  | some a => (a.check x.2).issues.map (·.under (.field a.name))
  | none => []

def told (c : Command) (values : Bindings Value) (i : Nat) : Option Value :=
  if toggleName i ∈ c.targets.names then (values.find? (toggleName i)).filter fun v => !v.isNull
  else none

def unrefused (values : Bindings Value) : Bindings Value :=
  values.takeWhile fun x => !refused x

theorem settingOverrides_cons (targets : Bindings Target) (x : String × Value) :
    settingOverrides targets (x :: values) =
      settingOverrides targets [x] ++ settingOverrides targets values := by
  rw [← List.singleton_append, settingOverrides, List.filterMap_append]
  rfl

namespace Command.Regular

theorem settingOverrides_of_ne (hc : c.Regular) {name : String} (v : Value)
    (h : ∀ a : Setting, name ≠ a.name) : settingOverrides c.targets [(name, v)] = [] := by
  simp only [settingOverrides, List.filterMap_cons, List.filterMap_nil]
  cases hf : c.targets.find? name with
  | none => rfl
  | some t =>
    cases t with
    | setting a => exact absurd (hc.setting_of_find? hf) (h a)
    | linter => rfl

theorem settingOverrides_name (hc : c.Regular) (a : Setting) (v : Value) :
    settingOverrides c.targets [(a.name, v)] = if v.isNull then [] else [(a.name, v)] := by
  simp only [settingOverrides, List.filterMap_cons, hc.find?_name, List.filterMap_nil]
  cases v.isNull <;> rfl

theorem names_settingOverrides (hc : c.Regular) (values : Bindings Value) :
    (settingOverrides c.targets values).names.Sublist values.names := by
  induction values with
  | nil => exact .slnil
  | cons x rest ih =>
    obtain ⟨name, v⟩ := x
    rw [settingOverrides_cons]
    by_cases hname : ∃ a : Setting, name = a.name
    · obtain ⟨a, rfl⟩ := hname
      rw [hc.settingOverrides_name]
      split
      · exact ih.cons a.name
      · exact ih.cons_cons a.name
    · rw [hc.settingOverrides_of_ne v fun a ha => hname ⟨a, ha⟩]
      exact ih.cons name

end Command.Regular

theorem refused_name (a : Setting) (v : Value) : refused (a.name, v) = a.refuses v := by
  simp [refused, Setting.ofName?_name]

theorem refused_of_ne {name : String} (v : Value) (h : ∀ a : Setting, name ≠ a.name) :
    refused (name, v) = false := by
  have hnone : Setting.ofName? name = none :=
    Option.eq_none_iff_forall_ne_some.mpr fun a ha => h a (Setting.ofName?_eq_some_iff.mp ha)
  simp [refused, hnone]

/-- How overriding ends: as the first value that is refused makes it end, if there is one. -/
def verdict (values : Bindings Value) : Except Settings.OverrideError Unit :=
  match List.find? refused values with
  | none => .ok ()
  | some x => .error (.invalid (complaint x))

/-- What a setting has in the end: what it made of the value given to it before the first refusal,
or else what it had. -/
def outcome (values : Bindings Value) (s : Settings) (a : Setting) : Value :=
  (((unrefused values).find? a.name).bind a.taken?).getD (s.value a)

section Cons

variable {x : String × Value}

theorem verdict_of_refused (h : refused x = true) :
    verdict (x :: values) = .error (.invalid (complaint x)) := by
  simp [verdict, h]

theorem verdict_of_unrefused (h : refused x = false) : verdict (x :: values) = verdict values := by
  simp [verdict, h]

theorem outcome_of_refused (h : refused x = true) (s : Settings) (a : Setting) :
    outcome (x :: values) s a = s.value a := by
  simp [outcome, unrefused, h, Bindings.find?]

theorem outcome_of_ne (h : refused x = false) {a : Setting} (ha : x.1 ≠ a.name) (s : Settings) :
    outcome (x :: values) s a = outcome values s a := by
  obtain ⟨name, v⟩ := x
  have hne : (a.name == name) = false := by simpa using Ne.symm ha
  simp only [outcome, unrefused, List.takeWhile_cons, h, Bool.not_false, if_true, Bindings.find?,
    List.lookup_cons, hne]

theorem outcome_of_name {a : Setting} {v : Value} (h : a.refuses v = false) (s : Settings) :
    outcome ((a.name, v) :: values) s a = (a.taken? v).getD (s.value a) := by
  simp [outcome, unrefused, refused_name, h, Bindings.find?]

theorem outcome_of_not_mem {a : Setting} (h : a.name ∉ values.names) (s : Settings) :
    outcome values s a = s.value a := by
  have hnone : (unrefused values).find? a.name = none := by
    refine Bindings.find?_eq_none_iff.mpr fun hm => h ?_
    exact ((List.takeWhile_sublist _).map Prod.fst).subset hm
  simp [outcome, hnone]

end Cons

/-- Settings are applied up to the first refusal, whatever names come between. -/
theorem apply_settingOverrides_any (hc : c.Regular) (hn : values.names.Nodup) (s : Settings) :
    ∃ s', s.apply (settingOverrides c.targets values) = (s', verdict values) ∧
      ∀ a, s'.value a = outcome values s a := by
  induction values generalizing s with
  | nil => exact ⟨s, rfl, fun _ => rfl⟩
  | cons x rest ih =>
    obtain ⟨name, v⟩ := x
    obtain ⟨hnot, hrest⟩ := List.nodup_cons.mp hn
    rw [settingOverrides_cons]
    by_cases hname : ∃ a : Setting, name = a.name
    · obtain ⟨a, rfl⟩ := hname
      have hlater : ∀ s : Settings, outcome rest s a = s.value a := outcome_of_not_mem hnot
      have hother : ∀ (s : Settings) (b : Setting), b ≠ a → a.refuses v = false →
          outcome ((a.name, v) :: rest) s b = outcome rest s b := fun s b hb hr =>
        outcome_of_ne (by rw [refused_name, hr]) (by simpa [Setting.name_inj] using Ne.symm hb) s
      rw [hc.settingOverrides_name]
      rcases a.cases_of_value v with hnull | ⟨w, hw⟩ | hr
      · have hr : a.refuses v = false := by simp [Setting.refuses, hnull]
        obtain ⟨s', hs, hvalue⟩ := ih hrest s
        refine ⟨s', ?_, fun b => ?_⟩
        · rw [verdict_of_unrefused (by rw [refused_name, hr]), ← hs, if_pos hnull, List.nil_append]
        · rw [hvalue]
          by_cases hb : b = a
          · subst hb
            rw [hlater, outcome_of_name hr, Setting.taken?, if_pos hnull, Option.getD_none]
          · rw [hother s b hb hr]
      · obtain ⟨hnull, hcheck⟩ := Setting.check_of_taken? hw
        have hr : a.refuses v = false := by simp [Setting.refuses, hw]
        obtain ⟨s₁, hs₁, hset⟩ := s.assign_of_good hcheck
        obtain ⟨s', hs, hvalue⟩ := ih hrest s₁
        refine ⟨s', ?_, fun b => ?_⟩
        · rw [verdict_of_unrefused (by rw [refused_name, hr]), ← hs]
          simp [hnull, Settings.apply, Setting.ofName?_name, hs₁]
        · rw [hvalue]
          by_cases hb : b = a
          · subst hb
            rw [hlater, outcome_of_name hr, hset, if_pos rfl, hw, Option.getD_some]
          · rw [hother s b hb hr, outcome, outcome, hset, if_neg hb]
      · obtain ⟨hnull, issues, hcheck⟩ := Setting.check_of_refuses hr
        have href : refused (a.name, v) = true := by rw [refused_name, hr]
        refine ⟨s, ?_, fun b => by rw [outcome_of_refused href]⟩
        rw [verdict_of_refused href]
        simp [hnull, Settings.apply, Setting.ofName?_name, s.assign_of_faulty hcheck, complaint, hcheck,
          Checked.issues]
    · have hne : ∀ a : Setting, name ≠ a.name := fun a ha => hname ⟨a, ha⟩
      obtain ⟨s', hs, hvalue⟩ := ih hrest s
      refine ⟨s', ?_, fun b => ?_⟩
      · rw [verdict_of_unrefused (refused_of_ne v hne), ← hs, hc.settingOverrides_of_ne v hne,
          List.nil_append]
      · rw [hvalue, outcome_of_ne (refused_of_ne v hne) (hne b)]

theorem told_cons_of_ne {name : String} {v : Value} {i : Nat} (h : name ≠ toggleName i) :
    told c ((name, v) :: values) i = told c values i := by
  have hne : (toggleName i == name) = false := by simpa using Ne.symm h
  simp only [told, Bindings.find?, List.lookup_cons, hne]

theorem told_of_not_mem {i : Nat} (h : toggleName i ∉ values.names) : told c values i = none := by
  simp [told, Bindings.find?_eq_none_iff.mpr h]

/-- Every linter is toggled as it was told, and stays as it is if it was told nothing. -/
theorem foldl_setToggle_any (hc : c.Regular) (hn : values.names.Nodup) (linters : List Linter)
    (i : Nat) : (values.foldl (setToggle c.targets) linters)[i]? =
      linters[i]?.map fun l => (told c values i).elim l fun v => l.setToggle (some v.isTrue) := by
  induction values generalizing linters with
  | nil => simp [told, Bindings.find?]
  | cons x rest ih =>
    obtain ⟨name, v⟩ := x
    obtain ⟨hnot, hrest⟩ := List.nodup_cons.mp hn
    rw [List.foldl_cons, ih hrest]
    cases hf : c.targets.find? name with
    | none =>
      have hset : setToggle c.targets linters (name, v) = linters := by simp only [setToggle, hf]
      rw [hset]
      by_cases hi : name = toggleName i
      · have hout : toggleName i ∉ c.targets.names := hi ▸ Bindings.find?_eq_none_iff.mp hf
        simp only [told, if_neg hout]
      · rw [told_cons_of_ne hi]
    | some t =>
      rcases hc.targets _ (Bindings.mem_of_find? hf) with ⟨j, n, hx⟩ | ⟨a, hx⟩
      · cases hx
        -- No name comes twice, so nothing that follows touches this linter again.
        have hlater : told c rest j = none := told_of_not_mem hnot
        have hmem : toggleName j ∈ c.targets.names :=
          List.mem_map_of_mem (Bindings.mem_of_find? hf)
        have hnow : told c ((toggleName j, v) :: rest) j = if v.isNull then none else some v := by
          simp only [told, if_pos hmem, Bindings.find?, List.lookup_cons, beq_self_eq_true,
            Option.filter_some]
          cases v.isNull <;> rfl
        by_cases hi : i = j
        · subst hi
          rw [hlater, hnow]
          cases hnull : v.isNull <;> simp [setToggle, hf, hnull, Function.comp_def]
        · rw [told_cons_of_ne (by simpa [toggleName_inj] using Ne.symm hi)]
          cases hnull : v.isNull <;> simp [setToggle, hf, hnull, Ne.symm hi]
      · cases hx
        have hset : setToggle c.targets linters (a.name, v) = linters := by simp only [setToggle, hf]
        rw [hset, told_cons_of_ne (toggleName_ne_name i a).symm]

theorem exists_invalid_verdict_iff :
    (∃ issues, verdict values = .error (.invalid issues)) ↔ ∃ x ∈ values, refused x = true := by
  rw [verdict]
  cases hf : List.find? refused values with
  | none => simpa using hf
  | some x => simpa using ⟨x.1, x.2, List.mem_of_find?_eq_some hf, List.find?_some hf⟩

theorem verdict_of_none_refused (h : ∀ x ∈ values, refused x = false) : verdict values = .ok () := by
  have hnone : List.find? refused values = none := List.find?_eq_none.mpr fun x hx => by simp [h x hx]
  rw [verdict, hnone]

theorem unrefused_of_none_refused (h : ∀ x ∈ values, refused x = false) :
    unrefused values = values :=
  List.takeWhile_eq_self_iff.mpr fun x hx => by simp [h x hx]

theorem applyOverrides_eq (hc : c.Regular) (hn : values.names.Nodup) (settings : Settings)
    (linters : List Linter) : ∃ s', applyOverrides c.targets values settings linters =
        ⟨s', values.foldl (setToggle c.targets) linters, verdict values⟩ ∧
      ∀ a, s'.value a = outcome values settings a := by
  obtain ⟨s', hs, hvalue⟩ := apply_settingOverrides_any hc hn settings
  have hnodup : (settingOverrides c.targets values).names.Nodup :=
    hn.sublist (hc.names_settingOverrides values)
  refine ⟨s', ?_, hvalue⟩
  rw [applyOverrides, Bindings.ofList_eq_self hnodup, hs]

/-- Where nothing is refused, the order of the values does not matter. -/
theorem applyOverrides_perm (hc : c.Regular) {other : Bindings Value} (hn : values.names.Nodup)
    (hperm : other.Perm values) (h : ∀ x ∈ values, refused x = false) (settings : Settings) :
    applyOverrides c.targets other settings linters =
      applyOverrides c.targets values settings linters := by
  have hn' : other.names.Nodup := (hperm.map Prod.fst).nodup_iff.mpr hn
  have h' : ∀ x ∈ other, refused x = false := fun x hx => h x (hperm.subset hx)
  have hfind : ∀ name, other.find? name = values.find? name := by
    intro name
    ext v
    rw [Bindings.find?_eq_some_iff hn', Bindings.find?_eq_some_iff hn, hperm.mem_iff]
  obtain ⟨s', hs, hvalue⟩ := applyOverrides_eq hc hn' settings linters
  obtain ⟨s, hs₁, hvalue₁⟩ := applyOverrides_eq hc hn settings linters
  have hsettings : s' = s := Settings.ext_value fun a => by
    rw [hvalue, hvalue₁, outcome, outcome, unrefused_of_none_refused h, unrefused_of_none_refused h',
      hfind]
  have hlinters : other.foldl (setToggle c.targets) linters =
      values.foldl (setToggle c.targets) linters := by
    ext1 i
    rw [foldl_setToggle_any hc hn', foldl_setToggle_any hc hn, told, told, hfind]
  rw [hs, hs₁, hsettings, hlinters, verdict_of_none_refused h, verdict_of_none_refused h']

/-- Values under any names, those of no parameter among them, are applied to any settings and to the
linters of the command, whatever these have been toggled to. No target is out of place, so the only
failure is the first value that a setting refuses; the values given to settings before it are taken
on, and no others. Every linter that has a parameter and a value is toggled to the truth of its
value in any case. Where nothing is refused, the order of the values does not matter. -/
theorem applyOverrides_up_to_refusal (hc : build linters = .ok c) (hn : values.names.Nodup)
    (settings : Settings) :
    let o := applyOverrides c.targets values settings linters
    (∀ name optionName i, (name, .linter optionName i) ∈ c.targets → i < linters.length) ∧
    (∀ name a, c.targets.find? name = some (.setting a) ↔ name = a.name) ∧
    (∀ name, o.result ≠ .error (.unknown name)) ∧
    ((∃ issues, o.result = .error (.invalid issues)) ↔ ∃ x ∈ values, refused x = true) ∧
    o.result = verdict values ∧
    (∀ i, o.linters[i]? = linters[i]?.map fun l =>
      (told c values i).elim l fun v => l.setToggle (some v.isTrue)) ∧
    (∀ a, o.settings.value a = outcome values settings a) ∧
    ((∀ x ∈ values, refused x = false) → ∀ other : Bindings Value, other.Perm values →
      applyOverrides c.targets other settings linters = o) := by
  intro o
  have hreg := regular_of_build hc
  obtain ⟨s', ho, hvalue⟩ := applyOverrides_eq hreg hn settings linters
  have hresult : o.result = verdict values := congrArg Overridden.result ho
  refine ⟨fun name optionName i hx => ?_, fun name a => ?_, fun name => ?_, ?_, hresult, fun i => ?_,
    fun a => ?_, fun h other hperm => applyOverrides_perm hreg hn hperm h settings⟩
  · obtain ⟨l, hl, -⟩ := getElem?_of_mem_targets hc hx
    exact (List.getElem?_eq_some_iff.mp hl).1
  · exact ⟨hreg.setting_of_find?, fun h => h ▸ hreg.find?_name a⟩
  · rw [hresult, verdict]
    split <;> simp
  · rw [hresult, exists_invalid_verdict_iff]
  · rw [← foldl_setToggle_any hreg hn]
    exact congrArg (fun o => o.linters[i]?) ho
  · rw [← hvalue]
    exact congrArg (fun o => o.settings.value a) ho

def repeated : List Linter :=
  ["Reek", "Lint", "Reek"].map fun name => .configured name name [".rb"] none none none

def mixed : Bindings Value :=
  [("linter_0", .text "x"), ("paths", .list []), ("debug", .text "Yes"), ("linter_1", .null),
    ("list", .list []), ("dry_run", .bool true), ("linter_2", .bool false)]

def agreeable : Bindings Value :=
  [("linter_1", .bool false), ("debug", .text "on"), ("changed_ref", .text "main")]

theorem applyOverrides_up_to_refusal_mixed :
    ∃ c, build repeated = .ok c ∧ mixed.names.Nodup ∧ agreeable.names.Nodup ∧
      let o := applyOverrides c.targets mixed .default repeated
      o.settings = { Settings.default with debug := true } ∧
      o.result = .error (.invalid [⟨[.field "list"], .notTruth⟩]) ∧
      o.linters[0]?.map Linter.toggle = some (some true) ∧
      o.linters[1]?.map Linter.toggle = some none ∧
      o.linters[2]?.map Linter.toggle = some none ∧
      applyOverrides c.targets agreeable.reverse .default repeated =
        applyOverrides c.targets agreeable .default repeated := by
  have hready : (build repeated).toOption.any (fun c =>
      decide (c.targets.names = ["linter_0", "linter_1", "changed_only", "changed_ref", "autocorrect",
        "dry_run", "list", "debug"])) = true := by
    decide +kernel
  obtain ⟨c, hc, hnames⟩ := Outcome.exists_of_any hready
  have hnames := of_decide_eq_true hnames
  have hmixed : mixed.names.Nodup := by decide
  have hagreeable : agreeable.names.Nodup := by decide
  obtain ⟨-, -, -, -, hresult, hlinters, hsettings, -⟩ :=
    applyOverrides_up_to_refusal hc hmixed .default
  obtain ⟨-, -, -, -, -, -, -, hperm⟩ := applyOverrides_up_to_refusal hc hagreeable .default
  refine ⟨c, hc, hmixed, hagreeable, Settings.ext_value fun a => (hsettings a).trans ?_, ?_, ?_, ?_, ?_,
    hperm (by decide) _ (List.reverse_perm _)⟩
  · cases a <;> rfl
  · rw [hresult]
    rfl
  · rw [hlinters, told, hnames]
    rfl
  · rw [hlinters, told, hnames]
    rfl
  · rw [hlinters, told, hnames]
    rfl

end CommandLine

end LintDispatch
