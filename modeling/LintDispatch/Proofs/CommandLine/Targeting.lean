import LintDispatch.CommandLine.Overrides
import LintDispatch.Proofs.Outcome

/-! What the parameters of a command set. Every toggle is named for its place and has the linter in
that place for its target; every other parameter is named for the setting that it sets. -/

namespace LintDispatch

theorem Setting.name_inj {a b : Setting} : a.name = b.name ↔ a = b := by
  refine ⟨fun h => ?_, congrArg name⟩
  have hh := congrArg ofName? h
  simpa [ofName?_name] using hh

namespace Settings

def value (s : Settings) : Setting → Value
  | .changedOnly => .bool s.changedOnly
  | .changedRef => .text s.changedRef
  | .dryRun => .bool s.dryRun
  | .list => .bool s.list
  | .autocorrect => .bool s.autocorrect
  | .debug => .bool s.debug

theorem ext_value {s t : Settings} (h : ∀ a, s.value a = t.value a) : s = t := by
  have honly := h .changedOnly
  have href := h .changedRef
  have hdry := h .dryRun
  have hlist := h .list
  have hauto := h .autocorrect
  have hdebug := h .debug
  cases s
  cases t
  simp_all [value, Value.bool, Value.text]

end Settings

namespace CommandLine

variable {c : Command} {p : Parameter} {linters : List Linter}

theorem toggleName_inj {i j : Nat} : toggleName i = toggleName j ↔ i = j := by
  refine ⟨fun h => ?_, congrArg toggleName⟩
  have hrepr : i.repr = j.repr := String.append_right_inj _ |>.mp h
  have hh : Nat.ofDigitChars 10 (Nat.toDigits 10 i) 0 = Nat.ofDigitChars 10 (Nat.toDigits 10 j) 0 := by
    rw [← Nat.toList_repr, hrepr, Nat.toList_repr]
  rwa [Nat.ofDigitChars_ten_toDigits, Nat.ofDigitChars_ten_toDigits] at hh

theorem toggleName_ne_name (i : Nat) (a : Setting) : toggleName i ≠ a.name := by
  intro h
  have hstart : "linter_".toList <+: a.name.toList := by
    rw [← h, toggleName, String.toList_append]
    exact List.prefix_append _ _
  revert hstart
  cases a <;> decide

/-- What is so of every command: toggles and settings each have their names, and each of them has a
target of its kind. -/
structure Command.Regular (c : Command) : Prop where
  toggles : ∀ p ∈ c.toggles, p.role = .toggle ∧ ∃ i, p.name = toggleName i
  settings : c.settings = settingParameters
  targets : ∀ x ∈ c.targets, (∃ i name, x = (toggleName i, .linter name i)) ∨
    ∃ a : Setting, x = (a.name, .setting a)
  names : c.targets.names = c.valued.map Parameter.name

theorem toggle?_eq_some {r : Registry} {index : Nat} {l : Linter}
    (h : toggle? r index l = .ok (some p)) : p.role = .toggle ∧ p.name = toggleName index := by
  rw [toggle?] at h
  split at h
  · cases h
  · obtain ⟨d, -, h⟩ := Outcome.map_eq_ok.mp h
    cases h
    exact ⟨rfl, rfl⟩

/-- A toggle and its target belong to the linter of their place, with the flags that were free when
its turn came. -/
theorem of_mem_togglesFrom {r : Registry} {index : Nat} {ts : List (Parameter × Target)}
    (h : togglesFrom r index linters = .ok ts) {t : Parameter × Target} (ht : t ∈ ts) :
    ∃ i l r', linters[i]? = some l ∧ toggle? r' (index + i) l = .ok (some t.1) ∧
      t.2 = .linter l.optionName (index + i) := by
  induction linters generalizing r index ts with
  | nil =>
    cases h
    cases ht
  | cons l rest ih =>
    rw [togglesFrom] at h
    split at h
    · cases h
    · rename_i p? hp
      obtain ⟨more, hm, rfl⟩ := Outcome.map_eq_ok.mp h
      have hlater (ht : t ∈ more) : ∃ i l' r', (l :: rest)[i]? = some l' ∧
          toggle? r' (index + i) l' = .ok (some t.1) ∧ t.2 = .linter l'.optionName (index + i) := by
        obtain ⟨i, l', r', hl, hown, htarget⟩ := ih hm ht
        rw [Nat.add_assoc, Nat.add_comm 1] at hown htarget
        exact ⟨i + 1, l', r', hl, hown, htarget⟩
      cases p? with
      | none => exact hlater ht
      | some p =>
        rcases List.mem_cons.mp ht with rfl | ht
        · exact ⟨0, l, r, rfl, hp, rfl⟩
        · exact hlater ht

theorem regular_of_build (h : build linters = .ok c) : c.Regular := by
  obtain ⟨ts, ht, rfl⟩ := Outcome.map_eq_ok.mp h
  refine ⟨fun p hp => ?_, rfl, fun x hx => ?_, ?_⟩
  · obtain ⟨t, hmem, rfl⟩ := List.mem_map.mp hp
    obtain ⟨i, l, r, -, hown, -⟩ := of_mem_togglesFrom ht hmem
    exact (toggle?_eq_some hown).imp_right fun hn => ⟨_, hn⟩
  · rcases List.mem_append.mp hx with hx | hx
    · obtain ⟨t, hmem, rfl⟩ := List.mem_map.mp hx
      obtain ⟨i, l, r, -, hown, ht⟩ := of_mem_togglesFrom ht hmem
      exact .inl ⟨_, l.optionName, by rw [(toggle?_eq_some hown).2, ht]⟩
    · obtain ⟨o, -, rfl⟩ := List.mem_map.mp hx
      exact .inr ⟨o.setting, rfl⟩
  · simp only [Command.valued, Bindings.names, settingTargets, settingParameters, List.map_append,
      List.map_map]
    rfl

/-- Every target that is a linter is one of the linters. -/
theorem getElem?_of_mem_targets (h : build linters = .ok c) {name optionName : String} {i : Nat}
    (hx : (name, .linter optionName i) ∈ c.targets) :
    ∃ l, linters[i]? = some l ∧ name = toggleName i ∧ optionName = l.optionName := by
  obtain ⟨ts, ht, rfl⟩ := Outcome.map_eq_ok.mp h
  rcases List.mem_append.mp hx with hx | hx
  · obtain ⟨t, hmem, heq⟩ := List.mem_map.mp hx
    obtain ⟨j, l, r, hl, hown, htarget⟩ := of_mem_togglesFrom ht hmem
    obtain ⟨hname, hlinter⟩ := Prod.mk.inj heq
    rw [Nat.zero_add] at hown htarget
    cases htarget.symm.trans hlinter
    exact ⟨l, hl, hname.symm.trans (toggle?_eq_some hown).2, rfl⟩
  · obtain ⟨o, -, heq⟩ := List.mem_map.mp hx
    cases heq

namespace Command.Regular

theorem find?_toggleName (hc : c.Regular) (hp : p ∈ c.valued) {i : Nat}
    (hi : p.name = toggleName i) : ∃ name, c.targets.find? (toggleName i) = some (.linter name i) := by
  cases hf : c.targets.find? (toggleName i) with
  | none =>
    rw [Bindings.find?_eq_none_iff, hc.names] at hf
    exact absurd (List.mem_map.mpr ⟨p, hp, hi⟩) hf
  | some t =>
    rcases hc.targets _ (Bindings.mem_of_find? hf) with ⟨j, name, hx⟩ | ⟨a, hx⟩
    · cases toggleName_inj.mp (congrArg Prod.fst hx)
      exact ⟨name, congrArg (some ∘ Prod.snd) hx⟩
    · exact absurd (congrArg Prod.fst hx) (toggleName_ne_name i a)

theorem find?_name (hc : c.Regular) (a : Setting) :
    c.targets.find? a.name = some (.setting a) := by
  cases hf : c.targets.find? a.name with
  | none =>
    rw [Bindings.find?_eq_none_iff, hc.names, Command.valued, hc.settings, List.map_append] at hf
    refine absurd (List.mem_append_right _ ?_) hf
    cases a <;> decide
  | some t =>
    rcases hc.targets _ (Bindings.mem_of_find? hf) with ⟨i, name, hx⟩ | ⟨b, hx⟩
    · exact absurd (congrArg Prod.fst hx).symm (toggleName_ne_name i a)
    · cases Setting.name_inj.mp (congrArg Prod.fst hx)
      exact congrArg (some ∘ Prod.snd) hx

/-- The parameters for settings are those with the names of settings. -/
theorem setting_of_find? (hc : c.Regular) {name : String} {a : Setting}
    (h : c.targets.find? name = some (.setting a)) : name = a.name := by
  rcases hc.targets _ (Bindings.mem_of_find? h) with ⟨i, n, hx⟩ | ⟨b, hx⟩
  · cases hx
  · cases hx
    rfl

end Command.Regular

end CommandLine

end LintDispatch
