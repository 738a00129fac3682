import LintDispatch.Proofs.CommandLine.Declaring

/-! What registering leaves behind, whatever the option strings look like. Each string is known for
what it was registered for last, a short one in one table and all others in another; and a single
dash with known short flags behind it is read flag by flag. -/

namespace LintDispatch

namespace CommandLine

variable {o o' : Options} {xs : List (String × Effect)} {option : String} {char : Char}
  {cs : List Char} {e : Effect} {q : Reading} {c : Command} {p : Parameter} {ps : List Parameter}

theorem leader_cases (option : String) :
    leader option = [] ∨ ∃ char, leader option = [char] ∨ leader option = [char, char] := by
  rw [leader]
  cases option.toList with
  | nil => exact .inl rfl
  | cons char s =>
    simp only [splitLeader]
    split
    · exact .inl rfl
    · split
      · exact .inr ⟨char, .inr rfl⟩
      · exact .inr ⟨char, .inl rfl⟩

def short (char : Char) : String :=
  String.ofList ['-', char]

def bundle (cs : List Char) : String :=
  String.ofList ('-' :: cs)

theorem splitLeader_dash (hdash : char ≠ '-') (s : List Char) :
    splitLeader ('-' :: char :: s) = (['-'], char :: s) := by
  simp [splitLeader, hdash, show Text.isAlphanumeric '-' = false by decide]

theorem isShort_short (hdash : char ≠ '-') : isShort (short char) = true := by
  rw [isShort, short, String.toList_ofList, splitLeader_dash hdash]
  rfl

theorem leader_short (hdash : char ≠ '-') : leader (short char) = ['-'] := by
  rw [leader, short, String.toList_ofList, splitLeader_dash hdash]

namespace Options

/-- The invariant of registering: the strings are told apart by their form, the last of them with
its effect, and what begins like one of them is an option. -/
structure Records (o : Options) (xs : List (String × Effect)) : Prop where
  long : o.long = Bindings.ofList (xs.filter fun x => !isShort x.1)
  short : o.short = Bindings.ofList (xs.filter fun x => isShort x.1)
  leaders : ∀ lead ∈ o.leaders, ∃ x ∈ xs, lead = (leader x.1).take 1 ∨ lead = leader x.1
  known : ∀ x ∈ xs, (leader x.1).take 1 ∈ o.leaders

theorem records_empty : empty.Records [] :=
  ⟨rfl, rfl, by simp [empty], by simp⟩

theorem Records.register (h : o.Records xs) (hr : o.register option e = .ok o') :
    o'.Records (xs ++ [(option, e)]) := by
  have hstill : ∀ lead ∈ o.leaders, ∃ x ∈ xs ++ [(option, e)],
      lead = (leader x.1).take 1 ∨ lead = leader x.1 := fun lead hlead => by
    obtain ⟨x, hx, hform⟩ := h.leaders lead hlead
    exact ⟨x, List.mem_append_left _ hx, hform⟩
  simp only [Options.register] at hr
  split at hr
  · cases hr
  · rename_i first more hlead
    split at hr
    · rename_i hshort
      cases hr
      refine ⟨by simp [List.filter_append, hshort, h.long],
        by simp [List.filter_append, hshort, Bindings.ofList_append_singleton, h.short],
        List.forall_mem_cons.mpr ⟨⟨(option, e), by simp, .inl (by simp [hlead])⟩, hstill⟩, ?_⟩
      intro x hx
      rcases List.mem_append.mp hx with hx | hx
      · exact List.mem_cons_of_mem _ (h.known x hx)
      · cases List.mem_singleton.mp hx
        simp [hlead]
    · rename_i hshort
      cases hr
      refine ⟨by simp [List.filter_append, hshort, Bindings.ofList_append_singleton, h.long],
        by simp [List.filter_append, hshort, h.short],
        List.forall_mem_cons.mpr ⟨⟨(option, e), by simp, .inl (by simp [hlead])⟩,
          List.forall_mem_cons.mpr ⟨⟨(option, e), by simp, .inr hlead.symm⟩, hstill⟩⟩, ?_⟩
      intro x hx
      rcases List.mem_append.mp hx with hx | hx
      · exact List.mem_cons_of_mem _ (List.mem_cons_of_mem _ (h.known x hx))
      · cases List.mem_singleton.mp hx
        simp [hlead]

theorem records_of_ofParameters (h : ofParameters ps = .ok o) : o.Records (ps.flatMap effects) := by
  suffices ∀ (xs before : List (String × Effect)) (o : Options), o.Records before →
      ∀ {o'}, xs.foldlM (fun o x => o.register x.1 x.2) o = .ok o' → o'.Records (before ++ xs) from
    this _ [] _ records_empty h
  intro xs
  induction xs with
  | nil =>
    intro before o ho o' h
    cases h
    simpa using ho
  | cons x xs ih =>
    intro before o ho o' h
    rw [List.foldlM_cons] at h
    obtain ⟨o₁, h₁, h⟩ := Outcome.bind_eq_ok.mp h
    simpa using ih _ _ (ho.register h₁) h

section Lookup

variable (h : o.Records xs)

include h

theorem Records.find?_short (hs : isShort option = true) :
    o.short.find? option = (Bindings.ofList xs).find? option := by
  rw [h.short, Bindings.find?_ofList, Bindings.find?_ofList, List.filterMap_filter]
  congr 2
  funext x
  by_cases hx : x.1 = option
  · simp [hx, hs]
  · simp [hx]

theorem Records.find?_long (hs : isShort option = false) :
    o.long.find? option = (Bindings.ofList xs).find? option := by
  rw [h.long, Bindings.find?_ofList, Bindings.find?_ofList, List.filterMap_filter]
  congr 2
  funext x
  by_cases hx : x.1 = option
  · simp [hx, hs]
  · simp [hx]

theorem Records.find?_long_of_isShort (hs : isShort option = true) :
    o.long.find? option = none := by
  rw [h.long, Bindings.find?_ofList_eq_none_iff]
  intro hm
  obtain ⟨x, hx, rfl⟩ := List.mem_map.mp hm
  simpa [hs] using (List.mem_filter.mp hx).2

theorem Records.mem_of_find?_short (hlookup : o.short.find? option = some e) : (option, e) ∈ xs := by
  rw [h.short, Bindings.find?_ofList] at hlookup
  obtain ⟨x, hx, he⟩ := List.mem_filterMap.mp (List.mem_of_mem_getLast? hlookup)
  simp only [Option.ite_none_right_eq_some, Option.some.injEq] at he
  obtain ⟨rfl, rfl⟩ := he
  exact (List.mem_filter.mp hx).1

/-- A leader of two characters is one character twice. -/
theorem Records.pair_not_mem_leaders (hdash : char ≠ '-') : ['-', char] ∉ o.leaders := by
  intro hm
  obtain ⟨x, -, hform⟩ := h.leaders _ hm
  rcases leader_cases x.1 with hl | ⟨first, hl | hl⟩ <;> simp [hl] at hform
  exact hdash (hform.2.trans hform.1.symm)

end Lookup

end Options

namespace Reading

/-- What is read behind an option: its value, if it takes one, is still to come. -/
def obey (q : Reading) (option : String) : Effect → Reading
  | .take parameter => q.expectValue parameter option
  | e => q.perform e

theorem whole_none (q : Reading) (option : String) (e : Effect) :
    q.whole option none e = .ok (q.obey option e) := by
  cases e <;> rfl

theorem cluster_singleton (hlookup : o.short.find? (short char) = some e) :
    q.cluster o '-' [char] = .ok (q.obey (short char) e) := by
  have hoption : String.ofList ['-', char] = short char := rfl
  rw [cluster, hoption, hlookup]
  cases e <;> rfl

/-- A dash with something behind it, of which the first character is a known short flag, is read as
short flags if it is no option as a whole. -/
theorem read_bundle_eq_cluster (h : o.Records xs) (hlookup : o.short.find? (short char) = some e)
    (hdash : char ≠ '-') (hequals : '=' ∉ char :: cs)
    (hlong : o.long.find? (bundle (char :: cs)) = none) (hq : q.expecting = .any) :
    q.read o (bundle (char :: cs)) = q.cluster o '-' (char :: cs) := by
  have htext : (bundle (char :: cs)).toList = '-' :: char :: cs := String.toList_ofList
  have hterminator : bundle (char :: cs) ≠ "--" := fun he => by
    have hchars := congrArg String.toList he
    simp [htext] at hchars
    exact hdash hchars.1
  have hknown : ['-'] ∈ o.leaders := by
    have hk := h.known _ (h.mem_of_find?_short hlookup)
    rwa [leader_short hdash] at hk
  have hoption : o.isOption ('-' :: char :: cs) = true := by
    simp [Options.isOption, hknown]
  have hcut : cutAt? '=' ('-' :: char :: cs) = none :=
    cutAt?_eq_none_iff.mpr (by simpa using hequals)
  have hwhole : o.long.find? (String.ofList ('-' :: char :: cs)) = none := hlong
  have hleaders : o.leaders.contains (('-' :: char :: cs).take 2) = false := by
    simpa using h.pair_not_mem_leaders hdash
  simp only [read, hq, if_neg hterminator, htext, hoption, if_true, Reading.option, hcut, hwhole,
    hleaders, Bool.false_eq_true, if_false]

/-- A short flag does what it is known for. -/
theorem read_short (h : o.Records xs) (hlookup : o.short.find? (short char) = some e)
    (hdash : char ≠ '-') (hequals : char ≠ '=') (hq : q.expecting = .any) :
    q.read o (short char) = .ok (q.obey (short char) e) :=
  (read_bundle_eq_cluster h hlookup hdash (by simpa using hequals.symm)
    (h.find?_long_of_isShort (isShort_short hdash)) hq).trans (cluster_singleton hlookup)

end Reading

/-- A setting's flags are always its own: they are registered behind those of the linters, and no
request has the same. -/
theorem Command.Regular.find?_setting (hc : c.Regular)
    (hx : (option, e) ∈ settingParameters.flatMap Options.effects) :
    (Bindings.ofList (c.parameters.flatMap Options.effects)).find? option = some e := by
  have hnodup : (Bindings.names (settingParameters.flatMap Options.effects)).Nodup := by decide
  have hown : (Bindings.ofList (settingParameters.flatMap Options.effects)).find? option = some e := by
    rwa [Bindings.ofList_eq_self hnodup, Bindings.find?_eq_some_iff hnodup]
  have hrequests : option ∉ Bindings.names
      ((versionParameter :: c.helpParameter?.toList).flatMap Options.effects) := by
    have hfree : ∀ x ∈ settingParameters.flatMap Options.effects,
        x.1 ∉ versionParameter.strings ∧ x.1 ∉ helpStrings := by decide
    intro hm
    obtain ⟨x, hx', rfl⟩ := List.mem_map.mp hm
    obtain ⟨p, hp, hxp⟩ := List.mem_flatMap.mp hx'
    rcases List.mem_cons.mp hp with rfl | hp
    · refine (hfree _ hx).1 ?_
      rw [← CommandLine.map_fst_effects (.inr rfl)]
      exact List.mem_map.mpr ⟨x, hxp, rfl⟩
    · obtain ⟨hon, hoff⟩ := of_mem_helpParameter? hp
      refine (hfree _ hx).2 (hon.subset ?_)
      have hstrings : x.1 ∈ p.strings := by
        rw [← CommandLine.map_fst_effects (.inr hoff)]
        exact List.mem_map.mpr ⟨x, hxp, rfl⟩
      simpa [Parameter.strings, hoff] using hstrings
  have hsplit : c.parameters.flatMap Options.effects = c.toggles.flatMap Options.effects ++
      settingParameters.flatMap Options.effects ++
        (versionParameter :: c.helpParameter?.toList).flatMap Options.effects := by
    simp [Command.parameters, Command.valued, hc.settings]
  rw [hsplit, Bindings.find?_ofList_append, Bindings.find?_ofList_append, hown,
    Bindings.find?_ofList_eq_none_iff.mpr hrequests]
  rfl

end CommandLine

end LintDispatch
