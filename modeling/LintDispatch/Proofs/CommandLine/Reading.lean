import LintDispatch.CommandLine.Parser
import LintDispatch.Proofs.Outcome

/-! Whatever arguments are read, every value goes to a parameter that takes it, a truth value to a
toggle and a text to any other, and no parameter has two of them. -/

namespace LintDispatch.CommandLine

variable {ps : List Parameter} {p : Parameter} {o : Options} {e : Effect} {r s : Reading}
  {name string : String} {v : Value}

def Parameter.Admits (p : Parameter) : Value → Prop
  | .scalar (.bool _) => p.role = .toggle
  | .scalar (.text _) => p.role = .value
  | _ => False

def Effect.Suits (ps : List Parameter) : Effect → Prop
  | .turn name _ => ∃ p ∈ ps, p.name = name ∧ p.role = .toggle
  | .take name => ∃ p ∈ ps, p.name = name ∧ p.role = .value
  | .version => True
  | .help => True

structure Options.Suit (ps : List Parameter) (o : Options) : Prop where
  long : ∀ x ∈ o.long, x.2.Suits ps
  short : ∀ x ∈ o.short, x.2.Suits ps

/-- The values are for parameters that admit them, one for each at most. -/
structure Suited (ps : List Parameter) (values : Bindings Value) : Prop where
  admits : ∀ x ∈ values, ∃ p ∈ ps, p.name = x.1 ∧ p.Admits x.2
  nodup : values.names.Nodup

/-- The invariant of reading: a value that is still expected is also for a parameter that takes
one. -/
structure Reading.Suits (ps : List Parameter) (r : Reading) : Prop where
  values : Suited ps r.values
  expected : ∀ name option, r.expecting = .value name option →
    ∃ p ∈ ps, p.name = name ∧ p.role = .value

theorem Options.suits_of_mem_effects {x : String × Effect} (hp : p ∈ ps)
    (hx : x ∈ Options.effects p) : x.2.Suits ps := by
  simp only [Options.effects] at hx
  cases hr : p.role <;> simp only [hr, List.mem_append, List.mem_map] at hx
  case toggle =>
    rcases hx with ⟨_, -, rfl⟩ | ⟨_, -, rfl⟩
    all_goals exact ⟨p, hp, rfl, hr⟩
  case value =>
    obtain ⟨_, -, rfl⟩ := hx
    exact ⟨p, hp, rfl, hr⟩
  case version =>
    obtain ⟨_, -, rfl⟩ := hx
    trivial
  case help =>
    obtain ⟨_, -, rfl⟩ := hx
    trivial

theorem Options.Suit.register {o' : Options} (h : o.Suit ps) (he : e.Suits ps)
    (hr : o.register string e = .ok o') : o'.Suit ps := by
  have hset : ∀ bs : Bindings Effect, (∀ x ∈ bs, x.2.Suits ps) →
      ∀ x ∈ bs.set string e, x.2.Suits ps := by
    intro bs hbs x hx
    rcases Bindings.mem_of_mem_set hx with rfl | hx
    · exact he
    · exact hbs x hx
  simp only [Options.register] at hr
  split at hr
  · cases hr
  · split at hr
    · cases hr
      exact ⟨h.long, hset o.short h.short⟩
    · cases hr
      exact ⟨hset o.long h.long, h.short⟩

theorem Options.suit_of_ofParameters (h : Options.ofParameters ps = .ok o) : o.Suit ps := by
  refine Outcome.foldlM_invariant (P := Options.Suit ps) ?_ ⟨by simp [empty], by simp [empty]⟩ h
  intro x hx b c hb hc
  obtain ⟨p, hp, hx⟩ := List.mem_flatMap.mp hx
  exact hb.register (Options.suits_of_mem_effects hp hx) hc

namespace Reading

theorem suits_start (ps : List Parameter) : start.Suits ps :=
  ⟨⟨by simp [start], by simp [start, Bindings.names]⟩, by simp [start]⟩

theorem Suits.store (h : r.Suits ps) (hv : ∃ p ∈ ps, p.name = name ∧ p.Admits v) :
    (r.store name v).Suits ps := by
  refine ⟨⟨fun x hx => ?_, Bindings.nodup_names_set h.values.nodup⟩, h.expected⟩
  rcases Bindings.mem_of_mem_set hx with rfl | hx
  · exact hv
  · exact h.values.admits x hx

theorem Suits.expectValue (h : r.Suits ps) (hp : ∃ p ∈ ps, p.name = name ∧ p.role = .value) :
    (r.expectValue name string).Suits ps := by
  refine ⟨h.values, fun n o he => ?_⟩
  cases he
  exact hp

theorem Suits.perform (h : r.Suits ps) (he : e.Suits ps) : (r.perform e).Suits ps := by
  cases e with
  | turn name on => exact h.store he
  | take name => exact h
  | version => exact ⟨h.values, h.expected⟩
  | help => exact ⟨h.values, h.expected⟩

theorem Suits.cluster {lead : Char} {cs : List Char} (ho : o.Suit ps) (h : r.Suits ps)
    (hs : cluster o lead cs r = .ok s) : s.Suits ps := by
  induction cs generalizing r with
  | nil =>
    cases hs
    exact h
  | cons c cs ih =>
    simp only [Reading.cluster] at hs
    split at hs
    · cases hs
    · rename_i name hf
      have he := ho.short _ (Bindings.mem_of_find? hf)
      split at hs
      · cases hs
        exact h.expectValue he
      · cases hs
        exact h.store he
    · rename_i e _ hf
      exact ih (h.perform (ho.short _ (Bindings.mem_of_find? hf))) hs

theorem Suits.whole {given : Option (List Char)} (h : r.Suits ps) (he : e.Suits ps)
    (hs : r.whole string given e = .ok s) : s.Suits ps := by
  simp only [Reading.whole] at hs
  split at hs
  · split at hs
    · cases hs
      exact h.store he
    · cases hs
      exact h.expectValue he
  · split at hs
    · cases hs
    · cases hs
      exact h.perform he

theorem Suits.option {arg : List Char} (ho : o.Suit ps) (h : r.Suits ps)
    (hs : Reading.option o arg r = .ok s) : s.Suits ps := by
  simp only [Reading.option] at hs
  split at hs
  · rename_i hf
    exact h.whole (ho.long _ (Bindings.mem_of_find? hf)) hs
  · split at hs
    · cases hs
    · split at hs
      · exact h.cluster ho hs
      · cases hs
        exact h

theorem Suits.read {arg : String} (ho : o.Suit ps) (h : r.Suits ps) (hs : r.read o arg = .ok s) :
    s.Suits ps := by
  simp only [Reading.read] at hs
  split at hs
  · cases hs
    exact ⟨h.values, h.expected⟩
  · rename_i name option hexp
    cases hs
    exact ⟨(h.store (h.expected name option hexp)).values, by simp⟩
  · split at hs
    · cases hs
      exact ⟨h.values, by simp⟩
    · split at hs
      · exact h.option ho hs
      · cases hs
        exact ⟨h.values, h.expected⟩

theorem suits_of_finish (h : r.Suits ps) (hs : r.finish = .ok s) : s.Suits ps := by
  simp only [finish] at hs
  split at hs
  · cases hs
  · cases hs
    exact h

end Reading

/-- What a run gets from any arguments: suitable values, and null for each parameter without. -/
theorem parse_eq_run {c : Command} {args : List String} {values : Bindings Value}
    {paths : List String} (ho : o.Suit ps) (h : parse c o args = .ok (.run values paths)) :
    ∃ given, Suited ps given ∧ values = allValues c given := by
  obtain ⟨s, hs, h⟩ := Outcome.map_eq_ok.mp h
  obtain ⟨r, hf, hs⟩ := Outcome.bind_eq_ok.mp hs
  have hr : r.Suits ps := Outcome.foldlM_invariant (P := Reading.Suits ps)
    (fun _ _ _ _ hb hc => hb.read ho hc) (Reading.suits_start ps) hf
  split at h
  · cases h
  · cases h
    exact ⟨s.values, (Reading.suits_of_finish hr hs).values, rfl⟩

end LintDispatch.CommandLine
