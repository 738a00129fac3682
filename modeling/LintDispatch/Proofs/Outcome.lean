/-! Computations that may fail, put together from others: what it says about the parts that the
whole succeeds, and what the parts say about the values and the failures of the whole, of one
computation or of two side by side. -/

namespace LintDispatch.Outcome

variable {α β ε : Type}

theorem map_eq_ok {f : α → β} {x : Except ε α} {y : β} :
    x.map f = .ok y ↔ ∃ a, x = .ok a ∧ f a = y := by
  cases x <;> simp [Except.map]

theorem bind_eq_ok {f : α → Except ε β} {x : Except ε α} {y : β} :
    x.bind f = .ok y ↔ ∃ a, x = .ok a ∧ f a = .ok y := by
  cases x <;> simp [Except.bind]

theorem exists_of_any {x : Except ε α} {p : α → Bool} (h : x.toOption.any p = true) :
    ∃ a, x = .ok a ∧ p a = true := by
  cases x with
  | error e => cases h
  | ok a => exact ⟨a, rfl, h⟩

theorem mapM_isOk_iff {f : α → Except ε β} {xs : List α} :
    (∃ ys, xs.mapM f = .ok ys) ↔ ∀ x ∈ xs, ∃ y, f x = .ok y := by
  induction xs with
  | nil => simp [pure, Except.pure]
  | cons x xs ih =>
    simp only [List.mapM_cons, List.mem_cons, forall_eq_or_imp, ← ih]
    cases hx : f x with
    | error e => simp [bind, Except.bind]
    | ok y => cases hxs : xs.mapM f <;> simp [bind, Except.bind, pure, Except.pure]

theorem mem_flatten_of_mapM {f : α → Except ε (List β)} {xs : List α}
    {ys : List (List β)} (h : xs.mapM f = .ok ys) {z : β} :
    z ∈ ys.flatten ↔ ∃ x ∈ xs, ∃ y, f x = .ok y ∧ z ∈ y := by
  induction xs generalizing ys with
  | nil =>
    cases h
    simp
  | cons x xs ih =>
    rw [List.mapM_cons] at h
    obtain ⟨y, hx, h⟩ := bind_eq_ok.mp h
    obtain ⟨tail, hxs, h⟩ := bind_eq_ok.mp h
    cases h
    simp [hx, ih hxs]

/-- What every step of a fold preserves holds behind a fold that succeeds. -/
theorem foldlM_invariant {P : β → Prop} {f : β → α → Except ε β} {xs : List α}
    (hstep : ∀ x ∈ xs, ∀ b c, P b → f b x = .ok c → P c) {b c : β} (hb : P b)
    (h : xs.foldlM f b = .ok c) : P c := by
  induction xs generalizing b with
  | nil =>
    cases h
    exact hb
  | cons x xs ih =>
    rw [List.foldlM_cons] at h
    obtain ⟨b', hx, h⟩ := bind_eq_ok.mp h
    exact ih (fun y hy => hstep y (List.mem_cons_of_mem x hy))
      (hstep x List.mem_cons_self b b' hb hx) h

/-- A fold of which every step asks the same of its element, whatever came before, succeeds where
all elements meet that. -/
theorem foldlM_isOk_iff {P : α → Prop} {f : β → α → Except ε β}
    (hstep : ∀ b x, (∃ c, f b x = .ok c) ↔ P x) {xs : List α} {b : β} :
    (∃ c, xs.foldlM f b = .ok c) ↔ ∀ x ∈ xs, P x := by
  induction xs generalizing b with
  | nil => simp [pure, Except.pure]
  | cons x xs ih =>
    simp only [List.foldlM_cons, List.mem_cons, forall_eq_or_imp, ← hstep b x]
    cases hx : f b x with
    | error e => simp [bind, Except.bind]
    | ok c => simpa [bind, Except.bind] using ih

/-- What `x` gives has the property `P`, and what it fails with has the property `Q`. -/
def Meets (P : α → Prop) (Q : ε → Prop) : Except ε α → Prop
  | .ok a => P a
  | .error e => Q e

section Meets

variable {P : α → Prop} {Q : ε → Prop} {P' : β → Prop} {x : Except ε α}

theorem Meets.of_eq_ok (h : Meets P Q x) {a : α} (hx : x = .ok a) : P a := by
  rwa [hx] at h

theorem Meets.of_eq_error (h : Meets P Q x) {e : ε} (hx : x = .error e) : Q e := by
  rwa [hx] at h

theorem meets_true_iff : Meets (fun _ => True) Q x ↔ ∀ e, x = .error e → Q e := by
  cases x <;> simp [Meets]

theorem Meets.imp {R : α → Prop} (h : Meets P Q x) (hP : ∀ a, P a → R a) : Meets R Q x := by
  cases x with
  | ok a => exact hP a h
  | error e => exact h

theorem Meets.imp_error {R : ε → Prop} (h : Meets P Q x) (hQ : ∀ e, Q e → R e) :
    Meets P R x := by
  cases x with
  | ok a => exact h
  | error e => exact hQ e h

theorem Meets.bind {f : α → Except ε β} (h : Meets P Q x) (hf : ∀ a, P a → Meets P' Q (f a)) :
    Meets P' Q (x >>= f) := by
  cases x with
  | ok a => exact hf a h
  | error e => exact h

theorem Meets.map {f : α → β} (h : Meets P Q x) (hf : ∀ a, P a → P' (f a)) :
    Meets P' Q (x.map f) := by
  cases x with
  | ok a => exact hf a h
  | error e => exact h

theorem Meets.ite {c : Prop} [Decidable c] {y : Except ε α} (hx : c → Meets P Q x)
    (hy : ¬ c → Meets P Q y) : Meets P Q (if c then x else y) := by
  split
  · exact hx ‹_›
  · exact hy ‹_›

theorem Meets.foldlM {f : β → α → Except ε β} {xs : List α} {b : β} (hb : P' b)
    (hf : ∀ x ∈ xs, ∀ b, P' b → Meets P' Q (f b x)) : Meets P' Q (xs.foldlM f b) := by
  induction xs generalizing b with
  | nil => exact hb
  | cons x xs ih =>
    rw [List.foldlM_cons]
    exact (hf x List.mem_cons_self b hb).bind fun c hc =>
      ih hc fun y hy => hf y (List.mem_cons_of_mem x hy)

theorem Meets.mapM {f : α → Except ε β} {xs : List α} (hf : ∀ x ∈ xs, Meets P' Q (f x)) :
    Meets (fun ys => ∀ y ∈ ys, P' y) Q (xs.mapM f) := by
  induction xs with
  | nil => exact nofun
  | cons x xs ih =>
    rw [List.mapM_cons]
    exact (hf x List.mem_cons_self).bind fun y hy =>
      (ih fun z hz => hf z (List.mem_cons_of_mem x hz)).bind fun ys hys =>
        List.forall_mem_cons.mpr ⟨hy, hys⟩

end Meets

/-- Either both fail, and in the same way, or both give values, which are related. -/
def Alike (R : α → β → Prop) : Except ε α → Except ε β → Prop
  | .ok a, .ok b => R a b
  | .error e, .error e' => e = e'
  | _, _ => False

section Alike

variable {γ δ : Type} {R : α → β → Prop} {S : γ → δ → Prop} {x : Except ε α} {y : Except ε β}

theorem Alike.bind {f : α → Except ε γ} {g : β → Except ε δ} (h : Alike R x y)
    (hfg : ∀ a b, R a b → Alike S (f a) (g b)) : Alike S (x.bind f) (y.bind g) := by
  match x, y, h with
  | .ok a, .ok b, h => exact hfg a b h
  | .error e, .error _, h => exact h

theorem Alike.map {f : α → γ} {g : β → δ} (h : Alike R x y) (hfg : ∀ a b, R a b → S (f a) (g b)) :
    Alike S (x.map f) (y.map g) := by
  match x, y, h with
  | .ok a, .ok b, h => exact hfg a b h
  | .error e, .error _, h => exact h

/-- Two folds over the same elements stay related if every step keeps them so. -/
theorem Alike.foldlM {f : α → γ → Except ε α} {g : β → γ → Except ε β} {xs : List γ}
    (hstep : ∀ z ∈ xs, ∀ a b, R a b → Alike R (f a z) (g b z)) {a : α} {b : β} (h : R a b) :
    Alike R (xs.foldlM f a) (xs.foldlM g b) := by
  induction xs generalizing a b with
  | nil => exact h
  | cons z xs ih =>
    rw [List.foldlM_cons, List.foldlM_cons]
    exact (hstep z List.mem_cons_self a b h).bind fun a b h =>
      ih (fun w hw => hstep w (List.mem_cons_of_mem z hw)) h

end Alike

end LintDispatch.Outcome
