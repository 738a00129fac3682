/-!
Values bound to names. A name that is bound again keeps its place and takes the new value, so the
order of a list of bindings is the order in which its names first came.
-/

namespace LintDispatch

abbrev Bindings (α : Type) := List (String × α)

namespace Bindings

variable {α : Type}

/-- Binds a name, in its old place if it has one. -/
def set (name : String) (value : α) : Bindings α → Bindings α
  | [] => [(name, value)]
  | (n, v) :: rest =>
    if n = name then (name, value) :: rest else (n, v) :: set name value rest

def ofList (xs : List (String × α)) : Bindings α :=
  xs.foldl (fun bs x => set x.1 x.2 bs) []

def find? (name : String) (bs : Bindings α) : Option α :=
  bs.lookup name

def names (bs : Bindings α) : List String :=
  bs.map Prod.fst

@[simp] theorem find?_set_self (name : String) (value : α) (bs : Bindings α) :
    find? name (set name value bs) = some value := by
  induction bs with
  | nil => simp [set, find?]
  | cons b bs ih =>
    obtain ⟨n, v⟩ := b
    simp only [set]
    split
    case isTrue => simp [find?]
    case isFalse h =>
      have h' : (name == n) = false := by simpa using Ne.symm h
      simpa [find?, List.lookup_cons, h'] using ih

theorem find?_set_of_ne {name other : String} (value : α) (bs : Bindings α) (h : other ≠ name) :
    find? other (set name value bs) = find? other bs := by
  have h' : (other == name) = false := by simpa using h
  induction bs with
  | nil => simp [set, find?, List.lookup_cons, h']
  | cons b bs ih =>
    obtain ⟨n, v⟩ := b
    simp only [set]
    split
    case isTrue hn =>
      subst hn
      simp only [find?, List.lookup_cons, h']
    case isFalse =>
      simp only [find?] at ih
      simp only [find?, List.lookup_cons, ih]

theorem mem_names_set {name other : String} {value : α} {bs : Bindings α} :
    other ∈ names (set name value bs) ↔ other = name ∨ other ∈ names bs := by
  induction bs with
  | nil => simp [set, names]
  | cons b bs ih =>
    simp only [set]
    split
    case isTrue h => simp [names, h]
    case isFalse =>
      simp only [names, List.map_cons, List.mem_cons] at ih ⊢
      rw [ih, or_left_comm]

theorem nodup_names_set {name : String} {value : α} {bs : Bindings α} (h : (names bs).Nodup) :
    (names (set name value bs)).Nodup := by
  induction bs with
  | nil => simp [set, names]
  | cons b bs ih =>
    simp only [names, List.map_cons, List.nodup_cons] at h
    simp only [set]
    split
    case isTrue hb => simpa [names, ← hb] using h
    case isFalse hb =>
      refine List.nodup_cons.mpr ⟨fun hmem => ?_, ih h.2⟩
      rcases mem_names_set.mp hmem with heq | hmem
      · exact hb heq
      · exact h.1 hmem

theorem mem_of_mem_set {x : String × α} {name : String} {value : α} {bs : Bindings α}
    (h : x ∈ set name value bs) : x = (name, value) ∨ x ∈ bs := by
  induction bs with
  | nil => exact .inl (List.mem_singleton.mp h)
  | cons b bs ih =>
    simp only [set] at h
    split at h
    · rcases List.mem_cons.mp h with rfl | h
      · exact .inl rfl
      · exact .inr (List.mem_cons_of_mem b h)
    · rcases List.mem_cons.mp h with rfl | h
      · exact .inr List.mem_cons_self
      · exact (ih h).imp_right (List.mem_cons_of_mem b)

theorem mem_of_find? {name : String} {value : α} {bs : Bindings α}
    (h : find? name bs = some value) : (name, value) ∈ bs := by
  obtain ⟨before, after, rfl, -⟩ := List.lookup_eq_some_iff.mp h
  simp

theorem find?_eq_none_iff {name : String} {bs : Bindings α} :
    find? name bs = none ↔ name ∉ names bs := by
  simp only [find?, names, List.lookup_eq_none_iff, List.mem_map, not_exists, not_and, bne_iff_ne]
  exact ⟨fun h x hx he => h x hx he.symm, fun h x hx he => h x hx he.symm⟩

theorem find?_eq_some_iff {name : String} {value : α} {bs : Bindings α} (h : (names bs).Nodup) :
    find? name bs = some value ↔ (name, value) ∈ bs := by
  refine ⟨mem_of_find?, fun hm => ?_⟩
  induction bs with
  | nil => cases hm
  | cons b bs ih =>
    obtain ⟨n, v⟩ := b
    obtain ⟨hb, hbs⟩ := List.nodup_cons.mp h
    rcases List.mem_cons.mp hm with heq | hm
    · cases heq
      simp [find?]
    · have hne : name ≠ n := fun he => hb (List.mem_map.mpr ⟨_, hm, he⟩)
      have hne' : (name == n) = false := by simpa using hne
      simpa only [find?, List.lookup_cons, hne'] using ih hbs hm

theorem set_of_not_mem {name : String} {value : α} {bs : Bindings α} (h : name ∉ names bs) :
    set name value bs = bs ++ [(name, value)] := by
  induction bs with
  | nil => rfl
  | cons b bs ih =>
    simp only [names, List.map_cons, List.mem_cons, not_or] at h
    simp only [set, if_neg (Ne.symm h.1), ih h.2, List.cons_append]

/-- Names that are each bound once stay as they are. -/
theorem ofList_eq_self {xs : List (String × α)} (h : (names xs).Nodup) : ofList xs = xs := by
  suffices ∀ before : Bindings α, (names (before ++ xs)).Nodup →
      xs.foldl (fun bs x => set x.1 x.2 bs) before = before ++ xs from this [] h
  clear h
  induction xs with
  | nil => simp
  | cons x xs ih =>
    intro before hn
    have hx : x.1 ∉ names before := by
      simp only [names, List.map_append, List.map_cons] at hn
      exact fun hm => (List.nodup_append.mp hn).2.2 _ hm _ List.mem_cons_self rfl
    rw [List.foldl_cons, set_of_not_mem hx, ih _ (by simpa using hn)]
    simp

theorem ofList_append_singleton (xs : List (String × α)) (x : String × α) :
    ofList (xs ++ [x]) = set x.1 x.2 (ofList xs) := by
  simp [ofList, List.foldl_append]

/-- A name has the value that was bound to it last. -/
theorem find?_ofList (xs : List (String × α)) (name : String) : find? name (ofList xs) =
    (xs.filterMap fun x => if x.1 = name then some x.2 else none).getLast? := by
  suffices ∀ bs : Bindings α, find? name (xs.foldl (fun bs x => set x.1 x.2 bs) bs) =
      (xs.filterMap fun x => if x.1 = name then some x.2 else none).getLast?.or (find? name bs) from
    (this []).trans Option.or_none
  induction xs with
  | nil => exact fun _ => rfl
  | cons x xs ih =>
    intro bs
    rw [List.foldl_cons, ih]
    by_cases hx : x.1 = name
    · subst hx
      simp only [find?_set_self, List.filterMap_cons, if_true, List.getLast?_cons]
      cases (xs.filterMap fun y => if y.1 = x.1 then some y.2 else none).getLast? <;> rfl
    · rw [find?_set_of_ne x.2 bs (Ne.symm hx)]
      simp [hx]

theorem find?_ofList_append (xs ys : List (String × α)) (name : String) :
    find? name (ofList (xs ++ ys)) = (find? name (ofList ys)).or (find? name (ofList xs)) := by
  simp only [find?_ofList, List.filterMap_append, List.getLast?_append]

theorem find?_ofList_eq_none_iff {xs : List (String × α)} {name : String} :
    find? name (ofList xs) = none ↔ name ∉ names xs := by
  rw [find?_ofList, List.getLast?_eq_none_iff, List.filterMap_eq_nil_iff]
  simp only [names, List.mem_map, not_exists, not_and, ite_eq_right_iff, reduceCtorEq, imp_false]

end Bindings

end LintDispatch
