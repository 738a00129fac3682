import LintDispatch.Disk.Tree

/-! Following a path in two parts is following it whole. Every directory that is entered uses up a
link or lies deeper than the one before, so no way through a disk is longer than its entries and the
links that may be followed allow. -/

namespace LintDispatch.Disk

variable {disk : Disk} {links : Nat} {place todo : List FileName} {name : FileName}

theorem follow_nil (disk : Disk) (links : Nat) (place : List FileName) :
    disk.follow links place [] = .ok ⟨links, place, .directory⟩ := by
  cases links <;> rfl

def jump (disk : Disk) : Nat → List FileName → List FileName → Except Obstacle Arrival
  | 0, _, _ => .error .tooManyLinks
  | links + 1, place, todo => disk.follow links place todo

theorem follow_eq_walk (disk : Disk) (links : Nat) :
    disk.follow links = walk disk links (disk.jump links) := by
  cases links <;> rfl

theorem follow_cons (disk : Disk) (links : Nat) (place : List FileName) (name : FileName)
    (todo : List FileName) :
    disk.follow links place (name :: todo) =
      if name = [] ∨ name = Path.dot then disk.follow links place todo
      else if name = Path.dotDot then disk.follow links place.dropLast todo
      else if maxNameSize < size name then .error .nameTooLong
      else
        match disk.entryAt? (place ++ [name]) with
        | none => .error .missing
        | some .directory => disk.follow links (place ++ [name]) todo
        | some (.file bytes) =>
          if todo.isEmpty then .ok ⟨links, place ++ [name], .file bytes⟩ else .error .notDirectory
        | some (.link target) =>
          disk.jump links (if Path.isAbsolute target then [] else place)
            (Path.components target ++ todo) := by
  rw [follow_eq_walk]
  rfl

/-- `run` leads along `parts` and `rest` as it leads along `parts` and, from the directory reached,
following leads along `rest`. -/
def Splits (disk : Disk) (rest : List FileName)
    (run : List FileName → List FileName → Except Obstacle Arrival) : Prop :=
  ∀ place parts a, run place (parts ++ rest) = .ok a ↔
    ∃ m, run place parts = .ok m ∧ m.entry = .directory ∧ disk.follow m.links m.place rest = .ok a

theorem splits_follow {rest : List FileName} (hrest : rest ≠ [])
    (hjump : disk.Splits rest (disk.jump links)) : disk.Splits rest (disk.follow links) := by
  intro place parts a
  induction parts generalizing place with
  | nil => simp [follow_nil]
  | cons name parts ih =>
    simp only [List.cons_append, follow_cons]
    split
    · exact ih place
    · split
      · exact ih place.dropLast
      · split
        · simp
        · split
          · simp
          · exact ih _
          · cases parts <;> simp [hrest]
          · rw [← List.append_assoc]
            exact hjump _ _ a

theorem follow_append {rest : List FileName} (hrest : rest ≠ []) (links : Nat) :
    disk.Splits rest (disk.follow links) := by
  induction links with
  | zero => exact splits_follow hrest fun _ _ _ => by simp [jump]
  | succ links ih => exact splits_follow hrest ih

theorem follow_links_le (links : Nat) {place todo : List FileName} {a : Arrival}
    (h : disk.follow links place todo = .ok a) : a.links ≤ links := by
  have hstep : ∀ links, (∀ place todo a, disk.jump links place todo = .ok a → a.links ≤ links) →
      ∀ place todo a, disk.follow links place todo = .ok a → a.links ≤ links := by
    intro links hjump place todo a h
    induction todo generalizing place with
    | nil =>
      rw [follow_nil] at h
      cases h
      exact Nat.le_refl links
    | cons name todo ih =>
      rw [follow_cons] at h
      split at h
      · exact ih place h
      · split at h
        · exact ih _ h
        · split at h
          · cases h
          · split at h
            · cases h
            · exact ih _ h
            · split at h
              · cases h
                exact Nat.le_refl links
              · cases h
            · exact hjump _ _ _ h
  induction links generalizing place todo a with
  | zero => exact hstep 0 (by simp [jump]) _ _ _ h
  | succ links ih => exact hstep (links + 1) (fun _ _ _ hj => Nat.le_succ_of_le (ih hj)) _ _ _ h

theorem exists_of_entryAt? {e : Entry} (h : disk.entryAt? (place ++ [name]) = some e) :
    ∃ x ∈ disk.entries, x.1 = place ++ [name] := by
  rw [entryAt?, if_neg (by simp), Option.map_eq_some_iff] at h
  obtain ⟨x, hx, -⟩ := h
  exact ⟨x, List.mem_of_find?_eq_some hx, by simpa using List.find?_some hx⟩

theorem mem_names_iff : name ∈ disk.names place ↔ ∃ x ∈ disk.entries, x.1 = place ++ [name] := by
  have hn : ∀ p, nameIn? place p = some name ↔ p = place ++ [name] := by
    intro p
    simp only [nameIn?]
    constructor
    · intro h
      split at h
      · rename_i hp
        obtain ⟨t, rfl⟩ := List.isPrefixOf_iff_prefix.mp hp
        rw [List.drop_left] at h
        split at h
        · cases h
          rfl
        · cases h
      · cases h
    · rintro rfl
      simp
  simp [names, List.mem_filterMap, hn]

theorem plain_of_mem_names (h : name ∈ disk.names place) : Path.IsPlain name := by
  obtain ⟨x, hx, he⟩ := mem_names_iff.mp h
  exact disk.plain x hx name (by simp [he])

/-- One step to a plain name leads to an entry of the directory, or through a link that lies
there. -/
theorem follow_plain {a : Arrival} (hp : Path.IsPlain name)
    (h : disk.follow links place [name] = .ok a) :
    name ∈ disk.names place ∧ ((a.links = links ∧ a.place = place ++ [name]) ∨ a.links < links) := by
  obtain ⟨hn, hd, hdd, -⟩ := hp
  rw [follow_cons, if_neg (by simp [hn, hd]), if_neg hdd] at h
  split at h
  · cases h
  · split at h
    · cases h
    case h_2 he =>
      rw [follow_nil] at h
      cases h
      exact ⟨mem_names_iff.mpr (exists_of_entryAt? he), .inl ⟨rfl, rfl⟩⟩
    case h_3 he =>
      cases h
      exact ⟨mem_names_iff.mpr (exists_of_entryAt? he), .inl ⟨rfl, rfl⟩⟩
    case h_4 he =>
      refine ⟨mem_names_iff.mpr (exists_of_entryAt? he), .inr ?_⟩
      cases links with
      | zero => cases h
      | succ links => exact Nat.lt_succ_of_le (follow_links_le links h)

def populationBelow (disk : Disk) (place : List FileName) : Nat :=
  disk.entries.countP fun e => place.isPrefixOf e.1 && e.1 != place

/-- What is left to go from where one arrived: links to follow, and entries to go down to. -/
def room (disk : Disk) (a : Arrival) : Nat :=
  a.links * (disk.entries.length + 1) + disk.populationBelow a.place

theorem populationBelow_le (disk : Disk) (place : List FileName) :
    disk.populationBelow place ≤ disk.entries.length :=
  List.countP_le_length

theorem populationBelow_lt (h : name ∈ disk.names place) :
    disk.populationBelow (place ++ [name]) < disk.populationBelow place := by
  obtain ⟨x, hx, he⟩ := mem_names_iff.mp h
  let deeper := disk.entries.filter fun e => place.isPrefixOf e.1 && e.1 != place
  have hsub : disk.populationBelow (place ++ [name]) =
      (deeper.filter fun e => (place ++ [name]).isPrefixOf e.1 && e.1 != place ++ [name]).length := by
    rw [populationBelow, List.countP_eq_length_filter, List.filter_filter]
    congr 1
    apply List.filter_congr
    intro e _
    rw [Bool.eq_iff_iff]
    simp only [Bool.and_eq_true, List.isPrefixOf_iff_prefix, bne_iff_ne, ne_eq]
    constructor
    · rintro ⟨hp, hne⟩
      refine ⟨⟨hp, hne⟩, (List.prefix_append place [name]).trans hp, ?_⟩
      intro hq
      have hlen := hp.length_le
      simp only [hq, List.length_append, List.length_singleton] at hlen
      omega
    · exact And.left
  rw [hsub, populationBelow, List.countP_eq_length_filter]
  exact List.length_filter_lt_length_iff_exists.mpr
    ⟨x, List.mem_filter.mpr ⟨hx, by simp [he]⟩, by simp [he]⟩

theorem room_lt {a b : Arrival} (hp : Path.IsPlain name)
    (h : disk.follow a.links a.place [name] = .ok b) : disk.room b < disk.room a := by
  obtain ⟨hn, ⟨hl, hb⟩ | hl⟩ := follow_plain hp h
  · simpa [room, hl, hb] using populationBelow_lt hn
  · have hle := disk.populationBelow_le b.place
    have hm : (b.links + 1) * (disk.entries.length + 1) ≤ a.links * (disk.entries.length + 1) :=
      Nat.mul_le_mul_right _ hl
    simp only [room, Nat.add_mul] at hm ⊢
    omega

end LintDispatch.Disk
