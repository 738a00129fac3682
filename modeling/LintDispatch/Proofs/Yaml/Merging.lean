import LintDispatch.Proofs.Yaml.Placing
import Mathlib.Algebra.Order.BigOperators.Group.Finset
import Mathlib.Data.List.InsertIdx

/-! The merges of a graph. A merge takes and gives entries, and makes text of a key `=`; it leaves
mappings mappings, and all else as it is. Nothing that merges is left in a mapping whose merges are
done, so every step into another mapping has one entry less to merge than the step before. -/

namespace LintDispatch.Yaml.Graph

open Outcome (Meets)

variable {d : Document} {g g' g'' : Graph}

def Plain (g : Graph) (es : List (Nat × Nat)) : Prop :=
  ∀ e ∈ es, g.kind e.1 ≠ .merge

def Free (g : Graph) (id : Nat) : Prop :=
  g.Plain (g.entries id)

def mergesAt (g : Graph) (id : Nat) : Nat :=
  (g.entries id).countP fun e => g.kind e.1 = .merge

def mergeCount (g : Graph) : Nat :=
  ∑ id ∈ Finset.range g.size, g.mergesAt id

theorem Plain.countP {es : List (Nat × Nat)} (h : g.Plain es) :
    es.countP (fun e => g.kind e.1 = .merge) = 0 :=
  List.countP_eq_zero.mpr fun e he => by simpa using h e he

theorem lt_size_of_isMapping {id : Nat} (h : (g.cell id).isMapping = true) : id < g.size := by
  by_contra hsize
  simp [cell, Array.getD_eq_getD_getElem?, Array.getElem?_eq_none (Nat.le_of_not_lt hsize), blank,
    Cell.isMapping] at h

theorem kind_setKind (g : Graph) (key id : Nat) (k : Kind) :
    Graph.kind (g.setKind key k) id = if key = id ∧ id < g.size then k else g.kind id := by
  rw [kind, setKind, cell_setIfInBounds]
  split
  · cases g.cell key <;> rfl
  · rfl

/-- A key `=` has never been one that merges. -/
theorem keys_setKind {key : Nat} (hk : g.kind key = .value) (id : Nat) :
    Graph.kind (g.setKind key .str) id = .merge ↔ g.kind id = .merge := by
  rw [kind_setKind]
  split
  · rename_i h
    simp [← h.1, hk]
  · rfl

theorem entries_setKind (g : Graph) (key id : Nat) (k : Kind) :
    Graph.entries (g.setKind key k) id = g.entries id := by
  rw [entries, setKind, cell_setIfInBounds]
  split
  · rename_i h
    rw [entries, h.1]
    cases g.cell id <;> rfl
  · rfl

theorem kind_setEntries (g : Graph) (id id' : Nat) (es : List (Nat × Nat)) :
    Graph.kind (g.setEntries id es) id' = g.kind id' := by
  rw [kind, setEntries, cell_setIfInBounds]
  split
  · rename_i h
    rw [h.1]
    rfl
  · rfl

theorem entries_setEntries {id : Nat} (hid : (g.cell id).isMapping = true) (id' : Nat)
    (es : List (Nat × Nat)) :
    Graph.entries (g.setEntries id es) id' = if id = id' then es else g.entries id' := by
  rw [entries, setEntries, cell_setIfInBounds]
  by_cases h : id = id'
  · rw [if_pos ⟨h, h ▸ lt_size_of_isMapping hid⟩, if_pos h]
    rfl
  · rw [if_neg fun hh => h hh.1, if_neg h]
    rfl

/-- The entries that merge are the same if all entries are. -/
theorem mergesAt_eq (h : ∀ id, g'.kind id = .merge ↔ g.kind id = .merge) {id : Nat}
    (he : g'.entries id = g.entries id) : g'.mergesAt id = g.mergesAt id := by
  simp only [mergesAt, he, h]

theorem mergesAt_setEntries {id : Nat} (hid : (g.cell id).isMapping = true)
    (es : List (Nat × Nat)) :
    Graph.mergesAt (g.setEntries id es) id = es.countP fun e => g.kind e.1 = .merge := by
  simp only [mergesAt, entries_setEntries hid, kind_setEntries, if_true]

/-- What a step of a merge keeps of a graph. -/
structure Kept (d : Document) (g g' : Graph) : Prop where
  source : g.From d → g'.From d
  shape : ∀ id, (g'.cell id).isMapping = (g.cell id).isMapping
  size : g'.size = g.size
  keys : ∀ id, g'.kind id = .merge ↔ g.kind id = .merge
  fewer : ∀ id, g'.mergesAt id ≤ g.mergesAt id

namespace Kept

theorem refl (g : Graph) : Kept d g g :=
  ⟨id, fun _ => rfl, rfl, fun _ => .rfl, fun _ => Nat.le_refl _⟩

theorem trans (h : Kept d g g') (h' : Kept d g' g'') : Kept d g g'' :=
  ⟨h'.source ∘ h.source, fun id => (h'.shape id).trans (h.shape id), h'.size.trans h.size,
    fun id => (h'.keys id).trans (h.keys id), fun id => (h'.fewer id).trans (h.fewer id)⟩

theorem mergeCount_le (h : Kept d g g') : g'.mergeCount ≤ g.mergeCount := by
  rw [mergeCount, h.size]
  exact Finset.sum_le_sum fun id _ => h.fewer id

theorem mergeCount_lt (h : Kept d g g') {id : Nat} (hid : id < g.size)
    (hlt : g'.mergesAt id < g.mergesAt id) : g'.mergeCount < g.mergeCount := by
  rw [mergeCount, h.size]
  exact Finset.sum_lt_sum (fun id _ => h.fewer id) ⟨id, Finset.mem_range.mpr hid, hlt⟩

theorem plain {es : List (Nat × Nat)} (h : Kept d g g') (hes : g.Plain es) : g'.Plain es :=
  fun e he => mt (h.keys e.1).mp (hes e he)

theorem free (h : Kept d g g') {id : Nat} (he : g'.entries id = g.entries id) (hfree : g.Free id) :
    g'.Free id := by
  rw [Free, he]
  exact h.plain hfree

theorem setKind {key : Nat} (hk : g.kind key = .value) : Kept d g (g.setKind key .str) where
  source h := h.setIfInBounds ((h key).withStr hk)
  shape id := by
    rw [Graph.setKind, cell_setIfInBounds]
    split
    · rename_i hid
      rw [hid.1]
      cases g.cell id <;> rfl
    · rfl
  size := Array.size_setIfInBounds
  keys id := keys_setKind hk id
  fewer id := Nat.le_of_eq (mergesAt_eq (keys_setKind hk) (entries_setKind g key id .str))

theorem setEntries {id : Nat} (hid : (g.cell id).isMapping = true) {es : List (Nat × Nat)}
    (hes : es.countP (fun e => g.kind e.1 = .merge) ≤ g.mergesAt id) :
    Kept d g (g.setEntries id es) where
  source h := by
    have hcell := h id
    rw [Graph.setEntries, kind]
    cases hc : g.cell id with
    | mapping k ids => exact h.setIfInBounds ((hc ▸ hcell).withEntries es)
    | scalar k c => simp [hc, Cell.isMapping] at hid
    | sequence k ids => simp [hc, Cell.isMapping] at hid
  shape id' := by
    rw [Graph.setEntries, cell_setIfInBounds]
    split
    · rename_i h
      rw [← h.1, hid]
      rfl
    · rfl
  size := Array.size_setIfInBounds
  keys id' := by rw [kind_setEntries]
  fewer id' := by
    by_cases h : id = id'
    · subst h
      rwa [mergesAt_setEntries hid]
    · refine Nat.le_of_eq (mergesAt_eq (fun _ => by rw [kind_setEntries]) ?_)
      rw [entries_setEntries hid, if_neg h]

end Kept

theorem countP_eraseIdx_lt {α : Type} {p : α → Bool} {as : List α} {i : Nat} {a : α}
    (h : as[i]? = some a) (ha : p a = true) : (as.eraseIdx i).countP p < as.countP p := by
  obtain ⟨hi, rfl⟩ := List.getElem?_eq_some_iff.mp h
  have hsplit : as = as.take i ++ as[i] :: as.drop (i + 1) := by
    rw [← List.drop_eq_getElem_cons hi, List.take_append_drop]
  conv_rhs => rw [hsplit]
  rw [List.eraseIdx_eq_take_drop_succ, List.countP_append, List.countP_append,
    List.countP_cons_of_pos ha]
  omega

/-- An entry that is about to merge leaves its mapping first. -/
theorem erase_kept {id index : Nat} {e : Nat × Nat} (hid : (g.cell id).isMapping = true)
    (hget : (g.entries id)[index]? = some e) (hk : g.kind e.1 = .merge) :
    Kept d g (g.setEntries id ((g.entries id).eraseIdx index)) ∧
      Graph.mergeCount (g.setEntries id ((g.entries id).eraseIdx index)) < g.mergeCount := by
  have hlt : ((g.entries id).eraseIdx index).countP (fun e => g.kind e.1 = .merge) <
      g.mergesAt id := countP_eraseIdx_lt hget (decide_eq_true hk)
  have hkept : Kept d g (g.setEntries id ((g.entries id).eraseIdx index)) :=
    .setEntries hid (Nat.le_of_lt hlt)
  exact ⟨hkept, hkept.mergeCount_lt (lt_size_of_isMapping hid) (by rwa [mergesAt_setEntries hid])⟩

/-- What a merge into the mapping `id` does to a graph: nothing that merges is left there, and every
other mapping stays, or nothing is left there either. -/
structure Merged (d : Document) (id : Nat) (g g' : Graph) : Prop extends Kept d g g' where
  settles : ∀ id', g'.Free id' ∨ id' ≠ id ∧ g'.entries id' = g.entries id'

structure Merges (d : Document) (g g' : Graph) : Prop extends Kept d g g' where
  settles : ∀ id, g'.Free id ∨ g'.entries id = g.entries id

namespace Merges

theorem refl (g : Graph) : Merges d g g :=
  ⟨.refl g, fun _ => .inr rfl⟩

theorem trans (h : Merges d g g') (h' : Merges d g' g'') : Merges d g g'' := by
  refine ⟨h.toKept.trans h'.toKept, fun id => ?_⟩
  obtain hfree | he' := h'.settles id
  · exact .inl hfree
  · obtain hfree | he := h.settles id
    · exact .inl (h'.toKept.free he' hfree)
    · exact .inr (he'.trans he)

end Merges

namespace Merged

variable {id : Nat}

theorem merges (h : Merged d id g g') : Merges d g g' :=
  ⟨h.toKept, fun id' => (h.settles id').imp_right And.right⟩

theorem free (h : Merged d id g g') : g'.Free id :=
  (h.settles id).resolve_right fun hh => hh.1 rfl

theorem setEntries (hid : (g.cell id).isMapping = true) {es : List (Nat × Nat)}
    (hes : g.Plain es) : Merged d id g (g.setEntries id es) := by
  have hkept : Kept d g (g.setEntries id es) :=
    .setEntries hid (by rw [hes.countP]; exact Nat.zero_le _)
  refine ⟨hkept, fun id' => ?_⟩
  by_cases h : id = id'
  · subst h
    rw [Free, entries_setEntries hid, if_pos rfl]
    exact .inl (hkept.plain hes)
  · rw [entries_setEntries hid, if_neg h]
    exact .inr ⟨Ne.symm h, rfl⟩

theorem of_setKind {key : Nat} (hk : g.kind key = .value)
    (h : Merged d id (g.setKind key .str) g') : Merged d id g g' := by
  refine ⟨(Kept.setKind hk).trans h.toKept, fun id' => ?_⟩
  rw [← entries_setKind g key id' .str]
  exact h.settles id'

/-- Its own entries may change before a merge, and others merge. -/
theorem of_merges (hid : (g.cell id).isMapping = true) {es : List (Nat × Nat)}
    (hset : Kept d g (g.setEntries id es)) (hm : Merges d (g.setEntries id es) g')
    (h : Merged d id g' g'') : Merged d id g g'' := by
  refine ⟨(hset.trans hm.toKept).trans h.toKept, fun id' => ?_⟩
  obtain hfree | ⟨hne, he⟩ := h.settles id'
  · exact .inl hfree
  · obtain hfree | he' := hm.settles id'
    · exact .inl (h.toKept.free he hfree)
    · rw [entries_setEntries hid, if_neg (Ne.symm hne)] at he'
      exact .inr ⟨hne, he.trans he'⟩

end Merged

def Refused (room : Nat) (g : Graph) (e : Error) : Prop :=
  e = .malformed ∨ e = .recursion ∧ room ≤ g.mergeCount

theorem Kept.refused {room : Nat} {e : Error} (h : Kept d g g') (he : Refused room g' e) :
    Refused room g e :=
  he.imp_right fun he => ⟨he.1, Nat.le_trans he.2 h.mergeCount_le⟩

/-- A way to merge that does what a merge is to do, with room for `room` in one another. -/
def Does (d : Document) (room : Nat) (merge : Graph → Nat → Except Error Graph) : Prop :=
  ∀ g id, (g.cell id).isMapping = true → Meets (Merged d id g) (Refused room g) (merge g id)

variable {merge : Graph → Nat → Except Error Graph} {room : Nat}

theorem mergedItems_merges (hmerge : Does d room merge) (g : Graph) (ids : List Nat) :
    Meets (fun p => Merges d g p.1 ∧ p.1.Plain p.2) (Refused room g) (mergedItems merge g ids) := by
  induction ids generalizing g with
  | nil => exact ⟨.refl g, nofun⟩
  | cons id rest ih =>
    refine .ite (fun hid => (hmerge g id hid).bind fun g' hg' => ?_) fun _ => .inl rfl
    refine ((ih g').imp_error fun _ => hg'.toKept.refused).bind fun p hp => ?_
    exact ⟨hg'.merges.trans hp.1,
      List.forall_mem_append.mpr ⟨hp.2, hp.1.toKept.plain hg'.free⟩⟩

theorem merged_merges (hmerge : Does d room merge) (g : Graph) (value : Nat) :
    Meets (fun p => Merges d g p.1 ∧ p.1.Plain p.2) (Refused room g) (merged merge g value) := by
  rw [merged]
  split
  · exact mergedItems_merges hmerge g _
  · exact mergedItems_merges hmerge g _
  · exact .inl rfl

/-- Of a mapping that is gone over the first `index` entries do not merge, and `count` is enough for
the others. A mapping that is met again on the way is done with already. -/
def Going (g : Graph) (id index count : Nat) : Prop :=
  g.Free id ∨ g.Plain ((g.entries id).take index) ∧ (g.entries id).length ≤ index + count

namespace Going

variable {id index count : Nat}

theorem free (h : g.Going id index 0) : g.Free id := by
  obtain h | ⟨h, hlength⟩ := h
  · exact h
  · rwa [List.take_of_length_le (by omega)] at h

theorem done (h : g.Going id index (count + 1)) (hnone : (g.entries id)[index]? = none) :
    g.Going id index count := by
  have hlength := List.getElem?_eq_none_iff.mp hnone
  exact h.imp_right fun h => ⟨h.1, by omega⟩

theorem next {e : Nat × Nat} (h : g.Going id index (count + 1)) (hkept : Kept d g g')
    (he : g'.entries id = g.entries id) (hget : (g.entries id)[index]? = some e)
    (hk : g.kind e.1 ≠ .merge) : g'.Going id (index + 1) count := by
  rw [Going, he]
  refine h.imp (hkept.free he) fun h => ⟨hkept.plain ?_, by omega⟩
  rw [List.take_add_one, hget]
  exact List.forall_mem_append.mpr ⟨h.1, by simpa using hk⟩

/-- In place of an entry that left, the next one is looked at. -/
theorem erase {e : Nat × Nat} (h : g.Going id index (count + 1))
    (hid : (g.cell id).isMapping = true) (hget : (g.entries id)[index]? = some e)
    (hk : g.kind e.1 = .merge)
    (hset : Kept d g (g.setEntries id ((g.entries id).eraseIdx index)))
    (hm : Merges d (g.setEntries id ((g.entries id).eraseIdx index)) g') :
    g'.Going id index count := by
  obtain ⟨hplain, hlength⟩ := h.resolve_left fun hfree => hfree _ (List.mem_of_getElem? hget) hk
  have hlt : index < (g.entries id).length := (List.getElem?_eq_some_iff.mp hget).1
  refine (hm.settles id).imp_right fun he => ?_
  rw [he, entries_setEntries hid, if_pos rfl,
    List.take_eraseIdx_eq_take_of_le _ _ _ (Nat.le_refl _)]
  exact ⟨(hset.trans hm.toKept).plain hplain, by rw [List.length_eraseIdx_of_lt hlt]; omega⟩

end Going

theorem mergeFrom_merged (hmerge : Does d room merge) {id : Nat} {count index : Nat}
    {found : List (Nat × Nat)} {g : Graph} (hid : (g.cell id).isMapping = true)
    (hgoing : g.Going id index count) (hfound : g.Plain found) :
    Meets (Merged d id g) (Refused (room + 1) g) (mergeFrom merge id count index found g) := by
  induction count generalizing index found g with
  | zero => exact .setEntries hid (List.forall_mem_append.mpr ⟨hfound, hgoing.free⟩)
  | succ count ih =>
    rw [mergeFrom]
    split
    · exact ih hid (hgoing.done ‹_›) hfound
    · rename_i key value hget
      refine .ite (fun hk => ?_) fun hk => .ite (fun hv => ?_) fun _ => ?_
      · -- One entry less merges by now, so the merges of its value have the room that is left.
        obtain ⟨hset, hless⟩ := erase_kept (d := d) hid hget hk
        have hmerged := merged_merges hmerge (g.setEntries id ((g.entries id).eraseIdx index)) value
        refine (hmerged.imp_error fun e he => he.imp_right fun h => ⟨h.1, by omega⟩).bind
          fun p hp => ?_
        have hkept := hset.trans hp.1.toKept
        have hrest := ih ((hkept.shape id).trans hid) (hgoing.erase hid hget hk hset hp.1)
          (List.forall_mem_append.mpr ⟨hkept.plain hfound, hp.2⟩)
        exact (hrest.imp fun g' h => h.of_merges hid hset hp.1).imp_error fun _ => hkept.refused
      · have hset : Kept d g (g.setKind key .str) := .setKind hv
        have hgoing' := hgoing.next hset (entries_setKind g key id .str) hget hk
        have hrest := ih ((hset.shape id).trans hid) hgoing' (hset.plain hfound)
        exact (hrest.imp fun g' h => h.of_setKind hv).imp_error fun _ => hset.refused
      · exact ih hid (hgoing.next (Kept.refl (d := d) g) rfl hget hk) hfound

theorem merge_does (room : Nat) : Does d room (Graph.merge room) := by
  induction room with
  | zero => exact fun _ _ _ => .inr ⟨rfl, Nat.zero_le _⟩
  | succ room ih =>
    exact fun g id hid => mergeFrom_merged ih hid (.inr ⟨nofun, by simp⟩) nofun

end LintDispatch.Yaml.Graph
