import LintDispatch.Proofs.Yaml.Merging
import LintDispatch.Yaml.Document

/-! Why a document that was read has no value. Unless it is malformed, a scalar of it does not hold
what its tag promises, a mapping is tagged as a scalar, or its mappings lead on to one another
further than the stack goes. -/

namespace LintDispatch.Yaml

open Outcome (Meets)

def Document.Offers (d : Document) (c : Content) : Prop :=
  c = .chars [] ∨ ∃ k, d.Holds (.scalar k c)

/-- The graph of a document after some of its merges. -/
inductive Document.Becomes (depth : Depth) (d : Document) : Graph → Prop where
  | placed : Becomes depth d (Graph.ofDocument d).1
  | merged {g g' : Graph} {id : Nat} (h : Becomes depth d g) (hid : (g.cell id).isMapping = true)
      (hg : g.merge depth.merges id = .ok g') : Becomes depth d g'

/-- From a node on, so many mappings in turn give the text of the next one under the key `=`. In a
circle there is no end to that. -/
def Graph.LeadsOn (g : Graph) : Nat → Nat → Prop
  | 0, _ => True
  | n + 1, id => ∃ k entries e, g.cell id = .mapping k entries ∧
      entries.find? (fun e => g.kind e.1 = .value) = some e ∧ g.LeadsOn n e.2

/-- What there is to say against the nodes of a document. A mapping that is tagged as a scalar is
read from the content that it gives under the key `=`, if it does not lead on too far for the stack;
nor may as many entries merge as the stack has room for. -/
inductive Document.Unfit (depth : Depth) (d : Document) : Error → Prop where
  | scalar {k : Kind} {c : Content} {e : Error} (h : d.Holds (.scalar k c))
      (he : Construction.scalar k c = .error e) : Unfit depth d e
  | mapping {k : Kind} {entries : List (Node × Node)} {c : Content} {e : Error}
      (h : d.Holds (.mapping k entries)) (hc : d.Offers c)
      (he : Construction.scalar k c = .error e) : Unfit depth d e
  | shape {entries : List (Node × Node)} (h : d.Holds (.mapping .timestamp entries)) :
      Unfit depth d .timestampShape
  | texts {g : Graph} {id : Nat} (hg : d.Becomes depth g) (h : g.LeadsOn depth.texts id) :
      Unfit depth d .recursion
  | merges (h : depth.merges ≤ (Graph.ofDocument d).1.mergeCount) : Unfit depth d .recursion

def Document.Refused (depth : Depth) (d : Document) (e : Error) : Prop :=
  e = .malformed ∨ d.Unfit depth e

variable {depth : Depth} {d : Document}

theorem Document.malformed_refused : d.Refused depth .malformed :=
  .inl rfl

theorem Document.Becomes.kept {g : Graph} (h : d.Becomes depth g) :
    Graph.Kept d (Graph.ofDocument d).1 g := by
  induction h with
  | placed => exact .refl _
  | merged _ hid hg ih => exact ih.trans ((Graph.merge_does _ _ _ hid).of_eq_ok hg).toKept

theorem Document.Becomes.source {g : Graph} (h : d.Becomes depth g) : g.From d :=
  h.kept.source (Graph.ofDocument_from d)

/-- Any content is a text. -/
theorem Construction.scalar_str_ne_error (c : Content) (e : Error) :
    Construction.scalar .str c ≠ .error e := by
  cases c <;> exact nofun

namespace Cell.From

theorem unfit_of_scalar {k : Kind} {c : Content} (h : Cell.From d (.scalar k c)) {e : Error}
    (he : Construction.scalar k c = .error e) : d.Unfit depth e := by
  cases h with
  | scalar h => exact .scalar h he
  | word h => exact absurd he (Construction.scalar_str_ne_error c e)
  | blank => cases he

theorem unfit_of_mapping {k : Kind} {ids : List (Nat × Nat)} (h : Cell.From d (.mapping k ids))
    {c : Content} (hc : d.Offers c) {e : Error} (he : Construction.scalar k c = .error e) :
    d.Unfit depth e := by
  cases h with
  | mapping h => exact .mapping h hc he
  | wordMapping => exact absurd he (Construction.scalar_str_ne_error c e)

theorem unfit_of_timestamp {ids : List (Nat × Nat)} (h : Cell.From d (.mapping .timestamp ids)) :
    d.Unfit depth .timestampShape := by
  cases h with
  | mapping h => exact .shape h

end Cell.From

namespace Assembly

theorem content?_offered {g : Graph} (hg : g.From d) (room id : Nat) :
    Meets d.Offers (fun e => e = .malformed ∨ e = .recursion ∧ g.LeadsOn room id)
      (content? g room id) := by
  induction room generalizing id with
  | zero => exact .inr ⟨rfl, trivial⟩
  | succ room ih =>
    have hcell := hg id
    rw [content?]
    split
    · rename_i hc
      rw [hc] at hcell
      cases hcell with
      | scalar h => exact .inr ⟨_, h⟩
      | word h => exact .inr ⟨_, h⟩
      | blank => exact .inl rfl
    · rename_i hc
      split
      · rename_i hfind
        exact (ih _).imp_error fun e he => he.imp_right fun h => ⟨h.1, _, _, _, hc, hfind, h.2⟩
      · exact .inl rfl
    · exact .inl rfl

/-- A scalar gives its own content, and a sequence gives none. -/
theorem content?_eq_ok {g : Graph} {room id : Nat} {c : Content}
    (h : content? g room id = .ok c) :
    (∀ k c', g.cell id = .scalar k c' → c' = c) ∧ ∀ k ids, g.cell id ≠ .sequence k ids := by
  cases room with
  | zero => cases h
  | succ room =>
    rw [content?] at h
    split at h
    · rename_i hc
      cases h
      simp [hc]
    · rename_i hc
      simp [hc]
    · cases h

theorem scalarAt_refuses {g : Graph} (hg : d.Becomes depth g) (id : Nat) :
    Meets (fun _ => True) (d.Refused depth) (scalarAt depth g id) := by
  have hcontent := (content?_offered hg.source depth.texts id).imp_error
    (R := d.Refused depth) fun e he => he.imp_right fun ⟨h, hleads⟩ => h ▸ .texts hg hleads
  have hcell := hg.source id
  rw [scalarAt, Graph.kind]
  cases hc : g.cell id with
  | scalar k c =>
    rw [hc] at hcell
    cases hx : content? g depth.texts id with
    | error e => exact hcontent.of_eq_error hx
    | ok c' =>
      -- A scalar is read from its own content, so what fails is this very node of the document.
      obtain rfl := (content?_eq_ok hx).1 k c hc
      refine Outcome.meets_true_iff.mpr fun e he => .inr (hcell.unfit_of_scalar ?_)
      simpa [Cell.kind, Cell.isMapping, bind, Except.bind] using he
  | sequence k ids =>
    cases hx : content? g depth.texts id with
    | error e => exact hcontent.of_eq_error hx
    | ok c => exact absurd hc ((content?_eq_ok hx).2 k ids)
  | mapping k ids =>
    rw [hc] at hcell
    refine hcontent.bind fun c hoffered => .ite (fun hk => ?_) fun _ => ?_
    · obtain rfl : k = .timestamp := of_decide_eq_true (Bool.and_eq_true_iff.mp hk).1
      exact .inr hcell.unfit_of_timestamp
    · exact Outcome.meets_true_iff.mpr fun e he => .inr (hcell.unfit_of_mapping hoffered he)

/-- An assembly of a document on its way. The graph goes on being the document's, and at most `n`
collections are still to be filled, those of nodes that are not met yet among them. -/
structure Going (depth : Depth) (d : Document) (n : Nat) (a : Assembly) : Prop where
  graph : d.Becomes depth a.graph
  size : a.parts.size = a.graph.size
  left : a.parts.countP Option.isNone + a.waiting.length ≤ n

abbrev Assembles (depth : Depth) (d : Document) (n : Nat) : Except Error Assembly → Prop :=
  Meets (Going depth d n) (d.Refused depth)

theorem countP_setIfInBounds_some (parts : Array (Option Part)) (id : Nat) (p : Part) :
    (parts.setIfInBounds id (some p)).countP Option.isNone =
      parts.countP Option.isNone - if id < parts.size ∧ parts.getD id none = none then 1 else 0 := by
  by_cases hid : id < parts.size
  · simp [Array.setIfInBounds, hid, Array.countP_set, Array.getD]
  · simp [Array.setIfInBounds, hid]

theorem lt_size_of_isCollection {g : Graph} {id : Nat}
    (h : Construction.isCollection (g.kind id) = true) : id < g.size := by
  by_contra hid
  rw [Graph.kind, Graph.cell, Array.getD_eq_getD_getElem?,
    Array.getElem?_eq_none (Nat.le_of_not_lt hid)] at h
  cases h

variable {n : Nat} {a : Assembly}

theorem Going.setPart (h : a.Going depth d n) (id : Nat) (p : Part) :
    Going depth d n { a with parts := a.parts.setIfInBounds id (some p) } where
  graph := h.graph
  size := Array.size_setIfInBounds.trans h.size
  left := by
    rw [countP_setIfInBounds_some]
    exact Nat.le_trans (Nat.add_le_add_right (Nat.sub_le _ _) _) h.left

/-- A collection that is first met waits in place of a node that was not met. -/
theorem Going.wait (h : a.Going depth d n) {id : Nat} (hid : id < a.graph.size)
    (hnew : a.parts.getD id none = none) (p : Part) :
    Going depth d n { a with parts := a.parts.setIfInBounds id (some p)
                             waiting := a.waiting ++ [id] } where
  graph := h.graph
  size := Array.size_setIfInBounds.trans h.size
  left := by
    have hleft := h.left
    have hmet : 0 < a.parts.countP Option.isNone := by
      rw [Array.countP_pos_iff]
      rw [← h.size] at hid
      exact ⟨_, Array.getElem_mem hid, by simpa [Array.getD, hid] using hnew⟩
    rw [countP_setIfInBounds_some, if_pos ⟨h.size ▸ hid, hnew⟩, List.length_append,
      List.length_singleton]
    omega

theorem meet_assembles (h : a.Going depth d n) (id : Nat) :
    Assembles depth d n (a.meet depth id) := by
  refine .ite (fun _ => h) fun hnew => .ite (fun _ => ?_) fun _ => .ite (fun hk => ?_) fun _ =>
    Document.malformed_refused
  · exact (scalarAt_refuses h.graph id).map fun s _ => h.setPart id (.scalar s)
  · exact h.wait (lt_size_of_isCollection hk) (by simpa using hnew) _

theorem meetKey_assembles (h : a.Going depth d n) (id : Nat) :
    Assembles depth d n (a.meetKey depth id) :=
  (meet_assembles h id).bind fun _ ha => .ite (fun _ => ha) fun _ => Document.malformed_refused

theorem meetItems_assembles (h : a.Going depth d n) (ids : List Nat) :
    Assembles depth d n (a.meetItems depth ids) :=
  .foldlM h fun id _ _ ha => meet_assembles ha id

theorem meetEntries_assembles (h : a.Going depth d n) (entries : List (Nat × Nat)) :
    Assembles depth d n (a.meetEntries depth entries) :=
  .foldlM h fun e _ _ ha => (meetKey_assembles ha e.1).bind fun _ ha => meet_assembles ha e.2

theorem meetPairs_assembles (h : a.Going depth d n) (ids : List Nat) :
    Meets (fun r => r.1.Going depth d n) (d.Refused depth) (a.meetPairs depth ids) := by
  induction ids generalizing a with
  | nil => exact h
  | cons id rest ih =>
    rw [meetPairs]
    split
    · exact (meetItems_assembles h _).bind fun _ ha => (ih ha).bind fun _ hr => hr
    · exact Document.malformed_refused

theorem merge_assembles (h : a.Going depth d n) {id : Nat}
    (hid : (a.graph.cell id).isMapping = true) :
    Meets (fun g => Going depth d n { a with graph := g }) (d.Refused depth)
      (a.graph.merge depth.merges id) := by
  have hmerge := Graph.merge_does (d := d) depth.merges a.graph id hid
  cases hm : a.graph.merge depth.merges id with
  | ok g' =>
    have hsize : g'.size = a.graph.size := (hmerge.of_eq_ok hm).size
    exact ⟨.merged h.graph hid hm, h.size.trans hsize.symm, h.left⟩
  | error e =>
    refine (hmerge.of_eq_error hm).imp_right fun he => ?_
    rw [he.1]
    exact .merges (Nat.le_trans he.2 h.graph.kept.mergeCount_le)

theorem fill_assembles (h : a.Going depth d n) (id : Nat) :
    Assembles depth d n (a.fill depth id) := by
  have hmapping (make : List (Nat × Nat) → Part) (hid : (a.graph.cell id).isMapping = true) :
      Assembles depth d n (do
        let g ← a.graph.merge depth.merges id
        let a ← ({ a with graph := g } : Assembly).meetEntries depth (g.entries id)
        return { a with parts := a.parts.setIfInBounds id (some (make (g.entries id))) }) :=
    (merge_assembles h hid).bind fun g hg =>
      (meetEntries_assembles hg _).bind fun _ ha => ha.setPart id _
  rw [fill]
  split
  · exact (meetItems_assembles h _).map fun _ ha => ha.setPart id _
  · rename_i hc
    exact hmapping .map (hc ▸ rfl)
  · rename_i hc
    exact hmapping (fun entries => .set (entries.map Prod.fst)) (hc ▸ rfl)
  · exact (meetPairs_assembles h _).map fun _ hr => hr.setPart id _
  · exact (meetPairs_assembles h _).map fun _ hr => hr.setPart id _
  · exact Document.malformed_refused

/-- Every collection that is filled is one less to be filled, so the fuel does not run out. -/
theorem fillAll_assembles {fuel : Nat} (h : a.Going depth d n) (hf : n < fuel) :
    Assembles depth d n (a.fillAll depth fuel) := by
  induction fuel generalizing a n with
  | zero => exact absurd hf (Nat.not_lt_zero n)
  | succ fuel ih =>
    rw [fillAll]
    split
    · exact h
    · rename_i id rest hw
      have hleft := h.left
      rw [hw, List.length_cons] at hleft
      have hrest : Going depth d (n - 1) { a with waiting := rest } :=
        ⟨h.graph, h.size, Nat.le_sub_one_of_lt hleft⟩
      refine .bind (fill_assembles hrest id) fun _ ha => ?_
      exact (ih ha (by omega)).imp fun _ hb =>
        ⟨hb.graph, hb.size, Nat.le_trans hb.left (Nat.sub_le n 1)⟩

theorem ofRoot_assembles {g : Graph} (hg : d.Becomes depth g) (root : Nat) :
    Assembles depth d g.size (ofRoot depth g root) := by
  have hfresh : Going depth d g.size ⟨g, Array.replicate g.size none, []⟩ :=
    ⟨hg, Array.size_replicate, by simp [Array.countP_replicate]⟩
  exact (meet_assembles hfresh root).bind fun _ ha => fillAll_assembles ha (Nat.lt_succ_self _)

end Assembly

/-- A document without a value is malformed, or has a node that is unfit. -/
theorem Document.value_refuses (depth : Depth) (d : Document) :
    Meets (fun _ => True) (d.Refused depth) (d.value depth) :=
  (Assembly.ofRoot_assembles .placed _).bind fun _ _ => trivial

end LintDispatch.Yaml
