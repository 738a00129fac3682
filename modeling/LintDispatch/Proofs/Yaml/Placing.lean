import LintDispatch.Proofs.Outcome
import LintDispatch.Yaml.Graph

/-! The cells of a graph come from the nodes of its document. -/

namespace LintDispatch.Yaml

open Outcome (Meets)

inductive Node.In (n : Node) : Node → Prop where
  | self : Node.In n n
  | item {k : Kind} {items : List Node} {m : Node} (hm : m ∈ items) (h : Node.In n m) :
      Node.In n (.sequence k items)
  | key {k : Kind} {entries : List (Node × Node)} {e : Node × Node} (he : e ∈ entries)
      (h : Node.In n e.1) : Node.In n (.mapping k entries)
  | value {k : Kind} {entries : List (Node × Node)} {e : Node × Node} (he : e ∈ entries)
      (h : Node.In n e.2) : Node.In n (.mapping k entries)

def Document.Holds (d : Document) (n : Node) : Prop :=
  n.In d.root ∨ ∃ a ∈ d.anchors, n.In a.2

variable {d : Document}

/-- What a cell can have in it: a node of the document, one that became text, or nothing at all. -/
inductive Cell.From (d : Document) : Cell → Prop where
  | scalar {k : Kind} {c : Content} (h : d.Holds (.scalar k c)) : Cell.From d (.scalar k c)
  | word {k : Kind} {c : Content} (h : d.Holds (.scalar k c)) : Cell.From d (.scalar .str c)
  | blank : Cell.From d Graph.blank
  | sequence (k : Kind) (ids : List Nat) : Cell.From d (.sequence k ids)
  | mapping {k : Kind} {entries : List (Node × Node)} (h : d.Holds (.mapping k entries))
      (ids : List (Nat × Nat)) : Cell.From d (.mapping k ids)
  | wordMapping (ids : List (Nat × Nat)) : Cell.From d (.mapping .str ids)

namespace Cell.From

/-- Which entries a mapping has does not matter. -/
theorem withEntries {k : Kind} {ids : List (Nat × Nat)} (h : Cell.From d (.mapping k ids))
    (ids' : List (Nat × Nat)) : Cell.From d (.mapping k ids') := by
  cases h with
  | mapping h => exact .mapping h ids'
  | wordMapping => exact .wordMapping ids'

/-- A key `=` can become text. -/
theorem withStr {c : Cell} (h : c.From d) (hk : c.kind = .value) : (c.withKind .str).From d := by
  cases h with
  | scalar h => exact .word h
  | word h => exact .word h
  | blank => cases hk
  | sequence k ids => exact .sequence .str ids
  | mapping h ids => exact .wordMapping ids
  | wordMapping ids => exact .wordMapping ids

end Cell.From

namespace Graph

variable {g : Graph}

theorem cell_push (g : Graph) (c : Cell) (id : Nat) :
    Graph.cell (g.push c) id = if id = g.size then c else g.cell id := by
  simp only [cell, Array.getD_eq_getD_getElem?, Array.getElem?_push]
  split <;> rfl

theorem cell_setIfInBounds (g : Graph) (i : Nat) (c : Cell) (id : Nat) :
    Graph.cell (g.setIfInBounds i c) id = if i = id ∧ id < g.size then c else g.cell id := by
  simp only [cell, Array.getD_eq_getD_getElem?, Array.getElem?_setIfInBounds]
  by_cases hid : i = id
  · by_cases hlt : i < g.size
    · simp [hid, hid ▸ hlt]
    · simp [hid, hid ▸ hlt]
  · simp [hid]

def From (d : Document) (g : Graph) : Prop :=
  ∀ id, (g.cell id).From d

theorem From.push (h : g.From d) {c : Cell} (hc : c.From d) : Graph.From d (g.push c) := by
  intro id
  rw [cell_push]
  split
  · exact hc
  · exact h id

theorem From.setIfInBounds (h : g.From d) {i : Nat} {c : Cell} (hc : c.From d) :
    Graph.From d (g.setIfInBounds i c) := by
  intro id
  rw [cell_setIfInBounds]
  split
  · exact hc
  · exact h id

/-! Placing. -/

mutual

theorem place_from (anchors : List (List Char)) {g : Graph} (hg : g.From d) (n : Node)
    (hn : ∀ m, m.In n → d.Holds m) : (place anchors g n).1.From d := by
  match n with
  | .scalar k c => exact hg.push (.scalar (hn _ .self))
  | .sequence k items =>
    exact (placeItems_from anchors hg items fun m hm i hi => hn i (.item hm hi)).push
      (.sequence _ _)
  | .mapping k entries =>
    exact (placeEntries_from anchors hg entries (fun e he i hi => hn i (.key he hi))
      fun e he i hi => hn i (.value he hi)).push (.mapping (hn _ .self) _)
  | .alias name => exact hg

theorem placeItems_from (anchors : List (List Char)) {g : Graph} (hg : g.From d)
    (items : List Node) (hitems : ∀ n ∈ items, ∀ m, m.In n → d.Holds m) :
    (placeItems anchors g items).1.From d := by
  match items with
  | [] => exact hg
  | n :: rest =>
    exact placeItems_from anchors (place_from anchors hg n (hitems n List.mem_cons_self)) rest
      fun n hn => hitems n (List.mem_cons_of_mem _ hn)

theorem placeEntries_from (anchors : List (List Char)) {g : Graph} (hg : g.From d)
    (entries : List (Node × Node)) (hkeys : ∀ e ∈ entries, ∀ m, m.In e.1 → d.Holds m)
    (hvalues : ∀ e ∈ entries, ∀ m, m.In e.2 → d.Holds m) :
    (placeEntries anchors g entries).1.From d := by
  match entries with
  | [] => exact hg
  | (k, v) :: rest =>
    exact placeEntries_from anchors
      (place_from anchors (place_from anchors hg k (hkeys _ List.mem_cons_self)) v
        (hvalues _ List.mem_cons_self)) rest
      (fun e he => hkeys e (List.mem_cons_of_mem _ he))
      fun e he => hvalues e (List.mem_cons_of_mem _ he)

end

theorem placeAnchored_from (anchors : List (List Char)) (id : Nat) (hg : g.From d)
    (nodes : List Node) (hnodes : ∀ n ∈ nodes, ∀ m, m.In n → d.Holds m) :
    (placeAnchored anchors id g nodes).From d := by
  induction nodes generalizing id g with
  | nil => exact hg
  | cons n rest ih =>
    have hplaced := place_from anchors hg n (hnodes n List.mem_cons_self)
    exact ih _ (hplaced.setIfInBounds (hplaced _)) fun n hn => hnodes n (List.mem_cons_of_mem _ hn)

theorem ofDocument_from (d : Document) : (ofDocument d).1.From d := by
  refine place_from _ (placeAnchored_from _ _ ?_ _ ?_) _ fun m hm => .inl hm
  · intro id
    have hblank :
        Graph.cell (Array.replicate (d.anchors.map Prod.fst).length blank) id = blank := by
      simp only [cell, Array.getD_eq_getD_getElem?, Array.getElem?_replicate]
      split <;> rfl
    rw [hblank]
    exact .blank
  · intro n hn m hm
    obtain ⟨a, ha, rfl⟩ := List.mem_map.mp hn
    exact .inr ⟨a, ha, hm⟩

end Graph

end LintDispatch.Yaml
