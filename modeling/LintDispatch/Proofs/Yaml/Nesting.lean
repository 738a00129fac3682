import LintDispatch.Yaml.Node.Reader

/-! How deep the tokens of a document lead into its collections. Most collections have a token for
their start and one for their end. Two have none: a sequence whose entries stand right in a mapping
and a mapping of one entry right in a sequence, which end in front of what is not theirs. -/

namespace LintDispatch.Yaml

/-- What is around a token, the innermost collection or nothing but the document. -/
inductive Level where
  | document
  | flowSequence
  | flowMapping
  | blockSequence
  | blockMapping
  | indentless
  | pair
  deriving DecidableEq

namespace Token

def opens? : Token → Option Level
  | .flowSequence => some .flowSequence
  | .flowMapping => some .flowMapping
  | .blockSequence => some .blockSequence
  | .blockMapping => some .blockMapping
  | _ => none

def closes : Token → Bool
  | .flowSequenceEnd => true
  | .flowMappingEnd => true
  | .blockEnd => true
  | _ => false

end Token

namespace Level

def endsAt (l : Level) : Token → Bool
  | .key => l = .indentless
  | .value => l = .indentless
  | .flowEntry => l = .pair
  | _ => false

/-- A token that leaves the level as it is. -/
structure Keeps (l : Level) (t : Token) : Prop where
  opens : t.opens? = none
  closes : t.closes = false
  ends : l.endsAt t = false

/-- Tokens that begin and end on a level: of the collections in them none is left open. -/
inductive Spans : Level → List Token → Prop where
  | nil (l : Level) : Spans l []
  | cons {l : Level} {t : Token} {ts : List Token} (ht : l.Keeps t) (h : Spans l ts) :
      Spans l (t :: ts)
  | collection {l inside : Level} {t c : Token} {items ts : List Token}
      (ht : t.opens? = some inside) (hitems : Spans inside items) (hc : c.closes = true)
      (h : Spans l ts) : Spans l (t :: (items ++ c :: ts))

/-- The tokens ahead lead `n` collections further in. -/
inductive Leads : Level → Nat → List Token → Prop where
  | here (l : Level) (ts : List Token) : Leads l 0 ts
  | past {l : Level} {n : Nat} {used ts : List Token} (hu : l.Spans used) (h : Leads l n ts) :
      Leads l n (used ++ ts)
  | into {l inside : Level} {n : Nat} {t : Token} {ts : List Token} (ht : t.opens? = some inside)
      (h : Leads inside n ts) : Leads l (n + 1) (t :: ts)
  | indentless {n : Nat} {ts : List Token} (h : Leads .indentless n (.blockEntry :: ts)) :
      Leads .blockMapping (n + 1) (.blockEntry :: ts)
  | pair {n : Nat} {ts : List Token} (h : Leads .pair n ts) :
      Leads .flowSequence (n + 1) (.key :: ts)

variable {l l' : Level}

theorem Spans.append {ts us : List Token} (hts : l.Spans ts) (hus : l.Spans us) :
    l.Spans (ts ++ us) := by
  induction hts with
  | nil => exact hus
  | cons ht _ ih => exact .cons ht (ih hus)
  | collection ht hitems hc _ _ ih =>
    rw [List.cons_append, List.append_assoc, List.cons_append]
    exact .collection ht hitems hc (ih hus)

theorem Spans.single {t : Token} (ht : l.Keeps t) : l.Spans [t] :=
  .cons ht (.nil l)

/-- A level that ends nowhere by itself can take the place of any other. -/
theorem Spans.widen {ts : List Token} (h : l'.Spans ts) (hl : ∀ t, l.endsAt t = false) :
    l.Spans ts := by
  induction h with
  | nil => exact .nil l
  | cons ht _ ih => exact .cons ⟨ht.opens, ht.closes, hl _⟩ ih
  | collection ht hitems hc _ _ ih => exact .collection ht hitems hc ih

theorem endsAt_blockMapping (t : Token) : Level.blockMapping.endsAt t = false := by
  cases t <;> rfl

theorem endsAt_flowSequence (t : Token) : Level.flowSequence.endsAt t = false := by
  cases t <;> rfl

end Level

end LintDispatch.Yaml
