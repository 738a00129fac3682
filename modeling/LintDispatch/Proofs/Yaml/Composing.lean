import LintDispatch.Proofs.Yaml.Lexing
import LintDispatch.Proofs.Yaml.Nesting
import LintDispatch.Yaml.Node.Reader

/-! Reading the nodes of a document says nothing of its own but that the document is malformed, or
that its collections lie too deep in one another. All else is the fault in which its tokens end. The
fuel never runs out. -/

namespace LintDispatch.Yaml

open Outcome (Meets)

namespace Reader

/-- One reader stands behind another one, on the same level of the document. -/
structure Passes (l : Level) (r r' : Reader) : Prop where
  fault : r'.fault = r.fault
  tokens : ∃ used, l.Spans used ∧ r.tokens = used ++ r'.tokens

/-- One reader stands behind the end of the collection that another one stands in. -/
structure Leaves (l : Level) (r r' : Reader) : Prop where
  fault : r'.fault = r.fault
  tokens : ∃ used c, l.Spans used ∧ Token.closes c = true ∧ r.tokens = used ++ c :: r'.tokens

/-- Why a reading fails on a level with room for so many collections in one another. -/
def Refused (l : Level) (room : Nat) (r : Reader) (e : Error) : Prop :=
  e = .malformed ∨ e = r.fault ∨ e = .recursion ∧ l.Leads (room + 1) r.tokens

/-- A reading goes on on its level, or fails with a reason. -/
abbrev Reads (l : Level) (room : Nat) (r : Reader) {α : Type} : Except Error (α × Reader) → Prop :=
  Meets (fun p => Passes l r p.2) (Refused l room r)

/-- A reading leaves the collection that it is in, or fails with a reason. -/
abbrev Finishes (l : Level) (room : Nat) (r : Reader) {α : Type} :
    Except Error (α × Reader) → Prop :=
  Meets (fun p => Leaves l r p.2) (Refused l room r)

variable {l inside : Level} {room : Nat} {r r' r'' : Reader} {e : Error}

theorem malformed_refused : Refused l room r .malformed :=
  .inl rfl

/-- What a reading further in fails with, the reading around it fails with. -/
theorem Refused.around {p : Reader} {room' : Nat} (h : Refused inside room' p e)
    (hfault : p.fault = r.fault)
    (hleads : inside.Leads (room' + 1) p.tokens → l.Leads (room + 1) r.tokens) :
    Refused l room r e :=
  h.imp_right fun h => h.imp (·.trans hfault) fun h => ⟨h.1, hleads h.2⟩

theorem tokens_of_peek {t : Token} (h : r.peek = .ok t) : r.tokens = t :: r.drop.tokens := by
  rw [peek] at h
  split at h
  · rename_i hr
    cases h
    simp [drop, hr]
  · cases h

theorem length_drop {t : Token} (h : r.peek = .ok t) :
    r.tokens.length = r.drop.tokens.length + 1 := by
  rw [tokens_of_peek h, List.length_cons]

theorem fault_of_peek (h : r.peek = .error e) : e = r.fault := by
  rw [peek] at h
  split at h <;> cases h
  rfl

/-- The next token is read, or there is none, and the fault is met. -/
theorem peek_peeks (l : Level) (room : Nat) (r : Reader) :
    Meets (fun t => r.peek = .ok t) (Refused l room r) r.peek := by
  cases hp : r.peek with
  | ok t => rfl
  | error e => exact .inr (.inl (fault_of_peek hp))

namespace Passes

theorem of_eq (hf : r'.fault = r.fault) (ht : r'.tokens = r.tokens) : Passes l r r' :=
  ⟨hf, [], .nil l, ht.symm⟩

theorem refl (r : Reader) : Passes l r r :=
  .of_eq rfl rfl

theorem drop {t : Token} (h : r.peek = .ok t) (ht : l.Keeps t) : Passes l r r.drop :=
  ⟨rfl, [t], .single ht, tokens_of_peek h⟩

theorem trans (h : Passes l r r') (h' : Passes l r' r'') : Passes l r r'' := by
  obtain ⟨used, hu, ht⟩ := h.tokens
  obtain ⟨used', hu', ht'⟩ := h'.tokens
  exact ⟨h'.fault.trans h.fault, used ++ used', hu.append hu', by rw [ht, ht', List.append_assoc]⟩

theorem leaves (h : Passes l r r') (h' : Leaves l r' r'') : Leaves l r r'' := by
  obtain ⟨used, hu, ht⟩ := h.tokens
  obtain ⟨used', c, hu', hc, ht'⟩ := h'.tokens
  exact ⟨h'.fault.trans h.fault, used ++ used', c, hu.append hu', hc,
    by rw [ht, ht', List.append_assoc]⟩

theorem length_le (h : Passes l r r') : r'.tokens.length ≤ r.tokens.length := by
  obtain ⟨used, -, ht⟩ := h.tokens
  simp [ht]

theorem refused (h : Passes l r r') (he : Refused l room r' e) : Refused l room r e := by
  obtain ⟨used, hu, ht⟩ := h.tokens
  exact he.around h.fault fun hl => ht ▸ .past hu hl

/-- What a reading behind a place fails with, one from the place on fails with. -/
theorem meets {α : Type} {P : α → Prop} {x : Except Error α} (h : Passes l r r')
    (hx : Meets P (Refused l room r') x) : Meets P (Refused l room r) x :=
  hx.imp_error fun _ he => h.refused he

theorem reads {α : Type} {x : Except Error (α × Reader)} (h : Passes l r r')
    (hx : Reads l room r' x) : Reads l room r x :=
  h.meets (hx.imp fun _ hp => h.trans hp)

theorem finishes {α : Type} {x : Except Error (α × Reader)} (h : Passes l r r')
    (hx : Finishes l room r' x) : Finishes l room r x :=
  h.meets (hx.imp fun _ hp => h.leaves hp)

end Passes

theorem Leaves.of_peek {c : Token} (h : r.peek = .ok c) (hc : c.closes = true) :
    Leaves l r r.drop :=
  ⟨rfl, [], c, .nil l, hc, tokens_of_peek h⟩

/-! Properties, which stand on every level. -/

theorem readAnchor_reads (l : Level) (room : Nat) (r : Reader) : Reads l room r r.readAnchor := by
  refine (peek_peeks l room r).bind fun t hpeek => ?_
  split
  · exact .drop hpeek ⟨rfl, rfl, rfl⟩
  · exact .refl r

theorem readTag_reads (l : Level) (room : Nat) (r : Reader) : Reads l room r r.readTag := by
  refine (peek_peeks l room r).bind fun t hpeek => ?_
  split
  · exact .drop hpeek ⟨rfl, rfl, rfl⟩
  · exact .refl r

theorem readProperties_reads (l : Level) (room : Nat) (r : Reader) :
    Reads l room r r.readProperties :=
  (readAnchor_reads l room r).bind fun _ hanchor =>
    (hanchor.reads (readTag_reads l room _)).bind fun _ htag =>
      .ite (fun _ => (htag.reads (readAnchor_reads l room _)).bind fun _ h => h) fun _ => htag

theorem wholeTag?_refuses (tag : Option (Option (List Char) × List Char)) :
    Meets (fun _ => True) (Refused l room r) (r.wholeTag? tag) := by
  rw [wholeTag?.eq_def]
  split
  · trivial
  · trivial
  · split
    · trivial
    · exact malformed_refused

theorem giveAnchor_gives (r : Reader) (name : Option (List Char)) :
    Meets (fun r' => r'.fault = r.fault ∧ r'.tokens = r.tokens) (· = .malformed)
      (r.giveAnchor name) := by
  cases name with
  | none => exact ⟨rfl, rfl⟩
  | some name => exact .ite (fun _ => rfl) fun _ => ⟨rfl, rfl⟩

theorem readBlank_reads (l : Level) (room : Nat) (r : Reader) (properties : Properties)
    (tag : Option (List Char)) : Reads l room r (r.readBlank properties tag) :=
  .ite (fun _ => malformed_refused) fun _ =>
    ((giveAnchor_gives r _).imp_error fun _ => .inl).bind fun _ h => .of_eq h.1 h.2

theorem keepAnchor_passes (l : Level) (r : Reader) (name : Option (List Char)) (n : Node) :
    Passes l r (r.keepAnchor name n).2 := by
  cases name <;> exact .of_eq rfl rfl

/-! Collections. Each is read on a level of its own, and takes up room. -/

section Entering

variable {α : Type} {anchor : Option (List Char)} {f : Nat × Reader → Except Error (α × Reader)}

theorem enter_bind {P : α × Reader → Prop} {Q : Error → Prop} (hmalformed : Q .malformed)
    (hfull : room = 0 → Q .recursion) (hf : ∀ p : Nat × Reader, room = p.1 + 1 →
      p.2.fault = r.fault → p.2.tokens = r.tokens → Meets P Q (f p)) :
    Meets P Q (r.enter room anchor >>= f) := by
  refine Meets.bind (P := fun p => room = p.1 + 1 ∧ p.2.fault = r.fault ∧ p.2.tokens = r.tokens)
    ?_ fun p hp => hf p hp.1 hp.2.1 hp.2.2
  refine ((giveAnchor_gives r anchor).imp_error fun _ he => he ▸ hmalformed).bind fun r' h => ?_
  cases room with
  | zero => exact hfull rfl
  | succ room => exact ⟨rfl, h⟩

/-- A collection with tokens of its own is read from behind the first of them. -/
theorem enter_reads {t : Token} (hpeek : r.peek = .ok t) (ht : t.opens? = some inside)
    (hf : ∀ p : Nat × Reader, p.2.drop.tokens = r.drop.tokens →
      Finishes inside p.1 p.2.drop (f p)) : Reads l room r (r.enter room anchor >>= f) := by
  have hr := tokens_of_peek hpeek
  refine enter_bind malformed_refused (fun h => ?_) fun p hroom hfault htokens => ?_
  · exact .inr (.inr ⟨rfl, by rw [h, hr]; exact .into ht (.here _ _)⟩)
  · have hdrop : p.2.drop.tokens = r.drop.tokens := congrArg List.tail htokens
    refine ((hf p hdrop).imp fun q hq => ?_).imp_error fun e he => ?_
    · obtain ⟨used, c, hu, hc, hrest⟩ := hq.tokens
      refine ⟨hq.fault.trans hfault, t :: (used ++ [c]), .collection ht hu hc (.nil l), ?_⟩
      rw [hr, ← hdrop, hrest]
      simp
    · refine he.around hfault fun hl => ?_
      rw [hr, hroom]
      exact .into ht (hdrop ▸ hl)

/-- A sequence right in a mapping is read from its first entry on. -/
theorem enter_indentless (hpeek : r.peek = .ok .blockEntry)
    (hf : ∀ p : Nat × Reader, p.2.tokens = r.tokens → Reads .indentless p.1 p.2 (f p)) :
    Reads .blockMapping room r (r.enter room anchor >>= f) := by
  have hr := tokens_of_peek hpeek
  refine enter_bind malformed_refused (fun h => ?_) fun p hroom hfault htokens => ?_
  · exact .inr (.inr ⟨rfl, by rw [h, hr]; exact .indentless (.here _ _)⟩)
  · refine ((hf p htokens).imp fun q hq => ?_).imp_error fun e he => ?_
    · obtain ⟨used, hu, hrest⟩ := hq.tokens
      exact ⟨hq.fault.trans hfault, used, hu.widen Level.endsAt_blockMapping,
        htokens.symm.trans hrest⟩
    · refine he.around hfault fun hl => ?_
      rw [htokens, hr] at hl
      rw [hr, hroom]
      exact .indentless hl

/-- A mapping right in a sequence is read from behind the mark of its key. -/
theorem enter_pair (hpeek : r.peek = .ok .key)
    (hf : ∀ p : Nat × Reader, p.2.drop.tokens = r.drop.tokens → Reads .pair p.1 p.2.drop (f p)) :
    Reads .flowSequence room r (r.enter room anchor >>= f) := by
  have hr := tokens_of_peek hpeek
  refine enter_bind malformed_refused (fun h => ?_) fun p hroom hfault htokens => ?_
  · exact .inr (.inr ⟨rfl, by rw [h, hr]; exact .pair (.here _ _)⟩)
  · have hdrop : p.2.drop.tokens = r.drop.tokens := congrArg List.tail htokens
    refine ((hf p hdrop).imp fun q hq => ?_).imp_error fun e he => ?_
    · obtain ⟨used, hu, hrest⟩ := hq.tokens
      refine ⟨hq.fault.trans hfault, .key :: used,
        .cons ⟨rfl, rfl, rfl⟩ (hu.widen Level.endsAt_flowSequence), ?_⟩
      rw [hr, ← hdrop, hrest, List.cons_append]
    · refine he.around hfault fun hl => ?_
      rw [hr, hroom]
      exact .pair (hdrop ▸ hl)

end Entering

/-- At an entry that is not the first, a comma has been read, so there is fuel for it. -/
theorem toEntry_passes (room : Nat) {r : Reader} (stop : Token) {first : Bool} {fuel : Nat}
    (hcomma : l.endsAt .flowEntry = false)
    (hf : 4 * r.tokens.length + (if first then 4 else 1) ≤ fuel + 1) :
    Meets (fun r' => Passes l r r' ∧ (r'.peek = .ok stop ∨ 4 * r'.tokens.length + 3 ≤ fuel))
      (Refused l room r) (r.toEntry stop first) := by
  refine (peek_peeks l room r).bind fun t hpeek => .ite (fun h => ⟨.refl r, ?_⟩) fun _ =>
    .ite (fun h => ?_) fun _ => malformed_refused
  · obtain rfl | h := Bool.or_eq_true_iff.mp h
    · rw [if_pos rfl] at hf
      exact .inr (by omega)
    · exact .inl (of_decide_eq_true h ▸ hpeek)
  · subst h
    have hlength := length_drop hpeek
    exact ⟨.drop hpeek ⟨rfl, rfl, hcomma⟩, .inr (by split at hf <;> omega)⟩

/-! The functions call one another with less fuel, so the statements go by the fuel together. A
token that is read takes four off what is needed, and no more than four calls are made before one is
read. -/

mutual

theorem readNode_reads {l : Level} {fuel : Nat} (room : Nat) (place : Place)
    (hplace : place.indentless = true → l = .blockMapping) {r : Reader}
    (hf : 4 * r.tokens.length + 3 ≤ fuel) : Reads l room r (readNode fuel room place r) := by
  cases fuel with
  | zero => omega
  | succ fuel =>
    rw [readNode]
    refine (peek_peeks l room r).bind fun t hpeek => ?_
    split
    · exact .ite (fun _ => .drop hpeek ⟨rfl, rfl, rfl⟩) fun _ => malformed_refused
    · refine (readProperties_reads l room r).bind fun p hp => ?_
      refine (hp.meets (wholeTag?_refuses _)).bind fun tag _ => ?_
      have hle := hp.length_le
      refine (hp.reads (readContent_reads room place hplace _ tag (by omega))).bind fun q hq => ?_
      exact hq.trans (keepAnchor_passes l _ _ _)
termination_by fuel

theorem readContent_reads {l : Level} {fuel : Nat} (room : Nat) (place : Place)
    (hplace : place.indentless = true → l = .blockMapping) (properties : Properties)
    (tag : Option (List Char)) {r : Reader} (hf : 4 * r.tokens.length + 2 ≤ fuel) :
    Reads l room r (readContent fuel room place properties tag r) := by
  cases fuel with
  | zero => omega
  | succ fuel =>
    rw [readContent]
    refine (peek_peeks l room r).bind fun t hpeek => ?_
    have hlength := length_drop hpeek
    split
    · refine ((giveAnchor_gives r _).imp_error fun _ => .inl).bind fun r' h => ?_
      have hdrop : Passes l r r.drop := .drop hpeek ⟨rfl, rfl, rfl⟩
      exact hdrop.trans (.of_eq h.1 (congrArg List.tail h.2))
    · exact enter_reads hpeek rfl fun p hp =>
        (readFlowSequence_finishes _ true (by rw [hp]; simp; omega)).bind fun _ hq => hq
    · exact enter_reads hpeek rfl fun p hp =>
        (readFlowMapping_finishes _ true (by rw [hp]; simp; omega)).bind fun _ hq => hq
    · refine .ite (fun hi => ?_) fun _ => readBlank_reads l room r _ _
      obtain rfl := hplace hi
      exact enter_indentless hpeek fun p hp =>
        (readIndentless_reads _ (by rw [hp]; omega)).bind fun _ hq => hq
    · exact .ite (fun _ => enter_reads hpeek rfl fun p hp =>
        (readBlockSequence_finishes _ (by rw [hp]; omega)).bind fun _ hq => hq) fun _ =>
          readBlank_reads l room r _ _
    · exact .ite (fun _ => enter_reads hpeek rfl fun p hp =>
        (readBlockMapping_finishes _ (by rw [hp]; omega)).bind fun _ hq => hq) fun _ =>
          readBlank_reads l room r _ _
    · exact readBlank_reads l room r _ _
termination_by fuel

theorem readUnless_reads {l : Level} {fuel : Nat} (room : Nat) (stops : List Token)
    (place : Place) (hplace : place.indentless = true → l = .blockMapping) {r : Reader}
    (hf : 4 * r.tokens.length + 4 ≤ fuel) :
    Reads l room r (readUnless fuel room stops place r) := by
  cases fuel with
  | zero => omega
  | succ fuel =>
    rw [readUnless]
    exact (peek_peeks l room r).bind fun _ _ => .ite (fun _ => .refl r) fun _ =>
      readNode_reads room place hplace (by omega)
termination_by fuel

theorem readValue_reads {l : Level} {fuel : Nat} (room : Nat) (stops : List Token)
    (place : Place) (hplace : place.indentless = true → l = .blockMapping)
    (hvalue : l.endsAt .value = false) {r : Reader} (hf : 4 * r.tokens.length + 1 ≤ fuel) :
    Reads l room r (readValue fuel room stops place r) := by
  cases fuel with
  | zero => omega
  | succ fuel =>
    rw [readValue]
    refine (peek_peeks l room r).bind fun t hpeek => ?_
    split
    · have hlength := length_drop hpeek
      have hdrop : Passes l r r.drop := .drop hpeek ⟨rfl, rfl, hvalue⟩
      exact hdrop.reads (readUnless_reads room stops place hplace (by omega))
    · exact .refl r
termination_by fuel

theorem readEntry_reads {l : Level} {fuel : Nat} (room : Nat) (stops : List Token)
    (place : Place) (hplace : place.indentless = true → l = .blockMapping)
    (hvalue : l.endsAt .value = false) {r : Reader} (hf : 4 * r.tokens.length + 5 ≤ fuel) :
    Reads l room r (readEntry fuel room stops place r) := by
  cases fuel with
  | zero => omega
  | succ fuel =>
    rw [readEntry]
    refine (readUnless_reads room _ place hplace (by omega)).bind fun p hp => ?_
    have hle := hp.length_le
    exact (hp.reads (readValue_reads room stops place hplace hvalue (by omega))).bind
      fun _ hq => hq
termination_by fuel

theorem readBlockSequence_finishes {fuel : Nat} (room : Nat) {r : Reader}
    (hf : 4 * r.tokens.length + 1 ≤ fuel) :
    Finishes .blockSequence room r (readBlockSequence fuel room r) := by
  cases fuel with
  | zero => omega
  | succ fuel =>
    rw [readBlockSequence]
    refine (peek_peeks _ room r).bind fun t hpeek => ?_
    split
    · have hlength := length_drop hpeek
      have hdrop : Passes .blockSequence r r.drop := .drop hpeek ⟨rfl, rfl, rfl⟩
      refine (hdrop.meets (readUnless_reads room _ inBlock nofun (by omega))).bind fun p hp => ?_
      have hle := hp.length_le
      exact ((hdrop.trans hp).finishes (readBlockSequence_finishes room (by omega))).bind
        fun _ hq => hq
    · exact .of_peek hpeek rfl
    · exact malformed_refused
termination_by fuel

theorem readIndentless_reads {fuel : Nat} (room : Nat) {r : Reader}
    (hf : 4 * r.tokens.length + 1 ≤ fuel) :
    Reads .indentless room r (readIndentless fuel room r) := by
  cases fuel with
  | zero => omega
  | succ fuel =>
    rw [readIndentless]
    refine (peek_peeks _ room r).bind fun t hpeek => ?_
    split
    · have hlength := length_drop hpeek
      have hdrop : Passes .indentless r r.drop := .drop hpeek ⟨rfl, rfl, rfl⟩
      refine (hdrop.meets (readUnless_reads room _ inBlock nofun (by omega))).bind fun p hp => ?_
      have hle := hp.length_le
      exact ((hdrop.trans hp).reads (readIndentless_reads room (by omega))).bind fun _ hq => hq
    · exact .refl r
termination_by fuel

theorem readBlockMapping_finishes {fuel : Nat} (room : Nat) {r : Reader}
    (hf : 4 * r.tokens.length + 2 ≤ fuel) :
    Finishes .blockMapping room r (readBlockMapping fuel room r) := by
  cases fuel with
  | zero => omega
  | succ fuel =>
    rw [readBlockMapping]
    refine (peek_peeks _ room r).bind fun t hpeek => ?_
    split
    · have hlength := length_drop hpeek
      have hdrop : Passes .blockMapping r r.drop := .drop hpeek ⟨rfl, rfl, rfl⟩
      refine (hdrop.meets (readEntry_reads room _ inMapping (fun _ => rfl) rfl (by omega))).bind
        fun p hp => ?_
      have hle := hp.length_le
      exact ((hdrop.trans hp).finishes (readBlockMapping_finishes room (by omega))).bind
        fun _ hq => hq
    · exact .of_peek hpeek rfl
    · exact malformed_refused
termination_by fuel

theorem readFlowSequence_finishes {fuel : Nat} (room : Nat) (first : Bool) {r : Reader}
    (hf : 4 * r.tokens.length + (if first then 4 else 1) ≤ fuel) :
    Finishes .flowSequence room r (readFlowSequence fuel room first r) := by
  cases fuel with
  | zero => split at hf <;> omega
  | succ fuel =>
    rw [readFlowSequence]
    refine (toEntry_passes room _ rfl hf).bind fun r' ⟨hr, hentry⟩ => ?_
    refine (hr.meets (peek_peeks _ room r')).bind fun t hpeek => ?_
    have hrest {α : Type} {p : α × Reader} (hp : Passes .flowSequence r' p.2)
        (hf' : 4 * r'.tokens.length + 3 ≤ fuel) :
        Finishes .flowSequence room r (readFlowSequence fuel room false p.2) := by
      have hle := hp.length_le
      exact (hr.trans hp).finishes (readFlowSequence_finishes room false (by simp; omega))
    split
    · exact hr.leaves (.of_peek hpeek rfl)
    · have hf' := hentry.resolve_left (by rw [hpeek]; nofun)
      refine (hr.meets (readPair_reads room hpeek (by omega))).bind fun p hp => ?_
      exact (hrest hp hf').bind fun _ hq => hq
    · rename_i hstop _
      have hf' := hentry.resolve_left fun h => hstop (Except.ok.inj (hpeek.symm.trans h))
      refine (hr.meets (readNode_reads room inFlow nofun hf')).bind fun p hp => ?_
      exact (hrest hp hf').bind fun _ hq => hq
termination_by fuel

theorem readPair_reads {fuel : Nat} (room : Nat) {r : Reader} (hpeek : r.peek = .ok .key)
    (hf : 4 * r.tokens.length + 2 ≤ fuel) :
    Reads .flowSequence room r (readPair fuel room r) := by
  cases fuel with
  | zero => omega
  | succ fuel =>
    rw [readPair]
    have hlength := length_drop hpeek
    refine enter_pair hpeek fun p hp => ?_
    exact (readEntry_reads p.1 _ inFlow nofun rfl (by rw [hp]; omega)).bind fun _ hq => hq
termination_by fuel

theorem readFlowMapping_finishes {fuel : Nat} (room : Nat) (first : Bool) {r : Reader}
    (hf : 4 * r.tokens.length + (if first then 4 else 1) ≤ fuel) :
    Finishes .flowMapping room r (readFlowMapping fuel room first r) := by
  cases fuel with
  | zero => split at hf <;> omega
  | succ fuel =>
    rw [readFlowMapping]
    refine (toEntry_passes room _ rfl hf).bind fun r' ⟨hr, hentry⟩ => ?_
    refine (hr.meets (peek_peeks _ room r')).bind fun t hpeek => ?_
    have hrest {α : Type} {p : α × Reader} (hp : Passes .flowMapping r' p.2)
        (hf' : 4 * r'.tokens.length + 3 ≤ fuel) :
        Finishes .flowMapping room r (readFlowMapping fuel room false p.2) := by
      have hle := hp.length_le
      exact (hr.trans hp).finishes (readFlowMapping_finishes room false (by simp; omega))
    split
    · exact hr.leaves (.of_peek hpeek rfl)
    · have hf' := hentry.resolve_left (by rw [hpeek]; nofun)
      have hlength := length_drop hpeek
      have hdrop : Passes .flowMapping r' r'.drop := .drop hpeek ⟨rfl, rfl, rfl⟩
      refine ((hr.trans hdrop).meets (readEntry_reads room _ inFlow nofun rfl (by omega))).bind
        fun p hp => ?_
      exact (hrest (hdrop.trans hp) hf').bind fun _ hq => hq
    · rename_i hstop _
      have hf' := hentry.resolve_left fun h => hstop (Except.ok.inj (hpeek.symm.trans h))
      refine (hr.meets (readNode_reads room inFlow nofun hf')).bind fun p hp => ?_
      exact (hrest hp hf').bind fun _ hq => hq
termination_by fuel

end

theorem readDirectives_reads (l : Level) (versionGiven : Bool)
    (handles : List (List Char × List Char)) (ts : List Token) :
    Meets (fun p => ∃ used, l.Spans used ∧ ts = used ++ p.2) (· = .malformed)
      (readDirectives versionGiven handles ts) := by
  have hcons {d : Directive} {rest rest' : List Token}
      (h : ∃ used, l.Spans used ∧ rest = used ++ rest') :
      ∃ used, l.Spans used ∧ .directive d :: rest = used ++ rest' := by
    obtain ⟨used, hu, rfl⟩ := h
    exact ⟨.directive d :: used, .cons ⟨rfl, rfl, rfl⟩ hu, rfl⟩
  fun_induction readDirectives versionGiven handles ts with
  | case1 => rfl
  | case2 _ _ _ _ _ ih => exact ih.imp fun _ => hcons
  | case3 => rfl
  | case4 _ _ _ _ _ _ ih => exact ih.imp fun _ => hcons
  | case5 _ _ _ ih => exact ih.imp fun _ => hcons
  | case6 => exact ⟨[], .nil l, rfl⟩

theorem readMarked_reads (room : Nat) (r : Reader) :
    Reads .document room r (r.readMarked room) := by
  refine ((readDirectives_reads .document _ _ _).imp_error fun _ => .inl).bind fun p hp => ?_
  have hpasses : Passes .document r { r with tokens := p.2, handles := p.1 ++ ownHandles } :=
    ⟨rfl, hp⟩
  refine (hpasses.meets (peek_peeks _ room _)).bind fun t hpeek => ?_
  split
  · have hdrop := hpasses.trans (.drop hpeek ⟨rfl, rfl, rfl⟩)
    refine (hdrop.meets (peek_peeks _ room _)).bind fun t' _ => ?_
    split
    · exact hdrop
    · exact hdrop
    · exact hdrop
    · exact hdrop
    · exact hdrop.reads (readNode_reads room inBlock nofun (Nat.add_le_add_left (by decide) _))
  · exact malformed_refused

theorem readRoot_reads (room : Nat) (r : Reader) : Reads .document room r (r.readRoot room) := by
  refine (peek_peeks _ room r).bind fun t _ => ?_
  split
  · exact readMarked_reads room r
  · exact readMarked_reads room r
  · exact readNode_reads room inBlock nofun (Nat.add_le_add_left (by decide) _)

theorem readEnd_refuses (l : Level) (room : Nat) (r : Reader) :
    Meets (fun _ => True) (Refused l room r) r.readEnd := by
  have hpeek : Meets (fun _ => True) (Refused l room r)
      (peek { r with tokens := r.tokens.dropWhile (· = Token.documentEnd) }) :=
    Outcome.meets_true_iff.mpr fun _ he => .inr (.inl (fault_of_peek he :))
  refine hpeek.bind fun t _ => ?_
  split
  · trivial
  · exact malformed_refused

end Reader

/-- A document that cannot be read is malformed, or its tokens end in the error, or collections lie
in one another for which there is no room. -/
theorem Document.ofTokens?_refuses (room : Nat) (s : TokenStream) :
    Meets (fun _ => True) (fun e => e = .malformed ∨ s.fault = some e ∨
      e = .recursion ∧ Level.document.Leads (room + 1) s.tokens) (Document.ofTokens? room s) := by
  let r : Reader := ⟨s.tokens, s.fault.getD .malformed, Reader.ownHandles, [], []⟩
  have hrefused (e : Error) (h : Reader.Refused .document room r e) :
      e = .malformed ∨ s.fault = some e ∨
        e = .recursion ∧ Level.document.Leads (room + 1) s.tokens := by
    obtain h | h | h := h
    · exact .inl h
    · cases hf : s.fault with
      | none => exact .inl (by simpa [r, hf] using h)
      | some e' => exact .inr (.inl (by simpa [r, hf] using h.symm))
    · exact .inr (.inr h)
  refine Meets.imp_error (Q := Reader.Refused .document room r) ?_ hrefused
  refine (Reader.peek_peeks _ room r).bind fun t _ => ?_
  split
  · trivial
  · refine (Reader.readRoot_reads room r).bind fun p hp => ?_
    exact (hp.meets (Reader.readEnd_refuses _ room _)).bind fun _ _ => trivial

end LintDispatch.Yaml
