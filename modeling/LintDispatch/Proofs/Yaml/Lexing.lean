import LintDispatch.Proofs.Yaml.Scanning
import LintDispatch.Yaml.Text

/-! The lexer stays within its text, so what it says against a text stands there, and so does what
the reading of a document comes to know of the text before its end is met. -/

namespace LintDispatch.Yaml

open Outcome (Meets)

variable {text : List Char}

namespace Lexer

variable {l : Lexer}

/-- A step of the lexer ends at a place in the text, or says what is wrong with the text. -/
abbrev Steps (text : List Char) : Except Error Lexer → Prop :=
  Meets (fun l => l.cursor.Within text) (Lexical text)

theorem fresh_meets (c : Cursor) (k : Option KeyMark) :
    Meets (fun _ => True) (Lexical text) (fresh c k) := by
  cases k with
  | none => trivial
  | some k => exact .ite (fun _ => .ite (fun _ => trivial) fun _ => trivial) fun _ => trivial

abbrev Stays (text : List Char) (l : Lexer) : Except Error Lexer → Prop :=
  Meets (fun l' => l'.cursor = l.cursor ∧ l'.inFlow = l.inFlow) (Lexical text)

theorem dropStale_cursor (l : Lexer) :
    Meets (fun l' => l'.cursor = l.cursor) (Lexical text) l.dropStale :=
  (fresh_meets _ _).bind fun _ _ => (Meets.mapM fun _ _ => fresh_meets _ _).bind fun _ _ => rfl

theorem dropKey_stays (l : Lexer) : Stays text l l.dropKey := by
  rw [dropKey]
  split
  · exact .ite (fun _ => trivial) fun _ => ⟨rfl, rfl⟩
  · exact ⟨rfl, rfl⟩

theorem markKey_stays (l : Lexer) : Stays text l l.markKey :=
  .ite (fun _ => (dropKey_stays l).bind fun _ hl => hl) fun _ => ⟨rfl, rfl⟩

@[simp] theorem closeBlocks_cursor (column : Int) (outer : List Int) (l : Lexer) :
    (closeBlocks column outer l).cursor = l.cursor := by
  induction outer generalizing l with
  | nil => rfl
  | cons o outer ih =>
    rw [closeBlocks]
    split
    · exact ih _
    · rfl

@[simp] theorem unwind_cursor (column : Int) : (l.unwind column).cursor = l.cursor := by
  rw [unwind]
  split
  · rfl
  · exact closeBlocks_cursor _ _ _

theorem openBlock_cursor {column : Nat} {l' : Lexer} (h : l.openBlock column = some l') :
    l'.cursor = l.cursor := by
  rw [openBlock] at h
  split at h <;> cases h
  rfl

@[simp] theorem openHere_cursor (t : Token) : (l.openHere t).cursor = l.cursor := by
  rw [openHere]
  split
  · exact (openBlock_cursor ‹_› :)
  · rfl

@[simp] theorem fetchValueOf_cursor (k : KeyMark) :
    (l.fetchValueOf k).cursor = l.cursor.next := by
  refine congrArg Cursor.next ?_
  split
  · rfl
  · split
    · exact (openBlock_cursor ‹_› :)
    · rfl

theorem skipToToken_within (fuel : Nat) (h : l.cursor.Within text) :
    (skipToToken fuel l).cursor.Within text := by
  induction fuel generalizing l with
  | zero => exact h
  | succ fuel ih =>
    have hbreak := (h.skip (· = ' ')).skipComment.lineBreak
    rw [skipToToken, Cursor.skipSpaces]
    split
    · rename_i hb
      rwa [hb] at hbreak
    · rename_i hb
      rw [hb] at hbreak
      exact ih hbreak

theorem toNextToken_within (h : l.cursor.Within text) : l.toNextToken.cursor.Within text := by
  rw [toNextToken]
  refine skipToToken_within _ ?_
  split
  · exact h.next
  · exact h

theorem unwound_dropKey_cursor (column : Int) :
    Meets (fun l' => l'.cursor = l.cursor) (Lexical text) (l.unwind column).dropKey :=
  (dropKey_stays _).imp fun _ hl => hl.1.trans (unwind_cursor column)

theorem opened_dropKey_cursor (t : Token) :
    Meets (fun l' => l'.cursor = l.cursor) (Lexical text) (l.openHere t).dropKey :=
  (dropKey_stays _).imp fun _ hl => hl.1.trans (openHere_cursor t)

theorem fetchStreamEnd_steps (h : l.cursor.Within text) :
    Meets (fun l' => l'.cursor.Within text ∧ l'.emitted.head? = some .streamEnd) (Lexical text)
      l.fetchStreamEnd :=
  (unwound_dropKey_cursor _).bind fun _ hl => ⟨by rwa [← hl] at h, rfl⟩

/-! All other tokens have at least one character, so a step over one of them needs no more of the
text than what is behind that character. -/

section

variable (h : l.cursor.next.Within text)
include h

theorem next_of_cursor {x : Except Error Lexer}
    (hx : Meets (fun l' => l'.cursor = l.cursor) (Lexical text) x) :
    Meets (fun l' => l'.cursor.next.Within text) (Lexical text) x :=
  hx.imp fun _ hl => by rwa [hl]

theorem next_of_stays {x : Except Error Lexer} (hx : Stays text l x) :
    Meets (fun l' => l'.cursor.next.Within text) (Lexical text) x :=
  next_of_cursor h (hx.imp fun _ hl => hl.1)

theorem fetchDirective_steps : Steps text l.fetchDirective :=
  (next_of_cursor h (unwound_dropKey_cursor _)).bind fun _ hl =>
    (scanDirective_scans hl).bind fun _ hr => hr

theorem fetchMarker_steps (t : Token) : Steps text (l.fetchMarker t) :=
  (next_of_cursor h (unwound_dropKey_cursor _)).bind fun _ hl => hl.advance 2

theorem fetchFlowStart_steps (t : Token) : Steps text (l.fetchFlowStart t) :=
  (next_of_stays h (markKey_stays l)).bind fun _ hl => hl

theorem fetchFlowEnd_steps (t : Token) : Steps text (l.fetchFlowEnd t) :=
  (next_of_stays h (dropKey_stays l)).bind fun _ hl => hl

theorem fetchFlowEntry_steps : Steps text l.fetchFlowEntry :=
  (next_of_stays h (dropKey_stays l)).bind fun _ hl => hl

theorem fetchBlockEntry_steps : Steps text l.fetchBlockEntry :=
  .ite (fun _ => (next_of_stays h (dropKey_stays l)).bind fun _ hl => hl) fun _ =>
    .ite (fun _ => (next_of_cursor h (opened_dropKey_cursor _)).bind fun _ hl => hl) fun _ => trivial

theorem fetchKey_steps : Steps text l.fetchKey :=
  .ite (fun _ => (next_of_stays h (dropKey_stays l)).bind fun _ hl => hl) fun _ =>
    .ite (fun _ => (next_of_cursor h (opened_dropKey_cursor _)).bind fun _ hl => hl) fun _ => trivial

theorem fetchValue_steps : Steps text l.fetchValue := by
  rw [fetchValue]
  split
  · rw [Steps, Meets, fetchValueOf_cursor]
    exact h
  · refine .ite (fun _ => h) fun _ => .ite (fun _ => ?_) fun _ => trivial
    rw [Meets, emitOver, openHere_cursor]
    exact h

theorem fetchNode_steps {scan : Cursor → Except Error (Token × Cursor)}
    (hscan : ∀ c : Cursor, c.next.Within text → Scans text (scan c)) :
    Steps text (l.fetchNode scan) :=
  (next_of_stays h (markKey_stays l)).bind fun l hl => (hscan l.cursor hl).bind fun _ hr => hr

theorem fetchBlock_steps (folded : Bool) : Steps text (l.fetchBlock folded) :=
  (next_of_stays h (dropKey_stays l)).bind fun _ hl => (scanBlock_scans _ _ hl).bind fun _ hr => hr

end

/-- Where a plain scalar begins it has a character. -/
theorem run_ne_nil_of_startsPlain (hend : l.cursor.peek ≠ '\x00') (h : l.startsPlain = true) :
    Plain.run l.inFlow l.cursor.rest ≠ [] := by
  obtain ⟨rest, hr⟩ := Cursor.peek_eq_of_ne_end hend
  have hnext : l.cursor.peekAt 1 = rest.headD '\x00' := by
    rw [Cursor.peekAt, hr]
    cases rest <;> rfl
  have hends : Plain.endsAt l.inFlow l.cursor.peek (rest.headD '\x00') = false := by
    simp only [startsPlain, hnext, Bool.or_eq_true, Bool.and_eq_true, Bool.not_eq_true',
      Bool.or_eq_false_iff, decide_eq_true_eq] at h
    obtain ⟨hgap, hindicator⟩ | ⟨hgap, hx | ⟨hflow, hx | hx⟩⟩ := h
    · simp [isIndicator] at hindicator
      simp [Plain.endsAt, Plain.isFlowIndicator, hgap, hindicator]
    · simp [Plain.endsAt, Plain.isFlowIndicator, hx]
      decide
    · simp [Plain.endsAt, hx, hflow]
      decide
    · simp only [Plain.endsAt, hx, hflow, hgap, Bool.false_and, Bool.or_false]
      decide
  rw [hr, Plain.run, hends]
  exact List.cons_ne_nil _ _

theorem fetchPlain_steps (h : l.cursor.next.Within text)
    (hrun : Plain.run l.inFlow l.cursor.rest ≠ []) : Steps text l.fetchPlain := by
  refine (markKey_stays l).bind fun l' hl => ?_
  exact readPlain_within _ (by rwa [hl.1, hl.2]) (by rwa [hl.1])

theorem fetchHere_steps (h : l.cursor.next.Within text) (hend : l.cursor.peek ≠ '\x00') :
    Steps text l.fetchHere := by
  have hnamed : ∀ token : List Char → Token, ∀ c : Cursor, c.next.Within text →
      Scans text (scanNamed token c) :=
    fun _ _ hc => (scanAnchorName_scans hc).bind fun _ hr => hr
  dsimp only [fetchHere]
  exact .ite (fun he => absurd he hend) fun _ =>
    .ite (fun _ => fetchDirective_steps h) fun _ =>
    .ite (fun _ => fetchMarker_steps h _) fun _ =>
    .ite (fun _ => fetchMarker_steps h _) fun _ =>
    .ite (fun _ => fetchFlowStart_steps h _) fun _ =>
    .ite (fun _ => fetchFlowStart_steps h _) fun _ =>
    .ite (fun _ => fetchFlowEnd_steps h _) fun _ =>
    .ite (fun _ => fetchFlowEnd_steps h _) fun _ =>
    .ite (fun _ => fetchFlowEntry_steps h) fun _ =>
    .ite (fun _ => fetchBlockEntry_steps h) fun _ =>
    .ite (fun _ => fetchKey_steps h) fun _ =>
    .ite (fun _ => fetchValue_steps h) fun _ =>
    .ite (fun _ => fetchNode_steps h (hnamed .alias)) fun _ =>
    .ite (fun _ => fetchNode_steps h (hnamed .anchor)) fun _ =>
    .ite (fun _ => fetchNode_steps h fun _ => scanTag_scans) fun _ =>
    .ite (fun _ => fetchBlock_steps h _) fun _ =>
    .ite (fun _ => fetchBlock_steps h _) fun _ =>
    .ite (fun _ => fetchNode_steps h fun _ => scanQuoted_scans false) fun _ =>
    .ite (fun _ => fetchNode_steps h fun _ => scanQuoted_scans true) fun _ =>
    .ite (fun hplain => fetchPlain_steps h (run_ne_nil_of_startsPlain hend hplain)) fun _ => trivial

/-- A step of the lexer reads something, or it comes to the end. -/
theorem fetch_steps (h : l.cursor.Within text) :
    Meets (fun l' => l'.cursor.Within text ∧ (l'.emitted.head? = some .streamEnd ∨
      l'.cursor.rest.length < l.cursor.rest.length)) (Lexical text) l.fetch := by
  refine (dropStale_cursor _).bind fun l' hl => ?_
  have hcursor : (l'.unwind l'.column).cursor = l.toNextToken.cursor := (unwind_cursor _).trans hl
  have hthere := toNextToken_within h
  have hle : l.toNextToken.cursor.rest.length ≤ l.cursor.rest.length :=
    (toNextToken_within List.suffix_rfl).length_le
  rw [← hcursor] at hthere hle
  by_cases hend : (l'.unwind l'.column).cursor.peek = '\x00'
  · rw [fetchHere, if_pos hend]
    exact (fetchStreamEnd_steps hthere).imp fun _ hn => ⟨hn.1, .inl hn.2⟩
  · -- The same step in the whole text and in what is behind the next character.
    have hsteps := fetchHere_steps hthere.next hend
    have hbehind : Steps (l'.unwind l'.column).cursor.next.rest
        (l'.unwind l'.column).fetchHere := fetchHere_steps List.suffix_rfl hend
    cases hx : (l'.unwind l'.column).fetchHere with
    | error e => exact hsteps.of_eq_error hx
    | ok next =>
      have hlt := (hbehind.of_eq_ok hx).length_lt hend
      exact ⟨hsteps.of_eq_ok hx, .inr (Nat.lt_of_lt_of_le hlt hle)⟩

end Lexer

namespace TokenStream

/-- One step of the reading: it ends where the lexer fails, and behind the last token. -/
theorem readFrom_succ (fuel : Nat) (l : Lexer) :
    readFrom (fuel + 1) l =
      match l.dropStale with
      | .error e => upTo l l.settled (some e)
      | .ok l =>
        match l.fetch with
        | .error e => upTo l l.settled (some e)
        | .ok next =>
          if next.emitted.head? = some .streamEnd then upTo next next.emitted.length none
          else readFrom fuel next := by
  -- Opening the definition by its own equation would open the lexer with it.
  exact rfl

theorem readFrom_lexical {fuel : Nat} {l : Lexer} (hf : l.cursor.rest.length < fuel)
    (h : l.cursor.Within text) {e : Error} (he : (readFrom fuel l).fault = some e) :
    Lexical text e := by
  induction fuel generalizing l with
  | zero => exact absurd hf (Nat.not_lt_zero _)
  | succ fuel ih =>
    have hstale : Meets (fun l' => l'.cursor = l.cursor) (Lexical text) l.dropStale :=
      Lexer.dropStale_cursor l
    rw [readFrom_succ] at he
    split at he
    · cases he
      exact hstale.of_eq_error ‹_›
    · have hcursor := hstale.of_eq_ok ‹_›
      have hfetch := Lexer.fetch_steps (hcursor.symm ▸ h)
      split at he
      · cases he
        exact hfetch.of_eq_error ‹_›
      · obtain ⟨hwithin, hshort⟩ := hfetch.of_eq_ok ‹_›
        split at he
        · cases he
        · have hlt := hshort.resolve_left ‹_›
          rw [hcursor] at hlt
          exact ih (Nat.lt_of_lt_of_le hlt (Nat.le_of_lt_succ hf)) hwithin he

theorem ofText_lexical {e : Error} (he : (ofText text).fault = some e) : Lexical text e := by
  have hf : (Lexer.start text).cursor.rest.length < text.length + 2 :=
    Nat.lt_add_of_pos_right (by decide)
  exact readFrom_lexical hf List.suffix_rfl he

theorem ofSupply_fault {s : Supply} {e : Error} (he : (ofSupply s).fault = some e) :
    Lexical s.text e ∨ s.fault = some e := by
  rw [ofSupply] at he
  split at he
  · exact .inl (ofText_lexical he)
  · dsimp only at he
    split at he
    · exact .inl (ofText_lexical he)
    · cases he
      exact .inr ‹_›

end TokenStream

namespace Supply

theorem ofText_fault (s : List Char) (fault : Option Error) :
    (ofText s fault).fault = some .malformed ∨ (ofText s fault).fault = fault := by
  simp only [ofText]
  split
  · exact .inr rfl
  · exact .inl rfl

theorem ofBytes_fault {bytes : List UInt8} {e : Error} (he : (ofBytes bytes).fault = some e) :
    e = .malformed ∨ (e = .encoding ∧ Text.decodeUtf8? bytes = none) := by
  simp only [ofBytes] at he
  split at he
  · obtain h | h := ofText_fault _ _ <;> rw [h] at he <;> cases he
    exact .inl rfl
  · obtain h | h := ofText_fault _ _ <;> rw [h] at he <;> cases he
    · exact .inl rfl
    · exact .inr ⟨rfl, ‹_›⟩

end Supply

end LintDispatch.Yaml
