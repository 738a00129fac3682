import LintDispatch.Proofs.Outcome
import LintDispatch.Yaml.Token.Lexer

/-! What can go wrong while the tokens of a text are read. Apart from malformed text it is a numeric
escape that names no code point, or a version number that is too long; both stand in the text. The
text is always enough fuel, since every repeated step reads some of it. -/

namespace LintDispatch.Yaml

open Outcome (Meets)

variable {text : List Char}

def Cursor.Within (text : List Char) (c : Cursor) : Prop :=
  c.rest <:+ text

/-- What the lexer can say against a text. -/
def Lexical (text : List Char) : Error → Prop
  | .malformed => True
  | .codePoint p => 0x110000 ≤ p ∧ ∃ letter digits, '\\' :: letter :: digits <:+: text ∧
    Quoted.escapeLength? letter = some digits.length ∧ Numeral.digits? 16 digits = some p
  | .integerSize n => Error.maxDigits < n ∧ ∃ digits : List Char, digits <:+: text ∧
    digits.length = n ∧ ∀ c ∈ digits, c.isDigit = true
  | _ => False

theorem Lexical.mono {inner : List Char} (h : inner <:+: text) {e : Error}
    (he : Lexical inner e) : Lexical text e := by
  cases e with
  | malformed => trivial
  | codePoint p =>
    obtain ⟨hp, letter, digits, hin, hdigits⟩ := he
    exact ⟨hp, letter, digits, hin.trans h, hdigits⟩
  | integerSize n =>
    obtain ⟨hn, digits, hin, hdigits⟩ := he
    exact ⟨hn, digits, hin.trans h, hdigits⟩
  | _ => exact he.elim

/-- A reading from a place in the text ends at a place in it, or says what is wrong with it. -/
abbrev Scans {α : Type} (text : List Char) : Except Error (α × Cursor) → Prop :=
  Meets (fun r => r.2.Within text) (Lexical text)

namespace Cursor

variable {c c' : Cursor}

theorem Within.next (h : c.Within text) : c.next.Within text := by
  rw [Within, next_rest]
  exact (List.tail_suffix _).trans h

theorem Within.advance (h : c.Within text) (n : Nat) : (c.advance n).Within text := by
  rw [Within, advance_rest]
  exact (List.drop_suffix _ _).trans h

theorem Within.skip (h : c.Within text) (p : Char → Bool) : (c.skip p).Within text :=
  h.advance _

theorem Within.skipComment (h : c.Within text) : c.skipComment.Within text := by
  rw [Cursor.skipComment]
  split
  · exact h.skip _
  · exact h

theorem Within.lineBreak (h : c.Within text) : c.lineBreak.2.Within text := by
  simp only [Cursor.lineBreak]
  split
  · exact h.next
  · split
    · exact h.next
    · exact h

theorem Within.length_le (h : c.Within text) : c.rest.length ≤ text.length :=
  List.IsSuffix.length_le h

theorem peek_eq_of_ne_end (h : c.peek ≠ '\x00') : ∃ rest, c.rest = c.peek :: rest := by
  cases hr : c.rest with
  | nil => exact absurd (by simp [peek, hr]) h
  | cons x rest => exact ⟨rest, by simp [peek, hr]⟩

/-- What stands behind a character has less in front of it. -/
theorem Within.length_lt (h : c'.Within c.next.rest) (hc : c.peek ≠ '\x00') :
    c'.rest.length < c.rest.length := by
  obtain ⟨rest, hr⟩ := peek_eq_of_ne_end hc
  have hle := h.length_le
  rw [next_rest, hr, List.tail_cons] at hle
  rw [hr, List.length_cons]
  exact Nat.lt_succ_of_le hle

theorem ne_end_of_isBreak (h : isBreak c.peek = true) : c.peek ≠ '\x00' := by
  intro he
  rw [he] at h
  exact absurd h (by decide)

theorem lineBreak_of_isBreak (h : isBreak c.peek = true) : c.lineBreak.2 = c.next := by
  simp only [isBreak, Bool.or_eq_true, decide_eq_true_eq] at h
  obtain ((h | h) | h) | h := h <;> simp [lineBreak, h]

theorem lineBreak_of_not_isBreak (h : isBreak c.peek = false) : c.lineBreak = ([], c) := by
  simp only [isBreak, Bool.or_eq_false_iff, decide_eq_false_iff_not] at h
  simp [lineBreak, h]

/-- A line break that is read is at least one character. -/
theorem length_lineBreak_lt {s : List Char} (h : c.lineBreak = (s, c')) (hs : s ≠ []) :
    c'.rest.length < c.rest.length := by
  by_cases hb : isBreak c.peek = true
  · have hnext := lineBreak_of_isBreak hb
    rw [h] at hnext
    subst hnext
    exact Within.length_lt List.suffix_rfl (ne_end_of_isBreak hb)
  · rw [lineBreak_of_not_isBreak (Bool.eq_false_iff.mpr hb)] at h
    cases h
    exact absurd rfl hs

/-- A run that is not empty is read from the next character on. -/
theorem Within.span {p : Char → Bool} (h : c.next.Within text) (hc : c.peek ≠ '\x00')
    (hp : p c.peek = true) : (c.span p).2.Within text := by
  obtain ⟨rest, hr⟩ := peek_eq_of_ne_end hc
  rw [Cursor.span, hr, List.takeWhile_cons_of_pos hp]
  exact h.advance _

end Cursor

variable {c : Cursor}

/-! Names, tags and directives. -/

theorem scanAnchorName_scans (h : c.Within text) : Scans text (scanAnchorName c) := by
  rw [scanAnchorName]
  dsimp only [Cursor.span]
  split
  · trivial
  · split
    · exact h.advance _
    · trivial

theorem scanUri_scans (h : c.Within text) : Scans text (scanUri c) := by
  rw [scanUri]
  dsimp only [Cursor.span]
  split
  · trivial
  · split
    · exact h.advance _
    · trivial

theorem scanHandle_scans (h : c.next.Within text) : Scans text (scanHandle c) := by
  rw [scanHandle]
  dsimp only [Cursor.span]
  split
  · trivial
  · split
    · exact h
    · split
      · exact (h.advance _).next
      · trivial

theorem scanVerbatimTag_scans (h : c.next.Within text) : Scans text (scanVerbatimTag c) :=
  (scanUri_scans (h.advance 1)).bind fun _ hr => .ite (fun _ => hr.next) fun _ => trivial

theorem scanTag_scans (h : c.next.Within text) : Scans text (scanTag c) := by
  have hend : ∀ r : Token × Cursor, r.2.Within text →
      Scans text (if isSpaceOrEnd r.2.peek then .ok r else .error .malformed) :=
    fun r hr => .ite (fun _ => hr) fun _ => trivial
  have hsuffix : ∀ r : List Char × Cursor, r.2.Within text → Scans text (do
      let q ← scanUri r.2
      if isSpaceOrEnd q.2.peek then .ok (Token.tag (some r.1) q.1, q.2) else .error .malformed) :=
    fun r hr => (scanUri_scans hr).bind fun q hq => hend (.tag (some r.1) q.1, q.2) hq
  refine .ite (fun _ => (scanVerbatimTag_scans h).bind hend) fun _ => ?_
  refine .ite (fun _ => hend (.tag none ['!'], c.next) h) fun _ => ?_
  exact .ite (fun _ => (scanHandle_scans h).bind hsuffix) fun _ => hsuffix (['!'], c.next) h

theorem scanLineEnd_scans (h : c.Within text) :
    Meets (Cursor.Within text) (Lexical text) (scanLineEnd c) :=
  .ite (fun _ => (h.skip _).skipComment.lineBreak) fun _ => trivial

theorem scanVersionPart_scans (h : c.Within text) : Scans text (scanVersionPart c) := by
  rw [scanVersionPart]
  dsimp only [Cursor.span]
  split
  · trivial
  · split
    · refine ⟨‹_›, _, ?_, rfl, List.all_eq_true.mp List.all_takeWhile⟩
      exact (List.takeWhile_prefix _).isInfix.trans h.isInfix
    · exact h.advance _

theorem scanVersion_scans (h : c.Within text) : Scans text (scanVersion c) :=
  (scanVersionPart_scans (h.skip _)).bind fun _ hr => .ite (fun _ => trivial) fun _ =>
    (scanVersionPart_scans hr.next).bind fun _ hr => .ite (fun _ => hr) fun _ => trivial

theorem scanHandleDirective_scans (h : c.Within text) : Scans text (scanHandleDirective c) :=
  (scanHandle_scans (h.skip _).next).bind fun _ hr => .ite (fun _ => trivial) fun _ =>
    (scanUri_scans (hr.skip _)).bind fun _ hr => .ite (fun _ => hr) fun _ => trivial

theorem scanDirective_scans (h : c.next.Within text) : Scans text (scanDirective c) := by
  have hname : (c.next.span isNameChar).2.Within text := h.advance _
  have hend : ∀ r : Directive × Cursor, r.2.Within text → Scans text (do
      let c ← scanLineEnd r.2
      .ok (Token.directive r.1, c)) :=
    fun r hr => (scanLineEnd_scans hr).bind fun _ hc => hc
  rw [scanDirective]
  dsimp only [Cursor.span] at hname ⊢
  split
  · trivial
  · split
    · exact (scanVersion_scans hname).bind hend
    · split
      · exact (scanHandleDirective_scans hname).bind hend
      · refine .bind ?_ hend
        exact hname.skip _

/-! Quoted scalars. -/

theorem scanBlankLines_scans {fuel : Nat} (hf : c.rest.length < fuel) (h : c.Within text) :
    Scans text (Quoted.scanBlankLines fuel c) := by
  induction fuel generalizing c with
  | zero => exact absurd hf (Nat.not_lt_zero _)
  | succ fuel ih =>
    refine .ite (fun _ => trivial) fun _ => ?_
    have hskip : (c.skip fun x => x = ' ' || x = '\t').rest.length ≤ c.rest.length :=
      Cursor.Within.length_le (Cursor.Within.skip List.suffix_rfl _)
    have hbreak := (h.skip fun x => x = ' ' || x = '\t').lineBreak
    dsimp only
    split
    · rename_i hb
      rwa [hb] at hbreak
    · rename_i s c' hs hb
      rw [hb] at hbreak
      have hlt := Cursor.length_lineBreak_lt hb hs
      have hf' : c'.rest.length < fuel := by omega
      exact (ih hf' hbreak).map fun _ hr => hr

theorem scanFold_scans (hbreak : isBreak c.peek = true) (h : c.next.Within text) :
    Scans text (Quoted.scanFold c) := by
  have hnext := Cursor.lineBreak_of_isBreak hbreak
  rw [Quoted.scanFold]
  cases hb : c.lineBreak with
  | mk break_ next =>
    obtain rfl : next = c.next := by rwa [hb] at hnext
    refine Meets.map (scanBlankLines_scans (Nat.lt_succ_self _) h) ?_
    rintro ⟨more, last⟩ hr
    dsimp only
    split
    · exact hr
    · split <;> exact hr

theorem scanSpaces_end (h : c.peek = '\x00') :
    Quoted.scanSpaces c = .error .malformed := by
  have hrun : (c.rest.takeWhile fun x => x = ' ' || x = '\t') = [] := by
    cases hr : c.rest with
    | nil => rfl
    | cons x rest =>
      obtain rfl : x = '\x00' := by simpa [Cursor.peek, hr] using h
      rfl
  rw [Quoted.scanSpaces, Cursor.span, hrun]
  exact if_pos h

theorem scanSpaces_scans (hx : c.peek = ' ' ∨ c.peek = '\t' ∨ isBreakOrEnd c.peek = true)
    (h : c.next.Within text) : Scans text (Quoted.scanSpaces c) := by
  by_cases hend : c.peek = '\x00'
  · rw [scanSpaces_end hend]
    trivial
  obtain ⟨rest, hr⟩ := Cursor.peek_eq_of_ne_end hend
  by_cases hspace : c.peek = ' ' ∨ c.peek = '\t'
  · have hrun := h.span (p := fun x => x = ' ' || x = '\t') hend (by simpa using hspace)
    rw [Quoted.scanSpaces]
    dsimp only [Cursor.span] at hrun ⊢
    split
    · trivial
    · split
      · exact scanFold_scans ‹_› hrun.next
      · exact hrun
  · -- No space is next, so it is the line break that is read.
    have hbreak : isBreak c.peek = true := by
      obtain hx | hx | hx := hx
      · exact absurd (.inl hx) hspace
      · exact absurd (.inr hx) hspace
      · simpa [isBreakOrEnd, hend] using hx
    have hrun : (c.rest.takeWhile fun x => x = ' ' || x = '\t') = [] := by
      rw [hr, List.takeWhile_cons_of_neg (by simpa using hspace)]
    rw [Quoted.scanSpaces, Cursor.span, hrun]
    dsimp only [List.length_nil, Cursor.advance]
    rw [if_neg hend, if_pos hbreak]
    exact scanFold_scans hbreak h

/-- An escape whose backslash stands in front of the place. -/
theorem scanEscape_scans (h : '\\' :: c.rest <:+ text) :
    Meets (fun r => r.2.Within c.rest) (Lexical text) (Quoted.scanEscape c) := by
  have hc : c.Within c.rest := List.suffix_rfl
  simp only [Quoted.scanEscape]
  split
  · exact hc.next
  · rename_i n _ hlength
    split
    · rename_i hdigits
      simp only [Bool.and_eq_true, decide_eq_true_eq] at hdigits
      split
      · exact hc.advance _
      · rename_i hlarge
        -- Only a numeral that was read can be that large.
        obtain ⟨p, hp⟩ : ∃ p, Numeral.digits? 16 (c.next.rest.take n) = some p := by
          cases hd : Numeral.digits? 16 (c.next.rest.take n) with
          | some p => exact ⟨p, rfl⟩
          | none => simp [hd] at hlarge
        have hletter : c.peek ≠ '\x00' := by
          intro he
          rw [he] at hlength
          cases hlength
        obtain ⟨rest, hr⟩ := Cursor.peek_eq_of_ne_end hletter
        simp only [hp, Option.getD_some, Nat.not_lt] at hlarge ⊢
        refine ⟨hlarge, c.peek, c.next.rest.take n, ?_, by rw [hdigits.1]; exact hlength, hp⟩
        have hprefix : '\\' :: c.peek :: c.next.rest.take n <+: '\\' :: c.rest := by
          rw [Cursor.next_rest, hr]
          exact (List.prefix_cons_inj _).mpr ((List.prefix_cons_inj _).mpr (List.take_prefix _ _))
        exact hprefix.isInfix.trans h.isInfix
    · trivial
  · split
    · exact Meets.map ((scanBlankLines_scans (Nat.lt_succ_self _) hc.lineBreak).imp_error
        fun _ he => he.mono ((List.suffix_cons _ _).trans h).isInfix) fun _ hr => hr
    · trivial

/-- A piece is at least one character, so what follows it stands behind the next one. -/
theorem scanPiece_scans (double : Bool) (h : c.Within text) :
    Meets (fun r => ∀ q ∈ r, q.2.Within c.next.rest) (Lexical text)
      (Quoted.scanPiece double c) := by
  have hsome : ∀ q : List Nat × Cursor, q.2.Within c.next.rest →
      ∀ q' ∈ some q, q'.2.Within c.next.rest :=
    fun q hq q' hmem => Option.mem_some.mp hmem ▸ hq
  have hnone : ∀ q ∈ (none : Option (List Nat × Cursor)), q.2.Within c.next.rest := nofun
  have hc : c.next.Within c.next.rest := List.suffix_rfl
  have hescape (hx : c.peek = '\\') :
      Meets (fun r => r.2.Within c.next.rest) (Lexical text) (Quoted.scanEscape c.next) := by
    obtain ⟨rest, hr⟩ := Cursor.peek_eq_of_ne_end (c := c) (by rw [hx]; decide)
    refine scanEscape_scans ?_
    rwa [Cursor.next_rest, hr, List.tail_cons, ← hx, ← hr]
  refine .ite (fun hx => ?_) fun _ => .ite (fun _ => ?_) fun _ => ?_
  · have hspaces := (scanSpaces_scans hx hc).imp_error fun _ he => he.mono h.next.isInfix
    exact Meets.map (Meets.map hspaces fun _ hr => hr) hsome
  · exact .ite (fun _ => hnone) fun _ => .ite (fun hx => (hescape hx).map hsome) fun _ =>
      hsome (_, _) hc
  · exact .ite (fun _ => .ite (fun _ => hsome (_, _) (hc.advance 1)) fun _ => hnone) fun _ =>
      hsome (_, _) hc

theorem scanPiece_end (double : Bool) (h : c.peek = '\x00') :
    Quoted.scanPiece double c = .error .malformed := by
  have hx : c.peek = ' ' ∨ c.peek = '\t' ∨ isBreakOrEnd c.peek = true := by
    rw [h]
    exact .inr (.inr rfl)
  rw [Quoted.scanPiece, if_pos hx, scanSpaces_end h]
  rfl

theorem scanPieces_scans (double : Bool) {fuel : Nat} (hf : c.rest.length < fuel) (acc : List Nat)
    (h : c.Within text) : Scans text (Quoted.scanPieces double fuel acc c) := by
  induction fuel generalizing acc c with
  | zero => exact absurd hf (Nat.not_lt_zero _)
  | succ fuel ih =>
    have hpiece := scanPiece_scans double h
    rw [Quoted.scanPieces]
    split
    · exact hpiece.of_eq_error ‹_›
    · exact h.next
    · rename_i hsome
      have hbehind := hpiece.of_eq_ok hsome _ rfl
      have hc : c.peek ≠ '\x00' := fun he => by
        rw [scanPiece_end double he] at hsome
        cases hsome
      have hlt := hbehind.length_lt hc
      exact ih (Nat.lt_of_lt_of_le hlt (Nat.le_of_lt_succ hf)) _ (hbehind.trans h.next)

theorem scanQuoted_scans (double : Bool) (h : c.next.Within text) :
    Scans text (Quoted.scan double c) := by
  have hle : c.next.rest.length ≤ c.rest.length :=
    Cursor.Within.length_le (Cursor.Within.next List.suffix_rfl)
  exact (scanPieces_scans double (Nat.lt_succ_of_le hle) [] h).map fun _ hr => hr

/-! Block scalars. -/

theorem scanHeader_scans (h : c.Within text) : Scans text (Block.scanHeader c) := by
  have hend : ∀ r : Block.Header × Cursor, r.2.Within text → Scans text
      (if r.1.increment = some 0 || !isSpaceOrEnd r.2.peek then .error .malformed
        else (scanLineEnd r.2).map fun c => (r.1, c)) :=
    fun r hr => .ite (fun _ => trivial) fun _ => (scanLineEnd_scans hr).map fun _ hc => hc
  rw [Block.scanHeader]
  cases Block.chomping? c.peek with
  | some k =>
    cases Block.increment? c.next.peek with
    | some n => exact hend (⟨k, some n⟩, c.advance 2) (h.advance 2)
    | none => exact hend (⟨k, none⟩, c.next) h.next
  | none =>
    cases Block.increment? c.peek with
    | some n =>
      cases Block.chomping? c.next.peek with
      | some k => exact hend (⟨k, some n⟩, c.advance 2) (h.advance 2)
      | none => exact hend (⟨.clip, some n⟩, c.next) h.next
    | none => exact hend (⟨.clip, none⟩, c) h

theorem leadingBlank_within (fuel widest : Nat) (h : c.Within text) :
    (Block.leadingBlank fuel widest c).2.2.Within text := by
  induction fuel generalizing widest c with
  | zero => exact h
  | succ fuel ih =>
    have hbreak := h.lineBreak
    rw [Block.leadingBlank]
    split
    · exact ih _ h.next
    · split
      · rename_i hb
        rwa [hb] at hbreak
      · rename_i hb
        rw [hb] at hbreak
        exact ih _ hbreak

theorem skipIndent_within (indent fuel : Nat) (h : c.Within text) :
    (Block.skipIndent indent fuel c).Within text := by
  induction fuel generalizing c with
  | zero => exact h
  | succ fuel ih =>
    rw [Block.skipIndent]
    split
    · exact ih h.next
    · exact h

theorem blockBlankLines_within (indent fuel : Nat) (h : c.Within text) :
    (Block.blankLines indent fuel c).2.Within text := by
  induction fuel generalizing c with
  | zero => exact h
  | succ fuel ih =>
    have hbreak := (skipIndent_within indent (indent + 1) h).lineBreak
    rw [Block.blankLines]
    dsimp only
    split
    · rename_i hb
      rwa [hb] at hbreak
    · rename_i hb
      rw [hb] at hbreak
      exact ih hbreak

theorem scanLines_within (folded : Bool) (k : Block.Chomping) (indent fuel : Nat)
    (acc blank : List Char) (h : c.Within text) :
    (Block.scanLines folded k indent fuel acc blank c).2.Within text := by
  induction fuel generalizing acc blank c with
  | zero => exact h
  | succ fuel ih =>
    have hnext (n : Nat) := blockBlankLines_within indent n (h.skip fun x => !isBreak x).lineBreak
    rw [Block.scanLines]
    dsimp only [Cursor.span]
    split
    · exact ih _ _ (hnext _)
    · exact hnext _

theorem scanBlock_scans (folded : Bool) (least : Nat) (h : c.next.Within text) :
    Scans text (Block.scan folded least c) := by
  refine (scanHeader_scans h).bind ?_
  rintro ⟨header, c⟩ h
  have hlines : ∀ r : Nat × List Char × Cursor, r.2.2.Within text → Cursor.Within text
      (if r.2.2.column = r.1 ∧ r.2.2.peek ≠ '\x00' then
        Block.scanLines folded header.chomping r.1 (r.2.2.rest.length + 1) [] r.2.1 r.2.2
      else (Block.ending header.chomping [] r.2.1, r.2.2)).2 := by
    intro r hr
    split
    · exact scanLines_within _ _ _ _ _ _ hr
    · exact hr
  dsimp only
  cases header.increment with
  | some n => exact hlines (_, _, _) (blockBlankLines_within _ _ h)
  | none => exact hlines (_, _, _) (leadingBlank_within _ _ h)

/-! Plain scalars. -/

theorem plainBlankLines_within (fuel : Nat) (h : c.Within text) :
    (Plain.blankLines fuel c).2.Within text := by
  induction fuel generalizing c with
  | zero => exact h
  | succ fuel ih =>
    have hbreak := h.lineBreak
    rw [Plain.blankLines]
    split
    · exact ih h.next
    · split
      · rename_i hb
        rwa [hb] at hbreak
      · rename_i hb
        rw [hb] at hbreak
        have hmore := ih hbreak
        split
        · exact hbreak
        · split <;> (rename_i hm; rwa [hm] at hmore)

theorem between_within (h : c.Within text) : (Plain.between c).cursor.Within text := by
  have hbreak := (h.skip (· = ' ')).lineBreak
  rw [Plain.between]
  dsimp only [Cursor.skip, Cursor.span] at hbreak ⊢
  split
  · rename_i hb
    rwa [hb] at hbreak
  · rename_i c' _ hb
    rw [hb] at hbreak
    have hmore := plainBlankLines_within (c'.rest.length + 1) hbreak
    split
    · exact hbreak
    · split <;> (rename_i hm; rwa [hm] at hmore)

theorem readMore_within (flow : Bool) (indent fuel : Nat) (acc : List Char) (b : Plain.Between)
    (h : b.cursor.Within text) : (Plain.readMore flow indent fuel acc b).cursor.Within text := by
  induction fuel generalizing acc b with
  | zero => exact h
  | succ fuel ih =>
    rw [Plain.readMore]
    split
    · exact h
    · split
      · exact h
      · exact ih _ _ (between_within (h.advance _))

theorem readPlain_within {flow : Bool} (indent : Nat) (hrun : Plain.run flow c.rest ≠ [])
    (h : c.next.Within text) : (Plain.read flow indent c).cursor.Within text := by
  refine readMore_within _ _ _ _ _ (between_within ?_)
  obtain ⟨x, word, hword⟩ := List.exists_cons_of_ne_nil hrun
  rw [hword]
  exact h.advance word.length

end LintDispatch.Yaml
