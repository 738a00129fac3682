import LintDispatch.Console.Transcript

/-! What the console prints of what it is given. A character comes out as it is, unless it is a tab,
which comes out as the spaces up to the next stop of its line, or one of the five control characters
that are left out. So the console is verbatim exactly on the texts that hold none of these six,
however long they are. -/

namespace LintDispatch.Console

def Prints (c : Char) : Prop :=
  isDropped c = false ∧ c ≠ '\t'

instance (c : Char) : Decidable (Prints c) :=
  inferInstanceAs (Decidable (_ ∧ _))

/-- Behind `piece`, which is what the line holds since its last tab, the second text is shown for
the first. A tab is a space, and further ones until the cells are a multiple of the tab width. -/
inductive Shows : List Char → List Char → List Char → Prop where
  | nil {piece : List Char} : Shows piece [] []
  | kept {piece s t : List Char} {c : Char} (hc : Prints c) (hline : c ≠ '\n')
      (h : Shows (piece ++ [c]) s t) : Shows piece (c :: s) (c :: t)
  | ended {piece s t : List Char} (h : Shows [] s t) : Shows piece ('\n' :: s) ('\n' :: t)
  | dropped {piece s t : List Char} {c : Char} (hc : isDropped c = true) (h : Shows piece s t) :
      Shows piece (c :: s) t
  | filled {piece s t : List Char} {n : Nat} (hn : n < tabWidth)
      (hstop : (Text.cells (piece ++ [' ']) + n) % tabWidth = 0) (h : Shows [] s t) :
      Shows piece ('\t' :: s) (' ' :: (List.replicate n ' ' ++ t))

variable {piece s t : List Char}

theorem Shows.unique {u : List Char} (h : Shows piece s t) (h' : Shows piece s u) : t = u := by
  induction h generalizing u with
  | nil =>
    cases h'
    rfl
  | kept hc hline _ ih =>
    cases h' with
    | kept _ _ h' => rw [ih h']
    | ended _ => exact absurd rfl hline
    | dropped hd _ => exact absurd hd (by simp [hc.1])
    | filled _ _ _ => exact absurd rfl hc.2
  | ended _ ih =>
    cases h' with
    | kept _ hline _ => exact absurd rfl hline
    | ended h' => rw [ih h']
    | dropped hd _ => exact absurd hd (by decide)
  | dropped hd _ ih =>
    cases h' with
    | kept hc _ _ => exact absurd hd (by simp [hc.1])
    | ended _ => exact absurd hd (by decide)
    | dropped _ h' => exact ih h'
    | filled _ _ _ => exact absurd hd (by decide)
  | @filled piece _ _ n hn hstop _ ih =>
    cases h' with
    | kept hc _ _ => exact absurd rfl hc.2
    | dropped hd _ => exact absurd hd (by decide)
    | @filled _ _ _ m hm hstop' h' =>
      have hnm : n = m := by
        simp only [tabWidth] at hn hstop hm hstop'
        omega
      rw [hnm, ih h']

theorem shows_self (h : ∀ c ∈ s, Prints c) : Shows piece s s := by
  induction s generalizing piece with
  | nil => exact .nil
  | cons c s ih =>
    have hc := h c List.mem_cons_self
    have hs := fun d hd => h d (List.mem_cons_of_mem _ hd)
    by_cases hline : c = '\n'
    · subst hline
      exact .ended (ih hs)
    · exact .kept hc hline (ih hs)

theorem Shows.prints (h : Shows piece s t) : ∀ c ∈ t, Prints c := by
  induction h with
  | nil => exact List.forall_mem_nil _
  | kept hc _ _ ih => exact List.forall_mem_cons.mpr ⟨hc, ih⟩
  | ended _ ih => exact List.forall_mem_cons.mpr ⟨by decide, ih⟩
  | dropped _ _ ih => exact ih
  | @filled _ _ _ n _ _ _ ih =>
    have hspaces : ∀ c ∈ List.replicate n ' ', Prints c := by
      intro c hc
      rw [List.eq_of_mem_replicate hc]
      decide
    exact List.forall_mem_cons.mpr ⟨by decide, List.forall_mem_append.mpr ⟨hspaces, ih⟩⟩

theorem Shows.eq_iff (h : Shows piece s t) : t = s ↔ ∀ c ∈ s, Prints c := by
  constructor
  · rintro rfl
    exact h.prints
  · exact fun hs => h.unique (shows_self hs)

theorem Shows.append_line {s' t' : List Char} (h : Shows piece s t) (h' : Shows [] s' t') :
    Shows piece (s ++ '\n' :: s') (t ++ '\n' :: t') := by
  induction h with
  | nil => exact .ended h'
  | kept hc hline _ ih => exact .kept hc hline ih
  | ended _ ih => exact .ended ih
  | dropped hc _ ih => exact .dropped hc ih
  | filled hn hstop _ ih =>
    rw [List.cons_append, List.cons_append, List.append_assoc]
    exact .filled hn hstop ih

theorem Shows.append_piece {more : List Char} (hmore : ∀ c ∈ more, Prints c ∧ c ≠ '\n')
    (h : Shows (piece ++ more) s t) : Shows piece (more ++ s) (more ++ t) := by
  induction more generalizing piece with
  | nil => simpa using h
  | cons c more ih =>
    obtain ⟨⟨hc, hline⟩, hrest⟩ := List.forall_mem_cons.mp hmore
    refine .kept hc hline (ih hrest ?_)
    simpa using h

theorem shows_of_filter (h : Shows piece (s.filter fun c => !isDropped c) t) : Shows piece s t := by
  induction s generalizing piece t with
  | nil => exact h
  | cons c s ih =>
    by_cases hc : isDropped c = true
    · rw [List.filter_cons_of_neg (by simp [hc])] at h
      exact .dropped hc (ih h)
    · rw [List.filter_cons_of_pos (by simp [hc])] at h
      cases h with
      | kept hp hline h => exact .kept hp hline (ih h)
      | ended h => exact .ended (ih h)
      | dropped hd h => exact absurd hd hc
      | filled hn hstop h => exact .filled hn hstop (ih h)

theorem padding_stops {column : Nat} (h : column % tabWidth = 0) (cells : Nat) :
    let reached := column + cells
    let padding := if reached % tabWidth = 0 then 0 else tabWidth - reached % tabWidth
    padding < tabWidth ∧ (reached + padding) % tabWidth = 0 ∧ (cells + padding) % tabWidth = 0 := by
  intro reached padding
  have hreached : reached = column + cells := rfl
  rw [show tabWidth = 8 from rfl] at h ⊢
  by_cases hstop : reached % 8 = 0
  · have hpadding : padding = 0 := if_pos hstop
    omega
  · have hpadding : padding = 8 - reached % 8 := if_neg hstop
    omega

/-- Stops are at multiples of the tab width, so from the last stop on a line is laid out as from its
start. -/
theorem shows_fillTabs {column : Nat} (hcolumn : column % tabWidth = 0) {pieces : List (List Char)}
    (h : ∀ piece ∈ pieces, ∀ c ∈ piece, Prints c ∧ c ≠ '\n') :
    Shows [] (Text.joinWith '\t' pieces) (fillTabs column pieces) := by
  induction pieces generalizing column with
  | nil => exact .nil
  | cons piece rest ih =>
    obtain ⟨hpiece, hrest⟩ := List.forall_mem_cons.mp h
    cases rest with
    | nil => exact shows_self fun c hc => (hpiece c hc).1
    | cons next rest =>
      simp only [fillTabs, Text.joinWith, List.append_assoc, List.cons_append]
      obtain ⟨hn, hreached, hstop⟩ := padding_stops hcolumn (Text.cells (piece ++ [' ']))
      exact .append_piece hpiece (.filled hn hstop (ih hreached hrest))

theorem shows_renderLine {line : List Char} (h : ∀ c ∈ line, isDropped c = false ∧ c ≠ '\n') :
    Shows [] line (renderLine line) := by
  have hpieces : ∀ piece ∈ Text.splitAt '\t' line, ∀ c ∈ piece, Prints c ∧ c ≠ '\n' := by
    intro piece hpiece c hc
    obtain ⟨hkept, hline⟩ := h c (Text.mem_of_mem_splitAt hpiece hc)
    refine ⟨⟨hkept, ?_⟩, hline⟩
    rintro rfl
    exact Text.not_mem_of_mem_splitAt hpiece hc
  have hshows := shows_fillTabs (Nat.zero_mod tabWidth) hpieces
  rwa [Text.joinWith_splitAt] at hshows

theorem shows_lines {lines : List (List Char)}
    (h : ∀ line ∈ lines, ∀ c ∈ line, isDropped c = false ∧ c ≠ '\n') :
    Shows [] (Text.joinWith '\n' lines) (Text.joinWith '\n' (lines.map renderLine)) := by
  induction lines with
  | nil => exact .nil
  | cons line rest ih =>
    obtain ⟨hline, hrest⟩ := List.forall_mem_cons.mp h
    have hshown := shows_renderLine hline
    cases rest with
    | nil => exact hshown
    | cons next rest => exact hshown.append_line (ih hrest)

theorem shows_verbatim (message : String) : Shows [] message.toList (verbatim message).toList := by
  let kept := message.toList.filter fun c => !isDropped c
  have hlines : ∀ line ∈ Text.splitAt '\n' kept, ∀ c ∈ line, isDropped c = false ∧ c ≠ '\n' := by
    intro line hline c hc
    refine ⟨by simpa using (List.mem_filter.mp (Text.mem_of_mem_splitAt hline hc)).2, ?_⟩
    rintro rfl
    exact Text.not_mem_of_mem_splitAt hline hc
  have hshows := shows_lines hlines
  rw [Text.joinWith_splitAt] at hshows
  rw [verbatim, String.toList_ofList]
  exact shows_of_filter hshows

/-- What a console is told to print: a line of its own, or a text without an end. -/
inductive Call where
  | echo (message : String)
  | write (message : String)
  deriving DecidableEq, Repr

namespace Call

def message : Call → String
  | .echo message => message
  | .write message => message

def transcript : Call → Transcript
  | .echo message => Console.echo message
  | .write message => Console.write message

def text : Call → String
  | .echo message => message ++ "\n"
  | .write message => message

def shown (call : Call) : String :=
  Transcript.output call.transcript

theorem shows_shown (call : Call) : Shows [] call.text.toList call.shown.toList := by
  cases call with
  | echo message =>
    simpa [text, shown, transcript, Console.echo, Transcript.output, Event.text] using
      (shows_verbatim message).append_line .nil
  | write message =>
    simpa [text, shown, transcript, Console.write, Transcript.output, Event.text] using
      shows_verbatim message

theorem prints_text_iff {call : Call} :
    (∀ c ∈ call.text.toList, Prints c) ↔ ∀ c ∈ call.message.toList, Prints c := by
  have hline : Prints '\n' := by decide
  cases call with
  | echo message => simp [text, Call.message, or_imp, forall_and, hline]
  | write message => rfl

theorem shown_eq_text_iff {call : Call} :
    call.shown = call.text ↔ ∀ c ∈ call.message.toList, Prints c := by
  rw [← String.toList_inj, call.shows_shown.eq_iff, prints_text_iff]

end Call

theorem output_calls (calls : List Call) :
    Transcript.output (calls.flatMap Call.transcript) = String.join (calls.map Call.shown) := by
  induction calls with
  | nil => rfl
  | cons call calls ih =>
    rw [List.flatMap_cons, Transcript.output_append, ih, List.map_cons, String.join_cons]
    rfl

theorem prints_join_shown (calls : List Call) :
    ∀ c ∈ (String.join (calls.map Call.shown)).toList, Prints c := by
  intro c hc
  rw [String.toList_join, List.flatMap_map] at hc
  obtain ⟨call, -, hmem⟩ := List.mem_flatMap.mp hc
  exact call.shows_shown.prints c hmem

/-- Whatever a console is told to print, in any number of calls, the stream holds what each call
shows, one after the other: every character of its text as it is and in its place, but for the
control characters that are left out and the tabs, which are filled up to their stop. So the stream
holds those texts and nothing else exactly if none of these is among their characters. -/
theorem output_shows (calls : List Call) :
    let said := String.join (calls.map Call.text)
    let output := Transcript.output (calls.flatMap Call.transcript)
    output = String.join (calls.map Call.shown) ∧
      (∀ call ∈ calls, Shows [] call.text.toList call.shown.toList) ∧
      (output = said ↔ ∀ call ∈ calls, ∀ c ∈ call.message.toList, Prints c) := by
  intro said output
  have houtput : output = String.join (calls.map Call.shown) := output_calls calls
  refine ⟨houtput, fun call _ => call.shows_shown, ⟨fun hsame call hcall => ?_, fun h => ?_⟩⟩
  · rw [← Call.prints_text_iff]
    intro c hc
    have hsaid : c ∈ said.toList := by
      rw [String.toList_join, List.flatMap_map]
      exact List.mem_flatMap.mpr ⟨call, hcall, hc⟩
    rw [← hsame, houtput] at hsaid
    exact prints_join_shown calls c hsaid
  · have hshown : calls.map Call.shown = calls.map Call.text :=
      List.map_congr_left fun call hcall => Call.shown_eq_text_iff.mpr (h call hcall)
    rw [houtput, hshown]

/-- A tab in the name of a file is printed as spaces. -/
theorem echo_tab_filled :
    let calls := [Call.echo "a\tb"]
    let said := String.join (calls.map Call.text)
    let output := Transcript.output (calls.flatMap Call.transcript)
    said = "a\tb\n" ∧ output = "a       b\n" ∧ output ≠ said := by
  decide +kernel

end LintDispatch.Console
