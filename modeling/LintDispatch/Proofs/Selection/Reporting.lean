import LintDispatch.Child
import LintDispatch.Proofs.Outcome
import LintDispatch.Proofs.Text.Breaking
import LintDispatch.Proofs.Text.Encoding
import LintDispatch.Selection.Engine

/-! The paths that a command reports. A command writes names of files, each with a line feed behind
it, and what it wrote is decoded, broken into lines and trimmed. The names come back as they were
if none of them holds a character that ends lines. A line feed is not the only such character, and
a name with one of the others in it comes back in pieces. -/

namespace LintDispatch

namespace Change

def paths (s : List Char) : List String :=
  reported ((Text.lines s).map String.ofList)

def written (names : List String) : List Char :=
  Text.listing (names.map String.toList)

/-- What is read of a name that stands before a line feed. -/
def readAs (name : String) : List String :=
  reported ((name.toList.splitOnP Text.isLineEnd).map String.ofList)

/-- A name that fills a line: there is something of it, no blank stands at its ends, and nothing in
it ends the line. -/
structure Lined (name : String) : Prop where
  nonEmpty : name ≠ ""
  front : name.toList.head?.any Text.isBlank = false
  back : name.toList.getLast?.any Text.isBlank = false
  unbroken : name.toList.any Text.isLineEnd = false

theorem lined_iff {name : String} : Lined name ↔ name ≠ "" ∧
    name.toList.head?.any Text.isBlank = false ∧ name.toList.getLast?.any Text.isBlank = false ∧
    name.toList.any Text.isLineEnd = false :=
  ⟨fun ⟨h, hf, hb, hu⟩ => ⟨h, hf, hb, hu⟩, fun ⟨h, hf, hb, hu⟩ => ⟨h, hf, hb, hu⟩⟩

instance (name : String) : Decidable (Lined name) :=
  decidable_of_iff _ lined_iff.symm

theorem Lined.carriageReturn_not_mem {name : String} (h : Lined name) : '\r' ∉ name.toList :=
  fun hmem => List.any_eq_false.mp h.unbroken '\r' hmem rfl

theorem lined_of_mem_paths {s : List Char} {path : String} (h : path ∈ paths s) : Lined path := by
  obtain ⟨htrimmed, hne⟩ := List.mem_filter.mp h
  obtain ⟨text, htext, rfl⟩ := List.mem_map.mp htrimmed
  obtain ⟨line, hline, rfl⟩ := List.mem_map.mp htext
  rw [String.toList_ofList] at hne ⊢
  refine ⟨by simpa using hne, ?_, ?_, ?_⟩
  all_goals rw [String.toList_ofList]
  · exact Text.any_head?_trim line
  · exact Text.any_getLast?_trim line
  · rw [List.any_eq_false]
    intro c hc
    simp [Text.not_isLineEnd_of_mem_lines hline (Text.mem_of_mem_trim hc)]

theorem readAs_of_lined {name : String} (h : Lined name) : readAs name = [name] := by
  have hunbroken : ∀ c ∈ name.toList, Text.isLineEnd c = false := by
    simpa using h.unbroken
  have hpiece := List.splitOnP_eq_singleton hunbroken
  have htrim := Text.trim_of_ends h.front h.back
  simp [readAs, reported, hpiece, htrim, h.nonEmpty]

theorem reported_flatMap {α : Type} (f : α → List String) (xs : List α) :
    reported (xs.flatMap f) = xs.flatMap fun x => reported (f x) := by
  simp only [reported, List.map_flatMap, List.filter_flatMap]

theorem paths_written {names : List String} (h : ∀ name ∈ names, '\r' ∉ name.toList) :
    paths (written names) = names.flatMap readAs := by
  have hlines : Text.lines (written names) =
      names.flatMap fun name => name.toList.splitOnP Text.isLineEnd := by
    rw [written, Text.lines_listing (by simpa using h), List.flatMap_map]
  rw [paths, hlines, List.map_flatMap, reported_flatMap]
  rfl

theorem flatMap_readAs_of_lined {names : List String} (h : ∀ name ∈ names, Lined name) :
    names.flatMap readAs = names := by
  induction names with
  | nil => rfl
  | cons name names ih =>
    have hname := readAs_of_lined (h name List.mem_cons_self)
    have hnames := ih fun other hother => h other (List.mem_cons_of_mem _ hother)
    rw [List.flatMap_cons, hname, hnames, List.singleton_append]

end Change

namespace Child

theorem unifyLineEnds_of_not_mem {s : List Char} (h : '\r' ∉ s) : unifyLineEnds s = s := by
  fun_induction unifyLineEnds s with
  | case1 | case2 => simp at h
  | case3 c s _ _ ih => rw [ih fun hs => h (List.mem_cons_of_mem _ hs)]
  | case4 => rfl

theorem unifyLineEnds_written {names : List String} (h : ∀ name ∈ names, '\r' ∉ name.toList) :
    unifyLineEnds (Change.written names) = Change.written names := by
  apply unifyLineEnds_of_not_mem
  simpa [Change.written, Text.listing] using h

variable (root command : String) {c : Shell.Completed} {s : List Char}

theorem finish_decoded {t : List Char} (hending : c.ending = .exited 0)
    (houtput : Text.decodeUtf8? c.output = some s) (herrors : Text.decodeUtf8? c.errors = some t) :
    finish (.queryIn root) command c = .ok
      ⟨0, .text (String.ofList (unifyLineEnds s)), .text (String.ofList (unifyLineEnds t))⟩ := by
  simp [finish, keep, Options.queryIn, Options.standard, houtput, herrors, hending, statusOf, bind,
    Except.bind]

theorem finish_undecodable (houtput : Text.decodeUtf8? c.output = some s)
    (herrors : Text.decodeUtf8? c.errors = none) :
    finish (.queryIn root) command c = .error .undecodable := by
  simp [finish, keep, Options.queryIn, Options.standard, houtput, herrors, bind, Except.bind]

end Child

namespace ChangeSource

section Launch

variable {root reference : String} {scopes : List String} {disk : Disk} {s : List Char}
  {launch : Child.Options → Disk → String → Except Child.Error Shell.Completed}
  {completed : Shell.Completed}

theorem changed_decoded {t : List Char}
    (hlaunch : launch (.queryIn root) disk (Change.queryCommand reference scopes) = .ok completed)
    (hending : completed.ending = .exited 0)
    (houtput : Text.decodeUtf8? completed.output = some s)
    (herrors : Text.decodeUtf8? completed.errors = some t) :
    (ofLaunch root launch).changed disk reference scopes = (completed.disk,
      .ok ⟨Change.queryCommand reference scopes, Change.paths (Child.unifyLineEnds s)⟩) := by
  have hfinish := Child.finish_decoded root (Change.queryCommand reference scopes) hending houtput
    herrors
  simp [ofLaunch, git, Child.linesOf, hlaunch, hfinish, Except.map, Child.Kept.text?, Change.paths]

theorem changed_undecodable
    (hlaunch : launch (.queryIn root) disk (Change.queryCommand reference scopes) = .ok completed)
    (houtput : Text.decodeUtf8? completed.output = some s)
    (herrors : Text.decodeUtf8? completed.errors = none) :
    (ofLaunch root launch).changed disk reference scopes =
      (completed.disk, .error .undecodable) := by
  have hfinish := Child.finish_undecodable root (Change.queryCommand reference scopes) houtput
    herrors
  simp [ofLaunch, git, Child.linesOf, hlaunch, hfinish, Except.map]

/-- Where a command succeeds that wrote these names, each with a line feed behind it, they are the
reported files exactly if what it wrote besides is text and none of them holds a character that ends
lines, is empty, or begins or ends with a blank. Every other name is broken at those characters. -/
theorem changed_of_written {names : List String}
    (hlaunch : launch (.queryIn root) disk (Change.queryCommand reference scopes) = .ok completed)
    (hending : completed.ending = .exited 0)
    (hwrote : completed.output = Text.encodeUtf8 (Change.written names)) :
    let command := Change.queryCommand reference scopes
    let answer := (ofLaunch root launch).changed disk reference scopes
    (answer = (completed.disk, .ok ⟨command, names⟩) ↔
        (Text.decodeUtf8? completed.errors).isSome ∧ ∀ name ∈ names, Change.Lined name) ∧
      ((Text.decodeUtf8? completed.errors).isSome → (∀ name ∈ names, '\r' ∉ name.toList) →
        answer = (completed.disk, .ok ⟨command, names.flatMap Change.readAs⟩)) ∧
      (Text.decodeUtf8? completed.errors = none →
        answer = (completed.disk, .error .undecodable)) := by
  intro command answer
  have houtput : Text.decodeUtf8? completed.output = some (Change.written names) := by
    rw [hwrote, Text.decodeUtf8?_encodeUtf8]
  cases herrors : Text.decodeUtf8? completed.errors with
  | none =>
    have hanswer : answer = (completed.disk, .error .undecodable) :=
      changed_undecodable hlaunch houtput herrors
    simp [hanswer]
  | some t =>
    have hanswer : answer = (completed.disk,
        .ok ⟨command, Change.paths (Child.unifyLineEnds (Change.written names))⟩) :=
      changed_decoded hlaunch hending houtput herrors
    have hpieces : (∀ name ∈ names, '\r' ∉ name.toList) →
        answer = (completed.disk, .ok ⟨command, names.flatMap Change.readAs⟩) := by
      intro hreturn
      rw [hanswer, Child.unifyLineEnds_written hreturn, Change.paths_written hreturn]
    refine ⟨⟨fun h => ⟨rfl, fun name hname => ?_⟩, fun ⟨_, hlined⟩ => ?_⟩, fun _ => hpieces, nofun⟩
    · -- Whatever is reported fills a line, even where a carriage return was written.
      have hchange := Except.ok.inj (congrArg Prod.snd (hanswer.symm.trans h))
      have hfiles : Change.paths _ = names := congrArg Change.files hchange
      exact Change.lined_of_mem_paths (hfiles ▸ hname)
    · have hsame := Change.flatMap_readAs_of_lined hlined
      rw [hpieces fun name hname => (hlined name hname).carriageReturn_not_mem, hsame]

end Launch

def emptyProject : Disk :=
  Disk.empty.write (Path.ofAbsolute "/p".toList).names .directory

/-- A reference that has the shell write a text in place of the query. -/
def writing (format : String) : String :=
  ">/dev/null 2>&1; printf '" ++ format ++ "' #"

def Writes (reference : String) (names : List String) (completed : Shell.Completed) : Prop :=
  Child.launch (.ofAbsolute "/p".toList) (.queryIn ".") emptyProject
      (Change.queryCommand reference ["."]) = .ok completed ∧
    completed.ending = .exited 0 ∧
    completed.output = Text.encodeUtf8 (Change.written names) ∧ completed.errors = []

def writes? (reference : String) (names : List String) : Bool :=
  let launched := Child.launch (.ofAbsolute "/p".toList) (.queryIn ".") emptyProject
    (Change.queryCommand reference ["."])
  launched.toOption.any fun completed => decide (completed.ending = .exited 0 ∧
    completed.output = Text.encodeUtf8 (Change.written names) ∧ completed.errors = [])

theorem exists_writes {reference : String} {names : List String}
    (h : writes? reference names = true) : ∃ completed, Writes reference names completed := by
  obtain ⟨completed, hlaunch, hfacts⟩ := Outcome.exists_of_any h
  exact ⟨completed, hlaunch, of_decide_eq_true hfacts⟩

/-- Blanks within a name and characters of several bytes are kept. -/
theorem changed_of_written_accents :
    let reference := writing "\\303\\251 a.rb\\nb\\n"
    let names := ["é a.rb", "b"]
    (∀ name ∈ names, Change.Lined name) ∧ ∃ completed, Writes reference names completed ∧
      (ofChild (.ofAbsolute "/p".toList) ".").changed emptyProject reference ["."] =
        (completed.disk, .ok ⟨Change.queryCommand reference ["."], names⟩) := by
  intro reference names
  have hlined : ∀ name ∈ names, Change.Lined name := by decide +kernel
  obtain ⟨completed, hwrites⟩ : ∃ completed, Writes reference names completed :=
    exists_writes (by decide +kernel)
  have ⟨hlaunch, hending, hwrote, herrors⟩ := hwrites
  have htext : (Text.decodeUtf8? completed.errors).isSome := by
    rw [herrors]
    rfl
  exact ⟨hlined, completed, hwrites,
    (changed_of_written hlaunch hending hwrote).1.mpr ⟨htext, hlined⟩⟩

/-- A line separator within a name breaks it in two. -/
theorem separated_name_broken :
    let reference := writing "a\\342\\200\\250b\\n"
    let name := "a\u2028b"
    (name ≠ "" ∧ '\n' ∉ name.toList ∧ '\r' ∉ name.toList ∧
        name.toList.head?.any Text.isBlank = false ∧
        name.toList.getLast?.any Text.isBlank = false) ∧
      ∃ completed, Writes reference [name] completed ∧
        (ofChild (.ofAbsolute "/p".toList) ".").changed emptyProject reference ["."] =
          (completed.disk, .ok ⟨Change.queryCommand reference ["."], ["a", "b"]⟩) ∧
        ["a", "b"] ≠ [name] := by
  intro reference name
  obtain ⟨completed, hwrites⟩ : ∃ completed, Writes reference [name] completed :=
    exists_writes (by decide +kernel)
  have ⟨hlaunch, hending, hwrote, herrors⟩ := hwrites
  have houtput : Text.decodeUtf8? completed.output = some (Change.written [name]) := by
    rw [hwrote, Text.decodeUtf8?_encodeUtf8]
  have htext : Text.decodeUtf8? completed.errors = some [] := by
    rw [herrors]
    rfl
  have hbroken : Change.paths (Child.unifyLineEnds (Change.written [name])) = ["a", "b"] := by
    decide +kernel
  exact ⟨by decide +kernel, completed, hwrites,
    hbroken ▸ changed_decoded hlaunch hending houtput htext, by decide⟩

end ChangeSource

end LintDispatch
