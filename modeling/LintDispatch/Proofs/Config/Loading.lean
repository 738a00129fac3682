import LintDispatch.Config.File
import LintDispatch.Proofs.Yaml.Composing
import LintDispatch.Proofs.Yaml.Constructing

/-! How the loading of a configuration fails. What the file says is checked, and whatever the check
or the grammar refuses is a configuration error. Errors in the bytes below the grammar and in the
scalars above it are not, and neither is a document that goes deeper than the stack; they keep their
own kinds. -/

namespace LintDispatch

open Outcome (Meets)

namespace Yaml

/-- What can be wrong with the bytes of a document apart from its form: they are no text, an escape
or a version number in the text has no meaning, collections in it lie too deep in one another, or a
node that was read has no meaning. -/
inductive Amiss (depth : Depth) (bytes : List UInt8) : Error → Prop where
  | encoding (h : Text.decodeUtf8? bytes = none) : Amiss depth bytes .encoding
  | lexical {e : Error} (h : Lexical (Supply.ofBytes bytes).text e) : Amiss depth bytes e
  | nesting (h : Level.document.Leads (depth.nodes + 1)
      (TokenStream.ofSupply (.ofBytes bytes)).tokens) : Amiss depth bytes .recursion
  | unfit {d : Document} {e : Error}
      (hd : Document.ofTokens? depth.nodes (.ofSupply (.ofBytes bytes)) = .ok (some d))
      (h : d.Unfit depth e) : Amiss depth bytes e

theorem loadWithin_refuses (depth : Depth) (bytes : List UInt8) :
    Meets (fun _ => True) (fun e => e = .malformed ∨ Amiss depth bytes e)
      (loadWithin depth bytes) := by
  have hread := Document.ofTokens?_refuses depth.nodes (.ofSupply (.ofBytes bytes))
  rw [loadWithin]
  cases hd : Document.ofTokens? depth.nodes (.ofSupply (.ofBytes bytes)) with
  | error e =>
    obtain h | hf | ⟨rfl, hleads⟩ := hread.of_eq_error hd
    · exact .inl h
    · obtain hl | hs := TokenStream.ofSupply_fault hf
      · exact .inr (.lexical hl)
      · obtain hm | ⟨rfl, hn⟩ := Supply.ofBytes_fault hs
        · exact .inl hm
        · exact .inr (.encoding hn)
    · exact .inr (.nesting hleads)
  | ok found =>
    cases found with
    | none => trivial
    | some d => exact (d.value_refuses depth).imp_error fun e he => he.imp_right (.unfit hd)

theorem length_unifyBreaks_le (s : List Char) : (unifyBreaks s).length ≤ s.length := by
  fun_induction unifyBreaks s with
  | case1 => exact Nat.le_refl _
  | case2 s ih => simp only [List.length_cons]; omega
  | case3 c s _ ih => simpa using ih

theorem length_decodeFront_le (fuel : Nat) (bytes : List UInt8) :
    (Text.decodeFront fuel bytes).1.length ≤ fuel := by
  induction fuel generalizing bytes with
  | zero => exact Nat.le_refl _
  | succ fuel ih =>
    rw [Text.decodeFront]
    split
    · exact Nat.succ_le_succ (ih _)
    · exact Nat.zero_le _

theorem length_decodable_le (bytes : List UInt8) :
    (Supply.decodable bytes).length ≤ bytes.length := by
  simp only [Supply.decodable]
  split
  · exact length_decodeFront_le _ _
  · exact length_decodeFront_le _ _

/-- Bytes that are no text are refused as such, at least if the first portion holds them all. -/
theorem load_of_not_utf8 {bytes : List UInt8} (h : Text.decodeUtf8? bytes = none)
    (hshort : bytes.length < 2 * Supply.portion) (depth : Depth) :
    loadWithin depth bytes = .error .encoding := by
  have hsupply : Supply.ofBytes bytes = ⟨[], some .encoding⟩ := by
    have hlength : (unifyBreaks (Supply.decodable bytes)).length < 2 * Supply.portion :=
      Nat.lt_of_le_of_lt (Nat.le_trans (length_unifyBreaks_le _) (length_decodable_le _)) hshort
    simp [Supply.ofBytes, h, Supply.wholePortions, hlength, Supply.ofText]
  have htokens : (TokenStream.ofSupply ⟨[], some .encoding⟩).tokens = [] := by decide +kernel
  have hfault : (TokenStream.ofSupply ⟨[], some .encoding⟩).fault = some .encoding := by
    decide +kernel
  rw [loadWithin, hsupply, Document.ofTokens?]
  simp only [htokens, hfault]
  rfl

theorem Error.kind_eq_configError_iff {e : Error} : e.kind = "ConfigError" ↔ e = .malformed := by
  cases e with
  | codePoint n =>
    rw [kind]
    split <;> simp
  | _ => simp [kind]

end Yaml

namespace Config

def File.Holds (disk : Disk) (f : File) (bytes : List UInt8) : Prop :=
  ∃ a, disk.arriveAt f.here f.name.toList = .ok a ∧ a.entry = .file bytes

/-- What keeps a file from being loaded without being a configuration error. -/
inductive LoadError.Stray (depth : Yaml.Depth) (disk : Disk) (f : File) : LoadError → Prop where
  | tooLong (h : disk.arriveAt f.here f.name.toList = .error .nameTooLong) :
      Stray depth disk f (.obstacle f .nameTooLong)
  | noFile {a : Disk.Arrival} (h : disk.arriveAt f.here f.name.toList = .ok a)
      (hno : ∀ bytes, ¬ f.Holds disk bytes) : Stray depth disk f (.obstacle f .isDirectory)
  | document {bytes : List UInt8} {e : Yaml.Error} (h : f.Holds disk bytes)
      (he : Yaml.Amiss depth bytes e) (hne : e ≠ .malformed) : Stray depth disk f (.document f e)

variable {depth : Yaml.Depth} {disk : Disk} {f : File}

@[simp] theorem report_document_kind (f : File) (e : Yaml.Error) :
    (LoadError.document f e).report.kind = e.kind := by
  cases e <;> rfl

theorem LoadError.Stray.kind_ne {e : LoadError} (h : e.Stray depth disk f) :
    e.report.kind ≠ "ConfigError" := by
  cases h with
  | tooLong => exact (by decide : "OSError" ≠ "ConfigError")
  | noFile => exact (by decide : "IsADirectoryError" ≠ "ConfigError")
  | document _ _ hne => rwa [report_document_kind, Ne, Yaml.Error.kind_eq_configError_iff]

theorem readWithin_refuses (depth : Yaml.Depth) (disk : Disk) (f : File) :
    Meets (fun _ => True) (fun e => e.report.kind = "ConfigError" ∨ e.Stray depth disk f)
      (readWithin depth disk f) := by
  rw [readWithin]
  split
  · exact .inr (.tooLong ‹_›)
  · trivial
  · rename_i bytes ha
    have hholds : f.Holds disk bytes := ⟨_, ha, rfl⟩
    have hload := Yaml.loadWithin_refuses depth bytes
    split
    · rename_i e he
      by_cases hm : e = .malformed
      · exact .inl (by rw [report_document_kind, hm]; rfl)
      · exact .inr (.document hholds ((hload.of_eq_error he).resolve_left hm) hm)
    · trivial
    · split
      · trivial
      · exact .inl rfl
  · rename_i a hno ha
    refine .inr (.noFile ha ?_)
    rintro bytes ⟨b, hb, hbytes⟩
    obtain rfl : a = b := Except.ok.inj (ha.symm.trans hb)
    exact hno a.links a.place bytes (by rw [← hbytes])

/-- A file that is refused is refused with a configuration error, unless it cannot be read as a file,
something in it has no meaning or goes deeper than the stack; then, and only then, the error is of
another kind. -/
theorem load_error_kind_iff {e : LoadError} (h : loadWithin depth disk f = .error e) :
    e.report.kind ≠ "ConfigError" ↔ e.Stray depth disk f := by
  refine ⟨fun hk => ?_, LoadError.Stray.kind_ne⟩
  have hread := readWithin_refuses depth disk f
  rw [loadWithin] at h
  split at h
  · cases h
    exact (hread.of_eq_error ‹_›).resolve_left hk
  · split at h <;> cases h
    exact absurd rfl hk

def projectHolding (bytes : List UInt8) : Disk :=
  Disk.empty.write (Path.ofAbsolute "/p/.l.yml".toList).names (.file bytes)

def report? (outcome : Except LoadError Config) : Option Report :=
  match outcome with
  | .ok _ => none
  | .error e => some e.report

theorem report?_eq_some {outcome : Except LoadError Config} {r : Report}
    (h : report? outcome = some r) : ∃ e, outcome = .error e ∧ e.report = r := by
  cases outcome with
  | ok c => cases h
  | error e => exact ⟨e, rfl, Option.some.inj h⟩

theorem load_error_kind_iff_date :
    let f := File.ofHere (Path.ofAbsolute "/p".toList)
    let disk := projectHolding (Text.encodeUtf8 "linters: 2024-02-30\n".toList)
    ∃ e, load disk f = .error e ∧ e.report = .plain "ValueError" "day is out of range for month" ∧
      e.Stray .usual disk f := by
  intro f disk
  have hreport : report? (load disk f) =
      some (.plain "ValueError" "day is out of range for month") := by
    decide +kernel
  obtain ⟨e, he, hr⟩ := report?_eq_some hreport
  have hk : e.report.kind ≠ "ConfigError" := by
    rw [hr]
    decide
  exact ⟨e, he, hr, (load_error_kind_iff he).mp hk⟩

/-- A mapping that leads to itself under `=` goes deeper than any stack. -/
example :
    let disk := projectHolding (Text.encodeUtf8 "linters: &a !!str {=: *a}\n".toList)
    report? (load disk (.ofHere (Path.ofAbsolute "/p".toList))) =
      some (.plain "RecursionError" "maximum recursion depth exceeded") := by
  decide +kernel

/-- Bytes that are no text are refused with an error of the decoder. -/
theorem load_of_holds_not_utf8 {bytes : List UInt8} (hf : f.Holds disk bytes)
    (h : Text.decodeUtf8? bytes = none) (hshort : bytes.length < 2 * Yaml.Supply.portion) :
    load disk f = .error (.document f .encoding) := by
  obtain ⟨⟨links, place, entry⟩, ha, rfl⟩ := hf
  simp only [load, loadWithin, readWithin, ha, Yaml.load_of_not_utf8 h hshort]

/-- One broken byte in a file is enough for an error that is no configuration error. -/
theorem undecodable_escapes :
    let f := File.ofHere (Path.ofAbsolute "/p".toList)
    let disk := projectHolding (Text.encodeUtf8 "linters: ".toList ++ [0xff, 0x0a])
    load disk f = .error (.document f .encoding) ∧
      (LoadError.document f .encoding).report.kind = "UnicodeDecodeError" := by
  intro f disk
  have hentry : (disk.arriveAt f.here f.name.toList).toOption.any (fun a =>
      decide (a.entry = .file (Text.encodeUtf8 "linters: ".toList ++ [0xff, 0x0a]))) = true := by
    decide +kernel
  obtain ⟨a, ha, hbytes⟩ := Outcome.exists_of_any hentry
  exact ⟨load_of_holds_not_utf8 ⟨a, ha, of_decide_eq_true hbytes⟩ (by decide +kernel)
    (by decide), rfl⟩

end Config

end LintDispatch
