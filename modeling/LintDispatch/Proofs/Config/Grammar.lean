import LintDispatch.Config.Basic
import Mathlib.Data.List.Forall2

/-! The grammar of the configuration file: which documents are accepted, and what configuration and
which linters they stand for. The relations here say it field by field; the checks of the loader
decide them, over documents that hold nothing but nulls, truth values, numbers, texts, lists and
mappings. -/

namespace LintDispatch

def Scalar.isPlain : Scalar → Bool
  | .null | .bool _ | .int _ | .float _ | .text _ => true
  | .illFormed _ | .bytes _ | .moment _ => false

namespace Value

mutual

def isPlain : Value → Bool
  | .scalar s => s.isPlain
  | .list items => allPlain items
  | .map entries => entriesPlain entries
  | .set _ => false

def allPlain : List Value → Bool
  | [] => true
  | v :: vs => v.isPlain && allPlain vs

def entriesPlain : List (Scalar × Value) → Bool
  | [] => true
  | (_, v) :: entries => v.isPlain && entriesPlain entries

end

theorem allPlain_iff {items : List Value} :
    allPlain items = true ↔ ∀ v ∈ items, v.isPlain = true := by
  induction items with
  | nil => simp [allPlain]
  | cons v items ih => simp [allPlain, ih]

theorem entriesPlain_iff {entries : List (Scalar × Value)} :
    entriesPlain entries = true ↔ ∀ e ∈ entries, e.2.isPlain = true := by
  induction entries with
  | nil => simp [entriesPlain]
  | cons e entries ih => simp [entriesPlain, ih]

theorem isNull_iff {v : Value} : v.isNull = true ↔ v = .scalar .null := by
  cases v with
  | scalar s => cases s <;> simp [isNull]
  | _ => simp [isNull]

theorem isPlain_of_lookup {entries : List (Scalar × Value)} {key : String} {v : Value}
    (hentries : entriesPlain entries = true) (h : lookup? key entries = some v) :
    v.isPlain = true := by
  obtain ⟨e, he, rfl⟩ := Option.map_eq_some_iff.mp h
  exact entriesPlain_iff.mp hentries e (List.mem_of_find?_eq_some he)

end Value

namespace Config

variable {α β : Type}

def Spells (v : Value) (s : String) : Prop := v = .text s

def SpellsSome (v : Value) (o : Option String) : Prop := ∃ s, Spells v s ∧ o = some s

inductive Lists (R : Value → α → Prop) : Value → List α → Prop where
  | intro {items : List Value} {xs : List α} (h : List.Forall₂ R items xs) :
      Lists R (.list items) xs

inductive Maps (R : List (Scalar × Value) → α → Prop) : Value → α → Prop where
  | intro {entries : List (Scalar × Value)} {a : α} (h : R entries a) : Maps R (.map entries) a

/-- A list of texts, or one text in place of a list of one. -/
inductive Paths : Value → List String → Prop where
  | single (s : String) : Paths (.text s) [s]
  | several {v : Value} {paths : List String} (h : Lists Spells v paths) : Paths v paths

/-- What a field stands for that may be left out: the default where it is absent or null. -/
inductive Given (R : Value → α → Prop) (default : α) : Option Value → α → Prop where
  | absent : Given R default none default
  | null : Given R default (some (.scalar .null)) default
  | present {v : Value} {a : α} (hv : v.isNull = false) (h : R v a) : Given R default (some v) a

def Needed (R : Value → α → Prop) (field : Option Value) (a : α) : Prop :=
  ∃ v, field = some v ∧ R v a

end Config

open Config

structure Descriptor.StatedBy (entries : List (Scalar × Value)) (d : Descriptor) : Prop where
  name : Needed Spells (Value.lookup? "name" entries) d.name
  command : Needed Spells (Value.lookup? "cmd" entries) d.command
  extensions : Needed (Lists Spells) (Value.lookup? "extensions" entries) d.extensions
  autocorrectCommand :
    Given SpellsSome none (Value.lookup? "autocorrect_cmd" entries) d.autocorrectCommand
  optionName : Given SpellsSome none (Value.lookup? "cli_option_name" entries) d.optionName
  abbreviation : Given SpellsSome none (Value.lookup? "cli_abbrev" entries) d.abbreviation

/-- The entries of a mapping make up this linter, which no flag has touched yet. -/
structure Linter.StatedBy (entries : List (Scalar × Value)) (l : Linter) : Prop where
  name : Needed Spells (Value.lookup? "name" entries) l.name
  template : Needed Spells (Value.lookup? "cmd" entries) l.template
  extensions : Needed (Lists Spells) (Value.lookup? "extensions" entries) l.extensions
  autocorrectTemplate :
    Given SpellsSome none (Value.lookup? "autocorrect_cmd" entries) l.autocorrectTemplate
  optionName :
    Given Spells (defaultOptionName l.name) (Value.lookup? "cli_option_name" entries) l.optionName
  abbreviation :
    Given Spells (defaultAbbreviation l.name) (Value.lookup? "cli_abbrev" entries) l.abbreviation
  toggle : l.toggle = none
  enabled : l.enabled = true

/-- The entries of a file make up this configuration. -/
structure Config.StatedBy (entries : List (Scalar × Value)) (c : Config) : Prop where
  sourcePaths :
    Given Paths defaultSourcePaths (Value.lookup? "source_file_paths" entries) c.sourcePaths
  ignoredPaths : Given Paths [] (Value.lookup? "ignored_file_paths" entries) c.ignoredPaths
  linters :
    Given (Lists (Maps Descriptor.StatedBy)) [] (Value.lookup? "linters" entries) c.linters
  settings : c.settings = .default

namespace Config

variable {α β : Type}

namespace Checked

theorem inside_eq_good {step : Step} {x : Checked α} {a : α} :
    x.inside step = .good a ↔ x = .good a := by
  cases x <;> simp [inside]

theorem eachFrom_eq_good {check : α → Checked β} {i : Nat} {xs : List α} {ys : List β} :
    eachFrom check i xs = .good ys ↔ List.Forall₂ (fun x y => check x = .good y) xs ys := by
  induction xs generalizing i ys with
  | nil => cases ys <;> simp [eachFrom]
  | cons x xs ih =>
    simp only [eachFrom, seq_eq_good, map_eq_good, inside_eq_good, ih, List.forall₂_cons_left_iff]
    constructor
    · rintro ⟨_, tail, ⟨y, hy, rfl⟩, htail, rfl⟩
      exact ⟨y, tail, hy, htail, rfl⟩
    · rintro ⟨y, tail, hy, htail, rfl⟩
      exact ⟨_, tail, ⟨y, hy, rfl⟩, htail, rfl⟩

end Checked

section Given

variable {R : Value → α → Prop} {default a : α}

theorem given_none_iff : Given R default none a ↔ a = default :=
  ⟨fun | .absent => rfl, fun h => h ▸ .absent⟩

theorem given_null_iff : Given R default (some (.scalar .null)) a ↔ a = default :=
  ⟨fun | .null => rfl, fun h => h ▸ .null⟩

theorem given_some_iff {v : Value} (hv : v.isNull = false) :
    Given R default (some v) a ↔ R v a := by
  refine ⟨fun h => ?_, .present hv⟩
  cases h with
  | null => cases hv
  | present _ h => exact h

end Given

theorem forall₂_congr {R S : α → β → Prop} {xs xs' : List α} {ys : List β}
    (h : List.Forall₂ (fun x x' => ∀ y, R x y ↔ S x' y) xs xs') :
    List.Forall₂ R xs ys ↔ List.Forall₂ S xs' ys := by
  induction h generalizing ys with
  | nil => simp
  | cons hx _ ih => simp only [List.forall₂_cons_left_iff, hx, ih]

/-- On plain values, `check` accepts what stands for something, and gives what it stands for. -/
def Decides (check : Value → Checked α) (R : Value → α → Prop) : Prop :=
  ∀ v a, v.isPlain = true → (check v = .good a ↔ R v a)

theorem text_decides : Decides text Spells := by
  intro v s hv
  cases v with
  | scalar x =>
    cases x with
    | illFormed | bytes => cases hv
    | _ => simp [text, Spells, Value.text, Checked.fail]
  | _ => simp [text, Spells, Value.text, Checked.fail]

theorem Decides.listOf {check : Value → Checked α} {R : Value → α → Prop} (h : Decides check R) :
    Decides (Config.listOf check) (Lists R) := by
  intro v xs hv
  cases v with
  | list items =>
    have hitems := Value.allPlain_iff.mp hv
    have hiff : Config.listOf check (.list items) = .good xs ↔ List.Forall₂ R items xs :=
      Checked.eachFrom_eq_good.trans
        (forall₂_congr (List.forall₂_same.mpr fun v hv a => h v a (hitems v hv)))
    exact hiff.trans ⟨.intro, fun ⟨hall⟩ => hall⟩
  | set members => cases hv
  | _ => exact ⟨nofun, nofun⟩

theorem lists_spells_single {s : String} {paths : List String} :
    Lists Spells (.list [.text s]) paths ↔ paths = [s] := by
  constructor
  · rintro ⟨hall⟩
    obtain ⟨t, rest, ht, hrest, rfl⟩ := List.forall₂_cons_left_iff.mp hall
    obtain rfl := List.forall₂_nil_left_iff.mp hrest
    cases ht
    rfl
  · rintro rfl
    exact .intro (.cons rfl .nil)

theorem pathList_decides : Decides pathList Paths := by
  intro v paths hv
  have hlist : listOf text v = .good paths ↔ Lists Spells v paths := text_decides.listOf v paths hv
  cases v with
  | scalar x =>
    cases x with
    | text s =>
      -- A single text is checked as the list of itself.
      refine (text_decides.listOf (.list [.text s]) paths rfl).trans (lists_spells_single.trans ?_)
      constructor
      · rintro rfl
        exact .single s
      · rintro (_ | ⟨⟨⟩⟩)
        rfl
    | illFormed => cases hv
    | _ => exact hlist.trans ⟨.several, nofun⟩
  | _ => exact hlist.trans ⟨.several, fun | .several h => h⟩

theorem required_eq_good {check : Value → Checked α} {R : Value → α → Prop} (h : Decides check R)
    {key : String} {entries : List (Scalar × Value)} (hentries : Value.entriesPlain entries = true)
    {a : α} :
    required key check entries = .good a ↔ Needed R (Value.lookup? key entries) a := by
  rw [required, Checked.inside_eq_good, Needed]
  cases hv : Value.lookup? key entries with
  | none => simp [Checked.fail]
  | some v => simp [h v a (Value.isPlain_of_lookup hentries hv)]

theorem optionalText_eq_good {v : Value} (hv : v.isPlain = true) {o : Option String} :
    optionalText v = .good o ↔ Given SpellsSome none (some v) o := by
  cases hnull : v.isNull with
  | true =>
    obtain rfl := Value.isNull_iff.mp hnull
    simp [given_null_iff, optionalText, eq_comm]
  | false =>
    have htext : optionalText v = some <$> text v := by
      rw [optionalText]
      rintro rfl
      cases hnull
    simp only [htext, given_some_iff hnull, Checked.map_eq_good, text_decides v _ hv, SpellsSome,
      eq_comm]

theorem optional_optionalText_eq_good {key : String} {entries : List (Scalar × Value)}
    (hentries : Value.entriesPlain entries = true) {o : Option String} :
    optional key optionalText none entries = .good o ↔
      Given SpellsSome none (Value.lookup? key entries) o := by
  rw [optional]
  cases hv : Value.lookup? key entries with
  | none => simp [given_none_iff, eq_comm]
  | some v =>
    exact Checked.inside_eq_good.trans
      (optionalText_eq_good (Value.isPlain_of_lookup hentries hv))

end Config

theorem Descriptor.ofEntries_eq_good {entries : List (Scalar × Value)}
    (hentries : Value.entriesPlain entries = true) {d : Descriptor} :
    ofEntries entries = .good d ↔ d.StatedBy entries := by
  simp only [ofEntries, Checked.seq_eq_good, Checked.map_eq_good,
    required_eq_good text_decides hentries, required_eq_good text_decides.listOf hentries,
    optional_optionalText_eq_good hentries]
  constructor
  · rintro ⟨_, _, ⟨_, _, ⟨_, _, ⟨_, _, ⟨_, _, ⟨_, hname, rfl⟩, hcmd, rfl⟩, hexts, rfl⟩, hauto, rfl⟩,
      hoption, rfl⟩, habbrev, rfl⟩
    exact ⟨hname, hcmd, hexts, hauto, hoption, habbrev⟩
  · rintro ⟨hname, hcmd, hexts, hauto, hoption, habbrev⟩
    exact ⟨_, _, ⟨_, _, ⟨_, _, ⟨_, _, ⟨_, _, ⟨_, hname, rfl⟩, hcmd, rfl⟩, hexts, rfl⟩, hauto, rfl⟩,
      hoption, rfl⟩, habbrev, rfl⟩

theorem Descriptor.ofValue_decides : Decides ofValue (Maps StatedBy) := by
  intro v d hv
  cases v with
  | map entries => exact (ofEntries_eq_good hv).trans ⟨.intro, fun | .intro h => h⟩
  | _ => exact ⟨nofun, nofun⟩

end LintDispatch
