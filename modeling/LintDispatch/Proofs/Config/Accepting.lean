import LintDispatch.Proofs.Config.Grammar
import LintDispatch.Proofs.Config.Loading

/-! Which configuration files are accepted, and what configuration and which linters they give. The
file counts by three of its keys, a descriptor by six; what lies under others makes no
difference. -/

namespace LintDispatch

namespace Config

variable {α β : Type}

theorem lookup?_filterMap (values : String → Option Value) (keys : List String) (key : String) :
    Value.lookup? key (keys.filterMap fun k => (values k).map fun v => (Scalar.text k, v)) =
      if key ∈ keys then values key else none := by
  induction keys with
  | nil => rfl
  | cons k keys ih =>
    cases hv : values k with
    | none =>
      -- The key may come again in the rest, but then it is without a value there too.
      rw [List.filterMap_cons_none (by simp [hv]), ih]
      by_cases hk : key = k
      · simp [hk, hv]
      · simp [hk]
    | some v =>
      rw [List.filterMap_cons_some (b := (Scalar.text k, v)) (by simp [hv])]
      by_cases hk : key = k
      · simp [Value.lookup?, Scalar.sameKey, Scalar.whole?, hk, hv]
      · have hne : k ≠ key := Ne.symm hk
        simpa [Value.lookup?, Scalar.sameKey, Scalar.whole?, hk, hne] using ih

theorem knownEntries_eq (entries : List (Scalar × Value)) :
    knownEntries entries = knownKeys.filterMap fun key =>
      ((Value.lookup? key entries).filter fun v => !v.isNull).map fun v =>
        (Scalar.text key, v) := by
  rw [knownEntries]
  congr 1
  funext key
  cases Value.lookup? key entries with
  | none => rfl
  | some v => cases hv : v.isNull <;> simp [hv, Option.filter]

/-- A key that counts is read as in the whole file, but for a null. -/
theorem lookup?_knownEntries_of_mem {key : String} (h : key ∈ knownKeys)
    (entries : List (Scalar × Value)) :
    Value.lookup? key (knownEntries entries) =
      (Value.lookup? key entries).filter fun v => !v.isNull := by
  rw [knownEntries_eq, lookup?_filterMap, if_pos h]

theorem optional_knownEntries_eq_good {check : Value → Checked α} {R : Value → α → Prop}
    (h : Decides check R) {key : String} (hkey : key ∈ knownKeys)
    {entries : List (Scalar × Value)} (hentries : Value.entriesPlain entries = true)
    {default a : α} :
    optional key check default (knownEntries entries) = .good a ↔
      Given R default (Value.lookup? key entries) a := by
  rw [optional, lookup?_knownEntries_of_mem hkey]
  cases hv : Value.lookup? key entries with
  | none => simp [given_none_iff, eq_comm]
  | some v =>
    cases hnull : v.isNull with
    | true =>
      -- A null is dropped when the file is read, so the check never sees it.
      rw [Option.filter_some_neg (by simp [hnull])]
      obtain rfl := Value.isNull_iff.mp hnull
      simp [given_null_iff, eq_comm]
    | false =>
      rw [Option.filter_some_pos (by simp [hnull]), given_some_iff hnull]
      exact Checked.inside_eq_good.trans (h v a (Value.isPlain_of_lookup hentries hv))

theorem ofEntries_knownEntries_eq_good {entries : List (Scalar × Value)}
    (hentries : Value.entriesPlain entries = true) {c : Config} :
    ofEntries (knownEntries entries) = .good c ↔ c.StatedBy entries := by
  have hsettings : ∀ s, optional "settings" Settings.ofValue .default (knownEntries entries) =
      .good s ↔ s = .default := by
    intro s
    rw [optional, lookup?_knownEntries (by decide)]
    simp [eq_comm]
  simp only [ofEntries, Checked.seq_eq_good, Checked.map_eq_good, hsettings,
    optional_knownEntries_eq_good pathList_decides (by decide : "source_file_paths" ∈ knownKeys)
      hentries,
    optional_knownEntries_eq_good pathList_decides (by decide : "ignored_file_paths" ∈ knownKeys)
      hentries,
    optional_knownEntries_eq_good Descriptor.ofValue_decides.listOf
      (by decide : "linters" ∈ knownKeys) hentries]
  constructor
  · rintro ⟨_, _, ⟨_, _, ⟨_, _, ⟨_, hsource, rfl⟩, hignored, rfl⟩, hlinters, rfl⟩, rfl, rfl⟩
    exact ⟨hsource, hignored, hlinters, rfl⟩
  · rintro ⟨hsource, hignored, hlinters, hdefault⟩
    exact ⟨_, _, ⟨_, _, ⟨_, _, ⟨_, hsource, rfl⟩, hignored, rfl⟩, hlinters, rfl⟩, hdefault, rfl⟩

theorem Given.map {R : Value → α → Prop} {S : Value → β → Prop} {default a : α}
    {field : Option Value} (f : α → β) (hf : ∀ v a, R v a → S v (f a))
    (h : Given R default field a) : Given S (f default) field (f a) := by
  cases h with
  | absent => exact .absent
  | null => exact .null
  | present hv h => exact .present hv (hf _ _ h)

theorem Lists.map {R : Value → α → Prop} {S : Value → β → Prop} {f : α → β}
    (hf : ∀ v a, R v a → S v (f a)) {v : Value} {xs : List α} (h : Lists R v xs) :
    Lists S v (xs.map f) := by
  obtain ⟨hall⟩ := h
  exact .intro (List.forall₂_map_right_iff.mpr (hall.imp hf))

theorem Given.getD {default : String} {field : Option Value} {o : Option String}
    (h : Given SpellsSome none field o) : Given Spells default field (o.getD default) :=
  h.map (fun o => o.getD default) fun _ _ ⟨_, hs, ho⟩ => by rwa [ho]

end Config

theorem Descriptor.StatedBy.toLinter {entries : List (Scalar × Value)} {d : Descriptor}
    (h : d.StatedBy entries) : d.toLinter.StatedBy entries where
  name := h.name
  template := h.command
  extensions := h.extensions
  autocorrectTemplate := h.autocorrectCommand
  optionName := h.optionName.getD
  abbreviation := h.abbreviation.getD
  toggle := rfl
  enabled := rfl

theorem Config.StatedBy.buildLinters {entries : List (Scalar × Value)} {c : Config}
    (h : c.StatedBy entries) :
    Given (Lists (Maps Linter.StatedBy)) [] (Value.lookup? "linters" entries) c.buildLinters :=
  h.linters.map (List.map Descriptor.toLinter) fun _ _ hlist =>
    hlist.map fun _ _ ⟨hd⟩ => .intro hd.toLinter

def SameUnder (keys : List String) (entries entries' : List (Scalar × Value)) : Prop :=
  ∀ key ∈ keys, Value.lookup? key entries = Value.lookup? key entries'

theorem SameUnder.symm {keys : List String} {entries entries' : List (Scalar × Value)}
    (h : SameUnder keys entries entries') : SameUnder keys entries' entries :=
  fun key hkey => (h key hkey).symm

namespace Descriptor

open Config (Maps)

def keys : List String :=
  ["name", "cmd", "extensions", "autocorrect_cmd", "cli_option_name", "cli_abbrev"]

/-- The same value, or two mappings that are the same under the keys of a descriptor. -/
inductive Same : Value → Value → Prop where
  | refl (v : Value) : Same v v
  | maps {entries entries' : List (Scalar × Value)} (h : SameUnder keys entries entries') :
      Same (.map entries) (.map entries')

theorem Same.symm {v v' : Value} (h : Same v v') : Same v' v := by
  cases h with
  | refl => exact .refl v
  | maps h => exact .maps h.symm

theorem StatedBy.of_same {entries entries' : List (Scalar × Value)}
    (h : SameUnder keys entries entries') {d : Descriptor} (hd : d.StatedBy entries) :
    d.StatedBy entries' where
  name := h "name" (by decide) ▸ hd.name
  command := h "cmd" (by decide) ▸ hd.command
  extensions := h "extensions" (by decide) ▸ hd.extensions
  autocorrectCommand := h "autocorrect_cmd" (by decide) ▸ hd.autocorrectCommand
  optionName := h "cli_option_name" (by decide) ▸ hd.optionName
  abbreviation := h "cli_abbrev" (by decide) ▸ hd.abbreviation

theorem maps_of_same {v v' : Value} (h : Same v v') {d : Descriptor} (hd : Maps StatedBy v d) :
    Maps StatedBy v' d := by
  cases h with
  | refl => exact hd
  | maps h =>
    obtain ⟨hd⟩ := hd
    exact .intro (hd.of_same h)

end Descriptor

namespace Config

inductive SameLinters : Option Value → Option Value → Prop where
  | refl (field : Option Value) : SameLinters field field
  | lists {items items' : List Value} (h : List.Forall₂ Descriptor.Same items items') :
      SameLinters (some (.list items)) (some (.list items'))

/-- Two files that may differ in other keys than those that count, here or in a descriptor. -/
structure Same (entries entries' : List (Scalar × Value)) : Prop where
  paths : SameUnder ["source_file_paths", "ignored_file_paths"] entries entries'
  linters : SameLinters (Value.lookup? "linters" entries) (Value.lookup? "linters" entries')

theorem lists_of_same {items items' : List Value} (h : List.Forall₂ Descriptor.Same items items')
    {ds : List Descriptor} :
    Lists (Maps Descriptor.StatedBy) (.list items) ds ↔
      Lists (Maps Descriptor.StatedBy) (.list items') ds := by
  have hall : List.Forall₂ (Maps Descriptor.StatedBy) items ds ↔
      List.Forall₂ (Maps Descriptor.StatedBy) items' ds :=
    forall₂_congr (h.imp fun _ _ hs _ =>
      ⟨Descriptor.maps_of_same hs, Descriptor.maps_of_same hs.symm⟩)
  exact ⟨fun ⟨h⟩ => .intro (hall.mp h), fun ⟨h⟩ => .intro (hall.mpr h)⟩

theorem given_of_same {field field' : Option Value} (h : SameLinters field field')
    {ds : List Descriptor} :
    Given (Lists (Maps Descriptor.StatedBy)) [] field ds ↔
      Given (Lists (Maps Descriptor.StatedBy)) [] field' ds := by
  cases h with
  | refl => rfl
  | lists h => rw [given_some_iff rfl, given_some_iff rfl, lists_of_same h]

theorem statedBy_congr {entries entries' : List (Scalar × Value)} (h : Same entries entries')
    {c : Config} : c.StatedBy entries ↔ c.StatedBy entries' := by
  have hsource := h.paths "source_file_paths" (by decide)
  have hignored := h.paths "ignored_file_paths" (by decide)
  constructor
  · rintro ⟨hs, hi, hl, hd⟩
    exact ⟨hsource ▸ hs, hignored ▸ hi, (given_of_same h.linters).mp hl, hd⟩
  · rintro ⟨hs, hi, hl, hd⟩
    exact ⟨hsource ▸ hs, hignored ▸ hi, (given_of_same h.linters).mpr hl, hd⟩

variable {disk : Disk} {f : File} {bytes : List UInt8} {entries : List (Scalar × Value)}

theorem read_of_holds (hf : f.Holds disk bytes) (hdoc : Yaml.load bytes = .ok (.map entries)) :
    readWithin .usual disk f = .ok (knownEntries entries) := by
  obtain ⟨⟨links, place, entry⟩, ha, rfl⟩ := hf
  rw [Yaml.load] at hdoc
  simp only [readWithin, ha, hdoc]

theorem load_eq_ok (hf : f.Holds disk bytes) (hdoc : Yaml.load bytes = .ok (.map entries))
    (hplain : (Value.map entries).isPlain = true) {c : Config} :
    load disk f = .ok c ↔ c.StatedBy entries := by
  rw [load, loadWithin, read_of_holds hf hdoc, ← ofEntries_knownEntries_eq_good hplain]
  cases hc : ofEntries (knownEntries entries) <;> simp [hc]

theorem invalid_of_load (hf : f.Holds disk bytes) (hdoc : Yaml.load bytes = .ok (.map entries))
    {e : LoadError} (h : load disk f = .error e) : ∃ issues, e = .invalid f issues := by
  rw [load, loadWithin, read_of_holds hf hdoc] at h
  cases hc : ofEntries (knownEntries entries) with
  | good c => simp [hc] at h
  | faulty issues =>
    simp only [hc, Except.error.injEq] at h
    exact ⟨issues, h.symm⟩

/-- A file is accepted just where its entries make up a configuration, and then stands for that
configuration and its linters; otherwise there is a configuration error. Other keys than those that
count make no difference. -/
theorem load_decides (hf : f.Holds disk bytes) (hdoc : Yaml.load bytes = .ok (.map entries))
    (hplain : (Value.map entries).isPlain = true) :
    (∀ c, load disk f = .ok c ↔ c.StatedBy entries) ∧
    (∀ c, load disk f = .ok c →
      Given (Lists (Maps Linter.StatedBy)) [] (Value.lookup? "linters" entries) c.buildLinters) ∧
    (∀ e, load disk f = .error e → e.report.kind = "ConfigError") ∧
    ∀ disk' f' bytes' entries', File.Holds disk' f' bytes' →
      Yaml.load bytes' = .ok (.map entries') → (Value.map entries').isPlain = true →
      Same entries entries' → ∀ c, load disk' f' = .ok c ↔ load disk f = .ok c := by
  refine ⟨fun c => load_eq_ok hf hdoc hplain, fun c hc => ?_, fun e he => ?_, ?_⟩
  · exact ((load_eq_ok hf hdoc hplain).mp hc).buildLinters
  · obtain ⟨issues, rfl⟩ := invalid_of_load hf hdoc he
    rfl
  · intro disk' f' bytes' entries' hf' hdoc' hplain' hsame c
    rw [load_eq_ok hf' hdoc' hplain', load_eq_ok hf hdoc hplain, statedBy_congr hsame]

theorem load_decides_nulls :
    let f := File.ofHere (Path.ofAbsolute "/p".toList)
    let bytes := Text.encodeUtf8
      "ignored_file_paths: ~\nlinters:\n- name: B\n  cmd: b\n  extensions: [.b]\n  x: 1\n".toList
    let c : Config := ⟨["./"], [], [⟨"B", "b", [".b"], none, none, none⟩], .default⟩
    ∃ entries, f.Holds (projectHolding bytes) bytes ∧ Yaml.load bytes = .ok (.map entries) ∧
      (Value.map entries).isPlain = true ∧ load (projectHolding bytes) f = .ok c ∧
      c.StatedBy entries := by
  intro f bytes c
  have hentry : ((projectHolding bytes).arriveAt f.here f.name.toList).toOption.any (fun a =>
      decide (a.entry = .file bytes)) = true := by
    decide +kernel
  have hvalue : (Yaml.load bytes).toOption.any (fun v =>
      decide (v.isPlain = true ∧ (record recordName .good v).issues = [])) = true := by
    decide +kernel
  have hload : (load (projectHolding bytes) f).toOption.any (fun d => decide (d = c)) = true := by
    decide +kernel
  obtain ⟨a, ha, hbytes⟩ := Outcome.exists_of_any hentry
  have hf : f.Holds (projectHolding bytes) bytes := ⟨a, ha, of_decide_eq_true hbytes⟩
  obtain ⟨v, hv, hshape⟩ := Outcome.exists_of_any hvalue
  obtain ⟨hplain, hmap⟩ := of_decide_eq_true hshape
  obtain ⟨d, hd, hc⟩ := Outcome.exists_of_any hload
  obtain rfl := of_decide_eq_true hc
  cases v with
  | map entries => exact ⟨entries, hf, hv, hplain, hd, ((load_decides hf hv hplain).1 _).mp hd⟩
  | _ => cases hmap

end Config

end LintDispatch
