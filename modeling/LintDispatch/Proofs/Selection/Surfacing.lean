import LintDispatch.Config.Basic
import LintDispatch.Proofs.PathSpec.Respelling
import LintDispatch.Proofs.Selection.Scoping

/-! The files directly in a root, once listed on their own and once as a part of the expansion of the
single dot. Seen from a directory the two are the same names. Seen from the root of the file system
the listing has a slash too many, so there the two agree only where neither finds anything. -/

namespace LintDispatch

namespace Text

theorem count_joinWith {sep : Char} {pieces : List (List Char)} (hne : pieces ≠ [])
    (h : ∀ piece ∈ pieces, sep ∉ piece) :
    (joinWith sep pieces).count sep + 1 = pieces.length := by
  induction pieces with
  | nil => exact absurd rfl hne
  | cons piece pieces ih =>
    have hpiece : piece.count sep = 0 := List.count_eq_zero.mpr (h piece List.mem_cons_self)
    cases pieces with
    | nil => simp [joinWith, hpiece]
    | cons next pieces =>
      have hrest := ih (List.cons_ne_nil _ _) fun p hp => h p (List.mem_cons_of_mem _ hp)
      rw [joinWith, List.count_append, List.count_cons_self, hpiece, List.length_cons, ← hrest]
      · omega
      · exact List.cons_ne_nil _ _

end Text

namespace FileSet

/-- A file set is its members. -/
theorem eq_of_mem_iff {xs ys : FileSet} (hx : xs.Pairwise (· < ·)) (hy : ys.Pairwise (· < ·))
    (h : ∀ r, r ∈ xs ↔ r ∈ ys) : xs = ys := by
  have hnodup : ∀ zs : FileSet, zs.Pairwise (· < ·) → zs.Nodup := by
    intro zs hz
    refine hz.imp ?_
    rintro a _ hab rfl
    exact String.lt_irrefl a hab
  have hperm : xs.Perm ys := (List.perm_ext_iff_of_nodup (hnodup xs hx) (hnodup ys hy)).mpr h
  refine List.Perm.eq_of_pairwise (fun a b _ _ hab hba => ?_) hx hy hperm
  exact absurd (String.lt_trans hab hba) (String.lt_irrefl a)

theorem ofList_eq_self {xs : FileSet} (h : xs.Pairwise (· < ·)) : ofList xs = xs :=
  eq_of_mem_iff (ofList_increasing xs) h fun _ => mem_ofList

theorem increasing_map_slash {xs : FileSet} (h : xs.Pairwise (· < ·)) :
    (xs.map ("/" ++ ·)).Pairwise (· < ·) := by
  refine List.pairwise_map.mpr (h.imp fun {a b} hab => ?_)
  have hlist : a.toList < b.toList := hab
  have hcons : '/' :: a.toList < '/' :: b.toList := List.cons_lt_cons_iff.mpr (.inr ⟨rfl, hlist⟩)
  have ha : ("/" ++ a).toList = '/' :: a.toList := by simp
  have hb : ("/" ++ b).toList = '/' :: b.toList := by simp
  change ("/" ++ a).toList < ("/" ++ b).toList
  rwa [ha, hb]

end FileSet

namespace Path

theorem join_dot (root : Path) : root.join ".".toList = root := by
  refine ext_names rfl ?_
  rw [join_names rfl]
  have hdot : pushAll root.names.reverse ".".toList = root.names.reverse := pushAll_dot _
  rw [hdot, List.reverse_reverse]

/-- What is written behind a directory and a slash are the components below it. -/
theorem names_of_text {root p : Path} (hroot : root.names ≠ []) {s : List Char}
    (h : p.text = root.text ++ '/' :: s) :
    p.doubled = root.doubled ∧ p.names = root.names ++ components s := by
  have hd : p.doubled = root.doubled := by
    rw [← startsDoubled_text p, h, startsDoubled_text_append hroot]
  have hc : components p.text = root.gap ++ (root.names ++ components s) := by
    rw [h, components, Text.splitAt_append_sep, ← List.append_assoc]
    congr 1
    exact (components_text root).trans (by rw [if_neg hroot])
  have hgap : p.gap = root.gap := by simp [gap, hd]
  rw [components_text, hgap] at hc
  have hnames := List.append_cancel_left hc
  refine ⟨hd, ?_⟩
  split at hnames
  · -- A path without names has nothing written behind its slashes.
    have hlen := congrArg List.length hnames
    have hpos := List.length_pos_of_ne_nil hroot
    have hpos' := List.length_pos_of_ne_nil (Text.splitAt_ne_nil '/' s)
    simp only [List.length_singleton, List.length_append, components] at hlen
    omega
  · exact hnames

theorem text_along {root : Path} (hroot : root.names ≠ []) {name : FileName} (hn : IsPlain name) :
    (root.along [name]).text = root.text ++ '/' :: name := by
  have hnames : (root.along [name]).names = root.names ++ [name] := along_names (by simpa using hn)
  have hlead : (root.along [name]).lead = root.lead := rfl
  rw [text_eq, text_eq, hnames, hlead, Text.joinWith_append '/' hroot (List.cons_ne_nil _ _),
    List.append_assoc]
  rfl

theorem below_top {root : Path} (h : root.names = []) : root.below = ['/'] := by
  have ht : root.text = root.lead := by rw [text_eq, h, Text.joinWith, List.append_nil]
  rw [below, ht]
  cases hd : root.doubled <;> simp [lead, hd]

end Path

namespace PathSpec

variable {disk : Disk} {root : Path} {r : String} {files all : FileSet}

theorem rootFiles_increasing (h : rootFiles disk root = .ok files) : files.Pairwise (· < ·) := by
  simp only [rootFiles] at h
  split at h
  · cases h
  · cases h
    exact FileSet.ofList_increasing _

/-- The name `r` is that of something visible, in one piece. -/
def IsVisibleName (name : FileName) : Prop :=
  Path.IsPlain name ∧ Path.isHidden name = false

theorem namesRootEntry_iff (hroot : root.names ≠ []) :
    NamesRootEntry root r ↔ IsVisibleName r.toList := by
  have hbelow : ∀ name : FileName, root.text ++ '/' :: name = root.below ++ r.toList ↔
      name = r.toList := by
    intro name
    rw [Path.below_eq hroot, List.append_assoc, List.append_cancel_left_eq, List.singleton_append,
      List.cons.injEq]
    exact and_iff_right rfl
  constructor
  · rintro ⟨name, hp, hh, he⟩
    obtain rfl := (hbelow name).mp he
    exact ⟨hp, hh⟩
  · rintro ⟨hp, hh⟩
    exact ⟨r.toList, hp, hh, (hbelow _).mpr rfl⟩

theorem denotes_dot_iff (hroot : root.names ≠ []) (hr : '/' ∉ r.toList) :
    Denotes root "." r ↔ IsVisibleName r.toList := by
  have hlast : root.parent.names ++ [root.lastName] = root.names := by
    rw [Path.parent, Path.lastName, List.getLast?_eq_some_getLast hroot]
    exact List.dropLast_concat_getLast hroot
  have hbelow : root.below ++ r.toList = root.text ++ '/' :: r.toList := by
    simp [Path.below_eq hroot]
  rw [Denotes, Path.join_dot]
  constructor
  · rintro ⟨p, ht, hd, first, rest, hn, -, -, hh⟩
    have hnames := (Path.names_of_text hroot (ht.trans hbelow)).2
    rw [Path.components, Text.splitAt_of_not_mem hr] at hnames
    have hrest : root.lastName :: [r.toList] = first :: rest := by
      rw [hn, ← hlast, List.append_assoc] at hnames
      exact (List.append_cancel_left hnames).symm
    obtain ⟨-, rfl⟩ := List.cons.inj hrest
    exact ⟨p.plain _ (by simp [hn]), hh _ List.mem_cons_self⟩
  · rintro ⟨hp, hh⟩
    refine ⟨root.along [r.toList], ?_, rfl, root.lastName, [r.toList], ?_, List.prefix_refl _, id,
      by simpa using hh⟩
    · rw [Path.text_along hroot hp, hbelow]
    · rw [Path.along_names (by simpa using hp), ← hlast, List.append_assoc]
      rfl

/-- Seen from a directory, the files directly in it are the names of the expansion in one piece. -/
theorem mem_rootFiles_iff_mem_expand (hroot : root.names ≠ [])
    (hfiles : rootFiles disk root = .ok files) (hall : expand disk root "." = .ok all) :
    r ∈ files ↔ r ∈ all ∧ '/' ∉ r.toList := by
  rw [mem_rootFiles_iff hfiles, mem_expand_iff hall, IsRootFile, Matches, namesRootEntry_iff hroot]
  constructor
  · rintro ⟨hf, hv⟩
    have hr : '/' ∉ r.toList := hv.1.2.2.2
    exact ⟨⟨hf, (denotes_dot_iff hroot hr).mpr hv⟩, hr⟩
  · rintro ⟨⟨hf, hd⟩, hr⟩
    exact ⟨hf, (denotes_dot_iff hroot hr).mp hd⟩

/-! The root of the file system has no name, and every slash of a path seen from it counts. -/

theorem denotes_dot_top_iff (htop : root.names = []) : Denotes root "." r ↔
    ∃ names : List FileName, names ≠ [] ∧ (∀ name ∈ names, IsVisibleName name) ∧
      '/' :: r.toList = root.lead ++ Text.joinWith '/' names := by
  have hparent : root.parent.names = [] := by simp [Path.parent, htop]
  have hlast : root.lastName = [] := by simp [Path.lastName, htop]
  rw [Denotes, Path.join_dot, Path.below_top htop]
  constructor
  · rintro ⟨p, ht, hd, first, rest, hn, -, hf, hh⟩
    rw [hparent, List.nil_append] at hn
    have hlead : p.lead = root.lead := by simp [Path.lead, hd]
    have hfirst : Path.isHidden first = false := by
      rw [hlast] at hf
      exact Bool.eq_false_iff.mpr fun he => Bool.false_ne_true (hf he)
    refine ⟨p.names, by simp [hn], fun name hm => ⟨p.plain name hm, ?_⟩, ?_⟩
    · rw [hn] at hm
      rcases List.mem_cons.mp hm with rfl | hm
      · exact hfirst
      · exact hh name hm
    · rw [← hlead, ← Path.text_eq, ht, List.singleton_append]
  · rintro ⟨names, hne, hv, he⟩
    obtain ⟨first, rest, rfl⟩ := List.exists_cons_of_ne_nil hne
    have hnames : (root.along (first :: rest)).names = first :: rest := by
      rw [Path.along_names fun name hm => (hv name hm).1, htop, List.nil_append]
    have hhidden : ∀ name ∈ first :: rest, Path.isHidden name = false := fun name hm => (hv name hm).2
    refine ⟨root.along (first :: rest), ?_, rfl, first, rest, ?_, ?_, fun hf => ?_, ?_⟩
    · rw [Path.text_eq, hnames, List.singleton_append, he]
      rfl
    · rw [hnames, hparent, List.nil_append]
    · rw [hlast]
      exact List.nil_prefix
    · rw [hhidden first List.mem_cons_self] at hf
      cases hf
    · exact fun name hm => hhidden name (List.mem_cons_of_mem _ hm)

theorem namesRootEntry_top_iff (htop : root.names = []) :
    NamesRootEntry root r ↔ ∃ name, IsVisibleName name ∧ r.toList = root.lead ++ name := by
  have htext : ∀ name : FileName, root.text ++ '/' :: name = root.below ++ (root.lead ++ name) := by
    intro name
    rw [Path.below_top htop, Path.text_eq, htop]
    cases hd : root.doubled <;> simp [Path.lead, hd, Text.joinWith]
  constructor
  · rintro ⟨name, hp, hh, he⟩
    exact ⟨name, ⟨hp, hh⟩, (List.append_cancel_left ((htext name).symm.trans he)).symm⟩
  · rintro ⟨name, ⟨hp, hh⟩, he⟩
    exact ⟨name, hp, hh, by rw [htext, he]⟩

/-- How many slashes the names of the expansion begin with. -/
def extraSlashes (root : Path) : Nat :=
  if root.doubled then 1 else 0

theorem count_lead (root : Path) : root.lead.count '/' = extraSlashes root + 1 := by
  cases hd : root.doubled <;> simp [Path.lead, extraSlashes, hd]

theorem count_visible {names : List FileName} (hne : names ≠ [])
    (hv : ∀ name ∈ names, IsVisibleName name)
    (he : '/' :: r.toList = root.lead ++ Text.joinWith '/' names) :
    r.toList.count '/' + 1 = extraSlashes root + names.length := by
  have hjoin := Text.count_joinWith hne fun name hm => (hv name hm).1.2.2.2
  have hcount := congrArg (List.count '/') he
  rw [List.count_cons_self, List.count_append, count_lead] at hcount
  omega

/-- What is listed is what the expansion has in one piece, with one more slash in front. -/
theorem namesRootEntry_slash_iff (htop : root.names = []) :
    NamesRootEntry root ("/" ++ r) ↔
      Denotes root "." r ∧ r.toList.count '/' = extraSlashes root := by
  have htoList : ("/" ++ r).toList = '/' :: r.toList := by simp
  rw [namesRootEntry_top_iff htop, denotes_dot_top_iff htop, htoList]
  constructor
  · rintro ⟨name, hv, he⟩
    have hvs : ∀ n ∈ [name], IsVisibleName n := by simpa using hv
    have hcount := count_visible (List.cons_ne_nil name []) hvs he
    exact ⟨⟨[name], List.cons_ne_nil _ _, hvs, he⟩, by simpa using hcount⟩
  · rintro ⟨⟨names, hne, hv, he⟩, hdirect⟩
    have hcount := count_visible hne hv he
    obtain ⟨name, rfl⟩ : ∃ name, names = [name] := List.length_eq_one_iff.mp (by omega)
    exact ⟨name, hv name List.mem_cons_self, he⟩

theorem exists_slash (htop : root.names = []) (h : NamesRootEntry root r) : ∃ s, r = "/" ++ s := by
  obtain ⟨name, -, he⟩ := (namesRootEntry_top_iff htop).mp h
  have hlead : root.lead = '/' :: root.lead.tail := by
    cases hd : root.doubled <;> simp [Path.lead, hd]
  refine ⟨String.ofList (root.lead.tail ++ name), String.toList_inj.mp ?_⟩
  rw [he, hlead]
  simp

theorem place_slash (root : Path) (htop : root.names = []) (r : String) :
    root.place ("/" ++ r) = root.place r := by
  have hcomponents : Path.components ('/' :: '/' :: r.toList) =
      [] :: Path.components ('/' :: r.toList) := rfl
  have htoList : ("/" ++ r).toList = '/' :: r.toList := by simp
  simp only [Path.place, Path.below_top htop, htoList, List.singleton_append, Path.ofAbsolute]
  rw [hcomponents, Path.normalize_empty_cons]

theorem mem_rootFiles_top_iff (htop : root.names = []) (hfiles : rootFiles disk root = .ok files)
    (hall : expand disk root "." = .ok all) :
    r ∈ files ↔ ∃ s ∈ all, s.toList.count '/' = extraSlashes root ∧ "/" ++ s = r := by
  rw [mem_rootFiles_iff hfiles, IsRootFile]
  constructor
  · rintro ⟨hf, hn⟩
    obtain ⟨s, rfl⟩ := exists_slash htop hn
    obtain ⟨hd, hs⟩ := (namesRootEntry_slash_iff htop).mp hn
    rw [place_slash root htop] at hf
    exact ⟨s, (mem_expand_iff hall).mpr ⟨hf, hd⟩, hs, rfl⟩
  · rintro ⟨s, hm, hs, rfl⟩
    obtain ⟨hf, hd⟩ := (mem_expand_iff hall).mp hm
    rw [place_slash root htop]
    exact ⟨hf, (namesRootEntry_slash_iff htop).mpr ⟨hd, hs⟩⟩

/-- What is listed at the root of the file system is not among what is expanded there. -/
theorem not_mem_expand_of_mem_rootFiles (htop : root.names = [])
    (hfiles : rootFiles disk root = .ok files) (hall : expand disk root "." = .ok all)
    (h : r ∈ files) : r ∉ all := by
  intro hm
  obtain ⟨name, -, he⟩ := (namesRootEntry_top_iff htop).mp ((mem_rootFiles_iff hfiles).mp h).2
  obtain ⟨names, hne, hv, he'⟩ :=
    (denotes_dot_top_iff htop).mp ((mem_expand_iff hall).mp hm).2
  have hlead : '/' :: root.lead = root.lead ++ ['/'] := by
    cases hd : root.doubled <;> simp [Path.lead, hd]
  have hjoin : '/' :: name = Text.joinWith '/' names := by
    rw [he, ← List.cons_append, hlead, List.append_assoc] at he'
    exact List.append_cancel_left he'
  obtain ⟨first, rest, rfl⟩ := List.exists_cons_of_ne_nil hne
  have hplain := (hv first List.mem_cons_self).1
  obtain ⟨c, tail, rfl⟩ := List.exists_cons_of_ne_nil hplain.1
  have hhead : some '/' = some c := by
    rw [← Text.head?_joinWith '/' c tail rest, ← hjoin, List.head?_cons]
  exact hplain.2.2.2 (Option.some.inj hhead ▸ List.mem_cons_self)

theorem expand_isOk (disk : Disk) (hroot : root.NullFree) {spec : String}
    (hspec : '\x00' ∉ spec.toList) : ∃ files, expand disk root spec = .ok files := by
  have hspecs : NullFree [spec] := by simpa [NullFree] using hspec
  obtain ⟨_, h⟩ := expandAll_isOk disk hroot hspecs
  exact (expand_isOk_iff disk).mpr (expandAll_isOk_iff.mp ⟨_, h⟩ spec List.mem_cons_self)

theorem expandAll_default (h : expand disk root "." = .ok all) :
    expandAll disk root Config.defaultSourcePaths = .ok all := by
  have hagrees : Path.Agrees ['.'] ['.', '/'] :=
    (Path.Respells.slash ['.']).agrees (List.cons_ne_nil _ _) rfl
  have hslash : expand disk root "./" = .ok all := by
    rw [← h]
    exact expand_congr disk (hagrees.join_eq rfl root)
  have hself : FileSet.ofList all = all := FileSet.ofList_eq_self (expand_increasing h)
  simp [expandAll, Config.defaultSourcePaths, hslash, hself, pure, Except.pure, bind, Except.bind]

end PathSpec

namespace Filters

variable {disk : Disk} {root : Path} {files all : FileSet}

theorem whitelist_default (ignored : List String)
    (hfiles : PathSpec.rootFiles disk root = .ok files)
    (hall : PathSpec.expand disk root "." = .ok all) :
    ((fresh root Config.defaultSourcePaths ignored).whitelist disk).2 = .ok (files.union all) := by
  have hsources := PathSpec.expandAll_default hall
  simp [whitelist, fresh, computeWhitelist, hfiles, hsources]

theorem union_eq_right_iff (hall : all.Pairwise (· < ·)) : files.union all = all ↔ files ⊆ all := by
  constructor
  · intro h r hr
    rw [← h, FileSet.union, FileSet.mem_ofList]
    exact List.mem_append_left _ hr
  · intro h
    refine FileSet.eq_of_mem_iff (FileSet.ofList_increasing _) hall fun r => ?_
    rw [FileSet.union, FileSet.mem_ofList, List.mem_append]
    exact or_iff_right_of_imp fun hr => h hr

/-- The files directly in a root are listed in order. Seen from a directory they are those names of
the expansion of the dot that hold no slash, and with the default source paths the whitelist is that
expansion. At the root of the file system each of them is listed with one slash more than it is
expanded with, so there the whitelist is the expansion only if nothing is listed. -/
theorem rootFiles_agree (disk : Disk) {root : Path} (hroot : root.NullFree)
    (ignored : List String) :
    ∃ files all allowed, PathSpec.rootFiles disk root = .ok files ∧
      PathSpec.expand disk root "." = .ok all ∧
      ((fresh root Config.defaultSourcePaths ignored).whitelist disk).2 = .ok allowed ∧
      files.Pairwise (· < ·) ∧
      (root.names ≠ [] → files = all.filter (fun r => '/' ∉ r.toList) ∧ allowed = all) ∧
      (root.names = [] →
        files = (all.filter fun r => r.toList.count '/' = if root.doubled then 1 else 0).map
          ("/" ++ ·) ∧ (allowed = all ↔ files = [])) := by
  obtain ⟨files, hfiles⟩ := PathSpec.rootFiles_isOk disk hroot
  have hdot : '\x00' ∉ ".".toList := by decide
  obtain ⟨all, hall⟩ := PathSpec.expand_isOk disk hroot hdot
  have hinc := PathSpec.rootFiles_increasing hfiles
  have hinc' := PathSpec.expand_increasing hall
  refine ⟨files, all, files.union all, hfiles, hall, whitelist_default ignored hfiles hall, hinc,
    fun hne => ⟨?_, ?_⟩, fun htop => ⟨?_, ?_⟩⟩
  · refine FileSet.eq_of_mem_iff hinc (hinc'.filter _) fun r => ?_
    rw [PathSpec.mem_rootFiles_iff_mem_expand hne hfiles hall]
    simp
  · rw [union_eq_right_iff hinc']
    exact fun r hr => ((PathSpec.mem_rootFiles_iff_mem_expand hne hfiles hall).mp hr).1
  · refine FileSet.eq_of_mem_iff hinc (FileSet.increasing_map_slash (hinc'.filter _)) fun r => ?_
    rw [PathSpec.mem_rootFiles_top_iff htop hfiles hall]
    simp [PathSpec.extraSlashes, and_assoc]
  · rw [union_eq_right_iff hinc', List.eq_nil_iff_forall_not_mem]
    constructor
    · intro hsub r hr
      exact PathSpec.not_mem_expand_of_mem_rootFiles htop hfiles hall hr (hsub hr)
    · intro hnone r hr
      exact absurd hr (hnone r)

def holding (files : List String) : Disk :=
  files.foldl (fun disk f => disk.write (Path.ofAbsolute f.toList).names (.file [])) .empty

/-- A directory with brackets in its name, beside one whose name goes on. -/
theorem rootFiles_agree_bracketed :
    let root := Path.ofAbsolute "/p[x]".toList
    let disk := holding ["/p[x]/a.rb", "/p[x]/.env", "/p[x]/d/b.rb", "/p[x]y/c.rb"]
    root.NullFree ∧ PathSpec.rootFiles disk root = .ok ["a.rb"] ∧
      PathSpec.expand disk root "." = .ok ["a.rb", "d/b.rb"] ∧
      ((fresh root Config.defaultSourcePaths []).whitelist disk).2 = .ok ["a.rb", "d/b.rb"] := by
  intro root disk
  have hroot : root.NullFree := by
    unfold Path.NullFree
    decide
  have hexpand : PathSpec.expand disk root "." = .ok ["a.rb", "d/b.rb"] := by decide +kernel
  obtain ⟨files, all, allowed, hfiles, hall, hallowed, -, hdirectory, -⟩ :=
    rootFiles_agree disk hroot []
  obtain rfl : all = ["a.rb", "d/b.rb"] := Except.ok.inj (hall.symm.trans hexpand)
  obtain ⟨rfl, rfl⟩ := hdirectory (by decide)
  exact ⟨hroot, hfiles, hexpand, hallowed⟩

/-- At the root of the file system a file is listed with a slash in front and expanded without one, so
a whitelist of root files alone does not let it through. -/
theorem rootFiles_slashed :
    let root := Path.top false
    let disk := holding ["/a.rb"]
    root.NullFree ∧ PathSpec.rootFiles disk root = .ok ["/a.rb"] ∧
      PathSpec.expand disk root "." = .ok ["a.rb"] ∧
      ["/a.rb"] ≠ ["a.rb"].filter (fun r => '/' ∉ r.toList) ∧
      ((fresh root [] []).whitelist disk).2 = .ok ["/a.rb"] ∧
      ((fresh root Config.defaultSourcePaths []).whitelist disk).2 = .ok ["/a.rb", "a.rb"] := by
  refine ⟨?_, ?_, ?_, ?_, ?_, ?_⟩
  · unfold Path.NullFree
    decide
  all_goals decide +kernel

end Filters

end LintDispatch
