import LintDispatch.Proofs.PathSpec.Meaning
import Mathlib.Logic.Relation

/-! How a path spec may be spelled. A spec is read through the stack of its components, and what may
be written into it without a change of meaning leaves that stack as it was: nothing, a single dot, or
a name and the double dot that takes it away. -/

namespace LintDispatch

namespace Path

/-- One step from a spec to another spelling of it. A detour through `name` is taken in front of a
component or at the end, whatever `name` is on disk. -/
inductive Respells : List Char → List Char → Prop
  | here (s : List Char) : Respells s ('.' :: '/' :: s)
  | slash (s : List Char) : Respells s (s ++ ['/'])
  | slashDot (s : List Char) : Respells s (s ++ ['/', '.'])
  | doubled (s t : List Char) : Respells (s ++ '/' :: t) (s ++ '/' :: '/' :: t)
  | detour (s t : List Char) {name : FileName} (hs : s = [] ∨ s.getLast? = some '/')
      (hn : IsPlain name) : Respells (s ++ t) (s ++ (name ++ '/' :: '.' :: '.' :: '/' :: t))
  | detourBehind (s : List Char) {name : FileName} (hn : IsPlain name) :
      Respells s (s ++ '/' :: (name ++ ['/', '.', '.']))

/-- The stack of components behind what is written as `s`. -/
def pushAll (stack : List FileName) (s : List Char) : List FileName :=
  (components s).foldl push stack

theorem pushAll_append (stack : List FileName) (s t : List Char) :
    pushAll stack (s ++ '/' :: t) = pushAll (pushAll stack s) t := by
  rw [pushAll, components, Text.splitAt_append_sep, List.foldl_append]
  rfl

theorem pushAll_part (stack : List FileName) {part : FileName} (h : '/' ∉ part) :
    pushAll stack part = push stack part := by
  rw [pushAll, components, Text.splitAt_of_not_mem h, List.foldl_cons, List.foldl_nil]

theorem pushAll_empty (stack : List FileName) : pushAll stack [] = stack :=
  (pushAll_part stack (by simp)).trans (push_empty stack)

theorem pushAll_dot (stack : List FileName) : pushAll stack ['.'] = stack :=
  (pushAll_part stack (by decide)).trans (push_dot stack)

/-- A name and the double dot behind it leave the stack as it was. -/
theorem pushAll_detour (stack : List FileName) {name : FileName} (h : IsPlain name) :
    pushAll stack (name ++ ['/', '.', '.']) = stack := by
  rw [pushAll_append, pushAll_part _ h.2.2.2, pushAll_part _ (by decide),
    push_name stack h.1 h.2.1 h.2.2.1]
  exact push_dotDot (name :: stack)

theorem isAbsolute_append {s : List Char} (hs : s ≠ []) (t : List Char) :
    isAbsolute (s ++ t) = isAbsolute s := by
  obtain ⟨c, s, rfl⟩ := List.exists_cons_of_ne_nil hs
  rfl

theorem isAbsolute_plain {name : FileName} (h : IsPlain name) : isAbsolute name = false := by
  obtain ⟨c, s, rfl⟩ := List.exists_cons_of_ne_nil h.1
  have hc : c ≠ '/' := fun hc => h.2.2.2 (by simp [hc])
  simpa [isAbsolute] using hc

/-- A spelling `t` of the spec `s` is as relative as `s`, and does the same to every stack. -/
structure Agrees (s t : List Char) : Prop where
  ne_nil : t ≠ []
  relative : isAbsolute t = false
  pushAll_eq : ∀ stack, pushAll stack t = pushAll stack s

theorem Agrees.refl {s : List Char} (hne : s ≠ []) (hrel : isAbsolute s = false) : Agrees s s :=
  ⟨hne, hrel, fun _ => rfl⟩

theorem Agrees.trans {s t u : List Char} (h : Agrees s t) (h' : Agrees t u) : Agrees s u :=
  ⟨h'.ne_nil, h'.relative, fun stack => (h'.pushAll_eq stack).trans (h.pushAll_eq stack)⟩

theorem Respells.agrees {s t : List Char} (h : Respells s t) (hne : s ≠ [])
    (hrel : isAbsolute s = false) : Agrees s t := by
  cases h with
  | here =>
    refine ⟨by simp, rfl, fun stack => ?_⟩
    exact (pushAll_append stack ['.'] s).trans (by rw [pushAll_dot])
  | slash =>
    exact ⟨by simp, by rwa [isAbsolute_append hne], fun stack => by rw [pushAll_append, pushAll_empty]⟩
  | slashDot =>
    exact ⟨by simp, by rwa [isAbsolute_append hne], fun stack => by rw [pushAll_append, pushAll_dot]⟩
  | doubled s t =>
    have hs : s ≠ [] := by
      rintro rfl
      cases hrel
    refine ⟨by simp, by rwa [isAbsolute_append hs] at hrel ⊢, fun stack => ?_⟩
    have hslash := pushAll_append (pushAll stack s) [] t
    rw [List.nil_append, pushAll_empty] at hslash
    rw [pushAll_append, pushAll_append, hslash]
  | @detour s t name hs hn =>
    have hdetour : ∀ stack, pushAll stack (name ++ '/' :: '.' :: '.' :: '/' :: t) = pushAll stack t := by
      intro stack
      have happend := pushAll_append stack (name ++ ['/', '.', '.']) t
      rwa [pushAll_detour stack hn, List.append_assoc] at happend
    rcases hs with rfl | hs
    · refine ⟨by simp, ?_, hdetour⟩
      rw [List.nil_append, isAbsolute_append hn.1, isAbsolute_plain hn]
    · have hs' : s ≠ [] := by
        rintro rfl
        cases hs
      refine ⟨by simp [hs'], by rwa [isAbsolute_append hs'] at hrel ⊢, fun stack => ?_⟩
      obtain ⟨s, rfl⟩ := List.getLast?_eq_some_iff.mp hs
      simp only [List.append_assoc, List.singleton_append]
      rw [pushAll_append, hdetour, pushAll_append]
  | detourBehind _ hn =>
    refine ⟨by simp, by rwa [isAbsolute_append hne], fun stack => ?_⟩
    rw [pushAll_append, pushAll_detour _ hn]

/-- Whatever is written into a spec, step after step, it stays the same spec. -/
theorem agrees_of_respelled {s t : List Char} (hne : s ≠ []) (hrel : isAbsolute s = false)
    (h : Relation.ReflTransGen Respells s t) : Agrees s t := by
  induction h with
  | refl => exact .refl hne hrel
  | tail _ hstep ih => exact ih.trans (hstep.agrees ih.ne_nil ih.relative)

theorem join_names {root : Path} {s : List Char} (h : isAbsolute s = false) :
    (root.join s).names = (pushAll root.names.reverse s).reverse := by
  rw [join, if_neg (by simp [h])]
  simp only [normalize, List.foldl_append, foldl_push_of_plain root.plain, List.append_nil]
  rfl

theorem join_doubled {root : Path} {s : List Char} (h : isAbsolute s = false) :
    (root.join s).doubled = root.doubled := by
  simp [join, h]

theorem ext_names {p q : Path} (hd : p.doubled = q.doubled) (hn : p.names = q.names) : p = q := by
  cases p
  cases q
  simp only at hd hn
  subst hd hn
  rfl

theorem Agrees.join_eq {s t : List Char} (h : Agrees s t) (hrel : isAbsolute s = false)
    (root : Path) : root.join t = root.join s := by
  refine ext_names ?_ ?_
  · rw [join_doubled h.relative, join_doubled hrel]
  · rw [join_names h.relative, join_names hrel, h.pushAll_eq]

theorem startsDoubled_text_append {root : Path} (hroot : root.names ≠ []) (s : List Char) :
    startsDoubled (root.text ++ s) = root.doubled := by
  obtain ⟨name, names, hn⟩ := List.exists_cons_of_ne_nil hroot
  have hplain := root.plain name (by simp [hn])
  obtain ⟨c, rest, rfl⟩ := List.exists_cons_of_ne_nil hplain.1
  have hc : c ≠ '/' := fun hc => hplain.2.2.2 (by simp [hc])
  obtain ⟨t, ht⟩ := List.head?_eq_some_iff.mp (Text.head?_joinWith '/' c rest names)
  rw [text_eq, hn, ht]
  cases hd : root.doubled <;> simp [lead, hd, startsDoubled, hc]

theorem isAbsolute_text_append (root : Path) (s : List Char) : isAbsolute (root.text ++ s) = true := by
  rw [text_eq]
  cases hd : root.doubled <;> simp [lead, hd, isAbsolute]

theorem pushAll_text (root : Path) : (pushAll [] root.text).reverse = root.names :=
  congrArg names (ofAbsolute_text root)

/-- A relative spec written behind the text of the root, with a slash between, is the same spec. -/
theorem join_absolute {root : Path} (hroot : root.names ≠ []) {s : List Char}
    (hrel : isAbsolute s = false) : root.join (root.text ++ '/' :: s) = root.join s := by
  have hof : root.join (root.text ++ '/' :: s) = ofAbsolute (root.text ++ '/' :: s) :=
    if_pos (isAbsolute_text_append root _)
  rw [hof]
  refine ext_names ?_ ?_
  · rw [join_doubled hrel]
    exact startsDoubled_text_append hroot _
  · have hnames : (ofAbsolute (root.text ++ '/' :: s)).names =
        (pushAll [] (root.text ++ '/' :: s)).reverse := rfl
    rw [hnames, join_names hrel, pushAll_append, ← pushAll_text root, List.reverse_reverse]

end Path

namespace PathSpec

theorem expand_congr (disk : Disk) {root : Path} {s t : String}
    (h : root.join t.toList = root.join s.toList) : expand disk root t = expand disk root s := by
  simp only [expand, h]

/-- Seen from a directory other than the root of the file system, a relative spec stands for the same
files however it is spelled, and also where the text of that directory stands in front of it. Nothing
at all is a spelling of the single dot. -/
theorem expand_respelled (disk : Disk) {root : Path} (hroot : root.names ≠ [])
    {spec respelled : String} (hne : spec ≠ "") (hrel : Path.isAbsolute spec.toList = false)
    (h : Relation.ReflTransGen Path.Respells spec.toList respelled.toList) :
    expand disk root respelled = expand disk root spec ∧
      expand disk root (String.ofList (root.text ++ '/' :: spec.toList)) =
        expand disk root spec ∧
      expand disk root "" = expand disk root "." := by
  have hchars : spec.toList ≠ [] := fun he => hne (String.toList_inj.mp he)
  refine ⟨?_, ?_, ?_⟩
  · exact expand_congr disk ((Path.agrees_of_respelled hchars hrel h).join_eq hrel root)
  · apply expand_congr disk
    rw [String.toList_ofList, Path.join_absolute hroot hrel]
  · apply expand_congr disk
    refine Path.ext_names rfl ?_
    rw [Path.join_names rfl, Path.join_names rfl]
    exact congrArg List.reverse ((Path.pushAll_empty _).trans (Path.pushAll_dot _).symm)

/-- A spec that climbs above the root and comes back, by way of a directory that is not there. -/
theorem expand_respelled_detour :
    let root := Path.ofAbsolute "/p".toList
    root.names ≠ [] ∧ "../p/app" ≠ "" ∧ Path.isAbsolute "../p/app".toList = false ∧
      Relation.ReflTransGen Path.Respells "../p/app".toList "./..//p/no/../app/.".toList ∧
      expand circle root "./..//p/no/../app/." = expand circle root "../p/app" ∧
      expand circle root "/p/../p/app" = expand circle root "../p/app" := by
  intro root
  have hroot : root.names ≠ [] := by decide
  have hno : Path.IsPlain "no".toList := by decide
  have hsteps : Relation.ReflTransGen Path.Respells "../p/app".toList
      "./..//p/no/../app/.".toList :=
    .head (.here _) <| .head (.doubled "./..".toList "p/app".toList) <|
      .head (.detour "./..//p/".toList "app".toList (.inr rfl) hno) <| .single (.slashDot _)
  have hne : "../p/app" ≠ "" := by decide
  obtain ⟨hsame, habsolute, -⟩ := expand_respelled circle hroot hne (by decide) hsteps
  exact ⟨hroot, hne, by decide, hsteps, hsame, habsolute⟩

end PathSpec

end LintDispatch
