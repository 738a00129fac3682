import LintDispatch.Text.Blank
import LintDispatch.Text.Case
import LintDispatch.Text.Word

/-!
Names derived from a linter's display name: the option name, the one-letter abbreviation, and the
long flag that an option name stands for.
-/

namespace LintDispatch.Linter

/-- Replaces every run of characters that are no word characters by one underscore; `inRun` says
that such a run is being read. -/
def joinWords (inRun : Bool) : List Char → List Char
  | [] => []
  | c :: s =>
    if Text.isWord c then c :: joinWords false s
    else if inRun then joinWords true s
    else '_' :: joinWords true s

def defaultOptionName (name : String) : String :=
  String.ofList (joinWords false (Text.lower name.toList))

def defaultAbbreviation (name : String) : String :=
  String.ofList (Text.lower (name.toList.take 1))

/-- The long flag of an option name: trimmed, in lower case, with dashes for underscores. -/
def flagName (optionName : String) : String :=
  String.ofList ((Text.lower (Text.trim optionName.toList)).map fun c => if c = '_' then '-' else c)

/-- A flag name ends in no blank. -/
theorem getLast?_flagName (optionName : String) :
    ∀ c ∈ (flagName optionName).toList.getLast?, Text.isBlank c = false := by
  intro c hc
  rw [flagName, String.toList_ofList, List.getLast?_map] at hc
  obtain ⟨d, hd, rfl⟩ := Option.map_eq_some_iff.mp hc
  split
  · decide
  · exact Text.getLast?_lowerFrom (fun _ => Text.getLast?_trimRight) [] d hd

theorem slash_not_mem_flagName {optionName : String} (h : '/' ∉ optionName.toList) :
    '/' ∉ (flagName optionName).toList := by
  have hsub : Text.trim optionName.toList ⊆ optionName.toList := fun c hc =>
    (List.dropWhile_suffix _).subset ((Text.trimRight_prefix _).subset hc)
  have hlower : '/' ∉ Text.lower (Text.trim optionName.toList) :=
    Text.slash_not_mem_lowerFrom (fun hm => h (hsub hm)) []
  rw [flagName, String.toList_ofList, List.mem_map]
  rintro ⟨c, hc, hs⟩
  split at hs
  · cases hs
  · exact hlower (hs ▸ hc)

end LintDispatch.Linter
