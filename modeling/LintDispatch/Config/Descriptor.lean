import LintDispatch.Config.Field
import LintDispatch.Linter.Basic

/-!
Descriptors: what the configuration says about one linter. A linter made from a descriptor derives
its flags from its name where the descriptor gives none.
-/

namespace LintDispatch

structure Descriptor where
  name : String
  command : String
  extensions : List String
  autocorrectCommand : Option String
  optionName : Option String
  abbreviation : Option String
  deriving DecidableEq, Repr, Inhabited

namespace Descriptor

open Config

def recordName : String := "LinterConfig"

def ofEntries (entries : List (Scalar × Value)) : Checked Descriptor :=
  Descriptor.mk
    <$> required "name" text entries
    <*> required "cmd" text entries
    <*> required "extensions" (listOf text) entries
    <*> optional "autocorrect_cmd" optionalText none entries
    <*> optional "cli_option_name" optionalText none entries
    <*> optional "cli_abbrev" optionalText none entries

def ofValue : Value → Checked Descriptor :=
  record recordName ofEntries

/-- Sets one field after checking the new value. -/
def change (d : Descriptor) (field : String) (value : Value) : Checked Descriptor :=
  Checked.inside (.field field) <|
    match field with
    | "name" => (fun x => { d with name := x }) <$> text value
    | "cmd" => (fun x => { d with command := x }) <$> text value
    | "extensions" => (fun x => { d with extensions := x }) <$> listOf text value
    | "autocorrect_cmd" => (fun x => { d with autocorrectCommand := x }) <$> optionalText value
    | "cli_option_name" => (fun x => { d with optionName := x }) <$> optionalText value
    | "cli_abbrev" => (fun x => { d with abbreviation := x }) <$> optionalText value
    | _ => .fail (.noSuchField field)

def assign : Descriptor → String → Value → Except Computed (Checked Descriptor) :=
  assigned recordName change

def toLinter (d : Descriptor) : Linter :=
  Linter.configured d.name d.command d.extensions d.autocorrectCommand d.optionName d.abbreviation

end Descriptor

end LintDispatch
