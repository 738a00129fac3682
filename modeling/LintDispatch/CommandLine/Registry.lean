import LintDispatch.Config.Settings

/-!
Which flags are taken. The settings have their options first; a linter gets the flags of its own
that are still free, each for itself.
-/

namespace LintDispatch.CommandLine

/-- The option of a setting. -/
structure SettingOption where
  setting : Setting
  long : String
  short : Option String
  help : String
  takesValue : Bool
  deriving Repr

def settingOptions : List SettingOption :=
  [⟨.changedOnly, "changed-only", some "c", "only run source files with changes", false⟩,
   ⟨.changedRef, "changed-ref", some "r", "reference for changes, use with \x60-c\x60 opt", true⟩,
   ⟨.autocorrect, "autocorrect", some "a", "autocorrect any correctable violations", false⟩,
   ⟨.dryRun, "dry-run", none, "output each linter command to stdout without executing", false⟩,
   ⟨.list, "list", some "l", "list source files on stdout", false⟩,
   ⟨.debug, "debug", some "d", "run in debug mode", false⟩]

/-- Names of long and short flags that are taken, without their dashes. -/
structure Registry where
  longs : List String
  shorts : List String
  deriving Repr

namespace Registry

def builtIn : Registry where
  longs := "help" :: "version" :: settingOptions.map SettingOption.long
  shorts := "h" :: settingOptions.filterMap SettingOption.short

def negated (name : String) : String :=
  "no-" ++ name

/-- A long flag is free if neither it nor its negation is taken. -/
def isFreeLong (r : Registry) (name : String) : Bool :=
  name != "" && !r.longs.contains name && !r.longs.contains (negated name)

def isFreeShort (r : Registry) (name : String) : Bool :=
  name != "" && !r.shorts.contains name

/-- Takes a long flag and its negation, if they are free. -/
def claimLong (r : Registry) (name : String) : Registry :=
  if r.isFreeLong name then { r with longs := name :: negated name :: r.longs } else r

def claimShort (r : Registry) (name : String) : Registry :=
  if r.isFreeShort name then { r with shorts := name :: r.shorts } else r

end Registry

end LintDispatch.CommandLine
