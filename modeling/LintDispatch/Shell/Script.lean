import LintDispatch.Shell.Octets

/-!
Scripts as they are read. A word is made of pieces, each either quoted or open to splitting and
matching; commands are combined by lists, pipes, groups, loops and choices, and may be given names
as functions. A script is read line by line, and a line runs before the next one is looked at.
-/

namespace LintDispatch.Shell

/-- What a dollar sign can name without braces. -/
inductive Parameter where
  | named (name : Octets)
  | lastStatus
  | process
  | lastJob
  | flags
  | count
  | position (index : Nat)
  | each
  | joined
  deriving DecidableEq, Repr

/-- What another word does for a parameter that is missing, or for one that is not. -/
inductive Service where
  | instead
  | besides
  | assigned
  | demanded
  deriving DecidableEq, Repr

/-- Whether an empty parameter is missing too, and what the other word is for. -/
structure Fallback where
  whenEmpty : Bool
  service : Service
  deriving DecidableEq, Repr

/-- Which end of a value a pattern is cut off from, and how much of it. -/
structure Cut where
  atEnd : Bool
  longest : Bool
  deriving DecidableEq, Repr

mutual

inductive Piece where
  | text (quoted : Bool) (text : Octets)
  | value (quoted : Bool) (parameter : Parameter)
  | size (quoted : Bool) (parameter : Parameter)
  | either (quoted : Bool) (parameter : Parameter) (fallback : Fallback) (other : List Piece)
  | cut (quoted : Bool) (parameter : Parameter) (cut : Cut) (pattern : List Piece)
  | arithmetic (quoted : Bool) (expression : List Piece)
  | output (quoted : Bool) (body : Command)
  | illegal

inductive Redirect where
  | write (stream : Nat) (forced : Bool) (target : List Piece)
  | append (stream : Nat) (target : List Piece)
  | read (stream : Nat) (target : List Piece)
  | update (stream : Nat) (target : List Piece)
  | copy (stream : Nat) (target : List Piece)
  | here (stream : Nat) (text : List Piece)

inductive Command where
  | nothing
  | simple (line : Nat) (assignments : List (Octets × List Piece)) (words : List (List Piece))
      (redirects : List Redirect)
  | subshell (line : Nat) (body : Command) (redirects : List Redirect)
  | group (line : Nat) (body : Command) (redirects : List Redirect)
  | pipe (source target : Command)
  | negated (body : Command)
  | both (first second : Command)
  | oneOf (first second : Command)
  | sequence (first second : Command)
  | background (body : Command)
  | choose (condition yes no : Command)
  | select (line : Nat) (subject : List Piece) (branches : List (List (List Piece) × Command))
  | loop (until_ : Bool) (condition body : Command)
  | forEach (line : Nat) (name : Octets) (words : Option (List (List Piece))) (body : Command)
  | define (name : Octets) (body : Command)

end

instance : Inhabited Command := ⟨.nothing⟩

abbrev Word := List Piece

end LintDispatch.Shell
