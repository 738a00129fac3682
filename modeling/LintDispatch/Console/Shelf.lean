/-!
Consoles and the streams behind them. A console that writes to the standard output is built once for
each choice of colour and each answer to whether the output is a terminal, and handed out again; one
for a stream of its own is always built anew. Colour is used only on a terminal.
-/

namespace LintDispatch.Console

/-- What a stream answers when it is asked whether it is a terminal. -/
inductive Stream where
  | silent
  | broken
  | answers (terminal : Bool)
  deriving DecidableEq, Repr

/-- A stream that gives no answer is no terminal. -/
def Stream.isTerminal : Stream → Bool
  | .answers terminal => terminal
  | _ => false

/-- A console: which one it is, and how it shows text. -/
structure Handle where
  number : Nat
  coloured : Bool
  wrapsSoftly : Bool
  deriving DecidableEq, Repr

/-- The consoles that were built, counted, and those for the standard output. -/
structure Shelf where
  built : Nat
  kept : List ((Bool × Bool) × Handle)
  deriving Repr

namespace Shelf

def empty : Shelf := ⟨0, []⟩

def build (shelf : Shelf) (colour : Bool) (stream : Stream) : Shelf × Handle :=
  let handle : Handle := ⟨shelf.built, colour && stream.isTerminal, true⟩
  ({ shelf with built := shelf.built + 1 }, handle)

def forStream (shelf : Shelf) (colour : Bool) (stream : Stream) : Shelf × Handle :=
  shelf.build colour stream

def forOutput (shelf : Shelf) (colour : Bool) (output : Stream) : Shelf × Handle :=
  let key := (colour, output.isTerminal)
  match (shelf.kept.find? fun k => k.1 == key).map Prod.snd with
  | some handle => (shelf, handle)
  | none =>
    let (shelf, handle) := shelf.build colour output
    ({ shelf with kept := (key, handle) :: shelf.kept }, handle)

end Shelf

end LintDispatch.Console
