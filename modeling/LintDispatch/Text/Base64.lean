/-!
Decoding Base64. Characters outside the alphabet are passed over, and a padding that completes a
group of four ends the text.
-/

namespace LintDispatch.Text.Base64

def digit? (c : Char) : Option Nat :=
  if 'A' ≤ c ∧ c ≤ 'Z' then some (c.toNat - 65)
  else if 'a' ≤ c ∧ c ≤ 'z' then some (c.toNat - 71)
  else if '0' ≤ c ∧ c ≤ '9' then some (c.toNat + 4)
  else if c = '+' then some 62
  else if c = '/' then some 63
  else none

/-- The byte that a digit completes: `pos` digits of its group came before it, of which `left` holds
the bits not used yet. -/
def completed (pos left d : Nat) : List UInt8 :=
  match pos with
  | 0 => []
  | 1 => [(left * 4 + d / 16).toUInt8]
  | 2 => [(left * 16 + d / 4).toUInt8]
  | _ => [(left * 64 + d).toUInt8]

/-- The bits of a digit that no byte has taken. -/
def leftover (pos d : Nat) : Nat :=
  match pos with
  | 0 => d
  | 1 => d % 16
  | 2 => d % 4
  | _ => 0

/-- Decodes what follows `pos` digits of a group and `pads` signs of padding. -/
def decodeFrom (pos left pads : Nat) : List Char → Option (List UInt8)
  | [] => if pos = 0 then some [] else none
  | c :: s =>
    if c = '=' then
      if pos < 2 then decodeFrom pos left pads s
      else if 4 ≤ pos + (pads + 1) then some []
      else decodeFrom pos left (pads + 1) s
    else
      match digit? c with
      | none => decodeFrom pos left pads s
      | some d =>
        (decodeFrom ((pos + 1) % 4) (leftover pos d) 0 s).map (completed pos left d ++ ·)

def decode? (s : List Char) : Option (List UInt8) :=
  decodeFrom 0 0 0 s

end LintDispatch.Text.Base64
