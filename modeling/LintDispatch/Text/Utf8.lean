/-!
Decoding bytes as UTF-8. The first byte of a character says how many follow; overlong forms,
surrogates and values beyond the last code point are refused, or replaced where a text has to be
shown all the same.
-/

namespace LintDispatch.Text

def continuation? (b : UInt8) : Option Nat :=
  if 0x80 ≤ b ∧ b < 0xc0 then some (b.toNat - 0x80) else none

/-- A character from its code point, refusing what the length of its form does not allow. -/
def charFrom? (least point : Nat) : Option Char :=
  if h : least ≤ point ∧ point.isValidChar then some (Char.ofNatAux point h.2) else none

def decodeUtf8? : List UInt8 → Option (List Char)
  | [] => some []
  | a :: rest =>
    if a < 0x80 then (decodeUtf8? rest).map (Char.ofNat a.toNat :: ·)
    else
      match rest with
      | b :: rest =>
        if 0xc0 ≤ a ∧ a < 0xe0 then do
          let x ← continuation? b
          let c ← charFrom? 0x80 ((a.toNat - 0xc0) * 0x40 + x)
          let s ← decodeUtf8? rest
          return c :: s
        else
          match rest with
          | c :: rest =>
            if 0xe0 ≤ a ∧ a < 0xf0 then do
              let x ← continuation? b
              let y ← continuation? c
              let c ← charFrom? 0x800 (((a.toNat - 0xe0) * 0x40 + x) * 0x40 + y)
              let s ← decodeUtf8? rest
              return c :: s
            else
              match rest with
              | d :: rest =>
                if 0xf0 ≤ a ∧ a < 0xf8 then do
                  let x ← continuation? b
                  let y ← continuation? c
                  let z ← continuation? d
                  let c ← charFrom? 0x10000
                    ((((a.toNat - 0xf0) * 0x40 + x) * 0x40 + y) * 0x40 + z)
                  let s ← decodeUtf8? rest
                  return c :: s
                else none
              | [] => none
          | [] => none
      | [] => none

/-- The first character and the bytes behind it. -/
def firstChar? (bytes : List UInt8) : Option (Char × List UInt8) :=
  (List.range 4).findSome? fun n =>
    match decodeUtf8? (bytes.take (n + 1)) with
    | some [c] => some (c, bytes.drop (n + 1))
    | _ => none

/-- The characters in front of the first broken one, at most `fuel`, and the bytes behind them. -/
def decodeFront : Nat → List UInt8 → List Char × List UInt8
  | 0, bytes => ([], bytes)
  | fuel + 1, bytes =>
    match firstChar? bytes with
    | some (c, rest) =>
      let (s, rest) := decodeFront fuel rest
      (c :: s, rest)
    | none => ([], bytes)

def replacement : Char := '\ufffd'

/-- A byte that may be the second of a character with first byte `a`. -/
def isSecond (a b : UInt8) : Bool :=
  if a = 0xe0 then 0xa0 ≤ b && b < 0xc0
  else if a = 0xed then 0x80 ≤ b && b < 0xa0
  else if a = 0xf0 then 0x90 ≤ b && b < 0xc0
  else if a = 0xf4 then 0x80 ≤ b && b < 0x90
  else 0xe1 ≤ a && a < 0xf4 && 0x80 ≤ b && b < 0xc0

/-- How many bytes behind a first byte `a` go with it though they do not make it a character. -/
def brokenLength (a : UInt8) : List UInt8 → Nat
  | b :: c :: _ =>
    if isSecond a b then if 0xf0 ≤ a && (continuation? c).isSome then 2 else 1 else 0
  | [b] => if isSecond a b then 1 else 0
  | [] => 0

/-- Decodes at most `fuel` characters; the bytes that begin one without ending it, or a byte that
begins none, become one replacement character. -/
def decodeLossyFrom : Nat → List UInt8 → List Char
  | 0, _ => []
  | _, [] => []
  | fuel + 1, b :: rest =>
    match firstChar? (b :: rest) with
    | some (c, rest) => c :: decodeLossyFrom fuel rest
    | none => replacement :: decodeLossyFrom fuel (rest.drop (brokenLength b rest))

def decodeLossy (bytes : List UInt8) : List Char :=
  match decodeUtf8? bytes with
  | some s => s
  | none => decodeLossyFrom bytes.length bytes

def encodeChar (c : Char) : List UInt8 :=
  let n := c.toNat
  if n < 0x80 then [n.toUInt8]
  else if n < 0x800 then [(0xc0 + n / 0x40).toUInt8, (0x80 + n % 0x40).toUInt8]
  else if n < 0x10000 then
    [(0xe0 + n / 0x1000).toUInt8, (0x80 + n / 0x40 % 0x40).toUInt8, (0x80 + n % 0x40).toUInt8]
  else
    [(0xf0 + n / 0x40000).toUInt8, (0x80 + n / 0x1000 % 0x40).toUInt8,
      (0x80 + n / 0x40 % 0x40).toUInt8, (0x80 + n % 0x40).toUInt8]

def encodeUtf8 (s : List Char) : List UInt8 :=
  s.flatMap encodeChar

end LintDispatch.Text
