import LintDispatch.Shell.Program.Lines

/-!
Showing the bytes of files as numbers or signs, sixteen to a line. A line that repeats the one above
it is left out.
-/

namespace LintDispatch.Shell.Program

/-- How bytes are shown: a letter for the form, and how many bytes make one number. -/
structure DumpForm where
  letter : Char
  size : Nat
  deriving DecidableEq

namespace DumpForm

def width (f : DumpForm) : Nat :=
  match f.letter, f.size with
  | 'x', n => 2 * n + 1
  | 'o', 1 => 4
  | 'o', 2 => 7
  | 'o', 4 => 12
  | 'o', _ => 23
  | 'd', 1 => 5
  | 'd', 2 => 7
  | 'd', 4 => 12
  | 'd', _ => 21
  | 'u', 1 => 4
  | 'u', 2 => 6
  | 'u', 4 => 11
  | 'u', _ => 21
  | _, _ => 4

def names : List String :=
  ["nul", "soh", "stx", "etx", "eot", "enq", "ack", "bel", "bs", "ht", "nl", "vt", "ff", "cr", "so",
    "si", "dle", "dc1", "dc2", "dc3", "dc4", "nak", "syn", "etb", "can", "em", "sub", "esc", "fs",
    "gs", "rs", "us", "sp"]

def charText (c : Char) : Octets :=
  match c with
  | '\x00' => ['\\', '0']
  | '\x07' => ['\\', 'a']
  | '\x08' => ['\\', 'b']
  | '\x0c' => ['\\', 'f']
  | '\n' => ['\\', 'n']
  | '\r' => ['\\', 'r']
  | '\t' => ['\\', 't']
  | '\x0b' => ['\\', 'v']
  | c =>
    if 32 ≤ c.toNat && c.toNat < 127 then [c]
    else Places.digits 3 (Octets.number (Nat.toDigits 8 c.toNat))

/-- One number, the first of its bytes counting least. -/
def cell (f : DumpForm) (bytes : Octets) : Octets :=
  let n := bytes.foldr (fun c n => 256 * n + c.toNat) 0
  let padded (base width : Nat) : Octets :=
    let ds := Nat.toDigits base n
    List.replicate (width - ds.length) '0' ++ ds
  match f.letter with
  | 'x' => padded 16 (f.width - 1)
  | 'o' => padded 8 (f.width - 1)
  | 'u' => Machine.decimal n
  | 'd' => (toString (Int.bmod n (Nat.pow 256 f.size))).toList
  | 'a' =>
    let n := n % 128
    if n = 127 then "del".toList else match names[n]? with
      | some name => name.toList
      | none => [Char.ofNat n]
  | _ => charText (Char.ofNat n)

def ofText : Octets → Option (List DumpForm)
  | [] => some []
  | c :: rest =>
    if !"xoduca".toList.contains c then none
    else
      let digits := rest.takeWhile Char.isDigit
      let size? : Option Nat :=
        if c = 'c' || c = 'a' then some 1
        else match digits, rest with
          | [], 'C' :: _ => some 1
          | [], 'S' :: _ => some 2
          | [], 'I' :: _ => some 4
          | [], 'L' :: _ => some 8
          | [], _ => some 4
          | ds, _ =>
            if [1, 2, 4, 8].contains (Octets.number ds) then some (Octets.number ds) else none
      let named := digits.isEmpty && (rest.head?.any fun c => "CSIL".toList.contains c)
      have : (rest.drop (digits.length + if named then 1 else 0)).length < (c :: rest).length := by
        simp only [List.length_drop, List.length_cons]
        omega
      match size?, ofText (rest.drop (digits.length + if named then 1 else 0)) with
      | some size, some more => some (⟨c, size⟩ :: more)
      | _, _ => none
termination_by s => s.length

end DumpForm

def odArguments : Known :=
  ⟨"abcdosxiv", "AtNjwS", [("address-radix", 'A'), ("format", 't'), ("read-bytes", 'N'),
    ("skip-bytes", 'j'), ("width", 'w'), ("output-duplicates", 'v')]⟩

def dumpForms (a : Arguments) : Except Octets (List DumpForm) := do
  let all ← a.options.mapM fun (c, text) => match c with
    | 'a' => .ok [⟨'a', 1⟩]
    | 'b' => .ok [⟨'o', 1⟩]
    | 'c' => .ok [⟨'c', 1⟩]
    | 'd' => .ok [⟨'u', 2⟩]
    | 'o' => .ok [⟨'o', 2⟩]
    | 's' => .ok [⟨'d', 2⟩]
    | 'i' => .ok [⟨'d', 4⟩]
    | 'x' => .ok [⟨'x', 2⟩]
    | 't' => match DumpForm.ofText text with
      | some fs => .ok fs
      | none => .error text
    | _ => .ok []
  let forms := all.flatten
  return if forms.isEmpty then [⟨'o', 2⟩] else forms

def chunks (size : Nat) : Nat → Octets → List Octets
  | 0, _ => []
  | n + 1, s => if s.isEmpty then [] else s.take size :: chunks size n (s.drop size)

/-- Where a line starts, in the base that is asked for. -/
def dumpAddress (radix : Char) (n : Nat) : Octets :=
  let padded (base width : Nat) : Octets :=
    let ds := Nat.toDigits base n
    List.replicate (width - ds.length) '0' ++ ds
  match radix with
  | 'd' => padded 10 7
  | 'x' => padded 16 6
  | 'n' => []
  | _ => padded 8 7

/-- The lines for a row of bytes, one for each form. -/
def dumpRow (forms : List DumpForm) (radix : Char) (address : Nat) (row : Octets) : Octets :=
  let unit := (forms.map fun f => (f.width + f.size - 1) / f.size).foldl max 0
  let one (f : DumpForm) : Octets :=
    (chunks f.size row.length row).flatMap fun bytes =>
      let text := f.cell bytes
      List.replicate (unit * f.size - text.length) ' ' ++ text
  ((forms.map one).zipIdx.flatMap fun p =>
    line ((if p.2 = 0 then dumpAddress radix address
      else List.replicate (dumpAddress radix address).length ' ') ++ p.1))

/-- The rows with their addresses; a star stands for those that repeat the one above. -/
def dumpRows (always : Bool) (show_ : Nat → Octets → Octets) :
    Nat → Option Octets → Bool → List Octets → Octets
  | _, _, _, [] => []
  | address, before, starred, row :: rest =>
    if !always && before = some row then
      (if starred then [] else ['*', '\n'])
        ++ dumpRows always show_ (address + row.length) before true rest
    else
      show_ address row
        ++ dumpRows always show_ (address + row.length) (some row) false rest

def od : Program := withArguments "od" odArguments 1 fun a m =>
  let radix := ((a.value? 'A').bind List.head?).getD 'o'
  let number (letter : Char) : Option Nat := (a.value? letter).bind amount?
  match dumpForms a with
  | .error text => finish m [] ("od: invalid type string ".toList ++ line (marked m text)) 1
  | .ok forms =>
    let (found, errors, m) := contents (plainly "od") a.operands m
    let text := found.flatMap Prod.snd
    let skipped := (number 'j').getD 0
    let text := text.drop skipped
    let text := match number 'N' with
      | some n => text.take n
      | none => text
    let width := (number 'w').getD 16
    let rows := dumpRows (a.has 'v') (dumpRow forms radix) skipped none false
      (chunks width text.length text)
    let last := if radix = 'n' then [] else line (dumpAddress radix (skipped + text.length))
    let isEmpty := found.isEmpty && !errors.isEmpty
    finish m (if isEmpty then [] else rows ++ last) errors (if errors.isEmpty then 0 else 1)

def dumpPrograms : List (String × Program) := [("od", od)]

end LintDispatch.Shell.Program
