import LintDispatch.Shell.Octets

/-!
Integer arithmetic of scripts: numbers of 64 bits that wrap, the usual binary operators by rank,
signs, negations, parentheses, choices and assignments. What need not be evaluated is read all the
same, but assigns nothing and cannot fail by its values.
-/

namespace LintDispatch.Shell.Arithmetic

inductive Error where
  | divisionByZero
  | expectingPrimary
  | expectingEnd
  | expectingClose
  | expectingColon
  | illegalNumber (text : Octets)
  deriving DecidableEq, Repr

def wrap (n : Int) : Int :=
  Int.bmod n (Nat.pow 2 64)

/-- The greatest number that a text can stand for; what is beyond it counts as it. -/
def greatest : Nat := Nat.pow 2 63 - 1

def isSpace (c : Char) : Bool :=
  c = ' ' || c = '\t' || c = '\n'

def digit? (base : Nat) (c : Char) : Option Nat :=
  let value :=
    if c.isDigit then some (c.toNat - 48)
    else if 'a' ≤ c ∧ c ≤ 'f' then some (c.toNat - 87)
    else if 'A' ≤ c ∧ c ≤ 'F' then some (c.toNat - 55)
    else none
  value.filter (· < base)

/-- The base that a numeral starts with and the digits behind it. -/
def base : Octets → Nat × Octets
  | '0' :: 'x' :: rest => (16, rest)
  | '0' :: 'X' :: rest => (16, rest)
  | '0' :: rest => (8, '0' :: rest)
  | s => (10, s)

/-- The number at the start and what follows it. -/
def numeral (s : Octets) : Nat × Octets :=
  let (b, digits) := base s
  let value := (digits.takeWhile fun c => (digit? b c).isSome).foldl
    (fun n c => b * n + (digit? b c).getD 0) 0
  (min value greatest, digits.dropWhile fun c => (digit? b c).isSome)

def number? (s : Octets) : Option Int :=
  let s := s.dropWhile isSpace
  let (negative, s) := match s with
    | '-' :: rest => (true, rest)
    | '+' :: rest => (false, rest)
    | _ => (false, s)
  match s with
  | [] => none
  | c :: _ =>
    let (n, rest) := numeral s
    if c.isDigit && rest.all isSpace then some (if negative then -(n : Int) else n) else none

def truth (b : Bool) : Int :=
  if b then 1 else 0

/-- The operator at the start, its rank (higher binds tighter) and what follows it. A sign of
assignment is no operator. -/
def operator? : Octets → Option (String × Nat × Octets)
  | '<' :: '<' :: '=' :: _ => none
  | '>' :: '>' :: '=' :: _ => none
  | '|' :: '|' :: rest => some ("||", 1, rest)
  | '&' :: '&' :: rest => some ("&&", 2, rest)
  | '=' :: '=' :: rest => some ("==", 6, rest)
  | '!' :: '=' :: rest => some ("!=", 6, rest)
  | '<' :: '<' :: rest => some ("<<", 8, rest)
  | '>' :: '>' :: rest => some (">>", 8, rest)
  | '<' :: '=' :: rest => some ("<=", 7, rest)
  | '>' :: '=' :: rest => some (">=", 7, rest)
  | '|' :: '=' :: _ => none
  | '^' :: '=' :: _ => none
  | '&' :: '=' :: _ => none
  | '+' :: '=' :: _ => none
  | '-' :: '=' :: _ => none
  | '*' :: '=' :: _ => none
  | '/' :: '=' :: _ => none
  | '%' :: '=' :: _ => none
  | '|' :: rest => some ("|", 3, rest)
  | '^' :: rest => some ("^", 4, rest)
  | '&' :: rest => some ("&", 5, rest)
  | '<' :: rest => some ("<", 7, rest)
  | '>' :: rest => some (">", 7, rest)
  | '+' :: rest => some ("+", 9, rest)
  | '-' :: rest => some ("-", 9, rest)
  | '*' :: rest => some ("*", 10, rest)
  | '/' :: rest => some ("/", 10, rest)
  | '%' :: rest => some ("%", 10, rest)
  | _ => none

def bits (n : Int) : BitVec 64 :=
  BitVec.ofInt 64 n

def shift (n : Int) : Nat :=
  (n % 64).toNat

def apply (operator : String) (a b : Int) : Except Error Int :=
  match operator with
  | "||" => .ok (truth (a != 0 || b != 0))
  | "&&" => .ok (truth (a != 0 && b != 0))
  | "==" => .ok (truth (a == b))
  | "!=" => .ok (truth (a != b))
  | "<" => .ok (truth (a < b))
  | ">" => .ok (truth (b < a))
  | "<=" => .ok (truth (a ≤ b))
  | ">=" => .ok (truth (b ≤ a))
  | "<<" => .ok (wrap (a * Nat.pow 2 (shift b)))
  | ">>" => .ok (a / Nat.pow 2 (shift b))
  | "|" => .ok (bits a ||| bits b).toInt
  | "^" => .ok (bits a ^^^ bits b).toInt
  | "&" => .ok (bits a &&& bits b).toInt
  | "+" => .ok (wrap (a + b))
  | "-" => .ok (wrap (a - b))
  | "*" => .ok (wrap (a * b))
  | "/" => if b = 0 then .error .divisionByZero else .ok (wrap (a.tdiv b))
  | _ => if b = 0 then .error .divisionByZero else .ok (a.tmod b)

def isNameChar (c : Char) : Bool :=
  c.isAlphanum || c = '_'

abbrev Assigned := List (Octets × Octets)

abbrev Evaluation := StateT Assigned (Except Error)

/-- The sign of an assignment at the start, without its equals sign, and what follows. -/
def assignment? (s : Octets) : Option (Octets × Octets) :=
  match s with
  | '=' :: '=' :: _ => none
  | '=' :: rest => some ([], rest)
  | '<' :: '<' :: '=' :: rest => some (['<', '<'], rest)
  | '>' :: '>' :: '=' :: rest => some (['>', '>'], rest)
  | c :: '=' :: rest => if "+-*/%&^|".toList.contains c then some ([c], rest) else none
  | _ => none

def target? (s : Octets) : Option (Octets × Octets × Octets) :=
  let name := s.takeWhile isNameChar
  if (name.head?.map fun c => !c.isDigit).getD false then
    (assignment? ((s.dropWhile isNameChar).dropWhile isSpace)).map fun r => (name, r)
  else none

/-- The number that a name stands for; `lookup` knows the names not assigned to. -/
def valueOf (lookup : Octets → Option Octets) (name : Octets) : Evaluation Int := do
  let assigned ← get
  match (assigned.lookup name).or (lookup name) with
  | none => return 0
  | some text =>
    if text.all isSpace then return 0
    else match number? text with
      | some n => return n
      | none => throw (.illegalNumber text)

mutual

/-- Reads a number, a name, or something in parentheses, with the signs before it. Nothing is
evaluated if it is `idle`. -/
def primary (lookup : Octets → Option Octets) : Nat → Bool → Octets → Evaluation (Int × Octets)
  | 0, _, _ => throw .expectingPrimary
  | n + 1, idle, s =>
    match s.dropWhile isSpace with
    | '(' :: rest => do
      let (v, rest) ← assignment lookup n idle rest
      match rest.dropWhile isSpace with
      | ')' :: rest => return (v, rest)
      | _ => throw .expectingClose
    | '-' :: rest => do let (v, rest) ← primary lookup n idle rest; return (wrap (-v), rest)
    | '+' :: rest => primary lookup n idle rest
    | '!' :: rest => do let (v, rest) ← primary lookup n idle rest; return (truth (v == 0), rest)
    | '~' :: rest => do let (v, rest) ← primary lookup n idle rest; return (-v - 1, rest)
    | c :: rest =>
      if c.isDigit then
        let (v, rest) := numeral (c :: rest)
        return ((v : Int), rest)
      else if isNameChar c then do
        let name := c :: rest.takeWhile isNameChar
        let v ← if idle then pure 0 else valueOf lookup name
        return (v, rest.dropWhile isNameChar)
      else throw .expectingPrimary
    | [] => throw .expectingPrimary

/-- Goes on from the left operand `left` with operators of at least the given rank. -/
def operations (lookup : Octets → Option Octets) :
    Nat → Bool → Nat → Int → Octets → Evaluation (Int × Octets)
  | 0, _, _, _, _ => throw .expectingPrimary
  | n + 1, idle, rank, left, s =>
    match operator? (s.dropWhile isSpace) with
    | none => return (left, s)
    | some (operator, r, rest) =>
      if r < rank then return (left, s)
      else do
        let settled := (operator = "||" && left != 0) || (operator = "&&" && left = 0)
        let (right, rest) ← primary lookup n (idle || settled) rest
        let (right, rest) ← operations lookup n (idle || settled) (r + 1) right rest
        let v ← if idle then pure right else (apply operator left right : Except Error Int)
        operations lookup n idle rank v rest

/-- Reads operands joined by operators, and a choice by their value. -/
def choice (lookup : Octets → Option Octets) : Nat → Bool → Octets → Evaluation (Int × Octets)
  | 0, _, _ => throw .expectingPrimary
  | n + 1, idle, s => do
    let (v, rest) ← primary lookup n idle s
    let (v, rest) ← operations lookup n idle 1 v rest
    match rest.dropWhile isSpace with
    | '?' :: rest => do
      let (yes, rest) ← assignment lookup n (idle || v = 0) rest
      match rest.dropWhile isSpace with
      | ':' :: rest => do
        let (no, rest) ← choice lookup n (idle || v != 0) rest
        return (if v = 0 then no else yes, rest)
      | _ => throw .expectingColon
    | _ => return (v, rest)

def assignment (lookup : Octets → Option Octets) : Nat → Bool → Octets → Evaluation (Int × Octets)
  | 0, _, _ => throw .expectingPrimary
  | n + 1, idle, s =>
    match target? (s.dropWhile isSpace) with
    | none => choice lookup n idle s
    | some (name, sign, rest) => do
      let (v, rest) ← assignment lookup n idle rest
      if idle then return (v, rest)
      else do
        let v ← if sign.isEmpty then pure v
          else do (apply (String.ofList sign) (← valueOf lookup name) v : Except Error Int)
        modify ((name, (toString v).toList) :: ·)
        return (v, rest)

end

/-- The value of a whole expression and what it assigns; `lookup` gives the text that a name stands
for. -/
def evaluate (lookup : Octets → Option Octets) (s : Octets) : Except Error (Int × Assigned) := do
  let ((v, rest), assigned) ← (assignment lookup (4 * s.length + 8) false s).run []
  if rest.all isSpace then .ok (v, assigned) else .error .expectingEnd

end LintDispatch.Shell.Arithmetic
