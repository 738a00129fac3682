/-!
How similar two texts are: the share of characters in common blocks. The longest common block is
found first, then those to its left and to its right. In a text of two hundred characters or more,
characters that make up over a hundredth of it begin no block.
-/

namespace LintDispatch.Text

/-- Characters of `b` that are too frequent to begin a block. -/
def isPopular (b : List Char) (c : Char) : Bool :=
  200 ≤ b.length && b.length / 100 + 1 < b.count c

/-- Lengths of the common blocks that end at each place of `b` and at one place of `a`, from those
that end one place before; `c` is the character of `a`. -/
def blockRow (c : Char) (before : Nat) : List Char → List Nat → List Nat
  | [], _ => []
  | x :: b, row =>
    let here := if x = c then before + 1 else 0
    here :: blockRow c (row.headD 0) b row.tail

/-- A common block: where it begins in either text, and its length. -/
structure Block where
  left : Nat
  right : Nat
  size : Nat
  deriving DecidableEq, Repr

/-- The first of the longest blocks that end in a row, if it beats `best`. -/
def bestInRow (i : Nat) (best : Block) (j : Nat) : List Nat → Block
  | [] => best
  | k :: row =>
    let best := if best.size < k then ⟨i + 1 - k, j + 1 - k, k⟩ else best
    bestInRow i best (j + 1) row

/-- The first of the longest blocks of `a` and `b`. -/
def longestFrom (popular : Char → Bool) (b : List Char) (i : Nat) (row : List Nat) (best : Block) :
    List Char → Block
  | [] => best
  | c :: a =>
    let next := if popular c then b.map fun _ => 0 else blockRow c 0 b row
    longestFrom popular b (i + 1) next (bestInRow i best 0 next) a

def longestBlock (popular : Char → Bool) (a b : List Char) : Block :=
  longestFrom popular b 0 (b.map fun _ => 0) ⟨0, 0, 0⟩ a

/-- How many characters two texts have in common in front. -/
def commonStart : List Char → List Char → Nat
  | x :: a, y :: b => if x = y then commonStart a b + 1 else 0
  | _, _ => 0

/-- Lengthens a block in both directions. -/
def widen (a b : List Char) (k : Block) : Block :=
  let back := commonStart (a.take k.left).reverse (b.take k.right).reverse
  let ahead := commonStart (a.drop (k.left + k.size)) (b.drop (k.right + k.size))
  ⟨k.left - back, k.right - back, back + k.size + ahead⟩

/-- The number of characters in common blocks. -/
def matchesFrom (popular : Char → Bool) : Nat → List Char → List Char → Nat
  | 0, _, _ => 0
  | fuel + 1, a, b =>
    let k := widen a b (longestBlock popular a b)
    if k.size = 0 then 0
    else
      matchesFrom popular fuel (a.take k.left) (b.take k.right) + k.size
        + matchesFrom popular fuel (a.drop (k.left + k.size)) (b.drop (k.right + k.size))

structure Share where
  part : Nat
  whole : Nat

def Share.le (x y : Share) : Bool :=
  x.part * y.whole ≤ y.part * x.whole

/-- The share of `a` and `word` that lies in common blocks; two empty texts are the same. -/
def similarity (a word : List Char) : Share :=
  let total := a.length + word.length
  if total = 0 then ⟨1, 1⟩
  else ⟨2 * matchesFrom (isPopular word) (min a.length word.length + 1) a word, total⟩

/-- The least share of texts that are close. -/
def closeShare : Share := ⟨3, 5⟩

def closer (x y : Share × String) : Bool :=
  if y.1.le x.1 then !x.1.le y.1 || decide (y.2 ≤ x.2) else false

/-- At most three of the candidates that are close to a word, the closest first. -/
def closeMatches (word : String) (candidates : List String) : List String :=
  let scored := candidates.map fun x => (similarity x.toList word.toList, x)
  (((scored.filter fun x => closeShare.le x.1).mergeSort closer).take 3).map Prod.snd

end LintDispatch.Text
