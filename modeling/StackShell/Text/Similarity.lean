import StackShell.Text.Basic

/-!
# Similar words

How much two words have in common: their longest common block, and again what they have in common
before it and after it. Words are similar if these blocks make up at least three fifths of both
together. It serves to suggest a word in the place of one that is not known.
-/

namespace StackShell.Text

/-- How many characters two rows share at their starts. -/
def sharedStart : List CodePoint → List CodePoint → Nat
  | a :: as, b :: bs => if a == b then sharedStart as bs + 1 else 0
  | _, _ => 0

/-- A block that two rows have in common: where it starts in each, and its size. -/
structure Block where
  first : Nat
  second : Nat
  size : Nat

/-- The longest block that two rows have in common. Of several, it is the one that starts earliest
in the first row, and of those the one that starts earliest in the second. -/
def longestBlock (a b : List CodePoint) : Block :=
  let starts := (List.range a.length).flatMap fun i => (List.range b.length).map fun j => (i, j)
  starts.foldl
    (fun best (i, j) =>
      let size := sharedStart (a.drop i) (b.drop j)
      if size > best.size then ⟨i, j, size⟩ else best)
    ⟨0, 0, 0⟩

/-- How many characters the common blocks of two rows hold, with at most `fuel` nested blocks. -/
def commonWithin : Nat → List CodePoint → List CodePoint → Nat
  | 0, _, _ => 0
  | fuel + 1, a, b =>
    let block := longestBlock a b
    if block.size == 0 then 0
    else
      block.size + commonWithin fuel (a.take block.first) (b.take block.second)
        + commonWithin fuel (a.drop (block.first + block.size)) (b.drop (block.second + block.size))

/-- How many characters the common blocks of two rows hold. -/
def common (a b : List CodePoint) : Nat :=
  commonWithin a.length a b

/-- How similar a candidate is to a word. -/
structure Likeness where
  candidate : Text
  /-- The characters in common blocks. -/
  shared : Nat
  /-- The characters of both together. -/
  total : Nat

/-- How similar a candidate is to a word. -/
def likeness (word candidate : Text) : Likeness :=
  ⟨candidate, common candidate.toList word.toList, candidate.length + word.length⟩

/-- Whether the shared characters make up three fifths. -/
def Likeness.isHigh (l : Likeness) : Bool :=
  10 * l.shared ≥ 3 * l.total

/-- Whether the first of two is at least as similar; among equals the later name goes first. -/
def Likeness.before (a b : Likeness) : Bool :=
  a.shared * b.total > b.shared * a.total
    || (a.shared * b.total == b.shared * a.total && !(a.candidate < b.candidate))

/-- The candidates that are similar to a word, three at most, sorted by name. -/
def similar (word : Text) (candidates : List Text) : List Text :=
  let ranked := ((candidates.map (likeness word)).filter Likeness.isHigh).mergeSort Likeness.before
  ((ranked.take 3).map (·.candidate)).mergeSort fun a b => !(b < a)

end StackShell.Text
