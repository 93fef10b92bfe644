import Switchboard.Regex.Expr

/-!
# Sizes of regular expressions

How much room the automaton of an expression takes, in bytes. Counted repetitions multiply it, so an
expression that is short as a text can be too big to be used.
-/

namespace Switchboard.Regex

namespace Utf8

/-- Cuts an interval where the encodings of code points get longer, and takes out the surrogates,
which have no encoding. -/
def cutByLength (interval : Nat × Nat) : List (Nat × Nat) :=
  [(0, 0x7F), (0x80, 0x7FF), (0x800, 0xD7FF), (0xE000, 0xFFFF), (0x10000, 0x10FFFF)].filterMap
    fun (first, last) =>
      let cut := (max first interval.1, min last interval.2)
      if cut.1 ≤ cut.2 then some cut else none

/-- Cuts an interval that reaches over several blocks of a size into its whole blocks and what lies
before and after them. -/
def cutByBlock (size : Nat) (interval : Nat × Nat) : List (Nat × Nat) :=
  let (first, last) := interval
  if first / size = last / size then [interval]
  else
    let wholeFirst := (first + size - 1) / size * size
    let wholeEnd := (last + 1) / size * size
    [(first, wholeFirst - 1), (wholeFirst, wholeEnd - 1), (wholeEnd, last)].filter fun cut =>
      cut.1 ≤ cut.2

def bytes (c : Nat) : List Nat :=
  if c < 0x80 then [c]
  else if c < 0x800 then [0xC0 + c / 0x40, 0x80 + c % 0x40]
  else if c < 0x10000 then [0xE0 + c / 0x1000, 0x80 + c / 0x40 % 0x40, 0x80 + c % 0x40]
  else
    [0xF0 + c / 0x40000, 0x80 + c / 0x1000 % 0x40, 0x80 + c / 0x40 % 0x40, 0x80 + c % 0x40]

/-- The ranges of bytes whose sequences are the encodings of an interval. -/
def sequences (interval : Nat × Nat) : List (List (Nat × Nat)) :=
  let byLength := cutByLength interval
  let aligned := byLength.flatMap fun cut =>
    if cut.2 < 0x80 then [cut]
    else ((cutByBlock 0x40 cut).flatMap (cutByBlock 0x1000)).flatMap (cutByBlock 0x40000)
  aligned.map fun (first, last) => (bytes first).zip (bytes last)

/-- How many ranges of sequences are new where a sequence shares the beginning of the one before. -/
def countNew (previous : List (Nat × Nat)) : List (List (Nat × Nat)) → Nat
  | [] => 0
  | sequence :: rest =>
    let common := ((previous.zip sequence).takeWhile fun (a, b) => a == b).length
    sequence.length - common + countNew sequence rest

end Utf8

def stateSize : Nat := 32

def referenceSize : Nat := 4

def rangeSize : Nat := 8

/-- The size of a set whose code points are told apart byte by byte, as a tree of ranges. -/
def treeSize (set : CodePointSet) : Nat :=
  let sequences := set.intervals.flatMap Utf8.sequences
  stateSize * (2 + Utf8.countNew [] sequences) + referenceSize * sequences.length

/-- The size of a set: a single character is a chain of bytes, and ASCII characters are ranges in
one state. -/
def setSize (set : CodePointSet) : Nat :=
  match set.intervals with
  | [] => stateSize
  | [(first, last)] =>
    if first = last then stateSize * (Utf8.bytes first).length
    else if set.isAscii then 2 * stateSize + rangeSize
    else treeSize set
  | intervals =>
    if set.isAscii then 2 * stateSize + rangeSize * intervals.length else treeSize set

namespace Expr

mutual

/-- The size of an expression. A group takes a state where it begins and one where it ends, and
what may be left out or repeated takes a state that leads to two others. -/
def size : Expr → Nat
  | empty => stateSize
  | set members => setSize members
  | look _ => stateSize
  | capture body => 2 * stateSize + body.size
  | alternation branches =>
    2 * stateSize + referenceSize * branches.length + sizeOfAll branches
  | concat items => sizeOfAll items
  | repetition least most body =>
    let fork := stateSize + 2 * referenceSize
    let once := body.size
    match most with
    | none => fork + max least 1 * once
    | some most =>
      if most = least then least * once
      else stateSize + least * once + (most - least) * (fork + once)

def sizeOfAll : List Expr → Nat
  | [] => 0
  | expr :: exprs => expr.size + sizeOfAll exprs

end

end Expr

end Switchboard.Regex
