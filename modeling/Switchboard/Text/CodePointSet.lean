/-!
# Sets of code points

A set of code points is a list of closed intervals. The operations keep the intervals in ascending
order with a gap between each two, so that a set is written in one way only.
-/

namespace Switchboard

/-- The code points from the first to the second number of each pair. -/
structure CodePointSet where
  intervals : List (Nat × Nat)
deriving DecidableEq, Repr

namespace CodePointSet

def empty : CodePointSet := ⟨[]⟩

def singleton (c : Nat) : CodePointSet := ⟨[(c, c)]⟩

def contains (set : CodePointSet) (c : Nat) : Bool :=
  set.intervals.any fun (first, last) => first ≤ c && c ≤ last

def joinFrom (first last : Nat) : List (Nat × Nat) → List (Nat × Nat)
  | [] => [(first, last)]
  | (nextFirst, nextLast) :: rest =>
    if nextFirst ≤ last + 1 then joinFrom first (max last nextLast) rest
    else (first, last) :: joinFrom nextFirst nextLast rest

def ofIntervals (intervals : List (Nat × Nat)) : CodePointSet :=
  match intervals.mergeSort (fun a b => a.1 ≤ b.1) with
  | [] => empty
  | (first, last) :: rest => ⟨joinFrom first last rest⟩

def ofList (points : List Nat) : CodePointSet :=
  ofIntervals (points.map fun c => (c, c))

def ofChars (text : String) : CodePointSet :=
  ofList (text.toList.map Char.toNat)

def maximum : Nat := 0x10FFFF

def all : CodePointSet := ⟨[(0, maximum)]⟩

def ascii : CodePointSet := ⟨[(0, 0x7F)]⟩

def gapsFrom (next : Nat) : List (Nat × Nat) → List (Nat × Nat)
  | [] => if next ≤ maximum then [(next, maximum)] else []
  | (first, last) :: rest =>
    if next < first then (next, first - 1) :: gapsFrom (last + 1) rest
    else gapsFrom (last + 1) rest

def complement (set : CodePointSet) : CodePointSet :=
  ⟨gapsFrom 0 set.intervals⟩

def union (a b : CodePointSet) : CodePointSet :=
  ofIntervals (a.intervals ++ b.intervals)

def unions (sets : List CodePointSet) : CodePointSet :=
  ofIntervals (sets.flatMap intervals)

def inter (a b : CodePointSet) : CodePointSet :=
  complement (union a.complement b.complement)

def diff (a b : CodePointSet) : CodePointSet :=
  inter a b.complement

def symmDiff (a b : CodePointSet) : CodePointSet :=
  union (diff a b) (diff b a)

def isAscii (set : CodePointSet) : Bool :=
  set.intervals.all fun (_, last) => last ≤ 0x7F

def tableDigit? (c : Char) : Option Nat :=
  if '0' ≤ c ∧ c ≤ '9' then some (c.toNat - '0'.toNat)
  else if 'a' ≤ c ∧ c ≤ 'f' then some (c.toNat - 'a'.toNat + 10)
  else none

def readNumbers (current : Option Nat) : List Char → List Nat
  | [] => current.toList
  | c :: rest =>
    match tableDigit? c with
    | some digit => readNumbers (some (16 * current.getD 0 + digit)) rest
    | none => current.toList ++ readNumbers none rest

/-- The intervals that numbers describe from a code point on: how many code points are left out,
how many more than one follow, and so on in turn. -/
def intervalsFrom (next : Nat) : List Nat → List (Nat × Nat)
  | gap :: extent :: rest =>
    (next + gap, next + gap + extent) :: intervalsFrom (next + gap + extent + 1) rest
  | _ => []

def ofTable (text : String) : CodePointSet :=
  ⟨intervalsFrom 0 (readNumbers none text.toList)⟩

end CodePointSet

end Switchboard
