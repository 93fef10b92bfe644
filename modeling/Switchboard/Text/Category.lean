import Switchboard.Text.CategoryTable
import Switchboard.Text.CodePointRun
import Switchboard.Text.CodePointSet

/-!
# General categories

The Unicode general category of a code point, and the classes of characters that printing needs.
-/

namespace Switchboard

/-- A general category by its two letters: `⟨'L', 'u'⟩` for upper-case letters. -/
structure Category where
  major : Char
  minor : Char
deriving DecidableEq, Repr

namespace Category

def readRuns (length : Nat) : List Char → List (Nat × Category)
  | [] => []
  | [_] => []
  | a :: b :: rest =>
    match CodePointSet.tableDigit? a with
    | some d => readRuns (16 * length + d) (b :: rest)
    | none => (if length = 0 then 1 else length, ⟨a, b⟩) :: readRuns 0 rest

/-- The categories of all code points as lengths of runs. -/
def runs : List (Nat × Category) :=
  readRuns 0 (tableLines.flatMap String.toList)

def atOffset (c : Nat) : List (Nat × Category) → Category
  | [] => ⟨'C', 'n'⟩
  | (length, category) :: rest => if c < length then category else atOffset (c - length) rest

def ofChar (c : Char) : Category :=
  atOffset c.toNat runs

def intervalsFrom (isChosen : Category → Bool) (next : Nat) :
    List (Nat × Category) → List (Nat × Nat)
  | [] => []
  | (length, category) :: rest =>
    if isChosen category then
      (next, next + length - 1) :: intervalsFrom isChosen (next + length) rest
    else intervalsFrom isChosen (next + length) rest

def members (isChosen : Category → Bool) : CodePointSet :=
  .ofIntervals (intervalsFrom isChosen 0 runs)

def extraExtenders : List CodePointRun :=
  [⟨0x9BE, 0x9BE, 1⟩, ⟨0x9D7, 0x9D7, 1⟩, ⟨0xB3E, 0xB3E, 1⟩, ⟨0xB57, 0xB57, 1⟩, ⟨0xBBE, 0xBBE, 1⟩,
   ⟨0xBD7, 0xBD7, 1⟩, ⟨0xCC0, 0xCC2, 2⟩, ⟨0xCC7, 0xCC8, 1⟩, ⟨0xCCA, 0xCCB, 1⟩, ⟨0xCD5, 0xCD6, 1⟩,
   ⟨0xD3E, 0xD3E, 1⟩, ⟨0xD57, 0xD57, 1⟩, ⟨0xDCF, 0xDCF, 1⟩, ⟨0xDDF, 0xDDF, 1⟩,
   ⟨0x1715, 0x1715, 1⟩, ⟨0x1734, 0x1734, 1⟩, ⟨0x1B35, 0x1B35, 1⟩, ⟨0x1B3B, 0x1B3D, 2⟩,
   ⟨0x1B43, 0x1B44, 1⟩, ⟨0x1BAA, 0x1BAA, 1⟩, ⟨0x1BF2, 0x1BF3, 1⟩, ⟨0x200C, 0x200C, 1⟩,
   ⟨0x302E, 0x302F, 1⟩, ⟨0xA953, 0xA953, 1⟩, ⟨0xA9C0, 0xA9C0, 1⟩, ⟨0xFF9E, 0xFF9F, 1⟩,
   ⟨0x111C0, 0x111C0, 1⟩, ⟨0x11235, 0x11235, 1⟩, ⟨0x1133E, 0x1133E, 1⟩, ⟨0x1134D, 0x1134D, 1⟩,
   ⟨0x11357, 0x11357, 1⟩, ⟨0x113B8, 0x113B8, 1⟩, ⟨0x113C2, 0x113C2, 1⟩, ⟨0x113C5, 0x113C5, 1⟩,
   ⟨0x113C7, 0x113C9, 1⟩, ⟨0x113CF, 0x113CF, 1⟩, ⟨0x114B0, 0x114B0, 1⟩, ⟨0x114BD, 0x114BD, 1⟩,
   ⟨0x115AF, 0x115AF, 1⟩, ⟨0x116B6, 0x116B6, 1⟩, ⟨0x11930, 0x11930, 1⟩, ⟨0x1193D, 0x1193D, 1⟩,
   ⟨0x11F41, 0x11F41, 1⟩, ⟨0x16FF0, 0x16FF1, 1⟩, ⟨0x1D165, 0x1D166, 1⟩, ⟨0x1D16D, 0x1D172, 1⟩,
   ⟨0xE0020, 0xE007F, 1⟩]

def isExtender (c : Char) : Bool :=
  let category := ofChar c
  category == ⟨'M', 'n'⟩ || category == ⟨'M', 'e'⟩ || extraExtenders.any (·.covers c.toNat)

/-- Whether a character has a glyph of its own: it is assigned, and is neither a control, format,
surrogate or private character nor a separator other than the space. -/
def isPrintable (c : Char) : Bool :=
  let category := ofChar c
  c == ' ' || !(category.major == 'C' || category.major == 'Z')

end Category

end Switchboard
