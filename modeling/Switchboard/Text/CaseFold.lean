import Switchboard.Text.CodePointSet
import Switchboard.Text.LetterCase

/-!
# Case folding

Two code points are variants of each other if simple case folding makes them one. That is so for a
letter and its lower-case form, and for a few letters which have more than one lower-case form.
-/

namespace Switchboard.CaseFold

/-- Lower-case letters that fold to another lower-case letter. -/
def lowerVariants : List (Nat × Nat) :=
  [(0xB5, 0x3BC), (0x17F, 0x73), (0x345, 0x3B9), (0x3C2, 0x3C3), (0x3D0, 0x3B2), (0x3D1, 0x3B8),
   (0x3D5, 0x3C6), (0x3D6, 0x3C0), (0x3F0, 0x3BA), (0x3F1, 0x3C1), (0x3F5, 0x3B5), (0x1C80, 0x432),
   (0x1C81, 0x434), (0x1C82, 0x43E), (0x1C83, 0x441), (0x1C84, 0x442), (0x1C85, 0x442),
   (0x1C86, 0x44A), (0x1C87, 0x463), (0x1C88, 0xA64B), (0x1E9B, 0x1E61), (0x1FBE, 0x3B9),
   (0x1FD3, 0x390), (0x1FE3, 0x3B0), (0xFB05, 0xFB06)]

def expand (run : CodePointRun) (image : Nat) : List (Nat × Nat) :=
  (List.range ((run.last - run.first) / run.step + 1)).map fun i =>
    (run.first + i * run.step, image + i * run.step)

def pairs : List (Nat × Nat) :=
  lowerVariants ++ LetterCase.loweringRuns.flatMap fun (run, image) => expand run image

/-- Adds what the members of a set fold to, and then what folds to members. -/
def close (set : CodePointSet) : CodePointSet :=
  let images := pairs.filterMap fun (c, image) => if set.contains c then some image else none
  let withImages := set.union (.ofList images)
  let sources := pairs.filterMap fun (c, image) => if withImages.contains image then some c else none
  withImages.union (.ofList sources)

def closeAscii (set : CodePointSet) : CodePointSet :=
  let letters := List.range 26
  let lower := letters.filterMap fun i => if set.contains (0x41 + i) then some (0x61 + i) else none
  let upper := letters.filterMap fun i => if set.contains (0x61 + i) then some (0x41 + i) else none
  set.union (.ofList (lower ++ upper))

end Switchboard.CaseFold
