import Switchboard.Text.Property

/-!
# Blanks in patterns

In a spaced pattern blanks do not count, and a number sign begins a comment up to the end of the
line.
-/

namespace Switchboard.Regex

def isBlank (c : Char) : Bool :=
  CodePointSet.whitespace.contains c.toNat

def skipFrom (inComment : Bool) : List Char → List Char
  | [] => []
  | c :: rest =>
    if inComment then skipFrom (c != '\n') rest
    else if isBlank c then skipFrom false rest
    else if c == '#' then skipFrom true rest
    else c :: rest

def skip (spaced : Bool) (cs : List Char) : List Char :=
  if spaced then skipFrom false cs else cs

def spanFrom (spaced : Bool) (isChosen : Char → Bool) (inComment : Bool) :
    List Char → List Char × List Char
  | [] => ([], [])
  | c :: rest =>
    if inComment then spanFrom spaced isChosen (c != '\n') rest
    else if spaced && isBlank c then spanFrom spaced isChosen false rest
    else if spaced && c == '#' then spanFrom spaced isChosen true rest
    else if isChosen c then
      let (chosen, rest) := spanFrom spaced isChosen false rest
      (c :: chosen, rest)
    else ([], c :: rest)

def span (spaced : Bool) (isChosen : Char → Bool) (cs : List Char) : List Char × List Char :=
  spanFrom spaced isChosen false cs

def spanBrace? (spaced : Bool) (cs : List Char) : Option (List Char × List Char) :=
  match span spaced (· != '\x7d') cs with
  | (chosen, _ :: rest) => some (chosen, rest)
  | (_, []) => none

/-- The character that a class looks at after a hyphen. A comment hides only its number sign. -/
def peek (spaced : Bool) (cs : List Char) : Option Char :=
  if spaced then
    match cs.dropWhile isBlank with
    | '#' :: rest => (rest.dropWhile isBlank).head?
    | rest => rest.head?
  else cs.head?

end Switchboard.Regex
