import Switchboard.Regex.Tree.Escape

/-!
# Bracketed classes

A class lists characters, ranges and other classes, and may combine them by operators. Operators
bind less than listing does, and all of them alike.
-/

namespace Switchboard.Regex.Class

def pointsBetween (first last : Char) : CodePointSet :=
  ⟨[(first.toNat, last.toNat)]⟩

def lower : CodePointSet := pointsBetween 'a' 'z'

def upper : CodePointSet := pointsBetween 'A' 'Z'

def digit : CodePointSet := pointsBetween '0' '9'

def letter : CodePointSet := lower.union upper

def word : CodePointSet := .unions [letter, digit, .ofChars "_"]

def space : CodePointSet := .ofChars "\t\n\x0b\x0c\r "

def asciiClasses : List (String × CodePointSet) :=
  [("alnum", letter.union digit), ("alpha", letter), ("ascii", .ascii), ("blank", .ofChars "\t "),
   ("cntrl", ⟨[(0, 0x1F), (0x7F, 0x7F)]⟩), ("digit", digit), ("graph", pointsBetween '!' '~'),
   ("lower", lower), ("print", pointsBetween ' ' '~'),
   ("punct", (pointsBetween '!' '~').diff (letter.union digit)), ("space", space),
   ("upper", upper), ("word", word),
   ("xdigit", .unions [digit, pointsBetween 'A' 'F', pointsBetween 'a' 'f'])]

def readAscii? (cs : List Char) : Option (ClassTree × List Char) :=
  match cs with
  | ':' :: rest =>
    let (negated, rest) := match rest with
      | '^' :: rest => (true, rest)
      | rest => (false, rest)
    match rest.dropWhile (· != ':') with
    | ':' :: ']' :: after =>
      let name := String.ofList (rest.takeWhile (· != ':'))
      (asciiClasses.lookup name).map fun members => (.ascii members negated, after)
    | _ => none
  | _ => none

def readMember (spaced : Bool) : List Char → Option (Atom × List Char)
  | [] => none
  | '\\' :: rest => Escape.read spaced rest
  | c :: rest => some (.literal { char := c }, rest)

def item? : Atom → Option ClassTree
  | .literal literal => some (.literal literal)
  | .shorthand shorthand negated => some (.shorthand shorthand negated)
  | .property members negated => some (.property members negated)
  | .dot | .assertion _ => none

def range? : Atom → Atom → Option ClassTree
  | .literal first, .literal last =>
    if first.char ≤ last.char then some (.range first last) else none
  | _, _ => none

/-- A member, or a range if a hyphen follows which neither a bracket nor a hyphen follows. -/
def readItem (spaced : Bool) (cs : List Char) : Option (ClassTree × List Char) := do
  let (first, rest) ← readMember spaced cs
  match skip spaced rest with
  | '-' :: after =>
    let next := peek spaced after
    if next == some ']' || next == some '-' then some (← item? first, '-' :: after)
    else
      let (last, rest) ← readMember spaced (skip spaced after)
      some (← range? first last, rest)
  | rest => some (← item? first, rest)

/-- The beginning of a class: whether it is negated, and the hyphens, or else the closing bracket,
that stand for themselves. -/
def readOpening (spaced : Bool) (cs : List Char) : Bool × List ClassTree × List Char :=
  let (negated, cs) := match skip spaced cs with
    | '^' :: rest => (true, skip spaced rest)
    | cs => (false, cs)
  match span spaced (· == '-') cs with
  | ([], ']' :: rest) => (negated, [.literal { char := ']' }], skip spaced rest)
  | (hyphens, rest) => (negated, hyphens.map fun char => .literal { char }, rest)

def complete (left : Option (ClassTree × SetOperator)) (items : List ClassTree) : ClassTree :=
  let right := ClassTree.ofItems items.reverse
  match left with
  | some (left, operator) => .operation operator left right
  | none => right

/-- Reads a class from its items on to its closing bracket. Every step takes at least one
character, so that the text's length is fuel enough. -/
def readBody (spaced : Bool) : Nat → Option (ClassTree × SetOperator) → List ClassTree →
    List Char → Option (ClassTree × List Char)
  | 0, _, _, _ => none
  | fuel + 1, left, items, cs =>
    let operate (operator : SetOperator) (rest : List Char) :=
      readBody spaced fuel (some (complete left items, operator)) [] rest
    match skip spaced cs with
    | [] => none
    | ']' :: rest => some (complete left items, rest)
    | '&' :: '&' :: rest => operate .inter rest
    | '-' :: '-' :: rest => operate .diff rest
    | '~' :: '~' :: rest => operate .symmDiff rest
    | '[' :: rest =>
      match readAscii? rest with
      | some (item, rest) => readBody spaced fuel left (item :: items) rest
      | none => do
        let (negated, initial, rest) := readOpening spaced rest
        let (body, rest) ← readBody spaced fuel none initial.reverse rest
        readBody spaced fuel left (.bracketed negated body :: items) rest
    | rest => do
      let (item, rest) ← readItem spaced rest
      readBody spaced fuel left (item :: items) rest

def read (spaced : Bool) (cs : List Char) : Option (Tree × List Char) := do
  let (negated, initial, rest) := readOpening spaced cs
  let (body, rest) ← readBody spaced (rest.length + 1) none initial.reverse rest
  some (.bracketed negated body, rest)

end Switchboard.Regex.Class
