import Switchboard.Regex.Tree
import Switchboard.Regex.Tree.Blank

/-!
# Escapes

What a backslash begins: a character by its number or letter, an assertion, or a class.
-/

namespace Switchboard.Regex.Escape

def hexValue? (c : Char) : Option Nat :=
  if '0' ≤ c ∧ c ≤ '9' then some (c.toNat - '0'.toNat)
  else if 'a' ≤ c ∧ c ≤ 'f' then some (c.toNat - 'a'.toNat + 10)
  else if 'A' ≤ c ∧ c ≤ 'F' then some (c.toNat - 'A'.toNat + 10)
  else none

def scalar? (n : Nat) : Option Char :=
  if n.isValidChar then some (Char.ofNat n) else none

def readDigits (spaced : Bool) (value : Nat) : Nat → List Char → Option (Nat × List Char)
  | 0, cs => some (value, cs)
  | _ + 1, [] => none
  | count + 1, c :: rest => do
    readDigits spaced (16 * value + (← hexValue? c)) count (skip spaced rest)

def readBraced (spaced : Bool) (cs : List Char) : Option (Char × List Char) := do
  let (digits, rest) ← spanBrace? spaced cs
  if digits.isEmpty then none
  else
    let values ← digits.mapM hexValue?
    some (← scalar? (values.foldl (16 * · + ·) 0), rest)

def readNumber (spaced : Bool) (count : Nat) (cs : List Char) : Option (Atom × List Char) :=
  match skip spaced cs with
  | '\x7b' :: rest => do
    let (char, rest) ← readBraced spaced rest
    some (.literal { char }, rest)
  | rest => do
    let (value, rest) ← readDigits spaced 0 count rest
    let char ← scalar? value
    some (.literal { char, isByte := count == 2 }, rest)

def splitAt? (mark : List Char) : List Char → Option (List Char × List Char)
  | [] => none
  | c :: rest =>
    if mark.isPrefixOf (c :: rest) then some ([], (c :: rest).drop mark.length)
    else (splitAt? mark rest).map fun (before, after) => (c :: before, after)

/-- The code points with a property, which is a name, or a name and a value. The second component
tells whether the value is the one to avoid. -/
def namedProperty? (name : List Char) : Option (CodePointSet × Bool) :=
  let withValue (parts : List Char × List Char) :=
    Property.withValue? (String.ofList parts.1) (String.ofList parts.2)
  match splitAt? ['!', '='] name with
  | some parts => (withValue parts).map (·, true)
  | none =>
    match splitAt? [':'] name <|> splitAt? ['='] name with
    | some parts => (withValue parts).map (·, false)
    | none => (Property.named? (String.ofList name)).map (·, false)

def readProperty (spaced negated : Bool) (cs : List Char) : Option (Atom × List Char) :=
  match skip spaced cs with
  | [] => none
  | '\\' :: _ => none
  | '\x7b' :: rest => do
    let (name, rest) ← spanBrace? spaced rest
    let (members, avoided) ← namedProperty? name
    some (.property members (negated != avoided), rest)
  | c :: rest => do
    some (.property (← Property.named? (String.singleton c)) negated, rest)

def wordEdge? (name : String) : Option WordEdge :=
  match name with
  | "start" => some .start
  | "end" => some .finish
  | "start-half" => some .startHalf
  | "end-half" => some .finishHalf
  | _ => none

/-- A word boundary after its letter. Braces that begin with a letter or a hyphen name an edge;
others are a repetition and are left. -/
def readBoundary (spaced : Bool) (cs : List Char) : Option (Atom × List Char) :=
  match cs with
  | '\x7b' :: rest =>
    match skip spaced rest with
    | [] => none
    | c :: more =>
      if c.isAlpha || c == '-' then do
        let (name, rest) ← spanBrace? spaced (c :: more)
        some (.assertion (.word (← wordEdge? (String.ofList name))), rest)
      else some (.assertion (.word .boundary), cs)
  | _ => some (.assertion (.word .boundary), cs)

def control? : Char → Option Char
  | 'a' => some '\x07'
  | 'f' => some '\x0c'
  | 'n' => some '\n'
  | 'r' => some '\r'
  | 't' => some '\t'
  | 'v' => some '\x0b'
  | _ => none

/-- Whether a character after a backslash stands for itself: the ASCII characters do that are
neither letters nor digits nor angle brackets. -/
def isPlain (c : Char) : Bool :=
  c.toNat < 0x80 && !c.isAlphanum && c != '<' && c != '>'

def read (spaced : Bool) : List Char → Option (Atom × List Char)
  | [] => none
  | c :: rest =>
    match c with
    | 'x' => readNumber spaced 2 rest
    | 'u' => readNumber spaced 4 rest
    | 'U' => readNumber spaced 8 rest
    | 'p' => readProperty spaced false rest
    | 'P' => readProperty spaced true rest
    | 'd' => some (.shorthand .digit false, rest)
    | 'D' => some (.shorthand .digit true, rest)
    | 's' => some (.shorthand .space false, rest)
    | 'S' => some (.shorthand .space true, rest)
    | 'w' => some (.shorthand .word false, rest)
    | 'W' => some (.shorthand .word true, rest)
    | 'A' => some (.assertion .textStart, rest)
    | 'z' => some (.assertion .textEnd, rest)
    | 'b' => readBoundary spaced rest
    | 'B' => some (.assertion (.word .interior), rest)
    | '<' => some (.assertion (.word .start), rest)
    | '>' => some (.assertion (.word .finish), rest)
    | c =>
      if isPlain c then some (.literal { char := c }, rest)
      else (control? c).map fun char => (.literal { char }, rest)

end Switchboard.Regex.Escape
