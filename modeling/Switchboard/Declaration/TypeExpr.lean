/-!
# Types in declarations

Types as they are written in the declaration of a service, and their texts without blanks.
-/

namespace Switchboard

inductive TypeExpr
  | path (modules : List String) (name : String) (args : List TypeExpr)
  | lifetime (name : String)
  | reference (lifetime : Option String) (mutable : Bool) (target : TypeExpr)
  | tuple (items : List TypeExpr)
  | never
  | inferred
  | opaqueType (bound : TypeExpr)
  | traitObject (bound : TypeExpr)
  | pointer (mutable : Bool) (target : TypeExpr)
  | function (args : List TypeExpr) (result : Option TypeExpr)
  | parens (inner : TypeExpr)
  /-- A type that a macro hands over as one, with nothing around it to be seen. -/
  | group (inner : TypeExpr)
  | array (item : TypeExpr) (length : String)
  | slice (item : TypeExpr)
  /-- What a call in the place of a type expands to. -/
  | expansion (call : String)
  /-- Tokens of no kind that is known. -/
  | verbatim (tokens : String)
deriving Inhabited

namespace TypeExpr

def named (name : String) : TypeExpr := .path [] name []

mutual

def text : TypeExpr → String
  | path modules name args =>
    String.join (modules.map (· ++ "::")) ++ name
      ++ match args with
        | [] => ""
        | arg :: args => "<" ++ text arg ++ tailText args ++ ">"
  | lifetime name => "'" ++ name
  | reference life mutable target =>
    "&" ++ (match life with
        | some name => "'" ++ name
        | none => "")
      ++ (if mutable then "mut" else "") ++ text target
  | tuple [] => "()"
  | tuple [item] => "(" ++ text item ++ ",)"
  | tuple (item :: items) => "(" ++ text item ++ tailText items ++ ")"
  | never => "!"
  | inferred => "_"
  | opaqueType bound => "impl" ++ text bound
  | traitObject bound => "dyn" ++ text bound
  | pointer mutable target => (if mutable then "*mut" else "*const") ++ text target
  | function args result =>
    "fn(" ++ (match args with
        | [] => ""
        | arg :: args => text arg ++ tailText args)
      ++ ")" ++ match result with
        | some type => "->" ++ text type
        | none => ""
  | parens inner => "(" ++ text inner ++ ")"
  | group inner => text inner
  | array item length => "[" ++ text item ++ ";" ++ length ++ "]"
  | slice item => "[" ++ text item ++ "]"
  | expansion call => call
  | verbatim tokens => tokens

def tailText : List TypeExpr → String
  | [] => ""
  | type :: types => "," ++ text type ++ tailText types

end

def stripped : TypeExpr → TypeExpr
  | parens inner | group inner => inner.stripped
  | type => type

def endsIn (name : String) : TypeExpr → Bool
  | path _ last _ => last == name
  | _ => false

def isSharedReference : TypeExpr → Bool
  | reference _ mutable _ => !mutable
  | _ => false

def extendFirst (text : List Char) : List (List Char) → List (List Char)
  | [] => [text]
  | part :: parts => (text ++ part) :: parts

def moduleParts (depth : Nat) : List Char → List (List Char)
  | [] => [[]]
  | '-' :: '>' :: rest => extendFirst ['-', '>'] (moduleParts depth rest)
  | ':' :: ':' :: rest =>
    if depth = 0 then [] :: moduleParts 0 rest
    else extendFirst [':', ':'] (moduleParts depth rest)
  | '<' :: rest => extendFirst ['<'] (moduleParts (depth + 1) rest)
  | '>' :: rest => extendFirst ['>'] (moduleParts (depth - 1) rest)
  | c :: rest => extendFirst [c] (moduleParts depth rest)

def isNameChar (c : Char) : Bool :=
  c.isAlphanum || c == '_'

def skipBlanks (text : List Char) : List Char :=
  text.dropWhile Char.isWhitespace

/-- A path whose arguments, if there are any, are taken as one. -/
def pathOfText (text : List Char) : TypeExpr :=
  let parts := moduleParts 0 (text.filter (!·.isWhitespace))
  let (name, rest) := (parts.getLastD []).span (· != '<')
  let args := match rest with
    | [] => []
    | _ :: inner => [named (String.ofList inner.dropLast)]
  .path (parts.dropLast.map String.ofList) (String.ofList name) args

def afterWord? (word : List Char) (text : List Char) : Option (List Char) :=
  if word.isPrefixOf text then
    match text.drop word.length with
    | [] => some []
    | c :: rest => if isNameChar c then none else some (c :: rest)
  else none

def lifetimeOfText : List Char → Option String × List Char
  | '\'' :: rest =>
    let (name, rest) := rest.span isNameChar
    (some (String.ofList name), skipBlanks rest)
  | text => (none, text)

/-- The type that a text spells: a path behind references. -/
def ofChars : Nat → List Char → TypeExpr
  | 0, text => pathOfText text
  | fuel + 1, text =>
    match skipBlanks text with
    | ['(', ')'] => .tuple []
    | '&' :: rest =>
      let (life, rest) := lifetimeOfText (skipBlanks rest)
      match afterWord? "mut".toList rest with
      | some rest => .reference life true (ofChars fuel rest)
      | none => .reference life false (ofChars fuel rest)
    | '\'' :: name => .lifetime (String.ofList name)
    | text => pathOfText text

def ofText (text : String) : TypeExpr :=
  ofChars text.length text.toList

def ofReceiver (text : String) : TypeExpr :=
  let self := named "Self"
  let value (rest : List Char) : TypeExpr :=
    let rest := (afterWord? "mut".toList rest).getD rest
    match (skipBlanks rest).dropWhile isNameChar |> skipBlanks with
    | ':' :: rest => ofText (String.ofList rest)
    | _ => self
  match skipBlanks text.toList with
  | '&' :: rest =>
    let (life, rest) := lifetimeOfText (skipBlanks rest)
    .reference life (afterWord? "mut".toList rest).isSome self
  | rest => value rest

end TypeExpr

end Switchboard
