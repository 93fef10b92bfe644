/-!
# Attributes in declarations

What an attribute says in its parentheses is a list of items: a key that stands alone, has a value
after an equals sign, or has values in parentheses of its own.
-/

namespace Switchboard

inductive Literal
  | string (value : String)
  | other
deriving DecidableEq, Repr

inductive Assigned
  | nothing
  | value (literal : Literal)
  | group (literals : List Literal)
deriving DecidableEq, Repr

structure AttributeItem where
  key : String
  assigned : Assigned := .nothing
deriving DecidableEq, Repr

structure Attribute where
  path : String
  items : Option (List AttributeItem) := none
deriving DecidableEq, Repr

inductive AttributeError
  | argumentsExpected (path : String)
  | keyExpected (description : String)
  | equalsExpected
  | stringExpected
  | commaExpected
  | parenthesesExpected (atEnd : Bool)
deriving DecidableEq, Repr

namespace AttributeError

def message : AttributeError → String
  | argumentsExpected path =>
    "expected attribute arguments in parentheses: #[" ++ path ++ "(...)]"
  | keyExpected description => "expected " ++ description
  | equalsExpected => "expected \x60=\x60"
  | stringExpected => "expected string literal"
  | commaExpected => "expected \x60,\x60"
  | parenthesesExpected false => "expected parentheses"
  | parenthesesExpected true => "unexpected end of input, expected parentheses"

end AttributeError

/-- Reads an item into what was read before it; knows whether the item is the last. -/
abbrev ItemReader (α : Type) := Bool → AttributeItem → α → Except AttributeError α

namespace Attribute

def readItems (reader : ItemReader α) : List AttributeItem → α → Except AttributeError α
  | [], value => .ok value
  | item :: items, value => do readItems reader items (← reader items.isEmpty item value)

def read (reader : ItemReader α) (attr : Attribute) (value : α) : Except AttributeError α :=
  match attr.items with
  | none => .error (.argumentsExpected attr.path)
  | some items => readItems reader items value

end Attribute

namespace Literal

def string? : Literal → Except AttributeError String
  | string value => .ok value
  | other => .error .stringExpected

end Literal

namespace Assigned

def nothing? : Assigned → Except AttributeError Unit
  | nothing => .ok ()
  | value _ | group _ => .error .commaExpected

def string? : Assigned → Except AttributeError String
  | value literal => literal.string?
  | nothing | group _ => .error .equalsExpected

def strings? (isLast : Bool) : Assigned → Except AttributeError (List String)
  | group literals => literals.mapM Literal.string?
  | nothing => .error (.parenthesesExpected isLast)
  | value _ => .error (.parenthesesExpected false)

end Assigned

end Switchboard
