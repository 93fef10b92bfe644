import Switchboard.Json.Record

/-!
# Codecs

How values of a type are taken from JSON values, turned into JSON values, and written as text.
-/

namespace Switchboard

structure Codec (α : Type) where
  typeName : String
  decode : Json → Except Json.Error α
  encode : α → Except Json.Error Json
  /-- The text of a value in its own type, which may tell apart what JSON values do not. -/
  text : α → List Char

namespace Json

def found : Json → Found
  | null => .null
  | bool b => .bool b
  | whole n => .whole n.val
  | float x => .float x
  | string s => .string s
  | array _ => .sequence
  | object _ => .map

def wrongType (value : Json) (expected : String) : Error :=
  .ofCause (.invalidType value.found expected)

end Json

structure IntType where
  name : String
  least : Int
  greatest : Int

namespace IntType

def signed (name : String) (bits : Nat) : IntType :=
  let half : Int := (1 <<< (bits - 1) : Nat)
  ⟨name, -half, half - 1⟩

def unsigned (name : String) (bits : Nat) : IntType := ⟨name, 0, (1 <<< bits : Nat) - 1⟩

def i8 : IntType := signed "i8" 8
def i16 : IntType := signed "i16" 16
def i32 : IntType := signed "i32" 32
def i64 : IntType := signed "i64" 64
def i128 : IntType := signed "i128" 128
def isize : IntType := signed "isize" 64
def u8 : IntType := unsigned "u8" 8
def u16 : IntType := unsigned "u16" 16
def u32 : IntType := unsigned "u32" 32
def u64 : IntType := unsigned "u64" 64
def u128 : IntType := unsigned "u128" 128
def usize : IntType := unsigned "usize" 64

def holds (type : IntType) (n : Int) : Bool :=
  type.least ≤ n && n ≤ type.greatest

end IntType

namespace Codec

open Json (Error wrongType)

def bool : Codec Bool where
  typeName := "bool"
  decode
    | .bool b => .ok b
    | other => .error (wrongType other "a boolean")
  encode b := .ok (.bool b)
  text b := (Json.bool b).print

def int (type : IntType) : Codec Int where
  typeName := type.name
  decode
    | .whole n =>
      if type.holds n.val then .ok n.val
      else .error (.ofCause (.invalidValue (.whole n.val) type.name))
    | other => .error (wrongType other type.name)
  encode n := match Whole.ofInt? n with
    | some n => .ok (.whole n)
    | none => .error (.ofCause .numberOutOfRange)
  text := Json.wholeText

def decodeFloat (format : FloatFormat) (name : String) : Json → Except Error Floating
  | .whole n => .ok (Floating.ofInt format n.val)
  | .float x => .ok (x.convert format)
  | other => .error (wrongType other name)

def encodeFloat (x : Floating) : Except Error Json :=
  .ok (if x.isFinite then .float x else .null)

def double : Codec Floating where
  typeName := "f64"
  decode := decodeFloat .double "f64"
  encode := encodeFloat
  text := Json.floatText Json.doubleLayout .double

/-- Numbers of 32 bits are the same numbers as JSON values, but have shorter texts. -/
def single : Codec Floating where
  typeName := "f32"
  decode := decodeFloat .single "f32"
  encode x := encodeFloat (x.convert .double)
  text := Json.floatText Json.singleLayout .single

def char : Codec Char where
  typeName := "char"
  decode
    | .string s => match s.toList with
      | [c] => .ok c
      | _ => .error (.ofCause (.invalidValue (.string s) "a character"))
    | other => .error (wrongType other "a character")
  encode c := .ok (.string c.toString)
  text c := Json.stringText [c]

def string : Codec String where
  typeName := "alloc::string::String"
  decode
    | .string s => .ok s
    | other => .error (wrongType other "a string")
  encode s := .ok (.string s)
  text s := Json.stringText s.toList

def value : Codec Json where
  typeName := "serde_json::value::Value"
  decode := .ok
  encode := .ok
  text := Json.print

def unit : Codec Unit where
  typeName := "()"
  decode
    | .null => .ok ()
    | other => .error (wrongType other "unit")
  encode _ := .ok .null
  text _ := Json.nullText

def option (item : Codec α) : Codec (Option α) where
  typeName := "core::option::Option<" ++ item.typeName ++ ">"
  decode
    | .null => .ok none
    | other => some <$> item.decode other
  encode
    | none => .ok .null
    | some a => item.encode a
  text
    | none => Json.nullText
    | some a => item.text a

def listText (left right : Char) (texts : List (List Char)) : List Char :=
  left :: ([','].intercalate texts ++ [right])

def list (item : Codec α) : Codec (List α) where
  typeName := "alloc::vec::Vec<" ++ item.typeName ++ ">"
  decode
    | .array items => items.mapM item.decode
    | other => .error (wrongType other "a sequence")
  encode as := Json.array <$> as.mapM item.encode
  text as := listText '[' ']' (as.map item.text)

def leftOver (length : Nat) : Error :=
  .ofCause (.invalidLength length "fewer elements in array")

def vector (count : Nat) (item : Codec α) : Codec (List α) where
  typeName := "[" ++ item.typeName ++ "; " ++ Nat.repr count ++ "]"
  decode
    | .array items => do
      let as ← (items.take count).mapM item.decode
      if items.length < count then
        .error (.ofCause (.invalidLength items.length ("an array of length " ++ Nat.repr count)))
      else if count < items.length then .error (leftOver items.length)
      else .ok as
    | other => .error (wrongType other ("an array of length " ++ Nat.repr count))
  encode as := Json.array <$> as.mapM item.encode
  text as := listText '[' ']' (as.map item.text)

def decodeTwo (first : Codec α) (second : Codec β) (expected : String) :
    List Json → Except Error (α × β)
  | [] => .error (.ofCause (.invalidLength 0 expected))
  | a :: rest => do
    let a ← first.decode a
    match rest with
    | [] => .error (.ofCause (.invalidLength 1 expected))
    | b :: rest =>
      let b ← second.decode b
      if rest.isEmpty then .ok (a, b) else .error (leftOver (rest.length + 2))

def pair (first : Codec α) (second : Codec β) : Codec (α × β) where
  typeName := "(" ++ first.typeName ++ ", " ++ second.typeName ++ ")"
  decode
    | .array items => decodeTwo first second "a tuple of size 2" items
    | other => .error (wrongType other "a tuple of size 2")
  encode | (a, b) => do .ok (.array [← first.encode a, ← second.encode b])
  text | (a, b) => listText '[' ']' [first.text a, second.text b]

structure Member (α : Type) where
  name : String
  codec : Codec α

/-- A record of two members, which is read from an object with at least these, or from an array of
their values. -/
def record (typeName : String) (first : Member α) (second : Member β) : Codec (α × β) where
  typeName := typeName
  decode
    | .array items =>
      decodeTwo first.codec second.codec ("struct " ++ typeName ++ " with 2 elements") items
    | .object members => do
      let step := fun (a, b) (name, value) =>
        if name = first.name then do .ok (some (← first.codec.decode value), b)
        else if name = second.name then do .ok (a, some (← second.codec.decode value))
        else .ok (a, b)
      match ← members.foldlM step (none, none) with
      | (some a, some b) => .ok (a, b)
      | (none, _) => .error (.ofCause (.missingField first.name))
      | (_, none) => .error (.ofCause (.missingField second.name))
    | other => .error (wrongType other ("struct " ++ typeName))
  encode | (a, b) => do
    .ok (.ofMembers [(first.name, ← first.codec.encode a), (second.name, ← second.codec.encode b)])
  text | (a, b) => listText '\x7b' '\x7d' [
    Json.stringText first.name.toList ++ ':' :: first.codec.text a,
    Json.stringText second.name.toList ++ ':' :: second.codec.text b]

structure Key (κ : Type) where
  typeName : String
  read : String → Except Error κ
  name? : κ → Option String
  before : κ → κ → Bool

namespace Key

def string : Key String where
  typeName := "alloc::string::String"
  read := .ok
  name? := some
  before a b := a < b

def int (type : IntType) : Key Int where
  typeName := type.name
  read name :=
    let bytes := name.toUTF8.toList
    let starts := match bytes with
      | b :: _ => b == 45 || Json.isDigit b
      | [] => false
    if starts then
      match Json.readInt type.name type.least type.greatest bytes with
      | .ok (n, []) => .ok n
      | .ok _ => .error (.ofCause .keyMustBeNumber)
      | .error fault => .error (fault.toError bytes)
    else .error (.ofCause .keyMustBeNumber)
  name? n := some (String.ofList (Json.wholeText n))
  before a b := a < b

def char : Key Char where
  typeName := "char"
  read name := Codec.char.decode (.string name)
  name? c := some c.toString
  before a b := a < b

def option (key : Key κ) : Key (Option κ) where
  typeName := "core::option::Option<" ++ key.typeName ++ ">"
  read name := some <$> key.read name
  name? _ := none
  before
    | none, some _ => true
    | some a, some b => key.before a b
    | _, none => false

def insert (key : Key κ) (k : κ) (value : α) : List (κ × α) → List (κ × α)
  | [] => [(k, value)]
  | (other, held) :: rest =>
    if key.before k other then (k, value) :: (other, held) :: rest
    else if key.before other k then (other, held) :: insert key k value rest
    else (k, value) :: rest

end Key

def map (typeName : String) (key : Key κ) (item : Codec α) : Codec (List (κ × α)) where
  typeName := typeName ++ "<" ++ key.typeName ++ ", " ++ item.typeName ++ ">"
  decode
    | .object members => do
      let entries ← members.mapM fun (name, value) => do
        let k ← key.read name
        let a ← item.decode value
        .ok (k, a)
      .ok (entries.foldl (fun kept (k, a) => key.insert k a kept) [])
    | other => .error (wrongType other "a map")
  encode entries := do
    let members ← entries.mapM fun (k, a) =>
      match key.name? k with
      | none => .error (.ofCause .keyMustBeString)
      | some name => do .ok (name, ← item.encode a)
    .ok (.ofMembers members)
  text entries := listText '\x7b' '\x7d' <| entries.map fun (k, a) =>
    Json.stringText ((key.name? k).getD "").toList ++ ':' :: item.text a

def sortedMap (key : Key κ) (item : Codec α) : Codec (List (κ × α)) :=
  map "alloc::collections::btree::map::BTreeMap" key item

def hashMap (key : Key κ) (item : Codec α) : Codec (List (κ × α)) :=
  map "std::collections::hash::map::HashMap" key item

end Codec

end Switchboard
