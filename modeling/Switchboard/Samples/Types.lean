import Switchboard.Json.Codec

/-!
# Sample types

Types of arguments by name.
-/

namespace Switchboard.Samples

open IntType

structure WireType where
  {Carrier : Type}
  codec : Codec Carrier

def point : Codec (Int × Int) :=
  .record "Point" ⟨"x", .int i32⟩ ⟨"y", .int i32⟩

def tuple : Codec (Int × String) :=
  .pair (.int i64) .string

def textMap : Codec (List (String × Int)) :=
  .sortedMap .string (.int i64)

def numberMap : Codec (List (Int × String)) :=
  .sortedMap (.int u8) .string

def echoedTypes : List (String × WireType) :=
  [("bool", ⟨.bool⟩), ("i8", ⟨.int i8⟩), ("i16", ⟨.int i16⟩), ("i32", ⟨.int i32⟩),
   ("i64", ⟨.int i64⟩), ("i128", ⟨.int i128⟩), ("isize", ⟨.int isize⟩), ("u8", ⟨.int u8⟩),
   ("u16", ⟨.int u16⟩), ("u32", ⟨.int u32⟩), ("u64", ⟨.int u64⟩), ("u128", ⟨.int u128⟩),
   ("usize", ⟨.int usize⟩), ("f32", ⟨.single⟩), ("f64", ⟨.double⟩), ("char", ⟨.char⟩),
   ("string", ⟨.string⟩), ("value", ⟨.value⟩), ("opt_i64", ⟨.option (.int i64)⟩),
   ("opt_string", ⟨.option .string⟩), ("opt_value", ⟨.option .value⟩),
   ("vec_i64", ⟨.list (.int i64)⟩), ("vec_opt_u8", ⟨.list (.option (.int u8))⟩),
   ("tuple", ⟨tuple⟩), ("point", ⟨point⟩)]

def types : List (String × WireType) :=
  echoedTypes ++
    [("unit", ⟨.unit⟩), ("opt_unit", ⟨.option .unit⟩),
     ("opt_opt_bool", ⟨.option (.option .bool)⟩), ("vec_string", ⟨.list .string⟩),
     ("vec_vec_u8", ⟨.list (.list (.int u8))⟩), ("map_i64", ⟨textMap⟩), ("map_u8", ⟨numberMap⟩),
     ("array3", ⟨.vector 3 (.int u8)⟩), ("opt_point", ⟨.option point⟩)]

end Switchboard.Samples
