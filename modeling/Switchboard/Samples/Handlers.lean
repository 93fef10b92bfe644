import Switchboard.Samples.Errors
import Switchboard.Samples.Notebook
import Switchboard.Samples.Types

/-!
# Sample handlers

Methods by name: echoes of all types, methods that compute, fail and panic, and methods that look
at their context or at the notebook.
-/

namespace Switchboard.Samples

open IntType

abbrev SampleHandler := Handler Notebook

abbrev valueParameter : Parameter := Codec.value.parameter

abbrev i64Parameter : Parameter := (Codec.int i64).parameter

abbrev u8Parameter : Parameter := (Codec.int u8).parameter

abbrev u32Parameter : Parameter := (Codec.int u32).parameter

abbrev textParameter : Parameter := Codec.string.parameter

def echo (codec : Codec α) : SampleHandler :=
  .pure [codec.parameter] (.plain codec) fun (value, ()) => value

def succeed (codec : Codec α) : SampleHandler :=
  .pure [codec.parameter] (.fallible codec) fun (value, ()) => .ok value

def valuesOf (parameter : Parameter) :
    (n : Nat) → Values (List.replicate n parameter) → List parameter.Carrier
  | 0, _ => []
  | n + 1, (value, values) => value :: valuesOf parameter n values

def collect (n : Nat) : SampleHandler :=
  .pure (List.replicate n valueParameter) (.plain (.list .value))
    fun values => valuesOf valueParameter n values

def collectWithPath (n : Nat) : SampleHandler :=
  .withContext (List.replicate n valueParameter) (.plain (.list .value))
    fun context values => .string context.method :: valuesOf valueParameter n values

def sumOfEight : SampleHandler :=
  .pure (List.replicate 8 u8Parameter) (.plain (.int u32))
    fun values => (valuesOf u8Parameter 8 values).foldl (· + ·) 0

def mixed : SampleHandler :=
  .pure [textParameter, (Codec.option (.int i64)).parameter, Codec.bool.parameter,
      (Codec.option (.list (.int u8))).parameter]
    (.plain .value) fun (text, number, flag, list, ()) =>
      .array [.string text, (number.map Json.ofInt).getD .null, .bool flag,
        (list.map fun items => Json.array (items.map Json.ofInt)).getD .null]

def checked (type : IntType) (result : Int) (complaint : String) : Action (World Notebook) Int :=
  if type.holds result then Action.pure result else Action.panic (.text complaint)

def add : SampleHandler :=
  .acting [i64Parameter, i64Parameter] (.plain (.int i64)) fun (a, b, ()) =>
    checked i64 (a + b) "attempt to add with overflow"

def divide : SampleHandler :=
  .acting [i64Parameter, i64Parameter] (.plain (.int i64)) fun (a, b, ()) =>
    if b = 0 then Action.panic (.text "attempt to divide by zero")
    else checked i64 (a.tdiv b) "attempt to divide with overflow"

def specialDouble : String → Floating
  | "nan" => .nan
  | "inf" => .infinite false
  | "-inf" => .infinite true
  | "-0" => .zero true
  | "min" => .leastNormal .double
  | _ => .greatest .double

def power (n : Int) : Int :=
  (1 <<< min n.toNat 127 : Nat)

def powerIn (type : IntType) (negative : Bool) : SampleHandler :=
  .pure [u32Parameter] (.plain (.int type)) fun (n, ()) =>
    if negative then -power n else power n

def badKeys : SampleHandler :=
  .pure [] (.plain (.sortedMap (.option (.int i64)) (.int i64))) fun () => [(some 1, 1)]

def charKey : SampleHandler :=
  .pure [Codec.char.parameter] (.plain (.sortedMap .char (.int i64))) fun (c, ()) => [(c, 1)]

def insist : SampleHandler :=
  .pure [Codec.bool.parameter] .check fun (flag, ()) =>
    if flag then .ok () else .error (.other "not true")

def fail : SampleHandler :=
  .pure [textParameter, textParameter, (Codec.option (.int i32)).parameter,
      (Codec.option .value).parameter]
    .check fun (kind, message, code, data, ()) =>
      .error (ErrorSample.error { kind, message, code := Int32.ofInt (code.getD 0), data })

def failOnWire : SampleHandler :=
  .pure [(Codec.int i32).parameter, textParameter, (Codec.option .value).parameter]
    (.fallible .value) fun (code, message, data, ()) =>
      .error (.wire { code := Int32.ofInt code, message, data })

def parseJson : SampleHandler :=
  .pure [textParameter] (.fallible .value) fun (text, ()) =>
    (Json.parse text).mapError fun error => .other error.message

def panicWith (payload : PanicPayload) : Action (World Notebook) Unit :=
  Action.panic payload

def headerOf : SampleHandler :=
  .withContext [textParameter] (.plain (.option .string)) fun context (name, ()) =>
    context.header? name

def requestIdOf : SampleHandler :=
  .withContext [] (.plain (.option .string)) fun context () => context.requestId

def tagOf : SampleHandler :=
  .withContext [] (.plain (.option .string)) fun context () => textOf? context tagKind

def numberOf : SampleHandler :=
  .withContext [] (.fallible (.int i64)) fun context () =>
    match numberOf? context numKind with
    | some n => .ok n
    | none => .error (.token "no number")

def bump : SampleHandler :=
  .acting [] (.plain (.int u64)) fun () => do
    let count ← Notebook.bump 1
    return (count : Int)

def bumpBy : SampleHandler :=
  .acting [u8Parameter] .nothing fun (amount, ()) => do
    let _ ← Notebook.bump amount.toNat
    return ()

def count : SampleHandler :=
  .acting [] (.plain (.int u64)) fun () => do
    let count ← Notebook.bump 0
    return (count : Int)

def noteDown : SampleHandler :=
  .acting [textParameter] .nothing fun (text, ()) => Notebook.note ("note:" ++ text)

def collectors : List (String × SampleHandler) :=
  (List.range 9).map (fun n => ("args" ++ Nat.repr n, collect n))
    ++ (List.range 9).map fun n => ("ctx" ++ Nat.repr n, collectWithPath n)

def handlers : List (String × SampleHandler) :=
  echoedTypes.map (fun (name, type) => (name, echo type.codec))
    ++ collectors
    ++ [("hash_map", echo (.hashMap .string (.int i64))),
        ("btree_map", echo numberMap),
        ("unit", .pure [Codec.unit.parameter] .nothing fun _ => ()),
        ("ok_string", succeed .string),
        ("ok_f64", succeed .double),
        ("ok_i128", succeed (.int i128)),
        ("ok_unit", insist),
        ("static_str", .pure [] (.plain .string) fun _ => "static"),
        ("f64_special", .pure [textParameter] (.plain .double) fun (name, ()) =>
          specialDouble name),
        ("big_i128", powerIn i128 false),
        ("neg_i128", powerIn i128 true),
        ("big_u128", powerIn u128 false),
        ("bad_keys", badKeys),
        ("f64_keys", charKey),
        ("sum8", sumOfEight),
        ("mixed", mixed),
        ("add", add),
        ("divide", divide),
        ("ctx_header", headerOf),
        ("ctx_request_id", requestIdOf),
        ("ctx_tag", tagOf),
        ("ctx_num", numberOf),
        ("fail", fail),
        ("fail_rpc", failOnWire),
        ("parse_json", parseJson),
        ("panic_str", .acting [] .nothing fun _ => panicWith (.text "static panic")),
        ("panic_string", .acting [textParameter] .nothing fun (text, ()) =>
          panicWith (.text text)),
        ("panic_other", .acting [i64Parameter] .nothing fun _ => panicWith .other),
        ("bump", bump),
        ("bump_by", bumpBy),
        ("count", count),
        ("note", noteDown)]

def handler? (name : String) : Option SampleHandler :=
  handlers.lookup name

end Switchboard.Samples
