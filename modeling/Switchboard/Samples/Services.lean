import Switchboard.Samples.Handlers
import Switchboard.Service

/-!
# Sample services

Services that use every way of returning, the hooks of a registration, and names that the naming
conventions fold in different ways.
-/

namespace Switchboard.Samples

open IntType

abbrev SampleService := Service Notebook

def plansOf (methods : List (String × SampleHandler)) : List (Plan Notebook) :=
  methods.map fun (name, handler) => .ofHandler name handler

def stateless (typeName : String) (methods : List (String × SampleHandler)) : SampleService where
  Instance := Unit
  typeName := typeName
  fresh := ()
  methods _ := Action.pure (plansOf methods)

abbrev i32Parameter : Parameter := (Codec.int i32).parameter

def constant (codec : Codec α) (value : α) : SampleHandler :=
  .pure [] (.plain codec) fun _ => value

def quotient (a b : Floating) : Except ServiceError Floating :=
  if b.isZero then .error (.other "division by zero") else .ok (a.div .double b)

def calculator : SampleService :=
  stateless "Calculator"
    [("add", add),
     ("div", .pure [Codec.double.parameter, Codec.double.parameter] (.fallible .double)
       fun (a, b, ()) => quotient a b),
     ("zero", constant (.int i64) 0),
     ("empty_list", constant (.list (.int u8)) []),
     ("greet", .pure [textParameter, (Codec.option .string).parameter] (.plain .string)
       fun (name, suffix, ()) => "hello " ++ name ++ suffix.getD ""),
     ("point", .pure [i32Parameter, i32Parameter] (.plain point) fun (x, y, ()) => (x, y)),
     ("origin", constant point (0, 0)),
     ("ping", .pure [] .nothing fun _ => ()),
     ("crash", .acting [] (.plain (.int u8)) fun _ =>
       Action.panic (.text "calculator exploded")),
     ("whoami", .withContext [] (.fallible .string) fun context _ =>
       match textOf? context userKind with
       | some user => .ok user
       | none => .error (.token "not signed in")),
     ("method_name", .withContext [] (.plain .string) fun context _ => context.method),
     ("deny", .pure [] .check fun _ => .error (.forbidden "denied")),
     ("custom", .pure [] .check fun _ =>
       .error (.wire
         { code := -1, message := "custom failure"
           data := some (.object [("retry", .bool false)]) }))]

def localPart (address : String) : String :=
  String.ofList (address.toList.takeWhile (· != '@'))

def userService : SampleService where
  Instance := Nat
  typeName := "UserService"
  fresh := 0
  construct count := Action.pure (count + 1)
  excluded _ := Action.pure ["secret"]
  methods count := Action.pure <| plansOf
    [("GetName", constant .string "ada"),
     ("init_count", constant (.int usize) count),
     ("secret", constant .string "hunter2"),
     ("lookup", .pure [textParameter] (.plain .string) fun (email, ()) => localPart email)]

def balance : String → Except ServiceError Int
  | "alice" => .ok 100
  | _ => .error (.forbidden "not your account")

def accounts : SampleService where
  Instance := Unit
  typeName := "Accounts"
  fresh := ()
  ownName _ := Action.pure (some "acct")
  methods _ := Action.pure <| plansOf
    [("balance", .pure [textParameter] (.fallible (.int u64)) fun (account, ()) =>
      balance account)]

def hollow : SampleService :=
  stateless "Hollow" []

def describeNumber : Option Int → String
  | some n => "Some(" ++ Int.repr n ++ ")"
  | none => "None"

def mirrored : Option Int → Action (World Notebook) (Option (Int × Int))
  | none => Action.pure none
  | some x => do
    let y ← checked i32 (-x) "attempt to negate with overflow"
    return some (x, y)

/-- Two of its methods have the same folded name. -/
def echoApi : SampleService :=
  stateless "HTTPEcho2API"
    [("type", echo .value),
     ("getURLFor", .withContext [(Codec.option (.int i64)).parameter, textParameter]
       (.plain (.list .string)) fun context (number, text, ()) =>
         [context.method, describeNumber number, text]),
     ("get_url_for", constant .string "shadowed"),
     ("maybe_point", .acting [(Codec.option (.int i32)).parameter] (.plain (.option point))
       fun (x, ()) => mirrored x),
     ("limit", constant (.int u8) 3),
     ("Renamed", .pure [textParameter] (.fallible (.int usize)) fun (text, ()) =>
       .ok text.length)]

def boxed (value : Int) : SampleService where
  Instance := Unit
  typeName := "Boxed"
  fresh := ()
  methods _ := Action.pure <| plansOf
    [("get", constant (.int i64) value),
     ("add", .pure [i64Parameter] (.fallible (.int i64)) fun (n, ()) =>
       if i64.holds (value + n) then .ok (value + n) else .error (.other "overflow"))]
  backing _ := { typeName := "Boxed<i32>", snapshot := .ofInt value }

/-- Lists what it has been through; its name and what it hides depend on that. -/
def hooked : SampleService where
  Instance := List String
  typeName := "Hooked"
  fresh := []
  ownName life := Action.pure (some ("Hooked" ++ Nat.repr life.length))
  construct life := Action.pure (life ++ ["constructor"])
  excluded life := Action.pure [if life.isEmpty then "shown" else "HideMe"]
  methods life := Action.pure <| plansOf
    [("built", constant (.list .string) life),
     ("hideMe", constant (.int u8) 1),
     ("shown", constant (.int u8) 2)]

/-- A service whose hooks give what they are told to and note that they ran; its value says
whether it was set up. -/
def reporting (ownName : Option String) (excluded : List String)
    (methods : List (String × SampleHandler)) : SampleService where
  Instance := Bool
  typeName := "DynService"
  fresh := false
  ownName _ := do
    Notebook.note "hook:namespace"
    return ownName
  construct _ := do
    Notebook.note "hook:initialize"
    return true
  excluded ready := do
    Notebook.note ("hook:excluded:" ++ truthText ready)
    return excluded
  methods ready := do
    Notebook.note ("hook:methods:" ++ truthText ready)
    return plansOf methods
  backing ready := { typeName := "DynService", snapshot := .bool ready }

def service? (name : String) (value : Int) : Option SampleService :=
  match name with
  | "Calculator" => some calculator
  | "UserService" => some userService
  | "Accounts" => some accounts
  | "Hollow" => some hollow
  | "HTTPEcho2API" => some echoApi
  | "Boxed" => some (boxed value)
  | "Hooked" => some hooked
  | _ => none

abbrev SampleApp := App Notebook

def app? : String → Option SampleApp
  | "App" => some
    { excludedMethods := ["ping"]
      services := [(calculator, none), (accounts, some "ledger")] }
  | "Directory" => some { services := [(userService, none)] }
  | "PairApp" => some
    { excludedMethods := ["Zero", "deny", "crash"]
      services := [(calculator, none), (calculator, some "Second"), (boxed 5, none)] }
  | "TwinApp" => some
    { services := [(accounts, none), (accounts, some "acct"), (calculator, none)] }
  | "EmptyApp" => some {}
  | _ => none

end Switchboard.Samples
