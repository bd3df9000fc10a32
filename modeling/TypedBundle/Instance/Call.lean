import TypedBundle.Accessor.AccessorType
import TypedBundle.Instance.Codec

/-!
# Generated types at work

Default values, and what calls of generated methods do and answer.
-/

namespace TypedBundle

/-!
## Default bodies

The functions of a template's companion object that yield default values, as far as they are at
hand. What a body yields may change from call to call: it is a sequence of values, of which the
last is repeated.
-/

/-- A default body: the value of the next call, and those of the calls after it. -/
structure DefaultBody where
  call : DefaultCall
  next : Value
  later : List Value := []
  deriving Repr, DecidableEq

/-- The default bodies at hand. -/
structure Defaults where
  bodies : List DefaultBody := []
  deriving Repr, DecidableEq, Inhabited

namespace DefaultBody

/-- The body after a call. -/
def advance (b : DefaultBody) : DefaultBody :=
  match b.later with
  | [] => b
  | v :: rest => { b with next := v, later := rest }

/-- Whether the body always yields the same value. -/
def isPure (b : DefaultBody) : Bool := b.later.isEmpty

end DefaultBody

namespace Defaults

/-- Adds a body, in place of an older one of the same function. -/
def register (d : Defaults) (b : DefaultBody) : Defaults :=
  ⟨b :: d.bodies.filter (·.call != b.call)⟩

/-- The value of a default body now. -/
def value? (d : Defaults) (call : DefaultCall) : Option Value :=
  (d.bodies.find? (·.call == call)).map (·.next)

/-- The default bodies after a call of one of them. -/
def advance (d : Defaults) (call : DefaultCall) : Defaults :=
  ⟨d.bodies.map fun b => if b.call == call then b.advance else b⟩

end Defaults

/-!
## Calls

A generated type at work: instances over bundles, and what calls of its methods do and answer.
The effects are those of the Kotlin source of the type. A call can change the heap of bundles
and, by asking for default values, what later calls of default bodies yield.
-/

/-- A generated type together with the classes that its setters know. -/
structure BoundType where
  type : AccessorType
  classes : ClassTable := .platform

/-- An instance of a generated type. -/
structure Instance where
  bound : BoundType
  /-- The bundle behind the instance. -/
  storage : Bundle

/-- Presence assertions collected over a bundle. -/
structure Assertion where
  bound : BoundType
  storage : Bundle
  /-- The asserted keys, in the order of the calls. -/
  keys : List String

/-- What a method call answers. -/
inductive Returned where
  /-- The instance. -/
  | receiver
  /-- A value or null. -/
  | value (v : Option Value)
  | assertion (a : Assertion)
  /-- The bundle behind the instance. -/
  | container (b : Bundle)

/-- What calls can change. -/
structure World where
  heap : Heap := .initial
  defaults : Defaults := {}

instance : Inhabited World := ⟨{}⟩

namespace BoundType

/-- The fault of a method that the type does not have. -/
def unknown (c : BoundType) (method : String) : Fault := .unknownMethod c.type.name method

/-- The first of the candidates that has as many parameters as there are arguments. -/
def select (c : BoundType) (candidates : List Method) (name : String) (arity : Nat) :
    Except Fault Method :=
  match candidates.find? (·.params.length == arity) with
  | some m => .ok m
  | none =>
    if candidates.isEmpty then .error (c.unknown name)
    else .error (mismatch name ("no overload takes " ++ toString arity ++ " argument(s)"))

/-- The instance method that a call means. -/
def instanceMethod (c : BoundType) (name : String) (arity : Nat) : Except Fault Method :=
  c.select (c.type.methodsNamed name) name arity

/-- The value of a default body and the world after it has been asked for. -/
def default (w : World) (call : DefaultCall) : Except Fault (Value × World) :=
  match w.defaults.value? call with
  | some v => .ok (v, { w with defaults := w.defaults.advance call })
  | none => .error (.defaultUnavailable call.owner call.function)

/-- The answer of a getter, given what reading the entry gave. A default that is handed over
with the read is asked for on every call; the other kind only if it is needed. -/
def fallBack (w : World) (key : String) (s : Strategy) (read : Option Value) :
    Fallback → Except Fault (Option Value × World)
  | .inlineZero =>
    match s with
    | .direct kind => .ok (read.or (Value.zero? kind), w)
    | _ => .ok (read, w)
  | .inlineDefault call => do
    let (v, w) ← default w call
    return (some (read.getD v), w)
  | .orDefault call =>
    match read with
    | some v => .ok (some v, w)
    | none => do
      let (v, w) ← default w call
      return (some v, w)
  | .orNull => .ok (read, w)
  | .orThrow =>
    match read with
    | some v => .ok (some v, w)
    | none => .error (.propertyNotFound key)

end BoundType

namespace Instance

/-- What running a method body on the instance answers, and the world after it. -/
def run (i : Instance) (w : World) (m : Method) (name : String) (args : List Value) :
    Except Fault (Returned × World) :=
  match m.body with
  | .store key s _ =>
    match m.params, args with
    | p :: _, v :: _ => do
      let stored ← s.encode i.bound.classes name p.type v
      let heap ← w.heap.put i.storage key stored
      return (.receiver, { w with heap })
    | _, _ => .error (mismatch name "setter has no parameter")
  | .load key s ty fallback => do
    let read ← s.decode ty (w.heap.get? i.storage key)
    let (v, w) ← BoundType.fallBack w key s read fallback
    return (.value v, w)
  | .assert key => .ok (.assertion ⟨i.bound, i.storage, [key]⟩, w)
  | .collect => .ok (.container i.storage, w)
  | .assertChain _ | .entry _ _ | .wrap => .error (i.bound.unknown name)

/-- Calls an instance method. A call that fails leaves the world as it is. -/
def invoke (i : Instance) (w : World) (name : String) (args : List Value) :
    Except Fault (Returned × World) := do
  let m ← i.bound.instanceMethod name args.length
  i.run w m name args

/-- Calls a setter. -/
def set (i : Instance) (w : World) (name : String) (v : Value) : Except Fault Unit × World :=
  match i.invoke w name [v] with
  | .ok (.receiver, w) => (.ok (), w)
  | .ok (_, w) => (.error (mismatch name "not a setter"), w)
  | .error e => (.error e, w)

/-- Calls a getter. -/
def get (i : Instance) (w : World) (name : String) : Except Fault (Option Value) × World :=
  match i.invoke w name [] with
  | .ok (.value v, w) => (.ok v, w)
  | .ok (_, w) => (.error (mismatch name "not a getter"), w)
  | .error e => (.error e, w)

/-- Starts an accumulator of presence assertions. -/
def has (i : Instance) (w : World) (name : String) : Except Fault Assertion × World :=
  match i.invoke w name [] with
  | .ok (.assertion a, w) => (.ok a, w)
  | .ok (_, w) => (.error (mismatch name "not an assertion"), w)
  | .error e => (.error e, w)

/-- The warnings that a call gives: one, if it reads an entry of another shape. -/
def warnings (i : Instance) (w : World) (name : String) (args : List Value) : List Diagnostic :=
  match i.bound.instanceMethod name args.length with
  | .ok { body := .load key s _ _, .. } =>
    ((s.warning? key (w.heap.get? i.storage key)).map Event.diagnostic).toList
  | _ => []

end Instance

namespace BoundType

/-- An instance over a copy of a bundle. -/
def wrap (c : BoundType) (w : World) (b : Bundle) : Instance × World :=
  let (copy, heap) := w.heap.duplicate b
  (⟨c, copy⟩, { w with heap })

/-- Calls an entry point of the companion object. -/
def callStatic (c : BoundType) (w : World) (name : String) (args : List Value) :
    Except Fault (Instance × World) := do
  let m ← c.select (c.type.companionNamed name) name args.length
  match m.body with
  | .wrap =>
    match args with
    | [.bundle b] => return c.wrap w b
    | _ => throw (mismatch name "expected a single Bundle argument")
  | .entry setter _ =>
    let (b, heap) := w.heap.new
    let i : Instance := ⟨c, b⟩
    let (_, w) ← i.invoke { w with heap } setter args
    return (i, w)
  | _ => throw (c.unknown name)

end BoundType

namespace Assertion

/-- Adds the key of another member. -/
def also (a : Assertion) (name : String) : Except Fault Assertion :=
  match a.bound.type.assertMethod? name with
  | some { body := .assertChain key, .. } => .ok { a with keys := a.keys ++ [key] }
  | _ => .error (a.bound.unknown name)

/-- Fails with the first asserted key that is absent now. -/
def check (a : Assertion) (h : Heap) : Except Fault Unit :=
  match a.keys.find? (!h.containsKey a.storage ·) with
  | some key => .error (.missingKey key)
  | none => .ok ()

/-- Whether two accumulators assert the same of the same bundle. -/
def same (a b : Assertion) : Bool := a.keys == b.keys && a.storage == b.storage

end Assertion

end TypedBundle
