import TypedBundle.Storage.Strategy

/-!
# Generated methods

The methods of a generated type, by signature and by what they do. A body names the entry that
it touches and the strategy by which; the Kotlin text and the interpreter are two readings of it.
-/

namespace TypedBundle

/-- A default body: a function of the template's companion object. -/
structure DefaultCall where
  /-- The simple name of the template class. -/
  owner : String
  function : String
  deriving Repr, BEq, DecidableEq

/-- What a getter answers when its entry is absent. -/
inductive Fallback where
  /-- The bundle's zero value, handed over with the read. -/
  | inlineZero
  /-- The value of a default body, handed over with the read. -/
  | inlineDefault (call : DefaultCall)
  /-- The value of a default body, asked for when the read gives null. -/
  | orDefault (call : DefaultCall)
  /-- Null. -/
  | orNull
  /-- A fault that names the key. -/
  | orThrow
  deriving Repr, BEq, DecidableEq

/-- A parameter of a method. -/
structure Param where
  name : String
  type : TypeDescriptor
  deriving Repr, BEq, Inhabited

/-- What a method returns. -/
inductive Returns where
  /-- The generated type itself. -/
  | receiver
  | value (type : TypeDescriptor) (nullable : Bool)
  /-- The accumulator of presence assertions. -/
  | assertion
  /-- The bundle behind the instance. -/
  | container
  deriving Repr, BEq, Inhabited

/-- What a method does. -/
inductive Body where
  /-- Writes the parameter under the key. -/
  | store (key : String) (strategy : Strategy) (param : String)
  /-- Reads the key. -/
  | load (key : String) (strategy : Strategy) (type : TypeDescriptor) (fallback : Fallback)
  /-- Starts an accumulator with the key. -/
  | assert (key : String)
  /-- Adds the key to an accumulator. -/
  | assertChain (key : String)
  /-- Calls the setter on an instance over a new bundle. -/
  | entry (setter param : String)
  /-- Wraps a copy of the bundle that is passed. -/
  | wrap
  /-- Hands out the bundle behind the instance. -/
  | collect
  deriving Repr, BEq, Inhabited

/-- A generated method. -/
structure Method where
  name : String
  params : List Param := []
  returns : Returns
  body : Body
  deriving Repr, BEq, Inhabited

namespace Method

/-- What tells a method from others of its name: the name and the displayed parameter types. -/
def signature (m : Method) : String × List String := (m.name, m.params.map (·.type.display))

/-- The entry point that wraps a copy of a bundle. -/
def fromBundle : Method where
  name := "from"
  params := [⟨"bundle", .named Platform.bundle⟩]
  returns := .receiver
  body := .wrap

/-- The way out to the bundle behind an instance. -/
def collect : Method where
  name := "collect"
  returns := .container
  body := .collect

end Method

/-- A private function of the companion object that wraps the bundle's calls for a strategy. -/
inductive Helper where
  /-- Writes an entry. -/
  | insert (strategy : Strategy)
  /-- Reads an entry, with null for an absent one. -/
  | extract (strategy : Strategy)
  /-- Reads an entry, with a fallback value handed over. -/
  | extractWithFallback (kind : Kind)
  deriving Repr, BEq, DecidableEq

namespace Helper

/-- Every helper, in order. -/
def all : List Helper :=
  Strategy.all.map insert ++ Strategy.all.map extract ++ Kind.all.map extractWithFallback

/-- The name of the helper. The two ways to read a kind share one and differ in parameters. -/
def name : Helper → String
  | insert strategy => "insert" ++ strategy.label
  | extract strategy => "extract" ++ strategy.label
  | extractWithFallback kind => "extract" ++ kind.label

/-- The helper that a method body calls. -/
def ofBody? : Body → Option Helper
  | .store _ strategy _ => some (insert strategy)
  | .load _ (.direct kind) _ .inlineZero => some (extractWithFallback kind)
  | .load _ (.direct kind) _ (.inlineDefault _) => some (extractWithFallback kind)
  | .load _ strategy _ _ => some (extract strategy)
  | _ => none

/-- The helpers that some method of the list calls, in order. -/
def usedBy (methods : List Method) : List Helper :=
  all.filter fun helper => methods.any fun m => ofBody? m.body == some helper

end Helper

end TypedBundle
