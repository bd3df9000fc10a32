import TypedBundle.Accessor.Error
import TypedBundle.Accessor.Method
import TypedBundle.Naming

/-!
# Accessors of a member

The methods that one member contributes to the generated type.

Each setter prefix yields a setter and a static entry point of the same name. Each getter prefix
yields getters by what can be done about absence and by whether there is a default body:

| getter class      | no default body            | default body                                 |
|-------------------|----------------------------|----------------------------------------------|
| zero default      | plain, with the zero value | plain, with the default handed over          |
| fallback capable  | nullable, `OrThrow`        | plain, with the default handed over          |
| nullable          | nullable, `OrThrow`        | plain with the default, `OrNull`, `OrThrow`  |

Each member has one presence assertion on the type and one on the accumulator.
-/

namespace TypedBundle

/-- What one member contributes to the generated type. -/
structure MemberAccessors where
  member : String
  key : String
  strategy : Strategy
  setters : List Method
  getters : List Method
  /-- The presence assertion that starts an accumulator. -/
  assert : Method
  /-- The presence assertion on an accumulator. -/
  assertChain : Method
  /-- The static entry points, one for each setter. -/
  entries : List Method
  deriving Repr, BEq, Inhabited

namespace Member

/-- The strategy for the member's type. -/
def strategy (t : Template) (m : Member) : Except GenerationError Strategy :=
  match Strategy.ofDescriptor? m.declaredType with
  | some s => .ok s
  | none => .error (.unsupportedType t.className m.declaredName m.declaredType.display)

/-- The call of the member's default body, if it has one. Without an instance of the template
only functions of the companion object can be called. -/
def defaultCall? (t : Template) (m : Member) : Except GenerationError (Option DefaultCall) :=
  if !m.hasDefaultBody then .ok none
  else if m.scope ≠ .companion then .error (.defaultNotReachable t.className m.declaredName)
  else .ok (some ⟨t.simpleName, m.declaredName⟩)

end Member

namespace MemberAccessors

/-- The setter of the name. -/
def setter (m : Member) (n : Naming) (s : Strategy) (name : String) : Method where
  name
  params := [⟨n.property, m.declaredType⟩]
  returns := .receiver
  body := .store n.key s n.property

/-- The static entry point of a setter. -/
def entry (n : Naming) (setter : Method) : Method :=
  { setter with body := .entry setter.name n.property }

/-- The getter of the name. -/
def getter (m : Member) (n : Naming) (s : Strategy) (name : String) (nullable : Bool)
    (fallback : Fallback) : Method where
  name
  returns := .value m.declaredType nullable
  body := .load n.key s m.declaredType fallback

/-- The getters of one plain name. -/
def gettersNamed (m : Member) (n : Naming) (s : Strategy) (default : Option DefaultCall)
    (name : String) : List Method :=
  let orNull := getter m n s (name ++ "OrNull") true .orNull
  let orThrow := getter m n s (name ++ "OrThrow") false .orThrow
  match s.getterClass, default with
  | .zeroDefault, none => [getter m n s name false .inlineZero]
  | .zeroDefault, some call => [getter m n s name false (.inlineDefault call)]
  | .fallbackCapable, some call => [getter m n s name false (.inlineDefault call)]
  | .fallbackCapable, none => [getter m n s name true .orNull, orThrow]
  | .nullable, none => [getter m n s name true .orNull, orThrow]
  | .nullable, some call => [getter m n s name false (.orDefault call), orNull, orThrow]

/-- The accessors of a member under the names, the strategy and the default given. -/
def ofParts (m : Member) (n : Naming) (s : Strategy) (default : Option DefaultCall) :
    MemberAccessors where
  member := m.declaredName
  key := n.key
  strategy := s
  setters := n.setterNames.map (setter m n s)
  getters := n.getterNames.flatMap (gettersNamed m n s default)
  assert := { name := n.assertName, returns := .assertion, body := .assert n.key }
  assertChain := { name := n.assertName, returns := .assertion, body := .assertChain n.key }
  entries := (n.setterNames.map (setter m n s)).map (entry n)

/-- The accessors of a member under the names and the strategy given. -/
def synthesize (t : Template) (m : Member) (n : Naming) (s : Strategy) :
    Except GenerationError MemberAccessors :=
  (m.defaultCall? t).map (ofParts m n s)

/-- The methods that instances get, in order. -/
def instanceMethods (a : MemberAccessors) : List Method := a.setters ++ a.getters ++ [a.assert]

end MemberAccessors

end TypedBundle
