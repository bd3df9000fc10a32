import TypedBundle.Dict
import TypedBundle.Identifier

/-!
# Type descriptors

A type as resolved against a class table: full names throughout, with the facts about its class
that storage depends on.
-/

namespace TypedBundle

/-- A resolved type. -/
structure TypeDescriptor where
  /-- The full name of the class. -/
  name : String
  arguments : List TypeDescriptor := []
  /-- The immediate superclass. -/
  superclass : Option String := none
  /-- Every class and interface above the class. -/
  supertypes : NameSet := {}
  /-- The constants of an enumeration. -/
  constants : List String := []
  deriving Repr, BEq, Inhabited

namespace TypeDescriptor

/-- The superclass of every enumeration. -/
def enumBase : String := "kotlin.Enum"

/-- A descriptor that knows nothing but the name. -/
def named (name : String) : TypeDescriptor := { name }

/-- Whether the type is the class, or has it above it. -/
def implements (ty : TypeDescriptor) (name : String) : Bool :=
  ty.name == name || ty.supertypes.contains name

/-- Whether the type is an enumeration. -/
def isEnum (ty : TypeDescriptor) : Bool := ty.superclass == some enumBase

mutual

/-- The type as text, with full names. -/
def display : TypeDescriptor → String
  | ⟨name, arguments, _, _, _⟩ =>
    match arguments with
    | [] => name
    | first :: others => name ++ "<" ++ display first ++ displayOthers others ++ ">"

/-- Each type after a comma and a space. -/
def displayOthers : List TypeDescriptor → String
  | [] => ""
  | ty :: rest => ", " ++ display ty ++ displayOthers rest

end

mutual

/-- The class names in the type, each before the names in its arguments. -/
def names : TypeDescriptor → List String
  | ⟨name, arguments, _, _, _⟩ => name :: namesAll arguments

/-- The class names in several types. -/
def namesAll : List TypeDescriptor → List String
  | [] => []
  | ty :: rest => names ty ++ namesAll rest

end

end TypeDescriptor

end TypedBundle
