import TypedBundle.Type.Descriptor

/-!
# Templates

A template is a class whose annotated functions declare the entries of a bundle. Each of them is
a member: it has a name, a type, and the annotation's overrides.
-/

namespace TypedBundle

/-- Who can see a template, and the type generated from it. -/
inductive Visibility where
  | «public»
  | internal
  deriving Repr, BEq, DecidableEq, Inhabited

/-- Where a template function is declared. -/
inductive Scope where
  /-- In the class itself. -/
  | body
  /-- In the companion object, where it can be called without an instance. -/
  | companion
  deriving Repr, BEq, DecidableEq, Inhabited

/-- An annotated function of a template. Empty texts and lists mean that nothing is overridden. -/
structure Member where
  declaredName : String
  declaredType : TypeDescriptor
  /-- Whether the function has a body, which yields the member's default value. -/
  hasDefaultBody : Bool := false
  scope : Scope := .body
  overrideName : String := ""
  overrideKey : String := ""
  setterPrefixes : List String := []
  getterPrefixes : List String := []
  deriving Repr, BEq, Inhabited

/-- A template whose names and types are resolved. -/
structure Template where
  /-- The full name of the template class. -/
  className : String
  /-- The simple name of the generated type. -/
  outputName : String
  visibility : Visibility := .public
  setterPrefixes : List String := []
  getterPrefixes : List String := []
  /-- The members, in order of declaration. -/
  members : List Member := []
  deriving Repr, BEq, Inhabited

namespace Template

/-- The package of the template, and of the generated type. -/
def package (t : Template) : String := Name.package t.className

/-- The simple name of the template class. -/
def simpleName (t : Template) : String := Name.simple t.className

/-- The full name of the generated type. -/
def outputQualifiedName (t : Template) : String := Name.qualified t.package t.outputName

end Template

end TypedBundle
