import TypedBundle.Template
import TypedBundle.Type.ClassTable

/-!
# Manifests

A manifest declares classes and templates the way their sources do, by name and in order, and
says how the generated sources are laid out.
-/

namespace TypedBundle

/-- The layout of generated sources. -/
structure OutputConfig where
  /-- Spaces to a level of indentation. -/
  indent : Nat := 4
  /-- What follows the type's name in the name of its file. -/
  fileSuffix : String := ""
  /-- Whether a source begins with a comment on where it came from. -/
  emitHeader : Bool := true
  deriving Repr, BEq, DecidableEq, Inhabited

namespace OutputConfig

/-- One level of indentation. -/
def indentUnit (c : OutputConfig) : String := String.ofList (List.replicate c.indent ' ')

/-- The name of the file of a type. -/
def fileName (c : OutputConfig) (typeName : String) : String := typeName ++ c.fileSuffix ++ ".kt"

end OutputConfig

/-- The annotation that makes a class a template. -/
structure TemplateAnnotation where
  /-- The simple name of the generated type. -/
  name : String
  setters : List String := []
  getters : List String := []
  deriving Repr, BEq, DecidableEq, Inhabited

/-- The annotation that makes a function a member. -/
structure MemberAnnotation where
  name : String := ""
  tag : String := ""
  setters : List String := []
  getters : List String := []
  deriving Repr, BEq, DecidableEq, Inhabited

/-- A function of a template class or of its companion object. -/
structure FunctionDecl where
  name : String
  /-- The return type as written. -/
  returns : String
  scope : Scope := .body
  /-- Whether the function is marked abstract or concrete, if it is marked at all. -/
  abstractMark : Option Bool := none
  /-- The annotation; a function without one is no member. -/
  item : Option MemberAnnotation := none
  deriving Repr, BEq, DecidableEq, Inhabited

namespace FunctionDecl

/-- Whether the function has no body. Unmarked functions are abstract in the class and concrete
in the companion object. -/
def isAbstract (f : FunctionDecl) : Bool := f.abstractMark.getD (f.scope == .body)

end FunctionDecl

/-- A template class as declared. -/
structure TemplateDecl where
  /-- The full name of the class. -/
  className : String
  visibility : Visibility := .public
  annotation : Option TemplateAnnotation := none
  functions : List FunctionDecl := []
  deriving Repr, BEq, DecidableEq, Inhabited

/-- A manifest. -/
structure Manifest where
  config : OutputConfig := {}
  classes : List ClassInfo := []
  templates : List TemplateDecl := []
  deriving Repr, BEq, DecidableEq, Inhabited

namespace Manifest

/-- The platform's classes and those that the manifest declares. -/
def classTable (m : Manifest) : ClassTable := ClassTable.platform.declareAll m.classes

end Manifest

end TypedBundle
