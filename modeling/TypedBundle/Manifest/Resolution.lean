import TypedBundle.Accessor.Error
import TypedBundle.Identifier
import TypedBundle.Manifest.Basic

/-!
# Resolution of templates

From a template as declared to a template whose names are checked and whose types are resolved.
The checks run from the outside in and in order of declaration, and the first that fails decides.
-/

namespace TypedBundle

namespace GenerationError

/-- A fault of a template as a whole. -/
def inTemplate (template reason : String) : GenerationError := resolution template none reason

/-- A fault of a member. -/
def inMember (template member reason : String) : GenerationError :=
  resolution template (some member) reason

end GenerationError

/-- Fails with the reason unless the condition holds. -/
def require (ok : Bool) (error : GenerationError) : Except GenerationError Unit :=
  if ok then .ok () else .error error

namespace FunctionDecl

/-- Refuses words that cannot begin an accessor's name. -/
def checkPrefixes (fault : String → GenerationError) (words : List String) :
    Except GenerationError Unit :=
  match words.find? (!Identifier.canBegin ·) with
  | none => .ok ()
  | some bad => .error (fault ("prefix \"" ++ bad ++ "\" is not a valid identifier"))

/-- The member that an annotated function declares. -/
def resolve (classes : ClassTable) (template : String) (f : FunctionDecl)
    (item : MemberAnnotation) : Except GenerationError Member := do
  let fault := GenerationError.inMember template f.name
  require (Identifier.isLegal f.name) (fault "function name is not a valid identifier")
  require (item.name = "" || Identifier.isLegal item.name)
    (fault ("@BunchItem name \"" ++ item.name ++ "\" is not a valid identifier"))
  checkPrefixes fault item.setters
  checkPrefixes fault item.getters
  require (!(f.scope == .companion && f.isAbstract))
    (fault "companion object functions cannot be abstract")
  match classes.describeText f.returns with
  | .error e => throw (fault e.message)
  | .ok declaredType =>
    return {
      declaredName := f.name
      declaredType
      hasDefaultBody := !f.isAbstract
      scope := f.scope
      overrideName := item.name
      overrideKey := item.tag
      setterPrefixes := item.setters
      getterPrefixes := item.getters }

end FunctionDecl

namespace TemplateDecl

/-- The annotation of a template, if it and the template's name will do. -/
def checkedAnnotation (d : TemplateDecl) : Except GenerationError TemplateAnnotation := do
  require (d.className != "")
    (.inTemplate "<unnamed>" "template class name is empty")
  let fault := GenerationError.inTemplate d.className
  match d.annotation with
  | none => throw (fault "missing @Bunch annotation")
  | some a =>
    require (a.name != "") (fault "@Bunch name must not be empty")
    require (Identifier.isLegal a.name)
      (fault ("@Bunch name \"" ++ a.name ++ "\" is not a valid identifier"))
    FunctionDecl.checkPrefixes fault a.setters
    FunctionDecl.checkPrefixes fault a.getters
    return a

/-- The members that annotated functions declare, in order. -/
def resolveMembers (classes : ClassTable) (template : String) :
    List FunctionDecl → Except GenerationError (List Member)
  | [] => .ok []
  | f :: rest =>
    match f.item with
    | none => resolveMembers classes template rest
    | some item => do
      let m ← f.resolve classes template item
      let others ← resolveMembers classes template rest
      return m :: others

/-- The template with its names checked and its types resolved. -/
def resolve (classes : ClassTable) (d : TemplateDecl) : Except GenerationError Template := do
  let a ← d.checkedAnnotation
  let members ← resolveMembers classes d.className d.functions
  return {
    className := d.className
    outputName := a.name
    visibility := d.visibility
    setterPrefixes := a.setters
    getterPrefixes := a.getters
    members }

/-- The functions without annotation that are passed over before resolution ends or fails. -/
def skipped (classes : ClassTable) (template : String) : List FunctionDecl → List FunctionDecl
  | [] => []
  | f :: rest =>
    match f.item with
    | none => f :: skipped classes template rest
    | some item =>
      match f.resolve classes template item with
      | .ok _ => skipped classes template rest
      | .error _ => []

end TemplateDecl

end TypedBundle
