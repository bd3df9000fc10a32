/-!
# Generation errors

Why no type can be generated from a template. Every error but the one about the manifest as a
whole belongs to one template, and most to one member of it.
-/

namespace TypedBundle

/-- Why a template yields no generated type. -/
inductive GenerationError where
  /-- The template, or one of its members, does not make sense. -/
  | resolution (template : String) (member : Option String) (reason : String)
  /-- No strategy stores values of the member's type. -/
  | unsupportedType (template member typeName : String)
  /-- Two members share a key. -/
  | duplicateKey (template key first second : String)
  /-- A default body needs an instance of the template. -/
  | defaultNotReachable (template member : String)
  /-- An earlier template generates a type of the same name. -/
  | duplicateOutput (template output previous : String)
  /-- The manifest cannot be read. -/
  | manifest (reason : String)
  deriving Repr, BEq, DecidableEq

namespace GenerationError

/-- The word for the kind of error. -/
def kind : GenerationError → String
  | resolution .. => "resolution"
  | unsupportedType .. => "unsupported-type"
  | duplicateKey .. => "duplicate-key"
  | defaultNotReachable .. => "default-not-reachable"
  | duplicateOutput .. => "duplicate-output"
  | manifest .. => "manifest"

/-- The template that the error belongs to. -/
def template? : GenerationError → Option String
  | resolution template _ _ => some template
  | unsupportedType template _ _ => some template
  | duplicateKey template _ _ _ => some template
  | defaultNotReachable template _ => some template
  | duplicateOutput template _ _ => some template
  | manifest _ => none

/-- The member that the error belongs to. -/
def member? : GenerationError → Option String
  | resolution _ member _ => member
  | unsupportedType _ member _ => some member
  | duplicateKey _ _ _ second => some second
  | defaultNotReachable _ member => some member
  | duplicateOutput .. => none
  | manifest _ => none

/-- The error as a sentence. -/
def message : GenerationError → String
  | resolution template none reason => template ++ ": " ++ reason
  | resolution template (some member) reason => template ++ "." ++ member ++ ": " ++ reason
  | unsupportedType template member typeName =>
    template ++ "." ++ member ++ ": type " ++ typeName ++ " is not supported"
  | duplicateKey template key first second =>
    template ++ "." ++ second ++ ": key \"" ++ key ++ "\" is already used by " ++ first
  | defaultNotReachable template member =>
    template ++ "." ++ member ++ ": default value must be declared in the companion object"
  | duplicateOutput template output previous =>
    template ++ ": output type " ++ output ++ " is already generated by " ++ previous
  | manifest reason => "manifest error: " ++ reason

end GenerationError

end TypedBundle
