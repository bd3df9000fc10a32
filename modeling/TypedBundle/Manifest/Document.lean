import TypedBundle.Manifest.Basic

/-!
# Documents

The tree of values that a structured text holds, and reading a manifest from it.

A record is read from a table by field names, whatever other fields the table has, or from a
list by position. A word that selects a case is a text, or a table with that one word as its
key and nothing of interest under it. The two notations that manifests come in differ in how
they treat lists longer than the record and in what they take for nothing; `Rules` records it.

A number that cannot be held spoils whatever is made from it, and also the record whose table has
it under a name that the record does not know. Only items past the end of a record are never
looked at.
-/

namespace TypedBundle

/-- A value of a structured text. -/
inductive Document where
  | null
  | bool (b : Bool)
  | integer (n : Int)
  /-- A number that is not written as an integer. -/
  | decimal
  /-- A number that cannot be held. -/
  | unreadable
  /-- A point in time. -/
  | moment
  | text (s : String)
  | list (items : List Document)
  | table (fields : List (String × Document))
  deriving Repr, BEq, Inhabited

namespace Document

/-- The points in which notations differ. -/
structure Rules where
  /-- Whether a list may hold more items than the record has fields. -/
  allowsSurplus : Bool
  /-- Whether a value under a selecting word counts as nothing. -/
  isNothing : Document → Bool

/-- The fields of a record, however it is written. -/
inductive Fields where
  | named (fields : List (String × Document))
  | positional (items : List Document)

namespace Fields

/-- The value of the field with the given name and position. -/
def get? (name : String) (position : Nat) : Fields → Option Document
  | named fields => fields.lookup name
  | positional items => items[position]?

end Fields

mutual

/-- Whether all numbers in the document can be held. -/
def isReadable : Document → Bool
  | unreadable => false
  | list items => areReadable items
  | table fields => haveReadableValues fields
  | _ => true

/-- Whether all the documents are readable. -/
def areReadable : List Document → Bool
  | [] => true
  | d :: rest => d.isReadable && areReadable rest

/-- Whether all the fields have readable values. -/
def haveReadableValues : List (String × Document) → Bool
  | [] => true
  | (_, d) :: rest => d.isReadable && haveReadableValues rest

end

/-- The fields of a record whose fields have the given names. -/
def fields? (r : Rules) (names : List String) : Document → Option Fields
  | table fields =>
    if fields.all fun f => names.contains f.1 || f.2.isReadable then some (.named fields) else none
  | list items =>
    if r.allowsSurplus || items.length ≤ names.length then some (.positional items) else none
  | moment => some (.named [])
  | _ => none

/-- A text. -/
def asText? : Document → Option String
  | text s => some s
  | _ => none

/-- A truth value. -/
def asBool? : Document → Option Bool
  | bool b => some b
  | _ => none

/-- A count: an integer that is not negative and fits into 64 bits. -/
def asCount? : Document → Option Nat
  | integer (.ofNat n) => if n.log2 < 64 then some n else none
  | _ => none

/-- A list whose items are all read. -/
def asList? {α : Type} (read : Document → Option α) : Document → Option (List α)
  | list items => items.mapM read
  | _ => none

/-- Null for nothing, and any other value as read. -/
def asOptional? {α : Type} (read : Document → Option α) : Document → Option (Option α)
  | null => some none
  | d => (read d).map some

/-- One of the given words. -/
def asWord? {α : Type} (r : Rules) (words : List (String × α)) : Document → Option α
  | text s => words.lookup s
  | table [(s, d)] => if r.isNothing d then words.lookup s else none
  | _ => none

/-- The field that must be there. -/
def required? {α : Type} (read : Document → Option α) (field : Option Document) : Option α :=
  field.bind read

/-- The field, or the default if it is missing. -/
def optional? {α : Type} (read : Document → Option α) (default : α) :
    Option Document → Option α
  | none => some default
  | some d => read d

/-- A list of texts. -/
def asTexts? : Document → Option (List String) := asList? asText?

/-- The words for visibilities. -/
def visibilityWords : List (String × Visibility) := [("public", .public), ("internal", .internal)]

/-- The words for scopes. -/
def scopeWords : List (String × Scope) := [("class", .body), ("companion", .companion)]

/-- The words for the shapes of classes. -/
def classKindWords : List (String × ClassKind) :=
  [("class", .plain), ("interface", .interface), ("enum", .enumeration)]

/-- The layout of sources; every field can be missing. -/
def outputConfig? (r : Rules) (d : Document) : Option OutputConfig := do
  let f ← d.fields? r ["indent", "file_suffix", "emit_header"]
  return {
    indent := ← optional? asCount? 4 (f.get? "indent" 0)
    fileSuffix := ← optional? asText? "" (f.get? "file_suffix" 1)
    emitHeader := ← optional? asBool? true (f.get? "emit_header" 2) }

/-- A class; only the name has to be there. -/
def classInfo? (r : Rules) (d : Document) : Option ClassInfo := do
  let f ← d.fields? r ["name", "kind", "superclass", "interfaces", "constants", "type_parameters"]
  return {
    name := ← required? asText? (f.get? "name" 0)
    kind := ← optional? (asWord? r classKindWords) .plain (f.get? "kind" 1)
    superclass := ← optional? (asOptional? asText?) none (f.get? "superclass" 2)
    interfaces := ← optional? asTexts? [] (f.get? "interfaces" 3)
    constants := ← optional? asTexts? [] (f.get? "constants" 4)
    typeParameters := ← optional? asCount? 0 (f.get? "type_parameters" 5) }

/-- The annotation of a template; only the name has to be there. -/
def templateAnnotation? (r : Rules) (d : Document) : Option TemplateAnnotation := do
  let f ← d.fields? r ["name", "setters", "getters"]
  return {
    name := ← required? asText? (f.get? "name" 0)
    setters := ← optional? asTexts? [] (f.get? "setters" 1)
    getters := ← optional? asTexts? [] (f.get? "getters" 2) }

/-- The annotation of a function; every field can be missing. -/
def memberAnnotation? (r : Rules) (d : Document) : Option MemberAnnotation := do
  let f ← d.fields? r ["name", "tag", "setters", "getters"]
  return {
    name := ← optional? asText? "" (f.get? "name" 0)
    tag := ← optional? asText? "" (f.get? "tag" 1)
    setters := ← optional? asTexts? [] (f.get? "setters" 2)
    getters := ← optional? asTexts? [] (f.get? "getters" 3) }

/-- A function; the name and the return type have to be there. -/
def functionDecl? (r : Rules) (d : Document) : Option FunctionDecl := do
  let f ← d.fields? r ["name", "returns", "scope", "abstract", "item"]
  return {
    name := ← required? asText? (f.get? "name" 0)
    returns := ← required? asText? (f.get? "returns" 1)
    scope := ← optional? (asWord? r scopeWords) .body (f.get? "scope" 2)
    abstractMark := ← optional? (asOptional? asBool?) none (f.get? "abstract" 3)
    item := ← optional? (asOptional? (memberAnnotation? r)) none (f.get? "item" 4) }

/-- A template; only the class name has to be there. -/
def templateDecl? (r : Rules) (d : Document) : Option TemplateDecl := do
  let f ← d.fields? r ["class", "visibility", "bunch", "function"]
  return {
    className := ← required? asText? (f.get? "class" 0)
    visibility := ← optional? (asWord? r visibilityWords) .public (f.get? "visibility" 1)
    annotation := ← optional? (asOptional? (templateAnnotation? r)) none (f.get? "bunch" 2)
    functions := ← optional? (asList? (functionDecl? r)) [] (f.get? "function" 3) }

/-- A manifest; every field can be missing. -/
def manifest? (r : Rules) (d : Document) : Option Manifest := do
  let f ← d.fields? r ["generator", "class", "template"]
  return {
    config := ← optional? (outputConfig? r) {} (f.get? "generator" 0)
    classes := ← optional? (asList? (classInfo? r)) [] (f.get? "class" 1)
    templates := ← optional? (asList? (templateDecl? r)) [] (f.get? "template" 2) }

end Document

end TypedBundle
