import TypedBundle.Accessor.AccessorType
import TypedBundle.Kotlin.Code
import TypedBundle.Kotlin.Imports
import TypedBundle.Manifest.Basic

/-!
# Kotlin sources

The Kotlin file of a generated type: a class around a bundle, with the instance methods, a
nested accumulator of presence assertions, two nested exceptions, and a companion object with
the entry points and the private helpers that wrap the bundle's own calls.
-/

namespace TypedBundle.Kotlin

/-- The exception for an absent entry. -/
def propertyNotFound : String := "PropertyNotFoundException"

/-- The exception for a failed presence assertion. -/
def missingKey : String := "MissingKeyException"

/-- The accumulator of presence assertions. -/
def accumulator : String := "Assert"

/-- The class of growing lists. -/
def arrayList : String := "kotlin.collections.ArrayList"

/-- The class above both exceptions. -/
def illegalStateException : String := "kotlin.IllegalStateException"

/-- The annotation that silences warnings. -/
def suppress : String := "kotlin.Suppress"

/-- The classes that a helper mentions. -/
def Imports.addHelper (i : Imports) : Helper → Imports
  | .insert (.direct kind) | .extract (.direct kind) | .extractWithFallback kind =>
    i.add kind.descriptor
  | .insert .object | .extract .object | .insert .objectList | .extract .objectList =>
    i.addName Platform.parcelable
  | .insert .serializable | .extract .serializable => i.addName Platform.serializable
  | .insert .enum | .extract .enum => i

/-- The types that a method's signature mentions. -/
def signatureTypes (m : Method) : List TypeDescriptor :=
  m.params.map (·.type) ++
    match m.returns with
    | .value ty _ => [ty]
    | _ => []

/-- The imports of the file of a type: the bundle, then what methods and helpers mention. -/
def importsOf (g : AccessorType) : Imports :=
  let bundle := Imports.addName { package := g.package } Platform.bundle
  let types := (g.methods ++ g.companion).flatMap signatureTypes
  g.helpers.foldl Imports.addHelper (types.foldl Imports.add bundle)

namespace AccessorFile

variable (g : AccessorType) (i : Imports)

/-- The container of the file. -/
def bundle : Line := i.classLine Platform.bundle

/-- The interface of parcels. -/
def parcelable : Line := i.classLine Platform.parcelable

/-- The interface of serializable objects. -/
def serializable : Line := i.classLine Platform.serializable

/-- The type of a kind. -/
def kindLine (kind : Kind) : Line := i.typeLine kind.descriptor

/-- The generated type itself. -/
def self : Line := .ofRef g.name g.qualifiedName

/-- A class that is nested in the generated type. -/
def nested (name : String) : Line := .ofRef name (Name.qualified g.qualifiedName name)

/-- A class of the language's own library, by its simple name. -/
def library (name : String) : Line := .ofRef (Name.simple name) name

/-- The call of a default body. Its owner is the template. -/
def defaultCall (call : DefaultCall) : Line :=
  Line.ofRef call.owner g.template ++ ("." ++ call.function ++ "()")

/-- The fallback value that is handed over with a read, if there is one. -/
def inlineFallback? : Strategy → Fallback → Option Line
  | .direct kind, .inlineZero => kind.zeroLiteral?.map Line.ofText
  | .direct _, .inlineDefault call => some (defaultCall g call)
  | _, _ => none

/-- The type argument of a read. -/
def typeArgument (strategy : Strategy) (ty : TypeDescriptor) : Line :=
  let argument :=
    match strategy with
    | .direct _ => none
    | .objectList => ty.arguments.head?
    | .enum | .object | .serializable => some ty
  match argument with
  | some a => "<" ++ i.typeLine a ++ ">"
  | none => ""

/-- What follows a read whose result is null for an absent entry. -/
def afterRead (key : String) : Fallback → Line
  | .orThrow => " ?: throw " ++ nested g propertyNotFound ++ ("(" ++ literal key ++ ")")
  | .orDefault call | .inlineDefault call => " ?: " ++ defaultCall g call
  | .orNull | .inlineZero => ""

/-- The statement of a method. -/
def statement (m : Method) : Line :=
  match m.body with
  | .store key strategy param =>
    "return apply \x7b this.bundle." ++ (Helper.insert strategy).name ++ "(" ++ literal key ++
      ", " ++ param ++ ") \x7d"
  | .load key strategy ty fallback =>
    let helper := ((Helper.ofBody? m.body).map Helper.name).getD ""
    match inlineFallback? g strategy fallback with
    | some value => ("return bundle." ++ helper ++ "(" ++ literal key ++ ", ") ++ value ++ ")"
    | none =>
      ("return bundle." ++ helper) ++ typeArgument i strategy ty ++ ("(" ++ literal key ++ ")") ++
        afterRead g key fallback
  | .assert _ => "return " ++ nested g accumulator ++ ("()." ++ m.name ++ "()")
  | .collect => "return bundle"
  | .assertChain key => "return add(" ++ literal key ++ ")"
  | .entry setter param =>
    "return " ++ self g ++ "(" ++ bundle i ++ ("())." ++ setter ++ "(" ++ param ++ ")")
  | .wrap =>
    let param := (m.params.head?.map Param.name).getD "bundle"
    "return " ++ self g ++ ("(" ++ param ++ ".duplicate())")

/-- What a method returns. -/
def returns : Returns → Line
  | .receiver => self g
  | .value ty nullable => if nullable then i.typeLine ty ++ "?" else i.typeLine ty
  | .assertion => nested g accumulator
  | .container => bundle i

/-- A parameter of a method. -/
def parameter (p : Param) : Line := (p.name ++ ": ") ++ i.typeLine p.type

/-- A function of the signature of a method, with one statement. -/
def function (m : Method) (statement : Line) : Code :=
  .block (("fun " ++ m.name ++ "(") ++ .separatedBy ", " (m.params.map (parameter i)) ++ "): " ++
    returns g i m.returns) [.line statement]

/-- The function of an instance method. -/
def instanceFunction (m : Method) : Code := function g i m (statement g i m)

/-- The function on the accumulator, for a method that belongs there. -/
def assertFunction (m : Method) : List Code :=
  match m.body with
  | .assertChain key | .assert key => [function g i m ("return add(" ++ literal key ++ ")")]
  | _ => []

/-- The accumulator of presence assertions. -/
def assertClass : Code :=
  .block ("inner class " ++ accumulator) <|
    Code.separated <|
      [[.line ("private val keys = mutableListOf<" ++ library Platform.string ++ ">()")],
       [.line ("private fun add(key: " ++ library Platform.string ++ "): " ++
          nested g accumulator ++ " = apply \x7b keys.add(key) \x7d")]] ++
      g.assertMethods.map (assertFunction g i) ++
      [[.block "fun assert()"
        [.line "val present = bundle.keySet()",
         .line ("keys.firstOrNull \x7b it !in present \x7d?.let \x7b throw " ++
          nested g missingKey ++ "(it) \x7d")]]]

/-- The nested exception class of a name, with a message. -/
def exceptionClass (name message : String) : Code :=
  .line (("class " ++ name ++ "(val key: ") ++ library Platform.string ++ ") : " ++
    library illegalStateException ++ ("(\"" ++ message ++ "\")"))

/-- The function of an entry point, for a method that is one. -/
def companionFunction (m : Method) : List Code :=
  match m.body with
  | .wrap | .entry .. => [function g i m (statement g i m)]
  | _ => []

/-- The helper that copies a bundle, the empty one into a new one. -/
def duplicateHelper : Code :=
  let bundle := bundle i
  .block ("private fun " ++ bundle ++ ".duplicate(): " ++ bundle)
    [.line ("return if (this === " ++ bundle ++ ".EMPTY) " ++ bundle ++ "() else clone() as " ++
      bundle)]

/-- The type of the value that a helper writes, and the bundle's call for it. -/
def insertion : Strategy → Line × Line
  | .direct kind => (kindLine i kind, "put" ++ kind.label ++ "(key, value)")
  | .objectList => (library Platform.list ++ "<" ++ parcelable i ++ ">",
      "putParcelableArrayList(key, " ++ library arrayList ++ "(value))")
  | .enum => (library TypeDescriptor.enumBase ++ "<*>", "putString(key, value.name)")
  | .object => (parcelable i, "putParcelable(key, value)")
  | .serializable => (serializable i, "putSerializable(key, value)")

/-- A helper that reads: what stands before its receiver, its result, and its statement. -/
def extraction : Strategy → Line × Line × Line
  | .direct kind => ("private fun ", kindLine i kind ++ "?", "return get" ++ kind.label ++ "(key)")
  | .objectList => ("private fun <T : " ++ parcelable i ++ "> ",
      library Platform.list ++ "<T>?", "return getParcelableArrayList(key)")
  | .enum => ("private inline fun <reified T : " ++ library TypeDescriptor.enumBase ++ "<T>> ",
      "T?", "return getString(key)?.let \x7b enumValueOf<T>(it) \x7d")
  | .object => ("private fun <T : " ++ parcelable i ++ "> ", "T?", "return getParcelable(key)")
  | .serializable => ("private fun <T : " ++ serializable i ++ "> ", "T?",
      "return getSerializable(key) as? T")

/-- What is written before a helper. -/
def helperAnnotation : Helper → List Code
  | .extract .serializable => [.line ("@" ++ library suppress ++ "(\"UNCHECKED_CAST\")")]
  | _ => []

/-- The function of a helper. -/
def helperFunction (helper : Helper) : List Code :=
  let receiver := bundle i ++ ("." ++ helper.name)
  let string := library Platform.string
  helperAnnotation helper ++
    match helper with
    | .insert strategy =>
      let (value, call) := insertion i strategy
      [.block ("private fun " ++ receiver ++ "(key: " ++ string ++ ", value: " ++ value ++ ")")
        [.line call]]
    | .extractWithFallback kind =>
      let ty := kindLine i kind
      [.block ("private fun " ++ receiver ++ "(key: " ++ string ++ ", fallback: " ++ ty ++ "): " ++
          ty)
        [.line ("return get" ++ kind.label ++ "(key, fallback)")]]
    | .extract strategy =>
      let (lead, result, text) := extraction i strategy
      [.block (lead ++ receiver ++ "(key: " ++ string ++ "): " ++ result) [.line text]]

/-- The companion object. -/
def companionObject : Code :=
  .block "companion object" <|
    Code.separated <|
      g.companion.map (companionFunction g i) ++ [[duplicateHelper i]] ++
        g.helpers.map (helperFunction i)

/-- The class. -/
def mainClass : Code :=
  let modifier : String := match g.visibility with
    | .public => ""
    | .internal => "internal "
  .block ((modifier ++ "class " ++ g.name ++ " private constructor(private val bundle: ") ++
      bundle i ++ ")") <|
    g.methods.flatMap (fun m => [.blank, instanceFunction g i m]) ++
    [.blank, assertClass g i,
     .blank, exceptionClass propertyNotFound "Property $key not found",
     .blank, exceptionClass missingKey "$key not found",
     .blank, companionObject g i]

/-- The whole file. -/
def file (config : OutputConfig) : List Code :=
  let header :=
    if config.emitHeader then
      [.line ("// Generated by bunch from " ++ g.template ++ ". Do not edit."), .blank]
    else []
  let package := if g.package = "" then [] else [.line ("package " ++ g.package), .blank]
  let imports := match i.lines with
    | [] => []
    | lines => lines.map (fun line => .line line) ++ [.blank]
  header ++ package ++ imports ++ [mainClass g i]

end AccessorFile

/-- The Kotlin source of a generated type. -/
def source (g : AccessorType) (config : OutputConfig) : String :=
  Code.renderAll config.indentUnit 0 (AccessorFile.file g (importsOf g) config)

end TypedBundle.Kotlin
