import TypedBundle.Type.ClassInfo

/-!
# How values are stored

The types that a bundle stores natively, and how the values of any other type are stored.
-/

namespace TypedBundle

/-!
## Native kinds

The types that a bundle stores natively, each with typed calls of its own (`putInt`,
`getIntArray`).
-/

/-- What a getter can do about an absent entry. -/
inductive GetterClass where
  /-- The bundle itself answers with a zero value, so one getter is enough. -/
  | zeroDefault
  /-- The bundle takes a fallback value, and can also answer with null. -/
  | fallbackCapable
  /-- Absence shows as null only. -/
  | nullable
  deriving Repr, BEq, DecidableEq

namespace GetterClass

/-- The word for the class of getters. -/
def label : GetterClass → String
  | zeroDefault => "ZeroDefault"
  | fallbackCapable => "FallbackCapable"
  | nullable => "Nullable"

end GetterClass

/-- A type that a bundle stores natively. -/
inductive Kind where
  | boolean
  | byte
  | char
  | short
  | int
  | long
  | float
  | double
  | booleanArray
  | byteArray
  | charArray
  | shortArray
  | intArray
  | longArray
  | floatArray
  | doubleArray
  | string
  | charSequence
  | stringArray
  | charSequenceArray
  | binder
  | bundle
  deriving Repr, BEq, DecidableEq, Inhabited

namespace Kind

/-- Every kind, in order. -/
def all : List Kind := [
  .boolean, .byte, .char, .short, .int, .long, .float, .double,
  .booleanArray, .byteArray, .charArray, .shortArray, .intArray,
  .longArray, .floatArray, .doubleArray, .string, .charSequence,
  .stringArray, .charSequenceArray, .binder, .bundle]

/-- The word for the kind in the names of the bundle's calls. -/
def label : Kind → String
  | boolean => "Boolean"
  | byte => "Byte"
  | char => "Char"
  | short => "Short"
  | int => "Int"
  | long => "Long"
  | float => "Float"
  | double => "Double"
  | booleanArray => "BooleanArray"
  | byteArray => "ByteArray"
  | charArray => "CharArray"
  | shortArray => "ShortArray"
  | intArray => "IntArray"
  | longArray => "LongArray"
  | floatArray => "FloatArray"
  | doubleArray => "DoubleArray"
  | string => "String"
  | charSequence => "CharSequence"
  | stringArray => "StringArray"
  | charSequenceArray => "CharSequenceArray"
  | binder => "Binder"
  | bundle => "Bundle"

/-- The class whose values have the kind. The arrays of texts have none of their own: they are
instances of the generic array. -/
def className? : Kind → Option String
  | string => some Platform.string
  | charSequence => some Platform.charSequence
  | binder => some Platform.binder
  | bundle => some Platform.bundle
  | stringArray | charSequenceArray => none
  | kind => some (Name.qualified "kotlin" kind.label)

/-- The kind of the generic array over an element type. -/
def ofElement? (element : TypeDescriptor) : Option Kind :=
  if element.name = Platform.string then some stringArray
  else if element.name = Platform.charSequence then some charSequenceArray
  else none

/-- The kind in which values of the type are stored natively. -/
def ofDescriptor? (ty : TypeDescriptor) : Option Kind :=
  if ty.name = Platform.array then ty.arguments.head?.bind ofElement?
  else all.find? fun kind => kind.className? == some ty.name

/-- The type as which values of the kind are put and read. -/
def descriptor : Kind → TypeDescriptor
  | stringArray => { name := Platform.array, arguments := [.named Platform.string] }
  | charSequenceArray => { name := Platform.array, arguments := [.named Platform.charSequence] }
  | kind => .named (kind.className?.getD "")

/-- What a getter of the kind can do about an absent entry. -/
def getterClass : Kind → GetterClass
  | boolean | byte | char | short | int | long | float | double => .zeroDefault
  | string | charSequence => .fallbackCapable
  | _ => .nullable

/-- The Kotlin literal of the bundle's zero value. -/
def zeroLiteral? : Kind → Option String
  | boolean => some "false"
  | byte | short | int => some "0"
  | char => some "'\\u0000'"
  | long => some "0L"
  | float => some "0f"
  | double => some "0.0"
  | _ => none

end Kind

/-!
## Strategies

How the values of a type are written to a bundle and read back. The rules are tried in order:
a native kind, a list of parcelable objects, an enumeration, a parcelable object, a serializable
object. The order matters, because a bundle is also parcelable, a scalar is also serializable,
and so is every enumeration.
-/

/-- How values of a type are stored. -/
inductive Strategy where
  /-- As they are, by calls of their own. -/
  | direct (kind : Kind)
  /-- As a list of parcelable objects. -/
  | objectList
  /-- As the name of the constant. -/
  | enum
  /-- As a parcelable object. -/
  | object
  /-- As a serializable object. -/
  | serializable
  deriving Repr, BEq, DecidableEq, Inhabited

namespace Strategy

/-- Every strategy, in order. -/
def all : List Strategy :=
  Kind.all.map direct ++ [objectList, enum, object, serializable]

/-- The word for the strategy in the names of helpers. -/
def label : Strategy → String
  | direct kind => kind.label
  | objectList => "ParcelableList"
  | enum => "Enum"
  | object => "Parcelable"
  | serializable => "Serializable"

/-- What a getter can do about an absent entry. -/
def getterClass : Strategy → GetterClass
  | direct kind => kind.getterClass
  | _ => .nullable

/-- The strategy without a native kind, if the type has one. -/
def ofCapability? (ty : TypeDescriptor) : Option Strategy :=
  if ty.name = Platform.list ∧ ty.arguments.head?.any (·.implements Platform.parcelable) then
    some objectList
  else if ty.isEnum then some enum
  else if ty.implements Platform.parcelable then some object
  else if ty.implements Platform.serializable then some serializable
  else none

/-- The strategy for a type: the first rule that fits. -/
def ofDescriptor? (ty : TypeDescriptor) : Option Strategy :=
  ((Kind.ofDescriptor? ty).map direct).or (ofCapability? ty)

end Strategy

end TypedBundle
