import TypedBundle.Decimal
import TypedBundle.Storage.Strategy
import TypedBundle.Text.Quoted

/-!
# Values

What a bundle holds, and what setters take and getters give. A value of a native kind is held as
it is; other objects are known by their class and an opaque state. Bundles are shared: a value
holds a reference to one.
-/

namespace TypedBundle

/-- A number of the 32-bit binary format, by its bits. -/
structure Binary32 where
  bits : UInt32
  deriving Repr, DecidableEq, Inhabited

/-- A number of the 64-bit binary format, by its bits. -/
structure Binary64 where
  bits : UInt64
  deriving Repr, DecidableEq, Inhabited

/-- Equality as numbers: an undefined number equals none, and the two zeros are equal. -/
instance : BEq Binary32 := ⟨fun a b => BinaryFormat.single.equal a.bits.toNat b.bits.toNat⟩

/-- Equality as numbers: an undefined number equals none, and the two zeros are equal. -/
instance : BEq Binary64 := ⟨fun a b => BinaryFormat.double.equal a.bits.toNat b.bits.toNat⟩

/-- The text of the number in a style. -/
def Binary32.text (x : Binary32) (s : FloatStyle) : String :=
  s.text (BinaryFormat.single.decode x.bits.toNat)

/-- The text of the number in a style. -/
def Binary64.text (x : Binary64) (s : FloatStyle) : String :=
  s.text (BinaryFormat.double.decode x.bits.toNat)

/-- A reference to a bundle. -/
structure Bundle where
  index : Nat
  deriving Repr, BEq, DecidableEq, Inhabited

/-- An object of which only the class matters. -/
structure ObjectValue where
  /-- The full name of the class. -/
  className : String
  /-- What else tells objects apart. -/
  state : String
  deriving Repr, BEq, DecidableEq, Inhabited

/-- A value. -/
inductive Value where
  | boolean (v : Bool)
  | byte (v : Int8)
  | char (v : Char)
  | short (v : Int16)
  | int (v : Int32)
  | long (v : Int64)
  | float (v : Binary32)
  | double (v : Binary64)
  | booleanArray (vs : List Bool)
  | byteArray (vs : List Int8)
  | charArray (vs : List Char)
  | shortArray (vs : List Int16)
  | intArray (vs : List Int32)
  | longArray (vs : List Int64)
  | floatArray (vs : List Binary32)
  | doubleArray (vs : List Binary64)
  | string (s : String)
  | charSequence (s : String)
  | stringArray (ss : List String)
  | charSequenceArray (ss : List String)
  /-- The identity of a remote object. -/
  | binder (token : String)
  /-- Another bundle, which is shared and not copied. -/
  | bundle (b : Bundle)
  | parcelable (o : ObjectValue)
  | parcelableList (os : List ObjectValue)
  | serializable (o : ObjectValue)
  /-- An enumeration's constant. A bundle only ever holds its name. -/
  | enum (typeName constant : String)
  deriving Repr, DecidableEq, Inhabited

namespace Value

/-- The native kind of the value. -/
def kind? : Value → Option Kind
  | .boolean _ => some .boolean
  | .byte _ => some .byte
  | .char _ => some .char
  | .short _ => some .short
  | .int _ => some .int
  | .long _ => some .long
  | .float _ => some .float
  | .double _ => some .double
  | .booleanArray _ => some .booleanArray
  | .byteArray _ => some .byteArray
  | .charArray _ => some .charArray
  | .shortArray _ => some .shortArray
  | .intArray _ => some .intArray
  | .longArray _ => some .longArray
  | .floatArray _ => some .floatArray
  | .doubleArray _ => some .doubleArray
  | .string _ => some .string
  | .charSequence _ => some .charSequence
  | .stringArray _ => some .stringArray
  | .charSequenceArray _ => some .charSequenceArray
  | .binder _ => some .binder
  | .bundle _ => some .bundle
  | .parcelable _ | .parcelableList _ | .serializable _ | .enum _ _ => none

/-- Whether an entry of the kind takes the value. A text is also a character sequence. -/
def fits (v : Value) (kind : Kind) : Bool :=
  match v.kind?, kind with
  | some .string, .charSequence => true
  | some .stringArray, .charSequenceArray => true
  | some actual, expected => actual == expected
  | none, _ => false

/-- The word for what the value is. -/
def typeLabel : Value → String
  | .parcelable _ => "Parcelable"
  | .parcelableList _ => "ParcelableList"
  | .serializable _ => "Serializable"
  | .enum _ _ => "Enum"
  | v => (v.kind?.map Kind.label).getD "?"

/-- The value as a text. -/
def asText? : Value → Option String
  | .string s | .charSequence s => some s
  | _ => none

/-- The value as a 32-bit integer. -/
def asInt? : Value → Option Int32
  | .int n => some n
  | _ => none

/-- What a bundle answers for an absent entry of the kind, if it answers at all. -/
def zero? : Kind → Option Value
  | .boolean => some (.boolean false)
  | .byte => some (.byte 0)
  | .char => some (.char '\x00')
  | .short => some (.short 0)
  | .int => some (.int 0)
  | .long => some (.long 0)
  | .float => some (.float ⟨0⟩)
  | .double => some (.double ⟨0⟩)
  | _ => none

/-- Equality of values, given how bundles compare. -/
def equalWith (same : Bundle → Bundle → Option Bool) : Value → Value → Option Bool
  | .bundle a, .bundle b => same a b
  | .float a, .float b => some (a == b)
  | .double a, .double b => some (a == b)
  | .floatArray as, .floatArray bs => some (as == bs)
  | .doubleArray as, .doubleArray bs => some (as == bs)
  | v, w => some (decide (v = w))

end Value

end TypedBundle
