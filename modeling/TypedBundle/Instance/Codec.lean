import TypedBundle.Bundle.Heap
import TypedBundle.Diagnostics.Event
import TypedBundle.Type.ClassTable

/-!
# Storing and reading values

`Strategy.encode` turns the argument of a setter into what is stored, or refuses it;
`Strategy.decode` turns what is stored into what a getter answers. Enumeration constants are
stored by name, and everything else as it is. A parcelable argument has to be an instance of the
declared class; a serializable one is taken whatever its class.

A stored value of another shape reads as null, with a warning: another writer may have put
anything under the key.
-/

namespace TypedBundle

/-- A fault of a method's arguments. -/
def mismatch (method reason : String) : Fault := .argumentMismatch method reason

namespace Strategy

/-- Whether an argument is stored as it is. -/
def accepts (classes : ClassTable) (ty : TypeDescriptor) : Strategy → Value → Bool
  | direct kind, v => v.fits kind
  | objectList, .parcelableList os =>
    match ty.arguments.head? with
    | some element => os.all fun o => classes.isSubtype o.className element.name
    | none => false
  | object, .parcelable o => classes.isSubtype o.className ty.name
  | serializable, .serializable _ => true
  | _, _ => false

/-- The refusal of an argument. -/
def refusal (method : String) (ty : TypeDescriptor) (v : Value) : Fault :=
  mismatch method ("expected " ++ ty.display ++ ", got " ++ v.typeLabel)

/-- What is stored for an argument of a setter. -/
def encode (classes : ClassTable) (method : String) (ty : TypeDescriptor) (s : Strategy)
    (v : Value) : Except Fault Value :=
  match s, v with
  | enum, .enum typeName constant =>
    if typeName ≠ ty.name then .error (refusal method ty v)
    else if ty.constants.contains constant then .ok (.string constant)
    else .error (.invalidEnumConstant typeName constant)
  | s, v => if s.accepts classes ty v then .ok v else .error (refusal method ty v)

/-- Whether a stored value has the shape that the strategy stores. -/
def hasShape : Strategy → Value → Bool
  | direct kind, v => v.fits kind
  | objectList, .parcelableList _ => true
  | object, .parcelable _ => true
  | serializable, .serializable _ => true
  | enum, .string _ => true
  | _, _ => false

/-- What a getter answers for what is stored. -/
def decode (ty : TypeDescriptor) (s : Strategy) (stored : Option Value) :
    Except Fault (Option Value) :=
  match stored with
  | none => .ok none
  | some v =>
    match s, v with
    | enum, .string constant =>
      if ty.constants.contains constant then .ok (some (.enum ty.name constant))
      else .error (.invalidEnumConstant ty.name constant)
    | s, v => .ok (if s.hasShape v then some v else none)

/-- The warning that reading what is stored gives, if it has another shape. -/
def warning? (s : Strategy) (key : String) (stored : Option Value) : Option Event :=
  (stored.filter (!s.hasShape ·)).map fun v =>
    { severity := .warn, stage := .execution,
      fields := [("message", .printed "Stored value has unexpected type"), ("key", .text key),
        ("expected", .text s.label), ("found", .text v.typeLabel)] }

end Strategy

end TypedBundle
