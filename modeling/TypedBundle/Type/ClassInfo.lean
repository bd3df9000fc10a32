import TypedBundle.Type.Descriptor

/-!
# Classes

What the class table knows of a class, and the classes that every table holds.
-/

namespace TypedBundle

/-- The shape in which a class is declared. -/
inductive ClassKind where
  | plain
  | interface
  | enumeration
  deriving Repr, BEq, DecidableEq, Inhabited

/-- A class that types can name. -/
structure ClassInfo where
  /-- The full name. -/
  name : String
  kind : ClassKind := .plain
  /-- The superclass, by full or simple name. -/
  superclass : Option String := none
  /-- The interfaces implemented directly, by full or simple name. -/
  interfaces : List String := []
  /-- The constants of an enumeration, in order. -/
  constants : List String := []
  typeParameters : Nat := 0
  deriving Repr, BEq, DecidableEq, Inhabited

namespace ClassInfo

/-- The superclass that the class extends. An enumeration extends the base of enumerations,
whatever it declares. -/
def extended (c : ClassInfo) : Option String :=
  match c.kind with
  | .enumeration => some TypeDescriptor.enumBase
  | _ => c.superclass

/-- The classes directly above the class: its superclass, then its interfaces. -/
def parents (c : ClassInfo) : List String := c.extended.toList ++ c.interfaces

end ClassInfo

namespace Platform

/-- The interface of objects that a bundle stores as parcels. -/
def parcelable : String := "android.os.Parcelable"

/-- The interface of objects that a bundle stores by serialization. -/
def serializable : String := "java.io.Serializable"

/-- The interface of ordered values. -/
def comparable : String := "kotlin.Comparable"

/-- The class of bundles. -/
def bundle : String := "android.os.Bundle"

/-- The interface of remote objects. -/
def binder : String := "android.os.IBinder"

/-- The interface of lists. -/
def list : String := "kotlin.collections.List"

/-- The generic array. -/
def array : String := "kotlin.Array"

/-- The class of texts. -/
def string : String := "kotlin.String"

/-- The interface of character sequences. -/
def charSequence : String := "kotlin.CharSequence"

/-- The simple names of the scalar types. -/
def scalars : List String :=
  ["Boolean", "Byte", "Char", "Short", "Int", "Long", "Float", "Double"]

/-- The classes that every table holds. -/
def classes : List ClassInfo :=
  [{ name := parcelable, kind := .interface },
   { name := serializable, kind := .interface },
   { name := binder, kind := .interface },
   { name := comparable, kind := .interface, typeParameters := 1 },
   { name := charSequence, kind := .interface },
   { name := list, kind := .interface, typeParameters := 1 },
   { name := TypeDescriptor.enumBase, interfaces := [comparable, serializable],
     typeParameters := 1 },
   { name := bundle, interfaces := [parcelable] },
   { name := string, interfaces := [charSequence, comparable, serializable] },
   { name := array, interfaces := [serializable], typeParameters := 1 }] ++
  scalars.map (fun s =>
    { name := Name.qualified "kotlin" s, interfaces := [comparable, serializable] }) ++
  scalars.map (fun s =>
    { name := Name.qualified "kotlin" (s ++ "Array"), interfaces := [serializable] })

end Platform

end TypedBundle
