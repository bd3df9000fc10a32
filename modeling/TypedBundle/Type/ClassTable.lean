import TypedBundle.Type.ClassInfo
import TypedBundle.Type.Expr

/-!
# Class tables

The classes that types can name, by full name, and the resolution of type expressions against
them. A class may be named in full or by its simple name, if no other class shares that.

The supertypes of a class are found by following parents. A parent that cannot be found, or one
that is met again on the way up from itself, spoils the whole hierarchy below it.
-/

namespace TypedBundle

/-- The known classes, by full name. -/
structure ClassTable where
  classes : Dict ClassInfo
  deriving Repr, BEq, DecidableEq, Inhabited

namespace ClassTable

/-- Adds a class, in place of an older one with its name. -/
def declare (t : ClassTable) (c : ClassInfo) : ClassTable := ⟨t.classes.insert c.name c⟩

/-- Adds classes in order. -/
def declareAll (t : ClassTable) (cs : List ClassInfo) : ClassTable := cs.foldl declare t

/-- The table of the platform's own classes. -/
def platform : ClassTable := declareAll ⟨{}⟩ Platform.classes

/-- The class with the full name. -/
def find? (t : ClassTable) (name : String) : Option ClassInfo := t.classes.find? name

/-- The number of classes. -/
def size (t : ClassTable) : Nat := t.classes.size

/-- The full name of the class that a full or simple name stands for. -/
def qualify (t : ClassTable) (name : String) : Except TypeError String :=
  if t.classes.contains name then .ok name
  else if name.toList.contains '.' then .error (.unknownClass name)
  else
    match t.classes.keys.filter (Name.endsIn · name) with
    | [] => .error (.unknownClass name)
    | [only] => .ok only
    | _ => .error (.ambiguous name)

/-- The names above a class. `free` holds the classes that are not on the way up to it: to need
one that is not free is to go in a circle. -/
def supertypesFrom (t : ClassTable) (free : List String) (name : String) :
    Except TypeError NameSet :=
  match t.find? name with
  | none => .error (.unknownClass name)
  | some c =>
    if _h : name ∈ free then
      c.parents.foldlM (fun found parent => do
        let full ← t.qualify parent
        let above ← t.supertypesFrom (free.erase name) full
        return (found.union above).insert full) {}
    else .error (.cyclic name)
termination_by free.length
decreasing_by
  rw [List.length_erase_of_mem _h]
  have := List.length_pos_of_mem _h
  omega

/-- The names above a class. -/
def supertypes (t : ClassTable) (name : String) : Except TypeError NameSet :=
  t.supertypesFrom t.classes.keys name

mutual

/-- Resolves a type expression. -/
def describe (t : ClassTable) : TypeExpr → Except TypeError TypeDescriptor
  | ⟨written, arguments⟩ => do
    let name ← t.qualify written
    match t.find? name with
    | none => throw (.unknownClass name)
    | some c =>
      if c.typeParameters ≠ arguments.length then
        throw (.arity name c.typeParameters arguments.length)
      let arguments ← t.describeAll arguments
      let superclass ← c.extended.mapM t.qualify
      let supertypes ← t.supertypes name
      return { name, arguments, superclass, supertypes, constants := c.constants }

/-- Resolves type expressions in order, up to the first error. -/
def describeAll (t : ClassTable) : List TypeExpr → Except TypeError (List TypeDescriptor)
  | [] => .ok []
  | e :: rest => do
    let ty ← t.describe e
    let others ← t.describeAll rest
    return ty :: others

end

/-- Parses and resolves a type. -/
def describeText (t : ClassTable) (source : String) : Except TypeError TypeDescriptor := do
  t.describe (← TypeExpr.parse source)

/-- Whether a class is another one or below it. A class that is unknown, or whose hierarchy is
broken, is below nothing. -/
def isSubtype (t : ClassTable) (name ancestor : String) : Bool :=
  name == ancestor ||
    match t.supertypes name with
    | .ok above => above.contains ancestor
    | .error _ => false

end ClassTable

end TypedBundle
