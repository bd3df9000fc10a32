import TypedBundle.Kotlin.Code
import TypedBundle.Type.Descriptor

/-!
# Imports of a Kotlin file

Which classes a file writes by simple name. A simple name belongs to the first class that is
registered with it; every other class that shares it is written in full. The classes of the
file's own package and those of `kotlin` and `kotlin.collections` need no import line.
-/

namespace TypedBundle.Kotlin

/-- The packages whose classes every file sees. -/
def implicitPackages : List String := ["kotlin", "kotlin.collections"]

/-- The simple names in use in a file, each with the full name of its class. -/
structure Imports where
  /-- The package of the file. -/
  package : String
  owners : Dict String := {}
  deriving Repr, BEq, DecidableEq

namespace Imports

/-- Registers a class. -/
def addName (i : Imports) (name : String) : Imports :=
  if i.owners.contains (Name.simple name) then i
  else { i with owners := i.owners.insert (Name.simple name) name }

/-- Registers the classes of a type. -/
def add (i : Imports) (ty : TypeDescriptor) : Imports := ty.names.foldl addName i

/-- Whether the file sees the class without importing it. -/
def isVisible (i : Imports) (name : String) : Bool :=
  Name.package name == i.package || implicitPackages.contains (Name.package name)

/-- How the file writes a class. -/
def className (i : Imports) (name : String) : String :=
  match i.owners.find? (Name.simple name) with
  | some owner => if owner = name then Name.simple name else name
  | none => if i.isVisible name then Name.simple name else name

/-- The name of a class in a line of the file. -/
def classLine (i : Imports) (name : String) : Line := .ofRef (i.className name) name

mutual

/-- A type in a line of the file. -/
def typeLine (i : Imports) : TypeDescriptor → Line
  | ⟨name, arguments, _, _, _⟩ =>
    match arguments with
    | [] => i.classLine name
    | first :: others =>
      i.classLine name ++ "<" ++ typeLine i first ++ typeLines i others ++ ">"

/-- Each type after a comma and a space. -/
def typeLines (i : Imports) : List TypeDescriptor → Line
  | [] => ""
  | ty :: rest => ", " ++ typeLine i ty ++ typeLines i rest

end

/-- How the file writes a type. -/
def typeName (i : Imports) (ty : TypeDescriptor) : String := (i.typeLine ty).text

/-- The classes that the file has to import, in order. -/
def imported (i : Imports) : List String :=
  (NameSet.ofList ((i.owners.toList.map (·.2)).filter (!i.isVisible ·))).toList

/-- The import lines, in the order of the classes. -/
def lines (i : Imports) : List String := i.imported.map ("import " ++ ·)

end Imports

end TypedBundle.Kotlin
