import TypedBundle.Text.Characters
import TypedBundle.Text.UpperCase

/-!
# Names

The full names of classes, and the identifiers of functions and parameters.
-/

/-!
## Dotted names

Classes are named by a package, a dot and a simple name: `com.example.Child` has the package
`com.example` and the simple name `Child`. A name without a dot lies in the default package,
which is written as the empty text.
-/

namespace TypedBundle.Name

/-- The part of a name after its last dot. -/
def simple (name : String) : String :=
  String.ofList (name.toList.reverse.takeWhile (· != '.')).reverse

/-- The part of a name before its last dot, empty if there is none. -/
def package (name : String) : String :=
  String.ofList ((name.toList.reverse.dropWhile (· != '.')).drop 1).reverse

/-- The full name of a class in a package. -/
def qualified (package name : String) : String :=
  if package = "" then name else package ++ "." ++ name

/-- Whether the name is dotted and `simpleName`, without a dot itself, is its last part. -/
def endsIn (name simpleName : String) : Bool :=
  ('.' :: simpleName.toList).isSuffixOf name.toList

end TypedBundle.Name

/-!
## Identifiers

Which words can name a Kotlin function or parameter, and how a word is joined to one before it:
`get` and `myIndex` make `getMyIndex`.
-/

namespace TypedBundle.Identifier

/-- The hard keywords of Kotlin, which cannot name a function or a parameter. -/
def keywords : List String := [
  "as", "break", "class", "continue", "do", "else", "false", "for", "fun", "if", "in",
  "interface", "is", "null", "object", "package", "return", "super", "this", "throw", "true",
  "try", "typealias", "typeof", "val", "var", "when", "while"]

/-- Whether the character can begin a name: a letter or the underscore. -/
def isFirst (c : Char) : Bool := Text.isAlphabetic c || c == '_'

/-- Whether the character can stand in a name: a letter, a number or the underscore. -/
def isPart (c : Char) : Bool := Text.isAlphanumeric c || c == '_'

/-- Whether the word can begin a name. Keywords can: `do` is no name, but `doIndex` is. -/
def canBegin (word : String) : Bool :=
  match word.toList with
  | [] => false
  | c :: rest => isFirst c && rest.all isPart

/-- Whether the word is a legal name. -/
def isLegal (word : String) : Bool := canBegin word && !keywords.contains word

/-- The word with its first character in upper case, by the full case mapping. -/
def capitalize (word : String) : String :=
  match word.toList with
  | [] => ""
  | c :: rest => String.ofList (Text.upper c ++ rest)

/-- The name of an accessor: a leading word and the capitalized property. -/
def accessor (lead property : String) : String := lead ++ capitalize property

end TypedBundle.Identifier
