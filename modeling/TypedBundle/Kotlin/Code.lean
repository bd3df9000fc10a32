/-!
# Source text

The text of a Kotlin file before it is written out: string literals, lines in which the names of
classes are marked, and the layout of lines in blocks.
-/

namespace TypedBundle.Kotlin

/-!
## String literals

A text between double quotes, in which a backslash escapes what would end the literal, start a
template or break the line.
-/

/-- How a character is written inside a literal. -/
def escape : Char → List Char
  | '"' => ['\\', '"']
  | '\\' => ['\\', '\\']
  | '$' => ['\\', '$']
  | '\n' => ['\\', 'n']
  | '\r' => ['\\', 'r']
  | '\t' => ['\\', 't']
  | c => [c]

/-- The literal of a text. -/
def literal (s : String) : String := "\"" ++ String.ofList (s.toList.flatMap escape) ++ "\""

/-!
## Lines

A line of a Kotlin file is text in which the names of classes are marked: each says how it is
written and which class it stands for.
-/

/-- The name of a class in a line. -/
structure ClassRef where
  /-- How the class is written. -/
  written : String
  /-- The full name of the class that is meant. -/
  meant : String
  deriving Repr, DecidableEq

/-- A piece of a line. -/
inductive Part where
  | text (s : String)
  | ref (r : ClassRef)
  deriving Repr

/-- A line, as pieces without anything between them. -/
structure Line where
  parts : List Part
  deriving Repr, Inhabited

namespace Part

/-- How the piece is written. -/
def written : Part → String
  | text s => s
  | ref r => r.written

/-- The name of a class, if the piece is one. -/
def ref? : Part → Option ClassRef
  | text _ => none
  | ref r => some r

end Part

namespace Line

/-- Plain text as a line. -/
def ofText (s : String) : Line := ⟨[.text s]⟩

instance : Coe String Line := ⟨ofText⟩

instance : Append Line := ⟨fun a b => ⟨a.parts ++ b.parts⟩⟩

/-- The name of a class as a line. -/
def ofRef (written meant : String) : Line := ⟨[.ref ⟨written, meant⟩]⟩

/-- Lines in turn, with a text between any two. -/
def separatedBy (separator : String) : List Line → Line
  | [] => ⟨[]⟩
  | [l] => l
  | l :: rest => l ++ separator ++ separatedBy separator rest

/-- The text of the line. -/
def text (l : Line) : String := String.join (l.parts.map Part.written)

/-- The names of classes in the line. -/
def refs (l : Line) : List ClassRef := l.parts.filterMap Part.ref?

end Line

/-!
## Layout

Source text as a tree: lines, empty lines, and blocks, whose head opens a brace that is closed
on a line of its own. The depth in the tree is the depth of indentation.
-/

/-- A piece of source text. -/
inductive Code where
  | line (text : Line)
  | blank
  | block (head : Line) (body : List Code)
  deriving Repr, Inhabited

namespace Code

/-- Indentation of some depth. -/
def indentation (unit : String) (depth : Nat) : String := String.join (List.replicate depth unit)

mutual

/-- The text of a piece at a depth. -/
def render (unit : String) (depth : Nat) : Code → String
  | line text => indentation unit depth ++ text.text ++ "\n"
  | blank => "\n"
  | block head body =>
    indentation unit depth ++ head.text ++ " \x7b\n" ++ renderAll unit (depth + 1) body ++
      indentation unit depth ++ "\x7d\n"

/-- The text of several pieces at a depth. -/
def renderAll (unit : String) (depth : Nat) : List Code → String
  | [] => ""
  | c :: rest => render unit depth c ++ renderAll unit depth rest

end

mutual

/-- The names of classes in a piece. -/
def refs : Code → List ClassRef
  | line text => text.refs
  | blank => []
  | block head body => head.refs ++ refsAll body

/-- The names of classes in several pieces. -/
def refsAll : List Code → List ClassRef
  | [] => []
  | c :: rest => refs c ++ refsAll rest

end

/-- The groups of pieces, with an empty line between any two. -/
def separated : List (List Code) → List Code
  | [] => []
  | [group] => group
  | group :: rest => group ++ blank :: separated rest

end Code

end TypedBundle.Kotlin
