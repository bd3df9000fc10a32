/-!
# JSON

JSON documents and their text, laid out over lines with two spaces to a level.
-/

namespace TypedBundle

/-- A JSON document whose numbers are counts. -/
inductive Json where
  | null
  | bool (b : Bool)
  | count (n : Nat)
  | text (s : String)
  | list (items : List Json)
  | object (fields : List (String × Json))
  deriving Repr, BEq, Inhabited

namespace Json

/-- A text, or null. -/
def ofText? : Option String → Json
  | none => null
  | some s => text s

/-- A list of texts. -/
def texts (ss : List String) : Json := list (ss.map text)

/-- Hexadecimal digits to the given width. -/
def hex (width n : Nat) : List Char :=
  let ds := Nat.toDigits 16 n
  List.replicate (width - ds.length) '0' ++ ds

/-- How a character is written in a text. -/
def escape : Char → List Char
  | '"' => ['\\', '"']
  | '\\' => ['\\', '\\']
  | '\x08' => ['\\', 'b']
  | '\x0c' => ['\\', 'f']
  | '\n' => ['\\', 'n']
  | '\r' => ['\\', 'r']
  | '\t' => ['\\', 't']
  | c => if c.toNat < 0x20 then ['\\', 'u'] ++ hex 4 c.toNat else [c]

/-- A text in quotes. -/
def quote (s : String) : String := "\"" ++ String.ofList (s.toList.flatMap escape) ++ "\""

/-- The start of a line at a depth. -/
def newline (depth : Nat) : String := "\n" ++ String.ofList (List.replicate (2 * depth) ' ')

mutual

/-- The text of a document at a depth. -/
def render (depth : Nat) : Json → String
  | null => "null"
  | bool b => if b then "true" else "false"
  | count n => toString n
  | text s => quote s
  | list [] => "[]"
  | list (first :: rest) =>
    "[" ++ newline (depth + 1) ++ render (depth + 1) first ++ renderItems (depth + 1) rest ++
      newline depth ++ "]"
  | object [] => "\x7b\x7d"
  | object ((k, first) :: rest) =>
    "\x7b" ++ newline (depth + 1) ++ quote k ++ ": " ++ render (depth + 1) first ++
      renderFields (depth + 1) rest ++ newline depth ++ "\x7d"

/-- The text of further items of a list. -/
def renderItems (depth : Nat) : List Json → String
  | [] => ""
  | d :: rest => "," ++ newline depth ++ render depth d ++ renderItems depth rest

/-- The text of further fields of an object. -/
def renderFields (depth : Nat) : List (String × Json) → String
  | [] => ""
  | (k, d) :: rest =>
    "," ++ newline depth ++ quote k ++ ": " ++ render depth d ++ renderFields depth rest

end

/-- The text of a document. -/
def pretty (d : Json) : String := d.render 0

end Json

end TypedBundle
