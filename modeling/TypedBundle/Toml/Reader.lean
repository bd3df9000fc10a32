import TypedBundle.Toml.Scalar
import TypedBundle.Toml.Tables

/-!
# Reading TOML

`Toml.read` turns a text in TOML 1.0 into a document, or refuses it. The text is a sequence of
lines that open a table or assign a value to a key; values may nest, to a fixed depth, and keys
may have as many parts.
-/

namespace TypedBundle.Toml

/-- A reading step: a result and the characters that are left, unless the text is at fault. -/
abbrev Reader := StateT (List Char) Option

/-- How deep arrays and inline tables may nest, and how many parts a key may have. -/
def maxDepth : Nat := 80

/-- Skips spaces and tabs. -/
def skipSpaces : Reader Unit := modify (·.dropWhile isSpace)

/-- The next character, which stays. -/
def peek : Reader (Option Char) := return (← get).head?

/-- Reads the character. -/
def expect (c : Char) : Reader Unit := do
  set (← (after? c (← get) : Option (List Char)))

/-- Whether the character can stand in an unquoted key. -/
def isBareKeyChar (c : Char) : Bool := c.isAlphanum || c == '_' || c == '-'

/-- The characters that end an unquoted value. -/
def valueEnds : List Char := [' ', '\t', '\n', '\r', '#', ',', '=', '[', ']', '\x7b', '\x7d']

/-- Whether the character can stand in an unquoted value. -/
def isBareValueChar (c : Char) : Bool := !valueEnds.contains c

/-- Reads one part of a key. -/
def simpleKey : Reader String := do
  let cs ← get
  match cs with
  | '"' :: _ | '\'' :: _ =>
    let (text, rest) ← (quotedLine? cs : Option _)
    set rest
    return String.ofList text
  | _ =>
    let word := cs.takeWhile isBareKeyChar
    guard !word.isEmpty
    set (cs.dropWhile isBareKeyChar)
    return String.ofList word

/-- Reads the parts of a key that follow a dot. -/
def moreKeys : Nat → Reader (List String)
  | 0 => return []
  | fuel + 1 => do
    skipSpaces
    if (← peek) = some '.' then
      expect '.'
      skipSpaces
      let k ← simpleKey
      return k :: (← moreKeys fuel)
    else return []

/-- Reads a dotted key: the path to its last part, and that part. -/
def key : Reader (List String × String) := do
  skipSpaces
  let first ← simpleKey
  let ks := first :: (← moreKeys (← get).length)
  guard (ks.length ≤ maxDepth)
  return (ks.dropLast, ks.getLast?.getD first)

/-- The characters after white space, line breaks and comments. -/
def skipGap (inComment : Bool) : List Char → Option (List Char)
  | [] => some []
  | '\n' :: rest => skipGap false rest
  | '\r' :: '\n' :: rest => skipGap false rest
  | c :: rest =>
    if inComment then if isControl c then none else skipGap true rest
    else if isSpace c then skipGap false rest
    else if c == '#' then skipGap true rest
    else some (c :: rest)

/-- Skips white space, line breaks and comments. -/
def gap : Reader Unit := do
  set (← (skipGap false (← get) : Option (List Char)))

/-- Reads what is left of a line: white space and a comment. -/
def lineEnd : Reader Unit := do
  skipSpaces
  let cs ← get
  let rest ← match cs with
    | '#' :: comment =>
      let isText c := c != '\n' && c != '\r'
      guard !(comment.takeWhile isText).any isControl
      pure (comment.dropWhile isText)
    | rest => pure rest
  match rest with
  | [] => set ([] : List Char)
  | '\n' :: rest => set rest
  | '\r' :: '\n' :: rest => set rest
  | _ => failure

/-- The characters of an unquoted value and what follows them. A date and a time may have a
space between them. -/
def splitScalar (cs : List Char) : List Char × List Char :=
  let word := cs.takeWhile isBareValueChar
  let rest := cs.dropWhile isBareValueChar
  match rest with
  | ' ' :: c :: _ =>
    if afterDate? word == some [] && c.isDigit then
      let tail := rest.drop 1
      (word ++ ' ' :: tail.takeWhile isBareValueChar, tail.dropWhile isBareValueChar)
    else (word, rest)
  | _ => (word, rest)

/-- Reads the items of an array up to its closing bracket. -/
def items (value : Reader Document) : Nat → Reader (List Document)
  | 0 => failure
  | fuel + 1 => do
    gap
    if (← peek) = some ']' then
      expect ']'
      return []
    let d ← value
    gap
    if (← peek) = some ',' then
      expect ','
      return d :: (← items value fuel)
    else
      expect ']'
      return [d]

/-- Reads an assignment: a key and its value. -/
def assignment (value : Reader Document) : Reader (List String × String × Document) := do
  let (path, k) ← key
  expect '='
  skipSpaces
  return (path, k, ← value)

/-- Reads the assignments of an inline table up to its closing brace. -/
def inlineFields (value : Reader Document) : Nat → Fields → Reader Fields
  | 0, _ => failure
  | fuel + 1, fields => do
    let (path, k, d) ← assignment value
    let fields ← (fields.assign path k d .header : Option Fields)
    skipSpaces
    if (← peek) = some ',' then
      expect ','
      inlineFields value fuel fields
    else
      expect '\x7d'
      return fields

/-- Reads a value, given how to read the values inside it if there may be any. -/
def valueOver (inner? : Option (Reader Document)) : Reader Document := do
  let cs ← get
  match cs with
  | '"' :: _ | '\'' :: _ =>
    let (text, rest) ← (quoted? cs : Option _)
    set rest
    return .text (String.ofList text)
  | '[' :: rest =>
    let inner ← (inner? : Option _)
    set rest
    return .list (← items inner cs.length)
  | '\x7b' :: rest =>
    let inner ← (inner? : Option _)
    set rest
    skipSpaces
    if (← peek) = some '\x7d' then
      expect '\x7d'
      return .table []
    return .table (fieldDocuments (← inlineFields inner cs.length []))
  | _ =>
    let (word, rest) := splitScalar cs
    set rest
    (scalarValue? word : Option Document)

/-- Reads a value in which arrays and inline tables nest to the given depth. -/
def value : Nat → Reader Document
  | 0 => valueOver none
  | depth + 1 => valueOver (some (value depth))

/-- Reads a header, from its opening bracket to its closing one, and opens its table. -/
def header (fields : Fields) : Reader (List String × Fields) := do
  expect '['
  if (← peek) = some '[' then
    expect '['
    let (path, k) ← key
    expect ']'
    expect ']'
    return (path ++ [k], ← (fields.openRow path k : Option Fields))
  else
    let (path, k) ← key
    expect ']'
    return (path ++ [k], ← (fields.openTable path k : Option Fields))

/-- Reads lines, with the header at hand and the tables so far. -/
def lines : Nat → List String → Fields → Reader Fields
  | 0, _, fields => return fields
  | fuel + 1, current, fields => do
    skipSpaces
    match ← get with
    | [] => return fields
    | '[' :: _ =>
      let (current, fields) ← header fields
      lineEnd
      lines fuel current fields
    | '#' :: _ | '\n' :: _ | '\r' :: _ =>
      lineEnd
      lines fuel current fields
    | _ =>
      let (path, k, d) ← assignment (value maxDepth)
      let fields ← (fields.assignUnder current path k d : Option Fields)
      lineEnd
      lines fuel current fields

/-- The text without a byte order mark. -/
def dropMark : List Char → List Char
  | '\uFEFF' :: rest => rest
  | cs => cs

/-- The document that a text in TOML holds. Each line takes at least one character, so there
are no more lines than characters. -/
def read (source : String) : Option Document := do
  let cs := dropMark source.toList
  let (fields, rest) ← (lines (cs.length + 1) [] []).run cs
  guard rest.isEmpty
  return .table (fieldDocuments fields)

end TypedBundle.Toml
