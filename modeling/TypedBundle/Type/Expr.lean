import TypedBundle.Text.Characters

/-!
# Type expressions

A type as a manifest writes it: a class name and type arguments in angle brackets, such as
`List<com.example.Child>`. `TypeExpr.parse` reads the grammar

    Type := Name ('<' Type (',' Type)* '>')?

with white space allowed around every part, where a name is a run of letters, numbers,
underscores and dots that has no dot at an end and no two dots in a row. A question mark after
a type makes it nullable, which no bundle can store, and is refused with an error of its own.
-/

namespace TypedBundle

/-- A type as written: a class name and its type arguments. -/
structure TypeExpr where
  name : String
  arguments : List TypeExpr
  deriving Repr, BEq, Inhabited

/-- Why a type cannot be resolved. -/
inductive TypeError where
  /-- The text is no type. -/
  | malformed (source : String)
  /-- The text marks a type as nullable. -/
  | nullable (source : String)
  /-- No class has the name. -/
  | unknownClass (name : String)
  /-- Several classes have the simple name. -/
  | ambiguous (name : String)
  /-- The class takes another number of type arguments. -/
  | arity (name : String) (expected actual : Nat)
  /-- The class is its own proper supertype. -/
  | cyclic (name : String)
  deriving Repr, BEq, DecidableEq

namespace TypeError

/-- The error as a sentence. -/
def message : TypeError → String
  | malformed source => "malformed type \"" ++ source ++ "\""
  | nullable source => "nullable type \"" ++ source ++ "\" cannot be stored"
  | unknownClass name => "unknown class " ++ name
  | ambiguous name => "class name " ++ name ++ " is ambiguous"
  | arity name expected actual =>
    name ++ " expects " ++ toString expected ++ " type argument(s), got " ++ toString actual
  | cyclic name => "cyclic supertype chain through " ++ name

end TypeError

namespace TypeExpr

/-- What stopped the reading of a type. -/
inductive Stop where
  | malformed
  | nullable
  deriving Repr, DecidableEq

/-- Whether the character can stand in a class name. -/
def isNameChar (c : Char) : Bool := Text.isAlphanumeric c || c == '_' || c == '.'

/-- Whether two dots follow each other. -/
def hasDoubleDot : List Char → Bool
  | '.' :: '.' :: _ => true
  | _ :: rest => hasDoubleDot rest
  | [] => false

/-- Whether a run of name characters is a name: not empty, and each dot inside it and alone. -/
def isName (cs : List Char) : Bool :=
  !cs.isEmpty && cs.head? != some '.' && cs.getLast? != some '.' && !hasDoubleDot cs

/-- Dropping characters never makes a text longer. -/
theorem length_dropWhile_le (p : Char → Bool) (cs : List Char) :
    (cs.dropWhile p).length ≤ cs.length :=
  (List.dropWhile_sublist p).length_le

/-- A name takes at least one character. -/
theorem length_after_name {cs : List Char} (hn : isName (cs.takeWhile isNameChar)) :
    (cs.dropWhile isNameChar).length < cs.length := by
  have hsplit : (cs.takeWhile isNameChar).length + (cs.dropWhile isNameChar).length =
      cs.length := by
    rw [← List.length_append, List.takeWhile_append_dropWhile]
  have hpos : (cs.takeWhile isNameChar).length ≠ 0 := by
    intro h0
    rw [List.eq_nil_of_length_eq_zero h0] at hn
    cases hn
  omega

/-- What is left of a text after a reading step, shorter than the text. -/
abbrev Rest (cs : List Char) := { rest : List Char // rest.length < cs.length }

/-- Reads a name after white space, and the white space that follows it. -/
def scanName (cs : List Char) : Except Stop (String × Rest cs) :=
  let start := cs.dropWhile Text.isBlank
  if h : isName (start.takeWhile isNameChar) then
    .ok (String.ofList (start.takeWhile isNameChar),
      ⟨(start.dropWhile isNameChar).dropWhile Text.isBlank,
        Nat.lt_of_le_of_lt (length_dropWhile_le Text.isBlank _)
          (Nat.lt_of_lt_of_le (length_after_name h) (length_dropWhile_le Text.isBlank cs))⟩)
  else .error .malformed

mutual

/-- Reads a type and the white space after it. -/
def scan (cs : List Char) : Except Stop (TypeExpr × Rest cs) :=
  match scanName cs with
  | .error e => .error e
  | .ok (name, ⟨[], h⟩) => .ok (⟨name, []⟩, ⟨[], h⟩)
  | .ok (name, ⟨c :: inner, h⟩) =>
    if c = '<' then
      have hlt : inner.length < cs.length := Nat.lt_of_succ_lt h
      match scanArguments inner with
      | .error e => .error e
      | .ok (arguments, tail) => .ok (⟨name, arguments⟩, ⟨tail.1, Nat.lt_trans tail.2 hlt⟩)
    else .ok (⟨name, []⟩, ⟨c :: inner, h⟩)
termination_by (cs.length, 0)
decreasing_by exact Prod.Lex.left _ _ hlt

/-- Reads type arguments up to the closing bracket, and the white space after it. -/
def scanArguments (cs : List Char) : Except Stop (List TypeExpr × Rest cs) :=
  match scan cs with
  | .error e => .error e
  | .ok (_, ⟨[], _⟩) => .error .malformed
  | .ok (first, ⟨c :: rest, h⟩) =>
    have hlt : rest.length < cs.length := Nat.lt_of_succ_lt h
    if c = ',' then
      match scanArguments rest with
      | .error e => .error e
      | .ok (others, tail) => .ok (first :: others, ⟨tail.1, Nat.lt_trans tail.2 hlt⟩)
    else if c = '>' then
      .ok ([first], ⟨rest.dropWhile Text.isBlank,
        Nat.lt_of_le_of_lt (length_dropWhile_le Text.isBlank rest) hlt⟩)
    else if c = '?' then .error .nullable
    else .error .malformed
termination_by (cs.length, 1)
decreasing_by
  · exact Prod.Lex.right _ (by decide)
  · exact Prod.Lex.left _ _ hlt

end

/-- Reads a text that holds one type and nothing else. -/
def read (cs : List Char) : Except Stop TypeExpr :=
  match cs.getLast? with
  | some '?' => .error .nullable
  | _ =>
    match scan cs with
    | .error e => .error e
    | .ok (e, ⟨[], _⟩) => .ok e
    | .ok _ => .error .malformed

/-- Parses a type, with white space around it allowed. -/
def parse (source : String) : Except TypeError TypeExpr :=
  let cs := Text.trimChars source.toList
  match read cs with
  | .ok e => .ok e
  | .error .nullable => .error (.nullable (String.ofList cs))
  | .error .malformed => .error (.malformed (String.ofList cs))

end TypeExpr

end TypedBundle
