/-!
# Quoted texts in TOML

Texts between quotation marks. A basic text has escapes; a literal text, between apostrophes,
has none. Either may run over several lines when its mark is tripled: then a line break right
after the opening is dropped, and one or two marks may stand before the closing ones.

Each function takes what follows the opening mark and gives the text and what follows the
closing mark.
-/

namespace TypedBundle.Toml

/-- Whether the character may not stand in a text or a comment. The tab may. -/
def isControl (c : Char) : Bool := (c.toNat < 0x20 && c != '\t') || c.toNat == 0x7f

/-- Whether the character is a space or a tab. -/
def isSpace (c : Char) : Bool := c == ' ' || c == '\t'

/-- The value of a hexadecimal digit. -/
def hexDigit? (c : Char) : Option Nat :=
  if '0' ≤ c ∧ c ≤ '9' then some (c.toNat - '0'.toNat)
  else if 'a' ≤ c ∧ c ≤ 'f' then some (c.toNat - 'a'.toNat + 10)
  else if 'A' ≤ c ∧ c ≤ 'F' then some (c.toNat - 'A'.toNat + 10)
  else none

/-- The character with the code point, unless it is a surrogate or too large. -/
def scalar? (n : Nat) : Option Char := if n.isValidChar then some (Char.ofNat n) else none

/-- The character that a one-letter escape stands for. -/
def escape? : Char → Option Char
  | 'b' => some '\x08'
  | 't' => some '\t'
  | 'n' => some '\n'
  | 'f' => some '\x0c'
  | 'r' => some '\r'
  | '"' => some '"'
  | '\\' => some '\\'
  | _ => none

/-- Where the reading of a basic text stands. -/
inductive BasicState where
  | plain
  /-- After a backslash. -/
  | escape
  /-- In the digits of a code point, with the number of digits still to come. -/
  | digits (left value : Nat)
  /-- After a backslash at the end of a line: skipping white space. -/
  | skip (sawBreak : Bool)

/-- A text with one character in front, if the rest can be read. -/
def consText (c : Char) : Option (List Char × List Char) → Option (List Char × List Char)
  | some (text, rest) => some (c :: text, rest)
  | none => none

/-- Reads a basic text on one line. -/
def basicLine : BasicState → List Char → Option (List Char × List Char)
  | .plain, '"' :: rest => some ([], rest)
  | .plain, '\\' :: rest => basicLine .escape rest
  | .plain, c :: rest => if isControl c then none else consText c (basicLine .plain rest)
  | .escape, 'u' :: rest => basicLine (.digits 4 0) rest
  | .escape, 'U' :: rest => basicLine (.digits 8 0) rest
  | .escape, c :: rest =>
    match escape? c with
    | some e => consText e (basicLine .plain rest)
    | none => none
  | .digits left value, c :: rest =>
    match hexDigit? c with
    | none => none
    | some d =>
      if left ≤ 1 then
        match scalar? (value * 16 + d) with
        | some e => consText e (basicLine .plain rest)
        | none => none
      else basicLine (.digits (left - 1) (value * 16 + d)) rest
  | _, _ => none

/-- Reads a basic text that may run over lines. -/
def basicLines : BasicState → List Char → Option (List Char × List Char)
  | .plain, '"' :: '"' :: '"' :: '"' :: '"' :: rest => some (['"', '"'], rest)
  | .plain, '"' :: '"' :: '"' :: '"' :: rest => some (['"'], rest)
  | .plain, '"' :: '"' :: '"' :: rest => some ([], rest)
  | .plain, '\\' :: rest => basicLines .escape rest
  | .plain, '\n' :: rest => consText '\n' (basicLines .plain rest)
  | .plain, '\r' :: '\n' :: rest => consText '\r' (consText '\n' (basicLines .plain rest))
  | .plain, c :: rest => if isControl c then none else consText c (basicLines .plain rest)
  | .escape, 'u' :: rest => basicLines (.digits 4 0) rest
  | .escape, 'U' :: rest => basicLines (.digits 8 0) rest
  | .escape, ' ' :: rest => basicLines (.skip false) rest
  | .escape, '\t' :: rest => basicLines (.skip false) rest
  | .escape, '\n' :: rest => basicLines (.skip true) rest
  | .escape, '\r' :: '\n' :: rest => basicLines (.skip true) rest
  | .escape, c :: rest =>
    match escape? c with
    | some e => consText e (basicLines .plain rest)
    | none => none
  | .digits left value, c :: rest =>
    match hexDigit? c with
    | none => none
    | some d =>
      if left ≤ 1 then
        match scalar? (value * 16 + d) with
        | some e => consText e (basicLines .plain rest)
        | none => none
      else basicLines (.digits (left - 1) (value * 16 + d)) rest
  | .skip sawBreak, ' ' :: rest => basicLines (.skip sawBreak) rest
  | .skip sawBreak, '\t' :: rest => basicLines (.skip sawBreak) rest
  | .skip _, '\n' :: rest => basicLines (.skip true) rest
  | .skip _, '\r' :: '\n' :: rest => basicLines (.skip true) rest
  | .skip false, _ => none
  | .skip true, '"' :: '"' :: '"' :: '"' :: '"' :: rest => some (['"', '"'], rest)
  | .skip true, '"' :: '"' :: '"' :: '"' :: rest => some (['"'], rest)
  | .skip true, '"' :: '"' :: '"' :: rest => some ([], rest)
  | .skip true, '\\' :: rest => basicLines .escape rest
  | .skip true, c :: rest => if isControl c then none else consText c (basicLines .plain rest)
  | _, [] => none

/-- Reads a literal text on one line. -/
def literalLine : List Char → Option (List Char × List Char)
  | '\'' :: rest => some ([], rest)
  | c :: rest => if isControl c then none else consText c (literalLine rest)
  | [] => none

/-- Reads a literal text that may run over lines. -/
def literalLines : List Char → Option (List Char × List Char)
  | '\'' :: '\'' :: '\'' :: '\'' :: '\'' :: rest => some (['\'', '\''], rest)
  | '\'' :: '\'' :: '\'' :: '\'' :: rest => some (['\''], rest)
  | '\'' :: '\'' :: '\'' :: rest => some ([], rest)
  | '\n' :: rest => consText '\n' (literalLines rest)
  | '\r' :: '\n' :: rest => consText '\r' (consText '\n' (literalLines rest))
  | c :: rest => if isControl c then none else consText c (literalLines rest)
  | [] => none

/-- Drops a line break at the start. -/
def dropBreak : List Char → List Char
  | '\n' :: rest => rest
  | '\r' :: '\n' :: rest => rest
  | cs => cs

/-- Reads any text from its opening mark on. -/
def quoted? : List Char → Option (List Char × List Char)
  | '"' :: '"' :: '"' :: rest => basicLines .plain (dropBreak rest)
  | '"' :: rest => basicLine .plain rest
  | '\'' :: '\'' :: '\'' :: rest => literalLines (dropBreak rest)
  | '\'' :: rest => literalLine rest
  | _ => none

/-- Reads a text on one line from its opening mark on. -/
def quotedLine? : List Char → Option (List Char × List Char)
  | '"' :: rest => basicLine .plain rest
  | '\'' :: rest => literalLine rest
  | _ => none

end TypedBundle.Toml
