import TypedBundle.Manifest.Document

/-!
# Tables under construction

Headers and dotted keys build a tree of tables from the top, and may not say the same thing
twice. So a table remembers how it came to be: a header opens it once; a longer header or a
dotted key only implies it, and each may return to what it implied but not to what the other
made.
-/

namespace TypedBundle.Toml

/-- How a table came to be. -/
inductive Origin where
  /-- By a header of its own. -/
  | header
  /-- On the way to another header. -/
  | implied
  /-- On the way along a dotted key. -/
  | dotted
  deriving Repr, BEq, DecidableEq

/-- A part of the tree. -/
inductive Node where
  /-- A value, which is finished. -/
  | value (d : Document)
  | table (origin : Origin) (fields : List (String × Node))
  /-- The tables opened by repeated headers, of which the last is under construction. -/
  | rows (earlier : List Node) (last : Origin × List (String × Node))
  deriving Inhabited

/-- The entries of a table under construction. -/
abbrev Fields := List (String × Node)

namespace Fields

/-- Puts a node under a key, in place of an older one. -/
def put (k : String) (n : Node) : Fields → Fields
  | [] => [(k, n)]
  | (k', n') :: rest => if k = k' then (k, n) :: rest else (k', n') :: put k n rest

/-- Changes the table at the end of a path, making the tables that are missing on the way. -/
def within (byKey : Bool) (change : Origin → Fields → Option Fields) :
    List String → Origin → Fields → Option Fields
  | [], origin, fields => change origin fields
  | k :: path, _, fields =>
    match fields.lookup k with
    | none => do
      let origin := if byKey then Origin.dotted else .implied
      let inner ← within byKey change path origin []
      return fields.put k (.table origin inner)
    | some (.table origin inner) => do
      guard (!(byKey && origin == .header))
      let inner ← within byKey change path origin inner
      return fields.put k (.table origin inner)
    | some (.rows earlier (origin, inner)) => do
      let inner ← within byKey change path origin inner
      return fields.put k (.rows earlier (origin, inner))
    | some (.value _) => none

/-- Adds an entry under a dotted key. -/
def assign (path : List String) (k : String) (d : Document) (origin : Origin) (fields : Fields) :
    Option Fields :=
  fields.within true (fun origin fields => do
    guard (path.isEmpty || origin == .dotted)
    guard (fields.lookup k).isNone
    return fields.put k (.value d)) path origin

/-- Opens the table of a header. -/
def openTable (path : List String) (k : String) (fields : Fields) : Option Fields :=
  fields.within false (fun _ fields =>
    match fields.lookup k with
    | none => some (fields.put k (.table .header []))
    | some (.table .implied inner) => some (fields.put k (.table .header inner))
    | some _ => none) path .header

/-- Opens the next table of a repeated header. -/
def openRow (path : List String) (k : String) (fields : Fields) : Option Fields :=
  fields.within false (fun _ fields =>
    match fields.lookup k with
    | none => some (fields.put k (.rows [] (.header, [])))
    | some (.rows earlier (origin, last)) =>
      some (fields.put k (.rows (earlier ++ [.table origin last]) (.header, [])))
    | some _ => none) path .header

/-- Adds an entry to the table of the header at hand. -/
def assignUnder (header path : List String) (k : String) (d : Document) (fields : Fields) :
    Option Fields :=
  fields.within false (fun origin fields => fields.assign path k d origin) header .header

end Fields

mutual

/-- The value that a part of the tree holds. -/
def Node.document : Node → Document
  | .value d => d
  | .table _ fields => .table (fieldDocuments fields)
  | .rows earlier (_, last) => .list (nodeDocuments earlier ++ [.table (fieldDocuments last)])

/-- The values of several nodes. -/
def nodeDocuments : List Node → List Document
  | [] => []
  | n :: rest => n.document :: nodeDocuments rest

/-- The values of the entries of a table. -/
def fieldDocuments : List (String × Node) → List (String × Document)
  | [] => []
  | (k, n) :: rest => (k, n.document) :: fieldDocuments rest

end

end TypedBundle.Toml
