import TypedBundle.Instance.Call

/-!
# Showing values and what is made of them

The forms in which values, generated types, instances and assertions are shown.
-/

namespace TypedBundle

/-!
## Values

A value for readers (`display`) and for inspection (`inspect`), which shows everything that
tells values apart and follows references into bundles down to a depth.
-/

namespace Value

/-- The value for readers. -/
def display (h : Heap) : Value → String
  | .boolean b => if b then "true" else "false"
  | .byte n => toString n.toInt
  | .char c => "'" ++ String.singleton c ++ "'"
  | .short n => toString n.toInt
  | .int n => toString n.toInt
  | .long n => toString n.toInt ++ "L"
  | .float x => x.text .plain ++ "f"
  | .double x => x.text .plain
  | .string s | .charSequence s => Text.quoted s
  | .binder token => "binder(" ++ token ++ ")"
  | .bundle b => "Bundle[" ++ toString (h.entries b).size ++ " keys]"
  | .parcelable o | .serializable o => o.className
  | .enum _ constant => constant
  | v => v.typeLabel

end Value

namespace Inspection

/-- Items in brackets. -/
def list (items : List String) : String := "[" ++ ", ".intercalate items ++ "]"

/-- A word with one argument. -/
def tagged (tag argument : String) : String := tag ++ "(" ++ argument ++ ")"

/-- A word with named fields. -/
def record (tag : String) (fields : List (String × String)) : String :=
  tag ++ " \x7b " ++ ", ".intercalate (fields.map fun f => f.1 ++ ": " ++ f.2) ++ " \x7d"

/-- Keys with their values. -/
def map (fields : List (String × String)) : String :=
  "\x7b" ++ ", ".intercalate (fields.map fun f => Text.quoted f.1 ++ ": " ++ f.2) ++ "\x7d"

/-- A truth value. -/
def bool (b : Bool) : String := if b then "true" else "false"

/-- An object. -/
def object (o : ObjectValue) : String :=
  record "ObjectValue"
    [("class_name", Text.quoted o.className), ("state", Text.quoted o.state)]

end Inspection

open Inspection in
/-- The value for inspection, given how bundles are shown. -/
def Value.inspectWith (bundle : Bundle → String) (v : Value) : String :=
  match v with
  | .enum typeName constant =>
    record "Enum" [("type_name", Text.quoted typeName), ("constant", Text.quoted constant)]
  | v =>
    tagged v.typeLabel <|
      match v with
      | .boolean b => bool b
      | .byte n => toString n.toInt
      | .char c => Text.quotedChar c
      | .short n => toString n.toInt
      | .int n => toString n.toInt
      | .long n => toString n.toInt
      | .float x => x.text .inspection
      | .double x => x.text .inspection
      | .booleanArray vs => list (vs.map bool)
      | .byteArray vs => list (vs.map fun n => toString n.toInt)
      | .charArray vs => list (vs.map Text.quotedChar)
      | .shortArray vs => list (vs.map fun n => toString n.toInt)
      | .intArray vs => list (vs.map fun n => toString n.toInt)
      | .longArray vs => list (vs.map fun n => toString n.toInt)
      | .floatArray vs => list (vs.map fun x => x.text .inspection)
      | .doubleArray vs => list (vs.map fun x => x.text .inspection)
      | .string s | .charSequence s => Text.quoted s
      | .stringArray ss | .charSequenceArray ss => list (ss.map Text.quoted)
      | .binder token => Text.quoted token
      | .bundle b => bundle b
      | .parcelable o | .serializable o => object o
      | .parcelableList os => list (os.map object)
      | .enum _ _ => ""

namespace Heap

/-- The bundle for inspection. What lies deeper than the given depth is left out. -/
def inspectWithin (h : Heap) : Nat → Bundle → String
  | 0, _ => "\x7b..\x7d"
  | depth + 1, b =>
    Inspection.map <| (h.entries b).toList.map fun (k, v) =>
      (k, v.inspectWith (h.inspectWithin depth))

/-- The bundle for inspection. No bundle that does not contain itself is deeper than there are
cells. -/
def inspect (h : Heap) (b : Bundle) : String := h.inspectWithin (h.cells.length + 1) b

end Heap

/-!
## Types, instances and assertions

A generated type shows its name, an instance its type and its bundle, and an accumulator its keys.
-/

/-- A generated type for inspection: its full name. -/
def BoundType.inspect (c : BoundType) : String :=
  Inspection.record "BunchClass" [("name", Text.quoted c.type.qualifiedName)]

/-- An instance for inspection: its type and the bundle behind it. -/
def Instance.inspect (i : Instance) (h : Heap) : String :=
  Inspection.record "BunchInstance" [("class", i.bound.inspect), ("bundle", h.inspect i.storage)]

/-- An accumulator for inspection: its keys. -/
def Assertion.inspect (a : Assertion) : String :=
  Inspection.record "Assertion" [("keys", Inspection.list (a.keys.map Text.quoted))]

end TypedBundle
