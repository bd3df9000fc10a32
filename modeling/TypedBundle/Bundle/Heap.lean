import TypedBundle.Bundle.Value
import TypedBundle.Dict

/-!
# The heap of bundles

Bundles as cells with entries, and what can go wrong with them and with what is generated for them.
-/

namespace TypedBundle

/-!
## Faults

What can go wrong when a bundle is written or a generated method is called.
-/

/-- Why a call fails. -/
inductive Fault where
  /-- A throwing getter found nothing under the key. -/
  | propertyNotFound (key : String)
  /-- An asserted key is absent. -/
  | missingKey (key : String)
  /-- The empty bundle takes no entries. -/
  | immutableContainer
  /-- The type has no method of the name. -/
  | unknownMethod (typeName method : String)
  /-- The method does not take the arguments. -/
  | argumentMismatch (method reason : String)
  /-- The enumeration has no constant of the name. -/
  | invalidEnumConstant (typeName constant : String)
  /-- The default body is not at hand. -/
  | defaultUnavailable (owner function : String)
  deriving Repr, BEq, DecidableEq

namespace Fault

/-- The fault as a sentence. -/
def message : Fault → String
  | propertyNotFound key => "property not found under key \"" ++ key ++ "\""
  | missingKey key => "missing key \"" ++ key ++ "\""
  | immutableContainer => "the empty bundle cannot be modified"
  | unknownMethod typeName method => typeName ++ " has no method " ++ method
  | argumentMismatch method reason => method ++ ": " ++ reason
  | invalidEnumConstant typeName constant => typeName ++ " has no constant " ++ constant
  | defaultUnavailable owner function =>
    "no default value registered for " ++ owner ++ "." ++ function ++ "()"

/-- Whether the generated source itself can raise the fault. -/
def isGenerated : Fault → Bool
  | propertyNotFound _ | missingKey _ => true
  | _ => false

end Fault

/-!
## Cells

A bundle is a cell with entries; references to it share the cell. The first cell is the empty
bundle, of which there is one, and which takes no entries. A copy of a bundle is a new cell with
the same entries: bundles inside it stay shared.
-/

/-- The entries of a bundle. -/
abbrev Entries := Dict Value

/-- The cells of all bundles, the empty one first. -/
structure Heap where
  cells : List Entries
  cells_ne : cells ≠ []
  deriving Repr, DecidableEq

namespace Bundle

/-- The empty bundle. -/
def empty : Bundle := ⟨0⟩

/-- Whether the reference is to the empty bundle. -/
def isEmptySingleton (b : Bundle) : Bool := b == empty

end Bundle

namespace Heap

/-- The heap that holds only the empty bundle. -/
def initial : Heap := ⟨[{}], List.cons_ne_nil _ _⟩

instance : Inhabited Heap := ⟨initial⟩

/-- The entries of a bundle. -/
def entries (h : Heap) (b : Bundle) : Entries := (h.cells[b.index]?).getD {}

/-- A new bundle with the given entries. -/
def alloc (h : Heap) (es : Entries) : Bundle × Heap :=
  (⟨h.cells.length⟩, ⟨h.cells ++ [es], List.append_ne_nil_of_left_ne_nil h.cells_ne _⟩)

/-- A new bundle without entries. -/
def new (h : Heap) : Bundle × Heap := h.alloc {}

/-- A new bundle with the entries of another one. -/
def duplicate (h : Heap) (b : Bundle) : Bundle × Heap :=
  if b.isEmptySingleton then h.new else h.alloc (h.entries b)

/-- Changes the entries of a bundle other than the empty one. -/
def update (h : Heap) (b : Bundle) (change : Entries → Entries) : Except Fault Heap :=
  if b.isEmptySingleton then .error .immutableContainer
  else .ok ⟨h.cells.modify b.index change, by simpa using h.cells_ne⟩

/-- Stores a value under a key, in place of an older one. -/
def put (h : Heap) (b : Bundle) (key : String) (v : Value) : Except Fault Heap :=
  h.update b (·.insert key v)

/-- A change shows in the bundle itself and in no other one. -/
theorem entries_update {h h' : Heap} {b : Bundle} {change : Entries → Entries}
    (hu : h.update b change = .ok h') (hb : b.index < h.cells.length) (c : Bundle) :
    h'.entries c = if c = b then change (h.entries b) else h.entries c := by
  unfold update at hu
  split at hu
  · cases hu
  · cases hu
    obtain ⟨n⟩ := b
    obtain ⟨k⟩ := c
    by_cases hk : k = n
    · subst hk
      simp [entries, hb]
    · have : n ≠ k := fun e => hk e.symm
      simp [entries, hk, this]

/-- A new bundle has the given entries, and no other bundle changes. -/
theorem entries_alloc (h : Heap) (es : Entries) (c : Bundle) (hc : c.index ≤ h.cells.length) :
    (h.alloc es).2.entries c = if c = (h.alloc es).1 then es else h.entries c := by
  obtain ⟨k⟩ := c
  by_cases hk : k = h.cells.length
  · subst hk
    simp [alloc, entries]
  · have : k < h.cells.length := Nat.lt_of_le_of_ne hc hk
    simp [alloc, entries, hk, List.getElem?_append_left this]

/-- The value under a key. -/
def get? (h : Heap) (b : Bundle) (key : String) : Option Value := (h.entries b).find? key

/-- Takes out the value under a key. -/
def remove (h : Heap) (b : Bundle) (key : String) : Except Fault (Option Value × Heap) :=
  (h.update b (·.erase key)).map fun h' => (h.get? b key, h')

/-- Whether there is a value under the key. -/
def containsKey (h : Heap) (b : Bundle) (key : String) : Bool := (h.entries b).contains key

end Heap

/-!
## Comparison

Two bundles are equal if they are the same cell, or hold equal entries under the same keys. Their
entries are compared in order of their keys up to the first difference, and bundles in them in
turn. Bundles that contain themselves may lead the comparison in circles, so it is bounded by
a depth: no answer means that the bound was too small.
-/

namespace Heap

/-- Whether two lists of entries agree, given how values compare. -/
def equalPairs (same : Value → Value → Option Bool) :
    List (String × Value) → List (String × Value) → Option Bool
  | [], [] => some true
  | (k, v) :: rest, (k', v') :: rest' =>
    if k = k' then
      match same v v' with
      | some true => equalPairs same rest rest'
      | answer => answer
    else some false
  | _, _ => some false

/-- Whether two bundles are equal, if it shows within the depth. -/
def equalWithin (h : Heap) : Nat → Bundle → Bundle → Option Bool
  | 0, _, _ => none
  | depth + 1, a, b =>
    if a = b then some true
    else
      let as := (h.entries a).toList
      let bs := (h.entries b).toList
      if as.length ≠ bs.length then some false
      else equalPairs (Value.equalWith (h.equalWithin depth)) as bs

/-- A depth at which every comparison that comes to an end has done so: a longer way down meets
some pair of cells twice. -/
def comparisonDepth (h : Heap) : Nat := h.cells.length * h.cells.length + 2

/-- Whether two bundles are equal, if the comparison comes to an end. -/
def equal? (h : Heap) (a b : Bundle) : Option Bool := h.equalWithin h.comparisonDepth a b

/-- Whether two values are equal, if the comparison comes to an end. -/
def equalValues? (h : Heap) (v w : Value) : Option Bool := Value.equalWith h.equal? v w

end Heap

end TypedBundle
