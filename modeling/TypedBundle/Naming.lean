import TypedBundle.Identifier
import TypedBundle.Template

/-!
# Names of accessors

The names that a member's accessors get, and the key of its entry. An override of the member
wins over the template's, and that over the convention. The key follows the declared name and
not the overriding one, so that entries written before an accessor was renamed stay readable.
-/

namespace TypedBundle

/-- The names that are settled for a member. -/
structure Naming where
  /-- The property, which is also the name of the setter's parameter. -/
  property : String
  /-- The key of the entry. -/
  key : String
  setterPrefixes : List String
  getterPrefixes : List String
  deriving Repr, BEq, DecidableEq

/-- The items of a list without repetitions, each where it stands first. -/
def distinct {α : Type} [BEq α] : List α → List α
  | [] => []
  | x :: xs => x :: (distinct xs).filter (· != x)

namespace Naming

/-- The leading words of setters by convention. -/
def conventionalSetters : List String := ["with"]

/-- The leading words of getters by convention. -/
def conventionalGetters : List String := ["get"]

/-- The first list that is not empty, without repetitions. -/
def cascade (member template convention : List String) : List String :=
  distinct (if !member.isEmpty then member else if !template.isEmpty then template
    else convention)

/-- The names of a member of a template. -/
def ofMember (t : Template) (m : Member) : Naming where
  property := if m.overrideName = "" then m.declaredName else m.overrideName
  key := if m.overrideKey = "" then "tag_" ++ m.declaredName else m.overrideKey
  setterPrefixes := cascade m.setterPrefixes t.setterPrefixes conventionalSetters
  getterPrefixes := cascade m.getterPrefixes t.getterPrefixes conventionalGetters

/-- The names of the setters. -/
def setterNames (n : Naming) : List String :=
  n.setterPrefixes.map (Identifier.accessor · n.property)

/-- The names of the plain getters. -/
def getterNames (n : Naming) : List String :=
  n.getterPrefixes.map (Identifier.accessor · n.property)

/-- The name of the presence assertion. -/
def assertName (n : Naming) : String := Identifier.accessor "has" n.property

end Naming

end TypedBundle
