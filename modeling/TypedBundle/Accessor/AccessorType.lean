import TypedBundle.Accessor.MemberAccessors

/-!
# Generated types

The type generated from a template: the accessors of all members together, with the entry point
that wraps a bundle, the way out to it, and the helpers that the methods need. No two instance
methods may have one name and the same parameter types.
-/

namespace TypedBundle

/-- How a member is stored. -/
structure MemberSummary where
  member : String
  key : String
  strategy : Strategy
  deriving Repr, BEq, DecidableEq

/-- How the getters of the member answer for an entry that is missing. -/
def MemberSummary.getterClass (s : MemberSummary) : GetterClass := s.strategy.getterClass

/-- A generated type. -/
structure AccessorType where
  package : String
  name : String
  /-- The full name of the template. -/
  template : String
  visibility : Visibility
  members : List MemberSummary
  /-- The instance methods: setters, getters and assertions by member, then the way out. -/
  methods : List Method
  /-- The methods of the accumulator of presence assertions. -/
  assertMethods : List Method
  /-- The entry points: the one that wraps a bundle, then one for each setter. -/
  companion : List Method
  helpers : List Helper
  deriving Repr, BEq

namespace AccessorType

/-- The full name of the type. -/
def qualifiedName (g : AccessorType) : String := Name.qualified g.package g.name

/-- The instance methods of a name. -/
def methodsNamed (g : AccessorType) (name : String) : List Method :=
  g.methods.filter (·.name == name)

/-- The entry points of a name. -/
def companionNamed (g : AccessorType) (name : String) : List Method :=
  g.companion.filter (·.name == name)

/-- The first method of the accumulator with the name. -/
def assertMethod? (g : AccessorType) (name : String) : Option Method :=
  g.assertMethods.find? (·.name == name)

/-- The first member with the name. -/
def member? (g : AccessorType) (name : String) : Option MemberSummary :=
  g.members.find? (·.member == name)

/-- A signature that is taken, and the member that took it. -/
abbrev Claims := List ((String × List String) × String)

/-- Takes the signature of a method for a member, unless it is taken. -/
def claim (t : Template) (member : String) (taken : Claims) (m : Method) :
    Except GenerationError Claims :=
  match taken.lookup m.signature with
  | some owner => .error (.resolution t.className (some member)
      ("generated method " ++ m.name ++ " clashes with one generated for " ++ owner))
  | none => .ok ((m.signature, member) :: taken)

/-- Takes the signatures of each member's methods in turn. -/
def claimAll (t : Template) (taken : Claims) (as : List MemberAccessors) :
    Except GenerationError Claims :=
  as.foldlM (fun taken a => a.instanceMethods.foldlM (claim t a.member) taken) taken

/-- The type with the accessors of the members, whatever their signatures. -/
def ofAccessors (t : Template) (as : List MemberAccessors) : AccessorType :=
  let methods := as.flatMap MemberAccessors.instanceMethods ++ [Method.collect]
  { package := t.package
    name := t.outputName
    template := t.className
    visibility := t.visibility
    members := as.map fun a => ⟨a.member, a.key, a.strategy⟩
    methods
    assertMethods := as.map (·.assertChain)
    companion := Method.fromBundle :: as.flatMap (·.entries)
    helpers := Helper.usedBy methods }

/-- The type with the accessors of the members, if their signatures differ. -/
def assemble (t : Template) (as : List MemberAccessors) : Except GenerationError AccessorType := do
  let taken ← claimAll t [] as
  discard (claim t "collect" taken Method.collect)
  return ofAccessors t as

end AccessorType

namespace Template

/-- The accessors of members, given the keys that earlier members use. Of the faults of a member
a key in use comes first, then a type without a strategy, then a default body out of reach. -/
def accessors (t : Template) (used : List (String × String)) :
    List Member → Except GenerationError (List MemberAccessors)
  | [] => .ok []
  | m :: rest => do
    let n := Naming.ofMember t m
    if let some first := used.lookup n.key then
      throw (.duplicateKey t.className n.key first m.declaredName)
    let s ← m.strategy t
    let a ← MemberAccessors.synthesize t m n s
    let others ← t.accessors ((n.key, m.declaredName) :: used) rest
    return a :: others

/-- The type generated from a template. -/
def generate (t : Template) : Except GenerationError AccessorType := do
  AccessorType.assemble t (← t.accessors [] t.members)

/-- The members whose strategy is settled before generation ends or fails. -/
def classified (t : Template) (used : List (String × String)) : List Member → List Member
  | [] => []
  | m :: rest =>
    let n := Naming.ofMember t m
    if (used.lookup n.key).isSome || (Strategy.ofDescriptor? m.declaredType).isNone then []
    else
      match m.defaultCall? t with
      | .error _ => [m]
      | .ok _ => m :: t.classified ((n.key, m.declaredName) :: used) rest

end Template

end TypedBundle
