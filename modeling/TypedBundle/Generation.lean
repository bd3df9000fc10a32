import TypedBundle.Accessor.AccessorType
import TypedBundle.Diagnostics.Event
import TypedBundle.Manifest.Resolution

/-!
# Generation

A run over a manifest: each template is resolved and its type generated, whatever becomes of the
others. Templates share only the names of what they generate. A generated type may not have the
name of a known class or of a template, nor that of a type that an earlier template generated.
-/

namespace TypedBundle

/-- What became of a template. -/
abbrev Outcome := Except GenerationError AccessorType

/-- What a run yields. -/
structure Generation where
  /-- The generated types, in the order of their templates. -/
  outputs : List AccessorType := []
  /-- The errors of the other templates, in their order. -/
  failures : List GenerationError := []
  deriving Repr, BEq

namespace Generation

/-- The types and the errors among the outcomes. -/
def ofOutcomes (os : List Outcome) : Generation where
  outputs := os.filterMap fun | .ok g => some g | .error _ => none
  failures := os.filterMap fun | .ok _ => none | .error e => some e

/-- Whether every template yielded a type. -/
def isSuccess (g : Generation) : Bool := g.failures.isEmpty

/-- The sentence on a run in which templates failed. -/
def failureSummary? (g : Generation) : Option String :=
  if g.isSuccess then none
  else some (toString g.failures.length ++ " of " ++
    toString (g.failures.length + g.outputs.length) ++ " template(s) failed to generate")

end Generation

namespace Manifest

/-- The generated types so far, by full name, each with its template. -/
abbrev Claimed := List (String × String)

/-- Why the type of a template cannot have its name, if it cannot. -/
def nameError? (m : Manifest) (claimed : Claimed) (t : Template) : Option GenerationError :=
  let output := t.outputQualifiedName
  if m.templates.any (·.className == output) || (m.classTable.find? output).isSome then
    some (.inTemplate t.className
      ("output type " ++ output ++ " has the name of a declared class"))
  else
    (claimed.lookup output).map fun previous => .duplicateOutput t.className output previous

/-- What becomes of one template. -/
def outcome (m : Manifest) (claimed : Claimed) (d : TemplateDecl) : Outcome := do
  let t ← d.resolve m.classTable
  match m.nameError? claimed t with
  | some e => throw e
  | none => t.generate

/-- The names that are taken after an outcome. -/
def claim (claimed : Claimed) : Outcome → Claimed
  | .ok g => (g.qualifiedName, g.template) :: claimed
  | .error _ => claimed

/-- What becomes of templates in turn, each with the names that were taken before it. -/
def outcomesFrom (m : Manifest) (claimed : Claimed) :
    List TemplateDecl → List (TemplateDecl × Claimed × Outcome)
  | [] => []
  | d :: rest =>
    let o := m.outcome claimed d
    (d, claimed, o) :: m.outcomesFrom (claim claimed o) rest

/-- What becomes of each template of the manifest. -/
def outcomes (m : Manifest) : List (TemplateDecl × Claimed × Outcome) :=
  m.outcomesFrom [] m.templates

/-- Generates the types of all templates. -/
def generate (m : Manifest) : Generation := .ofOutcomes (m.outcomes.map (·.2.2))

end Manifest

namespace Manifest

/-- The events of resolving a template. -/
def resolutionEvents (m : Manifest) (d : TemplateDecl) : List Event :=
  let event message fields : Event :=
    { severity := .debug, stage := .resolution,
      fields := ("message", .printed message) :: ("template", .text d.className) :: fields }
  match d.checkedAnnotation with
  | .error _ => []
  | .ok _ =>
    (TemplateDecl.skipped m.classTable d.className d.functions).map
        (fun f => event "Skipping function without @BunchItem" [("function", .printed f.name)]) ++
      match d.resolve m.classTable with
      | .ok t => [event "Resolved template" [("members", .number t.members.length)]]
      | .error _ => []

/-- The events of classifying the members of a template. -/
def classificationEvents (t : Template) : List Event :=
  (t.classified [] t.members).filterMap fun member =>
    (Strategy.ofDescriptor? member.declaredType).map fun s =>
      { severity := .debug, stage := .classification,
        fields := [("message", .printed "Classified member"), ("template", .printed t.className),
          ("member", .printed member.declaredName), ("strategy", .text s.label)] }

/-- The event of a template's outcome. -/
def outcomeEvent (d : TemplateDecl) : Outcome → Event
  | .ok g =>
    { severity := .info, stage := .generation,
      fields := [("message", .printed "Generated type"), ("template", .printed g.template),
        ("output", .printed g.qualifiedName), ("methods", .number g.methods.length)] }
  | .error e =>
    { severity := .error, stage := .generation,
      fields := [("message", .printed e.message),
        ("template", .text (e.template?.getD d.className)),
        ("member", .text (e.member?.getD "")), ("kind", .text e.kind)] }

/-- The events of one template. -/
def templateEvents (m : Manifest) (claimed : Claimed) (d : TemplateDecl) (o : Outcome) :
    List Event :=
  m.resolutionEvents d ++
    (match d.resolve m.classTable with
      | .ok t => if (m.nameError? claimed t).isNone then classificationEvents t else []
      | .error _ => []) ++
    [outcomeEvent d o]

/-- The events of a run, in order. -/
def events (m : Manifest) : List Event :=
  m.outcomes.flatMap fun (d, claimed, o) => m.templateEvents claimed d o

/-- Everything that a run reports, in order. -/
def reports (m : Manifest) : List Diagnostic := m.events.map Event.diagnostic

end Manifest

end TypedBundle
