import TypedBundle.Generation
import TypedBundle.Json

/-!
# Descriptions

Generated types as JSON documents. A case with contents is an object with the word for the case
as its only key; a case without contents is that word. Keys stand in alphabetical order.
-/

namespace TypedBundle

/-- A case with contents. -/
def Json.tagged (tag : String) (contents : Json) : Json := .object [(tag, contents)]

mutual

/-- The description of a type. -/
def TypeDescriptor.describe : TypeDescriptor → Json
  | ⟨name, arguments, superclass, supertypes, constants⟩ =>
    .object
      [("arguments", .list (describeTypes arguments)), ("constants", .texts constants),
       ("name", .text name), ("superclass", .ofText? superclass),
       ("supertypes", .texts supertypes.toList)]

/-- The descriptions of several types. -/
def describeTypes : List TypeDescriptor → List Json
  | [] => []
  | ty :: rest => ty.describe :: describeTypes rest

end

/-- The description of a strategy. -/
def Strategy.describe : Strategy → Json
  | .direct kind => .tagged "Direct" (.text kind.label)
  | .objectList => .text "ObjectList"
  | .enum => .text "Enum"
  | .object => .text "Object"
  | .serializable => .text "Serializable"

/-- The description of a call. -/
def DefaultCall.describe (c : DefaultCall) : Json :=
  .object [("function", .text c.function), ("owner", .text c.owner)]

/-- The description of a fallback. -/
def Fallback.describe : Fallback → Json
  | .inlineZero => .text "InlineZero"
  | .inlineDefault call => .tagged "InlineDefault" call.describe
  | .orDefault call => .tagged "OrDefault" call.describe
  | .orNull => .text "OrNull"
  | .orThrow => .text "OrThrow"

/-- The description of what a method returns. -/
def Returns.describe : Returns → Json
  | .receiver => .text "Receiver"
  | .value ty nullable =>
    .tagged "Value" (.object [("nullable", .bool nullable), ("ty", ty.describe)])
  | .assertion => .text "Assert"
  | .container => .text "Container"

/-- The description of a method body. -/
def Body.describe : Body → Json
  | .store key strategy param =>
    .tagged "Store" (.object
      [("key", .text key), ("param", .text param), ("strategy", strategy.describe)])
  | .load key strategy ty fallback =>
    .tagged "Load" (.object
      [("fallback", fallback.describe), ("key", .text key), ("strategy", strategy.describe),
       ("ty", ty.describe)])
  | .assert key => .tagged "Assert" (.object [("key", .text key)])
  | .assertChain key => .tagged "AssertChain" (.object [("key", .text key)])
  | .entry setter param =>
    .tagged "Entry" (.object [("param", .text param), ("setter", .text setter)])
  | .wrap => .text "From"
  | .collect => .text "Collect"

/-- The description of a parameter. -/
def Param.describe (p : Param) : Json :=
  .object [("name", .text p.name), ("ty", p.type.describe)]

/-- The description of a method. -/
def Method.describe (m : Method) : Json :=
  .object
    [("body", m.body.describe), ("name", .text m.name),
     ("params", .list (m.params.map Param.describe)), ("returns", m.returns.describe)]

/-- The description of a helper. -/
def Helper.describe : Helper → Json
  | .insert strategy => .tagged "Insert" strategy.describe
  | .extract strategy => .tagged "Extract" strategy.describe
  | .extractWithFallback kind => .tagged "ExtractWithFallback" (.text kind.label)

/-- The description of how a member is stored. -/
def MemberSummary.describe (s : MemberSummary) : Json :=
  .object
    [("getter_class", .text s.getterClass.label), ("key", .text s.key),
     ("member", .text s.member), ("strategy", s.strategy.describe)]

/-- The word for a visibility. -/
def Visibility.word : Visibility → String
  | .public => "public"
  | .internal => "internal"

/-- The description of a generated type. -/
def AccessorType.describe (g : AccessorType) : Json :=
  .object
    [("assert_methods", .list (g.assertMethods.map Method.describe)),
     ("companion", .list (g.companion.map Method.describe)),
     ("helpers", .list (g.helpers.map Helper.describe)),
     ("members", .list (g.members.map MemberSummary.describe)),
     ("methods", .list (g.methods.map Method.describe)),
     ("name", .text g.name), ("package", .text g.package), ("template", .text g.template),
     ("visibility", .text g.visibility.word)]

/-- The description of a failure. -/
def GenerationError.describe (e : GenerationError) : Json :=
  .object
    [("kind", .text e.kind), ("member", .ofText? e.member?), ("message", .text e.message),
     ("template", .ofText? e.template?)]

/-- The description of a run: the generated types and the failures. -/
def Generation.describe (g : Generation) : Json :=
  .object
    [("failures", .list (g.failures.map GenerationError.describe)),
     ("types", .list (g.outputs.map AccessorType.describe))]

end TypedBundle
