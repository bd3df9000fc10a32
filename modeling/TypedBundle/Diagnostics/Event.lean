import TypedBundle.Diagnostics.Sink

/-!
# Events

What the parts of the program tell of a run while it goes on. An event has named fields. A visitor
picks the message and the place out of them, and the layer in front of a sink makes a diagnostic of
these, if the sink keeps diagnostics of the event's level.
-/

namespace TypedBundle

/-- How much an event matters. There is no event at the level above all diagnostics. -/
inductive Severity where
  | trace
  | debug
  | info
  | warn
  | error
  deriving Repr, DecidableEq

namespace Severity

/-- The level of diagnostics for the events. -/
def level : Severity → Level
  | trace => .trace
  | debug => .debug
  | info => .info
  | warn => .warn
  | error => .error

end Severity

/-- A value in a field of an event. -/
inductive FieldValue where
  /-- A text, which is recorded as it is. -/
  | text (content : String)
  /-- A value that is recorded as it is printed. -/
  | printed (display : String)
  | number (value : Nat)
  deriving Repr, DecidableEq

namespace FieldValue

/-- What a visitor records of the value. -/
def recorded : FieldValue → String
  | text content => content
  | printed display => display
  | number value => toString value

end FieldValue

/-- What part of the program tells of a run. -/
structure Event where
  severity : Severity
  /-- The part of the program that the event comes from. -/
  stage : Stage
  fields : List (String × FieldValue)
  deriving Repr, DecidableEq

/-- What has been picked out of the fields of an event. -/
structure Visitor where
  message : Option String := none
  template : Option String := none
  member : Option String := none

namespace Visitor

/-- Takes note of a field. Of two fields of one name the later counts. -/
def record (v : Visitor) : String × FieldValue → Visitor
  | ("message", x) => { v with message := some x.recorded }
  | ("template", x) => { v with template := some x.recorded }
  | ("member", x) => { v with member := some x.recorded }
  | _ => v

end Visitor

namespace Event

/-- What is picked out of the event. -/
def visit (e : Event) : Visitor := e.fields.foldl Visitor.record {}

/-- The event as a diagnostic. -/
def diagnostic (e : Event) : Diagnostic where
  level := e.severity.level
  target := e.stage.target
  message := e.visit.message.getD ""
  template := e.visit.template
  member := e.visit.member

end Event

namespace Sink

/-- Passes the event on to the sink, if the sink keeps diagnostics of its level. -/
def observe (s : Sink) (e : Event) : Sink :=
  if s.isEnabled e.severity.level then s.record e.diagnostic else s

/-- Passes events on in order. -/
def observeAll (s : Sink) (es : List Event) : Sink := es.foldl observe s

end Sink

end TypedBundle
