/-!
# Diagnostics

How much a report about a run matters, what it says, and which reports are kept.
-/

namespace TypedBundle

/-!
## Levels

How much a diagnostic matters, from tracing a run to an error, and the level above all of them
that no diagnostic has.
-/

/-- How much a diagnostic matters. -/
inductive Level where
  | trace
  | debug
  | info
  | warn
  | error
  /-- Above every diagnostic. -/
  | off
  deriving Repr, BEq, DecidableEq, Inhabited

namespace Level

/-- Every level, in increasing order. -/
def all : List Level := [trace, debug, info, warn, error, off]

/-- The place of the level in the order. -/
def rank : Level → Nat
  | trace => 0
  | debug => 1
  | info => 2
  | warn => 3
  | error => 4
  | off => 5

/-- The level of the rank; every rank above those of diagnostics means `off`. -/
def ofRank (n : Nat) : Level := all[n]?.getD off

/-- The word for the level on the command line. -/
def word : Level → String
  | trace => "trace"
  | debug => "debug"
  | info => "info"
  | warn => "warn"
  | error => "error"
  | off => "off"

/-- The word for the level in reports. -/
def display (l : Level) : String := l.word.map Char.toUpper

/-- The level that a word names. Letters without accents may be in upper case. -/
def parse (text : String) : Except String Level :=
  let word := text.map Char.toLower
  if word = "warning" then .ok warn
  else
    match all.find? (·.word == word) with
    | some l => .ok l
    | none => .error ("unknown log level: " ++ word)

/-- The level for a command line that names none. -/
def byDefault : Level := info

end Level

/-!
## Reports and their sink

What a run reports about itself, and the sink that keeps the reports that matter enough, in the
order in which they come.
-/

/-- The parts of the program that report on a run. -/
inductive Stage where
  | resolution
  | classification
  | generation
  | execution
  deriving Repr, BEq, DecidableEq

namespace Stage

/-- The name under which the part reports. -/
def target : Stage → String
  | resolution => "bunch_core::resolve"
  | classification => "bunch_core::classify"
  | generation => "bunch_core::engine"
  | execution => "bunch_runtime::instance"

end Stage

/-- A report about a run. -/
structure Diagnostic where
  level : Level
  /-- The part of the program that reports. -/
  target : String
  message : String
  template : Option String := none
  member : Option String := none
  deriving Repr, BEq, DecidableEq, Inhabited

namespace Diagnostic

/-- Where the cause lies, as exactly as it is known: the member, the template, or only the part
of the program that reports. -/
def location (d : Diagnostic) : String :=
  match d.template, d.member with
  | some template, some member =>
    if member = "" then template else template ++ "." ++ member
  | some template, none => template
  | none, _ => d.target

/-- The diagnostic on one line. -/
def line (d : Diagnostic) : String := d.level.display ++ " " ++ d.location ++ ": " ++ d.message

end Diagnostic

/-- The diagnostics kept so far, oldest first, and the least level that is kept. -/
structure Sink where
  threshold : Level := .warn
  records : List Diagnostic := []
  deriving Repr, BEq, DecidableEq, Inhabited

namespace Sink

/-- Whether diagnostics of the level are kept. -/
def isEnabled (s : Sink) (l : Level) : Bool := l != .off && s.threshold.rank ≤ l.rank

/-- Keeps the diagnostic, if its level is high enough. -/
def record (s : Sink) (d : Diagnostic) : Sink :=
  if s.isEnabled d.level then { s with records := s.records ++ [d] } else s

/-- Offers diagnostics in order. -/
def recordAll (s : Sink) (ds : List Diagnostic) : Sink := ds.foldl record s

/-- Changes the least level that is kept from now on. -/
def setLevel (s : Sink) (l : Level) : Sink := { s with threshold := l }

/-- Takes the kept diagnostics out. -/
def drain (s : Sink) : List Diagnostic × Sink := (s.records, { s with records := [] })

/-- Drops the kept diagnostics. -/
def clear (s : Sink) : Sink := { s with records := [] }

/-- The number of kept diagnostics of the level. -/
def count (s : Sink) (l : Level) : Nat := s.records.countP (·.level == l)

end Sink

end TypedBundle
