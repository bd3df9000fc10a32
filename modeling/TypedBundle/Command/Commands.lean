import TypedBundle.Command.FileTree
import TypedBundle.Description
import TypedBundle.Kotlin.Source
import TypedBundle.Text.Quoted
import TypedBundle.Toml.Reader

/-!
# Commands

The commands of the program: generating sources from a manifest, checking it, and describing the
types. What they need of the outside is a `System`, the reader of manifests included; `Machine` is
one in memory.
-/

namespace TypedBundle

namespace Document

/-- How manifests are read from TOML: surplus items of a list are passed over, and an empty list
or table under a selecting word counts as nothing. -/
def Rules.toml : Rules where
  allowsSurplus := true
  isNothing
    | .list [] | .table [] => true
    | _ => false

/-- How manifests are read from JSON: null under a selecting word counts as nothing. -/
def Rules.json : Rules where
  allowsSurplus := false
  isNothing
    | .null => true
    | _ => false

end Document

namespace Manifest

/-- The manifest that a text in TOML holds. -/
def ofToml? (source : String) : Option Manifest :=
  (Toml.read source).bind (Document.manifest? .toml)

end Manifest

/-- What commands need of the outside. -/
structure System (m : Type → Type) where
  /-- The manifest that a text holds, if it holds one. -/
  manifest? : String → Option Manifest
  /-- The text of a file, if it can be read. -/
  read : String → m (Option String)
  /-- Makes a directory and those above it; false if that fails. -/
  makeDirectories : String → m Bool
  /-- Writes a file; false if that fails. -/
  write : String → String → m Bool
  print : String → m Unit
  /-- Takes note of the events of a run. -/
  report : List Event → m Unit
  /-- The number of warnings so far. -/
  warningCount : m Nat

namespace Command

variable {m : Type → Type} [Monad m] (sys : System m)

/-- A command: it can fail with a sentence. -/
abbrev Run (m : Type → Type) (α : Type) := ExceptT String m α

/-- Loads a manifest from a file. -/
def load (path : String) : Run m Manifest := do
  match ← sys.read path with
  | none => throw ("Failed to read manifest: " ++ Text.quoted path)
  | some source =>
    match sys.manifest? source with
    | none => throw ("Failed to parse manifest: " ++ Text.quoted path)
    | some manifest => return manifest

/-- Generates the types of a manifest, with the events of that noted. -/
def runManifest (manifest : Manifest) : Run m Generation := do
  sys.report manifest.events
  return manifest.generate

/-- Fails if a template failed. -/
def ensureSuccess (g : Generation) : Run m Unit :=
  match g.failureSummary? with
  | none => pure ()
  | some summary => throw summary

/-- The path of a package: slashes stand for its dots. -/
def packagePath (package : String) : String := package.map fun c => if c = '.' then '/' else c

/-- The directory of the sources of a package. -/
def packageDirectory (output : String) (g : AccessorType) : String :=
  FileTree.join output (packagePath g.package)

/-- The path of the source of a type. -/
def sourcePath (output : String) (config : OutputConfig) (g : AccessorType) : String :=
  FileTree.join (packageDirectory output g) (config.fileName g.name)

/-- Writes the source of a type and gives its path. -/
def writeSource (output : String) (config : OutputConfig) (g : AccessorType) : Run m String := do
  let directory := packageDirectory output g
  let path := sourcePath output config g
  if !(← sys.makeDirectories directory) then
    throw ("Failed to create directory: " ++ Text.quoted directory)
  if !(← sys.write path (Kotlin.source g config)) then
    throw ("Failed to write " ++ Text.quoted path)
  return path

/-- Writes the sources of all types of a manifest, also if templates fail, and gives their
paths. -/
def generate (input output : String) : Run m (List String) := do
  sys.print ("Generating from manifest: " ++ input ++ "\n")
  let manifest ← load sys input
  let generation ← runManifest sys manifest
  let written ← generation.outputs.mapM (writeSource sys output manifest.config)
  for path in written do
    sys.print ("✓ " ++ path ++ "\n")
  let warnings ← sys.warningCount
  sys.print ("\nGenerated " ++ toString written.length ++ " file(s), " ++
    toString generation.failures.length ++ " failed template(s), " ++ toString warnings ++
    " warning(s)\n")
  ensureSuccess generation
  return written

/-- The line on a type that a manifest yields. -/
def successLine (g : AccessorType) : String :=
  "✓ " ++ g.qualifiedName ++ " from " ++ g.template ++ " (" ++ toString g.members.length ++
    " members, " ++ toString g.methods.length ++ " methods)\n"

/-- Checks a manifest without writing anything. -/
def check (input : String) : Run m Unit := do
  sys.print ("Checking manifest: " ++ input ++ "\n")
  let manifest ← load sys input
  let generation ← runManifest sys manifest
  for g in generation.outputs do
    sys.print (successLine g)
  for e in generation.failures do
    sys.print ("✗ " ++ e.message ++ "\n")
  ensureSuccess generation
  sys.print "\nManifest is valid!\n"

/-- Prints the generated types and the failures as JSON. -/
def describe (input : String) : Run m Unit := do
  let manifest ← load sys input
  let generation ← runManifest sys manifest
  sys.print (generation.describe.pretty ++ "\n")
  ensureSuccess generation

end Command

/-- A system in memory: files, what was printed, and the diagnostics that were kept. -/
structure Machine where
  tree : FileTree := .empty
  printed : String := ""
  sink : Sink := {}

namespace Machine

/-- Changes the files, if the change can be made. -/
def change (f : FileTree → Option FileTree) : StateM Machine Bool := do
  let s ← get
  match f s.tree with
  | none => return false
  | some tree =>
    set { s with tree }
    return true

/-- The commands' view of the machine, given how manifests are read. -/
def system (manifest? : String → Option Manifest) : System (StateM Machine) where
  manifest?
  read path := return (← get).tree.read? path
  makeDirectories path := change (·.makeDirectories path)
  write path text := change (·.write path text)
  print text := modify fun s => { s with printed := s.printed ++ text }
  report es := modify fun s => { s with sink := s.sink.observeAll es }
  warningCount := return (← get).sink.count .warn

end Machine

end TypedBundle
