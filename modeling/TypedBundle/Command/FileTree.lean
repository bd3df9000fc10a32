import TypedBundle.Dict

/-!
# File trees

A file system as a value: directories and text files by place, and the paths that lead to them.
A path is a text with slashes. It starts at the root if it begins with one, and at the working
directory otherwise; two dots lead up, one stays, and whatever is followed by a slash has to be a
directory. Names and whole paths can only be so long.
-/

namespace TypedBundle

/-- A place: the names on the way from the root. -/
abbrev Place := List String

/-- Directories and text files. The root is a directory without being listed. -/
structure FileTree where
  workingDirectory : Place
  directories : List Place
  files : List (Place × String) := []
  deriving Repr

namespace FileTree

/-- The tree with an empty working directory. No path can spell its name, so that a path that
leaves it does not come back. -/
def empty : FileTree where
  workingDirectory := ["."]
  directories := [["."]]

instance : Inhabited FileTree := ⟨empty⟩

/-- One path after another. An absolute path starts over. -/
def join (base path : String) : String :=
  if path.toList.head? = some '/' then path
  else if base = "" ∨ base.toList.getLast? = some '/' then base ++ path
  else base ++ "/" ++ path

/-- Whether there is a directory at the place. -/
def isDirectory (t : FileTree) (p : Place) : Bool := p.isEmpty || t.directories.contains p

/-- Whether there is a file at the place. -/
def isFile (t : FileTree) (p : Place) : Bool := (t.files.lookup p).isSome

/-- Whether a name can be given to a file or a directory. -/
def isName (name : String) : Bool :=
  name != "" && name != "." && name != ".." && name.utf8ByteSize ≤ 255 &&
    !name.toList.contains '\x00'

/-- Whether a path is short enough to lead anywhere. -/
def isBounded (path : String) : Bool := path.utf8ByteSize < 4096

/-- The names in a path: what stands between its slashes. -/
def names (path : String) : List String := (path.toList.splitOn '/').map String.ofList

/-- Where a path starts, and the names that follow. -/
def start (t : FileTree) (path : String) : Place × List String :=
  match names path with
  | "" :: names => ([], names)
  | names => (t.workingDirectory, names)

/-- The place one step from a directory, whether or not something is there. -/
def step (t : FileTree) (p : Place) (name : String) : Option Place :=
  if !t.isDirectory p then none
  else if name = "" ∨ name = "." then some p
  else if name = ".." then some p.dropLast
  else if isName name then some (p ++ [name])
  else none

/-- The place at the end of several steps. -/
def follow (t : FileTree) (p : Place) : List String → Option Place
  | [] => some p
  | name :: rest => do t.follow (← t.step p name) rest

/-- The place that a path leads to. -/
def place? (t : FileTree) (path : String) : Option Place := do
  guard (isBounded path)
  let (p, names) := t.start path
  t.follow p names

/-- The text of the file at the end of a path. -/
def read? (t : FileTree) (path : String) : Option String :=
  if path = "" then none else (t.place? path).bind fun p => t.files.lookup p

/-- Makes the directories that are missing on the way. -/
def makeSteps (t : FileTree) (p : Place) : List String → Option FileTree
  | [] => some t
  | name :: rest => do
    let q ← t.step p name
    if t.isFile q then none
    else if t.isDirectory q then t.makeSteps q rest
    else ({ t with directories := t.directories ++ [q] } : FileTree).makeSteps q rest

/-- Makes the directory at the end of a path, and those on the way to it. A dot at the end stands
in the directory before it, which is not made for its sake: it has to be there once the way to it
is made. -/
def makeDirectories (t : FileTree) (path : String) : Option FileTree := do
  if path = "" then return t
  guard (isBounded path)
  let (p, names) := t.start path
  let steps := names.filter (· != "")
  if steps.getLast? = some "." then
    let t ← t.makeSteps p (steps.filter (· != ".")).dropLast
    (t.follow p steps).map fun _ => t
  else t.makeSteps p steps

/-- Writes a file, in place of an older one. Its directory has to be there. -/
def write (t : FileTree) (path text : String) : Option FileTree := do
  guard (isName ((names path).getLast?.getD ""))
  let p ← t.place? path
  if t.isDirectory p then none
  else some { t with files := t.files.filter (·.1 != p) ++ [(p, text)] }

/-- The files below a directory of the working directory, as paths from there, in order. -/
def filesBelow (t : FileTree) (name : String) : List (String × String) :=
  let top := t.workingDirectory ++ [name]
  let below := t.files.filter fun f => top.isPrefixOf f.1 && f.1 != top
  (Dict.ofList (below.map fun f =>
    ("/".intercalate (f.1.drop t.workingDirectory.length), f.2))).toList

end FileTree

end TypedBundle
