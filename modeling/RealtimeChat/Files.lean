/-!
# Files

Files stand in directories, and a path leads to one name by name. What the system answers to a
path depends on all of its names: each but the last one has to be a directory, also those that a
step back leaves again.

* `Files`, `Files.Path` -- files in their directories, and paths to them;
* `Files.read`, `Files.exists?` -- what is found at a path;
* `Files.save` -- a file written at a path, with the directories that are missing.
-/

namespace RealtimeChat

/-! ## 1. The data -/

namespace Files

/-- What stands under a name. -/
inductive Entry where
  | directory
  | file (text : String)
deriving DecidableEq, Repr

/-- Why the system refuses. -/
inductive Fault where
  | missing
  | alreadyThere
  | notDirectory
  | isDirectory
  | nameTooLong
deriving DecidableEq, Repr

/-- The refusal in the system's words. -/
def Fault.text : Fault → String
  | .missing => "No such file or directory (os error 2)"
  | .alreadyThere => "File exists (os error 17)"
  | .notDirectory => "Not a directory (os error 20)"
  | .isDirectory => "Is a directory (os error 21)"
  | .nameTooLong => "File name too long (os error 36)"

/-- A place: the names of the directories that lead to it, the outermost first, and its own. -/
abbrev Place := List String

/-- A way to a place. -/
structure Path where
  /-- Whether it starts at the outermost directory. -/
  absolute : Bool
  /-- The names, with `.` for no step and `..` for a step back. -/
  names : List String
  /-- Whether it ends with a slash, so that it can only lead to a directory. -/
  closed : Bool
deriving DecidableEq, Repr

/-- The path that a text stands for. -/
def Path.ofString (s : String) : Path :=
  let cs := s.toList
  { absolute := cs.head? = some '/'
    names := ((cs.splitOn '/').filter (!·.isEmpty)).map String.ofList
    closed := cs.getLast? = some '/' }

end Files

/-- Files in their directories. -/
structure Files where
  entries : List (Files.Place × Files.Entry) := []
  /-- The directory that paths start from if they do not start at the outermost one. -/
  here : Files.Place := []
deriving DecidableEq, Repr

namespace Files

/-! ## 2. Finding -/

/-- What stands at a place; the outermost directory is always there. -/
def entryAt? (f : Files) (place : Place) : Option Entry :=
  if place = [] then some .directory else f.entries.lookup place

/-- What stands under a name in a directory. -/
def named? (f : Files) (dir : Place) (name : String) : Except Fault (Option Entry) :=
  if name = "." ∨ name = ".." then .ok (some .directory)
  else if 255 < name.utf8ByteSize then .error .nameTooLong
  else .ok (f.entryAt? (dir ++ [name]))

/-- The place that one step leads to. -/
def step (dir : Place) (name : String) : Place :=
  if name = "." then dir else if name = ".." then dir.dropLast else dir ++ [name]

/-- Enter the directory that a name stands for. -/
def enter (f : Files) (dir : Place) (name : String) : Except Fault Place :=
  match f.named? dir name with
  | .error e => .error e
  | .ok none => .error .missing
  | .ok (some (.file _)) => .error .notDirectory
  | .ok (some .directory) => .ok (step dir name)

/-- Where a path starts. -/
def start (f : Files) (p : Path) : Place := if p.absolute then [] else f.here

/-- Enter one directory after the other. -/
def walk (f : Files) (dir : Place) (names : List String) : Except Fault Place :=
  names.foldlM f.enter dir

/-- What is found at a path. -/
def find (f : Files) (p : Path) : Except Fault Entry :=
  match p.names.getLast? with
  | none => .ok .directory
  | some name => do
    let dir ← f.walk (f.start p) p.names.dropLast
    match ← f.named? dir name with
    | none => .error .missing
    | some (.file text) => if p.closed then .error .notDirectory else .ok (.file text)
    | some .directory => .ok .directory

/-- Whether anything is found at a path. -/
def exists? (f : Files) (path : String) : Bool := (f.find (.ofString path)).isOk

/-- The text of the file at a path. -/
def read (f : Files) (path : String) : Except Fault String :=
  match f.find (.ofString path) with
  | .error e => .error e
  | .ok .directory => .error .isDirectory
  | .ok (.file text) => .ok text

/-! ## 3. Writing -/

/-- The files with an entry at a place. -/
def put (f : Files) (place : Place) (e : Entry) : Files :=
  { f with entries := (place, e) :: f.entries.filter (·.1 ≠ place) }

/-- Make a directory. -/
def makeDirectory (f : Files) (start : Place) (names : List String) : Except Fault Files :=
  match names.getLast? with
  | none => .error .alreadyThere
  | some name => do
    let dir ← f.walk start names.dropLast
    match ← f.named? dir name with
    | some _ => .error .alreadyThere
    | none => .ok (f.put (dir ++ [name]) .directory)

/-- Whether a directory is found behind these names. -/
def hasDirectory (f : Files) (start : Place) (names : List String) : Bool :=
  (f.walk start names).isOk

/-- Make a directory unless it is there already. -/
def requireDirectory (f : Files) (start : Place) (names : List String) : Except Fault Files :=
  match f.makeDirectory start names with
  | .ok f => .ok f
  | .error e => if f.hasDirectory start names then .ok f else .error e

/-- Make a directory with all that lead to it, the names last one first: those that lead to it
only if it cannot be made for want of them. -/
def makeDirectories (f : Files) (start : Place) : List String → Except Fault Files
  | [] => .ok f
  | name :: front =>
    match f.makeDirectory start (name :: front).reverse with
    | .ok f => .ok f
    | .error .missing => do
      let f ← f.makeDirectories start front
      f.requireDirectory start (name :: front).reverse
    | .error e => if f.hasDirectory start (name :: front).reverse then .ok f else .error e

/-- Write a file in a directory that is there. -/
def writeFile (f : Files) (p : Path) (text : String) : Except Fault Files :=
  match p.names.getLast? with
  | none => .error .isDirectory
  | some name => do
    let dir ← f.walk (f.start p) p.names.dropLast
    if p.closed then .error .isDirectory
    else
      match ← f.named? dir name with
      | some .directory => .error .isDirectory
      | _ => .ok (f.put (dir ++ [name]) (.file text))

/-- Write a file, with the directories that are missing on the way to it. -/
def save (f : Files) (path text : String) : Except Fault Files := do
  let p := Path.ofString path
  let front := (p.names.filter (· ≠ ".")).dropLast
  let f ← f.makeDirectories (f.start p) front.reverse
  f.writeFile p text

end Files

end RealtimeChat
