import DumpSummary.File.Path
import DumpSummary.Text.Utf8
import DumpSummary.Text.Quoted

/-!
# The files that a run sees

The files and directories that a run can look at, and the one thing it can do to them: to write a text to a file.

## Contents

* `FileTree`, `Entry`: the type;
* `FileTree.find`: what a path leads to;
* `FileFault`, `FileFault.message`: why a file cannot be read or written;
* `FileTree.read`, `FileTree.write`: reading and writing;
* `FileTree.changes`: the files that a run has written.
-/

namespace DumpSummary

/-- What stands at a place. -/
inductive Entry
  /-- A file and what it holds. -/
  | file (content : Bytes)
  /-- A directory. -/
  | directory
  deriving DecidableEq, Repr

/-- The files and directories of a run.  Directories on the way to an entry need no entry of their own. -/
structure FileTree where
  /-- The entries, each at its place: a path whose dots all stand at its beginning. -/
  entries : List (Path × Entry)
  deriving Repr

/-- What a path leads to. -/
inductive Found
  /-- An entry. -/
  | entry (e : Entry)
  /-- Nothing. -/
  | nothing
  /-- Nothing, because a file stands where the path needs a directory. -/
  | blocked
  deriving DecidableEq, Repr

/-- Why a file cannot be read or written. -/
inductive FileFault
  /-- There is no such file or directory. -/
  | missing (p : Path)
  /-- A file stands where a directory is needed. -/
  | notDirectory (p : Path)
  /-- A directory stands where a file is needed. -/
  | isDirectory (p : Path)
  deriving DecidableEq, Repr

/-- The message. -/
def FileFault.message : FileFault → String
  | .missing p => "[Errno 2] No such file or directory: " ++ Text.quoted p.text
  | .notDirectory p => "[Errno 20] Not a directory: " ++ Text.quoted p.text
  | .isDirectory p => "[Errno 21] Is a directory: " ++ Text.quoted p.text

namespace FileTree

/-- What stands at a place.  The working directory and the directories above it are there. -/
def at? (t : FileTree) (place : Path) : Option Entry :=
  if place.names.all (· == "..") then some .directory
  else match t.entries.lookup place with
    | some e => some e
    | none => if t.entries.any fun e => place.isAbove e.1 then some .directory else none

/-- What names lead to from a place.  Every name but the last one needs a directory before it. -/
def walk (t : FileTree) : Path → List String → Found
  | place, [] =>
    match t.at? place with
    | some e => .entry e
    | none => .nothing
  | place, name :: names =>
    match t.at? place with
    | some .directory => walk t (if name = ".." then place.up else place.child name) names
    | some (.file _) => .blocked
    | none => .nothing

/-- What a path leads to. -/
def find (t : FileTree) (p : Path) : Found :=
  t.walk ⟨p.root, []⟩ p.names

/-- The place of a path: two dots cancel the name before them. -/
def place (p : Path) : Path :=
  p.names.foldl (fun q name => if name = ".." then q.up else q.child name) ⟨p.root, []⟩

/-- Whether a path leads to a file or a directory. -/
def holds (t : FileTree) (p : Path) : Bool :=
  match t.find p with
  | .entry _ => true
  | _ => false

/-- What the file at a path holds. -/
def read (t : FileTree) (p : Path) : Except FileFault Bytes :=
  match t.find p with
  | .entry (.file content) => .ok content
  | .entry .directory => .error (.isDirectory p)
  | .nothing => .error (.missing p)
  | .blocked => .error (.notDirectory p)

/-- The tree with a file at a place, instead of what stood there. -/
def put (t : FileTree) (place : Path) (content : Bytes) : FileTree :=
  ⟨t.entries.filter (·.1 != place) ++ [(place, .file content)]⟩

/-- The tree after a write to the file at a path.  A new file needs a directory to stand in. -/
def write (t : FileTree) (p : Path) (content : Bytes) : Except FileFault FileTree :=
  match t.find p with
  | .entry (.file _) => .ok (t.put (place p) content)
  | .entry .directory => .error (.isDirectory p)
  | .blocked => .error (.notDirectory p)
  | .nothing =>
    match t.find p.parent with
    | .entry .directory => .ok (t.put (place p) content)
    | _ => .error (.missing p)

/-- The files of a tree that are new or hold something else than in an earlier one. -/
def changes (before after : FileTree) : List (Path × Bytes) :=
  after.entries.filterMap fun e =>
    match e.2 with
    | .file content => if before.entries.lookup e.1 == some (.file content) then none else some (e.1, content)
    | .directory => none

end FileTree
end DumpSummary
