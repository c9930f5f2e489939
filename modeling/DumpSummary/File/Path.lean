/-!
# Paths of files

A path is the list of names that lead to a file.  Empty names and single dots say nothing and are dropped when a
path is read; two dots are kept, since what they mean depends on the directories on the way.

## Contents

* `Path`, `Path.ofText`, `Path.text`: the type, its reading and its text;
* `Path.parent`, `Path.child`, `Path.up`: one step up and one step down;
* `Path.beginnings`: the steps on the way.
-/

namespace DumpSummary

/-- A path: the slashes at its beginning, if it has any, and its names. -/
structure Path where
  /-- Nothing for a path from the working directory, else one or two slashes. -/
  root : String
  /-- The names on the way. -/
  names : List String
  deriving DecidableEq, Repr

namespace Path

/-- The working directory. -/
def here : Path := ⟨"", []⟩

/-- The parts of a text between slashes. -/
def splitSlashes : List Char → List (List Char)
  | [] => [[]]
  | c :: cs =>
    if c == '/' then [] :: splitSlashes cs
    else match splitSlashes cs with
      | [] => [[c]]
      | part :: parts => (c :: part) :: parts

/-- The slashes at the beginning of a path, as it keeps them: exactly two stay two, any other number counts as
one. -/
def rootOf (cs : List Char) : String :=
  match (cs.takeWhile (· == '/')).length with
  | 0 => ""
  | 2 => "//"
  | _ => "/"

/-- The path that a text writes. -/
def ofText (s : String) : Path :=
  let parts := (splitSlashes s.toList).map String.ofList
  ⟨rootOf s.toList, parts.filter fun p => p != "" && p != "."⟩

/-- The text of a path; the working directory is written as a dot. -/
def text (p : Path) : String :=
  if p.root == "" && p.names.isEmpty then "." else p.root ++ String.intercalate "/" p.names

/-- The path without its last name. -/
def parent (p : Path) : Path := ⟨p.root, p.names.dropLast⟩

/-- The path with one more name. -/
def child (p : Path) (name : String) : Path := ⟨p.root, p.names ++ [name]⟩

/-- One directory up: without the last name, or with two dots more where no name is left to drop. -/
def up (p : Path) : Path :=
  if p.root == "" && (p.names.getLast?.getD "..") == ".." then p.child ".." else p.parent

/-- The beginnings of a path, shortest first, with the path itself. -/
def beginnings (p : Path) : List Path :=
  (List.range (p.names.length + 1)).map fun n => ⟨p.root, p.names.take n⟩

/-- Whether a path is a proper beginning of another one. -/
def isAbove (p q : Path) : Bool :=
  p.root == q.root && p.names.length < q.names.length && p.names.isPrefixOf q.names

end Path
end DumpSummary
