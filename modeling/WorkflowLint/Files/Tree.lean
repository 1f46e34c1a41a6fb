import WorkflowLint.Files.Location
import WorkflowLint.Files.Contents

/-!
# Trees of files

Files and directories as a value, for runs that touch no disk. A tree knows the octets of its
files and the place that locations which are not absolute are seen from; the directories on the
way to a file are there without being named.
-/

namespace WorkflowLint

/-- A place in a tree: the names on the way to it, the last one first. -/
abbrev Place := List String

/-- What lies at a place. -/
inductive Occupant
  | file (octets : ByteArray)
  | directory

/-- Files and directories. -/
structure FileTree where
  occupants : List (Place × Occupant)
  /-- The directory that other locations are seen from. -/
  here : Place

namespace FileTree

/-- The most octets that a name can have. -/
def nameLimit : Nat :=
  255

/-- The most octets that a location can have. -/
def locationLimit : Nat :=
  4095

/-- The tree with one more occupant, at a location. -/
def add (tree : FileTree) (location : String) (occupant : Occupant) : FileTree :=
  { tree with
    occupants := tree.occupants ++ [((Location.names location).reverse ++ tree.here, occupant)] }

/-- Something lies at a place, or below it. -/
def occupant? (tree : FileTree) (place : Place) : Option Occupant :=
  match tree.occupants.find? (·.1 == place) with
  | some found => some found.2
  | none =>
    if place.isSuffixOf tree.here || tree.occupants.any (place.isSuffixOf ·.1) then
      some .directory
    else none

/-- One step, to the directory itself, out of it or to a name in it. -/
def step (tree : FileTree) (place : Place) (name : String) : Except ReadError Place :=
  match tree.occupant? place with
  | none => .error .missing
  | some (.file _) => .error .notADirectory
  | some .directory =>
    if name == "." then .ok place
    else if name == ".." then .ok place.tail
    else if name.utf8ByteSize > nameLimit then .error .nameTooLong
    else .ok (name :: place)

/-- Where a location leads. -/
def locate (tree : FileTree) (location : String) : Except ReadError Place :=
  if location == "" then .error .missing
  else if location.utf8ByteSize > locationLimit then .error .nameTooLong
  else
    (Location.steps location).foldlM tree.step
      (if Location.isAbsolute location then [] else tree.here)

def read (tree : FileTree) (location : String) : Contents := do
  if location.toList.contains '\x00' then .error .nullInLocation
  match tree.occupant? (← tree.locate location) with
  | none => .error .missing
  | some .directory => .error .isADirectory
  | some (.file octets) => Contents.ofOctets octets

end FileTree

end WorkflowLint
