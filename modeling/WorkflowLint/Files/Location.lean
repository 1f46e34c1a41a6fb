/-!
# Locations of files

A location is a text whose names are separated by slashes. One that starts with a slash is
absolute; any other is seen from the place that it is joined to.
-/

namespace WorkflowLint

namespace Location

/-- The location does not depend on where it is seen from. -/
def isAbsolute (location : String) : Bool :=
  location.toList.head? == some '/'

/-- The location ends at a separator, so that a name may follow. -/
def isOpen (location : String) : Bool :=
  location.toList.getLast? == some '/'

/-- A location seen from a base. An absolute one is not changed by any base, and the empty base
changes none. The empty location leaves the base, closed by a separator. -/
def join (base location : String) : String :=
  if isAbsolute location || base == "" then location
  else if isOpen base then base ++ location
  else base ++ "/" ++ location

theorem join_of_isAbsolute {location : String} (h : isAbsolute location = true) (base : String) :
    join base location = location := by
  simp [join, h]

/-- A location that is not absolute lies under the base, with one separator between them unless the
base is empty or ends at one. -/
theorem join_of_not_isAbsolute {location : String} (h : isAbsolute location = false)
    (base : String) :
    join base location =
      base ++ (if base == "" || isOpen base then "" else "/") ++ location := by
  by_cases hempty : base = ""
  · simp [join, hempty]
  · cases hopen : isOpen base <;> simp [join, h, hempty, hopen]

/-- The texts between the separators. -/
def segments : List Char → List (List Char)
  | [] => [[]]
  | c :: rest =>
    if c = '/' then [] :: segments rest
    else
      match segments rest with
      | [] => [[c]]
      | s :: more => (c :: s) :: more

/-- The steps from the start of a location: its segments, without the empty ones. A separator at
the end asks for a directory, and is a step to the directory itself. -/
def steps (location : String) : List String :=
  let names := (segments location.toList).filter (· ≠ [])
  (names.map String.ofList) ++ (if isOpen location then ["."] else [])

/-- The steps that tell locations apart. A step to the directory itself does so only at the start
of a location that is not absolute. -/
def names (location : String) : List String :=
  match steps location with
  | [] => []
  | first :: rest =>
    (if first == "." && isAbsolute location then [] else [first]) ++ rest.filter (· != ".")

/-- Two texts are written forms of one location. -/
def same (a b : String) : Bool :=
  isAbsolute a == isAbsolute b && names a == names b

end Location

end WorkflowLint
