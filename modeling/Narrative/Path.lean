/-!
# Paths

A path is a text that slashes part into segments.  Empty segments and single dots lead nowhere;
only in front do they say where the path starts: an empty segment at the root, a dot where one is.
-/

namespace Narrative.Path

/-- The pieces between the slashes. -/
def split : List Char → List (List Char)
  | [] => [[]]
  | c :: cs =>
    if c = '/' then [] :: split cs
    else
      match split cs with
      | [] => [[c]]
      | s :: ss => (c :: s) :: ss

/-- The segments of a path, in order. -/
def segments (path : String) : List String := (split path.toList).map String.ofList

/-- The path of some segments. -/
def ofSegments (segments : List String) : String := "/".intercalate segments

/-- A segment that leads nowhere. -/
def isIdle (segment : String) : Bool := segment = "" || segment = "."

/-- Whether a path starts at the root. -/
def isAbsolute (path : String) : Bool := path.toList.head? = some '/'

/-- A path seen from a base; an absolute one is seen from nowhere else.  There is one slash between
the two, but none behind an empty base. -/
def join (base path : String) : String :=
  if isAbsolute path || base = "" then path
  else if base.toList.getLast? = some '/' then base ++ path
  else base ++ "/" ++ path

/-- The first segment, and the others last first without the idle ones at the end. -/
def parts (path : String) : String × List String :=
  match segments path with
  | [] => ("", [])
  | first :: rest => (first, rest.reverse.dropWhile isIdle)

/-- What a path names: its last segment, unless that is a way and no name. -/
def name? (path : String) : Option String :=
  match parts path with
  | (_, last :: _) => if last = ".." then none else some last
  | (first, []) => if isIdle first || first = ".." then none else some first

/-- The path without its last segment. -/
def parent? (path : String) : Option String :=
  match parts path with
  | (first, _ :: before) =>
    match before.dropWhile isIdle with
    | [] => some (if first = "" then "/" else first)
    | before => some (ofSegments (first :: before.reverse))
  | (first, []) => if first = "" then none else some ""

/-- The parts of a name before and behind its last dot; a dot in front does not count. -/
def splitName (name : String) : String × Option String :=
  let back := name.toList.reverse
  match back.dropWhile (· ≠ '.') with
  | [] | [_] => (name, none)
  | _ :: before =>
    (String.ofList before.reverse, some (String.ofList (back.takeWhile (· ≠ '.')).reverse))

/-- The name without its extension. -/
def stem? (path : String) : Option String := (name? path).map fun name => (splitName name).1

/-- What stands behind the last dot of the name. -/
def extension? (path : String) : Option String := (name? path).bind fun name => (splitName name).2

@[simp] theorem split_nil : split [] = [[]] := rfl

theorem split_ne_nil (cs : List Char) : split cs ≠ [] := by
  cases cs with
  | nil => simp
  | cons c cs =>
    unfold split
    split
    · simp
    · split <;> simp

theorem split_slash (cs : List Char) : split ('/' :: cs) = [] :: split cs := by
  simp [split]

end Narrative.Path
