/-!
# Paths

A `Path` is a text as it is written in a configuration or handed to a tool. A `Location` is where a
path leads when `.` and `..` are resolved by name alone, without looking at any file. Each location
has one canonical path, so two spellings of a file meet in its location.
-/

namespace DemoBuild

/-- A path as it is written. -/
structure Path where
  /-- The text. -/
  text : String
  deriving DecidableEq, Repr, Inhabited

namespace Path

/-- The path starts at the root. -/
def isAbsolute (p : Path) : Bool :=
  p.text.toList.head? == some '/'

/-- What stands between the slashes, empty segments left out. -/
def segments (p : Path) : List String :=
  ((p.text.toList.splitOn '/').filter (· ≠ [])).map String.ofList

/-- The segments that change the place: those other than `.`. -/
def steps (p : Path) : List String :=
  p.segments.filter (· ≠ ".")

/-- The path written with a slash at its end denotes a directory only. -/
def hasTrailingSlash (p : Path) : Bool :=
  p.text.toList.getLast? == some '/'

/-- `q` as seen from the directory `p`. -/
def join (p q : Path) : Path :=
  if q.isAbsolute then q
  else if p.text.isEmpty || p.hasTrailingSlash then ⟨p.text ++ q.text⟩
  else ⟨p.text ++ "/" ++ q.text⟩

/-- The path with a slash at its end. -/
def withTrailingSlash (p : Path) : String :=
  if p.hasTrailingSlash then p.text else p.text ++ "/"

/-- The segments that a path counts as its components: a `.` counts only where it starts a relative
path. -/
def components (p : Path) : List String :=
  if !p.isAbsolute && p.segments.head? == some "." then "." :: p.steps else p.steps

/-- The path without its last component; the root and the empty path have none. -/
def parent? (p : Path) : Option Path :=
  if p.components = [] then none
  else some ⟨(if p.isAbsolute then "/" else "") ++ "/".intercalate p.components.dropLast⟩

end Path

/-- Where the climbing part of a path ends. -/
inductive Anchor where
  /-- The root of the file system. -/
  | root
  /-- So many levels above the working directory. -/
  | above (levels : Nat)
  deriving DecidableEq, Repr

/-- The place a path leads to: an anchor, and the names below it, innermost first. -/
structure Location where
  /-- Where the names start. -/
  anchor : Anchor
  /-- The names below the anchor, innermost first. -/
  names : List String
  deriving DecidableEq, Repr

namespace Location

/-- The working directory. -/
def here : Location :=
  ⟨.above 0, []⟩

/-- One level up. The root is its own parent. -/
def up : Location → Location
  | ⟨anchor, _ :: names⟩ => ⟨anchor, names⟩
  | ⟨.root, []⟩ => ⟨.root, []⟩
  | ⟨.above levels, []⟩ => ⟨.above (levels + 1), []⟩

/-- Follows one segment of a path. -/
def enter (l : Location) (segment : String) : Location :=
  if segment = ".." then l.up
  else if segment = "." then l
  else ⟨l.anchor, segment :: l.names⟩

/-- The place where the segments of `p` start, seen from `l`. -/
def start (l : Location) (p : Path) : Location :=
  if p.isAbsolute then ⟨.root, []⟩ else l

/-- Follows a path. -/
def follow (l : Location) (p : Path) : Location :=
  p.steps.foldl enter (l.start p)

/-- The segments of the canonical path. -/
def segments (l : Location) : List String :=
  match l.anchor with
  | .root => l.names.reverse
  | .above levels => List.replicate levels ".." ++ l.names.reverse

/-- The canonical path: `.` for the working directory. -/
def path (l : Location) : Path :=
  match l.anchor with
  | .root => ⟨"/" ++ "/".intercalate l.segments⟩
  | .above _ => if l.segments = [] then ⟨"."⟩ else ⟨"/".intercalate l.segments⟩

/-- The directory that the canonical path names without its last segment. -/
def directory : Location → Location
  | ⟨anchor, _ :: names⟩ => ⟨anchor, names⟩
  | ⟨.root, []⟩ => here
  | ⟨.above levels, []⟩ => ⟨.above (levels - 1), []⟩

end Location

namespace Path

/-- The place the path leads to from the working directory. -/
def location (p : Path) : Location :=
  Location.here.follow p

/-- The canonical path of the place that the path leads to. -/
def normalize (p : Path) : Path :=
  p.location.path

end Path

end DemoBuild
