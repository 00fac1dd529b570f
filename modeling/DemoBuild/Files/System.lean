import DemoBuild.Files.Error
import DemoBuild.Files.Path

/-!
# File systems

A file system is a finite map from locations to files and directories. The anchors (the root, the
working directory and the directories above it) are always directories. A path is followed one
segment at a time, and every segment needs a directory to start from; a location that is reached
this way is the location of the path.
-/

namespace DemoBuild

/-- What exists at a location. -/
inductive Entry where
  /-- A directory. -/
  | directory
  /-- A file with its contents. -/
  | file (contents : ByteArray)

/-- The contents of an entry as text. -/
def Entry.read : Entry → Except FileError String
  | .directory => .error (.os .isADirectory)
  | .file contents =>
    match String.fromUTF8? contents with
    | some text => .ok text
    | none => .error .notText

/-- The files and directories below the anchors. -/
structure FileSystem where
  /-- What exists where; the first entry for a location counts. -/
  entries : List (Location × Entry)
  /-- The size in bytes that the system reports for a directory. Systems differ in it, and nothing
  below depends on it; many report one block for a directory with few entries. -/
  directorySize : Nat := 4096

namespace FileSystem

/-- Nothing exists but the anchors. -/
def empty : FileSystem :=
  { entries := [] }

/-- What is recorded for a location. -/
def lookup (fs : FileSystem) (l : Location) : Option Entry :=
  (fs.entries.find? (·.1 = l)).map Prod.snd

/-- Records what exists at a location. -/
def insert (fs : FileSystem) (l : Location) (e : Entry) : FileSystem :=
  { fs with entries := (l, e) :: fs.entries.filter (·.1 ≠ l) }

/-- Records directories at `names` below `anchor` and around it where nothing is recorded. -/
def placeDirectories (fs : FileSystem) (anchor : Anchor) : List String → FileSystem
  | [] => fs
  | name :: names =>
    let fs := fs.placeDirectories anchor names
    if (fs.lookup ⟨anchor, name :: names⟩).isSome then fs
    else fs.insert ⟨anchor, name :: names⟩ .directory

/-- Records what exists at a location, and directories around it where nothing is recorded. -/
def place (fs : FileSystem) (l : Location) (e : Entry) : FileSystem :=
  (fs.placeDirectories l.anchor l.names.tail).insert l e

/-- The greatest length of the name of a file, in octets. -/
def nameLimit : Nat := 255

/-- The greatest length of a path, in octets. -/
def pathLimit : Nat := 4095

/-- Why no file operation can have the path, whatever exists. -/
def refusal? (p : Path) : Option FileError :=
  if p.text.toList.any (·.toNat == 0) then some .zeroInPath
  else if pathLimit < p.text.utf8ByteSize then some (.os .nameTooLong)
  else none

/-- What exists at `names` below `anchor`, provided that all of it lies in directories. -/
def entryBelow (fs : FileSystem) (anchor : Anchor) : List String → Except OsError Entry
  | [] => .ok .directory
  | name :: names => do
    match ← fs.entryBelow anchor names with
    | .file _ => .error .notADirectory
    | .directory =>
      if nameLimit < name.utf8ByteSize then .error .nameTooLong
      else
        match fs.lookup ⟨anchor, name :: names⟩ with
        | some e => .ok e
        | none => .error .notFound

/-- What exists at a location. -/
def entry (fs : FileSystem) (l : Location) : Except OsError Entry :=
  fs.entryBelow l.anchor l.names

/-- Succeeds if the location is a directory. -/
def needDirectory (fs : FileSystem) (l : Location) : Except OsError Unit := do
  match ← fs.entry l with
  | .directory => .ok ()
  | .file _ => .error .notADirectory

/-- Follows the segments of a path; each of them starts from a directory. -/
def walk (fs : FileSystem) (l : Location) : List String → Except OsError Location
  | [] => .ok l
  | segment :: rest => do
    fs.needDirectory l
    fs.walk (l.enter segment) rest

/-- The location of a path whose directories all exist. -/
def locate (fs : FileSystem) (p : Path) : Except FileError Location := do
  if let some reason := refusal? p then .error reason
  if p.text.isEmpty then .error (.os .notFound)
  let l ← (fs.walk (Location.here.start p) p.segments).mapError .os
  if p.hasTrailingSlash then (fs.needDirectory l).mapError .os
  return l

/-- What exists at a path. -/
def status (fs : FileSystem) (p : Path) : Except FileError Entry := do
  (fs.entry (← fs.locate p)).mapError .os

/-- Something exists at the path. -/
def pathExists (fs : FileSystem) (p : Path) : Bool :=
  match fs.status p with
  | .ok _ => true
  | .error _ => false

/-- The path is a file. -/
def isFile (fs : FileSystem) (p : Path) : Bool :=
  match fs.status p with
  | .ok (.file _) => true
  | _ => false

/-- The path is a directory. -/
def isDirectory (fs : FileSystem) (p : Path) : Bool :=
  match fs.status p with
  | .ok .directory => true
  | _ => false

/-- Reads the text of the file at a location. -/
def readAt (fs : FileSystem) (l : Location) : Except FileError String :=
  match refusal? l.path with
  | some reason => .error reason
  | none =>
    match fs.entry l with
    | .ok e => e.read
    | .error reason => .error (.os reason)

/-- Reads the text of a file. -/
def read (fs : FileSystem) (p : Path) : Except FileError String := do
  (← fs.status p).read

/-- The size in bytes that the system reports for what exists at a path. -/
def size (fs : FileSystem) (p : Path) : Except FileError Nat := do
  match ← fs.status p with
  | .directory => return fs.directorySize
  | .file contents => return contents.size

/-- Writes a text to a file, which is created or replaced; its directory must exist. -/
def write (fs : FileSystem) (p : Path) (text : String) : Except FileError FileSystem := do
  let l ← fs.locate p
  match fs.entry l with
  | .ok .directory => .error (.os .isADirectory)
  | .ok (.file _) | .error .notFound => .ok (fs.insert l (.file text.toUTF8))
  | .error reason => .error (.os reason)

/-- Creates one directory; the directory around it must exist. -/
def makeDirectory (fs : FileSystem) (p : Path) : Except FileError FileSystem := do
  if let some reason := refusal? p then .error reason
  if p.text.isEmpty then .error (.os .notFound)
  match p.segments.getLast? with
  | none => .error (.os .fileExists)
  | some last =>
    let around ← (fs.walk (Location.here.start p) p.segments.dropLast).mapError .os
    (fs.needDirectory around).mapError .os
    if last = "." ∨ last = ".." then .error (.os .fileExists)
    let l := around.enter last
    match fs.entry l with
    | .ok _ => .error (.os .fileExists)
    | .error .notFound => .ok (fs.insert l .directory)
    | .error reason => .error (.os reason)

/-- A path and the paths around it, innermost first, up to the root or the empty path. -/
def ancestors (p : Path) : Nat → List Path
  | 0 => [p]
  | depth + 1 =>
    match p.parent? with
    | none => [p]
    | some q => p :: ancestors q depth

/-- Creates the first of the directories, after the ones around it where they are missing. What was
created before a failure stays. -/
def makeAll (fs : FileSystem) : List Path → FileSystem × Option FileError
  | [] => (fs, none)
  | p :: around =>
    let orFound (fs : FileSystem) (reason : FileError) :=
      if fs.isDirectory p then (fs, none) else (fs, some reason)
    if p.text.isEmpty then (fs, none)
    else
      match fs.makeDirectory p with
      | .ok fs => (fs, none)
      | .error (.os .notFound) =>
        match fs.makeAll around with
        | (fs, some reason) => (fs, some reason)
        | (fs, none) =>
          match fs.makeDirectory p with
          | .ok fs => (fs, none)
          | .error reason => orFound fs reason
      | .error reason => orFound fs reason

/-- Creates a directory and the directories around it where they are missing. -/
def makeDirectories (fs : FileSystem) (p : Path) : FileSystem × Option FileError :=
  fs.makeAll (ancestors p p.components.length)

/-- The text files at and below the working directory that `before` does not hold or holds with
other contents, with their paths, in the order of the paths. -/
def changesSince (fs before : FileSystem) : List (Path × String) :=
  let changed := fs.entries.filterMap fun (l, e) =>
    match l.anchor, e, before.lookup l with
    | .above 0, .file contents, some (.file old) =>
      if contents.data = old.data then none else (String.fromUTF8? contents).map (l.path, ·)
    | .above 0, .file contents, _ => (String.fromUTF8? contents).map (l.path, ·)
    | _, _, _ => none
  changed.mergeSort fun a b => !decide (b.1.text < a.1.text)

end FileSystem

end DemoBuild
