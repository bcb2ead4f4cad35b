/-!
The files that a run can see.

A file system says what stands at a path and where a file can be made. `Directory` holds one in
memory, with the rules of paths: `.` stays, `..` goes up, and a slash needs a directory before it. Paths
and names have a largest size.
-/

namespace BracketToken

inductive FileEntry
  | file (bytes : ByteArray)
  | directory
  /-- A file that may not be read. -/
  | locked

structure FileSystem where
  entry? : String → Option FileEntry
  /-- Whether a file can be made at a path, or emptied if it is there. -/
  canCreate : String → Bool

/-- A path puts `part` under `base`; an empty base adds nothing, and a slash is not doubled. -/
def joinPath (base part : String) : String :=
  if base.isEmpty || base.toList.getLast? = some '/' then base ++ part else base ++ "/" ++ part

/-- The names on the way from a root to a file or directory. -/
abbrev Location := List String

/-- Files and directories in memory, by location. -/
structure Directory where
  files : List (Location × ByteArray)
  directories : List Location

namespace Directory

/-- Whether a location is a directory: listed, or on the way to something that is. -/
def isDirectory (d : Directory) (l : Location) : Bool :=
  l.isEmpty || d.directories.any (l.isPrefixOf ·) ||
    d.files.any fun f => l.isPrefixOf f.1 && l.length < f.1.length

def entryAt? (d : Directory) (l : Location) : Option FileEntry :=
  match d.files.lookup l with
  | some bytes => some (.file bytes)
  | none => if d.isDirectory l then some .directory else none

/-- Where a path can lead: to a location, or to a directory above the root. -/
inductive Place
  | inside (location : Location)
  | above
  deriving DecidableEq

/-- Follows the parts of a path. Above the root there are only directories on the way up. -/
def follow (d : Directory) : Place → List String → Option Place
  | place, [] => some place
  | .above, part :: rest =>
    if part = "" || part = "." || part = ".." then d.follow .above rest else none
  | .inside here, part :: rest =>
    if !d.isDirectory here then none
    else if part = "" || part = "." then d.follow (.inside here) rest
    else if part = ".." then
      if here.isEmpty then d.follow .above rest else d.follow (.inside here.dropLast) rest
    else
      let next := here ++ [part]
      if (d.entryAt? next).isSome then d.follow (.inside next) rest else none

def pathParts (path : String) : List String :=
  (path.toList.splitOn '/').map String.ofList

/-- Where a path starts: above the root if it starts with a slash. -/
def startOf (path : String) : Place :=
  if path.toList.head? = some '/' then .above else .inside []

def maxPathSize : Nat := 4095

def maxNameSize : Nat := 255

def isPath (path : String) : Bool :=
  !path.isEmpty && path.utf8ByteSize ≤ maxPathSize && path.toList.all (· ≠ '\x00')

def locate? (d : Directory) (path : String) : Option Place :=
  if isPath path then d.follow (startOf path) (pathParts path) else none

def entryIn? (d : Directory) : Place → Option FileEntry
  | .inside l => d.entryAt? l
  | .above => some .directory

def isFileName (name : String) : Bool :=
  name ≠ "" && name ≠ "." && name ≠ ".." && name.utf8ByteSize ≤ maxNameSize

/-- The location of the file that is made at a path, if it can be made. -/
def creation? (d : Directory) (path : String) : Option Location :=
  let parts := pathParts path
  let name := parts.getLastD ""
  if !(isPath path && isFileName name) then none
  else
    match d.follow (startOf path) parts.dropLast with
    | some (.inside parent) =>
      let target := parent ++ [name]
      if d.isDirectory parent && !d.isDirectory target then some target else none
    | _ => none

def fileSystem (d : Directory) : FileSystem where
  entry? path := (d.locate? path).bind d.entryIn?
  canCreate path := (d.creation? path).isSome

end Directory

end BracketToken
