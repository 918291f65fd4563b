set_option autoImplicit false

/-!
The files that a command line can name. A path is followed part by part, from the root if it starts
with a slash and from the current folder otherwise; empty parts and single dots do not count, two
dots lead to the enclosing folder, and the root encloses itself. A part can only be looked up in a
folder, and not at all if it is too long.

Of the system around the current folder only what every system has is known: some folders at its
root, one of them for temporary files, where the current folder lies, and the null device.
-/

namespace Accumulator.CommandLine

inductive Target
  | missing
  | folder
  | file (content : String)
  /-- The path, or a part of it that is looked up, is too long. -/
  | unreachable
  deriving DecidableEq, Repr

def pathParts (path : String) : List String :=
  (path.splitOn "/").filter fun part => part != "" && part != "."

/-- The slashes that mark a path from the root. Two stand for themselves, more for one. -/
def rootSlashes (path : String) : Nat :=
  match (path.toList.takeWhile (· == '/')).length with
  | 0 => 0
  | 2 => 2
  | _ => 1

def partLimit : Nat := 255

def pathLimit : Nat := 4095

def isLong (part : String) : Bool :=
  partLimit < part.utf8ByteSize

/-- Whether what is left of a path without the parts that do not count is too long. -/
def isLongPath (path : String) : Bool :=
  pathLimit < rootSlashes path + ("/".intercalate (pathParts path)).utf8ByteSize

abbrev Place := List String

/-- The place of the current folder. Its own name is not known; no path has an empty name in it. -/
def currentPlace : Place :=
  ["tmp", ""]

def systemFolders : List Place :=
  [["dev"], ["etc"], ["proc"], ["tmp"], ["usr"], ["var"]]

def nullDevice : Place :=
  ["dev", "null"]

/-- Files by their paths, relative to the current folder. Of two files with one path the later one
is there. -/
abbrev Folder := List (String × String)

namespace Folder

def files (folder : Folder) : List (Place × String) :=
  (nullDevice, "") :: folder.map fun (path, content) => (currentPlace ++ pathParts path, content)

def hasFolder (folder : Folder) (place : Place) : Bool :=
  place.isPrefixOf currentPlace || systemFolders.contains place ||
    folder.files.any fun (file, _) => place.isPrefixOf file

def targetAt (folder : Folder) (place : Place) : Target :=
  match folder.files.reverse.lookup place with
  | some content => .file content
  | none => if folder.hasFolder place then .folder else .missing

/-- Follows parts from a place, whose names are listed from the innermost outwards. -/
def follow (folder : Folder) : Place → List String → Target
  | inner, [] => folder.targetAt inner.reverse
  | inner, part :: rest =>
    if folder.targetAt inner.reverse ≠ .folder then .missing
    else if part = ".." then folder.follow inner.tail rest
    else if isLong part then .unreachable
    else folder.follow (part :: inner) rest

/-- Looks a path up. A path with a null character leads nowhere. -/
def find (folder : Folder) (path : String) : Target :=
  let start := if rootSlashes path = 0 then currentPlace else []
  if path.contains '\x00' then .missing
  else if isLongPath path then .unreachable
  else folder.follow start.reverse (pathParts path)

end Folder

end Accumulator.CommandLine
