import SparkLog.Failure
import SparkLog.Keyed
import SparkLog.Text.Split

/-!
# Paths and files

Reports are written to a disk: directories, and files with their text. A path is a list of names,
from the working directory or from the root; empty names and names for the same directory count
for nothing, and two dots stand for the directory above. Paths that lead to the same place differ
in their texts alone.
-/

namespace SparkLog

/-- A path of names, from the root if it is absolute. -/
structure FilePath where
  absolute : Bool
  names : List String
  deriving DecidableEq

namespace FilePath

/-- The path that a text names. -/
def ofText (text : String) : FilePath :=
  { absolute := text.toList.head? == some '/'
    names := ((Text.pieces '/' text.toList).map String.ofList).filter fun name =>
      name != "" && name != "." }

/-- The text of a path. -/
def text (path : FilePath) : String :=
  if path.absolute then "/" ++ "/".intercalate path.names
  else if path.names.isEmpty then "."
  else "/".intercalate path.names

/-- What a text names when it is read from a path: something below it, unless it starts at the
root. -/
def below (path : FilePath) (text : String) : FilePath :=
  let other := ofText text
  if other.absolute then other else { path with names := path.names ++ other.names }

/-- The directory that a path stands in. -/
def parent (path : FilePath) : FilePath :=
  { path with names := path.names.dropLast }

/-- The directories on the way to a path, itself included. -/
def prefixes (path : FilePath) : List FilePath :=
  (List.range (path.names.length + 1)).map fun n => { path with names := path.names.take n }

/-- The names to a place, innermost first, after one more name: two dots take the last name back,
or lead above the start. -/
def enter (absolute : Bool) (kept : List String) (name : String) : List String :=
  if name = ".." then
    match kept with
    | [] => if absolute then [] else [name]
    | last :: outer => if last = ".." then name :: kept else outer
  else name :: kept

/-- The place that a path leads to, as a path that goes back nowhere but at its start. -/
def place (path : FilePath) : FilePath :=
  { path with names := (path.names.foldl (enter path.absolute) []).reverse }

/-- Whether a path leads to the working directory, the root or a directory above. -/
def isStart (path : FilePath) : Bool :=
  path.place.names.all (· == "..")

/-- Whether a path leads to somewhere below the working directory. -/
def isInside (path : FilePath) : Bool :=
  !path.absolute && path.place.names.head? != some ".."

end FilePath

/-- Directories, and files with their text, by place. The working directory, the root and the
directories above are always there. -/
structure Disk where
  directories : List FilePath
  files : Keyed FilePath String

namespace Disk

/-- A disk without anything. -/
def empty : Disk := ⟨[], .empty⟩

/-- Whether a path leads to a directory. -/
def isDirectory (disk : Disk) (path : FilePath) : Bool :=
  path.isStart || disk.directories.contains path.place

/-- Whether a path leads to a file. -/
def isFile (disk : Disk) (path : FilePath) : Bool :=
  disk.files.has path.place

/-- Whether a file stands on the way to a path. -/
def isBlocked (disk : Disk) (path : FilePath) : Bool :=
  path.parent.prefixes.any disk.isFile

/-- Whether all on the way to a path are directories. -/
def isReachable (disk : Disk) (path : FilePath) : Bool :=
  path.parent.prefixes.all disk.isDirectory

/-- A disk with the directories on the way to a path, and the path itself as one. -/
def withDirectories (disk : Disk) (path : FilePath) : Disk :=
  { disk with directories := disk.directories ++ path.prefixes.map .place }

/-- A disk with a text in a file. -/
def withFile (disk : Disk) (path : FilePath) (text : String) : Disk :=
  { disk with files := disk.files.insert path.place text }

/-- A disk of files. -/
def ofFiles (files : List (String × String)) : Disk :=
  files.foldl
    (fun disk (name, text) =>
      let path := FilePath.ofText name
      (disk.withDirectories path.parent).withFile path text)
    empty

/-- Make a directory and those on the way to it; it may be there already. -/
def makeDirectory (disk : Disk) (path : FilePath) : Except Failure Disk :=
  if disk.isBlocked path then .error (.notADirectory path.text)
  else if disk.isFile path then .error (.fileExists path.text)
  else .ok (disk.withDirectories path)

/-- Write a file, in the place of an earlier one. -/
def write (disk : Disk) (path : FilePath) (text : String) : Except Failure Disk :=
  if disk.isBlocked path then .error (.notADirectory path.text)
  else if !disk.isReachable path then .error (.noSuchFile path.text)
  else if disk.isDirectory path then .error (.isADirectory path.text)
  else .ok (disk.withFile path text)

/-- The text of a file, by a name as it is given. A name that ends in a slash names a directory. -/
def read (disk : Disk) (name : String) : Except Failure String :=
  let path := FilePath.ofText name
  let slashed := name.toList.getLast? == some '/'
  if name = "" then .error (.noSuchFile name)
  else if disk.isBlocked path || (slashed && disk.isFile path) then .error (.notADirectory name)
  else if !disk.isReachable path then .error (.noSuchFile name)
  else if disk.isDirectory path then .error (.isADirectory name)
  else
    match disk.files.find? path.place with
    | some text => .ok text
    | none => .error (.noSuchFile name)

/-- The files below the working directory, by path. -/
def contents (disk : Disk) : List (String × String) :=
  let inside := disk.files.entries.filter fun entry => entry.1.isInside
  (inside.map fun (path, text) => (path.text, text)).mergeSort fun a b => decide (a.1 ≤ b.1)

end Disk

end SparkLog
